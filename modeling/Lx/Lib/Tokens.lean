import Mathlib.Data.List.TakeWhile

/-!
# Token streams

A stream is what is left of a text. Extraction skips blanks and takes the word behind
them, as `operator>>` into a string does; it knows nothing of lines. Reading to the end of
a line is an operation of its own, and the two mix: a word may come from any line.

## Main notions

- `extract blank input` — the next word, and what is left behind it
- `discardLine newline input` — what is left behind the end of the line
- `words blank input` — all words that are left
- `IsWord blank w`, `IsGap blank g` — words, and the blanks between them
-/

namespace Tokens

variable {α : Type} (blank : α → Bool)

/-! ## §1 Extraction -/

/-- `input >> word`: the next word with the rest of the stream, or nothing at its end. -/
def extract (input : List α) : Option (List α × List α) :=
  match input.dropWhile blank with
  | [] => none
  | c :: rest => some ((c :: rest).takeWhile (!blank ·), (c :: rest).dropWhile (!blank ·))

/-- `std::getline` whose line is thrown away. -/
def discardLine [DecidableEq α] (newline : α) (input : List α) : List α :=
  (input.dropWhile (· ≠ newline)).tail

/-- A word: something, and no blank in it. -/
def IsWord (w : List α) : Prop := w ≠ [] ∧ ∀ c ∈ w, blank c = false

/-- Something that ends a word. -/
def IsGap (g : List α) : Prop := g ≠ [] ∧ ∀ c ∈ g, blank c = true

instance instDecidableIsWord (w : List α) : Decidable (IsWord blank w) :=
  decidable_of_iff (w.isEmpty = false ∧ w.all (!blank ·) = true) (by simp [IsWord])

variable {blank}

/-- A word is taken off whole, behind any number of blanks. -/
theorem extract_append {gap word rest : List α} (hgap : ∀ c ∈ gap, blank c = true)
    (hword : IsWord blank word) (hrest : rest.takeWhile (!blank ·) = []) :
    extract blank (gap ++ (word ++ rest)) = some (word, rest) := by
  obtain ⟨c, tail, rfl⟩ := List.exists_cons_of_ne_nil hword.1
  have hskip : (gap ++ (c :: tail ++ rest)).dropWhile blank = c :: tail ++ rest := by
    rw [List.dropWhile_append_of_pos hgap, List.cons_append, List.dropWhile_cons,
      hword.2 c List.mem_cons_self, if_neg Bool.false_ne_true]
  have hletters : ∀ d ∈ c :: tail, (!blank d) = true := by
    intro d hd
    rw [hword.2 d hd]
    rfl
  -- the rest starts with a blank, or is empty
  have hdrop : rest.dropWhile (!blank ·) = rest := by
    have hsplit := List.takeWhile_append_dropWhile (p := (!blank ·)) (l := rest)
    rwa [hrest, List.nil_append] at hsplit
  unfold extract
  rw [hskip, List.cons_append]
  dsimp only
  rw [← List.cons_append, List.takeWhile_append_of_pos hletters,
    List.dropWhile_append_of_pos hletters, hrest, hdrop, List.append_nil]

/-- Blanks alone hold no word. -/
theorem extract_eq_none {gap : List α} (h : ∀ c ∈ gap, blank c = true) : extract blank gap = none := by
  have hskip : gap.dropWhile blank = [] := List.dropWhile_eq_nil_iff.mpr h
  rw [extract, hskip]

/-- A gap ends the word before it. -/
theorem takeWhile_gap {gap : List α} (h : IsGap blank gap) (rest : List α) :
    (gap ++ rest).takeWhile (!blank ·) = [] := by
  obtain ⟨c, tail, rfl⟩ := List.exists_cons_of_ne_nil h.1
  rw [List.cons_append, List.takeWhile_cons, h.2 c List.mem_cons_self]
  rfl

/-- Every extraction takes something off the stream. -/
theorem length_lt_of_extract {input word rest : List α} (h : extract blank input = some (word, rest)) :
    rest.length < input.length := by
  unfold extract at h
  split at h
  · cases h
  · rename_i c tail hskip
    obtain ⟨-, rfl⟩ := Prod.mk.inj (Option.some.inj h)
    have hc : blank c = false := by
      have hhead := List.head?_dropWhile_not blank input
      rw [hskip] at hhead
      simpa using hhead
    have htail : (c :: tail).dropWhile (!blank ·) = tail.dropWhile (!blank ·) := by
      rw [List.dropWhile_cons, hc]
      rfl
    have hlength := (List.dropWhile_suffix (l := input) blank).length_le
    have hrest := (List.dropWhile_suffix (l := tail) (!blank ·)).length_le
    rw [hskip, List.length_cons] at hlength
    rw [htail]
    omega

/-! ## §2 Lines -/

section Lines

variable [DecidableEq α] {newline : α}

theorem ne_newline_of_mem {line : List α} (h : newline ∉ line) :
    ∀ c ∈ line, decide (c ≠ newline) = true := by
  intro c hc
  rw [decide_eq_true_eq]
  rintro rfl
  exact h hc

theorem discardLine_append {line : List α} (h : newline ∉ line) (rest : List α) :
    discardLine newline (line ++ newline :: rest) = rest := by
  rw [discardLine, List.dropWhile_append_of_pos (ne_newline_of_mem h)]
  simp

/-- The last line may lack its end. -/
theorem discardLine_eq_nil {line : List α} (h : newline ∉ line) : discardLine newline line = [] := by
  have hline : line.dropWhile (fun c => decide (c ≠ newline)) = [] :=
    List.dropWhile_eq_nil_iff.mpr (ne_newline_of_mem h)
  rw [discardLine, hline, List.tail_nil]

theorem length_discardLine_le (input : List α) : (discardLine newline input).length ≤ input.length := by
  rw [discardLine, List.length_tail]
  have := (List.dropWhile_suffix (l := input) fun c => decide (c ≠ newline)).length_le
  omega

end Lines

/-! ## §3 All words -/

variable (blank)

/-- `while (input >> word)`: all words to the end of the stream. -/
def words (input : List α) : List (List α) :=
  match _h : extract blank input with
  | none => []
  | some (word, rest) => word :: words rest
termination_by input.length
decreasing_by exact length_lt_of_extract _h

variable {blank}

theorem words_nil : words blank [] = [] := by
  rw [words]
  rfl

theorem words_append {gap word rest : List α} (hgap : ∀ c ∈ gap, blank c = true)
    (hword : IsWord blank word) (hrest : rest.takeWhile (!blank ·) = []) :
    words blank (gap ++ (word ++ rest)) = word :: words blank rest := by
  rw [words]
  split
  · rename_i hnone
    rw [extract_append hgap hword hrest] at hnone
    cases hnone
  · rename_i word' rest' hsome
    rw [extract_append hgap hword hrest] at hsome
    cases hsome
    rfl

/-- Fields with a gap before each start with a gap. -/
theorem takeWhile_flatMap {fields : List (List α × List α)}
    (h : ∀ field ∈ fields, IsGap blank field.1) :
    (fields.flatMap fun field => field.1 ++ field.2).takeWhile (!blank ·) = [] := by
  cases fields with
  | nil => rfl
  | cons field fields =>
    rw [List.flatMap_cons, List.append_assoc]
    exact takeWhile_gap (h field List.mem_cons_self) _

/-- Words with a gap before each are read back. -/
theorem words_flatMap {fields : List (List α × List α)}
    (h : ∀ field ∈ fields, IsGap blank field.1 ∧ IsWord blank field.2) :
    words blank (fields.flatMap fun field => field.1 ++ field.2) = fields.map Prod.snd := by
  induction fields with
  | nil => exact words_nil
  | cons field fields ih =>
    obtain ⟨hgap, hword⟩ := h field List.mem_cons_self
    have hfields : ∀ field ∈ fields, IsGap blank field.1 ∧ IsWord blank field.2 :=
      fun field hfield => h field (List.mem_cons_of_mem _ hfield)
    -- the word ends where the next field starts
    have hrest := takeWhile_flatMap fun field hfield => (hfields field hfield).1
    rw [List.flatMap_cons, List.append_assoc, words_append hgap.2 hword hrest, ih hfields,
      List.map_cons]

end Tokens
