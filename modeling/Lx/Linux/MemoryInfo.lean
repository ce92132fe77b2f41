import Lx.Linux.ProcFsRecords
import Lx.Linux.SystemMetricsParser

/-!
# Memory figures

`/proc/meminfo` has lines with a unit, such as `MemTotal: 16384 kB`, and lines without, such
as `HugePages_Total: 0`. `parseMemoryInfo` takes three words at a time: behind a line
without unit the third word is the key of the next line, and the rest of that line is
discarded with it.

## Layers

- Texts made of such lines (§1).
- The entries that are extracted from a text, line by line: `readLines` are the lines that
  are read, the others are swallowed by the line before them (§2).
- Which lines are swallowed (§3), and what that makes of the two figures (§4).
-/

namespace Lx.ProcFs

open Tokens

/-! ## §1 Texts of lines -/

/-- `key: number` or `key: number kB`. -/
structure MeminfoLine where
  key : Bytes
  gap : Blanks
  number : Numeral
  /-- What stands before `kB`, if the line has this unit. -/
  unit : Option Blanks
  key_word : ∀ c ∈ key, Bytes.isSpace c = false

namespace MeminfoLine

variable (line : MeminfoLine)

/-- The key with its colon. -/
def label : Bytes := line.key ++ [58]

/-- The unit, where there is one. -/
def unitText : Bytes :=
  match line.unit with
  | none => []
  | some gap => gap.val ++ Bytes.ofString "kB"

/-- What stands behind the key. -/
def value : Bytes := line.gap.val ++ (line.number.digits ++ line.unitText)

def text : Bytes := line.label ++ line.value

end MeminfoLine

/-- The text has these lines; the last one may lack its newline. -/
inductive Renders : List MeminfoLine → Bytes → Prop where
  | nil : Renders [] []
  | last (line : MeminfoLine) : Renders [line] line.text
  | cons (line : MeminfoLine) {lines : List MeminfoLine} {input : Bytes} (rest : Renders lines input) :
      Renders (line :: lines) (line.text ++ 10 :: input)

section Lines

/-- A line end is a blank among others. -/
theorem newline_blank : ∀ c ∈ ([10] : Bytes), Bytes.isSpace c = true :=
  List.forall_mem_singleton.mpr (by decide)

variable (line : MeminfoLine)

theorem MeminfoLine.unitText_eq_nil (hunit : line.unit.isSome = false) : line.unitText = [] := by
  have hnone : line.unit = none := Option.isNone_iff_eq_none.mp (Option.isSome_eq_false_iff.mp hunit)
  rw [MeminfoLine.unitText, hnone]

theorem isWord_label : IsWord Bytes.isSpace line.label := by
  refine ⟨by simp [MeminfoLine.label], fun c hc => ?_⟩
  rcases List.mem_append.mp hc with hc | hc
  · exact line.key_word c hc
  · rw [List.mem_singleton.mp hc]
    decide

theorem notMem_value : 10 ∉ line.value := by
  have hdigits : 10 ∉ line.number.digits := line.number.notMem_of_not_isDigit (by decide)
  have hunit : 10 ∉ line.unitText := by
    unfold MeminfoLine.unitText
    split
    · exact List.not_mem_nil
    · rename_i gap hgap'
      have hkb : 10 ∉ Bytes.ofString "kB" := by decide
      simp [newline_notMem_blanks gap, hkb]
  simp [MeminfoLine.value, newline_notMem_blanks, hdigits, hunit]

/-! ## §2 Which lines are read -/

variable {line}

/-- Key and number come from the line, the unit from whatever follows. -/
theorem extractEntry_text {before rest : Bytes} (hbefore : ∀ c ∈ before, Bytes.isSpace c = true)
    (hrest : (line.unitText ++ rest).takeWhile (!Bytes.isSpace ·) = []) :
    extractEntry (before ++ (line.text ++ rest)) =
      (extract Bytes.isSpace (line.unitText ++ rest)).map fun unit =>
        (⟨line.label, line.number.digits, unit.1⟩, unit.2) := by
  have htext : line.text ++ rest =
      line.label ++ (line.gap.val ++ (line.number.digits ++ (line.unitText ++ rest))) := by
    simp [MeminfoLine.text, MeminfoLine.value]
  have hgap := isGap_blanks line.gap
  rw [extractEntry, htext, extract_append hbefore (isWord_label line) (takeWhile_gap hgap _)]
  dsimp only [Option.bind_eq_bind, Option.bind_some]
  rw [extract_append hgap.2 (isWord_digits line.number) hrest, Option.bind_some]
  cases extract Bytes.isSpace (line.unitText ++ rest) <;> rfl

/-- A line with its unit is an entry of its own. -/
theorem extractEntry_unit {before rest : Bytes} (hbefore : ∀ c ∈ before, Bytes.isSpace c = true)
    (hunit : line.unit.isSome = true) (hrest : rest.takeWhile (!Bytes.isSpace ·) = []) :
    extractEntry (before ++ (line.text ++ rest)) =
      some (⟨line.label, line.number.digits, Bytes.ofString "kB"⟩, rest) := by
  obtain ⟨gap, hgap⟩ := Option.isSome_iff_exists.mp hunit
  have hword : IsWord Bytes.isSpace (Bytes.ofString "kB") := by decide
  have htext : line.unitText ++ rest = gap.val ++ (Bytes.ofString "kB" ++ rest) := by
    rw [MeminfoLine.unitText, hgap, List.append_assoc]
  rw [extractEntry_text hbefore (by rw [htext]; exact takeWhile_gap (isGap_blanks gap) _), htext,
    extract_append (isGap_blanks gap).2 hword hrest]
  rfl

/-- **A line without unit takes the key of the next line for it.** -/
theorem extractEntry_next {before rest : Bytes} (hbefore : ∀ c ∈ before, Bytes.isSpace c = true)
    (hunit : line.unit.isSome = false) (next : MeminfoLine) :
    extractEntry (before ++ (line.text ++ 10 :: (next.text ++ rest))) =
      some (⟨line.label, line.number.digits, next.label⟩, next.value ++ rest) := by
  have hnone := line.unitText_eq_nil hunit
  have hnext : (10 :: (next.text ++ rest) : Bytes) = [10] ++ (next.label ++ (next.value ++ rest)) := by
    simp [MeminfoLine.text]
  have hvalue : (next.value ++ rest).takeWhile (!Bytes.isSpace ·) = [] := by
    rw [MeminfoLine.value, List.append_assoc]
    exact takeWhile_gap (isGap_blanks next.gap) _
  rw [extractEntry_text hbefore (by rw [hnone]; rfl), hnone, List.nil_append, hnext,
    extract_append newline_blank (isWord_label next) hvalue]
  rfl

/-- At the end of the text it is no entry. -/
theorem extractEntry_end {before rest : Bytes} (hbefore : ∀ c ∈ before, Bytes.isSpace c = true)
    (hunit : line.unit.isSome = false) (hrest : ∀ c ∈ rest, Bytes.isSpace c = true) :
    extractEntry (before ++ (line.text ++ rest)) = none := by
  have hnone := line.unitText_eq_nil hunit
  have hword : (line.unitText ++ rest).takeWhile (!Bytes.isSpace ·) = [] := by
    rw [hnone, List.nil_append]
    cases rest with
    | nil => rfl
    | cons c rest =>
      rw [List.takeWhile_cons, hrest c List.mem_cons_self]
      rfl
  rw [extractEntry_text hbefore hword, hnone, List.nil_append, extract_eq_none hrest]
  rfl

end Lines

/-- The lines with a unit that are read. A line without swallows the one behind it. -/
def readLines : List MeminfoLine → List MeminfoLine
  | [] => []
  | [line] => if line.unit.isSome then [line] else []
  | line :: next :: rest =>
    if line.unit.isSome then line :: readLines (next :: rest) else readLines rest

/-- The effect of a line with a unit. -/
def addLine (state : MemoryState) (line : MeminfoLine) : Result MemoryState :=
  if isMemoryKey line.label then
    addEntry state ⟨line.label, line.number.digits, Bytes.ofString "kB"⟩
  else .ok state

/-- What is left behind the first line of a text, up to its newline. -/
theorem Renders.cases_cons {line : MeminfoLine} {lines : List MeminfoLine} {input : Bytes}
    (h : Renders (line :: lines) input) :
    (lines = [] ∧ input = line.text ++ []) ∨
      ∃ rest, Renders lines rest ∧ input = line.text ++ 10 :: rest := by
  cases h with
  | last => exact .inl ⟨rfl, (List.append_nil _).symm⟩
  | cons _ hrest => exact .inr ⟨_, hrest, rfl⟩

/-- One entry, and the loop goes on behind it. -/
theorem readEntries_of_extractEntry {input rest : Bytes} {entry : MemoryEntry} {state : MemoryState}
    (h : extractEntry input = some (entry, rest)) :
    readEntries input state =
      if isMemoryKey entry.key then do
        let state ← addEntry state entry
        readEntries rest state
      else readEntries (discardLine 10 rest) state := by
  rw [readEntries]
  split
  · rename_i hnone
    rw [h] at hnone
    cases hnone
  · rename_i entry' rest' hsome
    rw [h] at hsome
    cases hsome
    split
    · cases addEntry state entry <;> rfl
    · rfl

theorem readEntries_of_none {input : Bytes} {state : MemoryState} (h : extractEntry input = none) :
    readEntries input state = .ok state := by
  rw [readEntries]
  split
  · rfl
  · rename_i hsome
    rw [h] at hsome
    cases hsome

theorem extractEntry_blank {input : Bytes} (h : ∀ c ∈ input, Bytes.isSpace c = true) :
    extractEntry input = none := by
  rw [extractEntry, extract_eq_none h]
  rfl

/-- A line with a unit is read for itself, and what follows it is read as `rest` says, whether
    or not the newline has been taken off. -/
theorem readEntries_unit {line : MeminfoLine} {before input : Bytes} {state : MemoryState}
    {rest : MemoryState → Result MemoryState} (hunit : line.unit.isSome = true)
    (hbefore : ∀ c ∈ before, Bytes.isSpace c = true) (htail : input.takeWhile (!Bytes.isSpace ·) = [])
    (hrest : ∀ state, readEntries input state = rest state)
    (hdiscard : ∀ state, readEntries (discardLine 10 input) state = rest state) :
    readEntries (before ++ (line.text ++ input)) state = addLine state line >>= rest := by
  rw [readEntries_of_extractEntry (extractEntry_unit hbefore hunit htail), addLine]
  by_cases hkey : isMemoryKey line.label = true
  · rw [if_pos hkey, if_pos hkey]
    congr 1
    funext state
    exact hrest state
  · rw [if_neg hkey, if_neg hkey]
    exact hdiscard state

/-- A line without unit is not read, and neither is the one behind it. -/
theorem readEntries_next {line next : MeminfoLine} {before input : Bytes} {state : MemoryState}
    (hunit : line.unit.isSome = false) (hkey : isMemoryKey line.label = false)
    (hbefore : ∀ c ∈ before, Bytes.isSpace c = true) :
    readEntries (before ++ (line.text ++ 10 :: (next.text ++ input))) state =
      readEntries (discardLine 10 (next.value ++ input)) state := by
  rw [readEntries_of_extractEntry (extractEntry_next hbefore hunit next), hkey,
    if_neg Bool.false_ne_true]

/-- **The loop reads the lines that are not swallowed.** -/
theorem readEntries_lines {lines : List MeminfoLine} {before input : Bytes} {state : MemoryState}
    (hrenders : Renders lines input) (hbefore : ∀ c ∈ before, Bytes.isSpace c = true)
    (hunits : ∀ line ∈ lines, isMemoryKey line.label = true → line.unit.isSome = true) :
    readEntries (before ++ input) state = (readLines lines).foldlM addLine state := by
  -- by the lines as `readLines` takes them, one or two at a time
  fun_induction readLines lines generalizing before input state with
  | case1 =>
    cases hrenders
    rw [List.append_nil]
    exact readEntries_of_none (extractEntry_blank hbefore)
  | case2 line hunit =>
    rw [List.foldlM_cons]
    have hend : ∀ state, readEntries [] state = .ok state := fun state =>
      readEntries_of_none (extractEntry_blank (by simp))
    rcases hrenders.cases_cons with ⟨-, rfl⟩ | ⟨rest, hrest, rfl⟩
    · exact readEntries_unit hunit hbefore rfl hend hend
    · cases hrest
      refine readEntries_unit hunit hbefore rfl (fun state => ?_) fun state => ?_
      · exact readEntries_of_none (extractEntry_blank newline_blank)
      · have hdiscard : discardLine 10 ([10] : Bytes) = [] := discardLine_append List.not_mem_nil []
        rw [hdiscard]
        exact hend state
  | case3 line hunit =>
    have hnone : line.unit.isSome = false := by simpa using hunit
    refine readEntries_of_none ?_
    rcases hrenders.cases_cons with ⟨-, rfl⟩ | ⟨rest, hrest, rfl⟩
    · exact extractEntry_end hbefore hnone (by simp)
    · cases hrest
      exact extractEntry_end hbefore hnone newline_blank
  | case4 line next rest hunit ih =>
    have hrestUnits := fun other hother => hunits other (List.mem_cons_of_mem line hother)
    rw [List.foldlM_cons]
    rcases hrenders.cases_cons with ⟨hnil, -⟩ | ⟨input', hinput', rfl⟩
    · cases hnil
    · refine readEntries_unit hunit hbefore rfl (fun state => ?_) fun state => ?_
      · have hrest : readEntries ([10] ++ input') state =
            (readLines (next :: rest)).foldlM addLine state :=
          ih hinput' newline_blank hrestUnits
        exact hrest
      · have hdiscard : discardLine 10 (10 :: input') = [] ++ input' :=
          discardLine_append List.not_mem_nil input'
        rw [hdiscard]
        exact ih hinput' (by simp) hrestUnits
  | case5 line next rest hunit ih =>
    have hnone : line.unit.isSome = false := by simpa using hunit
    have hkey : isMemoryKey line.label = false := by
      rw [← Bool.not_eq_true]
      intro hkey
      exact hunit (hunits line List.mem_cons_self hkey)
    have hrestUnits := fun other hother => hunits other
      (List.mem_cons_of_mem line (List.mem_cons_of_mem next hother))
    rcases hrenders.cases_cons with ⟨hnil, -⟩ | ⟨input', hinput', rfl⟩
    · cases hnil
    · rcases hinput'.cases_cons with ⟨rfl, rfl⟩ | ⟨input'', hinput'', rfl⟩
      · rw [readEntries_next hnone hkey hbefore, List.append_nil,
          discardLine_eq_nil (notMem_value next)]
        have hrest : readEntries ([] ++ []) state = _ := ih .nil (by simp) hrestUnits
        exact hrest
      · rw [readEntries_next hnone hkey hbefore, discardLine_append (notMem_value next)]
        have hrest : readEntries ([] ++ input'') state = _ := ih hinput'' (by simp) hrestUnits
        exact hrest

/-! ## §3 Which lines are swallowed -/

/-- How many lines without unit these lines end with. -/
def unitlessRun (lines : List MeminfoLine) : Nat :=
  (lines.reverse.takeWhile fun line => !line.unit.isSome).length

section Swallowed

variable {line next : MeminfoLine} {rest : List MeminfoLine}

theorem readLines_cons_unit (hunit : line.unit.isSome = true) :
    readLines (line :: rest) = line :: readLines rest := by
  cases rest <;> simp [readLines, hunit]

theorem readLines_cons_cons (hunit : line.unit.isSome = false) :
    readLines (line :: next :: rest) = readLines rest := by
  simp [readLines, hunit]

/-- Such a run does not reach beyond a line with a unit. -/
theorem unitlessRun_cons_unit (hunit : line.unit.isSome = true) :
    unitlessRun (line :: rest) = unitlessRun rest := by
  unfold unitlessRun
  rw [List.reverse_cons, List.takeWhile_append]
  split
  · rename_i hfull
    rw [List.takeWhile_cons, hunit, List.length_append, hfull]
    rfl
  · rfl

/-- It reaches over both of two lines it reaches the first of, or over none. -/
theorem unitlessRun_cons_cons (hunit : line.unit.isSome = false) :
    unitlessRun (line :: next :: rest) % 2 = unitlessRun rest % 2 := by
  unfold unitlessRun
  rw [List.reverse_cons, List.reverse_cons, List.append_assoc, List.takeWhile_append]
  split
  · rename_i hfull
    rw [List.length_append, hfull, List.cons_append, List.takeWhile_cons, List.nil_append,
      List.takeWhile_cons, hunit]
    cases next.unit.isSome with
    | true => rfl
    | false => exact Nat.add_mod_right _ 2
  · rfl

/-- **A line with a unit is read exactly behind an even number of lines without.** -/
theorem readLines_append (hunit : line.unit.isSome = true) (before after : List MeminfoLine) :
    readLines (before ++ line :: after) = readLines before ++
      if unitlessRun before % 2 = 0 then line :: readLines after else readLines after := by
  fun_induction readLines before with
  | case1 =>
    rw [List.nil_append, readLines_cons_unit hunit, List.nil_append]
    rfl
  | case2 other hother =>
    rw [List.cons_append, readLines_cons_unit hother, List.nil_append, readLines_cons_unit hunit,
      unitlessRun_cons_unit hother]
    rfl
  | case3 other hother =>
    -- the line is swallowed
    have hnone : other.unit.isSome = false := by simpa using hother
    have hrun : unitlessRun [other] = 1 := by
      rw [unitlessRun, List.reverse_singleton, List.takeWhile_cons, hnone]
      rfl
    rw [List.cons_append, List.nil_append, readLines_cons_cons hnone, hrun]
    rfl
  | case4 other next rest hother ih =>
    rw [List.cons_append, readLines_cons_unit hother, ih, unitlessRun_cons_unit hother]
    rfl
  | case5 other next rest hother ih =>
    have hnone : other.unit.isSome = false := by simpa using hother
    rw [List.cons_append, List.cons_append, readLines_cons_cons hnone, ih,
      unitlessRun_cons_cons hnone]

theorem mem_of_mem_readLines {lines : List MeminfoLine} (h : line ∈ readLines lines) : line ∈ lines := by
  fun_induction readLines lines with
  | case1 | case3 => cases h
  | case2 => exact h
  | case4 other next rest _ ih =>
    rcases List.mem_cons.mp h with rfl | h
    · exact List.mem_cons_self
    · exact List.mem_cons_of_mem _ (ih h)
  | case5 other next rest _ ih => exact List.mem_cons_of_mem _ (List.mem_cons_of_mem _ (ih h))

/-- How many lines without unit stand directly before the first line with this key. -/
def unitlessBefore (key : Bytes) (lines : List MeminfoLine) : Nat :=
  unitlessRun (lines.takeWhile fun line => line.key ≠ key)

/-- A line with this key is read. -/
def isRead (key : Bytes) (lines : List MeminfoLine) : Bool :=
  (readLines lines).any fun line => line.key = key

/-- Whether the only line with a key is read. -/
theorem isRead_iff {key : Bytes} {lines : List MeminfoLine} (hunit : line.unit.isSome = true)
    (honly : (lines.filter fun line => line.key = key) = [line]) :
    isRead key lines = true ↔ unitlessBefore key lines % 2 = 0 := by
  obtain ⟨before, after, rfl, hbefore, hkey, hafter⟩ := List.filter_eq_cons_iff.mp honly
  have hkey : line.key = key := of_decide_eq_true hkey
  have hothers : ∀ others : List MeminfoLine, (∀ other ∈ others, ¬ decide (other.key = key) = true) →
      ((readLines others).any fun other => other.key = key) = false := by
    intro others hothers
    rw [List.any_eq_false]
    exact fun other hother => hothers other (mem_of_mem_readLines hother)
  have htake : (before ++ line :: after).takeWhile (fun line => line.key ≠ key) = before := by
    rw [List.takeWhile_append_of_pos fun other hother => by simpa using hbefore other hother,
      List.takeWhile_cons, if_neg (by simp [hkey]), List.append_nil]
  unfold isRead unitlessBefore
  rw [htake, readLines_append hunit, List.any_append, hothers before hbefore, Bool.false_or]
  split
  · rename_i heven
    simp [heven, hkey]
  · rename_i hodd
    rw [hothers after (List.filter_eq_nil_iff.mp hafter)]
    simp [hodd]

end Swallowed

/-! ## §4 The figures -/

def memTotal : Bytes := "MemTotal"

def memAvailable : Bytes := "MemAvailable"

theorem memTotal_ne_memAvailable : memTotal ≠ memAvailable := by decide

section Figures

variable {line : MeminfoLine} {state : MemoryState}

/-- A label is a key with its colon. -/
theorem label_eq_iff {key label : Bytes} (hlabel : label = key ++ [58]) :
    line.label = label ↔ line.key = key := by
  rw [hlabel, MeminfoLine.label, List.append_left_inj]

theorem label_total_iff : line.label = Bytes.ofString "MemTotal:" ↔ line.key = memTotal :=
  label_eq_iff (by decide)

theorem label_available_iff :
    line.label = Bytes.ofString "MemAvailable:" ↔ line.key = memAvailable :=
  label_eq_iff (by decide)

theorem isMemoryKey_iff :
    isMemoryKey line.label = true ↔ line.key = memTotal ∨ line.key = memAvailable := by
  rw [isMemoryKey, Bool.or_eq_true, beq_iff_eq, beq_iff_eq, label_total_iff, label_available_iff]

/-- The figure of a line within range is taken over. -/
theorem addEntry_line (h : line.number.value < 2 ^ 54) :
    addEntry state ⟨line.label, line.number.digits, Bytes.ofString "kB"⟩ =
      if line.label = Bytes.ofString "MemTotal:" then
        .ok { state with
          result := { state.result with totalBytes := line.number.value * 1024 }, hasTotal := true }
      else
        .ok { state with
          result := { state.result with availableBytes := line.number.value * 1024 }
          hasAvailable := true } := by
  unfold addEntry
  dsimp only
  rw [if_neg (not_not_intro rfl), Bytes.fromChars_of_lt line.number.reads (by omega)]
  dsimp only
  rw [if_neg (by omega)]

theorem addLine_total (hkey : line.key = memTotal) (h : line.number.value < 2 ^ 54) :
    addLine state line = .ok { state with
      result := { state.result with totalBytes := line.number.value * 1024 }, hasTotal := true } := by
  rw [addLine, if_pos (isMemoryKey_iff.mpr (.inl hkey)), addEntry_line h,
    if_pos (label_total_iff.mpr hkey)]

theorem addLine_available (hkey : line.key = memAvailable) (h : line.number.value < 2 ^ 54) :
    addLine state line = .ok { state with
      result := { state.result with availableBytes := line.number.value * 1024 }
      hasAvailable := true } := by
  have hne : line.key ≠ memTotal := hkey.trans_ne memTotal_ne_memAvailable.symm
  rw [addLine, if_pos (isMemoryKey_iff.mpr (.inr hkey)), addEntry_line h,
    if_neg (mt label_total_iff.mp hne)]

theorem addLine_other (htotal : line.key ≠ memTotal) (havailable : line.key ≠ memAvailable) :
    addLine state line = .ok state := by
  rw [addLine, if_neg]
  intro hkey
  rcases isMemoryKey_iff.mp hkey with h | h
  · exact htotal h
  · exact havailable h

/-- What lines whose figures agree add up to, in whatever order they are read. -/
theorem foldlM_addLine {lines : List MeminfoLine} {total available : Nat}
    (htotal : ∀ line ∈ lines, line.key = memTotal → line.number.value = total)
    (havailable : ∀ line ∈ lines, line.key = memAvailable → line.number.value = available)
    (htotal_lt : total < 2 ^ 54) (havailable_lt : available < 2 ^ 54) :
    lines.foldlM addLine state = .ok
      { result :=
          { totalBytes := if lines.any (fun line => line.key = memTotal) then total * 1024
              else state.result.totalBytes
            availableBytes := if lines.any (fun line => line.key = memAvailable) then
              available * 1024 else state.result.availableBytes }
        hasTotal := state.hasTotal || lines.any fun line => line.key = memTotal
        hasAvailable := state.hasAvailable || lines.any fun line => line.key = memAvailable } := by
  induction lines generalizing state with
  | nil =>
    rw [List.foldlM_nil]
    simp
    rfl
  | cons line lines ih =>
    have hrest := fun state => @ih state
      (fun other hother => htotal other (List.mem_cons_of_mem _ hother))
      (fun other hother => havailable other (List.mem_cons_of_mem _ hother))
    rw [List.foldlM_cons]
    by_cases hkey : line.key = memTotal
    · have hvalue := htotal line List.mem_cons_self hkey
      rw [addLine_total hkey (by omega), hvalue]
      refine (hrest _).trans ?_
      simp [hkey, memTotal_ne_memAvailable]
    · by_cases hkey' : line.key = memAvailable
      · have hvalue := havailable line List.mem_cons_self hkey'
        rw [addLine_available hkey' (by omega), hvalue]
        refine (hrest _).trans ?_
        simp [hkey', memTotal_ne_memAvailable.symm]
      · rw [addLine_other hkey hkey']
        refine (hrest _).trans ?_
        simp [hkey, hkey']

/-- A line with the key of an only line is that line. -/
theorem eq_of_only {key : Bytes} {only : MeminfoLine} {lines : List MeminfoLine}
    (honly : (lines.filter fun line => line.key = key) = [only]) (h : line ∈ lines)
    (hkey : line.key = key) : line = only := by
  have hmem : line ∈ lines.filter fun line => line.key = key :=
    List.mem_filter.mpr ⟨h, decide_eq_true hkey⟩
  rw [honly] at hmem
  exact List.mem_singleton.mp hmem

end Figures

/-- A text of lines with one line for either figure, in `kB` and within range. -/
structure MemoryFile where
  lines : List MeminfoLine
  contents : Bytes
  renders : Renders lines contents
  total : MeminfoLine
  available : MeminfoLine
  total_only : (lines.filter fun line => line.key = memTotal) = [total]
  available_only : (lines.filter fun line => line.key = memAvailable) = [available]
  total_unit : total.unit.isSome = true
  available_unit : available.unit.isSome = true
  total_lt : total.number.value < 2 ^ 54
  available_lt : available.number.value < 2 ^ 54
  available_le : available.number.value ≤ total.number.value

namespace MemoryFile

variable (file : MemoryFile)

/-- What the file says, in bytes. -/
def figures : MemoryRecord := ⟨file.total.number.value * 1024, file.available.number.value * 1024⟩

/-- The two figures are returned if both of their lines are read. -/
theorem parseMemoryInfo_eq_iff :
    parseMemoryInfo file.contents = .ok file.figures ↔
      isRead memTotal file.lines = true ∧ isRead memAvailable file.lines = true := by
  have hunits : ∀ line ∈ file.lines, isMemoryKey line.label = true → line.unit.isSome = true := by
    intro line hline hkey
    rcases isMemoryKey_iff.mp hkey with hkey | hkey
    · rw [eq_of_only file.total_only hline hkey]
      exact file.total_unit
    · rw [eq_of_only file.available_only hline hkey]
      exact file.available_unit
  have hentries : readEntries ([] ++ file.contents) {} = (readLines file.lines).foldlM addLine {} :=
    readEntries_lines file.renders (by simp) hunits
  have hstate : (readLines file.lines).foldlM addLine {} = .ok
      { result :=
          { totalBytes := if isRead memTotal file.lines then file.figures.totalBytes else 0
            availableBytes := if isRead memAvailable file.lines then file.figures.availableBytes
              else 0 }
        hasTotal := isRead memTotal file.lines
        hasAvailable := isRead memAvailable file.lines } :=
    foldlM_addLine
      (fun line hline hkey => by rw [eq_of_only file.total_only (mem_of_mem_readLines hline) hkey])
      (fun line hline hkey => by rw [eq_of_only file.available_only (mem_of_mem_readLines hline) hkey])
      file.total_lt file.available_lt
  have hle : ¬ file.figures.totalBytes < file.figures.availableBytes :=
    Nat.not_lt.mpr (Nat.mul_le_mul_right 1024 file.available_le)
  rw [List.nil_append] at hentries
  rw [parseMemoryInfo, hentries, hstate]
  change (if _ then _ else _ : Result MemoryRecord) = _ ↔ _
  -- a line that is not read is missed
  cases isRead memTotal file.lines with
  | false => exact iff_of_false (fun h => by cases h) (fun h => by cases h.1)
  | true =>
    cases isRead memAvailable file.lines with
    | false => exact iff_of_false (fun h => by cases h) (fun h => by cases h.2)
    | true =>
      refine iff_of_true ?_ ⟨rfl, rfl⟩
      rw [if_neg (by simpa using hle)]
      rfl

end MemoryFile

/-- **When the memory figures are right**: if directly before the line of the total, and
    directly before the line of what is available, an even number of lines without unit
    stands. An odd number of them makes the line be skipped. -/
theorem memory_figures_iff (file : MemoryFile) :
    parseMemoryInfo file.contents = .ok file.figures ↔
      unitlessBefore memTotal file.lines % 2 = 0 ∧ unitlessBefore memAvailable file.lines % 2 = 0 := by
  rw [file.parseMemoryInfo_eq_iff, isRead_iff file.total_unit file.total_only,
    isRead_iff file.available_unit file.available_only]

/-! ## §5 A line that is skipped -/

/-- `HugePages_Total: 0` -/
def hugePages : MeminfoLine where
  key := "HugePages_Total"
  gap := blank
  number := Numeral.ofNat 0
  unit := none
  key_word := (by decide : IsWord Bytes.isSpace (Bytes.ofString "HugePages_Total")).2

/-- `MemTotal: 2 kB` -/
def totalLine : MeminfoLine where
  key := memTotal
  gap := blank
  number := Numeral.ofNat 2
  unit := some blank
  key_word := (by decide : IsWord Bytes.isSpace memTotal).2

/-- `MemAvailable: 1 kB` -/
def availableLine : MeminfoLine where
  key := memAvailable
  gap := blank
  number := Numeral.ofNat 1
  unit := some blank
  key_word := (by decide : IsWord Bytes.isSpace memAvailable).2

theorem renders_shifted : Renders [hugePages, totalLine, availableLine]
    "HugePages_Total: 0\nMemTotal: 2 kB\nMemAvailable: 1 kB\n" := by
  have htext : Bytes.ofString "HugePages_Total: 0\nMemTotal: 2 kB\nMemAvailable: 1 kB\n" =
      hugePages.text ++ 10 :: (totalLine.text ++ 10 :: (availableLine.text ++ [10])) := by decide
  rw [htext]
  exact .cons hugePages (.cons totalLine (.cons availableLine .nil))

/-- The figures behind a line without unit. -/
def shiftedFile : MemoryFile where
  lines := [hugePages, totalLine, availableLine]
  contents := "HugePages_Total: 0\nMemTotal: 2 kB\nMemAvailable: 1 kB\n"
  renders := renders_shifted
  total := totalLine
  available := availableLine
  total_only := by rfl
  available_only := by rfl
  total_unit := rfl
  available_unit := rfl
  total_lt := by decide
  available_lt := by decide
  available_le := by decide

/-- **A line without unit hides the total.** -/
theorem memory_figures_lost : parseMemoryInfo shiftedFile.contents ≠ .ok ⟨2048, 1024⟩ := by
  intro h
  have hread := (shiftedFile.parseMemoryInfo_eq_iff.mp h).1
  revert hread
  decide

end Lx.ProcFs
