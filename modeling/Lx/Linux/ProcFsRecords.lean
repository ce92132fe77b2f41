import Lx.Lib.Tokens
import Lx.Linux.ProcFsParsers
import Mathlib.Data.List.Induction

/-!
# Records of procfs

What the parsers of `ProcFsParsers` make of the records the kernel writes. The name of a
command stands unescaped between the numbers of a stat record, and on a line of its own
in a status record, and whoever runs the command chooses it.

## Layers

- Numbers in decimal digits, and the blanks between them (§1).
- Stat records: the first `(` and the last `") "` enclose the name whatever it contains
  (§2), so the fields after it are read at their places (§3).
- Status records: every line is read for itself (§4), and the line of the name is read
  for nothing (§5).
- Command lines: the arguments are what stands between the NULs (§6).
-/

namespace Lx.ProcFs

/-! ## §1 Numerals -/

/-- A number in decimal digits; leading zeros are allowed. -/
structure Numeral where
  digits : Bytes
  value : Nat
  reads : Bytes.decimal digits = some value

/-- A field of a record: a number that may have a minus sign. -/
structure SignedNumeral where
  negative : Bool := false
  magnitude : Numeral

def SignedNumeral.text (number : SignedNumeral) : Bytes :=
  if number.negative then 45 :: number.magnitude.digits else number.magnitude.digits

namespace Numeral

/-- Every number has its numeral. -/
def ofNat (n : Nat) : Numeral := ⟨Bytes.ofNat n, n, Bytes.decimal_ofNat n⟩

variable (number : Numeral)

theorem digits_ne_nil : number.digits ≠ [] := by
  intro h
  have hreads := number.reads
  rw [h] at hreads
  cases hreads

/-- Everything between `0` and `9`. -/
theorem isDigit_of_mem {c : UInt8} (h : c ∈ number.digits) : Bytes.isDigit c = true := by
  have hreads := number.reads
  unfold Bytes.decimal at hreads
  -- a text with another character is no numeral
  split at hreads
  · rename_i hdigits
    exact List.all_eq_true.mp hdigits.2 c h
  · cases hreads

theorem notMem_of_not_isDigit {c : UInt8} (h : Bytes.isDigit c = false) : c ∉ number.digits := by
  intro hmem
  rw [number.isDigit_of_mem hmem] at h
  cases h

/-- A numeral within range is read as a PID. -/
theorem parsePid_digits (h : number.value < 2 ^ 31) :
    parsePid number.digits = some (number.value : Int) := by
  unfold parsePid
  split
  · -- no digit is a minus sign
    rename_i digits hdigits
    have hminus : (45 : UInt8) ∈ number.digits := by simp [hdigits]
    exact absurd hminus (number.notMem_of_not_isDigit (by decide))
  · rw [Bytes.fromChars_of_lt number.reads h]
    rfl

end Numeral

theorem SignedNumeral.text_ne_nil (number : SignedNumeral) : number.text ≠ [] := by
  unfold SignedNumeral.text
  split
  · simp
  · exact number.magnitude.digits_ne_nil

/-- The characters of a field are digits and the minus sign. -/
theorem SignedNumeral.notMem_text (number : SignedNumeral) {c : UInt8}
    (h : Bytes.isDigit c = false) (hminus : c ≠ 45) : c ∉ number.text := by
  unfold SignedNumeral.text
  have hdigits := number.magnitude.notMem_of_not_isDigit h
  split
  · simp [hdigits, hminus]
  · exact hdigits

/-- Blanks within a line. -/
abbrev Blanks := { gap : Bytes // gap ≠ [] ∧ ∀ c ∈ gap, Bytes.isSpace c = true ∧ c ≠ 10 }

def blank : Blanks :=
  ⟨[32], List.cons_ne_nil _ _, List.forall_mem_singleton.mpr (by decide)⟩

/-- Digits are no blanks. -/
theorem isWord_digits (number : Numeral) : Tokens.IsWord Bytes.isSpace number.digits := by
  refine ⟨number.digits_ne_nil, fun c hc => ?_⟩
  have hdigit := number.isDigit_of_mem hc
  simp only [Bytes.isDigit, Bool.and_eq_true, decide_eq_true_eq, UInt8.le_iff_toNat_le] at hdigit
  have hlow : 48 ≤ c.toNat := hdigit.1
  rw [← Bool.not_eq_true]
  intro hspace
  simp only [Bytes.isSpace, Bool.or_eq_true, Bool.and_eq_true, decide_eq_true_eq, beq_iff_eq,
    UInt8.le_iff_toNat_le] at hspace
  rcases hspace with rfl | ⟨-, hhigh⟩
  · exact absurd hlow (by decide)
  · have hthirteen : c.toNat ≤ 13 := hhigh
    omega

theorem newline_notMem_blanks (gap : Blanks) : 10 ∉ gap.val := by
  intro hmem
  exact (gap.property.2 10 hmem).2 rfl

theorem isGap_blanks (gap : Blanks) : Tokens.IsGap Bytes.isSpace gap.val :=
  ⟨gap.property.1, fun c hc => (gap.property.2 c hc).1⟩

/-! ## §2 Where the name of a stat record ends -/

/-- The search from the end finds the last index with the property. -/
theorem find?_reverse_range {p : Nat → Bool} {n k : Nat} (hk : k < n) (hp : p k = true)
    (hlast : ∀ i, k < i → i < n → p i = false) :
    (List.range n).reverse.find? p = some k := by
  induction n with
  | zero => omega
  | succ n ih =>
    rw [List.range_succ, List.reverse_append, List.reverse_singleton, List.singleton_append,
      List.find?_cons]
    -- the last index is looked at first
    by_cases hn : k = n
    · subst hn
      rw [hp]
    · rw [hlast n (by omega) (by omega)]
      exact ih (by omega) fun i hi hin => hlast i hi (by omega)

/-- The last `") "` of a text is the one behind which no `)` comes. -/
theorem rfindClose_append (before after : Bytes) (h : 41 ∉ after) :
    rfindClose (before ++ 41 :: 32 :: after) = some before.length := by
  apply find?_reverse_range
  · simp
  · have hdrop : (before ++ 41 :: 32 :: after).drop before.length = 41 :: 32 :: after := by simp
    rw [hdrop]
    rfl
  · intro i hi _
    -- what is left after a later index starts behind the parenthesis
    have hdrop : (before ++ 41 :: 32 :: after).drop i =
        (32 :: after).drop (i - before.length - 1) := by
      obtain ⟨j, rfl⟩ := Nat.exists_eq_add_of_lt hi
      rw [List.drop_append, List.drop_eq_nil_of_le (by omega), List.nil_append]
      have hsub : before.length + j + 1 - before.length = j + 1 := by omega
      rw [hsub, List.drop_succ_cons]
      rfl
    rw [hdrop]
    cases hrest : (32 :: after).drop (i - before.length - 1) with
    | nil => rfl
    | cons c rest =>
      have hmem : c ∈ 32 :: after := List.mem_of_mem_drop (hrest ▸ List.mem_cons_self)
      have hne : c ≠ 41 := by
        rintro rfl
        rcases List.mem_cons.mp hmem with heq | hmem
        · cases heq
        · exact h hmem
      -- the first character already differs
      have hchar : ((41 : UInt8) == c) = false := by simpa using hne.symm
      change (List.isPrefixOf [41, 32] (c :: rest)) = false
      rw [List.isPrefixOf_cons_cons, hchar, Bool.false_and]

/-- The first occurrence of a character that the text before it lacks. -/
theorem findIdx?_first {c : UInt8} {before : Bytes} (h : c ∉ before) (after : Bytes) :
    (before ++ c :: after).findIdx? (· == c) = some before.length := by
  induction before with
  | nil => simp [List.findIdx?_cons]
  | cons b before ih =>
    have hne : b ≠ c := fun heq => h (by simp [heq])
    have hb : (b == c) = false := by simpa using hne
    rw [List.cons_append, List.findIdx?_cons, hb, if_neg Bool.false_ne_true,
      ih (fun hmem => h (List.mem_cons_of_mem b hmem))]
    simp

/-! ## §3 Stat records -/

/-- A stat record. The state is a letter; all that matters is that it is no parenthesis. -/
structure StatLine where
  pid : Numeral
  comm : Bytes
  state : UInt8
  ppid : Numeral
  /-- The fields from the fifth on. -/
  tail : List SignedNumeral
  pid_lt : pid.value < 2 ^ 31
  ppid_lt : ppid.value < 2 ^ 31
  state_ne : state ≠ 41

namespace StatLine

/-- What stands behind the parent's PID: the other fields, and the end of the line. -/
def rest (line : StatLine) : Bytes := [32].intercalate (line.tail.map SignedNumeral.text) ++ [10]

/-- `pid (comm) state ppid tail` and a newline. -/
def text (line : StatLine) : Bytes :=
  line.pid.digits ++ Bytes.ofString " (" ++ line.comm ++ Bytes.ofString ") " ++ [line.state] ++
    Bytes.ofString " " ++ line.ppid.digits ++ Bytes.ofString " " ++ line.rest

/-- The field with this number in the kernel's counting, from the fifth on. -/
def field (line : StatLine) (number : Nat) : Option SignedNumeral := line.tail[number - 5]?

variable (line : StatLine)

/-- Everything up to the parenthesis that closes the name. -/
def front : Bytes := line.pid.digits ++ 32 :: 40 :: line.comm

/-- Everything from the state on. -/
def back : Bytes := line.state :: 32 :: (line.ppid.digits ++ 32 :: line.rest)

theorem text_eq : line.text = line.front ++ 41 :: 32 :: line.back := by
  have hopen : Bytes.ofString " (" = [32, 40] := by decide
  have hclose : Bytes.ofString ") " = [41, 32] := by decide
  have hblank : Bytes.ofString " " = [32] := by decide
  simp [text, front, back, hopen, hclose, hblank]

theorem length_front : line.front.length = line.pid.digits.length + line.comm.length + 2 := by
  simp [front]
  omega

/-- No character behind the parent's PID closes a parenthesis. -/
theorem notMem_rest : 41 ∉ line.rest := by
  have hjoined : ∀ fields : List SignedNumeral,
      41 ∉ ([32] : Bytes).intercalate (fields.map SignedNumeral.text) := by
    intro fields
    -- by the field in front; a blank joins it to the next
    induction fields with
    | nil => simp
    | cons field fields ih =>
      have hfield : 41 ∉ field.text := field.notMem_text (by decide) (by decide)
      cases fields with
      | nil => simpa using hfield
      | cons => simpa [List.intercalate_cons_cons, hfield] using ih
  simp [rest, hjoined]

theorem notMem_back : 41 ∉ line.back := by
  have hppid : 41 ∉ line.ppid.digits := line.ppid.notMem_of_not_isDigit (by decide)
  simp [back, hppid, line.notMem_rest, line.state_ne.symm]

theorem rfindClose_text : rfindClose line.text = some line.front.length := by
  rw [text_eq]
  exact rfindClose_append line.front line.back line.notMem_back

/-- **The name is enclosed whatever it contains.** -/
theorem nameBounds_text :
    nameBounds line.text = some (line.pid.digits.length + 1, line.front.length) := by
  -- before the name there are only digits and a blank
  have hopening : line.text.findIdx? (· == 40) = some (line.pid.digits.length + 1) := by
    have hfirst : 40 ∉ line.pid.digits ++ [32] := by
      simp [line.pid.notMem_of_not_isDigit (c := 40) (by decide)]
    have htext : line.text = (line.pid.digits ++ [32]) ++ 40 :: (line.comm ++ 41 :: 32 :: line.back) := by
      simp [text_eq, front]
    rw [htext, findIdx?_first hfirst]
    simp
  have hlength : line.front.length + 4 ≤ line.text.length := by
    rw [text_eq]
    simp [back]
  have hfront := line.length_front
  unfold nameBounds
  rw [hopening, line.rfindClose_text]
  dsimp only
  rw [if_neg (by omega)]

theorem take_text : line.text.take (line.pid.digits.length + 1) = line.pid.digits ++ [32] := by
  have htext : line.text = (line.pid.digits ++ [32]) ++ 40 :: (line.comm ++ 41 :: 32 :: line.back) := by
    simp [text_eq, front]
  rw [htext]
  exact List.take_left' (by simp)

theorem drop_text : line.text.drop (line.front.length + 4) =
    line.ppid.digits ++ 32 :: line.rest := by
  have htext : line.text = (line.front ++ [41, 32, line.state, 32]) ++
      (line.ppid.digits ++ 32 :: line.rest) := by
    simp [text_eq, back]
  rw [htext]
  exact List.drop_left' (by simp)

/-- The blanks between the PID and the name are dropped. -/
theorem dropTrailingBlanks_pid :
    dropTrailingBlanks (line.pid.digits ++ [32]) = line.pid.digits := by
  unfold dropTrailingBlanks
  have hhead : line.pid.digits.reverse.dropWhile (· == 32) = line.pid.digits.reverse := by
    -- the last digit is the first one met from the end
    cases hdigits : line.pid.digits.reverse with
    | nil => rfl
    | cons c digits =>
      have hmem : c ∈ line.pid.digits := List.mem_reverse.mp (by simp [hdigits])
      have hne : c ≠ 32 := by
        rintro rfl
        exact line.pid.notMem_of_not_isDigit (by decide) hmem
      apply List.dropWhile_cons_of_neg
      simpa using hne
  rw [List.reverse_append, List.reverse_singleton, List.singleton_append,
    List.dropWhile_cons_of_pos (by rfl), hhead, List.reverse_reverse]

/-- The parent's PID ends at the next blank. -/
theorem findFrom_text : findFrom 32 line.text (line.front.length + 4) =
    some (line.front.length + 4 + line.ppid.digits.length) := by
  have hppid : 32 ∉ line.ppid.digits := line.ppid.notMem_of_not_isDigit (by decide)
  rw [findFrom, drop_text, findIdx?_first hppid, Option.map_some]

/-- **A stat record is read back, whatever the name of the command is.** -/
theorem parseStat_text :
    parseStat line.text = .ok ⟨line.pid.value, line.comm, line.state, line.ppid.value⟩ := by
  -- the name is what stands between the two bounds
  have hname : Bytes.field line.text (line.pid.digits.length + 1 + 1)
      (line.front.length - (line.pid.digits.length + 1) - 1) = line.comm := by
    have htext : line.text = (line.pid.digits ++ [32, 40]) ++
        (line.comm ++ 41 :: 32 :: line.back) := by
      simp [text_eq, front]
    have hlength : line.front.length - (line.pid.digits.length + 1) - 1 = line.comm.length := by
      rw [length_front]
      omega
    rw [htext, Bytes.field_append_right (by simp), hlength]
    simp [Bytes.field]
  have hstate : line.text.getD (line.front.length + 2) 0 = line.state := by
    simp [text_eq, back, List.getD_eq_getElem?_getD]
  have hppid : Bytes.field line.text (line.front.length + 4)
      (line.front.length + 4 + line.ppid.digits.length - (line.front.length + 4)) =
        line.ppid.digits := by
    rw [Bytes.field, drop_text, Nat.add_sub_cancel_left]
    exact List.take_left' rfl
  unfold parseStat
  -- each part is cut out by the bounds and read by its own parser
  rw [nameBounds_text]
  dsimp only
  rw [take_text, dropTrailingBlanks_pid, line.pid.parsePid_digits line.pid_lt, findFrom_text]
  dsimp only [Option.orElse, Option.getD]
  rw [hppid, line.ppid.parsePid_digits line.ppid_lt, hname, hstate]

/-! The fields behind the name. -/

theorem fieldsOf_append {c : UInt8} (h : isFieldBlank c = true) (before after : Bytes) :
    fieldsOf (before ++ c :: after) = fieldsOf before ++ fieldsOf after := by
  rw [fieldsOf, List.splitOnP_append_cons before after h, List.filter_append]
  rfl

/-- A text without blanks is one field. -/
theorem fieldsOf_singleton {text : Bytes} (hne : text ≠ [])
    (h : ∀ c ∈ text, isFieldBlank c = false) : fieldsOf text = [text] := by
  rw [fieldsOf, List.splitOnP_eq_singleton h]
  simp [hne]

/-- Digits and minus signs are no blanks. -/
theorem not_isFieldBlank_of_mem {number : SignedNumeral} {c : UInt8} (h : c ∈ number.text) :
    isFieldBlank c = false := by
  rw [Bool.eq_false_iff]
  intro hblank
  simp only [isFieldBlank, Bool.or_eq_true, beq_iff_eq, or_assoc] at hblank
  rcases hblank with rfl | rfl | rfl | rfl <;>
    exact number.notMem_text (by decide) (by decide) h

theorem fieldsOf_text (number : SignedNumeral) : fieldsOf number.text = [number.text] :=
  fieldsOf_singleton number.text_ne_nil fun _ h => not_isFieldBlank_of_mem h

/-- The fields joined by blanks come back one by one. -/
theorem fieldsOf_intercalate (fields : List SignedNumeral) :
    fieldsOf ([32].intercalate (fields.map SignedNumeral.text)) =
      fields.map SignedNumeral.text := by
  induction fields with
  | nil => rfl
  | cons field fields ih =>
    -- the last field has no blank behind it
    cases fields with
    | nil => simp [fieldsOf_text]
    | cons next fields =>
      simp only [List.map_cons, List.intercalate_cons_cons, List.append_assoc,
        List.singleton_append] at ih ⊢
      rw [fieldsOf_append (by decide), fieldsOf_text, ih]
      rfl

/-- The fields `parseProcessCpuStat` counts from are those from the parent's PID on. -/
theorem fieldsOf_back : fieldsOf (line.text.drop (line.front.length + 4)) =
    line.ppid.digits :: line.tail.map SignedNumeral.text := by
  have hppid : fieldsOf line.ppid.digits = [line.ppid.digits] := fieldsOf_text ⟨false, line.ppid⟩
  rw [drop_text, fieldsOf_append (by decide), hppid, rest, fieldsOf_append (by decide),
    fieldsOf_intercalate]
  simp [fieldsOf]

/-- A field of the kernel's counting, as it stands among the fields that are read. -/
theorem getD_fields {number : Nat} {value : Numeral} (hnumber : 5 ≤ number)
    (h : line.field number = some ⟨false, value⟩) :
    (line.ppid.digits :: line.tail.map SignedNumeral.text).getD (number - 4) [] = value.digits := by
  obtain ⟨i, rfl⟩ := Nat.exists_eq_add_of_le hnumber
  -- the kernel counts from one, and four fields come before these
  have hi : 5 + i - 4 = i + 1 := by omega
  have hfield : line.tail[i]? = some ⟨false, value⟩ := by simpa [field] using h
  rw [hi, List.getD_eq_getElem?_getD, List.getElem?_cons_succ, List.getElem?_map, hfield]
  rfl

end StatLine

/-- The counters fit into 64 bits, and so does the time on the CPU. -/
def CountersFit (utime stime start : Numeral) : Prop :=
  utime.value < 2 ^ 64 ∧ stime.value < 2 ^ 64 ∧ start.value < 2 ^ 64 ∧
    utime.value + stime.value < 2 ^ 64

/-- **No name shifts or forges a field.** -/
theorem stat_record_exact (line : StatLine) :
    parseStat line.text = .ok ⟨line.pid.value, line.comm, line.state, line.ppid.value⟩ ∧
      ∀ utime stime start : Numeral, line.field 14 = some ⟨false, utime⟩ →
        line.field 15 = some ⟨false, stime⟩ → line.field 22 = some ⟨false, start⟩ →
        (CountersFit utime stime start → parseProcessCpuStat line.text =
          .ok ⟨line.pid.value, start.value, utime.value + stime.value⟩) ∧
        (¬ CountersFit utime stime start →
          ∃ error, parseProcessCpuStat line.text = .error error) := by
  refine ⟨line.parseStat_text, fun utime stime start hutime hstime hstart => ?_⟩
  have hlength : ¬ (line.ppid.digits :: line.tail.map SignedNumeral.text).length ≤ 18 := by
    -- the record reaches the start time
    have hsome : 17 < line.tail.length := by
      obtain ⟨h, -⟩ := List.getElem?_eq_some_iff.mp hstart
      exact h
    simp
    omega
  unfold parseProcessCpuStat
  rw [line.parseStat_text, line.rfindClose_text]
  dsimp only [Option.getD]
  -- the fields are counted behind the last parenthesis
  rw [line.fieldsOf_back, if_neg hlength, line.getD_fields (by omega) hutime,
    line.getD_fields (by omega) hstime, line.getD_fields (by omega) hstart]
  constructor
  · rintro ⟨hu, hs, ht, hsum⟩
    rw [Bytes.fromChars_of_lt utime.reads hu, Bytes.fromChars_of_lt stime.reads hs,
      Bytes.fromChars_of_lt start.reads ht]
    dsimp only
    rw [if_neg (by omega)]
  · intro hunfit
    -- the first counter that does not fit decides
    by_cases hu : utime.value < 2 ^ 64
    · by_cases hs : stime.value < 2 ^ 64
      · by_cases ht : start.value < 2 ^ 64
        · have hsum : ¬ utime.value + stime.value < 2 ^ 64 := fun h => hunfit ⟨hu, hs, ht, h⟩
          rw [Bytes.fromChars_of_lt utime.reads hu, Bytes.fromChars_of_lt stime.reads hs,
            Bytes.fromChars_of_lt start.reads ht]
          dsimp only
          rw [if_pos (by omega)]
          exact ⟨_, rfl⟩
        · rw [Bytes.fromChars_of_lt utime.reads hu, Bytes.fromChars_of_lt stime.reads hs,
            Bytes.fromChars_of_ge start.reads ht]
          exact ⟨_, rfl⟩
      · rw [Bytes.fromChars_of_lt utime.reads hu, Bytes.fromChars_of_ge stime.reads hs]
        exact ⟨_, rfl⟩
    · rw [Bytes.fromChars_of_ge utime.reads hu]
      exact ⟨_, rfl⟩

/-- A command that calls itself `a) R 7 (b`, with as many fields as the kernel writes. -/
def forgedLine : StatLine where
  pid := .ofNat 42
  comm := Bytes.ofString "a) R 7 (b"
  state := 83
  ppid := .ofNat 1
  tail := ⟨true, .ofNat 1⟩ :: (List.range 48).map fun n => ⟨false, .ofNat n⟩
  pid_lt := by decide
  ppid_lt := by decide
  state_ne := by decide

theorem stat_record_exact_forged :
    parseProcessCpuStat forgedLine.text = .ok ⟨42, 16, 17⟩ := by
  have hfit : CountersFit (.ofNat 8) (.ofNat 9) (.ofNat 16) := by
    refine ⟨?_, ?_, ?_, ?_⟩ <;> decide
  exact ((stat_record_exact forgedLine).2 (.ofNat 8) (.ofNat 9) (.ofNat 16) rfl rfl rfl).1 hfit

/-! ## §4 Status records, line by line -/

/-- The keys `parseStatus` looks for. -/
inductive StatusKey where
  | uid
  | gid
  | threads
  | vmRss
  deriving DecidableEq, Repr

namespace StatusKey

def name : StatusKey → Bytes
  | uid => Bytes.ofString "Uid"
  | gid => Bytes.ofString "Gid"
  | threads => Bytes.ofString "Threads"
  | vmRss => Bytes.ofString "VmRSS"

/-- The number is in range: 32 bits, and for the memory, which is counted in KiB, 64 bits
    for the bytes. -/
def InRange : StatusKey → Nat → Prop
  -- the check of the source is a division: `kib > max / 1024`
  | vmRss, kib => kib * 1024 < 2 ^ 64
  | _, n => n < 2 ^ 32

instance : (key : StatusKey) → (n : Nat) → Decidable (key.InRange n)
  | vmRss, kib => inferInstanceAs (Decidable (kib * 1024 < 2 ^ 64))
  | uid, n | gid, n | threads, n => inferInstanceAs (Decidable (n < 2 ^ 32))

/-- The number a token stands for under a key, if it is one in range. -/
def number (key : StatusKey) (token : Bytes) : Option Nat :=
  (Bytes.decimal token).filter fun n => decide (key.InRange n)

variable {key : StatusKey} {token : Bytes} {n : Nat}

theorem number_of_inRange (h : Bytes.decimal token = some n) (hn : key.InRange n) :
    key.number token = some n := by
  rw [number, h, Option.filter_some, decide_eq_true hn, if_pos rfl]

theorem number_of_not_inRange (h : Bytes.decimal token = some n) (hn : ¬ key.InRange n) :
    key.number token = none := by
  rw [number, h, Option.filter_some, decide_eq_false hn, if_neg Bool.false_ne_true]

end StatusKey

/-- What a line with this key begins with. -/
def StatusKey.label (key : StatusKey) : Bytes := key.name ++ Bytes.ofString ":"

/-- The first of the words of a text; a carriage return ends a word, too. -/
def firstWord (text : Bytes) : Bytes :=
  ((text.dropWhile (· ∈ Bytes.ofString " \t")).splitOnP (· ∈ Bytes.ofString " \t\r")).headD []

/-- The first word behind a key, if a line has this key. -/
def tokenOf (key : StatusKey) (line : Bytes) : Option Bytes :=
  if key.label <+: line then some (firstWord (line.drop key.label.length)) else none

/-- The tokens of the lines with this key, first line first. -/
def tokens (key : StatusKey) (lines : List Bytes) : List Bytes := lines.filterMap (tokenOf key)

/-- The number on the last line with this key. -/
def lastNumber (key : StatusKey) (lines : List Bytes) : Option Nat :=
  (tokens key lines).getLast?.bind key.number

/-- The variables of `parseStatus` after these lines. -/
def summary (lines : List Bytes) : StatusState where
  record :=
    { uid := (lastNumber .uid lines).getD 0
      gid := (lastNumber .gid lines).getD 0
      threads := (lastNumber .threads lines).getD 0
      rssBytes := (lastNumber .vmRss lines).getD 0 * 1024 }
  hasUid := !(tokens .uid lines).isEmpty
  hasGid := !(tokens .gid lines).isEmpty
  hasThreads := !(tokens .threads lines).isEmpty

/-- Every line with one of the keys has a number in range. -/
def NumbersInRange (lines : List Bytes) : Prop :=
  ∀ key, ∀ token ∈ tokens key lines, (StatusKey.number key token).isSome = true

theorem tokens_append (key : StatusKey) (lines : List Bytes) (line : Bytes) :
    tokens key (lines ++ [line]) = tokens key lines ++ (tokenOf key line).toList := by
  cases h : tokenOf key line <;> simp [tokens, h]

/-- The first piece of a split text ends before the first separator. -/
theorem headD_splitOnP (p : UInt8 → Bool) (text : Bytes) :
    (text.splitOnP p).headD [] = text.takeWhile fun c => !p c := by
  induction text with
  | nil => rfl
  | cons c text ih =>
    rw [List.splitOnP_cons_eq_if_modifyHead]
    cases hc : p c with
    | true => simp [hc]
    | false =>
      obtain ⟨piece, pieces, hpieces⟩ := List.exists_cons_of_ne_nil (List.splitOnP_ne_nil p text)
      rw [hpieces] at ih ⊢
      simpa [hc] using ih

theorem firstToken_eq (text : Bytes) : firstToken text = firstWord text := by
  have hblank : ∀ c : UInt8, (c ∈ Bytes.ofString " \t") ↔ (c = 32 ∨ c = 9) := by
    have htext : Bytes.ofString " \t" = [32, 9] := by decide
    simp [htext]
  have hend : ∀ c : UInt8, (c ∈ Bytes.ofString " \t\r") ↔ (c = 32 ∨ c = 9 ∨ c = 13) := by
    have htext : Bytes.ofString " \t\r" = [32, 9, 13] := by decide
    simp [htext]
  rw [firstWord, headD_splitOnP]
  simp [firstToken, hblank, hend, Bool.and_assoc, Bool.beq_eq_decide_eq]

/-- A line has a key when its first colon stands behind it. -/
theorem label_prefix_iff {key : StatusKey} {text : Bytes} : key.label <+: text ↔
    ∃ colon, text.findIdx? (· == 58) = some colon ∧ text.take colon = key.name := by
  have hlabel : key.label = key.name ++ [58] := by cases key <;> decide
  have hname : (58 : UInt8) ∉ key.name := by cases key <;> decide
  rw [hlabel]
  constructor
  · rintro ⟨value, rfl⟩
    rw [List.append_assoc]
    exact ⟨_, findIdx?_first hname value, List.take_left' rfl⟩
  · rintro ⟨colon, hcolon, hkey⟩
    obtain ⟨hbound, hat, -⟩ := List.findIdx?_eq_some_iff_getElem.mp hcolon
    have hchar : text[colon] = 58 := by simpa using hat
    rw [← hkey, ← hchar, List.take_append_getElem hbound]
    exact List.take_prefix _ _

theorem tokenOf_some {key : StatusKey} {line token : Bytes} (h : tokenOf key line = some token) :
    ∃ colon, line.findIdx? (· == 58) = some colon ∧ line.take colon = key.name ∧
      firstToken (line.drop (colon + 1)) = token := by
  unfold tokenOf at h
  split_ifs at h with hlabel
  obtain ⟨colon, hcolon, hkey⟩ := label_prefix_iff.mp hlabel
  refine ⟨colon, hcolon, hkey, ?_⟩
  have hbound : colon < line.length := (List.findIdx?_eq_some_iff_getElem.mp hcolon).1
  have hlength : key.label.length = colon + 1 := by
    have hname : key.name.length = colon := by
      rw [← hkey, List.length_take]
      omega
    rw [← hname]
    cases key <;> rfl
  rw [firstToken_eq, ← hlength]
  exact Option.some.inj h

/-- A line has one key. -/
theorem tokenOf_eq_none {key key' : StatusKey} {line token : Bytes}
    (h : tokenOf key line = some token) (hne : key' ≠ key) : tokenOf key' line = none := by
  obtain ⟨colon, hcolon, hkey, -⟩ := tokenOf_some h
  rw [tokenOf, if_neg]
  intro hlabel
  obtain ⟨colon', hcolon', hkey'⟩ := label_prefix_iff.mp hlabel
  obtain rfl := Option.some.inj (hcolon.symm.trans hcolon')
  -- the names differ
  have hnames := hkey.symm.trans hkey'
  revert hne hnames
  cases key <;> cases key' <;> decide

/-- The effect of a line with a number in range. -/
def StatusState.set (state : StatusState) (n : Nat) : StatusKey → StatusState
  | .uid => { state with record := { state.record with uid := n }, hasUid := true }
  | .gid => { state with record := { state.record with gid := n }, hasGid := true }
  | .threads => { state with record := { state.record with threads := n }, hasThreads := true }
  | .vmRss => { state with record := { state.record with rssBytes := n * 1024 } }

/-- Lines with other keys, and lines without any, are skipped. -/
theorem parseStatusLine_skip {state : StatusState} {line : Bytes}
    (h : ∀ key, tokenOf key line = none) : parseStatusLine state line = .ok state := by
  unfold parseStatusLine
  cases hcolon : line.findIdx? (· == 58) with
  | none => rfl
  | some colon =>
    have hname : ∀ key : StatusKey, line.take colon ≠ key.name := by
      intro key hkey
      have hnone := h key
      rw [tokenOf, if_pos (label_prefix_iff.mpr ⟨colon, hcolon, hkey⟩)] at hnone
      cases hnone
    dsimp only
    rw [if_neg, if_neg, if_neg, if_neg]
    · exact hname .vmRss
    · exact hname .threads
    · exact hname .gid
    · exact hname .uid

/-- What `std::from_chars` accepts under the keys of 32 bits. -/
theorem number_eq_fromChars {key : StatusKey} (h : key ≠ .vmRss) (token : Bytes) :
    key.number token = Bytes.fromChars 32 token := by
  cases key with
  | vmRss => exact absurd rfl h
  | uid | gid | threads => rfl

/-- A line with one of the keys counts when its token is a number in range, and ends the
    parse otherwise. -/
theorem parseStatusLine_token {state : StatusState} {key : StatusKey} {line token : Bytes}
    (h : tokenOf key line = some token) :
    parseStatusLine state line = match key.number token with
      | none => statusFailure (Bytes.ofString "Invalid " ++ key.name ++ Bytes.ofString " field")
      | some n => .ok (state.set n key) := by
  obtain ⟨colon, hcolon, hkey, htoken⟩ := tokenOf_some h
  unfold parseStatusLine
  rw [hcolon]
  dsimp only
  rw [hkey, htoken]
  -- the keys are compared in the order of the source
  cases key with
  | uid =>
    rw [number_eq_fromChars (by decide), if_pos (by decide)]
    cases Bytes.fromChars 32 token <;> rfl
  | gid =>
    rw [number_eq_fromChars (by decide), if_neg (by decide), if_pos (by decide)]
    cases Bytes.fromChars 32 token <;> rfl
  | threads =>
    rw [number_eq_fromChars (by decide), if_neg (by decide), if_neg (by decide), if_pos (by decide)]
    cases Bytes.fromChars 32 token <;> rfl
  | vmRss =>
    rw [if_neg (by decide), if_neg (by decide), if_neg (by decide), if_pos (by decide)]
    cases hdecimal : Bytes.decimal token with
    | none =>
      have hchars : Bytes.fromChars 64 token = none := by rw [Bytes.fromChars, hdecimal]; rfl
      have hnumber : StatusKey.number .vmRss token = none := by
        rw [StatusKey.number, hdecimal]
        rfl
      rw [hchars, hnumber]
      rfl
    | some kib =>
      by_cases hfit : StatusKey.InRange .vmRss kib
      · have hbytes : kib * 1024 < 2 ^ 64 := hfit
        rw [StatusKey.number_of_inRange hdecimal hfit, Bytes.fromChars_of_lt hdecimal (by omega)]
        dsimp only
        rw [if_neg (by omega)]
        rfl
      · have hbytes : ¬ kib * 1024 < 2 ^ 64 := hfit
        rw [StatusKey.number_of_not_inRange hdecimal hfit]
        -- the KiB may fit where the bytes do not
        by_cases hkib : kib < 2 ^ 64
        · rw [Bytes.fromChars_of_lt hdecimal hkib]
          dsimp only
          rw [if_pos (by omega)]
          rfl
        · rw [Bytes.fromChars_of_ge hdecimal hkib]
          rfl

/-- A line without any of the keys leaves the variables as they are. -/
theorem summary_skip {lines : List Bytes} {line : Bytes} (h : ∀ key, tokenOf key line = none) :
    summary (lines ++ [line]) = summary lines := by
  simp [summary, lastNumber, tokens_append, h]

/-- A line with a key replaces the number of that key. -/
theorem summary_set {lines : List Bytes} {key : StatusKey} {line token : Bytes} {n : Nat}
    (h : tokenOf key line = some token) (hn : key.number token = some n) :
    summary (lines ++ [line]) = (summary lines).set n key := by
  have hother : ∀ key', key' ≠ key → tokenOf key' line = none := fun _ => tokenOf_eq_none h
  cases key with
  | uid | gid | threads | vmRss =>
    simp [summary, StatusState.set, lastNumber, tokens_append, h, hn, hother]

theorem numbersInRange_append {lines : List Bytes} {line : Bytes} :
    NumbersInRange (lines ++ [line]) ↔ NumbersInRange lines ∧
      ∀ key token, tokenOf key line = some token → (StatusKey.number key token).isSome = true := by
  constructor
  · intro h
    refine ⟨fun key token htoken => h key token ?_, fun key token htoken => h key token ?_⟩
    · rw [tokens_append]
      exact List.mem_append_left _ htoken
    · rw [tokens_append, htoken]
      exact List.mem_append_right _ (List.mem_singleton_self token)
  · rintro ⟨hlines, hline⟩ key token htoken
    rw [tokens_append, List.mem_append] at htoken
    rcases htoken with htoken | htoken
    · exact hlines key token htoken
    · exact hline key token (Option.mem_toList.mp htoken)

/-- One line, after the lines before it. -/
theorem parseStatusLine_summary {lines : List Bytes} {line : Bytes} {state : StatusState} :
    parseStatusLine (summary lines) line = .ok state ↔
      (∀ key token, tokenOf key line = some token → (StatusKey.number key token).isSome = true) ∧
        state = summary (lines ++ [line]) := by
  by_cases hskip : ∀ key, tokenOf key line = none
  · rw [parseStatusLine_skip hskip, summary_skip hskip, Except.ok.injEq, eq_comm]
    simp [hskip]
  · -- the line has one of the keys
    push Not at hskip
    obtain ⟨key, hkey⟩ := hskip
    obtain ⟨token, htoken⟩ := Option.ne_none_iff_exists'.mp hkey
    have hline : (∀ key token, tokenOf key line = some token →
        (StatusKey.number key token).isSome = true) ↔ (key.number token).isSome = true := by
      constructor
      · intro h
        exact h key token htoken
      · intro h key' token' htoken'
        by_cases hkeys : key' = key
        · subst hkeys
          obtain rfl := Option.some.inj (htoken.symm.trans htoken')
          exact h
        · rw [tokenOf_eq_none htoken hkeys] at htoken'
          cases htoken'
    rw [parseStatusLine_token htoken, hline]
    cases hn : key.number token with
    | none => simp [statusFailure]
    | some n =>
      rw [summary_set htoken hn, Option.isSome_some]
      dsimp only
      rw [Except.ok.injEq, eq_comm]
      simp

/-- **The loop over the lines.** It gets through exactly when every line can be read, and
    then its variables are the summary of the lines. -/
theorem foldlM_parseStatusLine {lines : List Bytes} {state : StatusState} :
    lines.foldlM parseStatusLine {} = .ok state ↔ NumbersInRange lines ∧ state = summary lines := by
  -- the last line is the one that counts, so the induction adds lines at the end
  induction lines using List.reverseRecOn generalizing state with
  | nil =>
    have hnumbers : NumbersInRange [] := fun _ _ h => absurd h List.not_mem_nil
    constructor
    · intro h
      exact ⟨hnumbers, (Except.ok.inj h).symm⟩
    · rintro ⟨-, rfl⟩
      rfl
  | append_singleton lines line ih =>
    rw [List.foldlM_append, numbersInRange_append, and_assoc, ← parseStatusLine_summary]
    cases hfold : lines.foldlM parseStatusLine {} with
    | error error =>
      constructor
      · intro h
        cases h
      · rintro ⟨hnumbers, -⟩
        -- readable lines do not end the loop
        rw [ih.mpr ⟨hnumbers, rfl⟩] at hfold
        cases hfold
    | ok before =>
      obtain ⟨hnumbers, rfl⟩ := ih.mp hfold
      have hlast : ([line].foldlM parseStatusLine (summary lines) : Result StatusState) =
          parseStatusLine (summary lines) line := by
        simp
      change [line].foldlM parseStatusLine (summary lines) = _ ↔ _
      rw [hlast]
      simp [hnumbers]

/-- `parseStatus` in terms of the lines. -/
theorem parseStatus_ok_iff {contents : Bytes} {lines : List Bytes} {record : StatusRecord}
    (hlines : contents.splitOn 10 = lines) :
    parseStatus contents = .ok record ↔ NumbersInRange lines ∧ tokens .uid lines ≠ [] ∧
      tokens .gid lines ≠ [] ∧ tokens .threads lines ≠ [] ∧ record = (summary lines).record := by
  unfold parseStatus
  rw [hlines]
  cases hfold : lines.foldlM parseStatusLine {} with
  | error error =>
    constructor
    · intro h
      cases h
    · rintro ⟨hnumbers, -⟩
      rw [foldlM_parseStatusLine.mpr ⟨hnumbers, rfl⟩] at hfold
      cases hfold
  | ok state =>
    obtain ⟨hnumbers, rfl⟩ := foldlM_parseStatusLine.mp hfold
    have hrequired : (!(summary lines).hasUid || !(summary lines).hasGid ||
        !(summary lines).hasThreads) = true ↔
        ¬ (tokens .uid lines ≠ [] ∧ tokens .gid lines ≠ [] ∧ tokens .threads lines ≠ []) := by
      simp [summary]
      tauto
    -- the three flags say which keys have been seen
    change (if _ then _ else _) = _ ↔ _
    by_cases h : tokens .uid lines ≠ [] ∧ tokens .gid lines ≠ [] ∧ tokens .threads lines ≠ []
    · rw [if_neg (mt hrequired.mp (not_not_intro h))]
      change Except.ok (summary lines).record = Except.ok record ↔ _
      rw [Except.ok.injEq, eq_comm]
      simp [hnumbers, h]
    · rw [if_pos (hrequired.mpr h)]
      constructor
      · intro hfailure
        cases hfailure
      · rintro ⟨-, huid, hgid, hthreads, -⟩
        exact absurd ⟨huid, hgid, hthreads⟩ h

/-- A key that occurs on readable lines has a last number. -/
theorem lastNumber_eq_some {key : StatusKey} {lines : List Bytes} (hnumbers : NumbersInRange lines)
    (hoccurs : tokens key lines ≠ []) :
    lastNumber key lines = some ((lastNumber key lines).getD 0) := by
  have hlast := List.getLast?_eq_some_getLast hoccurs
  obtain ⟨n, hn⟩ :=
    Option.isSome_iff_exists.mp (hnumbers key _ (List.getLast_mem hoccurs))
  rw [lastNumber, hlast, Option.bind_some, hn, Option.getD_some]

/-! ## §5 The name of a status record -/

/-- The line of the name. -/
def nameLine (value : Bytes) : Bytes := Bytes.ofString "Name:" ++ value

/-- A file of these lines. -/
def unlines (lines : List Bytes) : Bytes := [10].intercalate lines

/-- The first colon of the line ends the key `Name`, whatever the value contains. -/
theorem tokenOf_nameLine (key : StatusKey) (value : Bytes) : tokenOf key (nameLine value) = none := by
  have hname : nameLine value = Bytes.ofString "Name" ++ 58 :: value := by
    have hcolon : Bytes.ofString "Name:" = Bytes.ofString "Name" ++ [58] := by decide
    rw [nameLine, hcolon, List.append_assoc]
    rfl
  rw [tokenOf, if_neg]
  intro hlabel
  obtain ⟨colon, hcolon, hkey⟩ := label_prefix_iff.mp hlabel
  rw [hname, findIdx?_first (by decide)] at hcolon
  obtain rfl := Option.some.inj hcolon
  rw [hname, List.take_left' rfl] at hkey
  -- none of the four keys is `Name`
  revert hkey
  cases key <;> decide

/-- The loop passes over a line it skips. -/
theorem foldlM_skip {before after : List Bytes} {line : Bytes} {state : StatusState}
    (h : ∀ key, tokenOf key line = none) :
    (before ++ line :: after).foldlM parseStatusLine state =
      (before ++ after).foldlM parseStatusLine state := by
  rw [List.foldlM_append, List.foldlM_append]
  congr 1
  funext state
  rw [List.foldlM_cons, parseStatusLine_skip h]
  rfl

/-- The lines of a file with a name. -/
theorem splitOn_unlines {before after : List Bytes} {value : Bytes}
    (hlines : ∀ line ∈ before ++ after, 10 ∉ line) (hvalue : 10 ∉ value) :
    (unlines (before ++ nameLine value :: after)).splitOn 10 =
      before ++ nameLine value :: after := by
  apply List.splitOn_intercalate
  · intro line hline
    have hmem : line = nameLine value ∨ line ∈ before ++ after := by
      simp only [List.mem_append, List.mem_cons] at hline ⊢
      tauto
    rcases hmem with rfl | hmem
    · have hkey : 10 ∉ Bytes.ofString "Name:" := by decide
      simp [nameLine, hkey, hvalue]
    · exact hlines line hmem
  · simp

/-- **The name of a process does not get into its record.** Two files that differ in the
    value of the name only are read alike, and what is read is what the last lines of the
    four keys say. -/
theorem status_not_spoofed :
    (∀ (before after : List Bytes) (value value' : Bytes), (∀ line ∈ before ++ after, 10 ∉ line) →
      10 ∉ value → 10 ∉ value' →
      parseStatus (unlines (before ++ nameLine value :: after)) =
        parseStatus (unlines (before ++ nameLine value' :: after))) ∧
    ∀ (contents : Bytes) (lines : List Bytes), contents.splitOn 10 = lines →
      ((∃ record, parseStatus contents = .ok record) ↔ NumbersInRange lines ∧ tokens .uid lines ≠ [] ∧
        tokens .gid lines ≠ [] ∧ tokens .threads lines ≠ []) ∧
      ∀ record, parseStatus contents = .ok record →
        lastNumber .uid lines = some record.uid ∧ lastNumber .gid lines = some record.gid ∧
        lastNumber .threads lines = some record.threads ∧
        record.rssBytes = (lastNumber .vmRss lines).getD 0 * 1024 := by
  constructor
  · intro before after value value' hlines hvalue hvalue'
    -- both files have the same lines but one, and that one is skipped
    unfold parseStatus
    rw [splitOn_unlines hlines hvalue, splitOn_unlines hlines hvalue',
      foldlM_skip fun key => tokenOf_nameLine key value,
      foldlM_skip fun key => tokenOf_nameLine key value']
  · intro contents lines hsplit
    constructor
    · constructor
      · rintro ⟨record, hrecord⟩
        obtain ⟨hnumbers, huid, hgid, hthreads, -⟩ := (parseStatus_ok_iff hsplit).mp hrecord
        exact ⟨hnumbers, huid, hgid, hthreads⟩
      · rintro ⟨hnumbers, huid, hgid, hthreads⟩
        exact ⟨_, (parseStatus_ok_iff hsplit).mpr ⟨hnumbers, huid, hgid, hthreads, rfl⟩⟩
    · intro record hrecord
      obtain ⟨hnumbers, huid, hgid, hthreads, rfl⟩ := (parseStatus_ok_iff hsplit).mp hrecord
      exact ⟨lastNumber_eq_some hnumbers huid, lastNumber_eq_some hnumbers hgid,
        lastNumber_eq_some hnumbers hthreads, rfl⟩

/-- The lines of a process of user 1000 and group 100, in the kernel's format: real,
    effective, saved and filesystem IDs, and the memory with its unit. -/
def userLines : List Bytes :=
  [Bytes.ofString "State:\tS (sleeping)", Bytes.ofString "Uid:\t1000\t0\t1000\t1000",
    Bytes.ofString "Gid:\t100\t100\t100\t100", Bytes.ofString "VmRSS:\t    2048 kB",
    Bytes.ofString "Threads:\t3", []]

/-- A process that calls itself `x Uid: 0` is still owned by user 1000. -/
theorem status_not_spoofed_uid :
    parseStatus (unlines ([] ++ nameLine (Bytes.ofString "\tx Uid: 0") :: userLines)) =
      .ok ⟨1000, 100, 3, 2048 * 1024⟩ := by
  have hsame := status_not_spoofed.1 [] userLines (Bytes.ofString "\tx Uid: 0") []
    (by decide) (by decide) (by decide)
  rw [hsame]
  decide

/-! ## §6 Command lines -/

/-- The arguments as the kernel writes them: a NUL after each. -/
def terminated (arguments : List Bytes) : Bytes := arguments.flatMap (· ++ [0])

/-- Up to the next NUL everything belongs to the argument that has been begun. -/
theorem argumentsFrom_append {text : Bytes} (h : 0 ∉ text) (argument rest : Bytes) :
    argumentsFrom (text ++ rest) argument = argumentsFrom rest (argument ++ text) := by
  induction text generalizing argument with
  | nil => rw [List.nil_append, List.append_nil]
  | cons c text ih =>
    have hc : c ≠ 0 := fun heq => h (by simp [heq])
    have htext : 0 ∉ text := fun hmem => h (List.mem_cons_of_mem c hmem)
    rw [List.cons_append, argumentsFrom, if_neg hc, ih htext, List.append_assoc]
    rfl

theorem argumentsFrom_terminated {arguments : List Bytes} (h : ∀ argument ∈ arguments, 0 ∉ argument)
    (rest : Bytes) :
    argumentsFrom (terminated arguments ++ rest) [] = arguments ++ argumentsFrom rest [] := by
  induction arguments with
  | nil => rfl
  | cons argument arguments ih =>
    have htext : terminated (argument :: arguments) ++ rest =
        argument ++ (0 :: (terminated arguments ++ rest)) := by
      simp [terminated]
    rw [htext, argumentsFrom_append (h argument List.mem_cons_self), argumentsFrom, if_pos rfl,
      ih fun other hother => h other (List.mem_cons_of_mem _ hother)]
    rfl

/-- A last argument counts without its NUL, unless it is empty. -/
theorem argumentsFrom_last {last : Bytes} (h : 0 ∉ last) (hne : last ≠ []) :
    argumentsFrom last [] = [last] := by
  have hlast := argumentsFrom_append h [] []
  rw [List.append_nil, List.nil_append] at hlast
  rw [hlast]
  cases last with
  | nil => exact absurd rfl hne
  | cons c last => rfl

/-- Only an empty text has no arguments. -/
theorem argumentsFrom_eq_nil {contents argument : Bytes}
    (h : argumentsFrom contents argument = []) : contents = [] ∧ argument = [] := by
  induction contents generalizing argument with
  | nil =>
    cases argument with
    | nil => exact ⟨rfl, rfl⟩
    | cons c argument => cases h
  | cons c rest ih =>
    rw [argumentsFrom] at h
    split at h
    · cases h
    · -- a byte that was read is not lost
      have hnil := (ih h).2
      simp at hnil

/-- Joined again, the arguments are what was read, except for a NUL at the very end. -/
theorem intercalate_argumentsFrom (contents argument : Bytes) :
    ∃ stop, (stop = [] ∨ stop = [0]) ∧
      argument ++ contents = [0].intercalate (argumentsFrom contents argument) ++ stop := by
  induction contents generalizing argument with
  | nil =>
    refine ⟨[], .inl rfl, ?_⟩
    cases argument <;> simp [argumentsFrom]
  | cons c rest ih =>
    rw [argumentsFrom]
    split
    · rename_i hc
      subst hc
      obtain ⟨stop, hstop, hrest⟩ := ih []
      cases hmore : argumentsFrom rest [] with
      | nil =>
        -- the NUL was the last byte
        obtain ⟨rfl, -⟩ := argumentsFrom_eq_nil hmore
        exact ⟨[0], .inr rfl, by simp⟩
      | cons next more =>
        refine ⟨stop, hstop, ?_⟩
        rw [hmore, List.nil_append] at hrest
        rw [List.intercalate_cons_cons, hrest]
        simp
    · obtain ⟨stop, hstop, hrest⟩ := ih (argument ++ [c])
      refine ⟨stop, hstop, ?_⟩
      rw [← hrest, List.append_assoc]
      rfl

/-- What a search finds splits the text there. -/
theorem drop_of_findFrom {character : UInt8} {contents : Bytes} {start stop : Nat}
    (h : findFrom character contents start = some stop) :
    character ∉ Bytes.field contents start (stop - start) ∧
      contents.drop start =
        Bytes.field contents start (stop - start) ++ character :: contents.drop (stop + 1) := by
  obtain ⟨i, hi, rfl⟩ := Option.map_eq_some_iff.mp h
  obtain ⟨hlt, hfound, hfirst⟩ := List.findIdx?_eq_some_iff_getElem.mp hi
  have hsub : start + i - start = i := by omega
  have hdrop : contents.drop (start + i + 1) = (contents.drop start).drop (i + 1) := by
    rw [List.drop_drop, Nat.add_assoc]
  rw [hsub, hdrop, Bytes.field]
  constructor
  · intro hmem
    obtain ⟨j, hj, hchar⟩ := List.mem_iff_getElem.mp hmem
    rw [List.length_take] at hj
    refine hfirst j (by omega) ?_
    rw [← hchar, List.getElem_take]
    exact beq_self_eq_true _
  · rw [← beq_iff_eq.mp hfound, ← List.drop_eq_getElem_cons hlt, List.take_append_drop]

/-- The loop of the source finds the same arguments. -/
theorem cmdlineLoop_eq (contents : Bytes) (start : Nat) (arguments : List Bytes) :
    cmdlineLoop contents start arguments = arguments ++ argumentsFrom (contents.drop start) [] := by
  fun_induction cmdlineLoop contents start arguments with
  | case1 start arguments hmore hstop =>
    have hrest : 0 ∉ contents.drop start := by
      have hnone := List.findIdx?_eq_none_iff.mp (Option.map_eq_none_iff.mp hstop)
      intro hmem
      simpa using hnone 0 hmem
    rw [argumentsFrom_last hrest]
    intro hnil
    have := List.drop_eq_nil_iff.mp hnil
    omega
  | case2 start arguments hmore stop hstop ih =>
    obtain ⟨hargument, hdrop⟩ := drop_of_findFrom hstop
    rw [ih, hdrop, argumentsFrom_append hargument, argumentsFrom, if_pos rfl, List.append_assoc]
    rfl
  | case3 start arguments hend =>
    rw [List.drop_eq_nil_of_le (Nat.not_lt.mp hend), argumentsFrom, List.append_nil]

theorem parseCmdline_eq_loop (contents : Bytes) : parseCmdline contents = cmdlineLoop contents 0 [] :=
  (cmdlineLoop_eq contents 0 []).symm

/-- **Command lines are split exactly.** Arguments without NULs are read back from the text
    that has a NUL after each, also when the last of them lacks it, and joining what is read
    from any text gives the text, up to one NUL at its end. -/
theorem cmdline_split_exactly :
    (∀ arguments : List Bytes, (∀ argument ∈ arguments, 0 ∉ argument) →
      parseCmdline (terminated arguments) = arguments ∧
      ∀ last, 0 ∉ last → last ≠ [] →
        parseCmdline (terminated arguments ++ last) = arguments ++ [last]) ∧
    ∀ contents, contents = [0].intercalate (parseCmdline contents) ∨
      contents = [0].intercalate (parseCmdline contents) ++ [0] := by
  constructor
  · intro arguments harguments
    constructor
    · have hall := argumentsFrom_terminated harguments []
      rw [List.append_nil, argumentsFrom, List.append_nil] at hall
      exact hall
    · intro last hlast hne
      rw [parseCmdline, argumentsFrom_terminated harguments, argumentsFrom_last hlast hne]
  · intro contents
    obtain ⟨stop, rfl | rfl, hcontents⟩ := intercalate_argumentsFrom contents []
    · rw [List.append_nil] at hcontents
      exact .inl hcontents
    · exact .inr hcontents

/-- An empty argument is kept, and so is the last one without its NUL. -/
theorem cmdline_split_exactly_unterminated :
    parseCmdline (Bytes.ofString "demo" ++ [0, 0] ++ Bytes.ofString "tail") =
      [Bytes.ofString "demo", [], Bytes.ofString "tail"] :=
  (cmdline_split_exactly.1 [Bytes.ofString "demo", []] (by decide)).2 (Bytes.ofString "tail")
    (by decide) (by decide)

end Lx.ProcFs
