import Lx.Lib.Bytes
import Mathlib.Data.List.Sort
import Mathlib.Data.Rat.Defs

/-!
# JSON documents over byte strings

A document whose texts are raw bytes, and what it means for a writer to be *strict*:
it produces a text exactly for the documents in which every string and every key is
UTF-8. Well-formedness of a single string is `ByteArray.IsValidUTF8`, that is: the
bytes are the encoding of some sequence of Unicode scalar values.

## Main notions

- `ValidUtf8 s` — the byte string `s` is UTF-8
- `Json` — documents; `Json.Valid` — all texts of a document are UTF-8
- `Strict dump` — `dump` succeeds exactly on valid documents
-/

/-! ## §1 UTF-8 -/

/-- The bytes encode a sequence of Unicode scalar values. -/
def ValidUtf8 (s : Bytes) : Prop := s.toByteArray.IsValidUTF8

instance (s : Bytes) : Decidable (ValidUtf8 s) :=
  inferInstanceAs (Decidable s.toByteArray.IsValidUTF8)

theorem ValidUtf8.append {s t : Bytes} (hs : ValidUtf8 s) (ht : ValidUtf8 t) :
    ValidUtf8 (s ++ t) := by
  have h : (s ++ t).toByteArray = s.toByteArray ++ t.toByteArray := by simp
  unfold ValidUtf8
  rw [h]
  exact ByteArray.IsValidUTF8.append hs ht

/-- A single seven-bit byte is a character of its own. -/
theorem validUtf8_singleton {b : UInt8} (hb : b < 128) : ValidUtf8 [b] := by
  have hall : ∀ n : Fin 128, ValidUtf8 [UInt8.ofNat n.val] := by decide
  have hnat : b.toNat < 128 := UInt8.lt_iff_toNat_lt.mp hb
  simpa using hall ⟨b.toNat, hnat⟩

/-- The first byte of an encoded character tells whether it is a seven-bit one. -/
theorem utf8EncodeChar_head {c : Char} {b : UInt8} {rest : Bytes}
    (h : String.utf8EncodeChar c = b :: rest) (hb : b < 128) : rest = [] := by
  -- every longer encoding starts with a byte of the form `x ||| m` with `128 ≤ m`
  have hlarge : ∀ x m : UInt8, 128 ≤ m → ¬ (x ||| m) < 128 := by
    intro x m hm hlt
    rw [UInt8.lt_iff_toNat_lt, UInt8.toNat_or] at hlt
    rw [UInt8.le_iff_toNat_le] at hm
    have := Nat.right_le_or (m := m.toNat) (n := x.toNat)
    exact absurd (lt_of_le_of_lt (hm.trans this) hlt) (lt_irrefl _)
  rcases c.utf8Size_eq with hsize | hsize | hsize | hsize
  · rw [String.utf8EncodeChar_eq_singleton hsize] at h
    exact (List.cons.inj h).2.symm
  · rw [String.utf8EncodeChar_eq_cons_cons hsize] at h
    exact absurd ((List.cons.inj h).1 ▸ hb) (hlarge _ _ (by decide))
  · rw [String.utf8EncodeChar_eq_cons_cons_cons hsize] at h
    exact absurd ((List.cons.inj h).1 ▸ hb) (hlarge _ _ (by decide))
  · rw [String.utf8EncodeChar_eq_cons_cons_cons_cons hsize] at h
    exact absurd ((List.cons.inj h).1 ▸ hb) (hlarge _ _ (by decide))

theorem validUtf8_iff_exists {s : Bytes} :
    ValidUtf8 s ↔ ∃ text : List Char, s = text.flatMap String.utf8EncodeChar := by
  constructor
  · rintro ⟨text, h⟩
    exact ⟨text, List.toByteArray_inj.mp h⟩
  · rintro ⟨text, rfl⟩
    exact ⟨text, rfl⟩

/-- A seven-bit byte in front changes nothing. -/
theorem validUtf8_cons {b : UInt8} {s : Bytes} (hb : b < 128) :
    ValidUtf8 (b :: s) ↔ ValidUtf8 s := by
  constructor
  · intro h
    obtain ⟨text, htext⟩ := validUtf8_iff_exists.mp h
    cases text with
    | nil => cases htext
    | cons c text =>
      rw [List.flatMap_cons] at htext
      cases hc : String.utf8EncodeChar c with
      | nil => exact absurd hc String.utf8EncodeChar_ne_nil
      | cons b' rest =>
        rw [hc, List.cons_append] at htext
        obtain ⟨rfl, hs⟩ := List.cons.inj htext
        -- the first character is `b` alone, so the rest encodes the other characters
        rw [utf8EncodeChar_head hc hb, List.nil_append] at hs
        exact validUtf8_iff_exists.mpr ⟨text, hs⟩
  · exact (validUtf8_singleton hb).append

/-- A seven-bit text in front changes nothing. -/
theorem validUtf8_append_left {s t : Bytes} (hs : ∀ b ∈ s, b < 128) :
    ValidUtf8 (s ++ t) ↔ ValidUtf8 t := by
  induction s with
  | nil => rfl
  | cons b s ih =>
    have htail : ValidUtf8 (s ++ t) ↔ ValidUtf8 t := ih fun b' hb' => hs b' (by simp [hb'])
    rw [List.cons_append, validUtf8_cons (hs b (by simp)), htail]

/-- Seven-bit texts are UTF-8. -/
theorem validUtf8_of_ascii {s : Bytes} (hs : ∀ b ∈ s, b < 128) : ValidUtf8 s := by
  have hnil : ValidUtf8 [] := by decide
  simpa using (validUtf8_append_left hs).mpr hnil

/-- Characters below 128 are written as themselves. -/
theorem ascii_ofString {s : String} (h : s.toList.all (·.toNat < 128) = true) :
    ∀ b ∈ Bytes.ofString s, b < 128 := by
  intro b hb
  obtain ⟨c, hc, rfl⟩ := List.mem_map.mp hb
  have hsmall : c.toNat < 128 := by simpa using List.all_eq_true.mp h c hc
  rw [UInt8.lt_iff_toNat_lt, UInt8.toNat_ofNat']
  exact lt_of_le_of_lt (Nat.mod_le _ _) hsmall

theorem validUtf8_ofString {s : String} (h : s.toList.all (·.toNat < 128) = true) :
    ValidUtf8 (Bytes.ofString s) :=
  validUtf8_of_ascii (ascii_ofString h)

theorem ascii_ofNat (n : Nat) : ∀ b ∈ Bytes.ofNat n, b < 128 := by
  intro b hb
  have hdigit := Bytes.isDigit_of_mem_ofNat hb
  simp only [Bytes.isDigit, Bool.and_eq_true, decide_eq_true_eq] at hdigit
  exact lt_of_le_of_lt hdigit.2 (by decide)

/-! ## §2 Documents -/

/-- A JSON document. Members stand in the order they were written down; integers and
    doubles are kept apart as the C++ types keep them apart. -/
inductive Json where
  | null
  | bool (value : Bool)
  | number (value : Int)
  | double (value : Rat)
  | string (value : Bytes)
  | array (elements : List Json)
  | object (members : List (Bytes × Json))

namespace Json

mutual

/-- All strings and keys of a document, in the order they are written. -/
def texts : Json → List Bytes
  | .string value => [value]
  | .array elements => elementTexts elements
  | .object members => memberTexts members
  | _ => []

def elementTexts : List Json → List Bytes
  | [] => []
  | element :: rest => texts element ++ elementTexts rest

def memberTexts : List (Bytes × Json) → List Bytes
  | [] => []
  | (key, value) :: rest => key :: (texts value ++ memberTexts rest)

end

/-- Every text of the document is UTF-8. -/
def Valid (document : Json) : Prop := ∀ text ∈ document.texts, ValidUtf8 text

instance (document : Json) : Decidable document.Valid :=
  inferInstanceAs (Decidable (∀ text ∈ document.texts, ValidUtf8 text))

@[simp] theorem valid_null : Json.null.Valid := by simp [Valid, texts]

@[simp] theorem valid_number (value : Int) : (Json.number value).Valid := by simp [Valid, texts]

@[simp] theorem valid_double (value : Rat) : (Json.double value).Valid := by simp [Valid, texts]

@[simp] theorem valid_string (value : Bytes) : (Json.string value).Valid ↔ ValidUtf8 value := by
  simp [Valid, texts]

@[simp] theorem valid_array (elements : List Json) :
    (Json.array elements).Valid ↔ ∀ element ∈ elements, element.Valid := by
  unfold Valid
  rw [texts]
  induction elements with
  | nil => simp [elementTexts]
  | cons element rest ih => simp [elementTexts, or_imp, forall_and, ih]

@[simp] theorem valid_object_nil : (Json.object []).Valid := by simp [Valid, texts, memberTexts]

@[simp] theorem valid_object_cons (key : Bytes) (value : Json) (rest : List (Bytes × Json)) :
    (Json.object ((key, value) :: rest)).Valid ↔
      ValidUtf8 key ∧ value.Valid ∧ (Json.object rest).Valid := by
  simp [Valid, texts, memberTexts, or_imp, forall_and]

end Json

/-! ## §3 Strict writers -/

/-- The exception a strict writer raises. -/
inductive TypeError where
  | invalidUtf8
  deriving DecidableEq, Repr

/-- `dump()` with the strict error handler: it throws on any string that is not UTF-8 and
    succeeds otherwise. -/
def Strict (dump : Json → Except TypeError Bytes) : Prop :=
  ∀ document, (∃ text, dump document = .ok text) ↔ document.Valid

theorem Strict.ok {dump : Json → Except TypeError Bytes} (h : Strict dump) {document : Json}
    (hvalid : document.Valid) : ∃ text, dump document = .ok text :=
  (h document).mpr hvalid

/-! ## §4 A compact writer -/

section Compact

/-- The escapes inside a string literal: quotation mark, backslash and control characters;
    everything else is copied. -/
def escaped (b : UInt8) : Bytes :=
  if b = 34 then [92, 34]
  else if b = 92 then [92, 92]
  else if b = 8 then [92, 98]
  else if b = 9 then [92, 116]
  else if b = 10 then [92, 110]
  else if b = 12 then [92, 102]
  else if b = 13 then [92, 114]
  else if b < 32 then
    let digits := Bytes.ofNatHex b.toNat
    Bytes.ofString "\\u" ++ List.replicate (4 - digits.length) 48 ++ digits
  else [b]

def quoted (s : Bytes) : Bytes := [34] ++ s.flatMap escaped ++ [34]

/-- The parts with a comma between them. -/
def separated (parts : List Bytes) : Bytes := (parts.intersperse [44]).flatten

-- how doubles are written
variable (number : Rat → Bytes)

mutual

/-- The shortest layout, members sorted by key. -/
def render : Json → Bytes
  | .null => Bytes.ofString "null"
  | .bool value => Bytes.ofString (if value then "true" else "false")
  | .number value => Bytes.ofInt value
  | .double value => number value
  | .string value => quoted value
  | .array elements => [91] ++ separated (renderElements elements) ++ [93]
  | .object members =>
    let sorted := (renderMembers members).insertionSort fun left right => left.1 ≤ right.1
    [123] ++ separated (sorted.map fun entry => quoted entry.1 ++ [58] ++ entry.2) ++ [125]

def renderElements : List Json → List Bytes
  | [] => []
  | element :: rest => render element :: renderElements rest

def renderMembers : List (Bytes × Json) → List (Bytes × Bytes)
  | [] => []
  | (key, value) :: rest => (key, render value) :: renderMembers rest

end

/-- `dump()` without indentation, given how doubles are written. -/
def compact (document : Json) : Except TypeError Bytes :=
  if document.Valid then .ok (render number document) else .error .invalidUtf8

theorem compact_strict : Strict (compact number) := by
  intro document
  unfold compact
  split_ifs with hvalid <;> simp [hvalid]

end Compact
