import Mathlib.Algebra.Group.Int.Defs
import Mathlib.Algebra.Group.Nat.Defs
import Mathlib.Order.Defs.LinearOrder
import Mathlib.Order.Lex
import Mathlib.Data.List.Lex

/-!
# Byte strings

Texts as the C++ standard library holds them: sequences of bytes with no encoding
attached, compared byte by byte. Character classes are those of the `"C"` locale.
-/

/-- The order core gives `UInt8`, as a linear order. -/
instance instLinearOrderUInt8 : LinearOrder UInt8 where
  le_refl a := Nat.le_refl a.toNat
  le_trans a b c := @Nat.le_trans a.toNat b.toNat c.toNat
  lt_iff_le_not_ge a b := by
    simp only [UInt8.lt_iff_toNat_lt, UInt8.le_iff_toNat_le]
    omega
  le_antisymm a b hab hba := UInt8.toNat_inj.mp (Nat.le_antisymm hab hba)
  le_total a b := Nat.le_total a.toNat b.toNat
  toDecidableLE := inferInstance
  toDecidableEq := inferInstance

instance instLawfulBEqUInt8 : LawfulBEq UInt8 := inferInstance

/-- A string of bytes. -/
abbrev Bytes := List UInt8

namespace Bytes

/-- The bytes of an ASCII literal. -/
def ofString (s : String) : Bytes := s.toList.map fun c => UInt8.ofNat c.toNat

instance : Coe String Bytes := ⟨ofString⟩

/-- The decimal digits of a number, as `std::to_string` writes them. -/
def ofNat (n : Nat) : Bytes := ofString (toString n)

/-- The decimal digits of a number, with a leading `-` when it is negative. -/
def ofInt (n : Int) : Bytes := ofString (toString n)

/-- `{:x}`: the hexadecimal digits of a number. -/
def ofNatHex (n : Nat) : Bytes := ofString (String.ofList (Nat.toDigits 16 n))

/-- The unsigned number with these bytes, least significant first. -/
def toNatLE : Bytes → Nat
  | [] => 0
  | b :: rest => b.toNat + 256 * toNatLE rest

/-- The unsigned number with these bytes, most significant first. -/
def toNatBE (s : Bytes) : Nat := toNatLE s.reverse

/-- The lowest `width` bytes of a number, least significant first. -/
def ofNatLE : Nat → Nat → Bytes
  | 0, _ => []
  | width + 1, n => UInt8.ofNat (n % 256) :: ofNatLE width (n / 256)

theorem toNatLE_ofNatLE (width n : Nat) : toNatLE (ofNatLE width n) = n % 256 ^ width := by
  induction width generalizing n with
  | zero => simp [ofNatLE, toNatLE, Nat.mod_one]
  | succ width ih =>
    have hbyte : (UInt8.ofNat (n % 256)).toNat = n % 256 := by simp
    rw [ofNatLE, toNatLE, ih, hbyte, Nat.pow_succ', Nat.mod_mul]

@[simp] theorem length_ofNatLE (width n : Nat) : (ofNatLE width n).length = width := by
  induction width generalizing n with
  | zero => rfl
  | succ width ih => simp [ofNatLE, ih]

/-- `width` bytes from `offset` on, as `memcpy` reads a member of a packed record. -/
def field (s : Bytes) (offset width : Nat) : Bytes := (s.drop offset).take width

/-- A member behind the first part of a record. -/
theorem field_append_right {a b : Bytes} {offset width : Nat} (h : a.length ≤ offset) :
    field (a ++ b) offset width = field b (offset - a.length) width := by
  simp [field, List.drop_append, List.drop_eq_nil_of_le h]

/-- The member a record starts with. -/
theorem field_append_left {a b : Bytes} {width : Nat} (h : a.length = width) :
    field (a ++ b) 0 width = a := by
  simp [field, ← h]

/-- Members of a record that a copy of its first `n` bytes contains. -/
theorem field_take {s : Bytes} {n offset width : Nat} (h : offset + width ≤ n) :
    field (s.take n) offset width = field s offset width := by
  have hmin : min width (n - offset) = width := by omega
  rw [field, field, List.drop_take, List.take_take, hmin]

/-- `std::isspace`: blank, tab, newline, vertical tab, form feed, carriage return. -/
def isSpace (c : UInt8) : Bool := c == 32 || (9 ≤ c && c ≤ 13)

/-- `std::isalnum`. -/
def isAlnum (c : UInt8) : Bool :=
  (48 ≤ c && c ≤ 57) || (65 ≤ c && c ≤ 90) || (97 ≤ c && c ≤ 122)

/-- `std::isdigit`. -/
def isDigit (c : UInt8) : Bool := 48 ≤ c && c ≤ 57

/-- The number a non-empty string of decimal digits denotes. -/
def decimal (s : Bytes) : Option Nat :=
  if s ≠ [] ∧ s.all isDigit then some (s.foldl (fun n c => 10 * n + (c.toNat - 48)) 0) else none

/-- `std::from_chars` into an unsigned type of `bits` bits that has to consume the whole text:
    no sign, no blanks, and no overflow. -/
def fromChars (bits : Nat) (s : Bytes) : Option Nat := (decimal s).filter (· < 2 ^ bits)

theorem fromChars_of_lt {bits n : Nat} {s : Bytes} (h : decimal s = some n) (hn : n < 2 ^ bits) :
    fromChars bits s = some n := by
  rw [fromChars, h, Option.filter_some, decide_eq_true hn, if_pos rfl]

theorem fromChars_of_ge {bits n : Nat} {s : Bytes} (h : decimal s = some n) (hn : ¬n < 2 ^ bits) :
    fromChars bits s = none := by
  rw [fromChars, h, Option.filter_some, decide_eq_false hn, if_neg Bool.false_ne_true]

/-- The byte of a digit is that digit. -/
theorem toNat_ofNat_digit {c : Char} (h : c.isDigit = true) :
    (UInt8.ofNat c.toNat).toNat = c.toNat ∧ 48 ≤ c.toNat ∧ c.toNat ≤ 57 := by
  simp only [Char.isDigit, Bool.and_eq_true, decide_eq_true_eq, UInt32.le_iff_toNat_le] at h
  have hlow : 48 ≤ c.toNat := h.1
  have hhigh : c.toNat ≤ 57 := h.2
  refine ⟨?_, hlow, hhigh⟩
  rw [UInt8.toNat_ofNat']
  omega

theorem isDigit_of_mem_ofNat {n : Nat} {b : UInt8} (h : b ∈ ofNat n) : isDigit b = true := by
  obtain ⟨c, hc, rfl⟩ := List.mem_map.mp h
  rw [Nat.toString_eq_repr, Nat.toList_repr] at hc
  obtain ⟨hbyte, hlow, hhigh⟩ :=
    toNat_ofNat_digit (Nat.isDigit_of_mem_toDigits (by decide) (by decide) hc)
  simp only [isDigit, Bool.and_eq_true, decide_eq_true_eq, UInt8.le_iff_toNat_le, hbyte]
  exact ⟨hlow, hhigh⟩

/-- The digits of a number are read back. -/
theorem decimal_ofNat (n : Nat) : decimal (ofNat n) = some n := by
  have hdigits : ofNat n = (Nat.toDigits 10 n).map fun c => UInt8.ofNat c.toNat := by
    rw [ofNat, ofString, Nat.toString_eq_repr, Nat.toList_repr]
  -- byte by byte the two ways to read digits agree
  have hfold : ∀ (cs : List Char) (init : Nat), (∀ c ∈ cs, c.isDigit = true) →
      (cs.map fun c => UInt8.ofNat c.toNat).foldl (fun n c => 10 * n + (c.toNat - 48)) init =
        Nat.ofDigitChars 10 cs init := by
    intro cs
    induction cs with
    | nil => simp
    | cons c cs ih =>
      intro init hcs
      obtain ⟨hbyte, -, -⟩ := toNat_ofNat_digit (hcs c List.mem_cons_self)
      rw [List.map_cons, List.foldl_cons, hbyte, Nat.ofDigitChars_cons,
        ih _ fun c hc => hcs c (List.mem_cons_of_mem _ hc)]
      rfl
  have hall : (ofNat n).all isDigit = true :=
    List.all_eq_true.mpr fun b hb => isDigit_of_mem_ofNat hb
  have hne : ofNat n ≠ [] := by
    rw [hdigits]
    simp [Nat.toDigits_ne_nil]
  rw [decimal, if_pos ⟨hne, hall⟩, hdigits, hfold _ 0 fun c hc =>
    Nat.isDigit_of_mem_toDigits (by decide) (by decide) hc, Nat.ofDigitChars_ten_toDigits]

/-- `std::tolower`. -/
def toLower (c : UInt8) : UInt8 := if 65 ≤ c ∧ c ≤ 90 then c + 32 else c

/-- Every byte lower-cased. -/
def lower (s : Bytes) : Bytes := s.map toLower

/-- Leading and trailing white space removed. -/
def trim (s : Bytes) : Bytes :=
  ((s.dropWhile isSpace).reverse.dropWhile isSpace).reverse

/-- `fmt`'s `{:<width}`: blanks appended up to the width. -/
def padRight (width : Nat) (s : Bytes) : Bytes :=
  s ++ List.replicate (width - s.length) 32

end Bytes
