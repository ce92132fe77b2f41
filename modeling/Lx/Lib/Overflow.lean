import Mathlib.Algebra.Group.Int.Defs
import Mathlib.Algebra.Group.Nat.Defs

/-!
# Signed 64-bit arithmetic

Integers stand for the machine's. An operation whose exact result does not fit into 64
bits is undefined in C++; compiled, it wraps around. A `Computed` value is what comes out
with wrapping, together with the information whether some operation on the way did not
fit: that nothing overflows is a statement about this flag.
-/

namespace Overflow

/-! ## §1 Values that fit -/

/-- The values of a signed 64-bit integer. -/
def Fits (x : Int) : Prop := -2 ^ 63 ≤ x ∧ x < 2 ^ 63

instance : DecidablePred Fits := fun x => inferInstanceAs (Decidable (-2 ^ 63 ≤ x ∧ x < 2 ^ 63))

/-- Two's complement with 64 bits. -/
def wrap (x : Int) : Int := x.bmod (2 ^ 64)

theorem wrap_of_fits {x : Int} (h : Fits x) : wrap x = x := by
  obtain ⟨hlow, hhigh⟩ := h
  apply Int.bmod_eq_of_le
  · omega
  · omega

/-! ## §2 Computations -/

/-- A value computed with wrapping, and whether an operation on the way did not fit. -/
structure Computed (α : Type) where
  value : α
  overflowed : Bool
  deriving DecidableEq, Repr

namespace Computed

instance : Monad Computed where
  pure a := ⟨a, false⟩
  bind x f := ⟨(f x.value).value, x.overflowed || (f x.value).overflowed⟩

variable {α β : Type}

theorem overflowed_bind (x : Computed α) (f : α → Computed β) :
    (x >>= f).overflowed = (x.overflowed || (f x.value).overflowed) := rfl

theorem bind_pure (a : α) (f : α → Computed β) : (pure a >>= f) = f a := rfl

end Computed

/-- An operation with this exact result. -/
def result (exact : Int) : Computed Int := ⟨wrap exact, !decide (Fits exact)⟩

def mul (x y : Int) : Computed Int := result (x * y)

def sub (x y : Int) : Computed Int := result (x - y)

theorem result_of_fits {exact : Int} (h : Fits exact) : result exact = pure exact := by
  simp only [result, wrap_of_fits h, h, decide_true, Bool.not_true]
  rfl

theorem result_overflowed {exact : Int} (h : ¬Fits exact) : (result exact).overflowed = true := by
  simp [result, h]

end Overflow
