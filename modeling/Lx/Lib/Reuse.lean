import Mathlib.Logic.Function.Basic

/-!
# Names that are reused

A table says which owner holds a name. Owners come and go; the stamp of a new owner tells
it apart from every earlier owner of the same name, so an owner that has released its name
never holds it again. The one fact about runs that programs addressing owners by name
depend on is `holder_eq_iff`: the owner is still the same exactly if the name was not
released in between.
-/

namespace Reuse

/-- Who holds which name, and which owners there have been. -/
structure Table (Name Stamp : Type) where
  holder : Name → Option Stamp
  used : Name → Stamp → Prop
  holder_used : ∀ name stamp, holder name = some stamp → used name stamp

inductive Change (Name Stamp : Type) where
  | release (name : Name)
  | acquire (name : Name) (stamp : Stamp)
  deriving DecidableEq, Repr

variable {Name Stamp : Type}

/-- One change of the table. A name can be acquired when nobody holds it, under a stamp it
    was never held with. -/
def Step (T : Table Name Stamp) (change : Change Name Stamp) (T' : Table Name Stamp) : Prop :=
  match change with
  | .release name => T.holder name ≠ none ∧ T'.holder name = none ∧
      (∀ other, other ≠ name → T'.holder other = T.holder other) ∧ T'.used = T.used
  | .acquire name stamp => T.holder name = none ∧ ¬ T.used name stamp ∧
      T'.holder name = some stamp ∧
      (∀ other, other ≠ name → T'.holder other = T.holder other) ∧
      ∀ other s, T'.used other s ↔ T.used other s ∨ other = name ∧ s = stamp

/-- A sequence of changes. -/
def Changes : Table Name Stamp → List (Change Name Stamp) → Table Name Stamp → Prop
  | T, [], T' => T' = T
  | T, change :: rest, T' => ∃ U, Step T change U ∧ Changes U rest T'

variable {T T' : Table Name Stamp} {changes : List (Change Name Stamp)} {name : Name} {stamp : Stamp}

theorem changes_append {cs cs' : List (Change Name Stamp)} :
    Changes T (cs ++ cs') T' ↔ ∃ U, Changes T cs U ∧ Changes U cs' T' := by
  induction cs generalizing T with
  | nil => simp [Changes]
  | cons change cs ih => simp only [List.cons_append, Changes, ih]; grind

/-- Owners are never forgotten. -/
theorem Step.used {change : Change Name Stamp} (h : Step T change T') (hused : T.used name stamp) :
    T'.used name stamp := by
  cases change with
  | release other =>
    rw [h.2.2.2]
    exact hused
  | acquire other s => exact (h.2.2.2.2 name stamp).mpr (.inl hused)

/-- An owner that does not hold its name does not get it back. -/
theorem Changes.gone (h : Changes T changes T') (hused : T.used name stamp)
    (hgone : T.holder name ≠ some stamp) : T'.holder name ≠ some stamp := by
  induction changes generalizing T with
  | nil =>
    obtain rfl := h
    exact hgone
  | cons change rest ih =>
    obtain ⟨U, hstep, hrest⟩ := h
    refine ih hrest (hstep.used hused) ?_
    cases change with
    | release other =>
      obtain ⟨-, hnone, hothers, -⟩ := hstep
      by_cases heq : name = other
      · subst heq
        simp [hnone]
      · rwa [hothers name heq]
    | acquire other s =>
      -- a new owner is one the name never had
      obtain ⟨-, hfresh, hnew, hothers, -⟩ := hstep
      by_cases heq : name = other
      · subst heq
        rw [hnew]
        rintro ⟨⟩
        exact hfresh hused
      · rwa [hothers name heq]

/-- **The owner of a name is still the same** exactly if the name was not released. -/
theorem Changes.holder_eq_iff (h : Changes T changes T') (hholds : T.holder name = some stamp) :
    T'.holder name = some stamp ↔ .release name ∉ changes := by
  induction changes generalizing T with
  | nil =>
    obtain rfl := h
    simp [hholds]
  | cons change rest ih =>
    obtain ⟨U, hstep, hrest⟩ := h
    have hused := hstep.used (T.holder_used name stamp hholds)
    cases change with
    | release other =>
      obtain ⟨-, hnone, hothers, -⟩ := hstep
      by_cases heq : name = other
      · subst heq
        -- once released, the name does not come back to its owner
        have hgone := hrest.gone hused (by simp [hnone])
        simp [hgone]
      · rw [ih hrest ((hothers name heq).trans hholds)]
        simp [heq]
    | acquire other s =>
      obtain ⟨hfree, -, -, hothers, -⟩ := hstep
      -- only a free name is taken, and this one is held
      have heq : name ≠ other := by
        rintro rfl
        rw [hholds] at hfree
        cases hfree
      rw [ih hrest ((hothers name heq).trans hholds)]
      simp

theorem Step.holder_unique {change : Change Name Stamp} {U U' : Table Name Stamp}
    (h : Step T change T') (h' : Step U change U') (heq : T.holder = U.holder) :
    T'.holder = U'.holder := by
  funext name
  cases change with
  | release other =>
    by_cases hname : name = other
    · rw [hname, h.2.1, h'.2.1]
    · rw [h.2.2.1 name hname, h'.2.2.1 name hname, heq]
  | acquire other stamp =>
    by_cases hname : name = other
    · rw [hname, h.2.2.1, h'.2.2.1]
    · rw [h.2.2.2.1 name hname, h'.2.2.2.1 name hname, heq]

/-- The changes determine who holds what. -/
theorem Changes.holder_unique {U U' : Table Name Stamp} (h : Changes T changes T')
    (h' : Changes U changes U') (heq : T.holder = U.holder) : T'.holder = U'.holder := by
  induction changes generalizing T U with
  | nil =>
    obtain rfl := h
    obtain rfl := h'
    exact heq
  | cons change rest ih =>
    obtain ⟨V, hstep, hrest⟩ := h
    obtain ⟨V', hstep', hrest'⟩ := h'
    exact ih hrest hrest' (hstep.holder_unique hstep' heq)

end Reuse
