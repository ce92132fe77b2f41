import Lx.Lib.Interaction
import Mathlib.Algebra.Group.Nat.Defs

/-!
# Loops that read a buffer

A loop is a program that runs a body again and again; the body returns from the loop or
goes on with another state. What holds in every round follows from what one round does
(`Reached.invariant`), and a measure that every round lowers bounds the number of rounds
(`exists_loop_run`).

The programs here copy parts of a buffer out by position and length, as `memcpy` does. A
copy from inside the buffer has the bytes of the buffer; what a copy from elsewhere has is
not known. That a program stays inside is then a statement about the calls it makes.

## Main notions

- `loop body rounds s` — at most `rounds` rounds of `body`, from the state `s` on
- `Reached body ok s s'` — rounds whose events are all `ok` lead from `s` to `s'`
- `Buffer`, `memcpy`, `Faithful data` — reading, and the answers a buffer gives
- `Copies data p copies a` — on this buffer `p` makes these copies and returns `a`
- `wrapSub`, `wrapAdd` — unsigned arithmetic of a fixed width
-/

namespace Interaction

/-! ## §1 Loops -/

section Loop

variable {S : Signature} {α σ : Type}

/-- At most `rounds` rounds of a loop: the body returns a result or the next state. -/
def loop (body : σ → Prog S (α ⊕ σ)) : Nat → σ → Prog S α
  | 0, _ => .block
  | rounds + 1, s => do
    match ← body s with
    | .inl a => return a
    | .inr s' => loop body rounds s'

/-- The states that rounds with nothing but `ok` events lead to. -/
inductive Reached (body : σ → Prog S (α ⊕ σ)) (ok : Event S → Prop) (s : σ) : σ → Prop where
  | refl : Reached body ok s s
  | round {s₁ s₂ : σ} {t : Trace S} (before : Reached body ok s s₁)
      (run : (body s₁).Run t (.inr s₂)) (answered : ∀ e ∈ t, ok e) : Reached body ok s s₂

variable {body : σ → Prog S (α ⊕ σ)} {ok : Event S → Prop}

/-- What every round keeps holds in every round. -/
theorem Reached.invariant (I : σ → Prop) {s s' : σ} (h : Reached body ok s s') (hstart : I s)
    (hround : ∀ s₁ s₂ t, I s₁ → (body s₁).Run t (.inr s₂) → (∀ e ∈ t, ok e) → I s₂) : I s' := by
  induction h with
  | refl => exact hstart
  | round _ hrun hanswered ih => exact hround _ _ _ ih hrun hanswered

/-- A run of a loop is a round, and the rest of the loop unless the round returned. -/
theorem loop_succ_run_iff {rounds : Nat} {s : σ} {t : Trace S} {a : α} :
    (loop body (rounds + 1) s).Run t a ↔ (body s).Run t (.inl a) ∨
      ∃ s' t₁ t₂, (body s).Run t₁ (.inr s') ∧ (loop body rounds s').Run t₂ a ∧ t = t₁ ++ t₂ := by
  rw [loop, Prog.run_bind_iff]
  constructor
  · rintro ⟨out, t₁, t₂, hround, hrest, rfl⟩
    cases out with
    | inl b =>
      obtain ⟨rfl, rfl⟩ := hrest
      rw [List.append_nil]
      exact .inl hround
    | inr s' => exact .inr ⟨s', t₁, t₂, hround, hrest, rfl⟩
  · rintro (hround | ⟨s', t₁, t₂, hround, hrest, rfl⟩)
    · exact ⟨.inl a, t, [], hround, ⟨rfl, rfl⟩, (List.append_nil t).symm⟩
    · exact ⟨.inr s', t₁, t₂, hround, hrest, rfl⟩

/-- **A loop computes what one round says.** `value` is the result a state leads to: a round
    that returns returns it, and a round that goes on keeps it. -/
theorem loop_run_eq (I : σ → Prop) (value : σ → α)
    (hround : ∀ s t out, I s → (body s).Run t out → (∀ e ∈ t, ok e) →
      (∀ a, out = .inl a → a = value s) ∧ ∀ s', out = .inr s' → I s' ∧ value s' = value s)
    {rounds : Nat} {s : σ} {t : Trace S} {a : α} (hs : I s) (h : (loop body rounds s).Run t a)
    (hanswered : ∀ e ∈ t, ok e) : a = value s := by
  induction rounds generalizing s t with
  | zero => exact h.elim
  | succ rounds ih =>
    rcases loop_succ_run_iff.mp h with hreturn | ⟨s', t₁, t₂, hnext, hrest, rfl⟩
    · exact (hround s t _ hs hreturn hanswered).1 a rfl
    · have h₁ : ∀ e ∈ t₁, ok e := fun e he => hanswered e (List.mem_append_left _ he)
      have h₂ : ∀ e ∈ t₂, ok e := fun e he => hanswered e (List.mem_append_right _ he)
      obtain ⟨hs', hvalue⟩ := (hround s t₁ _ hs hnext h₁).2 s' rfl
      rw [ih hs' hrest h₂, hvalue]

/-- **Enough rounds end the loop**: every round is answered, and those that do not return
    lower the measure. -/
theorem exists_loop_run (I : σ → Prop) (measure : σ → Nat)
    (hruns : ∀ s, I s → ∃ t out, (body s).Run t out ∧ (∀ e ∈ t, ok e) ∧
      ∀ s', out = .inr s' → I s' ∧ measure s' < measure s)
    {rounds : Nat} {s : σ} (hs : I s) (hrounds : measure s < rounds) :
    ∃ t a, (loop body rounds s).Run t a ∧ ∀ e ∈ t, ok e := by
  induction rounds generalizing s with
  | zero => omega
  | succ rounds ih =>
    obtain ⟨t, out, hrun, hanswered, hnext⟩ := hruns s hs
    cases out with
    | inl a => exact ⟨t, a, loop_succ_run_iff.mpr (.inl hrun), hanswered⟩
    | inr s' =>
      obtain ⟨hs', hless⟩ := hnext s' rfl
      obtain ⟨t', a, hrest, hanswered'⟩ := ih hs' (by omega)
      refine ⟨t ++ t', a, loop_succ_run_iff.mpr (.inr ⟨s', t, t', hrun, hrest, rfl⟩), ?_⟩
      intro e he
      rcases List.mem_append.mp he with he | he
      · exact hanswered e he
      · exact hanswered' e he

end Loop

/-! ## §2 Reading a buffer -/

/-- `width` elements from `offset` on. -/
structure Copy where
  offset : Nat
  width : Nat
  deriving DecidableEq, Repr

/-- The signature of programs that read a buffer. -/
abbrev Buffer (β : Type) : Signature := ⟨Copy, fun _ => List β⟩

variable {β : Type}

def memcpy (offset width : Nat) : Prog (Buffer β) (List β) := perform (S := Buffer β) ⟨offset, width⟩

/-- The copy lies between these positions. -/
def Copy.Within (copy : Copy) (first last : Nat) : Prop :=
  first ≤ copy.offset ∧ copy.offset + copy.width ≤ last

/-- The buffer answers for its own elements only. -/
def Faithful (data : List β) (e : Event (Buffer β)) : Prop :=
  e.1.offset + e.1.width ≤ data.length → e.2 = (data.drop e.1.offset).take e.1.width

/-- Copies with the answers of the buffer. -/
def answered (data : List β) (copies : List Copy) : Trace (Buffer β) :=
  copies.map fun copy => ⟨copy, (data.drop copy.offset).take copy.width⟩

theorem faithful_of_mem_answered {data : List β} {copies : List Copy} {e : Event (Buffer β)}
    (h : e ∈ answered data copies) : Faithful data e := by
  obtain ⟨copy, -, rfl⟩ := List.mem_map.mp h
  exact fun _ => rfl

/-- The program returns `a` for this buffer, and makes these copies on the way. -/
def Copies (data : List β) {α : Type} (p : Prog (Buffer β) α) (copies : List Copy) (a : α) : Prop :=
  ∀ t b, (p.Run t b ∧ ∀ e ∈ t, Faithful data e) ↔ t = answered data copies ∧ b = a

theorem copies_ret {data : List β} {α : Type} {a : α} : Copies data (.ret a) [] a := by
  intro t b
  constructor
  · rintro ⟨hrun, -⟩
    exact hrun
  · rintro ⟨rfl, rfl⟩
    exact ⟨⟨rfl, rfl⟩, fun e he => absurd he List.not_mem_nil⟩

theorem copies_memcpy {data : List β} {offset width : Nat} (h : offset + width ≤ data.length) :
    Copies data (memcpy offset width) [⟨offset, width⟩] ((data.drop offset).take width) := by
  intro t b
  constructor
  · rintro ⟨⟨x, _, rfl, rfl, rfl⟩, hfaithful⟩
    -- the copy lies inside, so its bytes are known
    have hx : b = (data.drop offset).take width := hfaithful _ List.mem_cons_self h
    subst hx
    exact ⟨rfl, rfl⟩
  · rintro ⟨rfl, rfl⟩
    exact ⟨⟨_, [], rfl, rfl, rfl⟩, fun e he => faithful_of_mem_answered he⟩

theorem Copies.bind {data : List β} {α γ : Type} {p : Prog (Buffer β) α} {f : α → Prog (Buffer β) γ}
    {first second : List Copy} {a : α} {c : γ} (hp : Copies data p first a)
    (hf : Copies data (f a) second c) : Copies data (p >>= f) (first ++ second) c := by
  intro t b
  have hanswered : answered data (first ++ second) = answered data first ++ answered data second :=
    List.map_append
  rw [Prog.run_bind_iff, hanswered]
  constructor
  · rintro ⟨⟨a', t₁, t₂, hrun, hrest, rfl⟩, hfaithful⟩
    obtain ⟨rfl, rfl⟩ := (hp t₁ a').mp
      ⟨hrun, fun e he => hfaithful e (List.mem_append_left _ he)⟩
    obtain ⟨rfl, rfl⟩ := (hf t₂ b).mp
      ⟨hrest, fun e he => hfaithful e (List.mem_append_right _ he)⟩
    exact ⟨rfl, rfl⟩
  · rintro ⟨rfl, rfl⟩
    obtain ⟨hrun, hfirst⟩ := (hp _ a).mpr ⟨rfl, rfl⟩
    obtain ⟨hrest, hsecond⟩ := (hf _ b).mpr ⟨rfl, rfl⟩
    refine ⟨⟨a, _, _, hrun, hrest, rfl⟩, fun e he => ?_⟩
    rcases List.mem_append.mp he with he | he
    · exact hfirst e he
    · exact hsecond e he

/-- A copy from inside the buffer comes first. -/
theorem copies_memcpy_bind {data : List β} {γ : Type} {offset width : Nat}
    {f : List β → Prog (Buffer β) γ} {rest : List Copy} {c : γ} (h : offset + width ≤ data.length)
    (hf : Copies data (f ((data.drop offset).take width)) rest c) :
    Copies data (memcpy offset width >>= f) (⟨offset, width⟩ :: rest) c :=
  (copies_memcpy h).bind hf

/-- What follows reads nothing any more. -/
theorem Copies.bind_nil {data : List β} {α γ : Type} {p : Prog (Buffer β) α}
    {f : α → Prog (Buffer β) γ} {first : List Copy} {a : α} {c : γ} (hp : Copies data p first a)
    (hf : Copies data (f a) [] c) : Copies data (p >>= f) first c := by
  have h := hp.bind hf
  rwa [List.append_nil] at h

/-! ## §3 Unsigned arithmetic -/

/-- Subtraction of unsigned numbers of `bits` bits. -/
def wrapSub (bits a b : Nat) : Nat := (a + 2 ^ bits - b) % 2 ^ bits

/-- Addition of unsigned numbers of `bits` bits. -/
def wrapAdd (bits a b : Nat) : Nat := (a + b) % 2 ^ bits

theorem wrapSub_of_le {bits a b : Nat} (h : b ≤ a) (ha : a < 2 ^ bits) : wrapSub bits a b = a - b := by
  rw [wrapSub, Nat.sub_add_comm h, Nat.add_mod_right, Nat.mod_eq_of_lt (by omega)]

theorem wrapAdd_of_lt {bits a b : Nat} (h : a + b < 2 ^ bits) : wrapAdd bits a b = a + b :=
  Nat.mod_eq_of_lt h

end Interaction
