import Mathlib.Logic.Relation

/-!
# Programs that call an environment

A program is a finite-branching decision tree over the calls of a `Signature`:
it returns a value, performs one call and continues with the answer, or blocks
forever. Nothing is assumed about the answers, so a *run* is just a path through
the tree: the list of calls with the answers they got, and the value returned.

## Main notions

- `Prog S α` — programs over a signature, with their monad structure
- `Prog.Run p t a` — `p` can return `a` after exchanging the trace `t`
- `Prog.exec env p` — execution against an environment given as a function of the history
- `Prog.handle env p s` — execution against an environment with a state
- `Prog.interpret h p` — every call of `p` replaced by the program `h` implements it with
- `Prog.gather h step calls s` — a fixed list of calls, their answers folded into a state
- `Guarded P t` — every event of `t` is allowed by the events before it

The rules `run_bind_iff`, `run_interpret_iff` and `guarded_append` are the ones proofs
about concrete programs are built from; `append_split_right` and its companions locate an
event among the stretches a trace is made of.
-/

namespace Interaction

/-! ## §1 Signatures and programs -/

/-- The calls a program may make, each with the type of its answers. -/
structure Signature where
  Call : Type
  Answer : Call → Type

/-- A program over the calls of `S` that returns an `α`. -/
inductive Prog (S : Signature) (α : Type) : Type where
  | ret (a : α)
  | call (c : S.Call) (k : S.Answer c → Prog S α)
  /-- Waits for something that never happens. -/
  | block

/-- A call together with the answer it got. -/
abbrev Event (S : Signature) := (c : S.Call) × S.Answer c

/-- The exchange between a program and its environment, oldest event first. -/
abbrev Trace (S : Signature) := List (Event S)

variable {S T : Signature} {α β : Type}

namespace Prog

def bind : Prog S α → (α → Prog S β) → Prog S β
  | .ret a, f => f a
  | .call c k, f => .call c fun x => (k x).bind f
  | .block, _ => .block

instance : Monad (Prog S) where
  pure := .ret
  bind := bind

@[simp] theorem pure_eq_ret (a : α) : (pure a : Prog S α) = .ret a := rfl

@[simp] theorem ret_bind (a : α) (f : α → Prog S β) : (Prog.ret a >>= f) = f a := rfl

@[simp] theorem call_bind (c : S.Call) (k : S.Answer c → Prog S α) (f : α → Prog S β) :
    (Prog.call c k >>= f) = .call c fun x => k x >>= f := rfl

@[simp] theorem block_bind (f : α → Prog S β) : ((.block : Prog S α) >>= f) = .block := rfl

theorem bind_assoc {γ : Type} (p : Prog S α) (f : α → Prog S β) (g : β → Prog S γ) :
    (p >>= f >>= g) = p >>= fun a => f a >>= g := by
  induction p with
  | ret a => rfl
  | call c k ih =>
    simp only [call_bind]
    congr 1
    funext x
    exact ih x
  | block => rfl

end Prog

/-- The program that makes one call and returns its answer. -/
def perform (c : S.Call) : Prog S (S.Answer c) := .call c .ret

/-! ## §2 Runs -/

namespace Prog

/-- `p.Run t a`: one way through `p` exchanges exactly `t` and returns `a`.
    The environment may answer every call as it likes. -/
def Run : Prog S α → Trace S → α → Prop
  | .ret a, t, b => t = [] ∧ b = a
  | .call c k, t, b => ∃ x t', t = ⟨c, x⟩ :: t' ∧ (k x).Run t' b
  | .block, _, _ => False

@[simp] theorem run_ret {a b : α} {t : Trace S} :
    (Prog.ret a).Run t b ↔ t = [] ∧ b = a := Iff.rfl

@[simp] theorem run_call {c : S.Call} {k : S.Answer c → Prog S α} {t : Trace S} {b : α} :
    (Prog.call c k).Run t b ↔ ∃ x t', t = ⟨c, x⟩ :: t' ∧ (k x).Run t' b := Iff.rfl

@[simp] theorem run_block {t : Trace S} {b : α} : (.block : Prog S α).Run t b ↔ False := Iff.rfl

@[simp] theorem run_perform {c : S.Call} {t : Trace S} {x : S.Answer c} :
    (perform c).Run t x ↔ t = [⟨c, x⟩] := by
  constructor
  · rintro ⟨y, t', rfl, rfl, rfl⟩
    rfl
  · rintro rfl
    exact ⟨x, [], rfl, rfl, rfl⟩

/-- A run of a sequence is a run of the first part followed by a run of the second. -/
theorem run_bind_iff {p : Prog S α} {f : α → Prog S β} {t : Trace S} {b : β} :
    (p >>= f).Run t b ↔ ∃ a t₁ t₂, p.Run t₁ a ∧ (f a).Run t₂ b ∧ t = t₁ ++ t₂ := by
  induction p generalizing t with
  | ret a =>
    constructor
    · intro h
      exact ⟨a, [], t, ⟨rfl, rfl⟩, h, rfl⟩
    · rintro ⟨_, _, t₂, ⟨rfl, rfl⟩, h, rfl⟩
      exact h
  -- the first exchange belongs to the first part
  | call c k ih =>
    constructor
    · rintro ⟨x, t', rfl, h⟩
      obtain ⟨a, t₁, t₂, h₁, h₂, rfl⟩ := (ih x).mp h
      exact ⟨a, ⟨c, x⟩ :: t₁, t₂, ⟨x, t₁, rfl, h₁⟩, h₂, rfl⟩
    · rintro ⟨a, _, t₂, ⟨x, t₁, rfl, h₁⟩, h₂, rfl⟩
      exact ⟨x, t₁ ++ t₂, rfl, (ih x).mpr ⟨a, t₁, t₂, h₁, h₂, rfl⟩⟩
  | block =>
    constructor
    · intro h
      exact h.elim
    · rintro ⟨_, _, _, h, _⟩
      exact h.elim

/-- What a run returned is determined by the answers it got. -/
theorem Run.unique {p : Prog S α} {t : Trace S} {a b : α}
    (ha : p.Run t a) (hb : p.Run t b) : a = b := by
  induction p generalizing t with
  | ret c => exact ha.2.trans hb.2.symm
  | call c k ih =>
    obtain ⟨x, t', rfl, hx⟩ := ha
    obtain ⟨y, t'', heq, hy⟩ := hb
    obtain ⟨heq₁, rfl⟩ := List.cons.inj heq
    -- the same call was answered with the same answer
    obtain rfl := eq_of_heq (Sigma.mk.inj heq₁).2
    exact ih x hx hy
  | block => exact ha.elim

/-- Two runs whose exchanges continue to the same history are the same run: a program
    decides from the answers alone when it stops. -/
theorem Run.prefix_unique {p : Prog S α} {t₁ t₂ u₁ u₂ : Trace S} {a b : α}
    (h₁ : p.Run t₁ a) (h₂ : p.Run t₂ b) (heq : t₁ ++ u₁ = t₂ ++ u₂) :
    t₁ = t₂ ∧ u₁ = u₂ ∧ a = b := by
  induction p generalizing t₁ t₂ with
  | ret c =>
    obtain ⟨rfl, rfl⟩ := h₁
    obtain ⟨rfl, rfl⟩ := h₂
    exact ⟨rfl, heq, rfl⟩
  | call c k ih =>
    obtain ⟨x, t₁', rfl, hx⟩ := h₁
    obtain ⟨y, t₂', rfl, hy⟩ := h₂
    simp only [List.cons_append, List.cons.injEq, Sigma.mk.injEq, heq_eq_eq, true_and] at heq
    obtain ⟨rfl, htail⟩ := heq
    obtain ⟨rfl, hrest⟩ := ih x hx hy htail
    exact ⟨rfl, hrest⟩
  | block => exact h₁.elim

/-- Sequencing with exceptions: the first part throws, or it returns and the second part
    goes on. -/
theorem run_exceptT_bind_iff {ε : Type} {p : ExceptT ε (Prog S) α} {f : α → ExceptT ε (Prog S) β}
    {t : Trace S} {r : Except ε β} :
    (p >>= f).run.Run t r ↔ (∃ e, p.run.Run t (.error e) ∧ r = .error e) ∨
      ∃ a t₁ t₂, p.run.Run t₁ (.ok a) ∧ (f a).run.Run t₂ r ∧ t = t₁ ++ t₂ := by
  change (p.run >>= ExceptT.bindCont f).Run t r ↔ _
  rw [run_bind_iff]
  constructor
  · rintro ⟨x, t₁, t₂, hp, hf, rfl⟩
    cases x with
    | error e =>
      obtain ⟨rfl, rfl⟩ := hf
      exact .inl ⟨e, by simpa using hp, rfl⟩
    | ok a => exact .inr ⟨a, t₁, t₂, hp, hf, rfl⟩
  · rintro (⟨e, hp, rfl⟩ | ⟨a, t₁, t₂, hp, hf, rfl⟩)
    · exact ⟨.error e, t, [], hp, ⟨rfl, rfl⟩, by simp⟩
    · exact ⟨.ok a, t₁, t₂, hp, hf, rfl⟩

/-- A lifted program throws nothing. -/
theorem run_exceptT_lift_iff {ε : Type} {p : Prog S α} {t : Trace S} {r : Except ε α} :
    (ExceptT.lift p : ExceptT ε (Prog S) α).run.Run t r ↔ ∃ a, p.Run t a ∧ r = .ok a := by
  change (p >>= fun a => .ret (.ok a)).Run t r ↔ _
  rw [run_bind_iff]
  constructor
  · rintro ⟨a, t₁, t₂, hp, ⟨rfl, rfl⟩, rfl⟩
    exact ⟨a, by simpa using hp, rfl⟩
  · rintro ⟨a, hp, rfl⟩
    exact ⟨a, t, [], hp, ⟨rfl, rfl⟩, by simp⟩

/-- What follows a lifted program. -/
theorem run_exceptT_lift_bind_iff {ε : Type} {p : Prog S α} {f : α → ExceptT ε (Prog S) β}
    {t : Trace S} {r : Except ε β} :
    ((ExceptT.lift p : ExceptT ε (Prog S) α) >>= f).run.Run t r ↔
      ∃ a t₁ t₂, p.Run t₁ a ∧ (f a).run.Run t₂ r ∧ t = t₁ ++ t₂ := by
  rw [run_exceptT_bind_iff]
  simp only [run_exceptT_lift_iff]
  constructor
  · rintro (⟨e, ⟨a, -, hcontra⟩, -⟩ | ⟨a, t₁, t₂, ⟨b, hp, hb⟩, hf, rfl⟩)
    · cases hcontra
    · cases hb
      exact ⟨a, t₁, t₂, hp, hf, rfl⟩
  · rintro ⟨a, t₁, t₂, hp, hf, rfl⟩
    exact .inr ⟨a, t₁, t₂, ⟨a, hp, rfl⟩, hf, rfl⟩

/-! ## §3 Restricting the calls of a program -/

/-- Every call `p` can make, on any path, satisfies `P`. -/
def Within (P : S.Call → Prop) : Prog S α → Prop
  | .ret _ => True
  | .call c k => P c ∧ ∀ x, (k x).Within P
  | .block => True

@[simp] theorem within_ret {P : S.Call → Prop} {a : α} : (Prog.ret a).Within P := trivial

theorem within_perform {P : S.Call → Prop} {c : S.Call} (h : P c) : (perform c).Within P :=
  ⟨h, fun _ => trivial⟩

theorem Within.bind {P : S.Call → Prop} {p : Prog S α} {f : α → Prog S β}
    (hp : p.Within P) (hf : ∀ a, (f a).Within P) : (p >>= f).Within P := by
  induction p with
  | ret a => exact hf a
  | call c k ih => exact ⟨hp.1, fun x => ih x (hp.2 x)⟩
  | block => trivial

theorem Within.exceptT_bind {ε : Type} {P : S.Call → Prop} {p : ExceptT ε (Prog S) α}
    {f : α → ExceptT ε (Prog S) β} (hp : p.run.Within P) (hf : ∀ a, (f a).run.Within P) :
    (p >>= f).run.Within P := by
  refine Within.bind (f := ExceptT.bindCont f) hp fun x => ?_
  cases x with
  | error e => trivial
  | ok a => exact hf a

theorem Within.mono {P Q : S.Call → Prop} {p : Prog S α} (hp : p.Within P)
    (hPQ : ∀ c, P c → Q c) : p.Within Q := by
  induction p with
  | ret a => trivial
  | call c k ih => exact ⟨hPQ c hp.1, fun x => ih x (hp.2 x)⟩
  | block => trivial

/-- The calls in the trace of a run are calls of the program. -/
theorem Within.run {P : S.Call → Prop} {p : Prog S α} {t : Trace S} {a : α}
    (hp : p.Within P) (h : p.Run t a) : ∀ e ∈ t, P e.1 := by
  induction p generalizing t with
  | ret b =>
    obtain ⟨rfl, -⟩ := h
    simp
  | call c k ih =>
    obtain ⟨x, t', rfl, h'⟩ := h
    intro e he
    rcases List.mem_cons.mp he with rfl | he'
    · exact hp.1
    · exact ih x (hp.2 x) h' e he'
  | block => exact h.elim

/-! ## §4 Execution against a fixed environment -/

/-- Execute `p` against an environment that chooses every answer from the history
    `past` of the exchange. Returns the value and the complete history. -/
def exec (env : Trace S → (c : S.Call) → S.Answer c) (past : Trace S) :
    Prog S α → Option (α × Trace S)
  | .ret a => some (a, past)
  | .call c k => (k (env past c)).exec env (past ++ [⟨c, env past c⟩])
  | .block => none

/-- An execution is one of the runs. -/
theorem exec_run {env : Trace S → (c : S.Call) → S.Answer c} {p : Prog S α}
    {past : Trace S} {a : α} {whole : Trace S} (h : p.exec env past = some (a, whole)) :
    ∃ t, whole = past ++ t ∧ p.Run t a := by
  induction p generalizing past with
  | ret b =>
    simp only [exec, Option.some.injEq, Prod.mk.injEq] at h
    obtain ⟨rfl, rfl⟩ := h
    exact ⟨[], by simp, rfl, rfl⟩
  | call c k ih =>
    obtain ⟨t, rfl, ht⟩ := ih _ h
    exact ⟨⟨c, env past c⟩ :: t, by simp, _, t, rfl, ht⟩
  | block => cases h

section Handle

variable {σ : Type} (env : σ → (c : S.Call) → S.Answer c × σ)

/-- Execute `p` against an environment with a state of its own. -/
def handle : Prog S α → σ → Option (α × σ)
  | .ret a, s => some (a, s)
  | .call c k, s => (k (env s c).1).handle (env s c).2
  | .block, _ => none

theorem handle_bind (p : Prog S α) (f : α → Prog S β) (s : σ) :
    (p >>= f).handle env s = (p.handle env s).bind fun out => (f out.1).handle env out.2 := by
  induction p generalizing s with
  | ret a => rfl
  | call c k ih => exact ih _ _
  | block => rfl

end Handle

/-- No path through `p` blocks. -/
def Live : Prog S α → Prop
  | .ret _ => True
  | .call _ k => ∀ x, (k x).Live
  | .block => False

theorem live_perform {c : S.Call} : (perform c).Live := fun _ => trivial

theorem Live.bind {p : Prog S α} {f : α → Prog S β} (hp : p.Live) (hf : ∀ a, (f a).Live) :
    (p >>= f).Live := by
  induction p with
  | ret a => exact hf a
  | call c k ih => exact fun x => ih x (hp x)
  | block => exact hp.elim

theorem Live.exceptT_bind {ε : Type} {p : ExceptT ε (Prog S) α} {f : α → ExceptT ε (Prog S) β}
    (hp : p.run.Live) (hf : ∀ a, (f a).run.Live) : (p >>= f).run.Live := by
  refine Live.bind (f := ExceptT.bindCont f) hp fun x => ?_
  cases x with
  | error e => trivial
  | ok a => exact hf a

theorem Live.exceptT_lift {ε : Type} {p : Prog S α} (hp : p.Live) :
    (ExceptT.lift p : ExceptT ε (Prog S) α).run.Live := by
  change (p >>= fun a => .ret (Except.ok a)).Live
  exact hp.bind fun _ => trivial

/-- A program that never blocks comes to an end against every environment. -/
theorem Live.exec {p : Prog S α} (hp : p.Live) (env : Trace S → (c : S.Call) → S.Answer c)
    (past : Trace S) : ∃ a whole, p.exec env past = some (a, whole) := by
  induction p generalizing past with
  | ret a => exact ⟨a, past, rfl⟩
  | call c k ih => exact ih _ (hp _) _
  | block => exact hp.elim

/-- A test passed by the outcome of an execution is passed by some run. -/
theorem exists_run_of_exec (env : Trace S → (c : S.Call) → S.Answer c) (p : Prog S α)
    (test : α × Trace S → Bool) (h : (p.exec env []).any test = true) :
    ∃ t a, p.Run t a ∧ test (a, t) = true := by
  obtain ⟨⟨a, whole⟩, hexec, htest⟩ := (Option.any_eq_true _ _).mp h
  obtain ⟨t, hwhole, hrun⟩ := exec_run hexec
  rw [List.nil_append] at hwhole
  exact ⟨t, a, hrun, hwhole ▸ htest⟩

/-! ## §5 Implementing calls by programs -/

/-- Replace every call of `p` by the program that implements it. -/
def interpret (h : (c : S.Call) → Prog T (S.Answer c)) : Prog S α → Prog T α
  | .ret a => .ret a
  | .call c k => h c >>= fun x => (k x).interpret h
  | .block => .block

/-- `Implements h u t`: the lower-level trace `t` is what the implementations `h`
    exchange, one after the other, to answer the calls of `u`. -/
inductive Implements (h : (c : S.Call) → Prog T (S.Answer c)) : Trace S → Trace T → Prop where
  | nil : Implements h [] []
  | cons {c : S.Call} {x : S.Answer c} {t t' : Trace T} {u : Trace S} :
      (h c).Run t x → Implements h u t' → Implements h (⟨c, x⟩ :: u) (t ++ t')

@[simp] theorem implements_nil_iff {h : (c : S.Call) → Prog T (S.Answer c)} {t : Trace T} :
    Implements h [] t ↔ t = [] := by
  constructor
  · rintro ⟨⟩
    rfl
  · rintro rfl
    exact .nil

theorem implements_cons_iff {h : (c : S.Call) → Prog T (S.Answer c)} {e : Event S} {u : Trace S}
    {t : Trace T} :
    Implements h (e :: u) t ↔ ∃ t₁ t₂, t = t₁ ++ t₂ ∧ (h e.1).Run t₁ e.2 ∧ Implements h u t₂ := by
  constructor
  · rintro ⟨⟩
    exact ⟨_, _, rfl, ‹_›, ‹_›⟩
  · rintro ⟨t₁, t₂, rfl, hrun, hrest⟩
    exact .cons hrun hrest

/-- A run of an implemented program is a run of the program whose calls are answered
    by runs of their implementations. -/
theorem run_interpret_iff {h : (c : S.Call) → Prog T (S.Answer c)} {p : Prog S α}
    {t : Trace T} {a : α} :
    (p.interpret h).Run t a ↔ ∃ u, p.Run u a ∧ Implements h u t := by
  induction p generalizing t with
  | ret b =>
    constructor
    · rintro ⟨rfl, rfl⟩
      exact ⟨[], ⟨rfl, rfl⟩, .nil⟩
    · rintro ⟨_, ⟨rfl, rfl⟩, hu⟩
      cases hu
      exact ⟨rfl, rfl⟩
  | call c k ih =>
    -- the trace of a call is what its implementation exchanged
    simp only [interpret, run_bind_iff]
    constructor
    · rintro ⟨x, t₁, t₂, h₁, h₂, rfl⟩
      obtain ⟨u, hu, himp⟩ := (ih x).mp h₂
      exact ⟨⟨c, x⟩ :: u, ⟨x, u, rfl, hu⟩, .cons h₁ himp⟩
    · rintro ⟨_, ⟨x, u, rfl, hu⟩, himp⟩
      cases himp with
      | cons h₁ hrest => exact ⟨x, _, _, h₁, (ih x).mpr ⟨u, hu, hrest⟩, rfl⟩
  | block =>
    constructor
    · intro h
      exact h.elim
    · rintro ⟨_, h, _⟩
      exact h.elim

/-- Implementing a concatenation implements both parts. -/
theorem Implements.append_inv {h : (c : S.Call) → Prog T (S.Answer c)} {u₁ u₂ : Trace S}
    {t : Trace T} (himp : Implements h (u₁ ++ u₂) t) :
    ∃ t₁ t₂, t = t₁ ++ t₂ ∧ Implements h u₁ t₁ ∧ Implements h u₂ t₂ := by
  induction u₁ generalizing t with
  | nil => exact ⟨[], t, rfl, .nil, himp⟩
  | cons e u₁ ih =>
    cases himp with
    | cons hrun hrest =>
      obtain ⟨t₁, t₂, rfl, h₁, h₂⟩ := ih hrest
      exact ⟨_, t₂, by simp, .cons hrun h₁, h₂⟩

section Gather

variable {σ : Type} {h : (c : S.Call) → Prog T (S.Answer c)} {step : σ → Event S → σ} {s s' : σ}
  {calls calls' : List S.Call} {t : Trace T}

variable (h step) in
/-- Make the calls one after the other and collect their answers in a state. -/
def gather : List S.Call → σ → Prog T σ
  | [], s => .ret s
  | c :: rest, s => h c >>= fun x => gather rest (step s ⟨c, x⟩)

theorem gather_append :
    gather h step (calls ++ calls') s = gather h step calls s >>= gather h step calls' := by
  induction calls generalizing s with
  | nil => rfl
  | cons c rest ih =>
    simp only [List.cons_append, gather, bind_assoc]
    congr 1
    funext x
    exact ih

theorem gather_cons (c : S.Call) :
    gather h step (c :: calls) s = gather h step [c] s >>= gather h step calls := by
  rw [← gather_append, List.singleton_append]

/-- What was collected is a fold over the calls with their answers. -/
theorem run_gather_iff :
    (gather h step calls s).Run t s' ↔
      ∃ u, u.map Sigma.fst = calls ∧ Implements h u t ∧ s' = u.foldl step s := by
  induction calls generalizing s t with
  | nil =>
    constructor
    · rintro ⟨rfl, rfl⟩
      exact ⟨[], rfl, .nil, rfl⟩
    · rintro ⟨u, hcalls, himp, rfl⟩
      obtain rfl := List.map_eq_nil_iff.mp hcalls
      exact ⟨implements_nil_iff.mp himp, rfl⟩
  | cons c rest ih =>
    simp only [gather, run_bind_iff, ih]
    constructor
    · rintro ⟨x, t₁, t₂, hrun, ⟨u, rfl, himp, rfl⟩, rfl⟩
      exact ⟨⟨c, x⟩ :: u, rfl, .cons hrun himp, rfl⟩
    · rintro ⟨u, hcalls, himp, rfl⟩
      obtain ⟨⟨c', x⟩, u, rfl, rfl, rfl⟩ := List.map_eq_cons_iff.mp hcalls
      obtain ⟨t₁, t₂, rfl, hrun, himp⟩ := implements_cons_iff.mp himp
      exact ⟨x, t₁, t₂, hrun, ⟨u, rfl, himp, rfl⟩, rfl⟩

end Gather

end Prog

/-! ## §6 Events justified by their past -/

section Guarded

variable {ε : Type}

/-- Every event of `t` is allowed by `P`, which may look at all events before it. -/
def Guarded (P : List ε → ε → Prop) (t : List ε) : Prop :=
  ∀ past e rest, t = past ++ e :: rest → P past e

theorem guarded_nil {P : List ε → ε → Prop} : Guarded P [] := by
  intro past e rest h
  simp at h

/-- An event is justified by the whole past, the part before its own segment included. -/
theorem guarded_append {P : List ε → ε → Prop} {t u : List ε} :
    Guarded P (t ++ u) ↔ Guarded P t ∧ Guarded (fun past => P (t ++ past)) u := by
  constructor
  · intro h
    refine ⟨fun past e rest ht => ?_, fun past e rest hu => ?_⟩
    · exact h past e (rest ++ u) (by simp [ht])
    · exact h (t ++ past) e rest (by simp [hu])
  · rintro ⟨ht, hu⟩ past e rest heq
    rcases List.append_eq_append_iff.mp heq with ⟨m, rfl, hm⟩ | ⟨m, rfl, hm⟩
    · exact hu m e rest hm
    · -- the event is the last one of `t`, or lies inside it
      cases m with
      | nil => simpa using hu [] e rest (by simpa using hm.symm)
      | cons e' m' =>
        obtain ⟨rfl, rfl⟩ := List.cons.inj hm
        exact ht past e m' rfl

/-- Events that are allowed whatever came before them need no look at the past. -/
theorem Guarded.of_forall {P : List ε → ε → Prop} {t : List ε} (h : ∀ e ∈ t, ∀ past, P past e) :
    Guarded P t :=
  fun past e _ heq => h e (by simp [heq]) past

theorem guarded_cons {P : List ε → ε → Prop} {e : ε} {t : List ε} :
    Guarded P (e :: t) ↔ P [] e ∧ Guarded (fun past => P (e :: past)) t := by
  rw [← List.singleton_append, guarded_append]
  refine and_congr ⟨fun h => h [] e [] rfl, fun h past e' rest heq => ?_⟩ Iff.rfl
  cases past with
  | nil =>
    obtain ⟨rfl, -⟩ := List.cons.inj heq
    exact h
  | cons _ _ => simp at heq

theorem Guarded.mono {P Q : List ε → ε → Prop} {t : List ε} (h : Guarded P t)
    (hPQ : ∀ past e, P past e → Q past e) : Guarded Q t :=
  fun past e rest heq => hPQ past e (h past e rest heq)

/-- An event that tolerates none of its kind before it happens at most once. -/
theorem Guarded.countP_le_one {q : ε → Bool} {t : List ε}
    (h : Guarded (fun past e => q e = true → ∀ e' ∈ past, q e' = false) t) : t.countP q ≤ 1 := by
  induction t with
  | nil => simp
  | cons e t ih =>
    have htail := (guarded_cons.mp h).2
    cases hq : q e with
    | false =>
      rw [List.countP_cons_of_neg (by simp [hq])]
      exact ih (htail.mono fun past e' hpast hq' e'' he'' => hpast hq' e'' (by simp [he'']))
    | true =>
      -- after `e` no further event of the kind is allowed
      have hnone : t.countP q = 0 := by
        refine List.countP_eq_zero.mpr fun e' he' hq' => ?_
        obtain ⟨past, rest, rfl⟩ := List.append_of_mem he'
        have := htail past e' rest rfl hq' e (by simp)
        rw [hq] at this
        cases this
      simp [List.countP_cons_of_pos hq, hnone]

end Guarded

/-! ## §7 Stretches of a trace -/

section Stretches

variable {α : Type} {P : α → Prop} {u v x y : List α} {a : α}

/-- What a stretch does not contain lies behind it. -/
theorem append_split_right (hu : ∀ b ∈ u, ¬ P b) (ha : P a) (h : u ++ v = x ++ a :: y) :
    ∃ x', x = u ++ x' ∧ v = x' ++ a :: y := by
  rcases List.append_eq_append_iff.mp h with ⟨x', rfl, rfl⟩ | ⟨x', rfl, hx'⟩
  · exact ⟨x', rfl, rfl⟩
  · cases x' with
    | nil => exact ⟨[], by simp, by simpa using hx'.symm⟩
    | cons b x' =>
      obtain ⟨rfl, -⟩ := List.cons.inj hx'
      exact absurd ha (hu a (by simp))

/-- What a stretch does not contain lies in front of it. -/
theorem append_split_left (hv : ∀ b ∈ v, ¬ P b) (ha : P a) (h : u ++ v = x ++ a :: y) :
    ∃ y', y = y' ++ v ∧ u = x ++ a :: y' := by
  rcases List.append_eq_append_iff.mp h with ⟨x', rfl, rfl⟩ | ⟨x', rfl, hx'⟩
  · exact absurd ha (hv a (by simp))
  · cases x' with
    | nil =>
      rw [List.nil_append] at hx'
      exact absurd ha (hv a (by simp [← hx']))
    | cons b x' =>
      obtain ⟨rfl, rfl⟩ := List.cons.inj hx'
      exact ⟨x', rfl, rfl⟩

/-- Two lists that begin with a stretch of `P` followed by something else agree on both. -/
theorem append_inj_of_stretch (hu : ∀ b ∈ u, P b) (hx : ∀ b ∈ x, P b) (hv : ∀ b ∈ v.head?, ¬ P b)
    (hy : ∀ b ∈ y.head?, ¬ P b) (h : u ++ v = x ++ y) : u = x ∧ v = y := by
  rcases List.append_eq_append_iff.mp h with ⟨w, rfl, rfl⟩ | ⟨w, rfl, rfl⟩
  · cases w with
    | nil => simp
    | cons b w => exact absurd (hx b (by simp)) (hv b (by simp))
  · cases w with
    | nil => simp
    | cons b w => exact absurd (hu b (by simp)) (hy b (by simp))

end Stretches

end Interaction
