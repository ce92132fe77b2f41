import Lx.Lib.Interaction
import Mathlib.Data.List.Forall2

/-!
# Comparing programs

Two ways in which two programs can be the same to an observer.

- `Muted drop given p q`: on `given` answers `q` is `p` without some of the calls in `drop`.
  Whatever one of them does the other does too, up to such calls.
- `Alike C E R p q`: on answers that `E` does not tell apart the programs make calls that `C`
  does not tell apart. A program that is alike itself does not depend on what `E` leaves open.

And two ways to speak of the runs of one program: what holds whenever it makes a call
(`Watched`), also in runs that never end, and what holds at the end of a run (`Ends`).
-/

namespace Interaction.Prog

variable {S : Signature} {α β : Type}

/-! ## §1 Erasing calls -/

section Muted

variable {drop : S.Call → Bool} {given : Event S → Prop}

/-- `q` is `p` without some of the calls in `drop`, as long as the answers are `given` ones. -/
inductive Muted (drop : S.Call → Bool) (given : Event S → Prop) : Prog S α → Prog S α → Prop where
  | ret {a : α} : Muted drop given (.ret a) (.ret a)
  | block : Muted drop given .block .block
  | call {c : S.Call} {k k' : S.Answer c → Prog S α}
      (rest : ∀ x, given ⟨c, x⟩ → Muted drop given (k x) (k' x)) :
      Muted drop given (.call c k) (.call c k')
  | skip {c : S.Call} {k : S.Answer c → Prog S α} {q : Prog S α} (dropped : drop c = true)
      (x : S.Answer c) (rest : ∀ y, Muted drop given (k y) q) : Muted drop given (.call c k) q

theorem Muted.refl (p : Prog S α) : Muted drop given p p := by
  induction p with
  | ret a => exact .ret
  | call c k ih => exact .call fun x _ => ih x
  | block => exact .block

theorem Muted.bind {p q : Prog S α} {f g : α → Prog S β} (hp : Muted drop given p q)
    (hf : ∀ a, Muted drop given (f a) (g a)) : Muted drop given (p >>= f) (q >>= g) := by
  induction hp with
  | ret => exact hf _
  | block => exact .block
  | call _ ih => exact .call ih
  | skip hdrop x _ ih => exact .skip hdrop x ih

/-- What both programs do first makes no difference. -/
theorem Muted.after (p : Prog S α) {f g : α → Prog S β} (hf : ∀ a, Muted drop given (f a) (g a)) :
    Muted drop given (p >>= f) (p >>= g) :=
  (Muted.refl p).bind hf

/-- Both programs ask first, and may rely on the answer. -/
theorem Muted.ask {c : S.Call} {f g : S.Answer c → Prog S β}
    (hf : ∀ x, given ⟨c, x⟩ → Muted drop given (f x) (g x)) :
    Muted drop given (perform c >>= f) (perform c >>= g) :=
  .call hf

/-- The events of calls that are never dropped. -/
def kept (drop : S.Call → Bool) (t : Trace S) : Trace S := t.filter fun e => !drop e.1

/-- What the longer program does, the shorter one does without the dropped calls. -/
theorem Muted.run {p q : Prog S α} {t : Trace S} {a : α} (h : Muted drop given p q)
    (hrun : p.Run t a) (hgiven : ∀ e ∈ t, given e) :
    ∃ u, q.Run u a ∧ u.Sublist t ∧ kept drop u = kept drop t := by
  induction h generalizing t with
  | ret => exact ⟨t, hrun, List.Sublist.refl t, rfl⟩
  | block => exact hrun.elim
  | @call c k k' _ ih =>
    obtain ⟨x, t', rfl, hrest⟩ := hrun
    obtain ⟨hx, htail⟩ := List.forall_mem_cons.mp hgiven
    obtain ⟨u, hu, hsub, hkept⟩ := ih x hx hrest htail
    refine ⟨⟨c, x⟩ :: u, ⟨x, u, rfl, hu⟩, hsub.cons_cons _, ?_⟩
    unfold kept at hkept ⊢
    simp only [List.filter_cons, hkept]
  | @skip c k q hdrop x _ ih =>
    obtain ⟨y, t', rfl, hrest⟩ := hrun
    obtain ⟨u, hu, hsub, hkept⟩ := ih y hrest (List.forall_mem_cons.mp hgiven).2
    refine ⟨u, hu, hsub.cons _, ?_⟩
    rw [hkept]
    simp [kept, hdrop]

end Muted

/-! ## §2 Answers that look alike -/

section Alike

variable {C : S.Call → S.Call → Prop} {E : Event S → Event S → Prop} {R : α → β → Prop}

/-- The programs make calls that are related by `C`; on answers that are related by `E` they go
on like this, and return what is related by `R`. -/
inductive Alike (C : S.Call → S.Call → Prop) (E : Event S → Event S → Prop) (R : α → β → Prop) :
    Prog S α → Prog S β → Prop where
  | ret {a : α} {b : β} (h : R a b) : Alike C E R (.ret a) (.ret b)
  | block : Alike C E R .block .block
  | call {c d : S.Call} {k : S.Answer c → Prog S α} {k' : S.Answer d → Prog S β} (seen : C c d)
      (rest : ∀ x y, E ⟨c, x⟩ ⟨d, y⟩ → Alike C E R (k x) (k' y)) : Alike C E R (.call c k) (.call d k')

theorem alike_perform {c d : S.Call} (h : C c d) :
    Alike C E (fun x y => E ⟨c, x⟩ ⟨d, y⟩) (perform c) (perform d) :=
  .call h fun _ _ hxy => .ret hxy

theorem Alike.bind {γ δ : Type} {Q : γ → δ → Prop} {p : Prog S α} {q : Prog S β}
    {k : α → Prog S γ} {l : β → Prog S δ} (hp : Alike C E R p q)
    (hk : ∀ a b, R a b → Alike C E Q (k a) (l b)) : Alike C E Q (p >>= k) (q >>= l) := by
  induction hp with
  | ret h => exact hk _ _ h
  | block => exact .block
  | call hseen _ ih => exact .call hseen ih

theorem Alike.exceptT_bind {ε γ : Type} {p : ExceptT ε (Prog S) α} {k : α → ExceptT ε (Prog S) γ}
    (hp : Alike C E Eq p.run p.run) (hk : ∀ a, Alike C E Eq (k a).run (k a).run) :
    Alike C E Eq (p >>= k).run (p >>= k).run := by
  refine Alike.bind (k := ExceptT.bindCont k) (l := ExceptT.bindCont k) hp ?_
  rintro r _ rfl
  cases r with
  | error e => exact .ret rfl
  | ok a => exact hk a

theorem Alike.exceptT_lift {ε : Type} {p : Prog S α} (hp : Alike C E Eq p p) :
    Alike C E Eq (ExceptT.lift p : ExceptT ε (Prog S) α).run
      (ExceptT.lift p : ExceptT ε (Prog S) α).run := by
  refine Alike.bind (k := fun a => .ret (Except.ok a)) (l := fun a => .ret (Except.ok a)) hp ?_
  rintro a _ rfl
  exact .ret rfl

/-- A program that only sees answers `E` tells apart is alike itself. -/
theorem Within.alike {P : S.Call → Prop} {p : Prog S α} (hp : p.Within P) (hC : ∀ c, P c → C c c)
    (hE : ∀ c, P c → ∀ x y, E ⟨c, x⟩ ⟨c, y⟩ → x = y) : Alike C E Eq p p := by
  induction p with
  | ret a => exact .ret rfl
  | block => exact .block
  | call c k ih =>
    refine .call (hC c hp.1) fun x y hxy => ?_
    rw [hE c hp.1 x y hxy]
    exact ih y (hp.2 y)

/-- Calls may be served by programs that are alike. -/
theorem Alike.interpret {T : Signature} {D : T.Call → T.Call → Prop} {F : Event T → Event T → Prop}
    {p : Prog S α} {q : Prog S β} {h : (c : S.Call) → Prog T (S.Answer c)} (hp : Alike C E R p q)
    (hh : ∀ c d, C c d → Alike D F (fun x y => E ⟨c, x⟩ ⟨d, y⟩) (h c) (h d)) :
    Alike D F R (p.interpret h) (q.interpret h) := by
  induction hp with
  | ret hR => exact .ret hR
  | block => exact .block
  | call hseen _ ih => exact (hh _ _ hseen).bind ih

/-- The answers of a run are those of an environment that sees the calls. -/
def Answered (answer : List S.Call → (c : S.Call) → S.Answer c) (t : Trace S) : Prop :=
  Guarded (fun past e => e.2 = answer (past.map Sigma.fst) e.1) t

/-- An environment that gives to every call that looks like one of the run, after calls that
look like those before it, an answer that looks like the one of the run. -/
def AnswersLike (C : S.Call → S.Call → Prop) (E : Event S → Event S → Prop)
    (answer : List S.Call → (c : S.Call) → S.Answer c) (t : Trace S) : Prop :=
  Guarded (fun past e => ∀ past' d, List.Forall₂ C (past.map Sigma.fst) past' → C e.1 d →
    E e ⟨d, answer past' d⟩) t

/-- Such an environment is called in the same way. -/
theorem Alike.run {p : Prog S α} {q : Prog S β} {t : Trace S} {a : α} (h : Alike C E R p q)
    (hrun : p.Run t a) (answer : List S.Call → (c : S.Call) → S.Answer c)
    (hE : AnswersLike C E answer t) :
    ∃ u b, q.Run u b ∧ R a b ∧ List.Forall₂ C (t.map Sigma.fst) (u.map Sigma.fst) ∧
      Answered answer u := by
  induction h generalizing t answer with
  | @ret a' b' hR =>
    obtain ⟨rfl, rfl⟩ := hrun
    exact ⟨[], b', ⟨rfl, rfl⟩, hR, .nil, guarded_nil⟩
  | block => exact hrun.elim
  | @call c d k k' hseen _ ih =>
    obtain ⟨x, t', rfl, hrest⟩ := hrun
    obtain ⟨hx, hlater⟩ := guarded_cons.mp hE
    -- the rest of the run sees an environment that has been called once
    obtain ⟨u, b, hu, hR, hcalls, hanswered⟩ :=
      ih x (answer [] d) (hx [] d .nil hseen) hrest (fun past => answer (d :: past))
        (hlater.mono fun past e he past' d' hpast => he (d :: past') d' (.cons hseen hpast))
    refine ⟨⟨d, answer [] d⟩ :: u, b, ⟨_, u, rfl, hu⟩, hR, .cons hseen hcalls, ?_⟩
    exact guarded_cons.mpr ⟨rfl, hanswered⟩

end Alike

/-! ## §3 Whenever a call is made -/

section Watched

variable {P : Trace S → Event S → Prop}

/-- Every call that `p` makes after `past` meets `P`, given everything that happened before it. -/
def Watched (P : Trace S → Event S → Prop) : Prog S α → Trace S → Prop
  | .ret _, _ => True
  | .call c k, past => ∀ x, P past ⟨c, x⟩ ∧ Watched P (k x) (past ++ [⟨c, x⟩])
  | .block, _ => True

/-- Calls that are always allowed need no attention. -/
theorem Within.watched {Q : S.Call → Prop} {p : Prog S α} (hp : p.Within Q)
    (hQ : ∀ c, Q c → ∀ past x, P past ⟨c, x⟩) (past : Trace S) : Watched P p past := by
  induction p generalizing past with
  | ret a => trivial
  | call c k ih => exact fun x => ⟨hQ c hp.1 past x, ih x (hp.2 x) _⟩
  | block => trivial

theorem Watched.bind {p : Prog S α} {k : α → Prog S β} {past : Trace S} (hp : Watched P p past)
    (hk : ∀ t a, p.Run t a → Watched P (k a) (past ++ t)) : Watched P (p >>= k) past := by
  induction p generalizing past with
  | ret a => simpa using hk [] a ⟨rfl, rfl⟩
  | block => trivial
  | call c k' ih =>
    intro x
    refine ⟨(hp x).1, ih x (hp x).2 fun t a hrun => ?_⟩
    have h := hk (⟨c, x⟩ :: t) a ⟨x, t, rfl, hrun⟩
    rwa [List.append_assoc, List.singleton_append]

end Watched

/-! ## §4 The end of a run -/

section Ends

/-- Every run of `p` ends like this. -/
def Ends (P : Trace S → α → Prop) (p : Prog S α) : Prop := ∀ t a, p.Run t a → P t a

theorem Ends.mono {P Q : Trace S → α → Prop} {p : Prog S α} (hp : Ends P p)
    (hPQ : ∀ t a, P t a → Q t a) : Ends Q p :=
  fun t a hrun => hPQ t a (hp t a hrun)

/-- What holds at the end of the second part may depend on how the first one ended. -/
theorem Ends.bind {P : Trace S → β → Prop} {Q : Trace S → α → Prop} {p : Prog S α}
    {k : α → Prog S β} (hp : Ends Q p)
    (hk : ∀ t a, Q t a → Ends (fun u b => P (t ++ u) b) (k a)) : Ends P (p >>= k) := by
  intro t b hrun
  obtain ⟨a, t₁, t₂, h₁, h₂, rfl⟩ := run_bind_iff.mp hrun
  exact hk t₁ a (hp t₁ a h₁) t₂ b h₂

/-- An exception is the end of the whole. -/
theorem Ends.exceptT_bind {ε : Type} {P : Trace S → Except ε β → Prop} {Q : Trace S → Except ε α → Prop}
    {p : ExceptT ε (Prog S) α} {k : α → ExceptT ε (Prog S) β} (hp : Ends Q p.run)
    (herror : ∀ t e, Q t (.error e) → P t (.error e))
    (hk : ∀ t a, Q t (.ok a) → Ends (fun u b => P (t ++ u) b) (k a).run) :
    Ends P (p >>= k).run := by
  intro t r hrun
  rcases run_exceptT_bind_iff.mp hrun with ⟨e, h, rfl⟩ | ⟨a, t₁, t₂, h₁, h₂, rfl⟩
  · exact herror t e (hp t _ h)
  · exact hk t₁ a (hp t₁ _ h₁) t₂ r h₂

end Ends

end Interaction.Prog
