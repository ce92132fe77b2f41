import Lx.Lib.Interleaving
import Lx.Lib.Loops
import Mathlib.Algebra.GroupWithZero.Nat

/-!
# Simulation between worlds

A world may implement the calls of another one by programs of its own: one call of the
abstract world then takes several steps, and moves happen in between. If every move, and
every run of such a program, is matched by the abstract world, then so is every program
written against the abstract calls: whoever uses them cannot tell the two apart.

What the logs are compared by is a list of observations, one list for every item.

A simulation says that nothing wrong happens. That something happens at all is said by
`Inevitable`: however the world moves, it gets there.
-/

namespace Interaction.World

variable {S T : Signature} {Obs : Type}

/-- What an item of a log shows, over a whole log. -/
def observed {W : World S} (observe : W.Move ⊕ Event S → List Obs) (log : W.Log) : List Obs :=
  log.flatMap observe

section Observed

variable {W : World S} {observe : W.Move ⊕ Event S → List Obs} {l₁ l₂ : W.Log}

@[simp] theorem observed_nil : observed observe ([] : W.Log) = [] := rfl

@[simp] theorem observed_cons {item : W.Move ⊕ Event S} :
    observed observe (item :: l₁) = observe item ++ observed observe l₁ := List.flatMap_cons

@[simp] theorem observed_append :
    observed observe (l₁ ++ l₂) = observed observe l₁ ++ observed observe l₂ :=
  List.flatMap_append

/-- An item that shows nothing. -/
theorem observed_silent {item : W.Move ⊕ Event S} (h : observe item = []) :
    observed observe (l₁ ++ item :: l₂) = observed observe l₁ ++ observed observe l₂ := by
  rw [observed_append, observed_cons, h, List.nil_append]

end Observed

section Moves

variable {W : World S} {l₁ l₂ : W.Log}

theorem moves_append : moves (l₁ ++ l₂) = moves l₁ ++ moves l₂ := List.filterMap_append

theorem moves_cons_inl {m : W.Move} : moves (W := W) (.inl m :: l₁) = m :: moves l₁ := rfl

theorem moves_cons_inr {e : Event S} : moves (W := W) (.inr e :: l₁) = moves l₁ := rfl

end Moves

section Idle

variable {W : World S} {w v w' : W.State} {l₁ l₂ : W.Log} {m : W.Move}

theorem idle_nil : W.Idle w [] w := ⟨rfl, rfl⟩

theorem idle_move (h : W.move w m w') : W.Idle w [.inl m] w' := ⟨rfl, w', h, rfl⟩

theorem Idle.append (h₁ : W.Idle w l₁ v) (h₂ : W.Idle v l₂ w') : W.Idle w (l₁ ++ l₂) w' := by
  refine ⟨?_, path_append.mpr ⟨v, h₁.2, h₂.2⟩⟩
  rw [events_append, h₁.1, h₂.1]
  rfl

/-- A log without events starts with a move. -/
theorem Idle.cases (h : W.Idle w l₁ w') :
    l₁ = [] ∧ w' = w ∨ ∃ m log v, l₁ = .inl m :: log ∧ W.move w m v ∧ W.Idle v log w' := by
  obtain ⟨hevents, hpath⟩ := h
  rcases l₁ with _ | ⟨m | e, log⟩
  · exact .inl ⟨rfl, hpath⟩
  · obtain ⟨v, hmove, hrest⟩ := hpath
    exact .inr ⟨m, log, v, rfl, hmove, hevents, hrest⟩
  · cases hevents

end Idle

section Moves

variable {C : World T} {A : World S} {Rel : C.State → A.State → Prop}
  {observe : C.Move ⊕ Event T → List Obs} {specify : A.Move ⊕ Event S → List Obs}

variable (C A Rel observe specify) in
/-- Every move of `C` is matched by moves of `A`. -/
def MovesMatched : Prop :=
  ∀ w m w' a, C.move w m w' → Rel w a →
    ∃ log a', A.Idle a log a' ∧ observed specify log = observe (.inl m) ∧ Rel w' a'

/-- Moves are matched one after the other. -/
theorem MovesMatched.idle (hmoves : MovesMatched C A Rel observe specify) {w w' : C.State}
    {log : C.Log} {a : A.State} (hidle : C.Idle w log w') (hrel : Rel w a) :
    ∃ log' a', A.Idle a log' a' ∧ observed specify log' = observed observe log ∧ Rel w' a' := by
  induction log generalizing w a with
  | nil =>
    obtain rfl : w' = w := hidle.2
    exact ⟨[], a, idle_nil, rfl, hrel⟩
  | cons item log ih =>
    rcases hidle.cases with ⟨hnil, -⟩ | ⟨m, rest, v, hcons, hmove, hrest⟩
    · cases hnil
    · cases hcons
      obtain ⟨l₁, b, hidle₁, hobserved₁, hb⟩ := hmoves _ _ _ _ hmove hrel
      obtain ⟨l₂, a', hidle₂, hobserved₂, ha'⟩ := ih hrest hb
      refine ⟨l₁ ++ l₂, a', hidle₁.append hidle₂, ?_, ha'⟩
      rw [observed_append, observed_cons, hobserved₁, hobserved₂]

end Moves

/-- `C` with the implementations `h` does nothing that `A` could not do: its moves are
    moves of `A`, and every run of an implementation is one call of `A`. -/
structure Simulation (C : World T) (A : World S) (h : (c : S.Call) → Prog T (S.Answer c))
    (Rel : C.State → A.State → Prop) (observe : C.Move ⊕ Event T → List Obs)
    (specify : A.Move ⊕ Event S → List Obs) : Prop where
  moves : MovesMatched C A Rel observe specify
  call : ∀ {c w log x w' a}, C.Runs (h c) w log x w' → Rel w a →
    ∃ log' a', A.Runs (perform c) a log' x a' ∧
      observed specify log' = observed observe log ∧ Rel w' a'

variable {C : World T} {A : World S} {h : (c : S.Call) → Prog T (S.Answer c)}
  {Rel : C.State → A.State → Prop} {observe : C.Move ⊕ Event T → List Obs}
  {specify : A.Move ⊕ Event S → List Obs}

/-- **Whoever uses the calls cannot tell the worlds apart.** Every run of a program whose
    calls are implemented is a run of the program itself in the abstract world, with the
    same result and the same observations. -/
theorem Simulation.runs (sim : Simulation C A h Rel observe specify) {α : Type} {p : Prog S α} {x : α}
    {w w' : C.State} {log : C.Log} {a : A.State} (hruns : C.Runs (p.interpret h) w log x w')
    (hrel : Rel w a) :
    ∃ log' a', A.Runs p a log' x a' ∧ observed specify log' = observed observe log ∧
      Rel w' a' := by
  induction p generalizing w log a with
  | ret y =>
    obtain ⟨rfl, hidle⟩ := runs_ret_iff.mp hruns
    obtain ⟨log', a', hidle', hobserved, ha'⟩ := sim.moves.idle hidle hrel
    exact ⟨log', a', runs_ret_iff.mpr ⟨rfl, hidle'⟩, hobserved, ha'⟩
  | call c k ih =>
    obtain ⟨y, l₁, l₂, v, rfl, hcall, hrest⟩ := runs_bind_iff.mp hruns
    obtain ⟨l₁', b, hcall', hobserved₁, hb⟩ := sim.call hcall hrel
    obtain ⟨l₂', a', hrest', hobserved₂, ha'⟩ := ih y hrest hb
    refine ⟨l₁' ++ l₂', a', ?_, ?_, ha'⟩
    · exact runs_bind_iff.mpr ⟨y, l₁', l₂', b, rfl, hcall', hrest'⟩
    · rw [observed_append, observed_append, hobserved₁, hobserved₂]
  | block => exact absurd hruns runs_block

/-! ## Programs whose calls are programs -/

section Interpretation

variable {W : World T} {h : (c : S.Call) → Prog T (S.Answer c)} {w w' : W.State} {α : Type}

/-- Every call of an interpreted program is a run of what implements it. -/
theorem runs_interpret {p : Prog S α} {x : α} {log : W.Log}
    (hruns : W.Runs (p.interpret h) w log x w') :
    ∃ u, p.Run u x ∧ ∀ e ∈ u, ∃ v l v', W.Runs (h e.1) v l e.2 v' := by
  induction p generalizing w log with
  | ret a =>
    obtain ⟨rfl, -⟩ := runs_ret_iff.mp hruns
    exact ⟨[], ⟨rfl, rfl⟩, by simp⟩
  | call c k ih =>
    obtain ⟨y, l₁, l₂, v, -, hcall, hrest⟩ := runs_bind_iff.mp hruns
    obtain ⟨u, hu, hcalls⟩ := ih y hrest
    refine ⟨⟨c, y⟩ :: u, ⟨y, u, rfl, hu⟩, fun e he => ?_⟩
    rcases List.mem_cons.mp he with rfl | he
    · exact ⟨w, l₁, v, hcall⟩
    · exact hcalls e he
  | block => exact absurd hruns runs_block

/-- No path through the program blocks, and all its calls satisfy `P`. -/
def Responsive (P : S.Call → Prop) : Prog S α → Prop
  | .ret _ => True
  | .call c k => P c ∧ ∀ x, Responsive P (k x)
  | .block => False

theorem responsive_perform {P : S.Call → Prop} {c : S.Call} (h : P c) : Responsive P (perform c) :=
  ⟨h, fun _ => trivial⟩

theorem Responsive.bind {β : Type} {P : S.Call → Prop} {p : Prog S α} {f : α → Prog S β}
    (hp : Responsive P p) (hf : ∀ a, Responsive P (f a)) : Responsive P (p >>= f) := by
  induction p with
  | ret a => exact hf a
  | call c k ih => exact ⟨hp.1, fun x => ih x (hp.2 x)⟩
  | block => exact hp.elim

theorem Responsive.within {P : S.Call → Prop} {p : Prog S α} (h : Responsive P p) : p.Within P := by
  induction p with
  | ret a => trivial
  | call c k ih => exact ⟨h.1, fun x => ih x (h.2 x)⟩
  | block => exact h.elim

theorem Responsive.exceptT_bind {ε β : Type} {P : S.Call → Prop} {p : ExceptT ε (Prog S) α}
    {f : α → ExceptT ε (Prog S) β} (hp : Responsive P p.run) (hf : ∀ a, Responsive P (f a).run) :
    Responsive P (p >>= f).run := by
  refine Responsive.bind (f := ExceptT.bindCont f) hp fun x => ?_
  cases x with
  | error e => trivial
  | ok a => exact hf a

/-- Where its calls have answers of some kind, such a program has a run with such answers. -/
theorem Responsive.exists_run {P : S.Call → Prop} {p : Prog S α} (hp : Responsive P p)
    {A : (c : S.Call) → S.Answer c → Prop} (hanswer : ∀ c, P c → ∃ x, A c x) :
    ∃ t a, p.Run t a ∧ ∀ e ∈ t, A e.1 e.2 := by
  induction p with
  | ret a => exact ⟨[], a, ⟨rfl, rfl⟩, by simp⟩
  | call c k ih =>
    obtain ⟨x, hx⟩ := hanswer c hp.1
    obtain ⟨t, a, hrun, hanswered⟩ := ih x (hp.2 x)
    refine ⟨⟨c, x⟩ :: t, a, ⟨x, t, rfl, hrun⟩, fun e he => ?_⟩
    rcases List.mem_cons.mp he with rfl | he
    · exact hx
    · exact hanswered e he
  | block => exact hp.elim

/-- Where its calls have answers, such a program has a run. -/
theorem Responsive.exists_runs {p : Prog T α} {P : T.Call → Prop} (hp : Responsive P p)
    (hanswer : ∀ w c, P c → ∃ x w', W.answer w c x w') (w : W.State) :
    ∃ log x w', W.Runs p w log x w' := by
  induction p generalizing w with
  | ret a => exact ⟨[], a, w, ⟨rfl, rfl⟩, rfl⟩
  | call c k ih =>
    obtain ⟨x, v, hx⟩ := hanswer w c hp.1
    obtain ⟨log, y, w', hrun, hpath⟩ := ih x (hp.2 x) v
    exact ⟨.inr ⟨c, x⟩ :: log, y, w', ⟨x, _, rfl, hrun⟩, v, hx, hpath⟩
  | block => exact hp.elim

/-- Where the programs behind its calls have runs, so does the interpreted program. -/
theorem Responsive.exists_runs_interpret {p : Prog S α} {P : S.Call → Prop} (hp : Responsive P p)
    (hcall : ∀ w c, P c → ∃ log x w', W.Runs (h c) w log x w') (w : W.State) :
    ∃ log x w', W.Runs (p.interpret h) w log x w' := by
  induction p generalizing w with
  | ret a => exact ⟨[], a, w, ⟨rfl, rfl⟩, rfl⟩
  | call c k ih =>
    obtain ⟨l₁, x, v, hx⟩ := hcall w c hp.1
    obtain ⟨l₂, y, w', hrest⟩ := ih x (hp.2 x) v
    exact ⟨l₁ ++ l₂, y, w', runs_bind_iff.mpr ⟨x, l₁, l₂, v, rfl, hx, hrest⟩⟩
  | block => exact hp.elim

end Interpretation

/-! ## Programs that come to an end -/

section Concludes

variable {W : World S} {w : W.State} {α β σ : Type}

/-- Whatever `W` answers and however it moves, `p` does not block. -/
def Concludes (W : World S) : Prog S α → W.State → Prop
  | .ret _, _ => True
  | .call c k, w => ∀ log v x v', W.Idle w log v → W.answer v c x v' → Concludes W (k x) v'
  | .block, _ => False

/-- A program that no answer makes block. -/
theorem Responsive.concludes {P : S.Call → Prop} {p : Prog S α} (h : Responsive P p) :
    W.Concludes p w := by
  induction p generalizing w with
  | ret a => trivial
  | call c k ih => exact fun _ _ x _ _ _ => ih x (h.2 x)
  | block => exact h.elim

theorem Concludes.bind {p : Prog S α} {f : α → Prog S β} (hp : W.Concludes p w)
    (hf : ∀ log a v, W.Runs p w log a v → W.Concludes (f a) v) : W.Concludes (p >>= f) w := by
  induction p generalizing w with
  | ret a => exact hf [] a w ⟨⟨rfl, rfl⟩, rfl⟩
  | call c k ih =>
    intro log v x v' hidle hanswer
    apply ih x (hp log v x v' hidle hanswer)
    intro log' a u hruns
    apply hf (log ++ .inr ⟨c, x⟩ :: log') a u
    refine ⟨⟨x, events log', ?_, hruns.1⟩, path_append.mpr ⟨v, hidle.2, v', hanswer, hruns.2⟩⟩
    rw [events_append, hidle.1, List.nil_append, events_cons_inr]
  | block => exact hp.elim

/-- **A loop comes to an end** if its rounds do, and those that go on lower a measure. -/
theorem concludes_loop {body : σ → Prog S (α ⊕ σ)} (I : σ → W.State → Prop)
    (measure : σ → W.State → Nat) (hbody : ∀ s w, I s w → W.Concludes (body s) w)
    (hround : ∀ s w log s' v, I s w → W.Runs (body s) w log (.inr s') v →
      I s' v ∧ measure s' v < measure s w)
    {rounds : Nat} {s : σ} (hs : I s w) (h : measure s w < rounds) :
    W.Concludes (loop body rounds s) w := by
  induction rounds generalizing s w with
  | zero => omega
  | succ rounds ih =>
    apply (hbody s w hs).bind
    intro log out v hruns
    cases out with
    | inl a => trivial
    | inr s' =>
      obtain ⟨hs', hless⟩ := hround s w log s' v hs hruns
      exact ih hs' (by omega)

end Concludes

/-! ## What held at some moment -/

section During

variable {W : World S} {w v w' : W.State} {l₁ l₂ log : W.Log} {P Q : W.State → Prop}

/-- `P` held in a state the log went through. -/
def During (W : World S) (w : W.State) (log : W.Log) (P : W.State → Prop) : Prop :=
  ∃ before after v, log = before ++ after ∧ W.Path w before v ∧ P v

theorem during_start (h : P w) : W.During w log P := ⟨[], log, w, rfl, rfl, h⟩

theorem During.append (h : W.During w l₁ P) (l₂ : W.Log) : W.During w (l₁ ++ l₂) P := by
  obtain ⟨before, after, v, rfl, hpath, hv⟩ := h
  exact ⟨before, after ++ l₂, v, List.append_assoc .., hpath, hv⟩

theorem During.after (hpath : W.Path w l₁ v) (h : W.During v l₂ P) : W.During w (l₁ ++ l₂) P := by
  obtain ⟨before, rest, u, rfl, hrest, hu⟩ := h
  exact ⟨l₁ ++ before, rest, u, (List.append_assoc ..).symm, path_append.mpr ⟨v, hpath, hrest⟩, hu⟩

theorem During.mono (h : W.During w log P) (hPQ : ∀ v, P v → Q v) : W.During w log Q := by
  obtain ⟨before, after, v, hlog, hpath, hv⟩ := h
  exact ⟨before, after, v, hlog, hpath, hPQ v hv⟩

end During

/-! ## What must happen -/

section Inevitable

variable {W : World S} {P Inv : W.State → Prop} {w w' : W.State}

/-- However `W` moves, it gets to a state with `P` within `n` moves, and it is not stuck
    before. -/
def Inevitable (W : World S) (P : W.State → Prop) : Nat → W.State → Prop
  | 0, w => P w
  | n + 1, w => P w ∨
      (∃ m w', W.move w m w') ∧ ∀ m w', W.move w m w' → Inevitable W P n w'

/-- The rule of a rank that every move lowers. -/
theorem Inevitable.of_rank (rank : W.State → Nat) {n : Nat}
    (hinv : ∀ w m w', W.move w m w' → Inv w → Inv w')
    (hrank : ∀ w m w', W.move w m w' → Inv w → rank w' < rank w)
    (henabled : ∀ w, Inv w → P w ∨ ∃ m w', W.move w m w')
    (hw : Inv w) (hn : rank w ≤ n) : Inevitable W P n w := by
  induction n generalizing w with
  | zero =>
    rcases henabled w hw with hP | ⟨m, w', hmove⟩
    · exact hP
    · have := hrank w m w' hmove hw
      omega
  | succ n ih =>
    rcases henabled w hw with hP | hmove
    · exact .inl hP
    · refine .inr ⟨hmove, fun m w' hstep => ?_⟩
      have hlower := hrank w m w' hstep hw
      exact ih (hinv w m w' hstep hw) (by omega)

/-- The rule of a budget: if every move pays its cost out of it, and the answers to calls
    take nothing, then a log costs no more than there was. -/
theorem Path.budget (cost : W.Move → Nat) (Inv : Nat → W.State → Prop) {R : W.Move → Prop}
    {Q : S.Call → Prop} {log : W.Log} {n : Nat}
    (hmove : ∀ n w m w', R m → W.move w m w' → Inv n w → ∃ n', cost m + n' ≤ n ∧ Inv n' w')
    (hanswer : ∀ n w c x w', Q c → W.answer w c x w' → Inv n w → Inv n w')
    (hmoves : ∀ m ∈ moves log, R m) (hcalls : ∀ e ∈ events log, Q e.1)
    (h : W.Path w log w') (hw : Inv n w) :
    ∃ n', ((moves log).map cost).sum + n' ≤ n ∧ Inv n' w' := by
  induction log generalizing w n with
  | nil =>
    obtain rfl := h
    exact ⟨n, by simp [moves], hw⟩
  | cons item log ih =>
    cases item with
    | inl m =>
      obtain ⟨v, hstep, hrest⟩ := h
      rw [moves_cons_inl] at hmoves ⊢
      obtain ⟨n₁, hpaid, hv⟩ := hmove n w m v (hmoves m (List.mem_cons_self ..)) hstep hw
      obtain ⟨n₂, hlater, hw'⟩ :=
        ih (fun m' hm' => hmoves m' (List.mem_cons_of_mem _ hm')) hcalls hrest hv
      refine ⟨n₂, ?_, hw'⟩
      rw [List.map_cons, List.sum_cons]
      omega
    | inr e =>
      obtain ⟨v, hstep, hrest⟩ := h
      rw [events_cons_inr] at hcalls
      exact ih hmoves (fun e' he' => hcalls e' (List.mem_cons_of_mem _ he')) hrest
        (hanswer n w e.1 e.2 v (hcalls e (List.mem_cons_self ..)) hstep hw)

/-- Moves that lower a rank by what they cost. -/
theorem Idle.cost_le (rank : W.State → Nat) (cost : W.Move → Nat) {log : W.Log}
    (hinv : ∀ w m w', W.move w m w' → Inv w → Inv w')
    (hcost : ∀ w m w', W.move w m w' → Inv w → cost m + rank w' ≤ rank w)
    (h : W.Idle w log w') (hw : Inv w) : ((moves log).map cost).sum + rank w' ≤ rank w := by
  obtain ⟨n, hpaid, -, hn⟩ := h.2.budget cost (fun n w => Inv w ∧ rank w ≤ n) (R := fun _ => True)
    (Q := fun _ => False)
    (fun n w m w' _ hstep hw =>
      ⟨rank w', Nat.le_trans (hcost w m w' hstep hw.1) hw.2, hinv w m w' hstep hw.1,
        Nat.le_refl _⟩)
    (fun _ _ _ _ _ hfalse => hfalse.elim) (fun _ _ => trivial) (by simp [h.1])
    ⟨hw, Nat.le_refl _⟩
  omega

end Inevitable

end Interaction.World
