import Lx.Lib.Interaction

/-!
# Programs in a changing world

A `World` gives the calls of a signature a meaning: it has a state, it answers calls
according to that state, and it may move on its own between any two calls. A log is one
interleaving of such moves with the events of a program. What a program does in a world
is a run of the program whose events, in their places in the log, are answers of the
world: facts about the program come from `Prog.Run`, facts about the state from
`World.Path`, and the two meet in the log.
-/

namespace Interaction

/-- What calls mean, and what else can happen. -/
structure World (S : Signature) where
  State : Type
  /-- The moves the world makes on its own. -/
  Move : Type
  move : State → Move → State → Prop
  answer : State → (c : S.Call) → S.Answer c → State → Prop

variable {S : Signature}

namespace World

/-- Moves of the world interleaved with the events of a program. -/
abbrev Log (W : World S) := List (W.Move ⊕ Event S)

/-- The events of a log, as the program sees them. -/
def events {W : World S} (log : W.Log) : Trace S := log.filterMap Sum.getRight?

/-- The moves the world made on its own. -/
def moves {W : World S} (log : W.Log) : List W.Move := log.filterMap Sum.getLeft?

/-- `W.Path w log w'`: the log takes the state from `w` to `w'`. -/
def Path (W : World S) : W.State → W.Log → W.State → Prop
  | w, [], w' => w' = w
  | w, .inl m :: log, w' => ∃ v, W.move w m v ∧ W.Path v log w'
  | w, .inr e :: log, w' => ∃ v, W.answer w e.1 e.2 v ∧ W.Path v log w'

variable {W : World S} {w w' : W.State} {log l₁ l₂ : W.Log}

@[simp] theorem events_nil : events ([] : W.Log) = [] := rfl

@[simp] theorem events_cons_inl {m : W.Move} : events (W := W) (.inl m :: log) = events log := rfl

@[simp] theorem events_cons_inr {e : Event S} :
    events (W := W) (.inr e :: log) = e :: events log := rfl

@[simp] theorem events_append : events (l₁ ++ l₂) = events l₁ ++ events l₂ :=
  List.filterMap_append

@[simp] theorem events_map_inl {ms : List W.Move} : events (W := W) (ms.map .inl) = [] := by
  induction ms with
  | nil => rfl
  | cons m ms ih => exact ih

@[simp] theorem events_map_inr {t : Trace S} : events (W := W) (t.map .inr) = t := by
  induction t with
  | nil => rfl
  | cons e t ih => exact congrArg (e :: ·) ih

@[simp] theorem mem_events {e : Event S} : e ∈ events log ↔ Sum.inr e ∈ log := by
  simp [events, List.mem_filterMap]

/-- A log can be cut where the events of its program can. -/
theorem split_of_events_append {t₁ t₂ : Trace S} (h : events log = t₁ ++ t₂) :
    ∃ l₁ l₂, log = l₁ ++ l₂ ∧ events l₁ = t₁ ∧ events l₂ = t₂ := by
  induction log generalizing t₁ with
  | nil =>
    obtain ⟨rfl, rfl⟩ := List.append_eq_nil_iff.mp h.symm
    exact ⟨[], [], rfl, rfl, rfl⟩
  | cons item log ih =>
    cases item with
    -- moves in front go to the first part
    | inl m =>
      obtain ⟨l₁, l₂, rfl, h₁, h₂⟩ := ih h
      exact ⟨.inl m :: l₁, l₂, rfl, h₁, h₂⟩
    | inr e =>
      cases t₁ with
      | nil => exact ⟨[], .inr e :: log, rfl, rfl, h⟩
      | cons e' t₁ =>
        obtain ⟨rfl, htail⟩ := List.cons.inj h
        obtain ⟨l₁, l₂, rfl, h₁, h₂⟩ := ih htail
        exact ⟨.inr e :: l₁, l₂, rfl, by simp [h₁], h₂⟩

/-- The next event of a program comes after some moves. -/
theorem split_of_events_cons {e : Event S} {t : Trace S} (h : events log = e :: t) :
    ∃ l₁ l₂, log = l₁ ++ .inr e :: l₂ ∧ events l₁ = [] ∧ events l₂ = t := by
  induction log with
  | nil => cases h
  | cons item log ih =>
    cases item with
    | inl m =>
      obtain ⟨l₁, l₂, rfl, h₁, h₂⟩ := ih h
      exact ⟨.inl m :: l₁, l₂, rfl, h₁, h₂⟩
    | inr e' =>
      obtain ⟨rfl, htail⟩ := List.cons.inj h
      exact ⟨[], log, rfl, rfl, htail⟩

/-- Where an event stands in a log is fixed by the number of events before it. -/
theorem split_event_unique {e e' : Event S} {l₃ l₄ : W.Log}
    (h : l₁ ++ .inr e :: l₂ = l₃ ++ .inr e' :: l₄)
    (hlength : (events l₁).length = (events l₃).length) : l₁ = l₃ ∧ e = e' ∧ l₂ = l₄ := by
  induction l₁ generalizing l₃ with
  | nil =>
    cases l₃ with
    | nil => simpa using h
    -- the event would have to come twice
    | cons item l₃ =>
      obtain ⟨rfl, -⟩ := List.cons.inj h
      simp at hlength
  | cons item l₁ ih =>
    cases l₃ with
    | nil =>
      obtain ⟨rfl, -⟩ := List.cons.inj h
      simp at hlength
    | cons item' l₃ =>
      obtain ⟨rfl, hrest⟩ := List.cons.inj h
      have hrest_length : (events l₁).length = (events l₃).length := by
        cases item with
        | inl m => exact hlength
        | inr e => simpa using hlength
      obtain ⟨rfl, he, hl⟩ := ih hrest hrest_length
      exact ⟨rfl, he, hl⟩

theorem path_append : W.Path w (l₁ ++ l₂) w' ↔ ∃ v, W.Path w l₁ v ∧ W.Path v l₂ w' := by
  induction l₁ generalizing w with
  | nil => simp [Path]
  | cons item l₁ ih =>
    cases item with
    | inl m => simp only [List.cons_append, Path, ih]; grind
    | inr e => simp only [List.cons_append, Path, ih]; grind

/-- What every move, and every answer to the calls of the log, keeps holds along the log. -/
theorem Path.invariant_within {P : W.State → Prop} {Q : S.Call → Prop}
    (hmove : ∀ w m w', W.move w m w' → P w → P w')
    (hanswer : ∀ w c x w', Q c → W.answer w c x w' → P w → P w')
    (hcalls : ∀ e ∈ events log, Q e.1) (h : W.Path w log w') (hw : P w) : P w' := by
  induction log generalizing w with
  | nil =>
    obtain rfl := h
    exact hw
  | cons item log ih =>
    cases item with
    | inl m =>
      obtain ⟨v, hstep, hrest⟩ := h
      exact ih hcalls hrest (hmove w m v hstep hw)
    | inr e =>
      obtain ⟨v, hstep, hrest⟩ := h
      refine ih (fun e' he' => hcalls e' ?_) hrest (hanswer w e.1 e.2 v (hcalls e ?_) hstep hw)
      · rw [events_cons_inr]
        exact List.mem_cons_of_mem _ he'
      · rw [events_cons_inr]
        exact List.mem_cons_self ..

/-- What every move and every answer keeps holds along a log. -/
theorem Path.invariant {P : W.State → Prop} (hmove : ∀ w m w', W.move w m w' → P w → P w')
    (hanswer : ∀ w c x w', W.answer w c x w' → P w → P w') (h : W.Path w log w') (hw : P w) :
    P w' :=
  h.invariant_within (Q := fun _ => True) hmove (fun w c x w' _ => hanswer w c x w')
    (fun _ _ => trivial) hw

/-- Where every move and every answer leaves one state only, a log ends in one state only. -/
theorem Path.unique {v v' : W.State} (hmove : ∀ w m v v', W.move w m v → W.move w m v' → v' = v)
    (hanswer : ∀ w c x v v', W.answer w c x v → W.answer w c x v' → v' = v)
    (h : W.Path w log v) (h' : W.Path w log v') : v' = v := by
  induction log generalizing w with
  | nil => exact h'.trans h.symm
  | cons item log ih =>
    cases item with
    | inl m =>
      obtain ⟨u, hstep, hrest⟩ := h
      obtain ⟨u', hstep', hrest'⟩ := h'
      obtain rfl := hmove w m u u' hstep hstep'
      exact ih hrest hrest'
    | inr e =>
      obtain ⟨u, hstep, hrest⟩ := h
      obtain ⟨u', hstep', hrest'⟩ := h'
      obtain rfl := hanswer w e.1 e.2 u u' hstep hstep'
      exact ih hrest hrest'

/-! ## Programs in a world -/

/-- A run of a program whose events are answered by the world. -/
def Runs (W : World S) {α : Type} (p : Prog S α) (w : W.State) (log : W.Log) (a : α)
    (w' : W.State) : Prop :=
  p.Run (events log) a ∧ W.Path w log w'

/-- Only the world moves. -/
def Idle (W : World S) (w : W.State) (log : W.Log) (w' : W.State) : Prop :=
  events log = [] ∧ W.Path w log w'

theorem Idle.invariant {P : W.State → Prop} (hmove : ∀ w m w', W.move w m w' → P w → P w')
    (h : W.Idle w log w') (hw : P w) : P w' :=
  h.2.invariant_within (Q := fun _ => False) hmove (fun _ _ _ _ hfalse => hfalse.elim)
    (by simp [h.1]) hw

section Runs

variable {α β : Type}

theorem runs_ret_iff {a b : α} :
    W.Runs (.ret a : Prog S α) w log b w' ↔ b = a ∧ W.Idle w log w' := by
  unfold Runs Idle
  rw [Prog.run_ret, and_comm (a := events log = []), and_assoc]

theorem runs_bind_iff {p : Prog S α} {f : α → Prog S β} {b : β} :
    W.Runs (p >>= f) w log b w' ↔ ∃ a l₁ l₂ v, log = l₁ ++ l₂ ∧
      W.Runs p w l₁ a v ∧ W.Runs (f a) v l₂ b w' := by
  constructor
  · rintro ⟨hrun, hpath⟩
    obtain ⟨a, t₁, t₂, h₁, h₂, hevents⟩ := Prog.run_bind_iff.mp hrun
    obtain ⟨l₁, l₂, rfl, rfl, rfl⟩ := split_of_events_append hevents
    obtain ⟨v, hpath₁, hpath₂⟩ := path_append.mp hpath
    exact ⟨a, l₁, l₂, v, rfl, ⟨h₁, hpath₁⟩, h₂, hpath₂⟩
  · rintro ⟨a, l₁, l₂, v, rfl, ⟨h₁, hpath₁⟩, h₂, hpath₂⟩
    refine ⟨?_, path_append.mpr ⟨v, hpath₁, hpath₂⟩⟩
    rw [events_append]
    exact Prog.run_bind_iff.mpr ⟨a, _, _, h₁, h₂, rfl⟩

/-- One call: the world may move before and after it is answered. -/
theorem runs_perform_iff {c : S.Call} {x : S.Answer c} :
    W.Runs (perform c) w log x w' ↔ ∃ l₁ l₂ v v', log = l₁ ++ .inr ⟨c, x⟩ :: l₂ ∧
      W.Idle w l₁ v ∧ W.answer v c x v' ∧ W.Idle v' l₂ w' := by
  constructor
  · rintro ⟨hrun, hpath⟩
    obtain ⟨l₁, l₂, rfl, h₁, h₂⟩ := split_of_events_cons (Prog.run_perform.mp hrun)
    obtain ⟨v, hpath₁, v', hanswer, hpath₂⟩ := path_append.mp hpath
    exact ⟨l₁, l₂, v, v', rfl, ⟨h₁, hpath₁⟩, hanswer, h₂, hpath₂⟩
  · rintro ⟨l₁, l₂, v, v', rfl, ⟨h₁, hpath₁⟩, hanswer, h₂, hpath₂⟩
    refine ⟨?_, path_append.mpr ⟨v, hpath₁, v', hanswer, hpath₂⟩⟩
    rw [events_append, events_cons_inr, h₁, h₂]
    exact Prog.run_perform.mpr rfl

theorem runs_block {b : α} : ¬ W.Runs (.block : Prog S α) w log b w' := fun h => h.1

/-- The invariant rule for a program that makes only calls of one kind. -/
theorem Runs.invariant_within {p : Prog S α} {a : α} {P : W.State → Prop} {Q : S.Call → Prop}
    (hp : p.Within Q) (hmove : ∀ w m w', W.move w m w' → P w → P w')
    (hanswer : ∀ w c x w', Q c → W.answer w c x w' → P w → P w')
    (h : W.Runs p w log a w') (hw : P w) : P w' :=
  h.2.invariant_within hmove hanswer (hp.run h.1) hw

end Runs

end World

end Interaction
