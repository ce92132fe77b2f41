import Lx.Lib.Interleaving
import Lx.Tui.FtxuiTuiRunner

/-!
# The UI thread among the background threads

The state that the UI thread shares with the dashboard worker and the `TaskWorker`. All
its accesses are protected by a mutex, so each of them is one step; between any two steps
of the UI thread the dashboard may be replaced and the task worker may take a task, make
one of its calls, or finish (`TaskWorker::work`).

The lemmas follow the actions through the worker: what is submitted, accepted, taken and
finally called.
-/

namespace Lx.Tui

open Interaction World

/-! ## §1 The shared state -/

structure TuiState where
  snapshot : Option DashboardSnapshot := none
  /-- `pending_` -/
  pending : Option Task := none
  /-- `result_` -/
  result : Bytes := []
  /-- What is left of the task that is run; `busy_` while there is one. -/
  running : Option (Prog Tasks Bytes) := none
  /-- `stopping_` -/
  stopping : Bool := false

/-- `submit` accepts a task in these states only. -/
def TuiState.Idle (w : TuiState) : Prop := w.pending = none ∧ w.running = none

inductive TuiMove where
  /-- The dashboard worker publishes a snapshot. -/
  | refresh (snapshot : DashboardSnapshot)
  /-- The task worker takes the pending task. -/
  | take (task : Task)
  /-- The running task makes a call. -/
  | exchange (e : Event Tasks)
  /-- The running task returned this text. -/
  | finish (text : Bytes)
  /-- The running task threw, perhaps from within a call. -/
  | threw (call : Option TaskCall) (text : Bytes)
  /-- The worker is told to stop. -/
  | stop

def TuiState.Moves (w : TuiState) (m : TuiMove) (w' : TuiState) : Prop :=
  match m with
  | .refresh snapshot => w' = { w with snapshot := some snapshot }
  | .take task => w.pending = some task ∧ w.running = none ∧ w.stopping = false ∧
      w' = { w with pending := none, running := some task.program }
  | .exchange e => ∃ k, w.running = some (.call e.1 k) ∧ w' = { w with running := some (k e.2) }
  | .finish text => w.running = some (.ret text) ∧ w' = { w with running := none, result := text }
  | .threw call text => (∃ p, w.running = some p ∧ ∀ c, call = some c → ∃ k, p = .call c k) ∧
      w' = { w with running := none, result := text }
  | .stop => w' = { w with stopping := true }

def TuiState.Answers (w : TuiState) (c : TuiCall) (x : c.Answer) (w' : TuiState) : Prop :=
  match c, x with
  | .snapshot, snapshot => snapshot = w.snapshot ∧ w' = w
  | .submit task, true => w.Idle ∧ w' = { w with pending := some task, result := "Loading..." }
  | .submit _, false => ¬ w.Idle ∧ w' = w
  | .result, text => text = w.result ∧ w' = w
  | .clear, () => w' = { w with result := [] }
  | _, _ => w' = w

/-- The shared state as a world; `ok` restricts the states in which a call is answered, to
    speak about runs whose steps meet a condition. -/
abbrev tuiWorld (ok : TuiState → Event UiThread → Prop) : World UiThread where
  State := TuiState
  Move := TuiMove
  move w m w' := w.Moves m w'
  answer w c x w' := w.Answers c x w' ∧ ok w ⟨c, x⟩

abbrev TuiLog := List (TuiMove ⊕ Event UiThread)

/-! ## §2 Actions on their way -/

/-- The call an action task makes. -/
def Task.call : Task → Option TaskCall
  | .act .stopService unit _ => some (.stopService unit)
  | .act .restartService unit _ => some (.restartService unit)
  | .act .terminateProcess _ pid => some (.stopProcess pid)
  | .act _ _ pid => some (.killProcess pid)
  | _ => none

/-- The actions given to `submit`. -/
def submittedBy : Event UiThread → Option TaskCall
  | ⟨.submit task, _⟩ => task.call
  | _ => none

def submitted (t : Trace UiThread) : List TaskCall := t.filterMap submittedBy

/-- The actions `submit` accepted. -/
def accepted (log : TuiLog) : List TaskCall :=
  log.filterMap fun
    | .inr ⟨.submit task, true⟩ => task.call
    | _ => none

/-- The actions the worker took. -/
def taken (log : TuiLog) : List TaskCall :=
  log.filterMap fun
    | .inl (.take task) => task.call
    | _ => none

/-- The tasks `submit` accepted. -/
def acceptedTasks (log : TuiLog) : List Task :=
  log.filterMap fun
    | .inr ⟨.submit task, true⟩ => some task
    | _ => none

/-- The tasks the worker took. -/
def takenTasks (log : TuiLog) : List Task :=
  log.filterMap fun
    | .inl (.take task) => some task
    | _ => none

/-- The mutating call of a move. -/
def madeBy : TuiMove → Option TaskCall
  | .exchange e => if e.1.mutates then some e.1 else none
  | .threw (some call) _ => if call.mutates then some call else none
  | _ => none

/-- The mutating calls the worker made. -/
def made (log : TuiLog) : List TaskCall :=
  log.filterMap fun
    | .inl m => madeBy m
    | .inr _ => none

@[simp] theorem submitted_nil : submitted [] = [] := rfl

@[simp] theorem submitted_append (t u : Trace UiThread) :
    submitted (t ++ u) = submitted t ++ submitted u := List.filterMap_append

@[simp] theorem accepted_append (l l' : TuiLog) : accepted (l ++ l') = accepted l ++ accepted l' :=
  List.filterMap_append

@[simp] theorem taken_append (l l' : TuiLog) : taken (l ++ l') = taken l ++ taken l' :=
  List.filterMap_append

@[simp] theorem acceptedTasks_append (l l' : TuiLog) :
    acceptedTasks (l ++ l') = acceptedTasks l ++ acceptedTasks l' := List.filterMap_append

@[simp] theorem takenTasks_append (l l' : TuiLog) :
    takenTasks (l ++ l') = takenTasks l ++ takenTasks l' := List.filterMap_append

theorem accepted_eq_filterMap (log : TuiLog) :
    accepted log = (acceptedTasks log).filterMap Task.call := by
  rw [accepted, acceptedTasks, List.filterMap_filterMap]
  congr 1
  funext item
  rcases item with m | ⟨c, x⟩
  · rfl
  · cases c with
    | submit task => cases x <;> rfl
    | _ => rfl

theorem taken_eq_filterMap (log : TuiLog) : taken log = (takenTasks log).filterMap Task.call := by
  rw [taken, takenTasks, List.filterMap_filterMap]
  congr 1
  funext item
  rcases item with m | e
  · cases m <;> rfl
  · rfl

@[simp] theorem made_append (l l' : TuiLog) : made (l ++ l') = made l ++ made l' :=
  List.filterMap_append

/-- The action that waits to be taken. -/
def TuiState.waiting (w : TuiState) : List TaskCall := (w.pending.bind Task.call).toList

/-- The mutating calls that a task can still make are among these, in this order. -/
def Owes : Prog Tasks Bytes → List TaskCall → Prop
  | .ret _, _ => True
  | .call c k, calls =>
    if c.mutates then ∃ rest, calls = c :: rest ∧ ∀ x, Owes (k x) rest
    else ∀ x, Owes (k x) calls
  | .block, _ => True

/-- A task makes the call of its action once, and no other mutating call. -/
theorem owes_program (task : Task) : Owes task.program task.call.toList := by
  cases task with
  | find query => exact fun _ => trivial
  | inspect resource => exact fun _ => trivial
  | logs query => exact fun _ => trivial
  | hint => trivial
  | act action unit pid => cases action <;> exact ⟨[], rfl, fun _ => trivial⟩

section

variable {ok : TuiState → Event UiThread → Prop} {w w' : TuiState} {log : TuiLog}

theorem waiting_eq_filterMap : w.waiting = w.pending.toList.filterMap Task.call := by
  cases hpending : w.pending with
  | none => simp [TuiState.waiting, hpending]
  | some task => cases hcall : task.call <;> simp [TuiState.waiting, hpending, hcall]

/-- One move: a task stops pending only by being taken. -/
theorem move_pending {m : TuiMove} (h : w.Moves m w') :
    takenTasks [.inl m] ++ w'.pending.toList = w.pending.toList := by
  cases m with
  | take task =>
    obtain ⟨hpending, -, -, rfl⟩ := h
    rw [hpending]
    rfl
  | refresh snapshot => rw [show w' = _ from h]; rfl
  | exchange e =>
    obtain ⟨k, -, rfl⟩ := h
    rfl
  | finish text =>
    obtain ⟨-, rfl⟩ := h
    rfl
  | threw call text =>
    obtain ⟨-, rfl⟩ := h
    rfl
  | stop => rw [show w' = _ from h]; rfl

/-- One call: a task pends only by being accepted. -/
theorem answer_pending {c : TuiCall} {x : c.Answer} (h : w.Answers c x w') :
    w'.pending.toList = w.pending.toList ++ acceptedTasks [.inr ⟨c, x⟩] ∧
      w'.running = w.running := by
  have hsame : w' = w → acceptedTasks [.inr ⟨c, x⟩] = [] →
      w'.pending.toList = w.pending.toList ++ acceptedTasks [.inr ⟨c, x⟩] ∧
        w'.running = w.running := by
    rintro rfl hnone
    rw [hnone, List.append_nil]
    exact ⟨rfl, rfl⟩
  cases c with
  | submit task =>
    cases x with
    | true =>
      -- a task that is accepted finds none pending
      obtain ⟨⟨hpending, -⟩, rfl⟩ := h
      rw [hpending]
      exact ⟨rfl, rfl⟩
    | false => exact hsame h.2 rfl
  | clear =>
    have hw : w' = { w with result := [] } := h
    rw [hw]
    exact ⟨(List.append_nil _).symm, rfl⟩
  | snapshot => exact hsame h.2 rfl
  | result => exact hsame h.2 rfl
  | exitLoop => exact hsame h rfl
  | editSearch event query => exact hsame h rfl
  | outOfBounds => exact hsame h rfl

/-- **Nothing that was accepted is removed but by being taken.** -/
theorem taken_pending (h : (tuiWorld ok).Path w log w') :
    takenTasks log ++ w'.pending.toList = w.pending.toList ++ acceptedTasks log := by
  induction log generalizing w with
  | nil =>
    obtain rfl := h
    simp [takenTasks, acceptedTasks]
  | cons item log ih =>
    rcases item with m | e
    · obtain ⟨v, hmove, hrest⟩ := h
      have haccepted : acceptedTasks (.inl m :: log) = acceptedTasks log := rfl
      rw [← List.singleton_append, takenTasks_append, List.append_assoc, ih hrest,
        ← List.append_assoc, move_pending hmove]
      rfl
    · obtain ⟨v, ⟨hanswer, -⟩, hrest⟩ := h
      have htaken : takenTasks (.inr e :: log) = takenTasks log := rfl
      rw [htaken, ih hrest, (answer_pending hanswer).1, ← List.singleton_append (l := log),
        acceptedTasks_append, List.append_assoc]

/-- The same of the actions. -/
theorem taken_waiting (h : (tuiWorld ok).Path w log w') :
    taken log ++ w'.waiting = w.waiting ++ accepted log := by
  rw [taken_eq_filterMap, waiting_eq_filterMap, waiting_eq_filterMap, accepted_eq_filterMap,
    ← List.filterMap_append, ← List.filterMap_append, taken_pending h]

theorem answer_waiting {c : TuiCall} {x : c.Answer} (h : w.Answers c x w') :
    w'.waiting = w.waiting ++ accepted [.inr ⟨c, x⟩] ∧ w'.running = w.running := by
  obtain ⟨hpending, hrunning⟩ := answer_pending h
  refine ⟨?_, hrunning⟩
  rw [waiting_eq_filterMap, waiting_eq_filterMap, accepted_eq_filterMap, hpending,
    List.filterMap_append]

/-- What the running task can still do. -/
def RunningOwes : Option (Prog Tasks Bytes) → List TaskCall → Prop
  | none, calls => calls = []
  | some p, calls => Owes p calls

/-- One move: a mutating call is one that was owed, and taking a task makes its call owed. -/
theorem move_owes {m : TuiMove} {calls : List TaskCall} (hw : RunningOwes w.running calls)
    (h : w.Moves m w') : ∃ calls', RunningOwes w'.running calls' ∧
      (made [.inl m] ++ (calls' ++ w'.waiting)).Sublist (calls ++ w.waiting) := by
  cases m with
  | refresh snapshot =>
    have hw' : w' = { w with snapshot := some snapshot } := h
    rw [hw']
    exact ⟨calls, hw, List.Sublist.refl _⟩
  | take task =>
    -- the call of the task moves from the queue to what the worker owes
    obtain ⟨hpending, hrunning, -, rfl⟩ := h
    rw [hrunning] at hw
    obtain rfl : calls = [] := hw
    refine ⟨task.call.toList, owes_program task, ?_⟩
    simp [made, madeBy, TuiState.waiting, hpending]
  | exchange e =>
    obtain ⟨k, hrunning, rfl⟩ := h
    rw [hrunning] at hw
    -- a mutating call is the first one owed; any other leaves the debt as it is
    have howes : if e.1.mutates then ∃ rest, calls = e.1 :: rest ∧ ∀ x, Owes (k x) rest
        else ∀ x, Owes (k x) calls := hw
    cases hmutates : e.1.mutates with
    | true =>
      rw [hmutates, if_pos rfl] at howes
      obtain ⟨rest, rfl, hrest⟩ := howes
      refine ⟨rest, hrest e.2, ?_⟩
      simp [made, madeBy, hmutates, TuiState.waiting]
    | false =>
      rw [hmutates, if_neg (by simp)] at howes
      refine ⟨calls, howes e.2, ?_⟩
      simp [made, madeBy, hmutates, TuiState.waiting]
  | finish text =>
    obtain ⟨-, rfl⟩ := h
    exact ⟨[], rfl, List.sublist_append_right _ _⟩
  | threw call text =>
    obtain ⟨⟨p, hrunning, hcall⟩, rfl⟩ := h
    -- the task is over; the call that threw may have been made all the same
    refine ⟨[], rfl, ?_⟩
    cases call with
    | none => exact List.sublist_append_right _ _
    | some c =>
      obtain ⟨k, rfl⟩ := hcall c rfl
      rw [hrunning] at hw
      have howes : if c.mutates then ∃ rest, calls = c :: rest ∧ ∀ x, Owes (k x) rest
          else ∀ x, Owes (k x) calls := hw
      cases hmutates : c.mutates with
      | true =>
        rw [hmutates, if_pos rfl] at howes
        obtain ⟨rest, rfl, -⟩ := howes
        simp [made, madeBy, hmutates, TuiState.waiting]
      | false => simp [made, madeBy, hmutates, TuiState.waiting]
  | stop =>
    have hw' : w' = { w with stopping := true } := h
    rw [hw']
    exact ⟨calls, hw, List.Sublist.refl _⟩

/-- **Every mutating call was accepted before**, and none is made twice. -/
theorem made_accepted {calls : List TaskCall} (hw : RunningOwes w.running calls)
    (h : (tuiWorld ok).Path w log w') : ∃ calls', RunningOwes w'.running calls' ∧
      (made log ++ (calls' ++ w'.waiting)).Sublist (calls ++ w.waiting ++ accepted log) := by
  induction log generalizing w calls with
  | nil =>
    obtain rfl := h
    exact ⟨calls, hw, by simp [made, accepted]⟩
  | cons item log ih =>
    rcases item with m | e
    · obtain ⟨v, hmove, hrest⟩ := h
      obtain ⟨calls₁, hv, hstep⟩ := move_owes hw hmove
      obtain ⟨calls', hw', hlater⟩ := ih hv hrest
      refine ⟨calls', hw', ?_⟩
      have haccepted : accepted (.inl m :: log) = accepted log := rfl
      rw [← List.singleton_append, made_append, List.append_assoc, List.singleton_append, haccepted]
      -- the calls of the rest of the log are among those owed after the move, and with the
      -- call the move itself made they are among those owed before it
      have hmade := (List.Sublist.refl (made [.inl m])).append hlater
      have hwhole := hstep.append (List.Sublist.refl (accepted log))
      rw [List.append_assoc (made [.inl m])] at hwhole
      exact hmade.trans hwhole
    · obtain ⟨v, ⟨hanswer, -⟩, hrest⟩ := h
      -- the UI thread makes no calls of tasks: it can only add to what is waiting
      obtain ⟨hwaiting, hrunning⟩ := answer_waiting hanswer
      rw [← hrunning] at hw
      obtain ⟨calls', hw', hlater⟩ := ih hw hrest
      refine ⟨calls', hw', ?_⟩
      have hmade : made (.inr e :: log) = made log := rfl
      rw [hwaiting] at hlater
      rw [hmade, ← List.singleton_append (l := log), accepted_append]
      simpa only [List.append_assoc] using hlater

/-- One call: what is accepted was submitted, and in an idle state it is accepted. -/
theorem answer_accepted {e : Event UiThread} (h : w.Answers e.1 e.2 w') :
    accepted [.inr e] = (submittedBy e).toList ∨ (accepted [.inr e] = [] ∧ ¬ w.Idle) := by
  obtain ⟨c, x⟩ := e
  cases c with
  | submit task =>
    cases x with
    | true =>
      left
      cases hcall : task.call <;> simp [accepted, submittedBy, hcall]
    | false => exact .inr ⟨rfl, h.1⟩
  | _ => exact .inl rfl

theorem submitted_cons (e : Event UiThread) (t : Trace UiThread) :
    submitted (e :: t) = (submittedBy e).toList ++ submitted t := by
  cases hcall : submittedBy e <;> simp [submitted, hcall]

/-- What is accepted was submitted. -/
theorem accepted_sublist (h : (tuiWorld ok).Path w log w') :
    (accepted log).Sublist (submitted (events (W := tuiWorld ok) log)) := by
  induction log generalizing w with
  | nil => exact List.Sublist.refl _
  | cons item log ih =>
    rcases item with m | e
    · obtain ⟨v, -, hrest⟩ := h
      exact ih hrest
    · obtain ⟨v, ⟨hanswer, -⟩, hrest⟩ := h
      rw [events_cons_inr, submitted_cons, ← List.singleton_append (l := log), accepted_append]
      rcases answer_accepted hanswer with heq | ⟨hnone, -⟩
      · rw [heq]
        exact (List.Sublist.refl _).append (ih hrest)
      · rw [hnone]
        exact (List.nil_sublist _).append (ih hrest)

/-- Actions are submitted to an idle worker only. -/
def IdleSubmit (w : TuiState) (e : Event UiThread) : Prop := (submittedBy e).isSome → w.Idle

/-- **An idle worker accepts** every action that is submitted. -/
theorem accepted_eq (h : (tuiWorld IdleSubmit).Path w log w') :
    accepted log = submitted (events (W := tuiWorld IdleSubmit) log) := by
  induction log generalizing w with
  | nil => rfl
  | cons item log ih =>
    rcases item with m | e
    · obtain ⟨v, -, hrest⟩ := h
      exact ih hrest
    · obtain ⟨v, ⟨hanswer, hidle⟩, hrest⟩ := h
      rw [events_cons_inr, submitted_cons, ← List.singleton_append (l := log), accepted_append,
        ih hrest]
      rcases answer_accepted hanswer with heq | ⟨hnone, hbusy⟩
      · rw [heq]
      · -- nothing was submitted
        have hsubmitted : submittedBy e = none := by
          cases hcall : submittedBy e with
          | none => rfl
          | some c => exact absurd (hidle (by rw [hcall]; rfl)) hbusy
        rw [hnone, hsubmitted]
        rfl

end

end Lx.Tui
