import Lx.Lib.Simulation
import Lx.Tui.TaskWorker

/-!
# The thread of the TaskWorker

`TaskWorker::work` of `src/tui/FtxuiTuiRunner.cpp` down to the condition variable it sleeps
on. In `tuiWorld` the worker takes a pending task at some time; here it has to wake up for
it first, and the destructor has to get it out of its loop.

`thread_` is declared before `busy_` and `stopping_`, so the constructor starts the thread
before it initialises the flags. `busy_` is not read that early, `stopping_` is: the thread
may find in it whatever the memory holds, and leave at once. One round of the loop reads
`stopping_` twice, for `wait` and right after it. If the constructor overwrites a `true` in
between, the thread takes a task out of an empty optional, which is undefined; a run in which
that happens is not one of `threads`, where both reads are one move.

## Layers

- `threads`: the shared state with the position of the thread (§1).
- Seen through `project` it is `tuiWorld`: every run here is one there (§2).
- A task that was accepted is not slept through, unless the thread has left by reading
  `stopping_` too early (§3); and the destructor gets the thread out of its loop without
  another task being started (§4).
-/

namespace Lx.Tui.WorkerThread

open Interaction World

/-! ## §1 The thread -/

/-- Where the thread is in `work`. -/
inductive Position where
  /-- Before the condition of `wait` is tested, at first or after a wake-up. -/
  | testing
  /-- Asleep in `wait`. -/
  | waiting
  /-- In `task()`. -/
  | running
  /-- Before `updated_()`. -/
  | updating
  /-- Has left `work`, and can be joined. -/
  | finished
  deriving DecidableEq, Repr

structure ThreadState where
  shared : TuiState := {}
  position : Position := .testing
  /-- What the memory of `stopping_` holds as long as the constructor has not initialised it. -/
  memory : Option Bool

/-- The constructor has started the thread, and initialises `busy_` and `stopping_` next. -/
def started (garbage : Bool) : ThreadState := { memory := some garbage }

/-- `stopping_`, as the thread reads it. -/
def ThreadState.stops (w : ThreadState) : Bool := w.memory.getD w.shared.stopping

inductive Move where
  /-- The dashboard worker publishes a snapshot. -/
  | refresh (snapshot : DashboardSnapshot)
  /-- The condition holds: the pending task is taken. -/
  | take (task : Task)
  /-- The condition does not hold. -/
  | sleep
  /-- The condition holds because of `stopping_`. -/
  | leave
  /-- A wake-up without a notification. -/
  | wake
  | exchange (e : Event Tasks)
  | finish (text : Bytes)
  | threw (call : Option TaskCall) (text : Bytes)
  /-- `updated_()` -/
  | update
  /-- The constructor: `busy_ = false` and `stopping_ = false`. -/
  | construct
  /-- The destructor: `stopping_ = true`, under the mutex. -/
  | requestStop
  /-- The destructor: `wake_.notify_all()`. -/
  | notifyAll

/-- A notification: there is one thread to wake up. -/
def Position.notified : Position → Position
  | .waiting => .testing
  | position => position

def ThreadState.Moves (w : ThreadState) (m : Move) (w' : ThreadState) : Prop :=
  match m with
  -- the dashboard worker has a mutex of its own, and may publish at any time
  | .refresh snapshot => w' = { w with shared := { w.shared with snapshot := some snapshot } }
  | .take task => w.position = .testing ∧ w.stops = false ∧ w.shared.pending = some task ∧
      w' = { w with
        shared := { w.shared with pending := none, running := some task.program }
        position := .running }
  | .sleep => w.position = .testing ∧ w.stops = false ∧ w.shared.pending = none ∧
      w' = { w with position := .waiting }
  | .leave => w.position = .testing ∧ w.stops = true ∧ w' = { w with position := .finished }
  | .wake => w.position = .waiting ∧ w' = { w with position := .testing }
  -- the mutex is unlocked while the task runs, so other threads move between its calls
  | .exchange e => w.position = .running ∧ ∃ k, w.shared.running = some (.call e.1 k) ∧
      w' = { w with shared := { w.shared with running := some (k e.2) } }
  | .finish text => w.position = .running ∧ w.shared.running = some (.ret text) ∧
      w' = { w with
        shared := { w.shared with running := none, result := text }
        position := .updating }
  -- an exception from a service, or from the formatting of its answer
  | .threw call text => w.position = .running ∧
      (∃ p, w.shared.running = some p ∧ ∀ c, call = some c → ∃ k, p = .call c k) ∧
      w' = { w with
        shared := { w.shared with running := none, result := text }
        position := .updating }
  | .update => w.position = .updating ∧ w' = { w with position := .testing }
  -- not under the mutex: the thread may have started already
  | .construct => w.memory.isSome ∧ w' = { w with memory := none }
  -- there is no destructor before the constructor is done
  | .requestStop => w.memory = none ∧ w' = { w with shared := { w.shared with stopping := true } }
  | .notifyAll => w.memory = none ∧ w' = { w with position := w.position.notified }

/-- The calls of the UI thread, which has the worker once it is constructed; `submit` notifies
    the thread when it accepts a task. -/
def ThreadState.Answers (w : ThreadState) (c : TuiCall) (x : c.Answer) (w' : ThreadState) : Prop :=
  w.memory = none ∧ w'.memory = none ∧ w.shared.Answers c x w'.shared ∧
    w'.position = match c, x with
      | .submit _, true => w.position.notified
      | _, _ => w.position

abbrev threads : World UiThread where
  State := ThreadState
  Move := Move
  move w m w' := w.Moves m w'
  answer w c x w' := w.Answers c x w'

/-- What an item means where the condition variable is not seen. -/
def project : Move ⊕ Event UiThread → TuiLog
  | .inl (.refresh snapshot) => [.inl (.refresh snapshot)]
  | .inl (.take task) => [.inl (.take task)]
  | .inl (.exchange e) => [.inl (.exchange e)]
  | .inl (.finish text) => [.inl (.finish text)]
  | .inl (.threw call text) => [.inl (.threw call text)]
  | .inl .requestStop => [.inl .stop]
  | .inl _ => []
  | .inr e => [.inr e]

/-- The moves the worker thread makes by itself. -/
def Move.own : Move → Bool
  | .take _ | .sleep | .leave | .exchange _ | .finish _ | .threw _ _ | .update => true
  | _ => false

/-! ## §2 The worker without its condition variable -/

/-- A task that makes no more calls than that and returns. -/
def CallsWithin : Prog Tasks Bytes → Nat → Prop
  | .ret _, _ => True
  -- a task that waited for ever would keep the destructor from joining
  | .call _ _, 0 => False
  | .call _ k, n + 1 => ∀ x, CallsWithin (k x) n
  | .block, _ => False

theorem callsWithin_succ {p : Prog Tasks Bytes} {n : Nat} (h : CallsWithin p n) :
    CallsWithin p (n + 1) := by
  induction p generalizing n with
  | ret text => trivial
  | call c k ih =>
    cases n with
    | zero => exact h.elim
    | succ n => exact fun x => ih x (h x)
  | block => exact h

theorem callsWithin_program (task : Task) : CallsWithin task.program 1 := by
  -- every task asks one service, except the hint, which asks none
  cases task with
  | find query => exact fun _ => trivial
  | inspect resource => exact fun _ => trivial
  | logs query => exact fun _ => trivial
  | hint => trivial
  | act action unit pid => cases action <;> exact fun _ => trivial

/-- `busy_` is set while a task runs, none is pending then, and the thread sleeps only when
    there is none; before the constructor is done nothing was submitted. -/
structure Consistent (w : ThreadState) : Prop where
  busy : w.shared.running.isSome ↔ w.position = .running
  single : w.shared.running.isSome → w.shared.pending = none
  short : ∀ p, w.shared.running = some p → CallsWithin p 1
  asleep : w.position = .waiting → w.shared.pending = none
  fresh : w.memory.isSome → w.shared.Idle ∧ w.shared.stopping = false

theorem consistent_started (garbage : Bool) : Consistent (started garbage) where
  busy := by simp [started]
  single := fun _ => rfl
  short := fun p hp => absurd hp (by simp [started])
  asleep := fun _ => rfl
  fresh := fun _ => ⟨⟨rfl, rfl⟩, rfl⟩

section

variable {w w' : ThreadState} {log : threads.Log} {garbage : Bool}

theorem notified_ne_waiting (position : Position) : position.notified ≠ .waiting := by
  cases position <;> exact Position.noConfusion

theorem notified_eq_running {position : Position} :
    position.notified = .running ↔ position = .running := by
  cases position <;> simp [Position.notified]

theorem notified_eq_finished {position : Position} :
    position.notified = .finished ↔ position = .finished := by
  cases position <;> simp [Position.notified]

/-- After the initialisation the thread reads the flag itself. -/
theorem stops_eq (h : w.memory = none) : w.stops = w.shared.stopping := by
  rw [ThreadState.stops, h]
  rfl

theorem Consistent.going (hw : Consistent w) (h : w.stops = false) : w.shared.stopping = false := by
  cases hmemory : w.memory with
  | none => rwa [← stops_eq hmemory]
  -- nobody could set the flag so early, whatever the memory holds
  | some garbage => exact (hw.fresh (by rw [hmemory]; rfl)).2

theorem Consistent.notified (hw : Consistent w) :
    Consistent { w with position := w.position.notified } where
  busy := hw.busy.trans notified_eq_running.symm
  single := hw.single
  short := hw.short
  asleep hwaiting := absurd hwaiting (notified_ne_waiting _)
  fresh := hw.fresh

/-- The thread moves outside of a task. -/
theorem Consistent.moved (hw : Consistent w) {source target : Position}
    (hposition : w.position = source) (hsource : source ≠ .running) (htarget : target ≠ .running)
    (hasleep : target = .waiting → w.shared.pending = none) :
    Consistent { w with position := target } where
  -- neither before the move nor after it
  busy := by
    rw [hw.busy, hposition]
    exact iff_of_false hsource htarget
  single := hw.single
  short := hw.short
  asleep := hasleep
  fresh := hw.fresh

/-- The task that runs is over. -/
theorem Consistent.done (hw : Consistent w) (result : Bytes) :
    Consistent { w with
      shared := { w.shared with running := none, result := result }
      position := .updating } where
  busy := by simp
  single hsome := absurd hsome (by simp)
  short p hp := absurd hp (by simp)
  asleep hwaiting := absurd hwaiting (by simp)
  fresh hmemory := ⟨⟨(hw.fresh hmemory).1.1, rfl⟩, (hw.fresh hmemory).2⟩

/-- One move of the threads is at most one of `tuiWorld`. -/
theorem move_project {m : Move} (h : w.Moves m w') (hw : Consistent w) :
    (tuiWorld fun _ _ => True).Path w.shared (project (.inl m)) w'.shared ∧ Consistent w' := by
  cases m with
  | refresh snapshot =>
    obtain rfl := show w' = _ from h
    exact ⟨⟨_, rfl, rfl⟩, ⟨hw.busy, hw.single, hw.short, hw.asleep, hw.fresh⟩⟩
  | take task =>
    obtain ⟨hposition, hstops, hpending, rfl⟩ := h
    -- the thread is not in a task
    have hrunning : w.shared.running = none := by
      rw [← Option.not_isSome_iff_eq_none, hw.busy, hposition]
      exact Position.noConfusion
    refine ⟨⟨_, ⟨hpending, hrunning, hw.going hstops, rfl⟩, rfl⟩,
      ⟨by simp, fun _ => rfl, ?_, fun _ => rfl, fun hmemory => ?_⟩⟩
    -- a task as submitted makes one call
    · intro p hp
      obtain rfl : task.program = p := Option.some.inj hp
      exact callsWithin_program task
    -- nothing is submitted before the constructor is done
    · rw [(hw.fresh hmemory).1.1] at hpending
      cases hpending
  | sleep =>
    obtain ⟨hposition, -, hpending, rfl⟩ := h
    exact ⟨rfl, hw.moved hposition (by decide) (by decide) (fun _ => hpending)⟩
  | leave =>
    obtain ⟨hposition, -, rfl⟩ := h
    exact ⟨rfl, hw.moved hposition (by decide) (by decide) (by simp)⟩
  | wake =>
    obtain ⟨hposition, rfl⟩ := h
    exact ⟨rfl, hw.moved hposition (by decide) (by decide) (by simp)⟩
  | exchange e =>
    obtain ⟨hposition, k, hrunning, rfl⟩ := h
    refine ⟨⟨_, ⟨k, hrunning, rfl⟩, rfl⟩, ⟨by simp [hposition],
      fun _ => hw.single (by rw [hrunning]; rfl), ?_, hw.asleep, fun hmemory => ?_⟩⟩
    · intro p hp
      obtain rfl : k e.2 = p := Option.some.inj hp
      exact callsWithin_succ (hw.short _ hrunning e.2)
    · rw [(hw.fresh hmemory).1.2] at hrunning
      cases hrunning
  | finish text =>
    obtain ⟨-, hrunning, rfl⟩ := h
    exact ⟨⟨_, ⟨hrunning, rfl⟩, rfl⟩, hw.done text⟩
  | threw call text =>
    obtain ⟨-, hrunning, rfl⟩ := h
    exact ⟨⟨_, ⟨hrunning, rfl⟩, rfl⟩, hw.done text⟩
  | update =>
    obtain ⟨hposition, rfl⟩ := h
    exact ⟨rfl, hw.moved hposition (by decide) (by decide) (by simp)⟩
  | construct =>
    obtain ⟨-, rfl⟩ := h
    exact ⟨rfl, ⟨hw.busy, hw.single, hw.short, hw.asleep, fun hmemory => by cases hmemory⟩⟩
  | requestStop =>
    -- the destructor comes after the constructor, so the memory is none of its business
    obtain ⟨hmemory, rfl⟩ := h
    refine ⟨⟨_, rfl, rfl⟩, ⟨hw.busy, hw.single, hw.short, hw.asleep, fun hsome => ?_⟩⟩
    rw [show _ = none from hmemory] at hsome
    cases hsome
  | notifyAll =>
    obtain ⟨-, rfl⟩ := h
    exact ⟨rfl, hw.notified⟩

/-- A call that accepts no task leaves the thread and the tasks alone. -/
theorem answer_cases {c : TuiCall} {x : c.Answer} (h : w.Answers c x w') :
    w.memory = none ∧
    ((∃ task result, w.shared.Idle ∧ w' =
      ⟨{ w.shared with pending := some task, result := result }, w.position.notified, none⟩) ∨
    (w'.position = w.position ∧ w'.memory = none ∧ w'.shared.pending = w.shared.pending ∧
      w'.shared.running = w.shared.running ∧ w'.shared.stopping = w.shared.stopping)) := by
  obtain ⟨hmemory, hmemory', hanswer, hposition⟩ := h
  obtain ⟨shared, position, memory⟩ := w'
  obtain rfl : memory = none := hmemory'
  refine ⟨hmemory, ?_⟩
  have hsame : shared = w.shared → position = w.position →
      (position = w.position ∧ (none : Option Bool) = none ∧ shared.pending = w.shared.pending ∧
        shared.running = w.shared.running ∧ shared.stopping = w.shared.stopping) := by
    rintro rfl rfl
    exact ⟨rfl, rfl, rfl, rfl, rfl⟩
  cases c with
  | submit task =>
    cases x with
    | true =>
      obtain ⟨hidle, hshared⟩ := hanswer
      obtain rfl : shared = { w.shared with pending := some task, result := "Loading..." } := hshared
      obtain rfl : position = w.position.notified := hposition
      exact .inl ⟨task, _, hidle, rfl⟩
    | false => exact .inr (hsame hanswer.2 hposition)
  | clear =>
    obtain rfl : shared = { w.shared with result := [] } := hanswer
    exact .inr ⟨hposition, rfl, rfl, rfl, rfl⟩
  | snapshot => exact .inr (hsame hanswer.2 hposition)
  | result => exact .inr (hsame hanswer.2 hposition)
  | exitLoop => exact .inr (hsame hanswer hposition)
  | editSearch event query => exact .inr (hsame hanswer hposition)
  | outOfBounds => exact .inr (hsame hanswer hposition)

theorem answer_consistent {c : TuiCall} {x : c.Answer} (h : w.Answers c x w')
    (hw : Consistent w) : Consistent w' := by
  obtain ⟨-, ⟨task, result, ⟨-, hrunning⟩, rfl⟩ |
    ⟨hposition, hmemory, hpending, hrunning, -⟩⟩ := answer_cases h
  -- the new task is the only one, since the worker was idle
  · refine ⟨hw.busy.trans notified_eq_running.symm, ?_, hw.short, ?_, fun hsome => by cases hsome⟩
    · intro hsome
      rw [hrunning] at hsome
      cases hsome
    · exact fun hwaiting => absurd hwaiting (notified_ne_waiting _)
  · refine ⟨?_, ?_, ?_, ?_, ?_⟩
    · rw [hrunning, hposition]
      exact hw.busy
    · rw [hrunning, hpending]
      exact hw.single
    · rw [hrunning]
      exact hw.short
    · rw [hposition, hpending]
      exact hw.asleep
    · rw [hmemory]
      exact fun hsome => by cases hsome

/-- Whatever the threads do, `tuiWorld` does it too. -/
theorem path_project (h : threads.Path w log w') (hw : Consistent w) :
    (tuiWorld fun _ _ => True).Path w.shared (observed project log) w'.shared ∧
      Consistent w' := by
  -- the induction is on the log; `Consistent` is what it carries along
  induction log generalizing w with
  | nil =>
    obtain rfl := h
    exact ⟨rfl, hw⟩
  | cons item log ih =>
    rcases item with m | e
    · obtain ⟨v, hmove, hrest⟩ := h
      obtain ⟨hfirst, hv⟩ := move_project hmove hw
      obtain ⟨hpath, hw'⟩ := ih hrest hv
      exact ⟨path_append.mpr ⟨v.shared, hfirst, hpath⟩, hw'⟩
    · obtain ⟨v, hanswer, hrest⟩ := h
      obtain ⟨hpath, hw'⟩ := ih hrest (answer_consistent hanswer hw)
      exact ⟨⟨v.shared, ⟨hanswer.2.2.1, trivial⟩, hpath⟩, hw'⟩

theorem events_project (log : threads.Log) :
    events (W := tuiWorld fun _ _ => True) (observed project log) = events log := by
  induction log with
  | nil => rfl
  | cons item log ih =>
    rcases item with m | e
    · rw [observed_cons, events_append, ih]
      -- of the moves of the thread only those that change the shared state are seen
      cases m <;> rfl
    · exact congrArg (e :: ·) ih

/-- **The condition variable is not seen from outside.** Whatever the UI thread does, its run
    among the threads is a run among the workers that take tasks when they like; the tasks the
    thread takes are the first accepted ones, in their order, and its mutating calls are those
    of accepted tasks, in their order and none twice. -/
theorem threads_refine_tuiWorld {α : Type} {p : Prog UiThread α} {x : α}
    (h : threads.Runs p (started garbage) log x w') :
    (tuiWorld fun _ _ => True).Runs p {} (observed project log) x w'.shared ∧
      takenTasks (observed project log) <+: acceptedTasks (observed project log) ∧
      (made (observed project log)).Sublist (accepted (observed project log)) := by
  obtain ⟨hrun, hpath⟩ := h
  obtain ⟨hprojected, -⟩ := path_project hpath (consistent_started garbage)
  refine ⟨⟨by rw [events_project]; exact hrun, hprojected⟩, ?_, ?_⟩
  · exact ⟨_, taken_pending hprojected⟩
  -- nothing runs at first, so nothing is owed to a running task
  · have howes : RunningOwes (started garbage).shared.running [] := rfl
    obtain ⟨calls, -, hmade⟩ := made_accepted howes hprojected
    exact (List.sublist_append_left _ _).trans hmade

/-- The thread falls asleep before the flags are initialised; a task wakes it up and runs, and
    a second one is refused meanwhile. -/
def hintLog : threads.Log :=
  [.inl .sleep, .inl .construct, .inr ⟨.submit .hint, true⟩, .inl (.take .hint),
    .inr ⟨.submit .hint, false⟩,
    .inl (.finish (Bytes.ofString "Select a service or process to view logs")), .inl .update]

/-- Two tasks are submitted. -/
def submitTwice : Prog UiThread Bool := do
  let _ ← perform (S := UiThread) (.submit .hint)
  perform (S := UiThread) (.submit .hint)

theorem hint_refines :
    ∃ w, (tuiWorld fun _ _ => True).Runs submitTwice {}
      [.inr ⟨.submit .hint, true⟩, .inl (.take .hint), .inr ⟨.submit .hint, false⟩,
        .inl (.finish (Bytes.ofString "Select a service or process to view logs"))] false w := by
  have hruns : threads.Runs submitTwice (started false) hintLog false
      ⟨{ result := Bytes.ofString "Select a service or process to view logs" }, .testing, none⟩ := by
    refine ⟨⟨true, _, rfl, false, _, rfl, rfl, rfl⟩, ?_⟩
    -- asleep, constructed, woken, taken, refused, finished, and back at the condition
    exact ⟨_, ⟨rfl, rfl, rfl, rfl⟩, _, ⟨rfl, rfl⟩, ⟨_, .testing, none⟩,
      ⟨rfl, rfl, ⟨⟨rfl, rfl⟩, rfl⟩, rfl⟩, _, ⟨rfl, rfl, rfl, rfl⟩, _,
      ⟨rfl, rfl, ⟨fun hidle => (by cases hidle.2), rfl⟩, rfl⟩, _, ⟨rfl, rfl, rfl⟩, _,
      ⟨rfl, rfl⟩, rfl⟩
  exact ⟨_, (threads_refine_tuiWorld hruns).1⟩

/-! ## §3 No task is slept through -/

/-- The steps the worker thread made by itself. -/
def ownSteps (log : threads.Log) : Nat := ((moves log).map (·.own.toNat)).sum

/-- The task waits for the thread, which is awake and not told to stop. -/
structure Waits (task : Task) (n : Nat) (w : ThreadState) : Prop where
  pending : w.shared.pending = some task
  constructed : w.memory = none
  going : w.shared.stopping = false
  awake : w.position = .testing ∨ w.position = .updating ∧ 1 ≤ n

theorem waits_of_pending {task : Task} (hw : Consistent w) (hpending : w.shared.pending = some task)
    (hgoing : w.shared.stopping = false) (hhere : w.position ≠ .finished) : Waits task 1 w := by
  refine ⟨hpending, ?_, hgoing, ?_⟩
  · -- before the constructor is done nothing is pending
    rw [← Option.not_isSome_iff_eq_none]
    intro hmemory
    rw [(hw.fresh hmemory).1.1] at hpending
    cases hpending
  cases hposition : w.position with
  | testing => exact .inl rfl
  | updating => exact .inr ⟨rfl, Nat.le_refl 1⟩
  | waiting =>
    rw [hw.asleep hposition] at hpending
    cases hpending
  | running =>
    rw [hw.single (hw.busy.mpr hposition)] at hpending
    cases hpending
  | finished => exact absurd hposition hhere

/-- One move: only taking the task, or being told to stop, gets the thread away from it. -/
theorem waits_move {task : Task} {n : Nat} {m : Move} (hm : m ≠ .requestStop ∧ m ≠ .take task)
    (h : w.Moves m w') (hw : Waits task n w) : ∃ n', m.own.toNat + n' ≤ n ∧ Waits task n' w' := by
  -- the position decides which moves the thread can make
  obtain ⟨hpending, hmemory, hgoing, hawake⟩ := hw
  cases m with
  | refresh snapshot =>
    obtain rfl := show w' = _ from h
    exact ⟨n, by simp [Move.own], hpending, hmemory, hgoing, hawake⟩
  | take other =>
    obtain ⟨-, -, hother, -⟩ := h
    -- only the pending task can be taken
    rw [hpending] at hother
    cases hother
    exact absurd rfl hm.2
  | sleep =>
    obtain ⟨-, -, hnone, -⟩ := h
    -- it sleeps only if nothing is pending
    rw [hpending] at hnone
    cases hnone
  | leave =>
    obtain ⟨-, hstops, -⟩ := h
    -- it leaves only if it is told to
    rw [stops_eq hmemory, hgoing] at hstops
    cases hstops
  | update =>
    obtain ⟨hposition, rfl⟩ := h
    rcases hawake with htesting | ⟨-, hn⟩
    · rw [htesting] at hposition
      cases hposition
    -- from `updated_()` back to the condition: the one step that is left
    · exact ⟨n - 1, by simp [Move.own]; omega, hpending, hmemory, hgoing, .inl rfl⟩
  | construct =>
    obtain ⟨hfresh, -⟩ := h
    rw [hmemory] at hfresh
    cases hfresh
  | requestStop => exact absurd rfl hm.1
  | notifyAll =>
    obtain ⟨-, rfl⟩ := h
    refine ⟨n, by simp [Move.own], hpending, hmemory, hgoing, ?_⟩
    rcases hawake with htesting | ⟨hupdating, hn⟩
    · exact .inl (by simp [htesting, Position.notified])
    · exact .inr ⟨by simp [hupdating, Position.notified], hn⟩
  | wake | exchange e | finish text | threw call text =>
    -- the thread is neither asleep nor in a task
    obtain ⟨hposition, -⟩ := h
    rcases hawake with htesting | ⟨hupdating, -⟩
    · rw [htesting] at hposition
      cases hposition
    · rw [hupdating] at hposition
      cases hposition

theorem waits_answer {task : Task} {n : Nat} {c : TuiCall} {x : c.Answer} (h : w.Answers c x w')
    (hw : Waits task n w) : Waits task n w' := by
  obtain ⟨-, ⟨other, result, ⟨hnone, -⟩, rfl⟩ |
    ⟨hposition, hmemory, hpending, -, hstopping⟩⟩ := answer_cases h
  -- a second task is refused while the first one is pending
  · rw [hw.pending] at hnone
    cases hnone
  · exact ⟨hpending.trans hw.pending, hmemory, hstopping.trans hw.going,
      by rw [hposition]; exact hw.awake⟩

theorem waits_enabled {task : Task} {n : Nat} (hw : Waits task n w) :
    ∃ m v, m.own = true ∧ w.Moves m v := by
  rcases hw.awake with htesting | ⟨hupdating, -⟩
  · exact ⟨.take task, _, rfl, htesting, (stops_eq hw.constructed).trans hw.going, hw.pending, rfl⟩
  · exact ⟨.update, _, rfl, hupdating, rfl⟩

/-- What one move does to the flag, to its memory, and to a thread that has left. -/
theorem move_flags {m : Move} (h : w.Moves m w') :
    (w'.shared.stopping = w.shared.stopping ∨ w'.shared.stopping = true) ∧
      (w'.memory = w.memory ∨ m = .construct ∧ w'.memory = none) ∧
      (w.position = .finished → m.own = false ∧ w'.position = .finished) ∧
      (w'.position = .finished → w.position = .finished ∨ m = .leave) := by
  cases m with
  | refresh snapshot =>
    obtain rfl := show w' = _ from h
    exact ⟨.inl rfl, .inl rfl, fun hp => ⟨rfl, hp⟩, .inl⟩
  | take task =>
    obtain ⟨hposition, -, -, rfl⟩ := h
    exact ⟨.inl rfl, .inl rfl, fun hp => by simp [hp] at hposition, fun hp => by simp at hp⟩
  | sleep =>
    obtain ⟨hposition, -, -, rfl⟩ := h
    exact ⟨.inl rfl, .inl rfl, fun hp => by simp [hp] at hposition, fun hp => by simp at hp⟩
  | leave =>
    obtain ⟨hposition, -, rfl⟩ := h
    exact ⟨.inl rfl, .inl rfl, fun hp => by simp [hp] at hposition, fun _ => .inr rfl⟩
  | wake | update =>
    obtain ⟨hposition, rfl⟩ := h
    exact ⟨.inl rfl, .inl rfl, fun hp => by simp [hp] at hposition, fun hp => by simp at hp⟩
  | exchange e =>
    obtain ⟨hposition, k, -, rfl⟩ := h
    exact ⟨.inl rfl, .inl rfl, fun hp => by simp [hp] at hposition, .inl⟩
  | finish text =>
    obtain ⟨hposition, -, rfl⟩ := h
    exact ⟨.inl rfl, .inl rfl, fun hp => by simp [hp] at hposition, fun hp => by simp at hp⟩
  | threw call text =>
    obtain ⟨hposition, -, rfl⟩ := h
    exact ⟨.inl rfl, .inl rfl, fun hp => by simp [hp] at hposition, fun hp => by simp at hp⟩
  | construct =>
    obtain ⟨-, rfl⟩ := h
    exact ⟨.inl rfl, .inr ⟨rfl, rfl⟩, fun hp => ⟨rfl, hp⟩, .inl⟩
  | requestStop =>
    obtain ⟨-, rfl⟩ := h
    exact ⟨.inr rfl, .inl rfl, fun hp => ⟨rfl, hp⟩, .inl⟩
  | notifyAll =>
    obtain ⟨-, rfl⟩ := h
    exact ⟨.inl rfl, .inl rfl, fun hp => ⟨rfl, notified_eq_finished.mpr hp⟩,
      fun hp => .inl (notified_eq_finished.mp hp)⟩

theorem answer_flags {c : TuiCall} {x : c.Answer} (h : w.Answers c x w') :
    w'.shared.stopping = w.shared.stopping ∧ w.memory = none ∧ w'.memory = none ∧
      (w'.position = .finished ↔ w.position = .finished) := by
  obtain ⟨hmemory, ⟨task, result, -, rfl⟩ | ⟨hposition, hmemory', -, -, hstopping⟩⟩ := answer_cases h
  · exact ⟨rfl, hmemory, rfl, notified_eq_finished⟩
  · exact ⟨hstopping, hmemory, hmemory', by rw [hposition]⟩

/-- A request to stop is never taken back. -/
theorem path_stopping (h : threads.Path w log w') (hw : w.shared.stopping = true) :
    w'.shared.stopping = true := by
  refine h.invariant (P := fun v : threads.State => v.shared.stopping = true) ?_ ?_ hw
  · intro v m v' hmove hv
    -- initialising does not reset it, since the request comes later
    rcases (move_flags hmove).1 with hsame | hset
    · exact hsame.trans hv
    · exact hset
  · exact fun v c x v' hanswer hv => (answer_flags hanswer).1.trans hv

/-- A thread that has left makes no step. -/
theorem path_finished (h : threads.Path w log w') (hw : w.position = .finished) :
    w'.position = .finished ∧ ∀ m ∈ moves log, m.own = false := by
  induction log generalizing w with
  | nil =>
    obtain rfl := h
    exact ⟨hw, fun m hm => absurd hm List.not_mem_nil⟩
  | cons item log ih =>
    rcases item with m | e
    · obtain ⟨v, hmove, hrest⟩ := h
      obtain ⟨hm, hv⟩ := (move_flags hmove).2.2.1 hw
      obtain ⟨hw', hlater⟩ := ih hrest hv
      exact ⟨hw', List.forall_mem_cons.mpr ⟨hm, hlater⟩⟩
    · obtain ⟨v, hanswer, hrest⟩ := h
      exact ih hrest ((answer_flags hanswer).2.2.2.mpr hw)

/-- A thread that did not leave is there. -/
theorem path_here (h : threads.Path w log w') (hlog : .leave ∉ moves log)
    (hw : w.position ≠ .finished) : w'.position ≠ .finished := by
  induction log generalizing w with
  | nil =>
    obtain rfl := h
    exact hw
  | cons item log ih =>
    rcases item with m | e
    · obtain ⟨v, hmove, hrest⟩ := h
      rw [moves_cons_inl, List.mem_cons, not_or] at hlog
      refine ih hrest hlog.2 fun hv => ?_
      rcases (move_flags hmove).2.2.2 hv with hfinished | hleave
      · exact hw hfinished
      · exact hlog.1 hleave.symm
    · obtain ⟨v, hanswer, hrest⟩ := h
      exact ih hrest hlog fun hv => hw ((answer_flags hanswer).2.2.2.mp hv)

/-- A thread that left without a request has read the flag before it was initialised. -/
theorem path_left_early (h : threads.Path w log w') (hgoing : w'.shared.stopping = false)
    (hleft : .leave ∈ moves log) :
    w.memory = some true ∧ w'.position = .finished ∧
      ∃ early late, log = early ++ .inl .leave :: late ∧ .construct ∉ moves (W := threads) early := by
  induction log generalizing w with
  | nil => cases hleft
  | cons item log ih =>
    rcases item with m | e
    -- the first `leave` is the one that counts
    · by_cases hm : m = .leave
      · obtain rfl := hm
        have hstays := path_stopping h
        obtain ⟨v, ⟨-, hstops, rfl⟩, hrest⟩ := h
        refine ⟨?_, (path_finished hrest rfl).1, [], log, rfl, List.not_mem_nil⟩
        cases hmemory : w.memory with
        | none =>
          -- after the initialisation it would have read the request, which is not withdrawn
          rw [stops_eq hmemory] at hstops
          rw [hstays hstops] at hgoing
          cases hgoing
        | some garbage =>
          rw [ThreadState.stops, hmemory] at hstops
          exact congrArg some hstops
      · obtain ⟨v, hmove, hrest⟩ := h
        obtain ⟨hv, hfinished, early, late, rfl, hearly⟩ :=
          ih hrest ((List.mem_cons.mp hleft).resolve_left (Ne.symm hm))
        obtain hmemory | ⟨-, hmemory⟩ := (move_flags hmove).2.1
        · refine ⟨hmemory.symm.trans hv, hfinished, .inl m :: early, late, rfl, ?_⟩
          rw [moves_cons_inl, List.mem_cons, not_or]
          refine ⟨?_, hearly⟩
          rintro rfl
          obtain ⟨-, rfl⟩ := hmove
          -- having been told by the memory, it read it before it was overwritten
          cases hv
        · rw [hmemory] at hv
          cases hv
    · obtain ⟨v, hanswer, hrest⟩ := h
      obtain ⟨hv, -⟩ := ih hrest hleft
      rw [(answer_flags hanswer).2.2.1] at hv
      cases hv

/-- **No wake-up is lost.** In every state the threads can reach, whatever the memory of
    `stopping_` held at first, a task that was accepted is taken by the second step the worker
    thread makes, whatever the UI thread and the dashboard worker do meanwhile, and until then
    the thread can make a step; unless the thread has found `true` in the flag before the
    constructor initialised it and has left: then it makes no step any more. -/
theorem accepted_task_is_taken {before after : threads.Log} {task : Task}
    (h : threads.Path (started garbage) before w) (hpending : w.shared.pending = some task)
    (hgoing : w.shared.stopping = false) (hafter : threads.Path w after w')
    (hstop : .requestStop ∉ moves after) :
    (.leave ∉ moves before ∧
        (.take task ∈ moves after ∨ (ownSteps after ≤ 1 ∧ ∃ m v, m.own = true ∧ w'.Moves m v))) ∨
      (garbage = true ∧
        (∃ early late, before = early ++ .inl .leave :: late ∧ .construct ∉ moves (W := threads) early) ∧
        ∀ m ∈ moves after, m.own = false) := by
  -- either the thread has left, or it is somewhere in its loop
  by_cases hleft : .leave ∈ moves before
  · obtain ⟨hmemory, hfinished, hearly⟩ := path_left_early h hgoing hleft
    exact .inr ⟨Option.some.inj hmemory, hearly, (path_finished hafter hfinished).2⟩
  refine .inl ⟨hleft, ?_⟩
  by_cases htaken : .take task ∈ moves after
  · exact .inl htaken
  · right
    -- here it is near the task: the budget of its own steps is one
    have hw := waits_of_pending (path_project h (consistent_started garbage)).2 hpending hgoing
      (path_here h hleft Position.noConfusion)
    obtain ⟨n, hn, hw'⟩ := hafter.budget (fun m : Move => m.own.toNat) (Waits task)
      (R := fun m : Move => m ≠ .requestStop ∧ m ≠ .take task)
      (Q := fun _ => True)
      (fun n w m w' hm hmove hw => waits_move hm hmove hw)
      (fun n w c x w' _ hanswer hw => waits_answer hanswer hw)
      (fun m hm => ⟨fun heq => hstop (heq ▸ hm), fun heq => htaken (heq ▸ hm)⟩)
      (fun _ _ => trivial) hw
    exact ⟨Nat.le_trans (Nat.le_add_right _ n) hn, waits_enabled hw'⟩

/-- A thread that slept when the task was submitted. -/
def woken : ThreadState :=
  ⟨{ pending := some .hint, result := Bytes.ofString "Loading..." }, .testing, none⟩

theorem woken_reached : threads.Path (started false)
    [.inl .sleep, .inl .construct, .inr ⟨.submit .hint, true⟩] woken :=
  ⟨_, ⟨rfl, rfl, rfl, rfl⟩, _, ⟨rfl, rfl⟩, woken, ⟨rfl, rfl, ⟨⟨rfl, rfl⟩, rfl⟩, rfl⟩, rfl⟩

/-- A thread that left before the task was submitted. -/
def gone : ThreadState :=
  ⟨{ pending := some .hint, result := Bytes.ofString "Loading..." }, .finished, none⟩

theorem gone_reached : threads.Path (started true)
    [.inl .leave, .inl .construct, .inr ⟨.submit .hint, true⟩] gone :=
  ⟨_, ⟨rfl, rfl, rfl⟩, _, ⟨rfl, rfl⟩, gone, ⟨rfl, rfl, ⟨⟨rfl, rfl⟩, rfl⟩, rfl⟩, rfl⟩

/-- A thread that slept can take the task; one that has left makes no step of its own,
    although the dashboard goes on. -/
theorem woken_can_move : (∃ m v, m.own = true ∧ woken.Moves m v) ∧
    ∀ snapshot, ∀ m ∈ moves (W := threads) [.inl (.refresh snapshot)], m.own = false := by
  constructor
  -- nothing has happened since, so the thread is the one that can move
  · obtain ⟨-, hmem | ⟨-, henabled⟩⟩ | ⟨hgarbage, -⟩ :=
      accepted_task_is_taken woken_reached rfl rfl
        (show threads.Path woken [] woken from rfl) List.not_mem_nil
    · cases hmem
    · exact henabled
    · cases hgarbage
  · intro snapshot
    obtain ⟨hhere, -⟩ | ⟨-, -, hsteps⟩ :=
      accepted_task_is_taken gone_reached rfl rfl
        (show threads.Path gone [.inl (.refresh snapshot)] _ from ⟨_, rfl, rfl⟩) (by simp [moves])
    · exact absurd List.mem_cons_self hhere
    · exact hsteps

/-! ## §4 The destructor -/

/-- `stopping_` is set and initialised. -/
def Told (w : ThreadState) : Prop := w.memory = none ∧ w.shared.stopping = true

theorem Told.stops (hw : Told w) : w.stops = true := (stops_eq hw.1).trans hw.2

/-- The thread was told to stop and is awake; it leaves within that many steps of its own. -/
structure Leaving (n : Nat) (w : ThreadState) : Prop where
  told : Told w
  near : w.position = .finished ∨ w.position = .testing ∧ 1 ≤ n ∨ w.position = .updating ∧ 2 ≤ n ∨
    w.position = .running ∧ ∃ p calls, w.shared.running = some p ∧ CallsWithin p calls ∧
      calls + 3 ≤ n

theorem move_told {m : Move} (h : w.Moves m w') (hw : Told w) :
    Told w' ∧ ∀ task, m ≠ .take task := by
  obtain ⟨hstopping, hmemory, -⟩ := move_flags h
  refine ⟨⟨?_, ?_⟩, ?_⟩
  · rcases hmemory with hsame | ⟨-, hnone⟩
    · exact hsame.trans hw.1
    · exact hnone
  · rcases hstopping with hsame | hset
    · exact hsame.trans hw.2
    · exact hset
  -- a task is taken only by a thread that reads `false`
  · rintro task rfl
    obtain ⟨-, hstops, -⟩ := h
    rw [hw.stops] at hstops
    cases hstops

theorem answer_told {c : TuiCall} {x : c.Answer} (h : w.Answers c x w') (hw : Told w) : Told w' := by
  obtain ⟨hstopping, -, hmemory, -⟩ := answer_flags h
  exact ⟨hmemory, hstopping.trans hw.2⟩

/-- No task is started after the request. -/
theorem path_told (h : threads.Path w log w') (hw : Told w) :
    Told w' ∧ ∀ task, .take task ∉ moves log := by
  induction log generalizing w with
  | nil =>
    obtain rfl := h
    exact ⟨hw, fun task => List.not_mem_nil⟩
  | cons item log ih =>
    rcases item with m | e
    · obtain ⟨v, hmove, hrest⟩ := h
      obtain ⟨hv, hm⟩ := move_told hmove hw
      obtain ⟨hw', hlater⟩ := ih hrest hv
      refine ⟨hw', fun task htaken => ?_⟩
      rcases List.mem_cons.mp htaken with heq | htaken
      · exact hm task heq.symm
      · exact hlater task htaken
    · obtain ⟨v, hanswer, hrest⟩ := h
      exact ih hrest (answer_told hanswer hw)

/-- One move gets the thread nearer to its end. -/
theorem leaving_move {n : Nat} {m : Move} (h : w.Moves m w') (hw : Leaving n w) :
    ∃ n', m.own.toNat + n' ≤ n ∧ Leaving n' w' := by
  obtain ⟨htold, hnear⟩ := hw
  obtain ⟨htold', htake⟩ := move_told h htold
  cases m with
  | refresh snapshot =>
    obtain rfl := show w' = _ from h
    exact ⟨n, by simp [Move.own], htold, hnear⟩
  | construct =>
    obtain ⟨-, rfl⟩ := h
    exact ⟨n, by simp [Move.own], htold', hnear⟩
  | requestStop =>
    obtain ⟨-, rfl⟩ := h
    exact ⟨n, by simp [Move.own], htold', hnear⟩
  | take task => exact absurd rfl (htake task)
  | sleep =>
    -- it is told to stop, so it does not go back to sleep
    obtain ⟨-, hstops, -⟩ := h
    rw [htold.stops] at hstops
    cases hstops
  | leave =>
    obtain ⟨hposition, -, rfl⟩ := h
    refine ⟨n - 1, ?_, htold, .inl rfl⟩
    -- the only position from which it leaves, one step before the end
    have hn : 1 ≤ n := by grind
    simp [Move.own]
    omega
  | wake =>
    obtain ⟨hposition, -⟩ := h
    grind
  | exchange e =>
    obtain ⟨hposition, k, hrunning, rfl⟩ := h
    -- one of the calls the task may make
    obtain ⟨p, calls, hp, hcalls, hn⟩ : ∃ p calls, w.shared.running = some p ∧
        CallsWithin p calls ∧ calls + 3 ≤ n := by grind
    rw [hrunning] at hp
    obtain rfl := Option.some.inj hp
    cases calls with
    | zero => exact hcalls.elim
    | succ calls =>
      refine ⟨n - 1, by simp [Move.own]; omega, htold, .inr (.inr (.inr ⟨hposition, _, calls, rfl,
        hcalls e.2, by omega⟩))⟩
  | finish text =>
    obtain ⟨hposition, -, rfl⟩ := h
    have hn : 3 ≤ n := by grind
    exact ⟨n - 1, by simp [Move.own]; omega, htold, .inr (.inr (.inl ⟨rfl, by omega⟩))⟩
  | threw call text =>
    obtain ⟨hposition, -, rfl⟩ := h
    have hn : 3 ≤ n := by grind
    exact ⟨n - 1, by simp [Move.own]; omega, htold, .inr (.inr (.inl ⟨rfl, by omega⟩))⟩
  | update =>
    obtain ⟨hposition, rfl⟩ := h
    have hn : 2 ≤ n := by grind
    exact ⟨n - 1, by simp [Move.own]; omega, htold, .inr (.inl ⟨rfl, by omega⟩)⟩
  | notifyAll =>
    obtain ⟨-, rfl⟩ := h
    -- it is awake already, so the notification changes nothing
    have hsame : w.position.notified = w.position := by
      rcases hnear with hp | ⟨hp, -⟩ | ⟨hp, -⟩ | ⟨hp, -⟩ <;> rw [hp] <;> rfl
    refine ⟨n, by simp [Move.own], htold, ?_⟩
    rw [hsame]
    exact hnear

theorem leaving_answer {n : Nat} {c : TuiCall} {x : c.Answer} (h : w.Answers c x w')
    (hw : Leaving n w) : Leaving n w' := by
  refine ⟨answer_told h hw.told, ?_⟩
  obtain ⟨-, ⟨task, result, ⟨-, hrunning⟩, rfl⟩ | ⟨hposition, -, -, hrunning, -⟩⟩ := answer_cases h
  · -- a task is accepted, and never taken
    rcases hw.near with hp | ⟨hp, hn⟩ | ⟨hp, hn⟩ | ⟨-, p, calls, hp, -⟩
    · exact .inl (by simp [hp, Position.notified])
    · exact .inr (.inl ⟨by simp [hp, Position.notified], hn⟩)
    · exact .inr (.inr (.inl ⟨by simp [hp, Position.notified], hn⟩))
    · rw [hrunning] at hp
      cases hp
  · rw [hposition, hrunning]
    exact hw.near

theorem leaving_enabled {n : Nat} (hw : Leaving n w) :
    w.position = .finished ∨ ∃ m v, m.own = true ∧ w.Moves m v := by
  rcases hw.near with hp | ⟨hp, -⟩ | ⟨hp, -⟩ | ⟨hp, p, calls, hrunning, hcalls, -⟩
  · exact .inl hp
  · exact .inr ⟨.leave, _, rfl, hp, hw.told.stops, rfl⟩
  · exact .inr ⟨.update, _, rfl, hp, rfl⟩
  · right
    cases p with
    | ret text => exact ⟨.finish text, _, rfl, hp, hrunning, rfl⟩
    | call c k =>
      -- a call is answered somehow; the services of the tasks do not block
      obtain ⟨x⟩ : Nonempty c.Answer := by cases c <;> exact ⟨.error ⟨.unavailable, [], 0, [], []⟩⟩
      exact ⟨.exchange ⟨c, x⟩, _, rfl, hp, k, hrunning, rfl⟩
    | block => exact hcalls.elim

/-- The notification finds the thread awake, or wakes it up. -/
theorem leaving_notified (hw : Consistent w) (htold : Told w) :
    Leaving 4 { w with position := w.position.notified } := by
  -- at most: one call, its result, `updated_()`, and the condition
  refine ⟨htold, ?_⟩
  cases hposition : w.position with
  | testing => exact .inr (.inl ⟨rfl, by omega⟩)
  | waiting => exact .inr (.inl ⟨rfl, by omega⟩)
  | updating => exact .inr (.inr (.inl ⟨rfl, by omega⟩))
  | finished => exact .inl rfl
  | running =>
    obtain ⟨p, hp⟩ := Option.isSome_iff_exists.mp (hw.busy.mpr hposition)
    exact .inr (.inr (.inr ⟨rfl, p, 1, hp, hw.short p hp, by omega⟩))

/-- **The destructor gets the thread out of its loop.** Wherever the thread is when the
    destructor sets `stopping_`, no task is taken from then on, and after the notification the
    thread leaves within four steps of its own, of which it can always make the next one. -/
theorem destructor_completes {before middle after : threads.Log} {v v₁ v₂ : ThreadState}
    (h : threads.Path (started garbage) before w) (hrequest : w.Moves .requestStop v)
    (hmiddle : threads.Path v middle v₁) (hnotify : v₁.Moves .notifyAll v₂)
    (hafter : threads.Path v₂ after w') :
    (∀ task, .take task ∉ moves (middle ++ after)) ∧ ownSteps after ≤ 4 ∧
      (w'.position = .finished ∨ ∃ m u, m.own = true ∧ w'.Moves m u) := by
  obtain ⟨-, hconsistent⟩ := path_project h (consistent_started garbage)
  obtain ⟨-, hconsistent₁⟩ := path_project hmiddle (move_project hrequest hconsistent).2
  -- the request and the notification are two moves, and anything may happen between them
  obtain ⟨hmemory, rfl⟩ := hrequest
  obtain ⟨htold₁, hmiddle_taken⟩ := path_told hmiddle ⟨hmemory, rfl⟩
  obtain ⟨-, rfl⟩ := hnotify
  -- from the notification on, four steps are enough
  have hleaving := leaving_notified hconsistent₁ htold₁
  obtain ⟨-, hafter_taken⟩ := path_told hafter hleaving.told
  obtain ⟨n, hn, hw'⟩ := hafter.budget (fun m : Move => m.own.toNat) Leaving
    (R := fun _ => True) (Q := fun _ => True)
    (fun n w m w' _ hmove hw => leaving_move hmove hw)
    (fun n w c x w' _ hanswer hw => leaving_answer hanswer hw)
    (fun _ _ => trivial) (fun _ _ => trivial) hleaving
  refine ⟨fun task htaken => ?_, Nat.le_trans (Nat.le_add_right _ n) hn, leaving_enabled hw'⟩
  rw [moves_append] at htaken
  rcases List.mem_append.mp htaken with hfirst | hsecond
  · exact hmiddle_taken task hfirst
  · exact hafter_taken task hsecond

theorem woken_destructor : ∃ m u, m.own = true ∧
    ({ woken with shared := { woken.shared with stopping := true } } : ThreadState).Moves m u := by
  obtain ⟨-, -, hfinished | henabled⟩ := destructor_completes woken_reached ⟨rfl, rfl⟩
    (show threads.Path _ [] _ from rfl) ⟨rfl, rfl⟩ (show threads.Path _ [] _ from rfl)
  · cases hfinished
  · exact henabled

end

end Lx.Tui.WorkerThread
