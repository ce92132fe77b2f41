import Lx.Domain.Basic
import Lx.Lib.Simulation

/-!
# DashboardWorker

The thread that refreshes the dashboard (`src/application/DashboardWorker.cpp`), step by
step: what it does under the mutex is one step, so is a call of the thread library, and the
thread that owns the worker calls `start`, `stop` and `snapshot` as it likes, in any order.

## Layers

- `threads`: the owner's steps and the positions of the worker thread, with the condition
  variable that may wake it up for no reason (§1).
- `refresher`: what the worker is for, an object with three atomic operations (§2).
- The first does nothing the second could not do, whoever uses it (§3), and `stop` does not
  sleep through its own notification (§4).
-/

namespace Lx.DashboardWorker

open Interaction World

/-! ## §1 The threads -/

/-- The member functions. -/
inductive Operation where
  | start
  | stop
  | snapshot
  deriving DecidableEq, Repr

def Operation.Answer : Operation → Type
  | .start => Unit
  | .stop => Unit
  | .snapshot => Option DashboardSnapshot

abbrev Operations : Signature := ⟨Operation, Operation.Answer⟩

/-- The steps they consist of. -/
inductive Step where
  /-- The body of `start`, all of it under the mutex. -/
  | start
  /-- `stopping_ = true`, under the mutex -/
  | requestStop
  /-- `wake_.notify_all()` -/
  | notifyAll
  /-- `if (thread_.joinable()) thread_.join();` -/
  | join
  /-- The body of `snapshot`, under the mutex. -/
  | snapshot
  deriving DecidableEq, Repr

def Step.Answer : Step → Type
  | .snapshot => Option DashboardSnapshot
  | _ => Unit

abbrev Steps : Signature := ⟨Step, Step.Answer⟩

def step (s : Step) : Prog Steps s.Answer := perform (S := Steps) s

def stop : Prog Steps Unit := do
  let () ← step .requestStop
  let () ← step .notifyAll
  step .join

def implementation : (operation : Operation) → Prog Steps operation.Answer
  | .start => step .start
  | .stop => stop
  | .snapshot => step .snapshot

/-- Where the worker thread is in `work`. -/
inductive Position where
  /-- In `service_.refresh()`. -/
  | refreshing
  /-- Before the snapshot is stored. -/
  | publishing (next : DashboardSnapshot)
  /-- Before `refreshed()`. -/
  | announcing
  /-- Before `wait_for` has the mutex. -/
  | checking
  /-- Asleep in `wait_for`. -/
  | waiting
  /-- Woken up, before it has the mutex again. -/
  | woken
  /-- Woken up because the time was over, before it has the mutex again. -/
  | timedOut
  /-- Has left `work`, and can be joined. -/
  | finished
  deriving DecidableEq, Repr

structure ThreadState where
  /-- `thread_`; nothing unless it is joinable. -/
  thread : Option Position := none
  /-- `stopping_` -/
  stopping : Bool := false
  /-- `snapshot_` -/
  snapshot : Option DashboardSnapshot := none
  deriving DecidableEq, Repr

/-- What the worker thread does. -/
inductive Move where
  | refresh (next : DashboardSnapshot)
  /-- `refresh()` threw. -/
  | refreshThrew
  | publish (next : DashboardSnapshot)
  | announce
  /-- `refreshed()` threw. -/
  | announceThrew
  /-- `wait_for` has the mutex and tests the condition. -/
  | enterWait
  /-- A wake-up without a notification. -/
  | wake
  /-- The 1500 milliseconds are over. -/
  | timeOut
  /-- `wait_for` has the mutex again, and tests the condition. -/
  | resume
  deriving DecidableEq, Repr

/-- The positions a move leads from and to. -/
def Move.target (stopping : Bool) : Move → Position → Option Position
  | .refresh next, .refreshing => some (.publishing next)
  | .refreshThrew, .refreshing => some .finished
  | .publish next, .publishing next' => if next = next' then some .announcing else none
  | .announce, .announcing => some .checking
  | .announceThrew, .announcing => some .finished
  | .enterWait, .checking => some (if stopping then .finished else .waiting)
  | .wake, .waiting => some .woken
  | .timeOut, .waiting => some .timedOut
  -- the condition is tested in a loop, but after the time is over only once more
  | .resume, .woken => some (if stopping then .finished else .waiting)
  | .resume, .timedOut => some (if stopping then .finished else .refreshing)
  | _, _ => none

def ThreadState.Moves (w : ThreadState) (m : Move) (w' : ThreadState) : Prop :=
  ∃ position target, w.thread = some position ∧ m.target w.stopping position = some target ∧
    w' = { w with
      thread := some target
      snapshot := match m with
        | .publish next => some next
        | _ => w.snapshot }

def ThreadState.Answers (w : ThreadState) (s : Step) (x : s.Answer) (w' : ThreadState) : Prop :=
  match s, x with
  | .start, _ =>
    w' = if w.thread.isSome then w else { w with stopping := false, thread := some .refreshing }
  | .requestStop, _ => w' = { w with stopping := true }
  | .notifyAll, _ =>
    w' = if w.thread = some .waiting then { w with thread := some .woken } else w
  -- `join` returns when the thread has left `work`
  | .join, _ => (w.thread = none ∨ w.thread = some .finished) ∧ w' = { w with thread := none }
  | .snapshot, snapshot => snapshot = w.snapshot ∧ w' = w

/-- The owner's steps among those of the worker thread. -/
abbrev threads : World Steps where
  State := ThreadState
  Move := Move
  move w m w' := w.Moves m w'
  answer w s x w' := w.Answers s x w'

/-- What is seen of the worker thread. -/
inductive Observation where
  | published (next : DashboardSnapshot)
  /-- An exception ended the thread. -/
  | failed
  deriving DecidableEq, Repr

def observe : Move ⊕ Event Steps → List Observation
  | .inl (.publish next) => [.published next]
  | .inl .refreshThrew => [.failed]
  | .inl .announceThrew => [.failed]
  | _ => []

/-! ## §2 What the worker is for -/

inductive Phase where
  | stopped
  | active
  /-- A refresh threw; only `stop` gets the worker out of this. -/
  | failed
  deriving DecidableEq, Repr

structure RefresherState where
  phase : Phase := .stopped
  latest : Option DashboardSnapshot := none
  deriving DecidableEq, Repr

inductive RefresherMove where
  | publish (next : DashboardSnapshot)
  | fail
  deriving DecidableEq, Repr

def RefresherState.Moves (a : RefresherState) (m : RefresherMove) (a' : RefresherState) : Prop :=
  match m with
  | .publish next => a.phase = .active ∧ a' = { a with latest := some next }
  | .fail => a.phase = .active ∧ a' = { a with phase := .failed }

def RefresherState.Answers (a : RefresherState) (operation : Operation) (x : operation.Answer)
    (a' : RefresherState) : Prop :=
  match operation, x with
  | .start, _ => a' = if a.phase = .stopped then { a with phase := .active } else a
  | .stop, _ => a' = { a with phase := .stopped }
  | .snapshot, snapshot => snapshot = a.latest ∧ a' = a

/-- The worker as an object: snapshots are published while it is active, and the latest one
    is returned. -/
abbrev refresher : World Operations where
  State := RefresherState
  Move := RefresherMove
  move a m a' := a.Moves m a'
  answer a operation x a' := a.Answers operation x a'

def specify : RefresherMove ⊕ Event Operations → List Observation
  | .inl (.publish next) => [.published next]
  | .inl .fail => [.failed]
  | _ => []

/-! ## §3 The threads refine the object -/

section

variable {w w' : ThreadState} {a : RefresherState} {m : Move}

/-- What a move of the worker thread can do. -/
theorem moves_cases (h : w.Moves m w') :
    ∃ position, w.thread = some position ∧ position ≠ .finished ∧
      ((∃ next, m = .publish next ∧
          w' = { w with thread := some .announcing, snapshot := some next }) ∨
        ((m = .refreshThrew ∨ m = .announceThrew) ∧ w' = { w with thread := some .finished }) ∨
        (observe (.inl m) = [] ∧ w.stopping = true ∧ w' = { w with thread := some .finished }) ∨
        (observe (.inl m) = [] ∧
          ∃ target, target ≠ .finished ∧ w' = { w with thread := some target })) := by
  obtain ⟨position, target, hthread, htarget, rfl⟩ := h
  refine ⟨position, hthread, ?_, ?_⟩
  · rintro rfl
    cases m <;> cases htarget
  · cases m with
    | publish next =>
      left
      cases position <;> simp_all [Move.target]
    | refreshThrew | announceThrew =>
      right; left
      cases position <;> simp_all [Move.target]
    | refresh | announce | wake | timeOut =>
      refine .inr (.inr (.inr ⟨rfl, target, ?_, rfl⟩))
      rintro rfl
      cases position <;> simp [Move.target] at htarget
    -- the two places where the condition is tested
    | enterWait | resume =>
      refine .inr (.inr ?_)
      by_cases hfinished : target = .finished
      · refine .inl ⟨rfl, ?_, by rw [hfinished]⟩
        by_contra hstopping
        rw [Bool.not_eq_true] at hstopping
        rw [hstopping, hfinished] at htarget
        cases position <;> simp [Move.target] at htarget
      · exact .inr ⟨rfl, target, hfinished, rfl⟩

/-- The phase, while nobody stops the worker. -/
def phase : Option Position → Phase
  | none => .stopped
  | some .finished => .failed
  | some _ => .active

theorem phase_active {position : Position} (h : position ≠ .finished) :
    phase (some position) = .active := by
  cases position <;> first | rfl | exact absurd rfl h

/-- The states between two operations. -/
def Refines (w : ThreadState) (a : RefresherState) : Prop :=
  a.latest = w.snapshot ∧ a.phase = phase w.thread ∧ (w.thread.isSome → w.stopping = false)

/-- The states within `stop`: the thread may have left `work` because it was told to. -/
def Stopping (w : ThreadState) (a : RefresherState) : Prop :=
  a.latest = w.snapshot ∧ w.stopping = true ∧
    (a.phase = phase w.thread ∨ w.thread = some .finished ∧ a.phase = .active)

theorem refines_moves : MovesMatched threads refresher Refines observe specify := by
  rintro w m w' ⟨phase', latest⟩ hmove ⟨hlatest, hphase, hstopping⟩
  obtain ⟨position, hthread, hrunning, hcases⟩ := moves_cases hmove
  simp only [hthread, phase_active hrunning] at hlatest hphase hstopping
  obtain rfl := hlatest
  obtain rfl := hphase
  rcases hcases with ⟨next, rfl, rfl⟩ | ⟨hm, rfl⟩ | ⟨-, hstop, -⟩ | ⟨hsilent, target, htarget, rfl⟩
  · exact ⟨[.inl (.publish next)], _, idle_move ⟨rfl, rfl⟩, rfl, rfl, rfl, fun _ => hstopping rfl⟩
  · refine ⟨[.inl .fail], _, idle_move ⟨rfl, rfl⟩, ?_, rfl, rfl, fun _ => hstopping rfl⟩
    rcases hm with rfl | rfl <;> rfl
  · rw [hstopping rfl] at hstop
    cases hstop
  · exact ⟨[], _, idle_nil, hsilent.symm, rfl, (phase_active htarget).symm, fun _ => hstopping rfl⟩

theorem stopping_moves : MovesMatched threads refresher Stopping observe specify := by
  rintro w m w' ⟨phase', latest⟩ hmove ⟨hlatest, hstopping, hphase⟩
  obtain ⟨position, hthread, hrunning, hcases⟩ := moves_cases hmove
  simp only [hthread, phase_active hrunning] at hlatest hphase
  obtain rfl := hlatest
  obtain rfl : phase' = .active := by
    rcases hphase with hactive | ⟨hfinished, -⟩
    · exact hactive
    · exact absurd (Option.some.inj hfinished) hrunning
  rcases hcases with ⟨next, rfl, rfl⟩ | ⟨hm, rfl⟩ | ⟨hsilent, -, rfl⟩ |
    ⟨hsilent, target, htarget, rfl⟩
  · exact ⟨[.inl (.publish next)], _, idle_move ⟨rfl, rfl⟩, rfl, rfl, hstopping, .inl rfl⟩
  · refine ⟨[.inl .fail], _, idle_move ⟨rfl, rfl⟩, ?_, rfl, hstopping, .inl rfl⟩
    rcases hm with rfl | rfl <;> rfl
  · exact ⟨[], _, idle_nil, hsilent.symm, rfl, hstopping, .inr ⟨rfl, rfl⟩⟩
  · exact ⟨[], _, idle_nil, hsilent.symm, rfl, hstopping, .inl (phase_active htarget).symm⟩

/-- A run of `stop` is three steps with moves between them. -/
theorem stop_runs_iff {log : threads.Log} :
    threads.Runs stop w log () w' ↔ ∃ l₁ l₂ l₃ l₄ w₁ w₂ w₃ w₄ w₅ w₆,
      log = l₁ ++ .inr ⟨.requestStop, ()⟩ :: (l₂ ++ .inr ⟨.notifyAll, ()⟩ ::
        (l₃ ++ .inr ⟨.join, ()⟩ :: l₄)) ∧
      threads.Idle w l₁ w₁ ∧ w₁.Answers .requestStop () w₂ ∧
      threads.Idle w₂ l₂ w₃ ∧ w₃.Answers .notifyAll () w₄ ∧
      threads.Idle w₄ l₃ w₅ ∧ w₅.Answers .join () w₆ ∧ threads.Idle w₆ l₄ w' := by
  constructor
  · intro hruns
    obtain ⟨⟨⟩, k₁, k₂, v₁, rfl, hrequest, hrest⟩ := runs_bind_iff.mp hruns
    obtain ⟨⟨⟩, k₃, k₄, v₂, rfl, hnotify, hjoin⟩ := runs_bind_iff.mp hrest
    obtain ⟨a₁, a₂, w₁, w₂, rfl, h₁, hanswer₁, h₂⟩ := runs_perform_iff.mp hrequest
    obtain ⟨b₁, b₂, w₃, w₄, rfl, h₃, hanswer₂, h₄⟩ := runs_perform_iff.mp hnotify
    obtain ⟨c₁, c₂, w₅, w₆, rfl, h₅, hanswer₃, h₆⟩ := runs_perform_iff.mp hjoin
    refine ⟨a₁, a₂ ++ b₁, b₂ ++ c₁, c₂, w₁, w₂, w₃, w₄, w₅, w₆, ?_, h₁, hanswer₁,
      h₂.append h₃, hanswer₂, h₄.append h₅, hanswer₃, h₆⟩
    simp
  · rintro ⟨l₁, l₂, l₃, l₄, w₁, w₂, w₃, w₄, w₅, w₆, rfl, h₁, hanswer₁, h₂, hanswer₂, h₃,
      hanswer₃, h₄⟩
    refine runs_bind_iff.mpr ⟨(), l₁ ++ .inr ⟨.requestStop, ()⟩ :: l₂, _, w₃, ?_,
      runs_perform_iff.mpr ⟨l₁, l₂, w₁, w₂, rfl, h₁, hanswer₁, h₂⟩,
      runs_bind_iff.mpr ⟨(), .inr ⟨.notifyAll, ()⟩ :: l₃, .inr ⟨.join, ()⟩ :: l₄, w₅, rfl,
        runs_perform_iff.mpr ⟨[], l₃, w₃, w₄, rfl, idle_nil, hanswer₂, h₃⟩,
        runs_perform_iff.mpr ⟨[], l₄, w₅, w₆, rfl, idle_nil, hanswer₃, h₄⟩⟩⟩
    simp

/-- Waking the thread up changes nothing that can be seen. -/
theorem stopping_notifyAll (h : w.Answers .notifyAll () w') (hw : Stopping w a) :
    Stopping w' a := by
  have hw' : w' = if w.thread = some .waiting then { w with thread := some .woken } else w := h
  split at hw'
  case isTrue hwaiting =>
    obtain ⟨hlatest, hstopping, hphase⟩ := hw
    rw [hw']
    refine ⟨hlatest, hstopping, .inl ?_⟩
    rcases hphase with hphase | ⟨hfinished, -⟩
    · rw [hphase, hwaiting]
      rfl
    · rw [hwaiting] at hfinished
      cases hfinished
  case isFalse =>
    rw [hw']
    exact hw

/-- `stop` takes effect where the thread is joined. -/
theorem stop_simulated {log : threads.Log} (h : threads.Runs stop w log () w')
    (hw : Refines w a) : ∃ log' a', refresher.Runs (perform (S := Operations) .stop) a log' () a' ∧
      observed specify log' = observed observe log ∧ Refines w' a' := by
  obtain ⟨l₁, l₂, l₃, l₄, w₁, w₂, w₃, w₄, w₅, w₆, rfl, h₁, hrequest, h₂, hnotify, h₃, hjoin,
    h₄⟩ := stop_runs_iff.mp h
  obtain ⟨k₁, a₁, hidle₁, hobserved₁, hlatest, hphase, -⟩ := refines_moves.idle h₁ hw
  have hw₂ : w₂ = { w₁ with stopping := true } := hrequest
  have hstopping : Stopping w₂ a₁ := by
    rw [hw₂]
    exact ⟨hlatest, rfl, .inl hphase⟩
  obtain ⟨k₂, a₂, hidle₂, hobserved₂, hstopping₂⟩ := stopping_moves.idle h₂ hstopping
  obtain ⟨k₃, a₃, hidle₃, hobserved₃, hlatest₃, -⟩ :=
    stopping_moves.idle h₃ (stopping_notifyAll hnotify hstopping₂)
  obtain ⟨-, hw₆⟩ : _ ∧ w₆ = { w₅ with thread := none } := hjoin
  have hstopped : Refines w₆ { a₃ with phase := .stopped } := by
    rw [hw₆]
    exact ⟨hlatest₃, rfl, fun hsome => by cases hsome⟩
  obtain ⟨k₄, a₄, hidle₄, hobserved₄, ha₄⟩ := refines_moves.idle h₄ hstopped
  refine ⟨(k₁ ++ k₂ ++ k₃) ++ .inr ⟨.stop, ()⟩ :: k₄, a₄, runs_perform_iff.mpr
    ⟨k₁ ++ k₂ ++ k₃, k₄, a₃, _, rfl, (hidle₁.append hidle₂).append hidle₃, rfl, hidle₄⟩,
    ?_, ha₄⟩
  calc observed specify ((k₁ ++ k₂ ++ k₃) ++ .inr ⟨.stop, ()⟩ :: k₄)
      = observed specify k₁ ++ observed specify k₂ ++ observed specify k₃ ++
          observed specify k₄ := by
        rw [observed_silent rfl, observed_append, observed_append]
    _ = observed observe l₁ ++ (observed observe l₂ ++ (observed observe l₃ ++
          observed observe l₄)) := by
        rw [hobserved₁, hobserved₂, hobserved₃, hobserved₄, List.append_assoc, List.append_assoc]
    _ = _ := by rw [observed_silent rfl, observed_silent rfl, observed_silent rfl]

/-- The two operations that are one step each. -/
theorem step_simulated {s : Step} {operation : Operation} {x : s.Answer} {y : operation.Answer}
    {log : threads.Log} (hanswer : ∀ {w w' a}, w.Answers s x w' → Refines w a →
      ∃ a', a.Answers operation y a' ∧ Refines w' a')
    (h : threads.Runs (step s) w log x w') (hw : Refines w a) :
    ∃ log' a', refresher.Runs (perform (S := Operations) operation) a log' y a' ∧
      observed specify log' = observed observe log ∧ Refines w' a' := by
  obtain ⟨l₁, l₂, w₁, w₂, rfl, h₁, hstep, h₂⟩ := runs_perform_iff.mp h
  obtain ⟨k₁, a₁, hidle₁, hobserved₁, hw₁⟩ := refines_moves.idle h₁ hw
  obtain ⟨a₂, hstep', hw₂⟩ := hanswer hstep hw₁
  obtain ⟨k₂, a₃, hidle₂, hobserved₂, hw₃⟩ := refines_moves.idle h₂ hw₂
  refine ⟨k₁ ++ .inr ⟨operation, y⟩ :: k₂, a₃,
    runs_perform_iff.mpr ⟨k₁, k₂, a₁, a₂, rfl, hidle₁, hstep', hidle₂⟩, ?_, hw₃⟩
  rw [observed_silent rfl, observed_silent rfl, hobserved₁, hobserved₂]

theorem start_refines (h : w.Answers .start () w') (hw : Refines w a) :
    ∃ a', a.Answers .start () a' ∧ Refines w' a' := by
  obtain ⟨hlatest, hphase, hstopping⟩ := hw
  have hw' : w' = if w.thread.isSome then w
      else { w with stopping := false, thread := some .refreshing } := h
  refine ⟨_, rfl, ?_⟩
  cases hthread : w.thread with
  | none =>
    have hstopped : a.phase = .stopped := by rw [hphase, hthread]; rfl
    rw [hw', hthread, if_pos hstopped]
    exact ⟨hlatest, rfl, fun _ => rfl⟩
  | some position =>
    -- the thread is joinable, also after an exception has ended it
    have hstarted : a.phase ≠ .stopped := by
      rw [hphase, hthread]
      cases position <;> exact Phase.noConfusion
    rw [hw', if_pos (by rw [hthread]; rfl), if_neg hstarted]
    exact ⟨hlatest, hphase, hstopping⟩

theorem snapshot_refines {snapshot : Option DashboardSnapshot}
    (h : w.Answers .snapshot snapshot w') (hw : Refines w a) :
    ∃ a', a.Answers .snapshot snapshot a' ∧ Refines w' a' := by
  obtain ⟨rfl, rfl⟩ := h
  exact ⟨a, ⟨hw.1.symm, rfl⟩, hw⟩

theorem simulation : Simulation threads refresher implementation Refines observe specify where
  moves := refines_moves
  call {operation} := by
    intro w log x w' a hruns hw
    cases operation with
    | start => exact step_simulated (s := .start) start_refines hruns hw
    | stop => exact stop_simulated hruns hw
    | snapshot => exact step_simulated (s := .snapshot) snapshot_refines hruns hw

/-- **The worker is the object it is meant to be**: whatever its owner does with it, what the
    owner gets and what is published, in order, is what the object with atomic operations
    could have done. -/
theorem threads_refine_refresher {α : Type} {p : Prog Operations α} {x : α} {log : threads.Log}
    (h : threads.Runs (p.interpret implementation) {} log x w') :
    ∃ log' a', refresher.Runs p {} log' x a' ∧
      observed specify log' = observed observe log ∧ Refines w' a' :=
  simulation.runs h ⟨rfl, rfl, fun hsome => by cases hsome⟩

/-- An owner who waits for the first snapshot. -/
def firstSnapshot : Prog Operations (Option DashboardSnapshot) := do
  let () ← perform (S := Operations) .start
  let snapshot ← perform (S := Operations) .snapshot
  let () ← perform (S := Operations) .stop
  pure snapshot

/-- The thread falls asleep before it is told to stop. -/
def firstSnapshotLog : threads.Log :=
  [.inr ⟨.start, ()⟩, .inl (.refresh {}), .inl (.publish {}), .inl .announce, .inl .enterWait,
    .inr ⟨.snapshot, some {}⟩, .inr ⟨.requestStop, ()⟩, .inr ⟨.notifyAll, ()⟩, .inl .resume,
    .inr ⟨.join, ()⟩]

theorem firstSnapshot_runs :
    threads.Runs (firstSnapshot.interpret implementation) {} firstSnapshotLog (some {})
      { stopping := true, snapshot := some {} } := by
  refine ⟨⟨(), _, rfl, some {}, _, rfl, (), _, rfl, (), _, rfl, (), _, rfl, rfl, rfl⟩, ?_⟩
  exact ⟨_, rfl, _, ⟨_, _, rfl, rfl, rfl⟩, _, ⟨_, _, rfl, rfl, rfl⟩, _, ⟨_, _, rfl, rfl, rfl⟩, _,
    ⟨_, _, rfl, rfl, rfl⟩, _, ⟨rfl, rfl⟩, _, rfl, _, rfl, _, ⟨_, _, rfl, rfl, rfl⟩, _,
    ⟨.inr rfl, rfl⟩, rfl⟩

theorem firstSnapshot_refines : ∃ log' a', refresher.Runs firstSnapshot {} log' (some {}) a' ∧
    observed specify log' = [.published {}] ∧ a'.phase = .stopped := by
  obtain ⟨log', a', hruns, hobserved, -, hphase, -⟩ := threads_refine_refresher firstSnapshot_runs
  exact ⟨log', a', hruns, hobserved, hphase⟩

/-! ## §4 `stop` does not hang -/

/-- How many moves the thread makes at most after it was told to stop. -/
def movesLeft : Option Position → Nat
  | none => 0
  | some .refreshing => 4
  | some (.publishing _) => 3
  | some .announcing => 2
  | some .checking => 1
  | some .waiting => 2
  | some .woken => 1
  | some .timedOut => 1
  | some .finished => 0

/-- How many snapshots it still publishes. -/
def publicationsLeft : Option Position → Nat
  | some .refreshing => 1
  | some (.publishing _) => 1
  | _ => 0

/-- `join` returns. -/
def Joinable (w : ThreadState) : Prop := w.thread = none ∨ w.thread = some .finished

theorem moves_stopping (h : w.Moves m w') (hw : w.stopping = true) : w'.stopping = true := by
  obtain ⟨position, target, -, -, rfl⟩ := h
  exact hw

theorem movesLeft_lt (h : w.Moves m w') (hw : w.stopping = true) :
    1 + movesLeft w'.thread ≤ movesLeft w.thread := by
  obtain ⟨position, target, hthread, htarget, rfl⟩ := h
  rw [hthread]
  rw [hw] at htarget
  cases m <;> cases position <;> simp [Move.target] at htarget <;>
    first
    | (obtain rfl := htarget; simp [movesLeft])
    | (obtain ⟨-, rfl⟩ := htarget; simp [movesLeft])

def publications (m : Move) : Nat := (observe (.inl m)).countP (· matches .published _)

theorem publicationsLeft_le (h : w.Moves m w') (hw : w.stopping = true) :
    publications m + publicationsLeft w'.thread ≤ publicationsLeft w.thread := by
  obtain ⟨position, target, hthread, htarget, rfl⟩ := h
  rw [hthread]
  rw [hw] at htarget
  cases m <;> cases position <;> simp [Move.target] at htarget <;>
    first
    | (obtain rfl := htarget; simp [publicationsLeft, publications, observe])
    | (obtain ⟨-, rfl⟩ := htarget; simp [publicationsLeft, publications, observe])

/-- Told to stop, and not asleep. -/
def Leaving (w : ThreadState) : Prop := w.stopping = true ∧ w.thread ≠ some .waiting

/-- With the stop requested, the condition does not let the thread fall asleep. -/
theorem leaving_move (h : w.Moves m w') (hw : Leaving w) : Leaving w' := by
  refine ⟨moves_stopping h hw.1, ?_⟩
  obtain ⟨position, target, -, htarget, rfl⟩ := h
  rw [hw.1] at htarget
  rintro hwaiting
  obtain rfl : target = .waiting := Option.some.inj hwaiting
  cases m <;> cases position <;> simp [Move.target] at htarget

theorem leaving_enabled (hw : Leaving w) : Joinable w ∨ ∃ m w', w.Moves m w' := by
  cases hthread : w.thread with
  | none => exact .inl (.inl hthread)
  | some position =>
    have hmove : ∀ (m : Move) target, m.target w.stopping position = some target →
        Joinable w ∨ ∃ m w', w.Moves m w' := fun m target htarget =>
      .inr ⟨m, _, position, target, hthread, htarget, rfl⟩
    cases position with
    | refreshing => exact hmove (.refresh {}) _ rfl
    | publishing next => exact hmove (.publish next) .announcing (if_pos rfl)
    | announcing => exact hmove .announce .checking rfl
    | checking => exact hmove .enterWait _ rfl
    | waiting => exact absurd hthread hw.2
    | woken => exact hmove .resume _ rfl
    | timedOut => exact hmove .resume _ rfl
    | finished => exact .inl (.inr hthread)

/-- The notification reaches the thread wherever it is. -/
theorem leaving_notifyAll (h : w.Answers .notifyAll () w') (hw : w.stopping = true) :
    Leaving w' ∧ movesLeft w'.thread ≤ movesLeft w.thread ∧
      publicationsLeft w'.thread = publicationsLeft w.thread := by
  have hw' : w' = if w.thread = some .waiting then { w with thread := some .woken } else w := h
  split at hw'
  case isTrue hwaiting =>
    rw [hw', hwaiting]
    refine ⟨⟨hw, ?_⟩, ?_, rfl⟩
    · exact fun heq => by cases heq
    · simp [movesLeft]
  case isFalse hwaiting =>
    rw [hw']
    exact ⟨⟨hw, hwaiting⟩, Nat.le_refl _, rfl⟩

theorem movesLeft_le (thread : Option Position) : movesLeft thread ≤ 4 := by
  rcases thread with _ | position
  · simp [movesLeft]
  · cases position <;> simp [movesLeft]

theorem publicationsLeft_le_one (thread : Option Position) : publicationsLeft thread ≤ 1 := by
  rcases thread with _ | position
  · simp [publicationsLeft]
  · cases position <;> simp [publicationsLeft]

/-- Without a thread nothing moves. -/
theorem idle_of_none {log : threads.Log} (h : threads.Idle w log w') (hw : w.thread = none) :
    log = [] := by
  rcases h.cases with ⟨rfl, -⟩ | ⟨m, rest, v, -, ⟨position, target, hthread, -⟩, -⟩
  · rfl
  · rw [hw] at hthread
    cases hthread

/-- **`stop` does not hang and leaves nothing behind.** From any state, once the stop is
    requested and notified, `join` becomes possible within four moves, however the threads
    are scheduled; no wait has to run out for that. After the request at most one more
    snapshot is published, and after `stop` nothing happens any more. -/
theorem stop_completes (w : ThreadState) :
    (∀ log v, threads.Runs (do let () ← step .requestStop; step .notifyAll) w log () v →
      Leaving v ∧ Inevitable threads Joinable 4 v) ∧
    ∀ log w', threads.Runs stop w log () w' →
      (∃ before after : threads.Log, log = before ++ .inr ⟨.requestStop, ()⟩ :: after ∧
        (moves after).length ≤ 4 ∧ ((moves after).map publications).sum ≤ 1) ∧
      w'.thread = none ∧ ∀ log' w'', threads.Idle w' log' w'' → log' = [] := by
  constructor
  · intro log v hruns
    obtain ⟨⟨⟩, k₁, k₂, v₁, rfl, hrequest, hnotify⟩ := runs_bind_iff.mp hruns
    obtain ⟨a₁, a₂, w₁, w₂, rfl, -, hanswer₁, h₂⟩ := runs_perform_iff.mp hrequest
    obtain ⟨b₁, b₂, w₃, w₄, rfl, h₃, hanswer₂, h₄⟩ := runs_perform_iff.mp hnotify
    have hw₂ : w₂ = { w₁ with stopping := true } := hanswer₁
    have hw₃ : w₃.stopping = true := by
      refine (h₂.append h₃).invariant (fun _ _ _ => moves_stopping) ?_
      rw [hw₂]
    have hw₄ := (leaving_notifyAll hanswer₂ hw₃).1
    have hv : Leaving v := h₄.invariant (fun _ _ _ => leaving_move) hw₄
    refine ⟨hv, Inevitable.of_rank (fun w : ThreadState => movesLeft w.thread)
      (fun _ _ _ => leaving_move) (fun u m u' hmove hu => ?_) (fun _ => leaving_enabled) hv
      (movesLeft_le _)⟩
    have := movesLeft_lt hmove hu.1
    omega
  · intro log w' hruns
    obtain ⟨l₁, l₂, l₃, l₄, w₁, w₂, w₃, w₄, w₅, w₆, rfl, -, hrequest, h₂, hnotify, h₃, hjoin,
      h₄⟩ := stop_runs_iff.mp hruns
    have hw₂ : w₂ = { w₁ with stopping := true } := hrequest
    have hstopping₂ : w₂.stopping = true := by rw [hw₂]
    have hstopping₃ : w₃.stopping = true :=
      h₂.invariant (fun _ _ _ => moves_stopping) hstopping₂
    obtain ⟨hleaving, hmoves, hpublications⟩ := leaving_notifyAll hnotify hstopping₃
    obtain ⟨-, hw₆⟩ : _ ∧ w₆ = { w₅ with thread := none } := hjoin
    have hnone : w₆.thread = none := by rw [hw₆]
    obtain rfl := idle_of_none h₄ hnone
    obtain rfl : w' = w₆ := h₄.2
    have hafter : moves (W := threads) (l₂ ++ .inr ⟨.notifyAll, ()⟩ ::
        (l₃ ++ [.inr ⟨.join, ()⟩])) = moves l₂ ++ moves l₃ := by
      rw [moves_append, moves_cons_inr, moves_append, moves_cons_inr]
      exact congrArg (moves l₂ ++ ·) (List.append_nil _)
    refine ⟨⟨l₁, _, rfl, ?_, ?_⟩, hnone, fun log' w'' hidle => idle_of_none hidle hnone⟩
    · have hcost₂ := h₂.cost_le (fun w : ThreadState => movesLeft w.thread) (fun _ => 1)
        (fun _ _ _ => moves_stopping) (fun _ _ _ => movesLeft_lt) hstopping₂
      have hcost₃ := h₃.cost_le (fun w : ThreadState => movesLeft w.thread) (fun _ => 1)
        (fun _ _ _ => moves_stopping) (fun _ _ _ => movesLeft_lt) hleaving.1
      have hbound := movesLeft_le w₂.thread
      simp only [List.map_const', List.sum_replicate_nat, Nat.mul_one] at hcost₂ hcost₃
      rw [hafter, List.length_append]
      omega
    · have hcost₂ := h₂.cost_le (fun w : ThreadState => publicationsLeft w.thread) publications
        (fun _ _ _ => moves_stopping) (fun _ _ _ => publicationsLeft_le) hstopping₂
      have hcost₃ := h₃.cost_le (fun w : ThreadState => publicationsLeft w.thread) publications
        (fun _ _ _ => moves_stopping) (fun _ _ _ => publicationsLeft_le) hleaving.1
      have hbound := publicationsLeft_le_one w₂.thread
      rw [hafter, List.map_append, List.sum_append]
      omega

theorem stop_completes_asleep :
    Inevitable threads Joinable 4 { thread := some .woken, stopping := true } ∧
      ∀ log w', threads.Runs stop { thread := some .waiting } log () w' → w'.thread = none := by
  refine ⟨((stop_completes { thread := some .waiting }).1
    [.inr ⟨.requestStop, ()⟩, .inr ⟨.notifyAll, ()⟩] _ ⟨?_, ?_⟩).2, fun log w' hruns =>
      ((stop_completes _).2 log w' hruns).2.1⟩
  · exact ⟨(), _, rfl, (), _, rfl, rfl, rfl⟩
  · exact ⟨_, rfl, _, rfl, rfl⟩

end

end Lx.DashboardWorker
