import Lx.Lib.Overflow
import Lx.Lib.Simulation
import Lx.Linux.KillTarget

/-!
# Waiting for a process to exit

`LinuxSignalProvider::waitForExit` waits on a pidfd where the kernel has them, and looks at
the PID again and again otherwise (`src/linux/process/LinuxSignalProvider.cpp`,
`PidFd.cpp`). Meanwhile processes terminate, their parents reap them, and others take their
PIDs. A positive answer is about the process that held the PID when the wait began. A
negative one says that the time is over; only with a pidfd does it say of one process that
it still runs.

## Layers

- The program, over the calls it makes (§1).
- A world in which processes terminate and calls take time (§2), and what it keeps (§3).
- What the two ways of waiting find out (§4, §5), and that they come to an end (§6).
-/

namespace Lx.LinuxSignalProvider

open Interaction World KillTarget

/-! ## §1 The program -/

inductive WaitCall where
  | sys (call : SysCall)
  /-- `poll` of one descriptor for `POLLIN` -/
  | poll (fd : Nat) (timeout : Int)
  /-- `waitid(P_PID, pid, …, WEXITED | WNOHANG | WNOWAIT)`: the PID it reports -/
  | waitid (pid : Int)
  /-- `kill(pid, 0)` -/
  | probe (pid : Int)
  | steadyNow
  | sleepFor (milliseconds : Int)
  deriving DecidableEq, Repr

def WaitCall.Answer : WaitCall → Type
  | .sys call => call.Answer
  | .poll _ _ => Except Errno Nat
  | .waitid _ => Except Errno Int
  | .probe _ => Except Errno Unit
  | .steadyNow => Int
  | .sleepFor _ => Unit

abbrev Waits : Signature := ⟨WaitCall, WaitCall.Answer⟩

def wait (call : WaitCall) : Prog Waits call.Answer := perform (S := Waits) call

/-- `std::chrono::steady_clock::now`, in nanoseconds -/
def steadyNow : Prog Waits Int := wait .steadyNow

def intMax : Int := 2 ^ 31 - 1

/-- The milliseconds `poll` is called with. -/
def pollTimeout (timeout : Int) : Int := if timeout > intMax then intMax else max timeout 0

section

-- `std::system_category().message`, and the rounds a loop may make
variable (systemMessage : Int → Bytes) (rounds : Nat)

/-- One call of `poll`; an interrupted one is repeated, with the whole timeout again. -/
def pollRound (fd : Nat) (bounded : Int) (_ : Unit) : Prog Waits (Except Errno Nat ⊕ Unit) := do
  match ← wait (.poll fd bounded) with
  | .ok status => return .inl (.ok status)
  | .error number =>
    if number = Errno.eintr then return .inr ()
    else return .inl (.error number)

/-- `PidFd::waitForExit` -/
def PidFd.waitForExit (fd : Nat) (timeout : Int) : Prog Waits (Result Bool) := do
  match ← loop (pollRound fd (pollTimeout timeout)) rounds () with
  | .ok status => return .ok (decide (status > 0))
  | .error number =>
    return .error (PidFd.makeError systemMessage number "wait for process exit")

def exitedWithKill (pid : Int) : Prog Waits (Result Bool) := do
  let child ← wait (.waitid pid)
  if child.toOption = some pid then return .ok true
  else
    match ← wait (.probe pid) with
    | .ok () => return .ok false
    | .error number =>
      if number = Errno.eperm then return .ok false
      else if number = Errno.esrch then return .ok true
      else return .error (makeError systemMessage number "check process lifecycle")

/-- One round of the loop: a check, and a pause if there is time left. -/
def checkRound (pid deadline : Int) (_ : Unit) : Prog Waits (Result Bool ⊕ Unit) := do
  match ← exitedWithKill systemMessage pid with
  | .error error => return .inl (.error error)
  | .ok true => return .inl (.ok true)
  | .ok false => do
    let now ← steadyNow
    if now ≥ deadline then return .inl (.ok false)
    else do
      wait (.sleepFor (min 10 ((deadline - now).tdiv 1000000)))
      return .inr ()

/-- The part of `waitForExit` without a pidfd. -/
def waitWithKill (pid timeout : Int) : Prog Waits (Result Bool) := do
  let start ← steadyNow
  let deadline := Overflow.wrap (start + Overflow.wrap (max timeout 0 * 1000000))
  loop (checkRound systemMessage pid deadline) rounds ()

/-- The handle is closed when the function is left. -/
def waitForExit (policy : PidFdPolicy) (pid timeout : Int) : Prog Waits (Result Bool) :=
  match policy with
  | .disabled => waitWithKill systemMessage rounds pid timeout
  | .auto => do
    match ← (PidFd.openPid systemMessage pid).interpret fun call => wait (.sys call) with
    | .ok fd => do
      let exited ← PidFd.waitForExit systemMessage rounds fd timeout
      wait (.sys (.close fd))
      return exited
    | .error error =>
      if error.code = .notFound then return .ok true
      else if error.code = .unsupported then waitWithKill systemMessage rounds pid timeout
      else return .error error

end

/-! ## §2 The world -/

structure WaitState where
  table : Reuse.Table Int Nat
  /-- The processes that have run to their end, whether they have been reaped or not. -/
  terminated : Incarnation → Prop
  /-- What open pidfds refer to. -/
  handles : Nat → Option Incarnation
  /-- The steady clock, in nanoseconds. -/
  clock : Int
  /-- The interruptions still to come. -/
  interruptions : Nat

inductive WaitMove where
  | terminate (process : Incarnation)
  /-- A terminated process is reaped, or a new one takes a free PID. -/
  | change (change : Reuse.Change Int Nat)
  | tick (nanoseconds : Nat)
  deriving DecidableEq, Repr

namespace WaitState

/-- The process that holds its PID now. -/
def Holds (w : WaitState) (process : Incarnation) : Prop :=
  w.table.holder process.pid = some process.startTime

/-- The process is over, or it holds its PID. -/
def Accounts (w : WaitState) (process : Incarnation) : Prop :=
  w.terminated process ∨ w.Holds process

def Moves (w : WaitState) (m : WaitMove) (w' : WaitState) : Prop :=
  match m with
  | .terminate process => w.Holds process ∧
      w' = { w with terminated := fun other => other = process ∨ w.terminated other }
  | .change change => Reuse.Step w.table change w'.table ∧
      (∀ process, change = .release process.pid → w.Holds process → w.terminated process) ∧
      w' = { w with table := w'.table }
  | .tick nanoseconds => w' = { w with clock := w.clock + nanoseconds }

/-- Time passes. -/
def Elapse : WaitState → WaitState → Prop := Relation.ReflTransGen fun w w' => ∃ m, w.Moves m w'

/-- What a call that begins in `w` and returns in `v` answers, and the state after it. A
    pidfd becomes readable when its process terminates. `kill(2)` and `waitid(2)` of a PID
    that is not positive are about groups, about which nothing is said. The clock has run
    for less than a century, and looking at a process takes time. -/
def Replies (w v : WaitState) (c : WaitCall) (x : c.Answer) (w' : WaitState) : Prop :=
  match c, x with
  | .sys (.pidfdOpen pid), .ok fd => v.handles fd = none ∧ ∃ process, v.Holds process ∧
      process.pid = pid ∧ w' = { v with handles := Function.update v.handles fd (some process) }
  | .sys (.pidfdOpen pid), .error number => w' = v ∧
      (number = Errno.esrch ∨ number = Errno.enoent → v.table.holder pid = none)
  | .sys (.close fd), () => w' = { v with handles := Function.update v.handles fd none }
  | .poll fd timeout, .ok status => w' = v ∧ ∀ process, v.handles fd = some process →
      (status > 0 → v.terminated process) ∧
      (status = 0 → ¬ v.terminated process ∧ w.clock + timeout * 1000000 ≤ v.clock)
  | .poll _ _, .error number =>
      if number = Errno.eintr then v.interruptions = w'.interruptions + 1 ∧
        w' = { v with interruptions := w'.interruptions }
      else w' = v ∧ number ≠ Errno.esrch ∧ number ≠ Errno.enoent
  | .waitid pid, .ok found => w' = v ∧ (0 < pid → found = pid → ∃ process, v.Holds process ∧
      process.pid = pid ∧ v.terminated process)
  | .probe pid, .ok () => w' = v ∧ w.clock < v.clock ∧ (0 < pid → v.table.holder pid ≠ none)
  | .probe pid, .error number => w' = v ∧ w.clock < v.clock ∧
      (0 < pid → (number = Errno.eperm → v.table.holder pid ≠ none) ∧
        (number = Errno.esrch → v.table.holder pid = none))
  | .steadyNow, now => w' = v ∧ now = v.clock ∧ 0 ≤ v.clock ∧ v.clock < 2 ^ 62
  | .sleepFor milliseconds, () => w' = v ∧ w.clock + milliseconds * 1000000 ≤ v.clock
  | _, _ => w' = v

end WaitState

abbrev waiting : World Waits where
  State := WaitState
  Move := WaitMove
  move := WaitState.Moves
  answer w c x w' := ∃ v, w.Elapse v ∧ w.Replies v c x w'

/-! ## §3 What the world keeps -/

section Keeps

variable {w v w' : WaitState} {process other : Incarnation}

theorem WaitState.Holds.unique (h : w.Holds process) (hother : w.Holds other)
    (hpid : process.pid = other.pid) : process = other := by
  obtain ⟨pid, startTime⟩ := process
  obtain ⟨pid', startTime'⟩ := other
  obtain rfl : pid = pid' := hpid
  have hstart : startTime = startTime' := Option.some.inj (h.symm.trans hother)
  rw [hstart]

/-- Where nobody holds the PID, the processes that held it are over. -/
theorem WaitState.Accounts.gone (h : w.Accounts process)
    (hnone : w.table.holder process.pid = none) : w.terminated process := by
  rcases h with hover | hholds
  · exact hover
  · rw [WaitState.Holds, hnone] at hholds
    cases hholds

/-- Where the holder of the PID is over, all that held it are. -/
theorem WaitState.Accounts.ended (h : w.Accounts process) (hholds : w.Holds other)
    (hpid : other.pid = process.pid) (hover : w.terminated other) : w.terminated process := by
  rcases h with hterminated | hholds'
  · exact hterminated
  · rwa [hholds'.unique hholds hpid.symm]

/-- What every later state has in common with an earlier one. -/
structure WaitState.Later (w w' : WaitState) : Prop where
  clock : w.clock ≤ w'.clock
  terminated : ∀ process, w.terminated process → w'.terminated process
  accounts : ∀ process, w.Accounts process → w'.Accounts process
  interruptions : w'.interruptions ≤ w.interruptions

theorem later_refl : w.Later w := ⟨Int.le_refl _, fun _ h => h, fun _ h => h, Nat.le_refl _⟩

theorem later_handles (handles : Nat → Option Incarnation) : w.Later { w with handles := handles } :=
  ⟨Int.le_refl _, fun _ h => h, fun _ h => h, Nat.le_refl _⟩

theorem WaitState.Later.trans (h : w.Later v) (h' : v.Later w') : w.Later w' where
  clock := Int.le_trans h.clock h'.clock
  terminated process hw := h'.terminated process (h.terminated process hw)
  accounts process hw := h'.accounts process (h.accounts process hw)
  interruptions := Nat.le_trans h'.interruptions h.interruptions

/-- A process leaves its PID only when it is over. -/
theorem accounts_change {change : Reuse.Change Int Nat} (hstep : Reuse.Step w.table change w'.table)
    (hreaped : ∀ process, change = .release process.pid → w.Holds process → w.terminated process)
    (hkept : w'.terminated = w.terminated) (h : w.Accounts process) : w'.Accounts process := by
  rcases h with hover | hholds
  · left
    rwa [hkept]
  · cases change with
    | release pid =>
      by_cases hpid : process.pid = pid
      · left
        rw [hkept]
        exact hreaped process (by rw [hpid]) hholds
      · right
        rw [WaitState.Holds, hstep.2.2.1 _ hpid]
        exact hholds
    | acquire pid startTime =>
      -- the PID was free, so it is not this one
      have hpid : process.pid ≠ pid := by
        intro heq
        rw [WaitState.Holds, heq, hstep.1] at hholds
        cases hholds
      right
      rw [WaitState.Holds, hstep.2.2.2.1 _ hpid]
      exact hholds

theorem moves_later {m : WaitMove} (h : w.Moves m w') : w.Later w' ∧ w'.handles = w.handles := by
  cases m with
  | terminate process =>
    obtain ⟨-, rfl⟩ := h
    refine ⟨⟨Int.le_refl _, fun _ hover => .inr hover, ?_, Nat.le_refl _⟩, rfl⟩
    rintro other (hover | hholds)
    · exact .inl (.inr hover)
    · exact .inr hholds
  | change change =>
    obtain ⟨hstep, hreaped, hw'⟩ := h
    have hterminated : w'.terminated = w.terminated := by rw [hw']
    refine ⟨⟨?_, ?_, fun _ => accounts_change hstep hreaped hterminated, ?_⟩, ?_⟩
    · rw [hw']
    · rw [hterminated]
      exact fun _ hover => hover
    · rw [hw']
    · rw [hw']
  | tick nanoseconds =>
    obtain rfl := h
    refine ⟨⟨?_, fun _ hover => hover, fun _ haccounts => haccounts, Nat.le_refl _⟩, rfl⟩
    show w.clock ≤ w.clock + nanoseconds
    omega

theorem elapse_later (h : w.Elapse w') : w.Later w' ∧ w'.handles = w.handles := by
  induction h with
  | refl => exact ⟨later_refl, rfl⟩
  | tail _ hmove ih =>
    obtain ⟨m, hmove⟩ := hmove
    obtain ⟨hlater, hhandles⟩ := moves_later hmove
    exact ⟨ih.1.trans hlater, hhandles.trans ih.2⟩

theorem replies_later {c : WaitCall} {x : c.Answer} (h : w.Replies v c x w') : v.Later w' := by
  unfold WaitState.Replies at h
  split at h
  case h_1 =>
    obtain ⟨-, process, -, -, rfl⟩ := h
    exact later_handles _
  case h_3 =>
    obtain rfl := h
    exact later_handles _
  case h_5 =>
    split at h
    · obtain ⟨hcount, hw'⟩ := h
      rw [hw']
      exact ⟨Int.le_refl _, fun _ hover => hover, fun _ haccounts => haccounts, by
        show w'.interruptions ≤ v.interruptions
        omega⟩
    · rw [h.1]
      exact later_refl
  case h_11 =>
    rw [h]
    exact later_refl
  all_goals
    rw [h.1]
    exact later_refl

/-- The calls that neither open nor close a handle. -/
def WaitCall.isQuiet : WaitCall → Prop
  | .sys _ => False
  | _ => True

theorem replies_handles {c : WaitCall} {x : c.Answer} (hc : c.isQuiet) (h : w.Replies v c x w') :
    w'.handles = v.handles := by
  unfold WaitState.Replies at h
  split at h
  case h_1 => exact hc.elim
  case h_2 => exact hc.elim
  case h_3 => exact hc.elim
  case h_5 =>
    split at h
    · rw [h.2]
    · rw [h.1]
  case h_11 => rw [h]
  all_goals rw [h.1]

theorem path_later {log : waiting.Log} (h : waiting.Path w log w') : w.Later w' :=
  h.invariant (P := fun v : waiting.State => w.Later v)
    (fun _ _ _ hmove hv => hv.trans (moves_later hmove).1)
    (fun _ _ _ _ hanswer hv =>
      (hv.trans (elapse_later hanswer.choose_spec.1).1).trans (replies_later hanswer.choose_spec.2))
    later_refl

/-- Programs without such calls leave the handles alone. -/
theorem runs_handles {α : Type} {p : Prog Waits α} {a : α} {log : waiting.Log}
    (hp : p.Within WaitCall.isQuiet) (h : waiting.Runs p w log a w') : w'.handles = w.handles :=
  h.invariant_within (P := fun v : waiting.State => v.handles = w.handles) hp
    (fun _ _ _ hmove hv => (moves_later hmove).2.trans hv)
    (fun _ _ _ _ hc hanswer hv => (replies_handles hc hanswer.choose_spec.2).trans
      ((elapse_later hanswer.choose_spec.1).2.trans hv)) rfl

theorem idle_handles {log : waiting.Log} (h : waiting.Idle w log w') : w'.handles = w.handles :=
  h.invariant (P := fun v : waiting.State => v.handles = w.handles)
    (fun _ _ _ hmove hv => (moves_later hmove).2.trans hv) rfl

theorem wait_handles {c : WaitCall} {x : c.Answer} {log : waiting.Log} (hc : c.isQuiet)
    (h : waiting.Runs (wait c) w log x w') : w'.handles = w.handles :=
  runs_handles (Prog.within_perform (S := Waits) hc) h

/-- One call: where it began, where it returned, and where that stands in the log. -/
theorem runs_wait {c : WaitCall} {x : c.Answer} {log : waiting.Log}
    (h : waiting.Runs (wait c) w log x w') : ∃ u v u' before after, log = before ++ after ∧
      waiting.Path w before u' ∧ waiting.Idle u' after w' ∧ w.Later u ∧ u.Later v ∧
      v.handles = w.handles ∧ u.Replies v c x u' := by
  obtain ⟨l₁, l₂, u, u', rfl, hidle₁, ⟨v, helapse, hreplies⟩, hidle₂⟩ := runs_perform_iff.mp h
  refine ⟨u, v, u', l₁ ++ [.inr ⟨c, x⟩], l₂, ?_, ?_, hidle₂, path_later hidle₁.2,
    (elapse_later helapse).1, ?_, hreplies⟩
  · rw [List.append_assoc, List.singleton_append]
  · exact path_append.mpr ⟨u, hidle₁.2, u', ⟨v, helapse, hreplies⟩, rfl⟩
  · rw [(elapse_later helapse).2, idle_handles hidle₁]

end Keeps

/-! ## §4 Looking at the PID -/

section Look

variable {systemMessage : Int → Bytes} {pid due : Int} {w v w' : WaitState}
  {log l₁ l₂ : waiting.Log} {r : Result Bool}

/-- Some process holds the PID. -/
def WaitState.Held (w : WaitState) (pid : Int) : Prop :=
  ∃ process, w.Holds process ∧ process.pid = pid

theorem held_iff : w.Held pid ↔ w.table.holder pid ≠ none := by
  constructor
  · rintro ⟨process, hholds, rfl⟩ hnone
    rw [WaitState.Holds, hnone] at hholds
    cases hholds
  · intro hsome
    obtain ⟨startTime, hstart⟩ := Option.ne_none_iff_exists'.mp hsome
    exact ⟨⟨pid, startTime⟩, hstart, rfl⟩

/-- What an answer to the question whether the process with this PID has exited is good for. -/
structure Judged (pid due : Int) (w : WaitState) (log : waiting.Log) (r : Result Bool)
    (w' : WaitState) : Prop where
  exited : r = .ok true → ∀ process, w.Accounts process → process.pid = pid → w'.terminated process
  running : r = .ok false → waiting.During w log (fun v => v.Held pid) ∧ due ≤ w'.clock
  failed : ∀ error, r = .error error → error.code ≠ .notFound

theorem Judged.after (hpath : waiting.Path w l₁ v) (h : Judged pid due v l₂ r w') :
    Judged pid due w (l₁ ++ l₂) r w' where
  exited hr process haccounts := h.exited hr process ((path_later hpath).accounts process haccounts)
  running hr := ⟨(h.running hr).1.after hpath, (h.running hr).2⟩
  failed := h.failed

theorem Judged.append (h : Judged pid due w l₁ r v) (hpath : waiting.Path v l₂ w') :
    Judged pid due w (l₁ ++ l₂) r w' where
  exited hr process haccounts hpid :=
    (path_later hpath).terminated process (h.exited hr process haccounts hpid)
  running hr := ⟨(h.running hr).1.append l₂, Int.le_trans (h.running hr).2 (path_later hpath).clock⟩
  failed := h.failed

theorem Judged.mono {earlier : Int} (h : Judged pid due w log r w') (hle : earlier ≤ due) :
    Judged pid earlier w log r w' where
  exited := h.exited
  running hr := ⟨(h.running hr).1, Int.le_trans hle (h.running hr).2⟩
  failed := h.failed

theorem judged_exited (h : ∀ process, w.Accounts process → process.pid = pid → w'.terminated process) :
    Judged pid due w log (.ok true) w' :=
  ⟨fun _ => h, fun hr => by simp at hr, fun _ hr => by cases hr⟩

theorem judged_running (h : waiting.During w log (fun v => v.Held pid)) (hover : due ≤ w'.clock) :
    Judged pid due w log (.ok false) w' :=
  ⟨fun hr => by simp at hr, fun _ => ⟨h, hover⟩, fun _ hr => by cases hr⟩

theorem judged_failed {error : Error} (h : error.code ≠ .notFound) :
    Judged pid due w log (.error error) w' where
  exited hr := by cases hr
  running hr := by cases hr
  failed error' hr := by
    cases hr
    exact h

theorem makeError_code {number : Errno} {operation : Bytes} (h : number ≠ Errno.esrch) :
    (makeError systemMessage number operation).code ≠ .notFound := by
  unfold makeError
  dsimp only
  rw [if_neg h]
  split
  · simp
  · simp

/-- **One look at the PID.** -/
theorem exitedWithKill_judged (hpid : 0 < pid)
    (h : waiting.Runs (exitedWithKill systemMessage pid) w log r w') :
    Judged pid (w.clock + 1) w log r w' := by
  obtain ⟨child, l₁, l₂, v₁, rfl, hchild, hrest⟩ := runs_bind_iff.mp h
  obtain ⟨u, v, u', before, after, rfl, hbefore, hafter, hu, hv, -, hreply⟩ := runs_wait hchild
  have hlater : w.Later v := hu.trans hv
  split at hrest
  · rename_i hfound
    obtain ⟨rfl, hidle⟩ := runs_ret_iff.mp hrest
    -- the process that is reported is the one that holds the PID
    cases child with
    | error number => cases hfound
    | ok found =>
      obtain rfl : found = pid := Option.some.inj hfound
      obtain ⟨rfl, hreported⟩ := hreply
      obtain ⟨holder, hholds, hsame, hover⟩ := hreported hpid rfl
      refine judged_exited fun process haccounts hprocess => ?_
      have hterminated := (hlater.accounts process haccounts).ended hholds
        (hsame.trans hprocess.symm) hover
      exact (path_later hidle.2).terminated _ ((path_later hafter.2).terminated _ hterminated)
  · have hpath : waiting.Path w (before ++ after) v₁ := hchild.2
    have hclock := (path_later hpath).clock
    obtain ⟨probed, l₃, l₄, v₂, rfl, hprobe, hconclude⟩ := runs_bind_iff.mp hrest
    obtain ⟨u₁, u₂, u₃, before', after', rfl, hbefore', hafter', hu₁, hu₂, -, hreply'⟩ :=
      runs_wait hprobe
    refine Judged.after hpath ?_
    suffices hlook : Judged pid (v₁.clock + 1) v₁ (before' ++ after' ++ l₄) r w' from
      hlook.mono (by omega)
    have hbegan := hu₁.clock
    have hended := (path_later hafter'.2).clock
    have hheld : u₃.Held pid → waiting.During v₁ (before' ++ after') (fun v => v.Held pid) :=
      fun hheld => ⟨before', after', u₃, rfl, hbefore', hheld⟩
    cases probed with
    | ok done =>
      obtain ⟨rfl, hidle⟩ := runs_ret_iff.mp hconclude
      obtain ⟨rfl, htime, hholder⟩ := hreply'
      refine Judged.append (judged_running (hheld (held_iff.mpr (hholder hpid))) ?_) hidle.2
      omega
    | error number =>
      obtain ⟨rfl, htime, hholder⟩ := hreply'
      dsimp only at hconclude
      split at hconclude
      · rename_i heperm
        obtain ⟨rfl, hidle⟩ := runs_ret_iff.mp hconclude
        refine Judged.append (judged_running (hheld (held_iff.mpr ((hholder hpid).1 heperm))) ?_) hidle.2
        omega
      · split at hconclude
        · rename_i hesrch
          obtain ⟨rfl, hidle⟩ := runs_ret_iff.mp hconclude
          refine Judged.append (judged_exited fun process haccounts hprocess => ?_) hidle.2
          -- nobody holds the PID
          have hnone := (hholder hpid).2 hesrch
          rw [← hprocess] at hnone
          have hthen := ((hu₁.trans hu₂).accounts process haccounts).gone hnone
          exact (path_later hafter'.2).terminated process hthen
        · rename_i hesrch
          obtain ⟨rfl, hidle⟩ := runs_ret_iff.mp hconclude
          exact judged_failed (makeError_code hesrch)

/-! ## §5 Looking again and again -/

variable {deadline timeout : Int} {rounds : Nat}

/-- A round that returns has looked, or the deadline is over; one that goes on took time
    before it. -/
theorem checkRound_judged {out : Result Bool ⊕ Unit} (hpid : 0 < pid)
    (h : waiting.Runs (checkRound systemMessage pid deadline ()) w log out w') :
    (∀ r, out = .inl r → Judged pid deadline w log r w') ∧
      (out = .inr () → w.clock < w'.clock ∧ w.clock < deadline) := by
  obtain ⟨looked, l₁, l₂, v, rfl, hlook, hrest⟩ := runs_bind_iff.mp h
  have hjudged := exitedWithKill_judged hpid hlook
  cases looked with
  | error error =>
    obtain ⟨rfl, hidle⟩ := runs_ret_iff.mp hrest
    refine ⟨fun r hr => ?_, fun hr => by cases hr⟩
    obtain rfl := Sum.inl.inj hr
    exact (judged_failed (hjudged.failed error rfl)).append hidle.2
  | ok exited =>
    cases exited with
    | true =>
      obtain ⟨rfl, hidle⟩ := runs_ret_iff.mp hrest
      refine ⟨fun r hr => ?_, fun hr => by cases hr⟩
      obtain rfl := Sum.inl.inj hr
      exact (judged_exited (hjudged.exited rfl)).append hidle.2
    | false =>
      obtain ⟨hheld, hlooked⟩ := hjudged.running rfl
      obtain ⟨now, l₃, l₄, v₁, rfl, hnow, hpause⟩ := runs_bind_iff.mp hrest
      obtain ⟨u₁, u₂, u₃, before, after, rfl, hbefore, hafter, hu₁, hu₂, -, hreply⟩ := runs_wait hnow
      obtain ⟨rfl, hnow, -, -⟩ := hreply
      have hread : now = u₃.clock := hnow
      have hbegan := (hu₁.trans hu₂).clock
      have hended := (path_later hafter.2).clock
      have hfinished := (path_later hpause.2).clock
      split at hpause
      · rename_i hover
        obtain ⟨rfl, hidle⟩ := runs_ret_iff.mp hpause
        refine ⟨fun r hr => ?_, fun hr => by cases hr⟩
        obtain rfl := Sum.inl.inj hr
        exact judged_running (hheld.append _) (by omega)
      · rename_i hover
        obtain ⟨⟨⟩, l₅, l₆, v₂, rfl, -, hreturn⟩ := runs_bind_iff.mp hpause
        obtain ⟨rfl, -⟩ := runs_ret_iff.mp hreturn
        refine ⟨fun r hr => (by cases hr), fun _ => ?_⟩
        constructor
        · omega
        · omega

theorem loop_judged (hpid : 0 < pid)
    (h : waiting.Runs (loop (checkRound systemMessage pid deadline) rounds ()) w log r w') :
    Judged pid deadline w log r w' := by
  induction rounds generalizing w log with
  | zero => exact absurd h runs_block
  | succ rounds ih =>
    obtain ⟨out, l₁, l₂, v, rfl, hround, hrest⟩ := runs_bind_iff.mp h
    cases out with
    | inl result =>
      obtain ⟨rfl, hidle⟩ := runs_ret_iff.mp hrest
      exact ((checkRound_judged hpid hround).1 _ rfl).append hidle.2
    | inr next => exact (ih hrest).after hround.2

theorem pollTimeout_le : pollTimeout timeout ≤ max timeout 0 := by
  unfold pollTimeout
  split <;> omega

/-- The milliseconds a clock reading leaves room for. -/
def longest : Int := 4611686018427

theorem deadline_eq {start : Int} (hstart : 0 ≤ start ∧ start < 2 ^ 62) (hshort : timeout ≤ longest) :
    Overflow.wrap (start + Overflow.wrap (max timeout 0 * 1000000)) =
      start + max timeout 0 * 1000000 := by
  unfold longest at hshort
  rw [Overflow.wrap_of_fits (x := max timeout 0 * 1000000) ⟨by omega, by omega⟩]
  exact Overflow.wrap_of_fits ⟨by omega, by omega⟩

theorem waitWithKill_judged (hpid : 0 < pid) (hshort : timeout ≤ longest)
    (h : waiting.Runs (waitWithKill systemMessage rounds pid timeout) w log r w') :
    Judged pid (w.clock + max timeout 0 * 1000000) w log r w' := by
  obtain ⟨start, l₁, l₂, v, rfl, hstart, hloop⟩ := runs_bind_iff.mp h
  obtain ⟨u₁, u₂, u₃, before, after, rfl, -, -, hu₁, hu₂, -, hreply⟩ := runs_wait hstart
  obtain ⟨rfl, hnow, hbounds⟩ := hreply
  have hread : start = u₃.clock := hnow
  have hbegan := (hu₁.trans hu₂).clock
  dsimp only at hloop
  rw [deadline_eq (hread ▸ hbounds) hshort] at hloop
  exact ((loop_judged hpid hloop).after hstart.2).mono (by omega)

/-! ## §6 Waiting on a handle -/

variable {fd : Nat} {holder : Incarnation} {bounded : Int} {answer : Except Errno Nat}

/-- What an answer of `poll` says of the process behind the handle. -/
structure Polled (holder : Incarnation) (due : Int) (w : WaitState) (log : waiting.Log)
    (answer : Except Errno Nat) (w' : WaitState) : Prop where
  ready : ∀ status, answer = .ok status → status > 0 → w'.terminated holder
  idle : ∀ status, answer = .ok status → status = 0 →
    waiting.During w log (fun v => ¬ v.terminated holder ∧ due ≤ v.clock) ∧ due ≤ w'.clock
  failed : ∀ number, answer = .error number → number ≠ Errno.esrch ∧ number ≠ Errno.enoent

theorem Polled.append (h : Polled holder due w l₁ answer v) (hpath : waiting.Path v l₂ w') :
    Polled holder due w (l₁ ++ l₂) answer w' where
  ready status hanswer hready := (path_later hpath).terminated _ (h.ready status hanswer hready)
  idle status hanswer hidle :=
    ⟨(h.idle status hanswer hidle).1.append l₂,
      Int.le_trans (h.idle status hanswer hidle).2 (path_later hpath).clock⟩
  failed := h.failed

theorem Polled.after {later : Int} (hpath : waiting.Path w l₁ v) (hle : due ≤ later)
    (h : Polled holder later v l₂ answer w') : Polled holder due w (l₁ ++ l₂) answer w' where
  ready := h.ready
  idle status hanswer hidle :=
    ⟨((h.idle status hanswer hidle).1.mono fun _ hv => ⟨hv.1, Int.le_trans hle hv.2⟩).after hpath,
      Int.le_trans hle (h.idle status hanswer hidle).2⟩
  failed := h.failed

/-- A round that goes on was interrupted. -/
theorem pollRound_polled {out : Except Errno Nat ⊕ Unit} (hhandle : w.handles fd = some holder)
    (h : waiting.Runs (pollRound fd bounded ()) w log out w') :
    w'.handles = w.handles ∧
      (∀ answer, out = .inl answer → Polled holder (w.clock + bounded * 1000000) w log answer w') ∧
      (out = .inr () → w'.interruptions < w.interruptions) := by
  obtain ⟨polled, l₁, l₂, v₁, rfl, hpoll, hrest⟩ := runs_bind_iff.mp h
  have hkept := wait_handles (c := .poll fd bounded) trivial hpoll
  obtain ⟨u, v, u', before, after, rfl, hbefore, hafter, hu, hv, hsame, hreply⟩ := runs_wait hpoll
  rw [← hsame] at hhandle
  have hbegan := hu.clock
  cases polled with
  | ok status =>
    obtain ⟨rfl, hidle⟩ := runs_ret_iff.mp hrest
    obtain ⟨rfl, hstatus⟩ := hreply
    obtain ⟨hready, htimeout⟩ := hstatus holder hhandle
    have hpath : waiting.Path v₁ l₂ w' := hidle.2
    refine ⟨?_, fun answer hanswer => ?_, fun hnone => (by cases hnone)⟩
    · rw [idle_handles hidle, hkept]
    · obtain rfl := Sum.inl.inj hanswer
      refine Polled.append ?_ hpath
      refine ⟨fun s hs hpositive => ?_, fun s hs hzero => ?_, fun number hnumber => (by cases hnumber)⟩
      · cases hs
        exact (path_later hafter.2).terminated _ (hready hpositive)
      · cases hs
        obtain ⟨hruns, htime⟩ := htimeout hzero
        have hended := (path_later hafter.2).clock
        exact ⟨⟨before, after, u', rfl, hbefore, hruns, by omega⟩, by omega⟩
  | error number =>
    dsimp only at hrest
    change (if number = Errno.eintr then _ else _) at hreply
    have hlater := (path_later hafter.2).interruptions
    have hearlier := (hu.trans hv).interruptions
    split at hrest
    · rename_i heintr
      obtain ⟨rfl, hidle⟩ := runs_ret_iff.mp hrest
      rw [if_pos heintr] at hreply
      have hfinished := (path_later hidle.2).interruptions
      refine ⟨?_, fun answer hanswer => (by cases hanswer), fun _ => ?_⟩
      · rw [idle_handles hidle, hkept]
      · have hcount := hreply.1
        omega
    · rename_i heintr
      obtain ⟨rfl, hidle⟩ := runs_ret_iff.mp hrest
      rw [if_neg heintr] at hreply
      refine ⟨?_, fun answer hanswer => ?_, fun hnone => (by cases hnone)⟩
      · rw [idle_handles hidle, hkept]
      · obtain rfl := Sum.inl.inj hanswer
        refine ⟨fun s hs => (by cases hs), fun s hs => (by cases hs), fun other hother => ?_⟩
        cases hother
        exact hreply.2

theorem loop_polled (hhandle : w.handles fd = some holder)
    (h : waiting.Runs (loop (pollRound fd bounded) rounds ()) w log answer w') :
    w'.handles = w.handles ∧ Polled holder (w.clock + bounded * 1000000) w log answer w' := by
  induction rounds generalizing w log with
  | zero => exact absurd h runs_block
  | succ rounds ih =>
    obtain ⟨out, l₁, l₂, v, rfl, hround, hrest⟩ := runs_bind_iff.mp h
    obtain ⟨hkept, hreturns, -⟩ := pollRound_polled hhandle hround
    cases out with
    | inl result =>
      obtain ⟨rfl, hidle⟩ := runs_ret_iff.mp hrest
      refine ⟨?_, (hreturns _ rfl).append hidle.2⟩
      rw [idle_handles hidle, hkept]
    | inr next =>
      rw [← hkept] at hhandle
      obtain ⟨hkept', hpolled⟩ := ih hhandle hrest
      have hclock := (path_later hround.2).clock
      exact ⟨hkept'.trans hkept, hpolled.after hround.2 (by omega)⟩

theorem PidFd.makeError_code {number : Errno} {operation : Bytes}
    (h : number ≠ Errno.esrch ∧ number ≠ Errno.enoent) :
    (PidFd.makeError systemMessage number operation).code ≠ .notFound := by
  unfold PidFd.makeError
  dsimp only
  split
  · simp
  · rw [if_neg (by rintro (hesrch | henoent); exacts [h.1 hesrch, h.2 henoent])]
    split
    · simp
    · simp

theorem handle_judged {w : WaitState} (hholds : w.Holds holder) (hpid : holder.pid = pid)
    (hhandle : w.handles fd = some holder) (hidle : waiting.Idle w l₁ v)
    (h : waiting.Runs (PidFd.waitForExit systemMessage rounds fd timeout) v l₂ r w') :
    w'.handles = w.handles ∧ Judged pid (w.clock + pollTimeout timeout * 1000000) w (l₁ ++ l₂) r w' ∧
      (r = .ok false → waiting.During w (l₁ ++ l₂) (fun v => ¬ v.terminated holder ∧
        w.clock + pollTimeout timeout * 1000000 ≤ v.clock)) := by
  obtain ⟨answer, l₃, l₄, v₁, rfl, hloop, hreturn⟩ := runs_bind_iff.mp h
  rw [← idle_handles hidle] at hhandle
  obtain ⟨hkept, hpolled⟩ := loop_polled hhandle hloop
  have hclock := (path_later hidle.2).clock
  have hheld : waiting.During w (l₁ ++ (l₃ ++ l₄)) (fun v => v.Held pid) :=
    during_start ⟨holder, hholds, hpid⟩
  cases answer with
  | error number =>
    obtain ⟨rfl, hend⟩ := runs_ret_iff.mp hreturn
    refine ⟨?_, judged_failed (PidFd.makeError_code (hpolled.failed number rfl)),
      fun hr => (by cases hr)⟩
    rw [idle_handles hend, hkept, idle_handles hidle]
  | ok status =>
    obtain ⟨rfl, hend⟩ := runs_ret_iff.mp hreturn
    have hall : Polled holder (w.clock + pollTimeout timeout * 1000000) w (l₁ ++ (l₃ ++ l₄))
        (.ok status) w' := (hpolled.append hend.2).after hidle.2 (by omega)
    refine ⟨?_, ⟨fun hr process haccounts hprocess => ?_, fun hr => ?_, fun _ hr => (by cases hr)⟩,
      fun hr => ?_⟩
    · rw [idle_handles hend, hkept, idle_handles hidle]
    · -- the handle refers to the process that holds the PID
      have hready : status > 0 := of_decide_eq_true (Except.ok.inj hr)
      have hover := hall.ready status rfl hready
      rcases haccounts with hterminated | hholds'
      · exact ((path_later hidle.2).trans (path_later h.2)).terminated process hterminated
      · rwa [hholds'.unique hholds (hprocess.trans hpid.symm)]
    · have hnone : ¬ status > 0 := of_decide_eq_false (Except.ok.inj hr)
      exact ⟨hheld, (hall.idle status rfl (by omega)).2⟩
    · have hnone : ¬ status > 0 := of_decide_eq_false (Except.ok.inj hr)
      exact (hall.idle status rfl (by omega)).1

/-! ## §7 The provider -/

theorem loop_within {σ : Type} {body : σ → Prog Waits (Result Bool ⊕ σ)}
    (h : ∀ s, (body s).Within WaitCall.isQuiet) (s : σ) :
    (loop body rounds s).Within WaitCall.isQuiet := by
  induction rounds generalizing s with
  | zero => trivial
  | succ rounds ih =>
    apply (h s).bind
    intro out
    cases out with
    | inl result => trivial
    | inr next => exact ih next

theorem exitedWithKill_responsive :
    Responsive WaitCall.isQuiet (exitedWithKill systemMessage pid) := by
  refine ⟨trivial, fun child => ?_⟩
  dsimp only [Prog.bind]
  split
  · trivial
  · refine ⟨trivial, fun probed => ?_⟩
    cases probed with
    | ok done => trivial
    | error number =>
      dsimp only [Prog.bind]
      split
      · trivial
      · split <;> trivial

theorem checkRound_responsive :
    Responsive WaitCall.isQuiet (checkRound systemMessage pid deadline ()) := by
  apply exitedWithKill_responsive.bind
  intro looked
  cases looked with
  | error error => trivial
  | ok exited =>
    cases exited with
    | true => trivial
    | false =>
      refine ⟨trivial, fun now => ?_⟩
      dsimp only [Prog.bind]
      split
      · trivial
      · exact ⟨trivial, fun _ => trivial⟩

theorem waitWithKill_within :
    (waitWithKill systemMessage rounds pid timeout).Within WaitCall.isQuiet :=
  ⟨trivial, fun _ => loop_within (fun _ => checkRound_responsive.within) ()⟩

theorem waitWithKill_concludes (hpid : 0 < pid) (hshort : timeout ≤ longest)
    (hrounds : (max timeout 0 * 1000000).toNat < rounds) :
    waiting.Concludes (waitWithKill systemMessage rounds pid timeout) w := by
  have hstart : waiting.Concludes steadyNow w := fun _ _ _ _ _ _ => trivial
  apply hstart.bind
  intro log start v hruns
  obtain ⟨u₁, u₂, u₃, before, after, rfl, -, hafter, hu₁, hu₂, -, hreply⟩ := runs_wait hruns
  obtain ⟨rfl, hnow, hbounds⟩ := hreply
  have hread : start = u₃.clock := hnow
  have hended := (path_later hafter.2).clock
  dsimp only
  rw [deadline_eq (hread ▸ hbounds) hshort]
  -- every round that goes on takes time
  apply concludes_loop (W := waiting) (fun _ _ => True)
    (fun _ v => (start + max timeout 0 * 1000000 - WaitState.clock v).toNat)
  · exact fun _ _ _ => checkRound_responsive.concludes
  · intro _ w₁ log₁ _ v₁ _ hround
    obtain ⟨hless, hbefore⟩ := (checkRound_judged hpid hround).2 rfl
    exact ⟨trivial, by omega⟩
  · trivial
  · omega

theorem pollRound_responsive : Responsive WaitCall.isQuiet (pollRound fd bounded ()) := by
  refine ⟨trivial, fun polled => ?_⟩
  cases polled with
  | ok status => trivial
  | error number =>
    dsimp only [Prog.bind]
    split <;> trivial

theorem handle_concludes (hhandle : w.handles fd = some holder) (hrounds : w.interruptions < rounds) :
    waiting.Concludes (PidFd.waitForExit systemMessage rounds fd timeout) w := by
  apply Concludes.bind
  · -- only interruptions make the loop go on
    apply concludes_loop (W := waiting) (fun _ v => WaitState.handles v fd = some holder)
      (fun _ v => WaitState.interruptions v)
    · exact fun _ _ _ => pollRound_responsive.concludes
    · intro _ w₁ log₁ _ v₁ hhandle₁ hround
      obtain ⟨hkept, -, hless⟩ := pollRound_polled hhandle₁ hround
      exact ⟨by rwa [hkept], hless rfl⟩
    · exact hhandle
    · exact hrounds
  · intro log answer v _
    cases answer with
    | ok status => trivial
    | error number => trivial

/-- Opening a handle: one call. -/
theorem openPid_runs {opened : Result Nat} (h : waiting.Runs
    ((PidFd.openPid systemMessage pid).interpret fun call => wait (.sys call)) w log opened w') :
    ∃ (answer : Except Errno Nat) (l₁ l₂ : waiting.Log) (v : WaitState), log = l₁ ++ l₂ ∧
      waiting.Runs (wait (.sys (.pidfdOpen pid))) w l₁ answer v ∧ waiting.Idle v l₂ w' ∧
      opened = answer.mapError fun number =>
        PidFd.makeError systemMessage number "open process handle" := by
  obtain ⟨answer, l₁, l₂, v, rfl, hopen, hrest⟩ := runs_bind_iff.mp h
  refine ⟨answer, l₁, l₂, v, rfl, hopen, ?_⟩
  cases answer with
  | error number =>
    obtain ⟨rfl, hidle⟩ := runs_ret_iff.mp hrest
    exact ⟨hidle, rfl⟩
  | ok fd =>
    obtain ⟨rfl, hidle⟩ := runs_ret_iff.mp hrest
    exact ⟨hidle, rfl⟩

/-- What `waitForExit` has found out when it returns. -/
structure Finding (pid timeout : Int) (w : WaitState) (log : waiting.Log) (r : Result Bool)
    (w' : WaitState) : Prop where
  judged : Judged pid (w.clock + pollTimeout timeout * 1000000) w log r w'
  /-- No handle is left open. -/
  handles : w'.handles = w.handles
  /-- With a handle, a negative answer is about one process: it held the PID, and it still
      ran when the time was over. -/
  handle : ∀ fd, ⟨.sys (.pidfdOpen pid), .ok fd⟩ ∈ events log → r = .ok false → ∃ process,
    waiting.During w log (fun v => v.Holds process ∧ process.pid = pid) ∧
    waiting.During w log fun v => ¬ v.terminated process ∧
      w.clock + pollTimeout timeout * 1000000 ≤ v.clock

theorem waitWithKill_finding (hpid : 0 < pid) (hshort : timeout ≤ longest)
    (h : waiting.Runs (waitWithKill systemMessage rounds pid timeout) w log r w') :
    Finding pid timeout w log r w' where
  judged := by
    have hle : pollTimeout timeout ≤ max timeout 0 := pollTimeout_le
    exact (waitWithKill_judged hpid hshort h).mono (by omega)
  handles := runs_handles waitWithKill_within h
  handle fd hmem := ((waitWithKill_within.run h.1 _ hmem : WaitCall.isQuiet _)).elim

theorem handle_finding (hpath : waiting.Path w l₁ v) (hfree : w.handles fd = none)
    (hopened : v.handles = Function.update w.handles fd (some holder)) (hholds : v.Holds holder)
    (hpid : holder.pid = pid) {idle : waiting.Log} {v' : WaitState} (hidle : waiting.Idle v idle v')
    (h : waiting.Runs (do
      let exited ← PidFd.waitForExit systemMessage rounds fd timeout
      wait (.sys (.close fd))
      return exited) v' l₂ r w') :
    Finding pid timeout w (l₁ ++ (idle ++ l₂)) r w' := by
  obtain ⟨exited, l₃, l₄, v₁, rfl, hwait, hclose⟩ := runs_bind_iff.mp h
  obtain ⟨⟨⟩, l₅, l₆, v₂, rfl, hclosed, hreturn⟩ := runs_bind_iff.mp hclose
  obtain ⟨rfl, hend⟩ := runs_ret_iff.mp hreturn
  have hhandle : v.handles fd = some holder := by rw [hopened, Function.update_self]
  obtain ⟨hkept, hjudged, hruns⟩ := handle_judged hholds hpid hhandle hidle hwait
  have hclock := (path_later hpath).clock
  have htail : waiting.Path v₁ (l₅ ++ l₆) w' := hclose.2
  have hsplit : idle ++ (l₃ ++ (l₅ ++ l₆)) = (idle ++ l₃) ++ (l₅ ++ l₆) :=
    (List.append_assoc ..).symm
  rw [hsplit]
  refine ⟨((hjudged.append htail).after hpath).mono (by omega), ?_, fun _ _ hr => ⟨holder, ?_, ?_⟩⟩
  · obtain ⟨u, u', u'', before, after, rfl, -, hafter, -, -, hsame, hreply⟩ := runs_wait hclosed
    have hclosing : u''.handles = Function.update u'.handles fd none := by rw [hreply]
    rw [idle_handles hend, idle_handles hafter, hclosing, hsame, hkept, hopened,
      Function.update_idem, ← hfree, Function.update_eq_self]
  · exact ((during_start ⟨hholds, hpid⟩).append _).after hpath
  · have hover := ((hruns hr).append (l₅ ++ l₆)).after hpath
    exact hover.mono fun _ hv => ⟨hv.1, by omega⟩

/-- What opening a handle leads to. -/
theorem opened_runs (h : waiting.Runs (wait (.sys (.pidfdOpen pid))) w log (.ok fd) w') :
    ∃ holder before after v, log = before ++ after ∧ waiting.Path w before v ∧
      waiting.Idle v after w' ∧ w.handles fd = none ∧
      v.handles = Function.update w.handles fd (some holder) ∧ v.Holds holder ∧ holder.pid = pid := by
  obtain ⟨u, u', v, before, after, rfl, hbefore, hafter, -, -, hsame, hreply⟩ := runs_wait h
  obtain ⟨hfree, holder, hholds, hpid, hopened⟩ := hreply
  have hhandles : v.handles = Function.update u'.handles fd (some holder) := by rw [hopened]
  have hholds' : v.Holds holder := by
    rw [hopened]
    exact hholds
  exact ⟨holder, before, after, v, rfl, hbefore, hafter, hsame ▸ hfree, hsame ▸ hhandles, hholds', hpid⟩

/-- Without a handle, no event of the log opens one. -/
theorem not_opened {number : Errno} {idle : waiting.Log} {v' : WaitState}
    (h : waiting.Runs (wait (.sys (.pidfdOpen pid))) w l₁ (.error number) v)
    (hidle : waiting.Idle v idle v') (hrest : ∀ e ∈ events l₂, e.1.isQuiet) :
    ∀ fd, ⟨.sys (.pidfdOpen pid), .ok fd⟩ ∉ events (l₁ ++ idle ++ l₂) := by
  intro fd hmem
  rw [events_append, events_append, hidle.1, Prog.run_perform.mp h.1] at hmem
  simp only [List.append_nil, List.singleton_append, List.mem_cons] at hmem
  rcases hmem with heq | hmem
  · injection heq with _ hanswer
    cases hanswer
  · exact hrest _ hmem

/-- The answer of `pidfd_open` says that nobody holds the PID. -/
theorem unopened_gone {number : Errno} {process : Incarnation}
    (h : waiting.Runs (wait (.sys (.pidfdOpen pid))) w log (.error number) w')
    (hnumber : number = Errno.esrch ∨ number = Errno.enoent) (haccounts : w.Accounts process)
    (hprocess : process.pid = pid) : w'.terminated process := by
  obtain ⟨u, v, u', before, after, rfl, -, hafter, hu, hv, -, hreply⟩ := runs_wait h
  obtain ⟨rfl, hnone⟩ := hreply
  have hfree := hnone hnumber
  rw [← hprocess] at hfree
  have hthen := ((hu.trans hv).accounts process haccounts).gone hfree
  exact (path_later hafter.2).terminated process hthen

/-- **What a wait finds out.** Whatever terminates, is reaped or takes a PID meanwhile: a
    positive answer is right about the process that held the PID, a negative one comes when
    the time is over, and no handle is left open. The wait does come to an end. -/
theorem wait_decides (systemMessage : Int → Bytes) (rounds : Nat) (policy : PidFdPolicy)
    (pid timeout : Int) (hpid : 0 < pid) (hshort : timeout ≤ longest) (w : WaitState) :
    (w.interruptions + (max timeout 0 * 1000000).toNat < rounds →
      waiting.Concludes (waitForExit systemMessage rounds policy pid timeout) w) ∧
    ∀ log r w', waiting.Runs (waitForExit systemMessage rounds policy pid timeout) w log r w' →
      Finding pid timeout w log r w' := by
  constructor
  · intro hrounds
    cases policy with
    | disabled => exact waitWithKill_concludes hpid hshort (by omega)
    | auto =>
      have hopen : Responsive (fun _ => True)
          ((PidFd.openPid systemMessage pid).interpret fun call => wait (.sys call)) :=
        ⟨trivial, fun answer => by cases answer <;> trivial⟩
      apply hopen.concludes.bind
      intro log opened v hruns
      have hlater := (path_later hruns.2).interruptions
      obtain ⟨answer, l₁, l₂, v₁, rfl, hanswer, hidle, rfl⟩ := openPid_runs hruns
      cases answer with
      | error number =>
        show waiting.Concludes (if _ then _ else _) v
        split
        · trivial
        · split
          · exact waitWithKill_concludes hpid hshort (by omega)
          · trivial
      | ok fd =>
        obtain ⟨holder, before, after, u, rfl, -, hafter, -, hopened, -, -⟩ := opened_runs hanswer
        have hhandle : v.handles fd = some holder := by
          rw [idle_handles hidle, idle_handles hafter, hopened, Function.update_self]
        apply (handle_concludes hhandle (by omega)).bind
        exact fun _ _ _ _ _ _ _ _ _ _ => trivial
  · intro log r w' h
    cases policy with
    | disabled => exact waitWithKill_finding hpid hshort h
    | auto =>
      obtain ⟨opened, l, l', v, rfl, hopen, hrest⟩ := runs_bind_iff.mp h
      obtain ⟨answer, l₁, l₂, v₁, rfl, hanswer, hidle, rfl⟩ := openPid_runs hopen
      cases answer with
      | ok fd =>
        obtain ⟨holder, before, after, u, rfl, hbefore, hafter, hfree, hopened, hholds, hsame⟩ :=
          opened_runs hanswer
        have hfinding := handle_finding hbefore hfree hopened hholds hsame (hafter.append hidle) hrest
        rwa [List.append_assoc, List.append_assoc, ← List.append_assoc after]
      | error number =>
        have hpath := hopen.2
        have hkept : v.handles = w.handles := by
          obtain ⟨u, u', u'', before, after, rfl, -, hafter, -, -, hsame, hreply⟩ := runs_wait hanswer
          have hunchanged : u''.handles = u'.handles := by rw [hreply.1]
          rw [idle_handles hidle, idle_handles hafter, hunchanged, hsame]
        change waiting.Runs (if _ then _ else _) v l' r w' at hrest
        split at hrest
        · -- nobody holds the PID
          rename_i hcode
          obtain ⟨rfl, hend⟩ := runs_ret_iff.mp hrest
          have hnumber : number = Errno.esrch ∨ number = Errno.enoent := by
            by_contra hneither
            exact PidFd.makeError_code (not_or.mp hneither) hcode
          refine ⟨judged_exited fun process haccounts hprocess => ?_, ?_, fun fd hmem => ?_⟩
          · have hover := unopened_gone hanswer hnumber haccounts hprocess
            exact ((path_later hidle.2).trans (path_later hend.2)).terminated process hover
          · rw [idle_handles hend, hkept]
          · exact (not_opened hanswer hidle (by simp [hend.1]) fd hmem).elim
        · split at hrest
          · have hfinding := waitWithKill_finding hpid hshort hrest
            have hclock := (path_later hpath).clock
            refine ⟨(hfinding.judged.after hpath).mono (by omega), hfinding.handles.trans hkept,
              fun fd hmem => ?_⟩
            exact (not_opened hanswer hidle (waitWithKill_within.run hrest.1) fd hmem).elim
          · rename_i hcode _
            obtain ⟨rfl, hend⟩ := runs_ret_iff.mp hrest
            refine ⟨judged_failed hcode, ?_, fun fd hmem hr => (by cases hr)⟩
            rw [idle_handles hend, hkept]

end Look

/-- One process, which runs. -/
def running : WaitState where
  table := {
    holder := fun pid => if pid = 5 then some 1 else none
    used := fun pid startTime => pid = 5 ∧ startTime = 1
    holder_used := fun pid startTime h => by
      split at h
      · rename_i hpid
        exact ⟨hpid, (Option.some.inj h).symm⟩
      · cases h }
  terminated := fun _ => False
  handles := fun _ => none
  clock := 0
  interruptions := 0

/-- It terminates while it is waited for. -/
def terminatingLog : waiting.Log :=
  [.inr ⟨.sys (.pidfdOpen 5), .ok 3⟩, .inl (.terminate ⟨5, 1⟩), .inr ⟨.poll 3 0, .ok 1⟩,
    .inr ⟨.sys (.close 3), ()⟩]

theorem running_terminates : ∃ w', waiting.Path running terminatingLog w' := by
  refine ⟨_, _, ⟨running, .refl, rfl, ⟨5, 1⟩, rfl, rfl, rfl⟩, _, ⟨rfl, rfl⟩, _,
    ⟨_, .refl, rfl, fun process hhandle => ?_⟩, _, ⟨_, .refl, rfl⟩, rfl⟩
  obtain rfl : (⟨5, 1⟩ : Incarnation) = process := Option.some.inj hhandle
  exact ⟨fun _ => .inl rfl, fun hzero => by cases hzero⟩

/-- It has terminated and been reaped, after so much time. -/
def reaped (clock : Int) : WaitState where
  table := {
    holder := fun _ => none
    used := running.table.used
    holder_used := fun _ _ h => by cases h }
  terminated := fun other => other = ⟨5, 1⟩ ∨ running.terminated other
  handles := fun _ => none
  clock := clock
  interruptions := 0

/-- `ECHILD`: the process is not a child of LX. -/
def noChild : Errno := 10

/-- It terminates and is reaped while the PID is looked at for the second time. -/
def reapingLog : waiting.Log :=
  [.inr ⟨.steadyNow, (0 : Int)⟩, .inr ⟨.waitid 5, .error noChild⟩, .inr ⟨.probe 5, .ok ()⟩,
    .inr ⟨.steadyNow, (1 : Int)⟩, .inr ⟨.sleepFor 9, ()⟩, .inl (.terminate ⟨5, 1⟩),
    .inr ⟨.waitid 5, .error noChild⟩, .inl (.change (.release 5)),
    .inr ⟨.probe 5, .error Errno.esrch⟩]

theorem running_reaped : waiting.Path running reapingLog (reaped 9000002) := by
  have htick : ∀ (w : WaitState) (n : Nat), w.Elapse { w with clock := w.clock + n } :=
    fun w n => .single ⟨.tick n, rfl⟩
  refine ⟨_, ⟨_, .refl, rfl, rfl, by decide, by decide⟩, _, ⟨_, .refl, rfl⟩, _,
    ⟨_, htick _ 1, rfl, by decide, fun _ => by simp [running]⟩, _,
    ⟨_, .refl, rfl, rfl, by decide, by decide⟩, _, ⟨_, htick _ 9000000, rfl, by decide⟩, _,
    ⟨rfl, rfl⟩, _, ⟨_, .refl, rfl⟩, reaped 9000001, ⟨⟨?_, ?_, ?_, ?_⟩, ?_, ?_⟩, _,
    ⟨_, htick _ 1, rfl, by decide,
      fun _ => ⟨fun hnumber => absurd hnumber (by decide), fun _ => rfl⟩⟩, rfl⟩
  · simp [running]
  · rfl
  · intro other hother
    exact (if_neg hother).symm
  · rfl
  · -- only the process that has terminated is reaped
    rintro ⟨pid, startTime⟩ hchange hholds
    obtain rfl : pid = 5 := by cases hchange; rfl
    obtain rfl : (1 : Nat) = startTime := Option.some.inj hholds
    exact .inl rfl
  · rfl

/-- The exit is found out with a pidfd, and by looking at the PID twice. -/
theorem wait_decides_running :
    (waiting.Concludes (waitForExit (fun _ => []) 1 .auto 5 0) running ∧
    ∃ log w', waiting.Runs (waitForExit (fun _ => []) 1 .auto 5 0) running log (.ok true) w' ∧
      w'.terminated ⟨5, 1⟩ ∧ w'.handles = running.handles) ∧
    waiting.Concludes (waitForExit (fun _ => []) (10 ^ 7 + 1) .disabled 5 10) running ∧
    ∃ w', waiting.Runs (waitForExit (fun _ => []) (10 ^ 7 + 1) .disabled 5 10) running reapingLog
        (.ok true) w' ∧
      w'.terminated ⟨5, 1⟩ ∧ w'.handles = running.handles := by
  obtain ⟨hconcludes, hfinds⟩ :=
    wait_decides (fun _ => []) 1 .auto 5 0 (by decide) (by decide) running
  obtain ⟨hconcludes', hfinds'⟩ :=
    wait_decides (fun _ => []) (10 ^ 7 + 1) .disabled 5 10 (by decide) (by decide) running
  constructor
  · refine ⟨hconcludes (by decide), terminatingLog, ?_⟩
    obtain ⟨w', hpath⟩ := running_terminates
    have hruns : waiting.Runs (waitForExit (fun _ => []) 1 .auto 5 0) running terminatingLog
        (.ok true) w' :=
      ⟨⟨_, _, rfl, _, _, rfl, (), _, rfl, rfl, rfl⟩, hpath⟩
    have hfinding := hfinds _ _ _ hruns
    exact ⟨w', hruns, hfinding.judged.exited rfl ⟨5, 1⟩ (.inr rfl) rfl, hfinding.handles⟩
  · refine ⟨hconcludes' (by decide), reaped 9000002, ?_⟩
    have hruns : waiting.Runs (waitForExit (fun _ => []) (10 ^ 7 + 1) .disabled 5 10) running
        reapingLog (.ok true) (reaped 9000002) :=
      ⟨⟨_, _, rfl, _, _, rfl, _, _, rfl, _, _, rfl, _, _, rfl, _, _, rfl, _, _, rfl, rfl, rfl⟩,
        running_reaped⟩
    have hfinding := hfinds' _ _ _ hruns
    exact ⟨hruns, hfinding.judged.exited rfl ⟨5, 1⟩ (.inr rfl) rfl, hfinding.handles⟩

end Lx.LinuxSignalProvider
