import Lx.Cli.ProcessKill
import Lx.Lib.Interleaving
import Lx.Lib.Reuse
import Lx.Linux.LinuxSignalProvider

/-!
# Which process `lx process kill` signals

The command runs on the Linux signal provider in a world where processes exit and their
PIDs are taken by others at any time. Everything after the prompt addresses the process by
its PID: the signal goes to whoever holds the PID when `pidfd_open`, or `kill(2)` where
there are no pidfds, is called (`kill_signals_holder`). That is the process shown in the
prompt exactly if its PID was not released in between.
-/

namespace Lx.KillTarget

open Interaction World Cli

/-! ## §1 The world -/

/-- One life of a PID. -/
structure Incarnation where
  pid : Int
  /-- The start time procfs reports. -/
  startTime : Nat
  deriving DecidableEq, Repr

structure ProcessState where
  table : Reuse.Table Int Nat
  /-- The name of every process, which it may change. -/
  name : Incarnation → Bytes
  /-- What open pidfds refer to. -/
  handles : Nat → Option Incarnation
  /-- The signals that reached a process. -/
  delivered : List (Incarnation × ProcessSignal)

inductive ProcessMove where
  /-- A process exits, or a new one takes a free PID. -/
  | change (change : Reuse.Change Int Nat)
  | rename (process : Incarnation) (name : Bytes)
  deriving DecidableEq, Repr

namespace ProcessState

/-- The process that holds its PID now. -/
def Holds (w : ProcessState) (process : Incarnation) : Prop :=
  w.table.holder process.pid = some process.startTime

/-- What the calls answer and do. Any call may fail; a call that fails changes nothing. A
    pidfd keeps referring to the process it was opened for. `kill(2)` of a PID that is not
    positive reaches whole groups, about which nothing is said. -/
def Answers (w : ProcessState) (c : SysCall) (x : c.Answer) (w' : ProcessState) : Prop :=
  match c, x with
  | .contract (.getProcess pid), .ok observed => w' = w ∧ ∃ process, w.Holds process ∧
      process.pid = pid ∧ observed.value.pid = pid ∧ observed.value.name = w.name process
  | .pidfdOpen pid, .ok fd => ∃ process, w.Holds process ∧ process.pid = pid ∧
      w' = { w with handles := Function.update w.handles fd (some process) }
  | .pidfdSendSignal fd signal, .ok () => ∃ process, w.handles fd = some process ∧
      w.Holds process ∧ w' = { w with delivered := w.delivered ++ [(process, signal)] }
  | .close fd, () => w' = { w with handles := Function.update w.handles fd none }
  | .kill pid signal, .ok () => 0 < pid → ∃ process, w.Holds process ∧ process.pid = pid ∧
      w' = { w with delivered := w.delivered ++ [(process, signal)] }
  | _, _ => w' = w

end ProcessState

abbrev processWorld : World Sys where
  State := ProcessState
  Move := ProcessMove
  move w m w' :=
    match m with
    | .change change => Reuse.Step w.table change w'.table ∧ w'.name = w.name ∧
        w'.handles = w.handles ∧ w'.delivered = w.delivered
    | .rename process name => w' = { w with name := Function.update w.name process name }
  answer w c x w' := w.Answers c x w'

abbrev ProcessLog := List (ProcessMove ⊕ Event Sys)

/-- The changes of the process table during a log. -/
def changes (log : ProcessLog) : List (Reuse.Change Int Nat) :=
  log.filterMap fun
    | .inl (.change change) => some change
    | _ => none

@[simp] theorem changes_append (l₁ l₂ : ProcessLog) :
    changes (l₁ ++ l₂) = changes l₁ ++ changes l₂ := List.filterMap_append

theorem mem_changes {change : Reuse.Change Int Nat} {log : ProcessLog} :
    change ∈ changes log ↔ .inl (.change change) ∈ log := by
  simp only [changes, List.mem_filterMap]
  constructor
  · rintro ⟨(change' | _) | e, hmem, heq⟩
    · cases heq
      exact hmem
    · cases heq
    · cases heq
  · intro hmem
    exact ⟨_, hmem, rfl⟩

/-! ## §2 What calls and moves keep -/

section

variable {w w' v : ProcessState} {log : ProcessLog}

/-- The calls of the command leave the process table alone. -/
def isOrdinary : SysCall → Prop
  | .kill pid _ => 0 < pid
  | _ => True

theorem ProcessState.Answers.table {c : SysCall} {x : c.Answer} (hc : isOrdinary c)
    (h : w.Answers c x w') : w'.table = w.table := by
  unfold ProcessState.Answers at h
  split at h
  case h_1 => rw [h.1]
  case h_2 => rw [h.choose_spec.2.2]
  case h_3 => rw [h.choose_spec.2.2]
  case h_4 => rw [h]
  case h_5 => rw [(h hc).choose_spec.2.2]
  case h_6 => rw [h]

/-- Along a log the table makes the changes of the log. -/
theorem path_changes (hcalls : ∀ e, Sum.inr e ∈ log → isOrdinary e.1)
    (h : processWorld.Path w log w') : Reuse.Changes w.table (changes log) w'.table := by
  induction log generalizing w with
  | nil =>
    obtain rfl := h
    rfl
  | cons item log ih =>
    have hrest : ∀ e, Sum.inr e ∈ log → isOrdinary e.1 := fun e he => hcalls e (by simp [he])
    rcases item with (change | _) | e
    · obtain ⟨v, ⟨hstep, -⟩, hpath⟩ := h
      exact ⟨v.table, hstep, ih hrest hpath⟩
    · obtain ⟨v, rfl, hpath⟩ := h
      have hv := ih hrest hpath
      exact hv
    · obtain ⟨v, hanswer, hpath⟩ := h
      have hv := ih hrest hpath
      rw [hanswer.table (hcalls e (by simp))] at hv
      exact hv

/-- The calls that neither open nor use a handle and signal nobody. -/
def isIdleCall : SysCall → Prop
  | .pidfdOpen _ | .pidfdSendSignal _ _ | .close _ | .kill _ _ => False
  | _ => True

theorem ProcessState.Answers.idle {c : SysCall} {x : c.Answer} (hc : isIdleCall c)
    (h : w.Answers c x w') : w' = w := by
  unfold ProcessState.Answers at h
  split at h
  case h_1 => exact h.1
  case h_6 => exact h
  all_goals exact hc.elim

/-- Without such calls handles and signals stay as they are. -/
theorem path_idle (hcalls : ∀ e, Sum.inr e ∈ log → isIdleCall e.1)
    (h : processWorld.Path w log w') : w'.handles = w.handles ∧ w'.delivered = w.delivered := by
  refine h.invariant_within (P := fun v : processWorld.State => v.handles = w.handles ∧
    v.delivered = w.delivered) (Q := isIdleCall) ?_ ?_ ?_ ⟨rfl, rfl⟩
  · rintro v (change | _) v' hmove hv
    · obtain ⟨-, -, hhandles, hdelivered⟩ := hmove
      rwa [hhandles, hdelivered]
    · obtain rfl := hmove
      exact hv
  · intro v c x v' hc hanswer hv
    have hsame : v' = v := ProcessState.Answers.idle hc hanswer
    rwa [hsame]
  · intro e he
    exact hcalls e (mem_events.mp he)

theorem idle_idle (h : processWorld.Idle w log w') :
    w'.handles = w.handles ∧ w'.delivered = w.delivered := by
  refine path_idle (fun e he => ?_) h.2
  have hmem := mem_events (W := processWorld).mpr he
  rw [h.1] at hmem
  cases hmem

/-! ## §3 Sending -/

/-- The calls that turn a PID into the process they are about. -/
def Addresses (pid : Int) : SysCall → Prop
  | .pidfdOpen p => p = pid
  | .kill p _ => p = pid
  | _ => False

/-- One signal reached one process: the holder of the PID when it was addressed. -/
def SignalsHolder (pid : Int) (signal : ProcessSignal) (w : ProcessState) (log : ProcessLog)
    (w' : ProcessState) : Prop :=
  ∃ l₁ e l₂ v process, log = l₁ ++ .inr e :: l₂ ∧ Addresses pid e.1 ∧ processWorld.Path w l₁ v ∧
    v.Holds process ∧ process.pid = pid ∧ w'.delivered = w.delivered ++ [(process, signal)]

variable {systemMessage : Int → Bytes} {pid : Int} {signal : ProcessSignal}
  {r : Result SignalDelivery}

theorem SignalsHolder.prepend {l l' : ProcessLog} (hpath : processWorld.Path w l v)
    (hdelivered : v.delivered = w.delivered) (h : SignalsHolder pid signal v l' w') :
    SignalsHolder pid signal w (l ++ l') w' := by
  obtain ⟨l₁, e, l₂, u, process, rfl, haddress, hu, hholds, hpid, hlast⟩ := h
  exact ⟨l ++ l₁, e, l₂, u, process, by simp, haddress, path_append.mpr ⟨v, hpath, hu⟩, hholds,
    hpid, by rw [hlast, hdelivered]⟩

theorem SignalsHolder.append {l l' : ProcessLog} (hdelivered : w'.delivered = v.delivered)
    (h : SignalsHolder pid signal w l v) : SignalsHolder pid signal w (l ++ l') w' := by
  obtain ⟨l₁, e, l₂, u, process, rfl, haddress, hu, hholds, hpid, hlast⟩ := h
  exact ⟨l₁, e, l₂ ++ l', u, process, by simp, haddress, hu, hholds, hpid, by rw [hdelivered, hlast]⟩

theorem sendWithKill_spec (hpid : 0 < pid)
    (h : processWorld.Runs (LinuxSignalProvider.sendWithKill systemMessage pid signal) w log r w') :
    (w'.delivered = w.delivered ∧ ∃ error, r = .error error) ∨ SignalsHolder pid signal w log w' := by
  obtain ⟨x, l₁, l₂, v, rfl, hcall, hrest⟩ := runs_bind_iff.mp h
  obtain ⟨m₁, m₂, u, u', rfl, hbefore, hanswer, hafter⟩ := runs_perform_iff.mp hcall
  cases x with
  | error number =>
    obtain ⟨hr, hidle⟩ := runs_ret_iff.mp hrest
    have hu : u' = u := hanswer
    refine .inl ⟨?_, _, hr⟩
    rw [(idle_idle hidle).2, (idle_idle hafter).2, hu, (idle_idle hbefore).2]
  | ok done =>
    obtain ⟨-, hidle⟩ := runs_ret_iff.mp hrest
    obtain ⟨process, hholds, hprocess, hu'⟩ := hanswer hpid
    refine .inr ⟨m₁, ⟨.kill pid signal, .ok done⟩, m₂ ++ l₂, u, process, by simp, rfl, hbefore.2,
      hholds, hprocess, ?_⟩
    rw [(idle_idle hidle).2, (idle_idle hafter).2, hu', (idle_idle hbefore).2]

/-- `PidFd::send` reaches the process the handle was opened for, or nobody. -/
theorem pidFdSend_spec {fd : Nat} {process : Incarnation} {sent : Result Unit}
    (hfd : w.handles fd = some process)
    (h : processWorld.Runs (LinuxSignalProvider.PidFd.send systemMessage fd signal) w log sent w') :
    (w'.delivered = w.delivered ∧ ∃ error, sent = .error error) ∨
      (sent = .ok () ∧ w'.delivered = w.delivered ++ [(process, signal)]) := by
  obtain ⟨x, l₁, l₂, v, rfl, hcall, hrest⟩ := runs_bind_iff.mp h
  obtain ⟨m₁, m₂, u, u', rfl, hbefore, hanswer, hafter⟩ := runs_perform_iff.mp hcall
  cases x with
  | error number =>
    obtain ⟨hr, hidle⟩ := runs_ret_iff.mp hrest
    have hu : u' = u := hanswer
    refine .inl ⟨?_, _, hr⟩
    rw [(idle_idle hidle).2, (idle_idle hafter).2, hu, (idle_idle hbefore).2]
  | ok done =>
    obtain ⟨hr, hidle⟩ := runs_ret_iff.mp hrest
    -- a handle keeps its process, however the PID is used in between
    obtain ⟨target, htarget, -, hu'⟩ := hanswer
    rw [(idle_idle hbefore).1, hfd] at htarget
    obtain rfl := Option.some.inj htarget
    refine .inr ⟨hr, ?_⟩
    rw [(idle_idle hidle).2, (idle_idle hafter).2, hu', (idle_idle hbefore).2]

theorem close_delivered {fd : Nat} {done : Unit}
    (h : processWorld.Runs (sys (.close fd)) w log done w') : w'.delivered = w.delivered := by
  obtain ⟨m₁, m₂, u, u', rfl, hbefore, hanswer, hafter⟩ := runs_perform_iff.mp h
  have hu : u'.delivered = u.delivered := by
    have hclosed : u' = { u with handles := Function.update u.handles fd none } := hanswer
    rw [hclosed]
  rw [(idle_idle hafter).2, hu, (idle_idle hbefore).2]

theorem sendWithPidFd_spec {fd : Nat} {process : Incarnation} (hpid : 0 < pid)
    (hfd : w.handles fd = some process)
    (h : processWorld.Runs (LinuxSignalProvider.sendWithPidFd systemMessage fd pid signal) w log
      r w') :
    (w'.delivered = w.delivered ∧ ∃ error, r = .error error) ∨
      w'.delivered = w.delivered ++ [(process, signal)] ∨ SignalsHolder pid signal w log w' := by
  obtain ⟨sent, l₁, l₂, v, rfl, hsend, hrest⟩ := runs_bind_iff.mp h
  obtain ⟨done, l₃, l₄, v₁, rfl, hclose, hend⟩ := runs_bind_iff.mp hrest
  have hclosed := close_delivered hclose
  rcases pidFdSend_spec hfd hsend with ⟨hnothing, error, rfl⟩ | ⟨rfl, hsignalled⟩
  · -- nobody was reached yet: `kill(2)` is tried only where pidfds are not supported
    have hsame : v₁.delivered = w.delivered := hclosed.trans hnothing
    dsimp only at hend
    split_ifs at hend
    · rcases sendWithKill_spec hpid hend with ⟨hagain, herror⟩ | hholder
      · exact .inl ⟨hagain.trans hsame, herror⟩
      · rw [← List.append_assoc]
        exact .inr (.inr (hholder.prepend (path_append.mpr ⟨v, hsend.2, hclose.2⟩) hsame))
    · obtain ⟨hr, hidle⟩ := runs_ret_iff.mp hend
      exact .inl ⟨(idle_idle hidle).2.trans hsame, error, hr⟩
  · obtain ⟨-, hidle⟩ := runs_ret_iff.mp hend
    refine .inr (.inl ?_)
    rw [(idle_idle hidle).2, hclosed, hsignalled]

/-- **`LinuxSignalProvider::send`** reaches nobody and fails, or it reaches the process that
    held the PID when it was addressed. -/
theorem send_spec {policy : LinuxSignalProvider.PidFdPolicy} (hpid : 0 < pid)
    (h : processWorld.Runs (LinuxSignalProvider.send systemMessage policy pid signal) w log r w') :
    (w'.delivered = w.delivered ∧ ∃ error, r = .error error) ∨ SignalsHolder pid signal w log w' := by
  cases policy with
  | disabled => exact sendWithKill_spec hpid h
  | auto =>
    obtain ⟨opened, l₁, l₂, v, rfl, hopen, hrest⟩ := runs_bind_iff.mp h
    obtain ⟨x, l₃, l₄, v₁, rfl, hcall, hret⟩ := runs_bind_iff.mp hopen
    obtain ⟨m₁, m₂, u, u', rfl, hbefore, hanswer, hafter⟩ := runs_perform_iff.mp hcall
    cases x with
    -- the handle could not be opened: only where pidfds do not exist, `kill(2)` is tried
    | error number =>
      obtain ⟨rfl, hidle⟩ := runs_ret_iff.mp hret
      have hu : u' = u := hanswer
      have hsame : v.delivered = w.delivered := by
        rw [(idle_idle hidle).2, (idle_idle hafter).2, hu, (idle_idle hbefore).2]
      dsimp only at hrest
      split_ifs at hrest
      · rcases sendWithKill_spec hpid hrest with ⟨hagain, herror⟩ | hholder
        · exact .inl ⟨hagain.trans hsame, herror⟩
        · exact .inr (hholder.prepend hopen.2 hsame)
      · obtain ⟨hr, hidle'⟩ := runs_ret_iff.mp hrest
        exact .inl ⟨(idle_idle hidle').2.trans hsame, _, hr⟩
    -- the handle stands for the process that held the PID when it was opened, so a signal
    -- through it was addressed at that moment
    | ok fd =>
      obtain ⟨rfl, hidle⟩ := runs_ret_iff.mp hret
      obtain ⟨process, hholds, hprocess, hu'⟩ := hanswer
      have hsame : v.delivered = w.delivered := by
        rw [(idle_idle hidle).2, (idle_idle hafter).2, hu', (idle_idle hbefore).2]
      have hfd : v.handles fd = some process := by
        rw [(idle_idle hidle).1, (idle_idle hafter).1, hu']
        exact Function.update_self ..
      rcases sendWithPidFd_spec hpid hfd hrest with ⟨hagain, herror⟩ | hsignalled | hholder
      · exact .inl ⟨hagain.trans hsame, herror⟩
      · refine .inr ⟨m₁, ⟨.pidfdOpen pid, .ok fd⟩, m₂ ++ l₄ ++ l₂, u, process, by simp, rfl,
          hbefore.2, hholds, hprocess, ?_⟩
        rw [hsignalled, hsame]
      · exact .inr (hholder.prepend hopen.2 hsame)

theorem send_within {policy : LinuxSignalProvider.PidFdPolicy} (hpid : 0 < pid) :
    (LinuxSignalProvider.send systemMessage policy pid signal).Within (S := Sys) isOrdinary := by
  have hkill : (LinuxSignalProvider.sendWithKill systemMessage pid signal).Within (S := Sys)
      isOrdinary := by
    refine Prog.Within.bind (Prog.within_perform hpid) fun x => ?_
    cases x <;> trivial
  have hfallback : ∀ error : Error, (if error.code = .unsupported then
      LinuxSignalProvider.sendWithKill systemMessage pid signal
      else pure (.error error)).Within (S := Sys) isOrdinary := by
    intro error
    split_ifs
    · exact hkill
    · trivial
  cases policy with
  | disabled => exact hkill
  | auto =>
    refine Prog.Within.bind (Prog.Within.bind (Prog.within_perform trivial) fun x => ?_) fun r => ?_
    · cases x <;> trivial
    cases r with
    | error error => exact hfallback error
    | ok fd =>
      refine Prog.Within.bind (Prog.Within.bind (Prog.within_perform trivial) fun x => ?_)
        fun sent => Prog.Within.bind (Prog.within_perform trivial) fun _ => ?_
      · cases x <;> trivial
      · cases sent with
        | error error => exact hfallback error
        | ok done => trivial

/-! ## §4 The command -/

/-- The backend of the command: the real signal provider. -/
def implement (systemMessage : Int → Bytes) (policy : LinuxSignalProvider.PidFdPolicy) :
    (c : Call) → Prog Sys c.Answer
  | .send pid signal => LinuxSignalProvider.send systemMessage policy pid signal
  | call => sys (.contract call)

/-- An exchange of the application layer that is answered elsewhere. -/
def contractEvent (e : Event Contract) : Event Sys := ⟨.contract e.1, e.2⟩

variable {policy : LinuxSignalProvider.PidFdPolicy} {t : Trace Sys}

theorem implements_quiet {u : Trace Contract} (hquiet : Quiet u)
    (h : Prog.Implements (implement systemMessage policy) u t) : t = u.map contractEvent := by
  induction u generalizing t with
  | nil => exact Prog.implements_nil_iff.mp h
  | cons e u ih =>
    obtain ⟨t₁, t₂, rfl, hrun, hrest⟩ := Prog.implements_cons_iff.mp h
    obtain ⟨hcall, hquiet'⟩ := quiet_cons.mp hquiet
    obtain ⟨c, x⟩ := e
    have ht₁ : t₁ = [contractEvent ⟨c, x⟩] := by
      cases c <;> first | exact Prog.run_perform.mp hrun | cases hcall
    rw [ht₁, ih hquiet' hrest]
    rfl

/-- A stretch in which only the application layer speaks. -/
theorem idle_of_contract {u : Trace Contract}
    (hevents : events (W := processWorld) log = u.map contractEvent) (e : Event Sys)
    (he : Sum.inr e ∈ log) : isIdleCall e.1 := by
  have hmem := mem_events (W := processWorld).mpr he
  rw [hevents] at hmem
  obtain ⟨e', -, rfl⟩ := List.mem_map.mp hmem
  trivial

/-- Two processes that hold one PID at two moments are the same exactly if the PID was not
    released in between. -/
theorem target_eq_iff {shown target : Incarnation} (hshown : w.Holds shown) (htarget : w'.Holds target)
    (hpid : target.pid = shown.pid) (hcalls : ∀ e, Sum.inr e ∈ log → isOrdinary e.1)
    (h : processWorld.Path w log w') :
    target = shown ↔ .inl (.change (.release shown.pid)) ∉ log := by
  rw [← mem_changes, ← (path_changes hcalls h).holder_eq_iff hshown]
  constructor
  · rintro rfl
    exact htarget
  · intro hsame
    have hstart : some target.startTime = some shown.startTime := by
      rw [← hsame, ← hpid]
      exact htarget.symm
    obtain ⟨targetPid, targetStart⟩ := target
    obtain ⟨shownPid, shownStart⟩ := shown
    cases hstart
    cases hpid
    rfl

theorem isOrdinary_of_isIdleCall {c : SysCall} (h : isIdleCall c) : isOrdinary c := by
  cases c <;> trivial

/-- The prompt with this name was answered with yes, unless `--yes` was given. -/
def Agreed (options : KillOptions) (pid : Int) (name : Bytes) (t : Trace Sys) : Prop :=
  options.confirmKill = true ∨ ∃ before answer after,
    t = before ++ ⟨.contract (.write (killPrompt pid name)), ()⟩ ::
        ⟨.contract .getline, answer⟩ :: after ∧ accepts false answer = true

theorem agreed_of_confirmed {options : KillOptions} {name : Bytes} {u : Trace Contract}
    (h : Confirmed options pid name u) : Agreed options pid name (u.map contractEvent ++ t) := by
  rcases h with hyes | ⟨before, answer, rfl, haccepts⟩
  · exact .inl hyes
  · exact .inr ⟨before.map contractEvent, answer, t, by simp [contractEvent], haccepts⟩

/-- **The signal goes to the holder of the PID.** `lx process kill PID` signals nobody, or it
    sends one SIGKILL to the process that holds the PID when it is addressed, after the
    prompt that shows another process, or the same. It is the same exactly if that process
    did not exit in between. -/
theorem kill_signals_holder {processes : ProcessService} {options : KillOptions} {code : Int}
    (h : processWorld.Runs
      ((killProcess processes options pid).interpret (implement systemMessage policy)) w log code w') :
    w'.delivered = w.delivered ∨
      ∃ (shown target : Incarnation) (observed : Observation ProcessInfo) (l₁ l₂ : ProcessLog)
        (e : Event Sys) (l₃ : ProcessLog) (v₁ v₂ : ProcessState),
        log = l₁ ++ .inr ⟨.contract (.getProcess pid), .ok observed⟩ :: (l₂ ++ .inr e :: l₃) ∧
        processWorld.Path w l₁ v₁ ∧ v₁.Holds shown ∧ shown.pid = pid ∧
        observed.value.name = v₁.name shown ∧
        Agreed options pid observed.value.name (events (W := processWorld) l₂) ∧
        processWorld.Path v₁ l₂ v₂ ∧ Addresses pid e.1 ∧ v₂.Holds target ∧ target.pid = pid ∧
        w'.delivered = w.delivered ++ [(target, .kill)] ∧
        (target = shown ↔ .inl (.change (.release pid)) ∉ l₂) := by
  obtain ⟨hrun, hpath⟩ := h
  obtain ⟨u, hu, himplements⟩ := Prog.run_interpret_iff.mp hrun
  rcases killProcess_run hu with hquiet | ⟨observed, before, r, after, rfl, hsignalable, hbefore,
    hafter, hconfirmed⟩
  · -- no signal was asked for
    left
    exact (path_idle (idle_of_contract (implements_quiet hquiet himplements)) hpath).2
  -- cut the log at the inspection and around the signal
  obtain ⟨t₀, t₁, hevents, hget, hrest⟩ := Prog.implements_cons_iff.mp himplements
  obtain rfl := Prog.run_perform.mp hget
  obtain ⟨tb, tr, rfl, hb, hr⟩ := hrest.append_inv
  obtain ⟨ts, ta, rfl, hsend, ha⟩ := Prog.implements_cons_iff.mp hr
  obtain rfl := implements_quiet hbefore hb
  obtain rfl := implements_quiet hafter ha
  rw [List.singleton_append] at hevents
  obtain ⟨l₀, l, rfl, h₀, hl⟩ := split_of_events_cons hevents
  obtain ⟨lb, lr, rfl, hlb, hlr⟩ := split_of_events_append hl
  obtain ⟨ls, la, rfl, hls, hla⟩ := split_of_events_append hlr
  obtain ⟨v₁, hpath₀, v₁', ⟨hsame, shown, hshown, hshownPid, -, hname⟩, hpath₁⟩ :=
    path_append.mp hpath
  rw [hsame] at hpath₁
  obtain ⟨v₂, hpathb, hpathr⟩ := path_append.mp hpath₁
  obtain ⟨v₃, hpaths, hpatha⟩ := path_append.mp hpathr
  have hidleb := idle_of_contract hlb
  have hdelivered₂ : v₂.delivered = w.delivered := by
    have hidle₀ : processWorld.Idle w l₀ v₁ := ⟨h₀, hpath₀⟩
    rw [(path_idle hidleb hpathb).2, (idle_idle hidle₀).2]
  have hpid : 0 < pid := by
    have hlarge := hsignalable.1
    omega
  have hruns : processWorld.Runs (LinuxSignalProvider.send systemMessage policy pid .kill) v₂ ls r
      v₃ := by
    refine ⟨?_, hpaths⟩
    rw [hls]
    exact hsend
  have hdelivered₃ := (path_idle (idle_of_contract hla) hpatha).2
  rcases send_spec hpid hruns with ⟨hnothing, -⟩ | ⟨l₁, e, l₂, v, target, rfl, haddress, hv, hholds,
    htargetPid, hsignalled⟩
  · left
    rw [hdelivered₃, hnothing, hdelivered₂]
  · refine .inr ⟨shown, target, observed, l₀, lb ++ l₁, e, l₂ ++ la, v₁, v, by simp, hpath₀, hshown,
      hshownPid, hname, ?_, path_append.mpr ⟨v₂, hpathb, hv⟩, haddress, hholds, htargetPid, ?_, ?_⟩
    · rw [events_append, hlb]
      exact agreed_of_confirmed hconfirmed
    · rw [hdelivered₃, hsignalled, hdelivered₂]
    · rw [← hshownPid] at htargetPid ⊢
      refine target_eq_iff hshown hholds htargetPid ?_ (path_append.mpr ⟨v₂, hpathb, hv⟩)
      intro e' he'
      rcases List.mem_append.mp he' with he' | he'
      · exact isOrdinary_of_isIdleCall (hidleb e' he')
      · refine (send_within hpid).run hruns.1 e' (mem_events.mpr ?_)
        simp [he']

end

/-! ## §5 Two runs -/

/-- PID 42 with its current and its past owners. -/
def tableOf (current : Option Nat) (past : List Nat) (h : ∀ s ∈ current, s ∈ past := by decide) :
    Reuse.Table Int Nat where
  holder pid := if pid = 42 then current else none
  used pid s := pid = 42 ∧ s ∈ past
  holder_used pid s hholder := by
    split_ifs at hholder with hpid
    exact ⟨hpid, h s hholder⟩

theorem worker_exits :
    Reuse.Step (tableOf (some 100) [100]) (.release 42) (tableOf none [100]) := by
  refine ⟨by simp [tableOf], rfl, fun other hother => ?_, rfl⟩
  simp [tableOf, hother]

theorem successor_starts :
    Reuse.Step (tableOf none [100]) (.acquire 42 200) (tableOf (some 200) [100, 200]) := by
  refine ⟨rfl, by simp [tableOf], rfl, fun other hother => ?_, fun other s => ?_⟩
  · simp [tableOf, hother]
  · simp only [tableOf, List.mem_cons, List.not_mem_nil, or_false]
    tauto

/-- The process with start time 100 is called `worker`, a later one `sshd`. -/
def nameOf (process : Incarnation) : Bytes := if process.startTime = 100 then "worker" else "sshd"

def worker : Incarnation := ⟨42, 100⟩

def successor : Incarnation := ⟨42, 200⟩

/-- The worker runs and nothing has been signalled. -/
def workerRuns : ProcessState := ⟨tableOf (some 100) [100], nameOf, fun _ => none, []⟩

def workerRecord : Observation ProcessInfo := ⟨{ pid := 42, name := "worker" }, []⟩

def killWorker (policy : LinuxSignalProvider.PidFdPolicy) : Prog Sys Int :=
  (killProcess ⟨1000, none⟩ {} 42).interpret (implement (fun _ => []) policy)

/-- The worker exits while the prompt waits, and its PID is taken by another process. -/
def reusedLog : ProcessLog :=
  [.inr ⟨.contract (.getProcess 42), .ok workerRecord⟩,
    .inr ⟨.contract (.write (killPrompt 42 "worker")), ()⟩,
    .inl (.change (.release 42)), .inl (.change (.acquire 42 200)),
    .inr ⟨.contract .getline, some "y"⟩, .inr ⟨.pidfdOpen 42, .ok 3⟩,
    .inr ⟨.pidfdSendSignal 3 .kill, .ok ()⟩, .inr ⟨.close 3, ()⟩,
    .inr ⟨.contract (.write (sentText "SIGKILL" 42 ⟨42, .kill, .pidFd⟩)), ()⟩]

/-- **The wrong process.** The prompt showed the worker; the process that took its PID over
    is killed. -/
theorem kill_reaches_successor :
    ∃ w', processWorld.Runs (killWorker .auto) workerRuns reusedLog 0 w' ∧
      workerRuns.Holds worker ∧ workerRecord.value.name = workerRuns.name worker ∧
      w'.delivered = [(successor, .kill)] ∧ successor ≠ worker := by
  let afterExit : ProcessState := ⟨tableOf none [100], nameOf, fun _ => none, []⟩
  let reused : ProcessState := ⟨tableOf (some 200) [100, 200], nameOf, fun _ => none, []⟩
  let opened : ProcessState :=
    { reused with handles := Function.update reused.handles 3 (some successor) }
  let signalled : ProcessState := { opened with delivered := [(successor, .kill)] }
  refine ⟨{ signalled with handles := Function.update signalled.handles 3 none }, ⟨?_, ?_⟩, rfl, rfl,
    rfl, by decide⟩
  · exact ⟨_, _, rfl, _, _, rfl, _, _, rfl, _, _, rfl, _, _, rfl, _, _, rfl, _, _, rfl, rfl, rfl⟩
  · exact ⟨workerRuns, ⟨rfl, worker, rfl, rfl, rfl, rfl⟩, workerRuns, rfl, afterExit,
      ⟨worker_exits, rfl, rfl, rfl⟩, reused, ⟨successor_starts, rfl, rfl, rfl⟩, reused, rfl,
      opened, ⟨successor, rfl, rfl, rfl⟩, signalled, ⟨successor, rfl, rfl, rfl⟩, _, rfl, _, rfl, rfl⟩

/-- A kernel without pidfds, and a worker that stays. -/
def fallbackLog : ProcessLog :=
  [.inr ⟨.contract (.getProcess 42), .ok workerRecord⟩,
    .inr ⟨.contract (.write (killPrompt 42 "worker")), ()⟩, .inr ⟨.contract .getline, some "y"⟩,
    .inr ⟨.pidfdOpen 42, .error Errno.enosys⟩, .inr ⟨.kill 42 .kill, .ok ()⟩,
    .inr ⟨.contract (.write (sentText "SIGKILL" 42 ⟨42, .kill, .kill⟩)), ()⟩]

theorem fallbackLog_runs : processWorld.Runs (killWorker .auto) workerRuns fallbackLog 0
    { workerRuns with delivered := [(worker, .kill)] } := by
  constructor
  · exact ⟨_, _, rfl, _, _, rfl, _, _, rfl, _, _, rfl, _, _, rfl, _, _, rfl, rfl, rfl⟩
  · exact ⟨workerRuns, ⟨rfl, worker, rfl, rfl, rfl, rfl⟩, workerRuns, rfl, workerRuns, rfl, workerRuns,
      rfl, { workerRuns with delivered := [(worker, .kill)] }, fun _ => ⟨worker, rfl, rfl, rfl⟩, _, rfl,
      rfl⟩

/-- What the general statement says about this run. -/
theorem kill_signals_worker :
    ∃ (shown target : Incarnation) (observed : Observation ProcessInfo) (l₁ l₂ : ProcessLog)
      (e : Event Sys) (l₃ : ProcessLog) (v₁ v₂ : ProcessState),
      fallbackLog = l₁ ++ .inr ⟨.contract (.getProcess 42), .ok observed⟩ :: (l₂ ++ .inr e :: l₃) ∧
      processWorld.Path workerRuns l₁ v₁ ∧ v₁.Holds shown ∧ shown.pid = 42 ∧
      observed.value.name = v₁.name shown ∧
      Agreed {} 42 observed.value.name (events (W := processWorld) l₂) ∧
      processWorld.Path v₁ l₂ v₂ ∧ Addresses 42 e.1 ∧ v₂.Holds target ∧ target.pid = 42 ∧
      [(worker, ProcessSignal.kill)] = [] ++ [(target, .kill)] ∧
      (target = shown ↔ .inl (.change (.release 42)) ∉ l₂) :=
  (kill_signals_holder fallbackLog_runs).resolve_left (by simp [workerRuns])

end Lx.KillTarget
