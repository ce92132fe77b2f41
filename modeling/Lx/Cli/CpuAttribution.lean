import Lx.Application.DashboardService
import Lx.Application.PortRelease
import Lx.Cli.JsonCommands
import Lx.Lib.Interleaving
import Lx.Lib.Reuse

/-!
# Whose CPU usage is shown

A process is an incarnation: a PID with a start time. Processes exit and PIDs are reused
between any two calls of the providers. The process command observes first and samples
the counters twice afterwards; a refresh of the dashboard samples first, compares with the
sample of an earlier refresh, and lists afterwards. Either way the usage is joined to the
records by PID alone.

`cpu_usage_attributed` says when that join is right: exactly if no PID with a usage was
released between the observation and the sample it was joined with.

## Layers

- the world: `processTable`, on the library's table of reused names
- `command_run`, `Cycle.run`: where the observation and the sample stand in a log
- `command_attributed`, `session_attributed`: the join, once for a command and along a
  whole session of refreshes
-/

namespace Lx.CpuAttribution

open Interaction World

/-! ## §1 Processes that come and go -/

/-- What the providers answer about the processes of the moment. Usage is never part of
    a record, and a sample names the start time of the process it was taken of. -/
def Answers (T : Reuse.Table Int Nat) : (call : Call) → call.Answer → Prop
  | .listProcesses, .ok listed =>
    ∀ record ∈ listed.value, (T.holder record.pid).isSome ∧ record.cpuPercent = none
  | .getProcess pid, .ok observed =>
    observed.value.pid = pid ∧ (T.holder pid).isSome ∧ observed.value.cpuPercent = none
  | .sampleProcesses, .ok samples =>
    ∀ sample ∈ samples, T.holder sample.pid = some sample.startTimeTicks
  | _, _ => True

/-- The process table; the stamps are start times. Calls leave it as it is: a process that
    dies of a signal exits in a move of its own. -/
abbrev processTable : World Contract where
  State := Reuse.Table Int Nat
  Move := Reuse.Change Int Nat
  move := Reuse.Step
  answer T call x T' := T' = T ∧ Answers T call x

variable {T T' : Reuse.Table Int Nat} {log before gap after : processTable.Log} {pid : Int}

theorem path_changes (h : processTable.Path T log T') : Reuse.Changes T (moves log) T' := by
  induction log generalizing T with
  | nil => exact h
  | cons item log ih =>
    cases item with
    | inl change =>
      obtain ⟨v, hstep, hrest⟩ := h
      exact ⟨v, hstep, ih hrest⟩
    | inr e =>
      obtain ⟨v, ⟨rfl, -⟩, hrest⟩ := h
      exact ih hrest

/-- A value is the usage between two samples of the incarnation that started at `start`. -/
def OfIncarnation (previous current : MetricsSnapshot) (pid : Int) (start : Option Nat)
    (percent : Rat) : Prop :=
  ∃ old sample, MetricsService.Compared previous current pid old sample ∧
    percent = MetricsService.usage previous current old sample ∧
    start = some sample.startTimeTicks

/-- Between two moments the holder of a PID is the same exactly if it was not released. -/
theorem holder_eq_iff {start start' : Nat} (hgap : processTable.Path T gap T')
    (hstart : T.holder pid = some start) (hstart' : T'.holder pid = some start') :
    start' = start ↔ .release pid ∉ moves gap := by
  rw [← (path_changes hgap).holder_eq_iff hstart, hstart', Option.some.injEq]

/-! ## §2 The process command -/

open Cli

/-- `lx process` and `lx process PID`. -/
inductive ProcessCommand where
  | list (query : ProcessQuery)
  | inspect (pid : Int)
  deriving DecidableEq, Repr

/-- The processes a command shows; none when it fails. -/
def ProcessCommand.program (hasStatus : Bool) : ProcessCommand → Prog Services (List ProcessInfo)
  | .list query => do
    let observed : Result (Observation (List ProcessInfo)) ← listProcesses hasStatus query
    match observed with
    | .error _ => return []
    | .ok observed => return observed.value
  | .inspect pid => do
    let observed : Result (Observation ProcessInfo) ← inspectProcess hasStatus pid
    match observed with
    | .error _ => return []
    | .ok observed => return [observed.value]

/-- The services behind the command line. `StatusService::measure` waits 250 ms. -/
def serve (processes : ProcessService) (other : (call : ServiceCall) → App call.Answer) :
    (call : ServiceCall) → App call.Answer
  | .listProcesses query => processes.list query
  | .inspectProcess pid => processes.inspect pid
  | .measure => MetricsService.measure 250
  | call => other call

/-- The records an event of the providers brings. -/
def records : Event Contract → List ProcessInfo
  | ⟨.listProcesses, .ok listed⟩ => listed.value
  | ⟨.getProcess _, .ok observed⟩ => [observed.value]
  | _ => []

/-- The exchange of a successful measurement. -/
def measurement (previous current : MetricsSnapshot) : Trace Contract :=
  [⟨.sampleSystem, .ok previous.system⟩, ⟨.sampleProcesses, .ok previous.processes⟩,
    ⟨.wait 250, ()⟩, ⟨.sampleSystem, .ok current.system⟩,
    ⟨.sampleProcesses, .ok current.processes⟩]

theorem measure_measurement (previous current : MetricsSnapshot) :
    (MetricsService.measure 250).Run (measurement previous current)
      (.ok (MetricsService.compare previous current)) :=
  ⟨_, _, rfl, _, _, rfl, _, _, rfl, _, _, rfl, _, _, rfl, rfl, rfl⟩

/-- A process shown before its usage is attached: a record with its unit. -/
def Shows (observation : Event Contract) (process : ProcessInfo) : Prop :=
  ∃ record ∈ records observation, process.pid = record.pid ∧ process.cpuPercent = record.cpuPercent

/-- What follows an observation: nothing was measured, or `attach` is applied to what was
    observed. -/
def Attaches {α : Type} (attach : MetricsView → α → α) (t : Trace Contract) (value value' : α) :
    Prop :=
  (∀ e ∈ t, Call.looksUp e.1 = false) ∧
    (value' = value ∧ (∀ previous current, t ≠ measurement previous current) ∨
      ∃ previous current, t = measurement previous current ∧
        value' = attach (MetricsService.compare previous current) value)

section Command

variable {hasStatus : Bool} {processes : ProcessService}
  {other : (call : ServiceCall) → App call.Answer} {t : Trace Contract}

theorem withCpu_run {α : Type} {attach : MetricsView → α → α} {observed result : Observation α}
    {u : Trace Services} (h : (withCpu hasStatus attach (.ok observed)).Run u (.ok result))
    (himp : Prog.Implements (serve processes other) u t) :
    Attaches attach t observed.value result.value := by
  obtain ⟨metrics, u₁, u₂, hmeasured, hdone, rfl⟩ := Prog.run_bind_iff.mp h
  cases hasStatus with
  | false =>
    obtain ⟨rfl, rfl⟩ := hmeasured
    obtain ⟨rfl, hresult⟩ := hdone
    cases hresult
    obtain rfl := Prog.implements_nil_iff.mp himp
    exact ⟨by simp, .inl ⟨rfl, fun _ _ heq => by cases heq⟩⟩
  | true =>
    obtain ⟨answer, u₃, u₄, hmeasure, ⟨rfl, rfl⟩, rfl⟩ := Prog.run_bind_iff.mp hmeasured
    obtain rfl := Prog.run_perform.mp hmeasure
    have hu₂ : u₂ = [] := by cases answer <;> exact hdone.1
    obtain rfl := hu₂
    obtain ⟨t₁, t₂, rfl, hrun, hnil⟩ := Prog.implements_cons_iff.mp himp
    obtain rfl := Prog.implements_nil_iff.mp hnil
    rw [List.append_nil]
    refine ⟨(MetricsService.measure_within (P := (Call.looksUp · = false)) rfl rfl rfl).run hrun, ?_⟩
    cases answer with
    | error error =>
      cases hdone.2
      refine .inl ⟨rfl, fun previous current heq => ?_⟩
      -- the same exchange cannot both fail and succeed
      have hok := measure_measurement previous current
      rw [← heq] at hok
      cases Prog.Run.unique hrun hok
    | ok metrics =>
      cases hdone.2
      obtain ⟨previous, current, rfl, rfl⟩ := MetricsService.measure_run_ok hrun
      exact .inr ⟨previous, current, rfl, rfl⟩

theorem shows_listed {listed : Observation (List ProcessInfo)} {process : ProcessInfo}
    (h : ProcessService.FromListed listed.value process) :
    Shows ⟨.listProcesses, .ok listed⟩ process := by
  obtain ⟨record, hrecord, heq⟩ := h
  exact ⟨record, hrecord, by rw [heq], by rw [heq]⟩

/-- What a command asks, and what it shows of the answers. -/
theorem command_run {command : ProcessCommand} {shown : List ProcessInfo}
    (h : ((command.program hasStatus).interpret (serve processes other)).Run t shown) :
    shown = [] ∨ ∃ observation lookups u base, t = observation :: (lookups ++ u) ∧
      ProcessService.LooksUp lookups ∧ (∀ process ∈ base, Shows observation process) ∧
      Attaches (fun metrics => List.map (attachCpu metrics)) u base shown := by
  obtain ⟨w, hrun, himp⟩ := Prog.run_interpret_iff.mp h
  cases command with
  | list query =>
    obtain ⟨result, w₁, w₂, hlist, hdone, rfl⟩ := Prog.run_bind_iff.mp hrun
    cases result with
    | error error => exact .inl hdone.2
    | ok result =>
      obtain ⟨rfl, rfl⟩ := hdone
      obtain ⟨answer, w₃, w₄, hask, hcpu, rfl⟩ := Prog.run_bind_iff.mp hlist
      obtain rfl := Prog.run_perform.mp hask
      rw [List.append_nil] at himp
      obtain ⟨t₁, u, rfl, hserve, hmeasure⟩ := Prog.implements_cons_iff.mp himp
      cases answer with
      | error error => cases hcpu.2
      | ok base =>
        rcases ProcessService.list_run hserve with ⟨error, hcontra, -⟩ |
          ⟨listed, lookups, rfl, hlookups, hbase⟩
        · cases hcontra
        · refine .inr ⟨_, lookups, u, base.value, rfl, hlookups, fun process hprocess => ?_,
            withCpu_run hcpu hmeasure⟩
          exact shows_listed (hbase base rfl process hprocess)
  | inspect pid =>
    obtain ⟨result, w₁, w₂, hinspect, hdone, rfl⟩ := Prog.run_bind_iff.mp hrun
    cases result with
    | error error => exact .inl hdone.2
    | ok result =>
      obtain ⟨rfl, rfl⟩ := hdone
      obtain ⟨answer, w₃, w₄, hask, hcpu, rfl⟩ := Prog.run_bind_iff.mp hinspect
      obtain rfl := Prog.run_perform.mp hask
      rw [List.append_nil] at himp
      obtain ⟨t₁, u, rfl, hserve, hmeasure⟩ := Prog.implements_cons_iff.mp himp
      cases answer with
      | error error => cases hcpu.2
      | ok base =>
        obtain ⟨observed, lookups, rfl, hlookups, systemdUnit, hvalue⟩ :=
          ProcessService.inspect_run_ok hserve
        have hattaches := withCpu_run hcpu hmeasure
        refine .inr ⟨_, lookups, u, [base.value], rfl, hlookups, ?_, hattaches.1, ?_⟩
        · intro process hprocess
          obtain rfl := List.mem_singleton.mp hprocess
          exact ⟨observed.value, by simp [records], by rw [hvalue], by rw [hvalue]⟩
        · rcases hattaches.2 with ⟨heq, hnone⟩ | ⟨previous, current, hu, heq⟩
          · exact .inl ⟨by rw [heq], hnone⟩
          · exact .inr ⟨previous, current, hu, by rw [heq]; rfl⟩

/-- Where the observation and the second sample of a command stand in its log. -/
structure Measured (log before gap after : processTable.Log) (observation : Event Contract)
    (previous current : MetricsSnapshot) : Prop where
  log_eq : log = before ++ .inr observation ::
    (gap ++ .inr ⟨.sampleProcesses, .ok current.processes⟩ :: after)
  events_before : events before = []
  events_gap : ∃ lookups, ProcessService.LooksUp lookups ∧
    events gap ++ [⟨.sampleProcesses, .ok current.processes⟩] =
      lookups ++ measurement previous current
  events_after : events after = []

theorem filter_lookups {lookups u : Trace Contract} (hlookups : ProcessService.LooksUp lookups)
    (hu : ∀ e ∈ u, Call.looksUp e.1 = false) :
    (lookups ++ u).filter (fun e => !Call.looksUp e.1) = u := by
  have hnone : lookups.filter (fun e => !Call.looksUp e.1) = [] := by
    refine List.filter_eq_nil_iff.mpr fun e he => ?_
    obtain ⟨pid, hcall⟩ := hlookups e he
    simp [hcall, Call.looksUp]
  have hall : u.filter (fun e => !Call.looksUp e.1) = u :=
    List.filter_eq_self.mpr fun e he => by simp [hu e he]
  rw [List.filter_append, hnone, hall, List.nil_append]

theorem measurement_not_lookup (previous current : MetricsSnapshot) :
    ∀ e ∈ measurement previous current, Call.looksUp e.1 = false := by
  simp [measurement, Call.looksUp]

theorem Measured.events_log {observation : Event Contract} {previous current : MetricsSnapshot}
    (h : Measured log before gap after observation previous current) :
    ∃ lookups, ProcessService.LooksUp lookups ∧
      events log = observation :: (lookups ++ measurement previous current) := by
  obtain ⟨lookups, hlookups, hgap⟩ := h.events_gap
  refine ⟨lookups, hlookups, ?_⟩
  rw [h.log_eq, ← hgap, events_append, events_cons_inr, events_append, events_cons_inr,
    h.events_before, h.events_after, List.nil_append]

theorem measurement_injective {previous current previous' current' : MetricsSnapshot}
    (h : measurement previous current = measurement previous' current') :
    previous = previous' ∧ current = current' := by
  simp only [measurement, List.cons.injEq, true_and, and_true] at h
  obtain ⟨h₁, h₂, h₃, h₄⟩ := h
  cases previous
  cases current
  cases h₁
  cases h₂
  cases h₃
  cases h₄
  exact ⟨rfl, rfl⟩

/-- A log is read in one way only. -/
theorem Measured.unique {before' gap' after' : processTable.Log}
    {observation observation' : Event Contract}
    {previous current previous' current' : MetricsSnapshot}
    (h : Measured log before gap after observation previous current)
    (h' : Measured log before' gap' after' observation' previous' current') :
    before = before' ∧ observation = observation' ∧ gap = gap' ∧ previous = previous' ∧
      current = current' := by
  obtain ⟨lookups, hlookups, hevents⟩ := h.events_log
  obtain ⟨lookups', hlookups', hevents'⟩ := h'.events_log
  obtain ⟨-, hrest⟩ := List.cons.inj (hevents.symm.trans hevents')
  -- the measurements are what is left without the lookups
  have hmeasurement : measurement previous current = measurement previous' current' := by
    rw [← filter_lookups hlookups (measurement_not_lookup previous current), hrest,
      filter_lookups hlookups' (measurement_not_lookup previous' current')]
  obtain ⟨rfl, rfl⟩ := measurement_injective hmeasurement
  obtain ⟨rfl, rfl, htail⟩ := split_event_unique (h.log_eq.symm.trans h'.log_eq)
    (by rw [h.events_before, h'.events_before])
  have hlength : (events gap).length = (events gap').length := by
    have htail_length := congrArg (fun l => (events l).length) htail
    dsimp only at htail_length
    rw [events_append, events_cons_inr, h.events_after, events_append, events_cons_inr,
      h'.events_after] at htail_length
    simpa using htail_length
  obtain ⟨rfl, -, -⟩ := split_event_unique htail hlength
  exact ⟨rfl, rfl, rfl, rfl, rfl⟩

/-- The value shown for a process is the usage of the incarnation that held its PID when
    the command observed it. -/
def CommandAttributed (T : Reuse.Table Int Nat) (log : processTable.Log) (process : ProcessInfo)
    (percent : Rat) : Prop :=
  ∃ (before gap after : processTable.Log) (observation : Event Contract)
    (previous current : MetricsSnapshot) (T' : Reuse.Table Int Nat),
    Measured log before gap after observation previous current ∧ processTable.Path T before T' ∧
      OfIncarnation previous current process.pid (T'.holder process.pid) percent

/-- No process with a usage released its PID between the observation and the second sample. -/
def CommandUndisturbed (log : processTable.Log) (shown : List ProcessInfo) : Prop :=
  ∀ before gap after observation previous current,
    Measured log before gap after observation previous current →
    ∀ process ∈ shown, MetricsService.Comparable previous current process.pid →
      .release process.pid ∉ moves gap

theorem shows_answers {observation : Event Contract} {process : ProcessInfo}
    (hanswers : Answers T observation.1 observation.2) (h : Shows observation process) :
    (∃ start, T.holder process.pid = some start) ∧ process.cpuPercent = none := by
  obtain ⟨record, hrecord, hpid, hcpu⟩ := h
  rw [hpid, hcpu]
  obtain ⟨call, x⟩ := observation
  cases call
  case listProcesses =>
    cases x with
    | error error => cases hrecord
    | ok listed =>
      obtain ⟨hholder, hnone⟩ := hanswers record hrecord
      exact ⟨Option.isSome_iff_exists.mp hholder, hnone⟩
  case getProcess =>
    cases x with
    | error error => cases hrecord
    | ok observed =>
      obtain rfl := List.mem_singleton.mp hrecord
      obtain ⟨rfl, hholder, hnone⟩ := hanswers
      exact ⟨Option.isSome_iff_exists.mp hholder, hnone⟩
  all_goals cases hrecord

/-- A sample names the holder of the moment. -/
theorem compared_holder {previous current : MetricsSnapshot} {old sample : ProcessCpuSample}
    (hanswers : Answers T .sampleProcesses (.ok current.processes))
    (h : MetricsService.Compared previous current pid old sample) :
    T.holder pid = some sample.startTimeTicks := by
  rw [← h.pid_process]
  exact hanswers sample h.mem_current

/-- The usage a command attaches to a process that had none. -/
theorem attachCpu_cpuPercent {metrics : MetricsView} {process : ProcessInfo}
    (hnone : process.cpuPercent = none) :
    (attachCpu metrics process).cpuPercent = metrics.processCpuPercent.lookup process.pid := by
  unfold attachCpu
  cases metrics.processCpuPercent.lookup process.pid with
  | none => exact hnone
  | some percent => rfl

theorem attachCpu_pid (metrics : MetricsView) (process : ProcessInfo) :
    (attachCpu metrics process).pid = process.pid := by
  unfold attachCpu
  split <;> rfl

/-- **The process command** shows the usage of the processes it observed exactly if none of
    them lost its PID before the second sample. -/
theorem command_attributed {command : ProcessCommand} {shown : List ProcessInfo}
    (h : processTable.Runs ((command.program hasStatus).interpret (serve processes other))
      T log shown T') :
    (∀ process ∈ shown, ∀ percent, process.cpuPercent = some percent →
      CommandAttributed T log process percent) ↔ CommandUndisturbed log shown := by
  obtain ⟨hrun, hpath⟩ := h
  rcases command_run hrun with rfl | ⟨observation, lookups, u, base, hevents, hlookups, hbase, hu,
    hattaches⟩
  · simp [CommandUndisturbed]
  obtain ⟨before, tail, rfl, hbefore, htail⟩ := split_of_events_cons hevents
  obtain ⟨T₁, hpath₁, T₂, ⟨rfl, hanswers⟩, hpath₂⟩ := path_append.mp hpath
  have hshows := fun process hprocess => shows_answers hanswers (hbase process hprocess)
  rcases hattaches with ⟨rfl, hunmeasured⟩ | ⟨previous, current, rfl, rfl⟩
  · -- nothing was measured, so nothing is shown and nothing can be disturbed
    constructor
    · intro _ before' gap after' observation' previous current hmeasured
      obtain ⟨lookups', hlookups', hevents'⟩ := hmeasured.events_log
      obtain ⟨-, hrest⟩ := List.cons.inj (hevents.symm.trans hevents')
      refine absurd ?_ (hunmeasured previous current)
      rw [← filter_lookups hlookups hu, hrest,
        filter_lookups hlookups' (measurement_not_lookup previous current)]
    · intro _ process hprocess percent hpercent
      rw [(hshows process hprocess).2] at hpercent
      cases hpercent
  · -- the second sample is the last event
    have hlast : events tail = (lookups ++ (measurement previous current).dropLast) ++
        [⟨.sampleProcesses, .ok current.processes⟩] := by
      rw [htail, List.append_assoc]
      rfl
    obtain ⟨gap', l, rfl, hgap', hl⟩ := split_of_events_append hlast
    obtain ⟨moved, after, rfl, hmoved, hafter⟩ := split_of_events_cons hl
    have hmeasured : Measured (before ++ .inr observation ::
        (gap' ++ (moved ++ .inr ⟨.sampleProcesses, .ok current.processes⟩ :: after)))
        before (gap' ++ moved) after observation previous current :=
      { log_eq := by rw [List.append_assoc]
        events_before := hbefore
        events_gap := by
          refine ⟨lookups, hlookups, ?_⟩
          rw [events_append, hgap', hmoved, List.append_nil, List.append_assoc]
          rfl
        events_after := hafter }
    rw [← List.append_assoc] at hpath₂
    obtain ⟨T₃, hgap, T₄, ⟨rfl, hsample⟩, -⟩ := path_append.mp hpath₂
    -- the holder at the observation is the one that was sampled, unless the PID was released
    have hkey : ∀ process ∈ base, ∀ old sample,
        MetricsService.Compared previous current process.pid old sample →
        (T₂.holder process.pid = some sample.startTimeTicks ↔
          .release process.pid ∉ moves (gap' ++ moved)) := by
      intro process hprocess old sample hcompared
      obtain ⟨⟨start, hstart⟩, -⟩ := hshows process hprocess
      rw [← holder_eq_iff hgap hstart (compared_holder hsample hcompared), hstart,
        Option.some.injEq, eq_comm]
    constructor
    · intro hattributed before' gap after' observation' previous' current' hmeasured' _ hshown
        hcomparable
      obtain ⟨rfl, rfl, rfl, rfl, rfl⟩ := hmeasured.unique hmeasured'
      obtain ⟨process, hprocess, rfl⟩ := List.mem_map.mp hshown
      rw [attachCpu_pid] at hcomparable ⊢
      obtain ⟨percent, hpercent⟩ := Option.isSome_iff_exists.mp
        (MetricsService.lookup_compare_isSome_iff.mpr hcomparable)
      obtain ⟨_, _, _, _, _, _, T₅, hmeasured₅, hpath₅, old, sample, hcompared, -, hholder⟩ :=
        hattributed _ hshown percent
          ((attachCpu_cpuPercent (hshows process hprocess).2).trans hpercent)
      obtain ⟨rfl, rfl, rfl, rfl, rfl⟩ := hmeasured.unique hmeasured₅
      rw [attachCpu_pid] at hcompared hholder
      refine (hkey process hprocess old sample hcompared).mp ?_
      rw [← hholder, (path_changes hpath₁).holder_unique (path_changes hpath₅) rfl]
    · intro hundisturbed _ hshown percent hpercent
      have hreleased := hundisturbed _ _ _ _ _ _ hmeasured _ hshown
      obtain ⟨process, hprocess, rfl⟩ := List.mem_map.mp hshown
      rw [attachCpu_cpuPercent (hshows process hprocess).2] at hpercent
      obtain ⟨old, sample, hcompared, rfl⟩ := MetricsService.compared_of_lookup hpercent
      rw [attachCpu_pid] at hreleased
      refine ⟨_, _, _, _, _, _, T₂, hmeasured, hpath₁, old, sample, ?_, rfl, ?_⟩
      · rw [attachCpu_pid]
        exact hcompared
      · rw [attachCpu_pid]
        exact (hkey process hprocess old sample hcompared).mpr (hreleased ⟨old, sample, hcompared⟩)

end Command

/-! ## §3 Refreshes of the dashboard -/

/-- One refresh in a session, with the state of the service and of the process table before
    it. -/
structure Cycle where
  start : DashboardService
  table : Reuse.Table Int Nat
  now : Int
  log : processTable.Log
  snapshot : DashboardSnapshot

/-- Refreshes one after the other. -/
def Session : DashboardService → Reuse.Table Int Nat → List Cycle → Prop
  | _, _, [] => True
  | self, T, cycle :: rest => cycle.start = self ∧ cycle.table = T ∧ ∃ self' T',
      processTable.Runs (self.refreshAt cycle.now) T cycle.log (cycle.snapshot, self') T' ∧
        Session self' T' rest

/-- Where the sample and the listing of a refresh stand in its log. -/
structure Joined (log before gap after : processTable.Log) (current : MetricsSnapshot)
    (listed : Observation (List ProcessInfo)) : Prop where
  log_eq : log = before ++ .inr ⟨.sampleProcesses, .ok current.processes⟩ ::
    (gap ++ .inr ⟨.listProcesses, .ok listed⟩ :: after)
  events_before : ∃ capturedAt,
    events before = [⟨.systemNow, capturedAt⟩, ⟨.sampleSystem, .ok current.system⟩]
  events_gap : events gap = []

/-- The processes were listed in this refresh. -/
def Lists (log : processTable.Log) : Prop := ∃ listed, ⟨.listProcesses, .ok listed⟩ ∈ events log

/-- A log is read in one way only. -/
theorem Joined.unique {before' gap' after' : processTable.Log} {current current' : MetricsSnapshot}
    {listed listed' : Observation (List ProcessInfo)} (h : Joined log before gap after current listed)
    (h' : Joined log before' gap' after' current' listed') :
    before = before' ∧ gap = gap' ∧ current = current' ∧ listed = listed' := by
  obtain ⟨capturedAt, hbefore⟩ := h.events_before
  obtain ⟨capturedAt', hbefore'⟩ := h'.events_before
  obtain ⟨rfl, hsample, htail⟩ := split_event_unique (h.log_eq.symm.trans h'.log_eq)
    (by rw [hbefore, hbefore']; rfl)
  obtain ⟨rfl, hlisting, -⟩ := split_event_unique htail (by rw [h.events_gap, h'.events_gap])
  have hsystem := hbefore.symm.trans hbefore'
  simp only [List.cons.injEq, and_true] at hsystem
  obtain ⟨-, hsystem⟩ := hsystem
  cases current
  cases hsample
  cases hlisting
  cases hsystem
  exact ⟨rfl, rfl, rfl, rfl⟩

theorem Joined.lists {current : MetricsSnapshot} {listed : Observation (List ProcessInfo)}
    (h : Joined log before gap after current listed) : Lists log := by
  refine ⟨listed, ?_⟩
  rw [h.log_eq, events_append, events_cons_inr, events_append, events_cons_inr]
  simp

theorem Joined.events_log {current : MetricsSnapshot} {listed : Observation (List ProcessInfo)}
    (h : Joined log before gap after current listed) :
    ∃ capturedAt rest, events log = ⟨.systemNow, capturedAt⟩ :: ⟨.sampleSystem, .ok current.system⟩ ::
      ⟨.sampleProcesses, .ok current.processes⟩ :: ⟨.listProcesses, .ok listed⟩ :: rest := by
  obtain ⟨capturedAt, hbefore⟩ := h.events_before
  refine ⟨capturedAt, events after, ?_⟩
  rw [h.log_eq, events_append, events_cons_inr, events_append, events_cons_inr, hbefore, h.events_gap]
  rfl

/-- The sample and the listing of a refresh are found in its log. -/
theorem exists_joined {capturedAt : Int} {current : MetricsSnapshot}
    {listed : Observation (List ProcessInfo)} {rest : Trace Contract}
    (h : events log = ⟨.systemNow, capturedAt⟩ :: ⟨.sampleSystem, .ok current.system⟩ ::
      ⟨.sampleProcesses, .ok current.processes⟩ :: ⟨.listProcesses, .ok listed⟩ :: rest) :
    ∃ before gap after, Joined log before gap after current listed := by
  have hsplit : events log = [⟨Call.systemNow, capturedAt⟩,
      ⟨Call.sampleSystem, .ok current.system⟩] ++
      ⟨.sampleProcesses, .ok current.processes⟩ :: ⟨.listProcesses, .ok listed⟩ :: rest := h
  obtain ⟨l₁, l₂, rfl, h₁, h₂⟩ := split_of_events_append hsplit
  obtain ⟨l₃, l₄, rfl, h₃, h₄⟩ := split_of_events_cons h₂
  obtain ⟨gap, after, rfl, hgap, -⟩ := split_of_events_cons h₄
  refine ⟨l₁ ++ l₃, gap, after, ?_, ⟨capturedAt, ?_⟩, hgap⟩
  · rw [List.append_assoc]
  · rw [events_append, h₁, h₃, List.append_nil]

section Asked

variable {self : DashboardService} {now : Int} {fetched : DashboardService.Fetched}
  {tm tp tq ts : Trace Contract}

/-- Only the process list itself lists processes. -/
theorem asked_lists (hasked : self.Asked now (events log) fetched tm tp tq ts)
    {listed : Observation (List ProcessInfo)} (hlisted : ⟨.listProcesses, .ok listed⟩ ∈ events log) :
    ⟨.listProcesses, .ok listed⟩ ∈ tp := by
  simp only [hasked.trace, List.append_assoc, List.mem_cons, List.mem_append] at hlisted
  rcases hlisted with hclock | hmetrics | hprocesses | hports | hservices
  · cases hclock
  · have hearlier := (MetricsService.capture_within (P := (· ≠ .listProcesses)) (by decide)
      (by decide)).run hasked.metrics
    exact absurd rfl (hearlier _ hmetrics)
  · exact hprocesses
  · -- an inspection of ports looks up single processes
    have hlooks := (PortService.inspect_inspects {}).run hasked.ports _ hports
    cases hlooks
  · rcases hasked.services with ⟨-, rfl, -⟩ | ⟨services, -, rfl, -⟩
    · cases hservices
    · cases List.mem_singleton.mp hservices

/-- Without a sample there is nothing to join the listing with. -/
theorem asked_not_joined (hasked : self.Asked now (events log) fetched tm tp tq ts) {error : Error}
    (hfailed : fetched.metrics = .error error) {before gap after : processTable.Log}
    {current : MetricsSnapshot} {listed : Observation (List ProcessInfo)} :
    ¬ Joined log before gap after current listed := by
  intro hjoined
  obtain ⟨capturedAt, rest, hevents⟩ := hjoined.events_log
  rw [hasked.trace] at hevents
  obtain ⟨-, hevents⟩ := List.cons.inj hevents
  rcases MetricsService.capture_run hasked.metrics with ⟨_, -, rfl | ⟨system, rfl⟩⟩ |
    ⟨_, hok, -⟩
  · obtain ⟨hcontra, -⟩ := List.cons.inj hevents
    cases hcontra
  · obtain ⟨-, hevents⟩ := List.cons.inj hevents
    obtain ⟨hcontra, -⟩ := List.cons.inj hevents
    cases hcontra
  · rw [hfailed] at hok
    cases hok

end Asked

/-- What a refresh asked, and what it shows of the answers. -/
theorem cycle_run {self self' : DashboardService} {now : Int} {snapshot : DashboardSnapshot}
    (h : (self.refreshAt now).Run (events log) (snapshot, self')) :
    self'.previous_ = some snapshot ∧
    (¬ Lists log ∧ snapshot.processes = (self.previous_.getD {}).processes ∨
    ∃ listed base, ⟨.listProcesses, .ok listed⟩ ∈ events log ∧
      (∀ process ∈ base, Shows ⟨.listProcesses, .ok listed⟩ process) ∧
      ((∀ before gap after current listed, ¬ Joined log before gap after current listed) ∧
        snapshot.processes = base ∨
      ∃ before gap after current, Joined log before gap after current listed ∧
        snapshot.processes = base.map (DashboardService.attachCpu
          (MetricsService.compare (self.previousMetrics_.getD current) current)))) := by
  obtain ⟨fetched, tm, tp, tq, ts, hasked, rfl, rfl⟩ := DashboardService.refreshAt_run h
  refine ⟨rfl, ?_⟩
  rcases ProcessService.list_all_run hasked.processes with ⟨error, herror, rfl⟩ |
    ⟨listed, result, lookups, hresult, rfl, hlookups, hbase⟩
  · left
    constructor
    · rintro ⟨listed, hlisted⟩
      cases List.mem_singleton.mp (asked_lists hasked hlisted)
    · rw [DashboardService.snapshot_processes, herror]
  · right
    have hmem : ⟨.listProcesses, .ok listed⟩ ∈ events log := by
      rw [hasked.trace]
      simp
    refine ⟨listed, result.value, hmem, fun process hprocess =>
      shows_listed (hbase process hprocess), ?_⟩
    rw [DashboardService.snapshot_processes, hresult]
    -- values are attached exactly if the metrics of this refresh were captured
    rcases MetricsService.capture_run hasked.metrics with ⟨error, hfailed, -⟩ | ⟨current, hcurrent, rfl⟩
    · left
      refine ⟨fun _ _ _ _ _ => asked_not_joined hasked hfailed, ?_⟩
      rw [hfailed]
      rfl
    · right
      have hsplit : events log = ⟨.systemNow, fetched.capturedAt⟩ ::
          ⟨.sampleSystem, .ok current.system⟩ :: ⟨.sampleProcesses, .ok current.processes⟩ ::
          ⟨.listProcesses, .ok listed⟩ :: (lookups ++ tq ++ ts) := by
        rw [hasked.trace]
        simp
      obtain ⟨before, gap, after, hjoined⟩ := exists_joined hsplit
      exact ⟨before, gap, after, current, hjoined, by rw [hcurrent]; rfl⟩

/-- The value a refresh shows for a process is the usage of the incarnation that held its
    PID when the refresh listed it. -/
def Cycle.Attributed (cycle : Cycle) (process : ProcessInfo) (percent : Rat) : Prop :=
  ∃ (before gap after : processTable.Log) (current : MetricsSnapshot)
    (listed : Observation (List ProcessInfo)) (T' : Reuse.Table Int Nat),
    Joined cycle.log before gap after current listed ∧
    processTable.Path cycle.table
      (before ++ .inr ⟨.sampleProcesses, .ok current.processes⟩ :: gap) T' ∧
    OfIncarnation (cycle.start.previousMetrics_.getD current) current process.pid
      (T'.holder process.pid) percent

/-- No process with a usage released its PID between the sample and the listing. -/
def Cycle.Undisturbed (cycle : Cycle) : Prop :=
  ∀ before gap after current listed, Joined cycle.log before gap after current listed →
    ∀ process ∈ cycle.snapshot.processes,
      MetricsService.Comparable (cycle.start.previousMetrics_.getD current) current process.pid →
      .release process.pid ∉ moves gap

theorem cycle_attributed {cycle : Cycle} {self' : DashboardService}
    (h : processTable.Runs (cycle.start.refreshAt cycle.now) cycle.table cycle.log
      (cycle.snapshot, self') T') (hlists : Lists cycle.log) :
    (∀ process ∈ cycle.snapshot.processes, ∀ percent, process.cpuPercent = some percent →
      cycle.Attributed process percent) ↔ cycle.Undisturbed := by
  obtain ⟨hrun, hpath⟩ := h
  obtain ⟨-, ⟨hnot, -⟩ | ⟨listed, base, hmem, hbase, hshown⟩⟩ := cycle_run hrun
  · exact absurd hlists hnot
  rcases hshown with ⟨hunjoined, hshown⟩ | ⟨before, gap, after, current, hjoined, hshown⟩
  · -- without a sample there is no usage
    constructor
    · intro _ before gap after current listed hjoined
      exact absurd hjoined (hunjoined before gap after current listed)
    · intro _ process hprocess percent hpercent
      rw [hshown] at hprocess
      obtain ⟨l₁, l₂, hlog⟩ := List.append_of_mem (mem_events.mp hmem)
      rw [hlog] at hpath
      obtain ⟨T₁, -, T₂, ⟨rfl, hanswers⟩, -⟩ := path_append.mp hpath
      rw [(shows_answers hanswers (hbase process hprocess)).2] at hpercent
      cases hpercent
  · rw [hjoined.log_eq] at hpath
    obtain ⟨T₁, hpath₁, T₂, ⟨rfl, hsample⟩, hpath₂⟩ := path_append.mp hpath
    obtain ⟨T₃, hgap, T₄, ⟨rfl, hanswers⟩, -⟩ := path_append.mp hpath₂
    have hlisting : processTable.Path cycle.table
        (before ++ .inr ⟨.sampleProcesses, .ok current.processes⟩ :: gap) T₄ :=
      path_append.mpr ⟨T₂, hpath₁, T₂, ⟨rfl, hsample⟩, hgap⟩
    -- the holder at the listing is the one that was sampled, unless the PID was released
    have hkey : ∀ process ∈ base, ∀ old sample, MetricsService.Compared
        (cycle.start.previousMetrics_.getD current) current process.pid old sample →
        (T₄.holder process.pid = some sample.startTimeTicks ↔
          .release process.pid ∉ moves gap) := by
      intro process hprocess old sample hcompared
      obtain ⟨⟨start, hstart⟩, -⟩ := shows_answers hanswers (hbase process hprocess)
      rw [← holder_eq_iff hgap (compared_holder hsample hcompared) hstart, hstart,
        Option.some.injEq]
    constructor
    · intro hattributed before' gap' after' current' listed' hjoined' _ hprocess hcomparable
      obtain ⟨rfl, rfl, rfl, rfl⟩ := hjoined.unique hjoined'
      obtain ⟨percent, hpercent⟩ := Option.isSome_iff_exists.mp
        (MetricsService.lookup_compare_isSome_iff.mpr hcomparable)
      have hshows := hprocess
      rw [hshown] at hshows
      obtain ⟨process, hbase, rfl⟩ := List.mem_map.mp hshows
      obtain ⟨_, _, _, _, _, T₅, hjoined₅, hpath₅, old, sample, hcompared, -, hholder⟩ :=
        hattributed _ hprocess percent hpercent
      obtain ⟨rfl, rfl, rfl, rfl⟩ := hjoined.unique hjoined₅
      refine (hkey process hbase old sample hcompared).mp ?_
      rw [(path_changes hlisting).holder_unique (path_changes hpath₅) rfl]
      exact hholder
    · intro hundisturbed _ hprocess percent hpercent
      have hreleased := hundisturbed _ _ _ _ _ hjoined _ hprocess
      have hshows := hprocess
      rw [hshown] at hshows
      obtain ⟨process, hbase, rfl⟩ := List.mem_map.mp hshows
      obtain ⟨old, sample, hcompared, rfl⟩ := MetricsService.compared_of_lookup hpercent
      exact ⟨_, _, _, _, _, T₄, hjoined, hlisting, old, sample, hcompared, rfl,
        (hkey process hbase old sample hcompared).mpr (hreleased ⟨old, sample, hcompared⟩)⟩

/-! ## §4 Sessions -/

/-- A snapshot shows the listing of the last refresh that got one. -/
def Carried (cycles : List Cycle) (process : ProcessInfo) (percent : Rat) : Prop :=
  ∃ earlier origin later, cycles = earlier ++ origin :: later ∧
    (∀ cycle ∈ later, ¬ Lists cycle.log) ∧ origin.Attributed process percent

theorem session_cycle {self : DashboardService} {past rest : List Cycle} {cycle : Cycle}
    (h : Session self T (past ++ cycle :: rest)) :
    ∃ self' T', processTable.Runs (cycle.start.refreshAt cycle.now) cycle.table cycle.log
      (cycle.snapshot, self') T' := by
  induction past generalizing self T with
  | nil =>
    obtain ⟨rfl, rfl, self', T', hruns, -⟩ := h
    exact ⟨self', T', hruns⟩
  | cons first past ih =>
    obtain ⟨-, -, self', T', -, hrest⟩ := h
    exact ih hrest

/-- One refresh: what is shown is carried over, or was listed by it. -/
theorem carried_step {past : List Cycle} {cycle : Cycle} {self' : DashboardService}
    (h : processTable.Runs (cycle.start.refreshAt cycle.now) cycle.table cycle.log
      (cycle.snapshot, self') T') (hundisturbed : cycle.Undisturbed)
    (hpast : ∀ process ∈ (cycle.start.previous_.getD {}).processes, ∀ percent,
      process.cpuPercent = some percent → Carried past process percent) :
    ∀ process ∈ cycle.snapshot.processes, ∀ percent, process.cpuPercent = some percent →
      Carried (past ++ [cycle]) process percent := by
  intro process hprocess percent hpercent
  by_cases hlists : Lists cycle.log
  · exact ⟨past, cycle, [], rfl, by simp,
      (cycle_attributed h hlists).mpr hundisturbed process hprocess percent hpercent⟩
  · -- the list is the one of an earlier refresh, with its values
    obtain ⟨-, ⟨-, hstale⟩ | ⟨listed, _, hmem, -⟩⟩ := cycle_run h.1
    · rw [hstale] at hprocess
      obtain ⟨earlier, origin, later, rfl, hlater, hattributed⟩ :=
        hpast process hprocess percent hpercent
      refine ⟨earlier, origin, later ++ [cycle], by simp, fun c hc => ?_, hattributed⟩
      rcases List.mem_append.mp hc with hc | hc
      · exact hlater c hc
      · rw [List.mem_singleton.mp hc]
        exact hlists
    · exact absurd ⟨listed, hmem⟩ hlists

/-- Along a session of undisturbed refreshes every usage shown is carried from a listing
    it was attributed in. -/
theorem carried_run {self : DashboardService} {past cycles : List Cycle}
    (h : Session self T cycles) (hundisturbed : ∀ cycle ∈ cycles, cycle.Undisturbed)
    (hpast : ∀ process ∈ (self.previous_.getD {}).processes, ∀ percent,
      process.cpuPercent = some percent → Carried past process percent)
    (before : List Cycle) (cycle : Cycle) (rest : List Cycle)
    (heq : cycles = before ++ cycle :: rest) :
    ∀ process ∈ cycle.snapshot.processes, ∀ percent, process.cpuPercent = some percent →
      Carried (past ++ before ++ [cycle]) process percent := by
  induction cycles generalizing self T past before with
  | nil => simp at heq
  | cons first cycles ih =>
    obtain ⟨rfl, rfl, self', T', hruns, hrest⟩ := h
    -- what the first refresh shows is what the others may carry over
    have hfirst := carried_step hruns (hundisturbed first (by simp)) hpast
    cases before with
    | nil =>
      obtain ⟨rfl, rfl⟩ := List.cons.inj heq
      rw [List.append_nil]
      exact hfirst
    | cons _ before =>
      obtain ⟨rfl, rfl⟩ := List.cons.inj heq
      have hprevious := (cycle_run hruns.1).1
      have htail := ih hrest (fun c hc => hundisturbed c (List.mem_cons_of_mem _ hc))
        (by rw [hprevious]; exact hfirst) before rfl
      simpa using htail

/-- **Sessions of the dashboard** show the usage of the processes they list exactly if no
    listed process lost its PID between a sample and the listing that followed. -/
theorem session_attributed {processes : ProcessService} {ports : PortService} {cycles : List Cycle}
    (h : Session (.fresh processes ports) T cycles) :
    (∀ past cycle rest, cycles = past ++ cycle :: rest → ∀ process ∈ cycle.snapshot.processes,
      ∀ percent, process.cpuPercent = some percent → Carried (past ++ [cycle]) process percent) ↔
    ∀ cycle ∈ cycles, cycle.Undisturbed := by
  constructor
  · intro hcarried cycle hcycle
    obtain ⟨past, rest, rfl⟩ := List.append_of_mem hcycle
    obtain ⟨self', T', hruns⟩ := session_cycle h
    by_cases hlists : Lists cycle.log
    · refine (cycle_attributed hruns hlists).mp fun process hprocess percent hpercent => ?_
      obtain ⟨earlier, origin, later, heq, hlater, hattributed⟩ :=
        hcarried past cycle rest rfl process hprocess percent hpercent
      -- this refresh listed, so nothing older is shown
      rcases List.eq_nil_or_concat later with rfl | ⟨later, last, rfl⟩
      · obtain ⟨-, heq⟩ := List.append_inj' heq rfl
        cases heq
        exact hattributed
      · rw [List.concat_eq_append, ← List.cons_append, ← List.append_assoc] at heq
        obtain ⟨-, heq⟩ := List.append_inj' heq rfl
        cases heq
        exact absurd hlists (hlater _ (by simp))
    · intro before gap after current listed hjoined
      exact absurd hjoined.lists hlists
  · intro hundisturbed past cycle rest heq
    have hnone : ∀ process ∈ ((DashboardService.fresh processes ports).previous_.getD {}).processes,
        ∀ percent,
        process.cpuPercent = some percent → Carried [] process percent := by
      simp [DashboardService.fresh]
    have hrun := carried_run h hundisturbed hnone past cycle rest heq
    simpa using hrun

/-- **CPU usage and PID reuse.** Whatever processes exit and start meanwhile, the process
    command and every session of the dashboard show a process the usage of its own
    incarnation exactly if no PID with a usage was released between the observation and the
    sample joined with it. -/
theorem cpu_usage_attributed (processes : ProcessService) (T : Reuse.Table Int Nat) :
    (∀ (hasStatus : Bool) (other : (call : ServiceCall) → App call.Answer)
      (command : ProcessCommand) (log : processTable.Log) (shown : List ProcessInfo)
      (T' : Reuse.Table Int Nat),
      processTable.Runs ((command.program hasStatus).interpret (serve processes other))
        T log shown T' →
      ((∀ process ∈ shown, ∀ percent, process.cpuPercent = some percent →
        CommandAttributed T log process percent) ↔ CommandUndisturbed log shown)) ∧
    (∀ (ports : PortService) (cycles : List Cycle), Session (.fresh processes ports) T cycles →
      ((∀ past cycle rest, cycles = past ++ cycle :: rest →
        ∀ process ∈ cycle.snapshot.processes, ∀ percent, process.cpuPercent = some percent →
        Carried (past ++ [cycle]) process percent) ↔ ∀ cycle ∈ cycles, cycle.Undisturbed)) :=
  ⟨fun _ _ _ _ _ _ h => command_attributed h, fun _ _ h => session_attributed h⟩

/-! A worker with PID 42 is listed, and two samples follow. Half of the ticks between them
are its own. -/

def exampleSnapshot (start ticks : Nat) : MetricsSnapshot :=
  ⟨{ cpu := ⟨ticks, 0⟩ }, [⟨42, start, ticks / 2⟩]⟩

/-- The log of `lx process` with `changes` after the listing, when the samples find a process
    that started at `start`. -/
def exampleLog (changes : List (Reuse.Change Int Nat)) (start : Nat) : processTable.Log :=
  .inr ⟨.listProcesses, .ok ⟨[{ pid := 42 }], []⟩⟩ ::
    (changes.map .inl ++ (measurement (exampleSnapshot start 100) (exampleSnapshot start 200)).map .inr)

/-- PID 42 is held by the process with this start time. -/
def exampleTable (start : Option Nat) : Reuse.Table Int Nat where
  holder pid := if pid = 42 then start else none
  used pid stamp := pid = 42 ∧ (stamp = 100 ∨ some stamp = start)
  holder_used pid stamp h := by
    by_cases hpid : pid = 42
    · exact ⟨hpid, .inr (by simpa [hpid] using h.symm)⟩
    · simp [hpid] at h

def exampleProcesses : ProcessService := ⟨900, none⟩

def exampleCommand : App (List ProcessInfo) :=
  ((ProcessCommand.list {}).program true).interpret (serve exampleProcesses fun _ => .block)

/-- What the command shows of the example. -/
def exampleShown (start : Nat) : List ProcessInfo :=
  [attachCpu (MetricsService.compare (exampleSnapshot start 100) (exampleSnapshot start 200))
    { pid := 42 }]

theorem example_run (changes : List (Reuse.Change Int Nat)) (start : Nat) :
    exampleCommand.Run (events (exampleLog changes start)) (exampleShown start) := by
  have hevents : events (exampleLog changes start) =
      ⟨.listProcesses, .ok ⟨[{ pid := 42 }], []⟩⟩ ::
        measurement (exampleSnapshot start 100) (exampleSnapshot start 200) := by
    unfold exampleLog
    rw [events_cons_inr, events_append, events_map_inl, events_map_inr, List.nil_append]
  rw [hevents]
  exact ⟨_, _, rfl, _, _, rfl, _, _, rfl, _, _, rfl, _, _, rfl, _, _, rfl, rfl, rfl⟩

theorem example_measured (changes : List (Reuse.Change Int Nat)) (start : Nat) :
    Measured (exampleLog changes start) []
      (changes.map .inl ++ ((measurement (exampleSnapshot start 100)
        (exampleSnapshot start 200)).dropLast).map .inr) []
      ⟨.listProcesses, .ok ⟨[{ pid := 42 }], []⟩⟩ (exampleSnapshot start 100)
      (exampleSnapshot start 200) where
  log_eq := by
    rw [List.append_assoc]
    rfl
  events_before := rfl
  events_gap := by
    refine ⟨[], by simp [ProcessService.LooksUp], ?_⟩
    rw [events_append, events_map_inl, events_map_inr]
    rfl
  events_after := rfl

/-- The samples find the process of the table they meet. -/
theorem example_path {start start' : Nat} {changes : List (Reuse.Change Int Nat)}
    (h : processTable.Path (exampleTable (some start)) (changes.map .inl)
      (exampleTable (some start'))) :
    processTable.Path (exampleTable (some start)) (exampleLog changes start')
      (exampleTable (some start')) := by
  refine ⟨_, ⟨rfl, ?_⟩, path_append.mpr ⟨_, h, _, ⟨rfl, trivial⟩, _, ⟨rfl, ?_⟩, _,
    ⟨rfl, trivial⟩, _, ⟨rfl, trivial⟩, _, ⟨rfl, ?_⟩, rfl⟩⟩
  · intro record hrecord
    obtain rfl := List.mem_singleton.mp hrecord
    exact ⟨rfl, rfl⟩
  · intro sample hsample
    obtain rfl := List.mem_singleton.mp hsample
    rfl
  · intro sample hsample
    obtain rfl := List.mem_singleton.mp hsample
    rfl

theorem example_comparable (start : Nat) :
    MetricsService.Comparable (exampleSnapshot start 100) (exampleSnapshot start 200) 42 :=
  ⟨⟨42, start, 50⟩, ⟨42, start, 100⟩, by simp [MetricsService.Grown, exampleSnapshot], rfl,
    List.mem_singleton.mpr rfl, rfl, rfl, by simp⟩

/-- Nobody exits: the usage is that of the process that was listed. -/
theorem cpu_usage_attributed_quiet :
    exampleCommand.Run (events (exampleLog [] 100)) (exampleShown 100) ∧
      ∀ process ∈ exampleShown 100, ∀ percent, process.cpuPercent = some percent →
        CommandAttributed (exampleTable (some 100)) (exampleLog [] 100) process percent := by
  refine ⟨example_run [] 100, ?_⟩
  refine ((cpu_usage_attributed exampleProcesses (exampleTable (some 100))).1 true _ (.list {}) _ _
    (exampleTable (some 100)) ⟨example_run [] 100, example_path rfl⟩).mpr ?_
  intro before gap after observation previous current hmeasured process _ _
  obtain ⟨-, -, rfl, -, -⟩ := (example_measured [] 100).unique hmeasured
  simp [moves, measurement]

/-- The changes that give PID 42 to a process started at 200. -/
def reuse : List (Reuse.Change Int Nat) := [.release 42, .acquire 42 200]

theorem example_reuse : processTable.Path (exampleTable (some 100)) (reuse.map .inl)
    (exampleTable (some 200)) := by
  refine ⟨exampleTable none, ⟨by decide, rfl, ?_, ?_⟩, exampleTable (some 200),
    ⟨rfl, by simp [exampleTable], rfl, ?_, ?_⟩, rfl⟩
  · intro other hother
    simp [exampleTable, hother]
  · simp [exampleTable]
  · intro other hother
    simp [exampleTable, hother]
  · intro other stamp
    simp [exampleTable]
    grind

/-- The listed process exits and a new one takes its PID before the samples: the usage of
    the new process is shown for the old one. -/
theorem cpu_usage_transferred : ∃ T',
    processTable.Runs exampleCommand (exampleTable (some 100)) (exampleLog reuse 200)
      (exampleShown 200) T' ∧
    ¬ ∀ process ∈ exampleShown 200, ∀ percent, process.cpuPercent = some percent →
      CommandAttributed (exampleTable (some 100)) (exampleLog reuse 200) process percent := by
  have hruns : processTable.Runs exampleCommand (exampleTable (some 100)) (exampleLog reuse 200)
      (exampleShown 200) (exampleTable (some 200)) :=
    ⟨example_run reuse 200, example_path example_reuse⟩
  refine ⟨exampleTable (some 200), hruns, fun hattributed => ?_⟩
  have hundisturbed := (command_attributed hruns).mp hattributed
  refine hundisturbed _ _ _ _ _ _ (example_measured reuse 200) _ (List.mem_singleton.mpr rfl)
    ?_ ?_
  · rw [attachCpu_pid]
    exact example_comparable 200
  · rw [attachCpu_pid]
    simp [moves, reuse]

end Lx.CpuAttribution
