import Lx.Contracts
import Mathlib.Algebra.Order.Field.Rat
import Mathlib.Tactic.Positivity

/-!
# MetricsService

CPU usage from two samples of the counters (`src/application/MetricsService.cpp`). The
percentages are the exact quotients; the code rounds them to `double`. The maps keyed by
PID are lists whose first entry for a PID is the latest assignment.

`compared_of_lookup` and `lookup_compare_isSome_iff` say whose usage is reported, and when.
-/

namespace Lx

open Interaction

namespace MetricsService

/-! ## §1 Sampling -/

def capture : App (Result MetricsSnapshot) := do
  let system : Result SystemMetricsSample ← contract .sampleSystem
  match system with
  | .error error => return .error error
  | .ok system =>
    let processes : Result (List ProcessCpuSample) ← contract .sampleProcesses
    match processes with
    | .error error => return .error error
    | .ok processes => return .ok ⟨system, processes⟩

/-! ## §2 Comparing two snapshots -/

def clamp (value low high : Rat) : Rat := max low (min value high)

/-- `std::max<std::uint32_t>(1, logicalCpuCount)` -/
def cpuCount (current : MetricsSnapshot) : Nat := max 1 current.system.logicalCpuCount

/-- The counters have moved on, so that usage can be computed. -/
def Grown (previous current : MetricsSnapshot) : Prop :=
  previous.system.cpu.totalTicks < current.system.cpu.totalTicks ∧
    previous.system.cpu.idleTicks ≤ current.system.cpu.idleTicks

instance (previous current : MetricsSnapshot) : Decidable (Grown previous current) :=
  inferInstanceAs (Decidable (_ ∧ _))

/-- The share of the CPU time between two snapshots that went from `old` to `process`. -/
def usage (previous current : MetricsSnapshot) (old process : ProcessCpuSample) : Rat :=
  let total : Nat := current.system.cpu.totalTicks - previous.system.cpu.totalTicks
  let used : Nat := process.cpuTimeTicks - old.cpuTimeTicks
  clamp (100 * used * cpuCount current / total) 0 (100 * cpuCount current)

/-- `old`: the last sample of every PID. -/
def latest (previous : MetricsSnapshot) : List (Int × ProcessCpuSample) :=
  (previous.processes.map fun process => (process.pid, process)).reverse

/-- The body of the loop over the current samples. -/
def processUsage (previous current : MetricsSnapshot) (process : ProcessCpuSample) :
    Option (Int × Rat) :=
  match (latest previous).lookup process.pid with
  | none => none
  | some old =>
    -- the PID went to another process in between, or a counter ran backwards
    if old.startTimeTicks ≠ process.startTimeTicks ∨ process.cpuTimeTicks < old.cpuTimeTicks then none
    else some (process.pid, usage previous current old process)

def hostStatus (previous current : MetricsSnapshot) : HostStatus where
  hostname := current.system.hostname
  memoryTotalBytes := current.system.memoryTotalBytes
  memoryUsedBytes :=
    if current.system.memoryAvailableBytes ≤ current.system.memoryTotalBytes then
      current.system.memoryTotalBytes - current.system.memoryAvailableBytes
    else 0
  uptime := current.system.uptime
  cpuPercent :=
    let total := current.system.cpu.totalTicks - previous.system.cpu.totalTicks
    let idle := current.system.cpu.idleTicks - previous.system.cpu.idleTicks
    if Grown previous current ∧ idle ≤ total then
      some (clamp (100 * ((total - idle : Nat) : Rat) / total) 0 100)
    else none

def compare (previous current : MetricsSnapshot) : MetricsView where
  host := hostStatus previous current
  processCpuPercent :=
    if Grown previous current then
      -- later entries win, as they do in the map of the source
      (current.processes.filterMap (processUsage previous current)).reverse
    else []

def measure (interval : Nat) : App (Result MetricsView) := do
  let previous : Result MetricsSnapshot ← capture
  match previous with
  | .error error => return .error error
  | .ok previous =>
    let _ : Unit ← contract (.wait interval)
    let current : Result MetricsSnapshot ← capture
    match current with
    | .error error => return .error error
    | .ok current => return .ok (compare previous current)

variable {previous current : MetricsSnapshot} {pid : Int}

theorem clamp_of_le {value low high : Rat} (hlow : low ≤ value) (hhigh : value ≤ high) :
    clamp value low high = value := by
  rw [clamp, min_eq_left hhigh, max_eq_right hlow]

/-- **The usage of the host** is the share of the time that was not idle. -/
theorem cpuPercent_hostStatus {total idle : Nat}
    (htotal : current.system.cpu.totalTicks = previous.system.cpu.totalTicks + total)
    (hidle : current.system.cpu.idleTicks = previous.system.cpu.idleTicks + idle)
    (hpos : 0 < total) (hle : idle ≤ total) :
    (hostStatus previous current).cpuPercent = some (100 * ((total - idle : Nat) : Rat) / total) := by
  have hgrown : Grown previous current := ⟨by omega, by omega⟩
  have hpositive : (0 : Rat) < total := Nat.cast_pos.mpr hpos
  have hshare : ((total - idle : Nat) : Rat) ≤ total := Nat.cast_le.mpr (Nat.sub_le total idle)
  -- the share is a percentage already
  have hlow : (0 : Rat) ≤ 100 * ((total - idle : Nat) : Rat) / total := by positivity
  have hhigh : 100 * ((total - idle : Nat) : Rat) / total ≤ 100 := by
    rw [div_le_iff₀ hpositive]
    exact mul_le_mul_of_nonneg_left hshare (by norm_num)
  simp only [hostStatus, htotal, hidle, Nat.add_sub_cancel_left, if_pos (And.intro hgrown hle),
    clamp_of_le hlow hhigh]

/-! ## §3 Whose usage is reported -/

/-- The last sample of `pid` before, and a sample of it now, are of one incarnation whose
    counters did not run backwards. -/
structure Compared (previous current : MetricsSnapshot) (pid : Int)
    (old process : ProcessCpuSample) : Prop where
  grown : Grown previous current
  latest_old : (latest previous).lookup pid = some old
  mem_current : process ∈ current.processes
  pid_process : process.pid = pid
  same_start : old.startTimeTicks = process.startTimeTicks
  ticks_le : old.cpuTimeTicks ≤ process.cpuTimeTicks

/-- The two snapshots say something about the usage of `pid`. -/
def Comparable (previous current : MetricsSnapshot) (pid : Int) : Prop :=
  ∃ old process, Compared previous current pid old process

theorem processUsage_eq_some_iff {process : ProcessCpuSample} {entry : Int × Rat} :
    processUsage previous current process = some entry ↔
      ∃ old, (latest previous).lookup process.pid = some old ∧
        old.startTimeTicks = process.startTimeTicks ∧ old.cpuTimeTicks ≤ process.cpuTimeTicks ∧
        entry = (process.pid, usage previous current old process) := by
  unfold processUsage
  cases hold : (latest previous).lookup process.pid with
  | none => simp
  | some old =>
    by_cases hskip : old.startTimeTicks ≠ process.startTimeTicks ∨
        process.cpuTimeTicks < old.cpuTimeTicks
    · simp only [if_pos hskip]
      grind
    · simp only [if_neg hskip]
      grind

/-- **The usage reported for a PID** is the usage between two samples of one incarnation. -/
theorem compared_of_lookup {percent : Rat}
    (h : (compare previous current).processCpuPercent.lookup pid = some percent) :
    ∃ old process, Compared previous current pid old process ∧
      percent = usage previous current old process := by
  simp only [compare] at h
  by_cases hgrown : Grown previous current
  · rw [if_pos hgrown] at h
    obtain ⟨before, after, heq, -⟩ := List.lookup_eq_some_iff.mp h
    have hmem : (pid, percent) ∈ current.processes.filterMap (processUsage previous current) := by
      rw [← List.mem_reverse, heq]
      simp
    obtain ⟨process, hprocess, hentry⟩ := List.mem_filterMap.mp hmem
    obtain ⟨old, hold, hstart, hticks, hpair⟩ := processUsage_eq_some_iff.mp hentry
    cases hpair
    exact ⟨old, process, ⟨hgrown, hold, hprocess, rfl, hstart, hticks⟩, rfl⟩
  · rw [if_neg hgrown] at h
    cases h

/-- A usage is reported exactly for the PIDs the snapshots say something about. -/
theorem lookup_compare_isSome_iff :
    ((compare previous current).processCpuPercent.lookup pid).isSome ↔
      Comparable previous current pid := by
  constructor
  · intro h
    obtain ⟨percent, hpercent⟩ := Option.isSome_iff_exists.mp h
    obtain ⟨old, process, hcompared, -⟩ := compared_of_lookup hpercent
    exact ⟨old, process, hcompared⟩
  · rintro ⟨old, process, h⟩
    have hmem : (pid, usage previous current old process) ∈
        (compare previous current).processCpuPercent := by
      simp only [compare, if_pos h.grown, List.mem_reverse, List.mem_filterMap]
      refine ⟨process, h.mem_current, processUsage_eq_some_iff.mpr ⟨old, ?_, h.same_start,
        h.ticks_le, ?_⟩⟩
      · rw [h.pid_process]
        exact h.latest_old
      · rw [h.pid_process]
    rw [List.lookup_isSome_iff]
    exact ⟨_, hmem, by simp⟩

/-! ## §4 Runs -/

variable {t : Trace Contract}

theorem capture_run {r : Result MetricsSnapshot} (h : capture.Run t r) :
    (∃ error, r = .error error ∧ (t = [⟨.sampleSystem, .error error⟩] ∨
      ∃ system, t = [⟨.sampleSystem, .ok system⟩, ⟨.sampleProcesses, .error error⟩])) ∨
    ∃ snapshot : MetricsSnapshot, r = .ok snapshot ∧
      t = [⟨.sampleSystem, .ok snapshot.system⟩, ⟨.sampleProcesses, .ok snapshot.processes⟩] := by
  obtain ⟨system, t₁, t₂, hsystem, hrest, rfl⟩ := Prog.run_bind_iff.mp h
  obtain rfl := Prog.run_perform.mp hsystem
  cases system with
  | error error =>
    obtain ⟨rfl, rfl⟩ := hrest
    exact .inl ⟨error, rfl, .inl rfl⟩
  | ok system =>
    obtain ⟨processes, t₃, t₄, hprocesses, hdone, rfl⟩ := Prog.run_bind_iff.mp hrest
    obtain rfl := Prog.run_perform.mp hprocesses
    cases processes with
    | error error =>
      obtain ⟨rfl, rfl⟩ := hdone
      exact .inl ⟨error, rfl, .inr ⟨system, rfl⟩⟩
    | ok processes =>
      obtain ⟨rfl, rfl⟩ := hdone
      exact .inr ⟨⟨system, processes⟩, rfl, rfl⟩

/-- Sampling asks for samples only. -/
theorem capture_within {P : Call → Prop} (hsystem : P .sampleSystem)
    (hprocesses : P .sampleProcesses) : capture.Within (S := Contract) P := by
  refine (Prog.within_perform hsystem).bind fun system => ?_
  cases system with
  | error error => exact Prog.within_ret
  | ok system =>
    refine (Prog.within_perform hprocesses).bind fun processes => ?_
    cases processes <;> exact Prog.within_ret

theorem measure_within {interval : Nat} {P : Call → Prop} (hsystem : P .sampleSystem)
    (hprocesses : P .sampleProcesses) (hwait : P (.wait interval)) :
    (measure interval).Within (S := Contract) P := by
  refine (capture_within hsystem hprocesses).bind fun previous => ?_
  cases previous with
  | error error => exact Prog.within_ret
  | ok previous =>
    refine (Prog.within_perform hwait).bind fun _ => ?_
    refine (capture_within hsystem hprocesses).bind fun current => ?_
    cases current <;> exact Prog.within_ret

/-- A successful measurement is the comparison of two captures. -/
theorem measure_run_ok {interval : Nat} {view : MetricsView} (h : (measure interval).Run t (.ok view)) :
    ∃ previous current : MetricsSnapshot, view = compare previous current ∧
      t = [⟨.sampleSystem, .ok previous.system⟩, ⟨.sampleProcesses, .ok previous.processes⟩,
        ⟨.wait interval, ()⟩, ⟨.sampleSystem, .ok current.system⟩,
        ⟨.sampleProcesses, .ok current.processes⟩] := by
  obtain ⟨first, t₁, t₂, hfirst, hrest, rfl⟩ := Prog.run_bind_iff.mp h
  rcases capture_run hfirst with ⟨error, rfl, -⟩ | ⟨previous, rfl, rfl⟩
  · cases hrest.2
  · obtain ⟨_, t₃, t₄, hwait, hmore, rfl⟩ := Prog.run_bind_iff.mp hrest
    obtain rfl := Prog.run_perform.mp hwait
    obtain ⟨second, t₅, t₆, hsecond, hdone, rfl⟩ := Prog.run_bind_iff.mp hmore
    rcases capture_run hsecond with ⟨error, rfl, -⟩ | ⟨current, rfl, rfl⟩
    · cases hdone.2
    · obtain ⟨rfl, hview⟩ := hdone
      cases hview
      exact ⟨previous, current, rfl, rfl⟩

end MetricsService

end Lx
