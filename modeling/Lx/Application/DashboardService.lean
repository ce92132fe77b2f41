import Lx.Application.MetricsService
import Lx.Application.PortService

/-!
# DashboardService

One refresh of the dashboard (`src/application/DashboardService.cpp`). A refresh asks the
four sources one after the other; each outcome changes only its own panel and adds to the
warnings. `refreshAt_run` takes a run apart into the outcomes of the sources, and what a
refresh makes of them is the pure function `advance`.
-/

namespace Lx

open Interaction

/-- The service with the members it carries from one refresh to the next. The metrics and
    service layers it also refers to hold no data. -/
structure DashboardService where
  processes_ : ProcessService
  ports_ : PortService
  previousMetrics_ : Option MetricsSnapshot := none
  previous_ : Option DashboardSnapshot := none
  /-- Nanoseconds of the steady clock. -/
  servicesRefreshedAt_ : Option Int := none
  deriving DecidableEq, Repr

namespace DashboardService

/-- A dashboard that has not been refreshed yet. -/
def fresh (processes : ProcessService) (ports : PortService) : DashboardService :=
  { processes_ := processes, ports_ := ports }

/-! ## §1 The panels -/

def attachCpu (metrics : MetricsView) (process : ProcessInfo) : ProcessInfo :=
  { process with cpuPercent := metrics.processCpuPercent.lookup process.pid }

/-- The view of a successful capture, against the capture before it. -/
def viewOf (self : DashboardService) (metrics : Result MetricsSnapshot) : Option MetricsView :=
  metrics.toOption.map fun current =>
    MetricsService.compare (self.previousMetrics_.getD current) current

/-- Add a warning to a snapshot. -/
def warn (error : Error) (next : DashboardSnapshot) : DashboardSnapshot :=
  { next with warnings := next.warnings ++ [warningFrom error] }

def showMetrics (metricsView : Option MetricsView) (metrics : Result MetricsSnapshot)
    (next : DashboardSnapshot) : DashboardSnapshot :=
  match metrics with
  | .error error => warn error { next with hostStale := true }
  | .ok _ => { next with host := (metricsView.map (·.host)).getD next.host, hostStale := false }

def showProcesses (metricsView : Option MetricsView)
    (processes : Result (Observation (List ProcessInfo))) (next : DashboardSnapshot) :
    DashboardSnapshot :=
  match processes with
  | .error error => warn error { next with processesStale := true }
  | .ok processes =>
    { next with
      processes := match metricsView with
        | some metrics => processes.value.map (attachCpu metrics)
        | none => processes.value
      processesStale := false
      warnings := next.warnings ++ processes.warnings }

def showPorts (ports : Result (Observation (List PortInfo))) (next : DashboardSnapshot) :
    DashboardSnapshot :=
  match ports with
  | .error error => warn error { next with portsStale := true }
  | .ok ports =>
    { next with
      ports := ports.value, portsStale := false, warnings := next.warnings ++ ports.warnings }

def showServices (services : Result (Observation (List ServiceInfo))) (next : DashboardSnapshot) :
    DashboardSnapshot :=
  match services with
  | .error error => warn error { next with servicesStale := true }
  | .ok services =>
    { next with
      services := services.value, servicesStale := false
      warnings := next.warnings ++ services.warnings }

/-! ## §2 One refresh -/

/-- Three seconds. -/
def serviceInterval : Int := 3000000000

/-- Whether this refresh asks for the services. -/
def refreshServices (self : DashboardService) (now : Int) : Bool :=
  match self.servicesRefreshedAt_ with
  | none => true
  | some refreshedAt => now - refreshedAt ≥ serviceInterval

/-- What the sources answered in one refresh. The services are not asked every time. -/
structure Fetched where
  capturedAt : Int
  metrics : Result MetricsSnapshot
  processes : Result (Observation (List ProcessInfo))
  ports : Result (Observation (List PortInfo))
  services : Option (Result (Observation (List ServiceInfo)))

/-- The snapshot a refresh makes of the answers. -/
def snapshot (self : DashboardService) (fetched : Fetched) : DashboardSnapshot :=
  let next : DashboardSnapshot :=
    -- everything but the warnings is carried over from the snapshot before
    { self.previous_.getD {} with warnings := [], capturedAt := fetched.capturedAt }
  let metricsView := self.viewOf fetched.metrics
  let next := showMetrics metricsView fetched.metrics next
  let next := showProcesses metricsView fetched.processes next
  let next := showPorts fetched.ports next
  match fetched.services with
  | none => next
  | some services => showServices services next

/-- The members after a refresh at `now`. -/
def advance (self : DashboardService) (now : Int) (fetched : Fetched) : DashboardService :=
  { self with
    previousMetrics_ := fetched.metrics.toOption <|> self.previousMetrics_
    previous_ := some (self.snapshot fetched)
    servicesRefreshedAt_ :=
      match fetched.services with
      -- a failed fetch leaves the time as it is, so the next refresh asks again
      | some (.ok _) => some now
      | _ => self.servicesRefreshedAt_ }

/-! What a snapshot shows depends on the panel's own source and the snapshot before. -/

theorem snapshot_processes (self : DashboardService) (fetched : Fetched) :
    (self.snapshot fetched).processes =
      match fetched.processes with
      | .error _ => (self.previous_.getD {}).processes
      | .ok listed =>
        match self.viewOf fetched.metrics with
        | some metrics => listed.value.map (attachCpu metrics)
        | none => listed.value := by
  rcases fetched with ⟨_, _ | _, _ | _, _ | _, _ | (_ | _)⟩ <;> rfl

theorem snapshot_host (self : DashboardService) (fetched : Fetched) :
    (self.snapshot fetched).host =
      match fetched.metrics with
      | .error _ => (self.previous_.getD {}).host
      | .ok current =>
        (MetricsService.compare (self.previousMetrics_.getD current) current).host := by
  rcases fetched with ⟨_, _ | _, _ | _, _ | _, _ | (_ | _)⟩ <;> rfl

theorem snapshot_ports (self : DashboardService) (fetched : Fetched) :
    (self.snapshot fetched).ports =
      match fetched.ports with
      | .error _ => (self.previous_.getD {}).ports
      | .ok ports => ports.value := by
  rcases fetched with ⟨_, _ | _, _ | _, _ | _, _ | (_ | _)⟩ <;> rfl

theorem snapshot_services (self : DashboardService) (fetched : Fetched) :
    (self.snapshot fetched).services =
      match fetched.services with
      | some (.ok services) => services.value
      | _ => (self.previous_.getD {}).services := by
  rcases fetched with ⟨_, _ | _, _ | _, _ | _, _ | (_ | _)⟩ <;> rfl

/-- A source that did not answer. -/
def failed {α : Type} : Result α → Bool
  | .error _ => true
  | .ok _ => false

theorem snapshot_stale (self : DashboardService) (fetched : Fetched) :
    (self.snapshot fetched).hostStale = failed fetched.metrics ∧
      (self.snapshot fetched).processesStale = failed fetched.processes ∧
      (self.snapshot fetched).portsStale = failed fetched.ports ∧
      (self.snapshot fetched).servicesStale =
        (fetched.services.map failed).getD (self.previous_.getD {}).servicesStale := by
  rcases fetched with ⟨_, _ | _, _ | _, _ | _, _ | (_ | _)⟩ <;> exact ⟨rfl, rfl, rfl, rfl⟩

/-- The warnings one source leaves in a snapshot. -/
def warningsOf {α : Type} : Result (Observation α) → List Warning
  | .error error => [warningFrom error]
  | .ok observed => observed.warnings

theorem snapshot_warnings (self : DashboardService) (fetched : Fetched) :
    (self.snapshot fetched).warnings =
      (match fetched.metrics with
        | .error error => [warningFrom error]
        | .ok _ => []) ++ warningsOf fetched.processes ++ warningsOf fetched.ports ++
        (fetched.services.map warningsOf).getD [] := by
  rcases fetched with ⟨_, _ | _, _ | _, _ | _, _ | (_ | _)⟩ <;>
    simp [snapshot, showMetrics, showProcesses, showPorts, showServices, warn, warningsOf]

def refreshAt (self : DashboardService) (now : Int) :
    App (DashboardSnapshot × DashboardService) := do
  let capturedAt : Int ← contract .systemNow
  let metrics : Result MetricsSnapshot ← MetricsService.capture
  let processes : Result (Observation (List ProcessInfo)) ← self.processes_.list {}
  let ports : Result (Observation (List PortInfo)) ← self.ports_.inspect {}
  if self.refreshServices now then
    -- the time is the one `refreshAt` was called with, not that of the answer
    let services : Result (Observation (List ServiceInfo)) ← contract .listServices
    let fetched : Fetched := ⟨capturedAt, metrics, processes, ports, some services⟩
    return (self.snapshot fetched, self.advance now fetched)
  else
    let fetched : Fetched := ⟨capturedAt, metrics, processes, ports, none⟩
    return (self.snapshot fetched, self.advance now fetched)

variable {self : DashboardService} {now : Int}

/-- The trace of one refresh: the sources are asked in this order, with these outcomes. -/
structure Asked (service : DashboardService) (now : Int) (t : Trace Contract) (fetched : Fetched)
    (tm tp tq ts : Trace Contract) : Prop where
  trace : t = ⟨.systemNow, fetched.capturedAt⟩ :: (tm ++ tp ++ tq ++ ts)
  metrics : MetricsService.capture.Run tm fetched.metrics
  processes : (service.processes_.list {}).Run tp fetched.processes
  ports : (service.ports_.inspect {}).Run tq fetched.ports
  services : fetched.services = none ∧ ts = [] ∧ service.refreshServices now = false ∨
    ∃ services, fetched.services = some services ∧ ts = [⟨.listServices, services⟩] ∧
      service.refreshServices now = true

/-- **A refresh is its fetches**, and what it returns is computed from their outcomes. -/
theorem refreshAt_run {t : Trace Contract} {next : DashboardSnapshot} {self' : DashboardService}
    (h : (self.refreshAt now).Run t (next, self')) :
    ∃ fetched tm tp tq ts, Asked self now t fetched tm tp tq ts ∧
      next = self.snapshot fetched ∧ self' = self.advance now fetched := by
  obtain ⟨capturedAt, _, _, hclock, hrest, rfl⟩ := Prog.run_bind_iff.mp h
  obtain rfl := Prog.run_perform.mp hclock
  obtain ⟨metrics, tm, _, hmetrics, hrest₁, rfl⟩ := Prog.run_bind_iff.mp hrest
  obtain ⟨processes, tp, _, hprocesses, hrest₂, rfl⟩ := Prog.run_bind_iff.mp hrest₁
  obtain ⟨ports, tq, _, hports, hrest₃, rfl⟩ := Prog.run_bind_iff.mp hrest₂
  cases hservices : self.refreshServices now with
  | true =>
    rw [hservices, if_pos rfl] at hrest₃
    obtain ⟨services, ts, _, hlist, hdone, rfl⟩ := Prog.run_bind_iff.mp hrest₃
    obtain rfl := Prog.run_perform.mp hlist
    obtain ⟨rfl, hdone⟩ := hdone
    cases hdone
    refine ⟨⟨capturedAt, metrics, processes, ports, some services⟩, tm, tp, tq, _, ⟨?_, hmetrics,
      hprocesses, hports, .inr ⟨services, rfl, rfl, hservices⟩⟩, rfl, rfl⟩
    simp
  | false =>
    rw [hservices, if_neg (by decide)] at hrest₃
    obtain ⟨rfl, hdone⟩ := hrest₃
    cases hdone
    refine ⟨⟨capturedAt, metrics, processes, ports, none⟩, tm, tp, tq, [], ⟨?_, hmetrics,
      hprocesses, hports, .inl ⟨rfl, rfl, hservices⟩⟩, rfl, rfl⟩
    simp

end DashboardService

end Lx
