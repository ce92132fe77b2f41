import Lx.Application.LogService
import Lx.Application.ResourceResolver

/-!
# InspectService

The graph around one resource (`src/application/InspectService.cpp`): a port with its
owners, their services and logs; a process with its service, ports and logs; a service
with its processes, their ports and its logs. Only the lookup of the root can fail;
everything else that fails becomes a warning of the graph.
-/

namespace Lx

open Interaction

structure InspectService where
  resolver_ : ResourceResolver
  portService_ : PortService
  processService_ : ProcessService
  serviceService_ : ServiceService
  logService_ : LogService
  deriving DecidableEq, Repr

namespace InspectService

/-! ## §1 Growing the graph -/

def appendWarnings (graph : ResourceGraph) (warnings : List Warning) : ResourceGraph :=
  { graph with warnings := graph.warnings ++ warnings }

/-- Processes are told apart by PID. -/
def addProcess (graph : ResourceGraph) (process : ProcessInfo) : ResourceGraph :=
  if graph.processes.any (·.pid == process.pid) then graph
  else { graph with processes := graph.processes ++ [process] }

/-- Services are told apart by unit name. -/
def addService (graph : ResourceGraph) (service : ServiceInfo) : ResourceGraph :=
  if graph.services.any (·.unitName == service.unitName) then graph
  else { graph with services := graph.services ++ [service] }

/-- Entries are told apart by cursor, where they have one. -/
def addEntry (graph : ResourceGraph) (entry : JournalEntry) : ResourceGraph :=
  if !entry.cursor.isEmpty && graph.recentLogs.any (·.cursor == entry.cursor) then graph
  else { graph with recentLogs := graph.recentLogs ++ [entry] }

def addLogs (self : InspectService) (graph : ResourceGraph) (query : LogQuery) :
    App ResourceGraph := do
  match ← self.logService_.read { query with limit := 20 } with
  -- logs are an extra: their failure never fails the inspection
  | .error error => return appendWarnings graph [warningFrom error]
  | .ok logs => return logs.value.foldl addEntry (appendWarnings graph logs.warnings)

/-- The latest twenty entries, in the order of their times; entries of one time stay in
    the order in which they came. -/
def finalizeLogs (graph : ResourceGraph) : ResourceGraph :=
  let sorted := graph.recentLogs.insertionSort fun left right => left.timestamp ≤ right.timestamp
  { graph with recentLogs := sorted.drop (sorted.length - 20) }

/-- A service that is related to the root, or the reason why it is missing. -/
def addRelatedService (self : InspectService) (graph : ResourceGraph) (unit : Bytes) :
    App ResourceGraph := do
  match ← self.serviceService_.inspect unit with
  | .ok service => return addService (appendWarnings graph service.warnings) service.value
  | .error error => return appendWarnings graph [warningFrom error]

/-- The ports with an owner among the PIDs. -/
def addPortsOf (self : InspectService) (graph : ResourceGraph) (pids : List Int) :
    App ResourceGraph := do
  match ← self.portService_.inspect {} with
  | .error error => return appendWarnings graph [warningFrom error]
  | .ok ports =>
    let graph := appendWarnings graph ports.warnings
    return { graph with ports := graph.ports ++
      ports.value.filter fun port => port.socket.ownerPids.any (pids.contains ·) }

/-! ## §2 The three roots -/

/-- `std::set` of the units of the owners. -/
def ownerUnits (ports : List PortInfo) : List Bytes :=
  ((ports.flatMap (·.owners)).filterMap (·.systemdUnit)).dedup.insertionSort (· ≤ ·)

/-- `std::set` of the PIDs of the owners without a unit. -/
def unmanagedPids (ports : List PortInfo) : List Int :=
  (((ports.flatMap (·.owners)).filter (·.systemdUnit.isNone)).map (·.pid)).dedup.insertionSort
    (· ≤ ·)

/-- Every unit with its service and its logs. -/
def addUnits (self : InspectService) : List Bytes → ResourceGraph → App ResourceGraph
  | [], graph => return graph
  | unit :: rest, graph => do
    let graph ← self.addRelatedService graph unit
    let graph ← self.addLogs graph { unit := some unit }
    self.addUnits rest graph

def addUnmanaged (self : InspectService) : List Int → ResourceGraph → App ResourceGraph
  | [], graph => return graph
  | pid :: rest, graph => do
    let graph ← self.addLogs graph { pid := some pid }
    self.addUnmanaged rest graph

def inspectPort (self : InspectService) (port : Nat) : App (Result ResourceGraph) := do
  match ← self.portService_.inspect { localPort := some port } with
  | .error error => return .error error
  | .ok ports =>
    if ports.value.isEmpty then
      return .error ⟨.notFound, Bytes.ofString "No socket found for port " ++ Bytes.ofNat port, 0,
        "inspect-service", "inspect port"⟩
    else
      let graph : ResourceGraph :=
        { root := .port port, ports := ports.value, warnings := ports.warnings }
      -- an owner of several sockets is shown once
      let graph := (ports.value.flatMap (·.owners)).foldl addProcess graph
      let graph ← self.addUnits (ownerUnits ports.value) graph
      let graph ← self.addUnmanaged (unmanagedPids ports.value) graph
      return .ok graph

def inspectProcess (self : InspectService) (pid : Int) : App (Result ResourceGraph) := do
  match ← self.processService_.inspect pid with
  | .error error => return .error error
  | .ok process =>
    let graph := addProcess { root := .process pid, warnings := process.warnings } process.value
    let graph ← match process.value.systemdUnit with
      | none => pure graph
      | some unit => self.addRelatedService graph unit
    let graph ← self.addPortsOf graph [pid]
    let graph ← self.addLogs graph { pid := some pid }
    return .ok graph

/-- The processes of a unit; without them, the reason. -/
def addProcessesOf (self : InspectService) (graph : ResourceGraph) (unit : Bytes) :
    App ResourceGraph := do
  match ← self.processService_.list { systemdUnit := some unit } with
  | .error error => return appendWarnings graph [warningFrom error]
  | .ok processes =>
    return { appendWarnings graph processes.warnings with processes := processes.value }

def inspectService (self : InspectService) (unit : Bytes) : App (Result ResourceGraph) := do
  match ← self.serviceService_.inspect unit with
  | .error error => return .error error
  | .ok service =>
    let graph := addService { root := .service unit, warnings := service.warnings } service.value
    let graph ← self.addProcessesOf graph unit
    -- all ports are inspected, and those of the unit's processes are kept
    let graph ← self.addPortsOf graph (graph.processes.map (·.pid))
    let graph ← self.addLogs graph { unit := some unit }
    return .ok graph

def inspectTarget (self : InspectService) (target : ResourceTarget) : App (Result ResourceGraph) := do
  let graph ← match target with
    | .port port => self.inspectPort port
    | .process pid => self.inspectProcess pid
    | .service unit => self.inspectService unit
  return graph.map finalizeLogs

/-- `inspect` of an expression. -/
def inspect (self : InspectService) (expression : Bytes) : App (Result ResourceGraph) := do
  match ← self.resolver_.resolve expression with
  | .error error => return .error error
  | .ok target => self.inspectTarget target

/-! ## §3 Units that are normalised again -/

variable {self : InspectService} {unit normalized : Bytes} {t : Trace Contract}
  {r : Result ResourceGraph}

/-- The target of `service:` is the normalised unit, and nobody is asked for it. -/
theorem inspect_service (h : ServiceService.normalizeUnit unit = .ok normalized) :
    self.inspect (Bytes.ofString "service:" ++ unit) = self.inspectTarget (.service normalized) := by
  rw [inspect, ResourceResolver.resolve_service, h]
  rfl

/-- A unit that is refused at its second normalisation is refused before anybody is asked. -/
theorem inspectTarget_refused {error : Error}
    (h : ServiceService.normalizeUnit normalized = .error error) :
    (self.inspectTarget (.service normalized)).Run [] (.error error) := by
  have hinspect : self.serviceService_.inspect normalized = pure (.error error) := by
    rw [ServiceService.inspect, h]
  rw [inspectTarget, inspectService, hinspect]
  exact ⟨rfl, rfl⟩

/-- A unit that is accepted again is asked for under its own name. -/
theorem inspectTarget_asks (h : ServiceService.normalizeUnit normalized = .ok normalized)
    (hrun : (self.inspectTarget (.service normalized)).Run t r) :
    ∃ x rest, t = ⟨.getService normalized, x⟩ :: rest := by
  obtain ⟨graph, t₁, t₂, hservice, -, rfl⟩ := Prog.run_bind_iff.mp hrun
  obtain ⟨x, t₃, t₄, hget, -, rfl⟩ := Prog.run_bind_iff.mp hservice
  rw [ServiceService.inspect, h] at hget
  obtain rfl := Prog.run_perform.mp hget
  exact ⟨x, t₄ ++ t₂, rfl⟩

/-- **Normalisation is stable only for names that leave room for the suffix.** A unit that
    the resolver accepts is accepted unchanged by every later check, and `inspect` asks for
    it, exactly if it carries the suffix already or has at most 239 bytes. -/
theorem normalizeUnit_stable_iff (self : InspectService) {unit normalized : Bytes}
    (h : ServiceService.normalizeUnit unit = .ok normalized) :
    (ServiceService.normalizeUnit normalized = .ok normalized ∧
      ∀ t r, (self.inspect (Bytes.ofString "service:" ++ unit)).Run t r →
        ∃ x rest, t = ⟨.getService normalized, x⟩ :: rest) ↔
      ServiceService.suffix.isSuffixOf unit = true ∨ unit.length ≤ 239 := by
  rw [← ServiceService.normalizeUnit_again_iff h, inspect_service h]
  exact ⟨fun hstable => hstable.1, fun hagain => ⟨hagain, fun _ _ => inspectTarget_asks hagain⟩⟩

/-- LX with PID 900 and a service manager. -/
def plainInspect : InspectService :=
  ⟨⟨⟨⟨900, some {}⟩, some {}, 2000⟩, ⟨900, some {}⟩, {}⟩, ⟨⟨900, some {}⟩, some {}, 2000⟩,
    ⟨900, some {}⟩, {}, {}⟩

theorem normalizeUnit_stable_nginx :
    ServiceService.normalizeUnit (Bytes.ofString "nginx.service") =
        .ok (Bytes.ofString "nginx.service") ∧
      ∀ t r, (plainInspect.inspect (Bytes.ofString "service:" ++ Bytes.ofString "nginx")).Run t r →
        ∃ x rest, t = ⟨.getService (Bytes.ofString "nginx.service"), x⟩ :: rest := by
  have hnormalized : ServiceService.normalizeUnit (Bytes.ofString "nginx") =
      .ok (Bytes.ofString "nginx.service") := by decide
  exact (normalizeUnit_stable_iff plainInspect hnormalized).mpr (.inr (by decide))

/-- A name of 240 letters. -/
@[irreducible] def longUnit : Bytes := List.replicate 240 97

theorem longUnit_length : longUnit.length = 240 := by
  unfold longUnit
  exact List.length_replicate ..

theorem longUnit_normalized :
    ServiceService.normalizeUnit longUnit = .ok (longUnit ++ ServiceService.suffix) := by
  have hletters : ∀ character ∈ longUnit, character = 97 := by
    unfold longUnit
    exact fun _ => List.eq_of_mem_replicate
  have hnosuffix : ¬ServiceService.suffix.isSuffixOf longUnit := by
    intro hsuffix
    have hsub := (List.isSuffixOf_iff_suffix.mp hsuffix).subset
    have hdot := hletters 46 (hsub (by decide))
    revert hdot
    decide
  have hlength := longUnit_length
  rw [ServiceService.normalizeUnit_ok_iff, if_neg hnosuffix]
  refine ⟨⟨fun hempty => ?_, by omega, fun character hmem => ?_⟩, rfl⟩
  · rw [hempty] at hlength
    cases hlength
  · rw [hletters character hmem]
    decide

/-- **A name of 240 bytes is accepted once.** The resolver takes it, and the service lookup
    refuses what the resolver made of it, before anybody is asked. -/
theorem normalizeUnit_refuses_own_result :
    ServiceService.normalizeUnit longUnit = .ok (longUnit ++ ServiceService.suffix) ∧
    ServiceService.normalizeUnit (longUnit ++ ServiceService.suffix) =
      .error ⟨.invalidArgument, "Service unit name is too long", 0, "service", "validate unit"⟩ ∧
    (plainInspect.inspect (Bytes.ofString "service:" ++ longUnit)).Run []
      (.error ⟨.invalidArgument, "Service unit name is too long", 0, "service", "validate unit"⟩) := by
  have hlong : 247 < (longUnit ++ ServiceService.suffix).length := by
    rw [List.length_append, longUnit_length]
    decide
  have hagain : ServiceService.normalizeUnit (longUnit ++ ServiceService.suffix) =
      .error ⟨.invalidArgument, "Service unit name is too long", 0, "service", "validate unit"⟩ :=
    ServiceService.normalizeUnit_of_long hlong
  have hinspect : plainInspect.inspect (Bytes.ofString "service:" ++ longUnit) =
      plainInspect.inspectTarget (.service (longUnit ++ ServiceService.suffix)) :=
    inspect_service longUnit_normalized
  refine ⟨longUnit_normalized, hagain, ?_⟩
  rw [hinspect]
  exact inspectTarget_refused hagain

end InspectService

end Lx
