import Lx.Application.InspectService
import Lx.Lib.Latest

/-!
# The lookups behind a resource graph

`InspectService::inspect` asks other services, one lookup after the other, and puts what
they answer into the graph. Which lookups follow the one of the root is decided by the
answer to that one alone, so an inspection is a fold over a list of answered lookups.
A lookup that fails leaves a warning in place of what it would have added.

## Layers

- Lookups, their answers, and what an answer adds to a graph (§1).
- The inspection is the root's lookup followed by the lookups of related resources (§2).
- What a lookup leaves alone, and two inspections that differ in failures (§3).
- Resources told apart by their names (§4).
- Failures are isolated (§5).
-/

namespace Lx

open Interaction Prog Latest

/-- What `InspectService` asks the services below it. -/
inductive Lookup where
  /-- `PortService::inspect` -/
  | ports (query : SocketQuery)
  /-- `ProcessService::inspect` -/
  | process (pid : Int)
  /-- `ProcessService::list` -/
  | processes (query : ProcessQuery)
  /-- `ServiceService::inspect` -/
  | service (unit : Bytes)
  /-- `LogService::read` -/
  | logs (query : LogQuery)
  deriving DecidableEq, Repr

/-- What is observed when the lookup succeeds. -/
abbrev Lookup.Value : Lookup → Type
  | .ports _ => List PortInfo
  | .process _ => ProcessInfo
  | .processes _ => List ProcessInfo
  | .service _ => ServiceInfo
  | .logs _ => List JournalEntry

/-- The lookups whose failure an inspection survives without losing its processes. -/
def Lookup.Optional : Lookup → Prop
  | .ports _ | .service _ | .logs _ => True
  | .process _ | .processes _ => False

abbrev Lookups : Signature := ⟨Lookup, fun lookup => Result (Observation lookup.Value)⟩

namespace InspectService

/-! ## §1 Lookups -/

/-- The service that answers a lookup. -/
def serve (self : InspectService) : (lookup : Lookup) → App (Result (Observation lookup.Value))
  | .ports query => self.portService_.inspect query
  | .process pid => self.processService_.inspect pid
  | .processes query => self.processService_.list query
  | .service unit => self.serviceService_.inspect unit
  | .logs query => self.logService_.read query

section Grow

variable (target : ResourceTarget) (graph : ResourceGraph)

/-- The processes whose ports belong to the graph. -/
def portOwners : List Int :=
  match target with
  -- the root itself, as it was asked for
  | .process pid => [pid]
  | _ => graph.processes.map (·.pid)

/-- What was observed, put into the graph. -/
def add : (lookup : Lookup) → lookup.Value → ResourceGraph
  | .ports _, ports =>
    { graph with ports := graph.ports ++
        ports.filter fun port => port.socket.ownerPids.any ((portOwners target graph).contains ·) }
  | .process _, process => addProcess graph process
  -- a service has no processes before this lookup
  | .processes _, processes => { graph with processes := processes }
  | .service _, service => addService graph service
  | .logs _, entries => entries.foldl addEntry graph

/-- The graph after one more lookup. -/
def grow (event : Event Lookups) : ResourceGraph :=
  match event.2 with
  -- a failed lookup adds nothing else
  | .error error => appendWarnings graph [warningFrom error]
  | .ok observed => add target (appendWarnings graph observed.warnings) event.1 observed.value

end Grow

/-- Every inspection begins with this lookup. -/
abbrev rootLookup : ResourceTarget → Lookup
  | .port port => .ports { localPort := some port }
  | .process pid => .process pid
  | .service unit => .service unit

/-- The graph of the root alone, or why there is none. -/
def rootGraph : (target : ResourceTarget) → (Lookups.Answer (rootLookup target)) → Result ResourceGraph
  | _, .error error => .error error
  | .port port, .ok ports =>
    -- a port without a socket is no resource
    if ports.value.isEmpty then
      .error ⟨.notFound, Bytes.ofString "No socket found for port " ++ Bytes.ofNat port, 0,
        "inspect-service", "inspect port"⟩
    -- an owner of several sockets is one process
    else .ok ((ports.value.flatMap (·.owners)).foldl addProcess
      { root := .port port, ports := ports.value, warnings := ports.warnings })
  | .process pid, .ok process =>
    .ok (addProcess { root := .process pid, warnings := process.warnings } process.value)
  | .service unit, .ok service =>
    .ok (addService { root := .service unit, warnings := service.warnings } service.value)

def unitLogs (unit : Bytes) : LogQuery := { unit := some unit, limit := 20 }

def pidLogs (pid : Int) : LogQuery := { pid := some pid, limit := 20 }

/-- The lookups that follow the one of the root. -/
def related : (target : ResourceTarget) → (Lookups.Answer (rootLookup target)) → List Lookup
  | _, .error _ => []
  -- the units in their order, each with its service before its logs
  | .port _, .ok ports =>
    ((ownerUnits ports.value).flatMap fun unit => [.service unit, .logs (unitLogs unit)]) ++
      (unmanagedPids ports.value).map fun pid => .logs (pidLogs pid)
  | .process pid, .ok process =>
    (process.value.systemdUnit.toList.map Lookup.service) ++ [.ports {}, .logs (pidLogs pid)]
  -- the processes come before the ports: their PIDs select among these
  | .service unit, .ok _ =>
    [.processes { systemdUnit := some unit }, .ports {}, .logs (unitLogs unit)]

/-! ## §2 The inspection as a list of lookups -/

section Gather

variable (service : InspectService) (target : ResourceTarget) (graph : ResourceGraph)

/-- The lookups one after the other. -/
def lookUp (lookups : List Lookup) (graph : ResourceGraph) : App ResourceGraph :=
  gather (S := Lookups) service.serve (grow target) lookups graph

theorem lookUp_append (lookups lookups' : List Lookup) :
    service.lookUp target (lookups ++ lookups') graph =
      service.lookUp target lookups graph >>= service.lookUp target lookups' := gather_append

theorem lookUp_cons (lookup : Lookup) (lookups : List Lookup) :
    service.lookUp target (lookup :: lookups) graph =
      service.lookUp target [lookup] graph >>= service.lookUp target lookups := gather_cons ..

theorem addLogs_eq (query : LogQuery) :
    service.addLogs graph query = service.lookUp target [.logs { query with limit := 20 }] graph := by
  unfold addLogs lookUp
  simp only [gather]
  congr 1
  funext logs
  -- both answers are what `grow` makes of them
  cases logs <;> rfl

theorem addRelatedService_eq (unit : Bytes) :
    service.addRelatedService graph unit = service.lookUp target [.service unit] graph := by
  unfold addRelatedService lookUp
  simp only [gather]
  congr 1
  funext observed
  cases observed <;> rfl

theorem addPortsOf_eq :
    service.addPortsOf graph (portOwners target graph) = service.lookUp target [.ports {}] graph := by
  unfold addPortsOf lookUp
  simp only [gather]
  congr 1
  funext ports
  cases ports <;> rfl

theorem addProcessesOf_eq (unit : Bytes) :
    service.addProcessesOf graph unit =
      service.lookUp target [.processes { systemdUnit := some unit }] graph := by
  unfold addProcessesOf lookUp
  simp only [gather]
  congr 1
  funext processes
  cases processes <;> rfl

theorem addUnits_eq (units : List Bytes) :
    service.addUnits units graph = service.lookUp target
      (units.flatMap fun unit => [.service unit, .logs (unitLogs unit)]) graph := by
  induction units generalizing graph with
  | nil => rfl
  | cons unit rest ih =>
    rw [List.flatMap_cons, lookUp_append, lookUp_cons, bind_assoc, addUnits,
      addRelatedService_eq service target]
    -- the service first, then its logs, then the other units
    congr 1
    funext withService
    rw [addLogs_eq service target]
    congr 1
    funext withLogs
    exact ih withLogs

theorem addUnmanaged_eq (pids : List Int) :
    service.addUnmanaged pids graph =
      service.lookUp target (pids.map fun pid => .logs (pidLogs pid)) graph := by
  induction pids generalizing graph with
  | nil => rfl
  | cons pid rest ih =>
    rw [List.map_cons, lookUp_cons, addUnmanaged, addLogs_eq service target]
    congr 1
    funext withLogs
    exact ih withLogs

/-- What follows the lookup of the root. -/
def inspectRelated (answer : Lookups.Answer (rootLookup target)) : App (Result ResourceGraph) :=
  match rootGraph target answer with
  | .error error => return .error error
  | .ok graph => do
    let graph ← service.lookUp target (related target answer) graph
    return .ok graph

theorem inspectPort_eq (port : Nat) :
    service.inspectPort port =
      service.serve (rootLookup (.port port)) >>= service.inspectRelated (.port port) := by
  unfold inspectPort
  congr 1
  funext ports
  cases ports with
  | error error => rfl
  | ok ports =>
    dsimp only [inspectRelated, rootGraph]
    split
    · rfl
    · dsimp only [related]
      rw [lookUp_append, bind_assoc, addUnits_eq service (.port port)]
      congr 1
      funext withUnits
      rw [addUnmanaged_eq service (.port port)]

theorem inspectProcess_eq (pid : Int) :
    service.inspectProcess pid =
      service.serve (rootLookup (.process pid)) >>= service.inspectRelated (.process pid) := by
  unfold inspectProcess
  congr 1
  funext process
  cases process with
  | error error => rfl
  | ok process =>
    -- the unit is optional; what follows it is the same either way
    have hrest : ∀ graph, (do
        let graph ← service.addPortsOf graph [pid]
        let graph ← service.addLogs graph { pid := some pid }
        return .ok graph) = (do
        let graph ← service.lookUp (.process pid) [.ports {}, .logs (pidLogs pid)] graph
        return (.ok graph : Result ResourceGraph)) := by
      intro graph
      rw [lookUp_cons, bind_assoc, ← addPortsOf_eq]
      congr 1
      funext withPorts
      rw [addLogs_eq service (.process pid)]
      rfl
    dsimp only [inspectRelated, rootGraph, related]
    rw [lookUp_append, bind_assoc]
    cases hunit : process.value.systemdUnit with
    | none => exact hrest _
    | some unit =>
      dsimp only
      rw [addRelatedService_eq service (.process pid)]
      congr 1
      funext withService
      exact hrest withService

theorem inspectService_eq (unit : Bytes) :
    service.inspectService unit =
      service.serve (rootLookup (.service unit)) >>= service.inspectRelated (.service unit) := by
  unfold inspectService
  congr 1
  funext observed
  cases observed with
  | error error => rfl
  | ok observed =>
    dsimp only [inspectRelated, rootGraph, related]
    rw [lookUp_cons, bind_assoc, addProcessesOf_eq service (.service unit)]
    congr 1
    funext withProcesses
    -- `addPortsOf` is called with the processes that were just added
    rw [lookUp_cons, bind_assoc, ← addPortsOf_eq]
    congr 1
    funext withPorts
    rw [addLogs_eq service (.service unit)]
    rfl

theorem inspectTarget_eq :
    service.inspectTarget target =
      service.serve (rootLookup target) >>= fun answer => do
        let graph ← service.inspectRelated target answer
        return graph.map finalizeLogs := by
  rw [← bind_assoc]
  unfold inspectTarget
  cases target with
  | port port =>
    dsimp only
    rw [inspectPort_eq]
  | process pid =>
    dsimp only
    rw [inspectProcess_eq]
  | service unit =>
    dsimp only
    rw [inspectService_eq]

end Gather

/-- The exchange `t` of an inspection, read as lookups: the one of the root was answered
    `answer`, and `u` are those that followed with their answers. -/
structure Asked (service : InspectService) (target : ResourceTarget)
    (answer : Lookups.Answer (rootLookup target)) (u : Trace Lookups) (t : Trace Contract) :
    Prop where
  calls : u.map Sigma.fst = related target answer
  exchange : Implements (S := Lookups) service.serve (⟨rootLookup target, answer⟩ :: u) t

/-- What an inspection makes of its lookups. -/
def concluded (target : ResourceTarget) (answer : Lookups.Answer (rootLookup target))
    (u : Trace Lookups) : Result ResourceGraph :=
  (rootGraph target answer).map fun graph => finalizeLogs (u.foldl (grow target) graph)

section Runs

variable {service : InspectService} {target : ResourceTarget}
  {answer : Lookups.Answer (rootLookup target)} {u : Trace Lookups} {t : Trace Contract}
  {r : Result ResourceGraph}

/-- Without a root nothing else is looked up. -/
theorem related_of_rootGraph_error {error : Error} (h : rootGraph target answer = .error error) :
    related target answer = [] := by
  cases target with
  | port port =>
    cases answer with
    | error _ => rfl
    | ok ports =>
      dsimp only [rootGraph] at h
      split at h
      · rename_i hempty
        -- no sockets, so no owners to look anything up for
        obtain ⟨value, warnings⟩ := ports
        obtain rfl : value = [] := List.isEmpty_iff.mp hempty
        rfl
      · cases h
  | process pid =>
    cases answer with
    | error _ => rfl
    | ok process => cases h
  | service unit =>
    cases answer with
    | error _ => rfl
    | ok observed => cases h

theorem inspectRelated_run_iff :
    (service.inspectRelated target answer).Run t r ↔
      ∃ u, u.map Sigma.fst = related target answer ∧ Implements (S := Lookups) service.serve u t ∧
        r = (rootGraph target answer).map (u.foldl (grow target)) := by
  unfold inspectRelated
  cases hroot : rootGraph target answer with
  | error error =>
    -- the inspection ends with the error of the root
    rw [related_of_rootGraph_error hroot]
    constructor
    · rintro ⟨rfl, rfl⟩
      exact ⟨[], rfl, .nil, rfl⟩
    · rintro ⟨u, hcalls, himp, rfl⟩
      obtain rfl := List.map_eq_nil_iff.mp hcalls
      exact ⟨implements_nil_iff.mp himp, rfl⟩
  | ok graph =>
    dsimp only
    rw [run_bind_iff]
    constructor
    · rintro ⟨grown, t₁, t₂, hgather, ⟨rfl, rfl⟩, rfl⟩
      obtain ⟨u, hcalls, himp, rfl⟩ := run_gather_iff.mp hgather
      exact ⟨u, hcalls, (List.append_nil t₁).symm ▸ himp, rfl⟩
    · rintro ⟨u, hcalls, himp, rfl⟩
      exact ⟨_, t, [], run_gather_iff.mpr ⟨u, hcalls, himp, rfl⟩, ⟨rfl, rfl⟩, (List.append_nil t).symm⟩

/-- **An inspection is a fold over its lookups.** -/
theorem inspectTarget_run_iff :
    (service.inspectTarget target).Run t r ↔
      ∃ answer u, Asked service target answer u t ∧ r = concluded target answer u := by
  rw [inspectTarget_eq, run_bind_iff]
  constructor
  · rintro ⟨answer, t₁, t₂, hroot, hrest, rfl⟩
    -- the exchange falls into the part of the root and the rest
    obtain ⟨graph, t₃, t₄, hrelated, ⟨rfl, rfl⟩, rfl⟩ := run_bind_iff.mp hrest
    obtain ⟨u, hcalls, himp, rfl⟩ := inspectRelated_run_iff.mp hrelated
    refine ⟨answer, u, ⟨hcalls, (List.append_nil t₃).symm ▸ .cons hroot himp⟩, ?_⟩
    unfold concluded
    cases rootGraph target answer <;> rfl
  · rintro ⟨answer, u, ⟨hcalls, hexchange⟩, rfl⟩
    obtain ⟨t₁, t₂, rfl, hroot, himp⟩ := implements_cons_iff.mp hexchange
    refine ⟨answer, t₁, t₂, hroot, run_bind_iff.mpr ⟨_, t₂, [],
      inspectRelated_run_iff.mpr ⟨u, hcalls, himp, rfl⟩, ⟨rfl, ?_⟩, (List.append_nil t₂).symm⟩, rfl⟩
    unfold concluded
    cases rootGraph target answer <;> rfl

/-- The lookups determine the result. -/
theorem Asked.result (h : Asked service target answer u t)
    (hrun : (service.inspectTarget target).Run t r) : r = concluded target answer u :=
  hrun.unique (inspectTarget_run_iff.mpr ⟨answer, u, h, rfl⟩)

end Runs

/-! ## §3 What a lookup leaves alone -/

theorem addProcess_eq (graph : ResourceGraph) (process : ProcessInfo) :
    addProcess graph process =
      { graph with processes := appendNew (·.pid) graph.processes process } := by
  unfold addProcess appendNew
  split <;> rfl

theorem addService_eq (graph : ResourceGraph) (service : ServiceInfo) :
    addService graph service =
      { graph with services := appendNew (·.unitName) graph.services service } := by
  unfold addService appendNew
  simp only [List.any_eq_true, beq_iff_eq]
  split <;> rfl

/-- `addEntry` on the entries alone. -/
def appendEntry (entries : List JournalEntry) (entry : JournalEntry) : List JournalEntry :=
  if !entry.cursor.isEmpty && entries.any (·.cursor == entry.cursor) then entries
  else entries ++ [entry]

theorem addEntry_eq (graph : ResourceGraph) (entry : JournalEntry) :
    addEntry graph entry = { graph with recentLogs := appendEntry graph.recentLogs entry } := by
  unfold addEntry appendEntry
  split <;> rfl

theorem foldl_addProcess_eq (processes : List ProcessInfo) (graph : ResourceGraph) :
    processes.foldl addProcess graph =
      { graph with processes := processes.foldl (appendNew (·.pid)) graph.processes } := by
  induction processes generalizing graph with
  | nil => rfl
  | cons process rest ih => rw [List.foldl_cons, ih, addProcess_eq, List.foldl_cons]

theorem foldl_addEntry_eq (entries : List JournalEntry) (graph : ResourceGraph) :
    entries.foldl addEntry graph =
      { graph with recentLogs := entries.foldl appendEntry graph.recentLogs } := by
  induction entries generalizing graph with
  | nil => rfl
  | cons entry rest ih => rw [List.foldl_cons, ih, addEntry_eq, List.foldl_cons]

section Degraded

variable (may : Lookup → Prop)

/-- The second lookup is the first one, or it failed where failures are allowed. -/
def Degraded (event event' : Event Lookups) : Prop :=
  event' = event ∨ (event'.1 = event.1 ∧ may event.1 ∧ ∃ error, event'.2 = .error error)

/-- The graphs agree but for what the failed lookups would have added. -/
structure Agree (graph graph' : ResourceGraph) : Prop where
  root : graph'.root = graph.root
  processes : graph'.processes = graph.processes
  services : (∀ unit, ¬may (.service unit)) → graph'.services = graph.services
  ports : (∀ query, ¬may (.ports query)) → graph'.ports = graph.ports
  recentLogs : (∀ query, ¬may (.logs query)) → graph'.recentLogs = graph.recentLogs

end Degraded

section Agree

variable {target : ResourceTarget} {may : Lookup → Prop} {graph graph' : ResourceGraph}

theorem Agree.refl : Agree may graph graph :=
  ⟨rfl, rfl, fun _ => rfl, fun _ => rfl, fun _ => rfl⟩

/-- Warnings are not compared. -/
theorem Agree.appendWarnings (h : Agree may graph graph') (warnings warnings' : List Warning) :
    Agree may (appendWarnings graph warnings) (appendWarnings graph' warnings') :=
  ⟨h.root, h.processes, h.services, h.ports, h.recentLogs⟩

/-- The same observation keeps the graphs in agreement. -/
theorem Agree.add (h : Agree may graph graph') (lookup : Lookup) (value : lookup.Value) :
    Agree may (add target graph lookup value) (add target graph' lookup value) := by
  cases lookup with
  | ports query =>
    -- the ports are selected by the processes, and these agree
    have howners : portOwners target graph' = portOwners target graph := by
      unfold portOwners
      rw [h.processes]
    refine ⟨h.root, h.processes, h.services, fun hports => ?_, h.recentLogs⟩
    simp only [InspectService.add, howners, h.ports hports]
  | process pid =>
    simp only [InspectService.add, addProcess_eq]
    exact ⟨h.root, by simp only [h.processes], h.services, h.ports, h.recentLogs⟩
  | processes query => exact ⟨h.root, rfl, h.services, h.ports, h.recentLogs⟩
  | service unit =>
    simp only [InspectService.add, addService_eq]
    exact ⟨h.root, h.processes, fun hnone => by simp only [h.services hnone], h.ports, h.recentLogs⟩
  | logs query =>
    simp only [InspectService.add, foldl_addEntry_eq]
    exact ⟨h.root, h.processes, h.services, h.ports, fun hnone => by simp only [h.recentLogs hnone]⟩

/-- An observation that the second graph lacks changes one field of the first. -/
theorem Agree.add_left (h : Agree may graph graph') {lookup : Lookup} (hmay : may lookup)
    (hoptional : lookup.Optional) (value : lookup.Value) :
    Agree may (InspectService.add target graph lookup value) graph' := by
  cases lookup with
  | ports query =>
    exact ⟨h.root, h.processes, h.services, fun hnone => absurd hmay (hnone query), h.recentLogs⟩
  | service unit =>
    simp only [InspectService.add, addService_eq]
    exact ⟨h.root, h.processes, fun hnone => absurd hmay (hnone unit), h.ports, h.recentLogs⟩
  | logs query =>
    simp only [InspectService.add, foldl_addEntry_eq]
    exact ⟨h.root, h.processes, h.services, h.ports, fun hnone => absurd hmay (hnone query)⟩
  -- a lookup of processes may not fail here
  | process pid => exact hoptional.elim
  | processes query => exact hoptional.elim

/-- One lookup, in both inspections. -/
theorem Agree.grow (h : Agree may graph graph') (hoptional : ∀ lookup, may lookup → lookup.Optional)
    {event event' : Event Lookups} (hevent : Degraded may event event') :
    Agree may (grow target graph event) (grow target graph' event') := by
  obtain ⟨lookup, result⟩ := event
  rcases hevent with rfl | ⟨hlookup, hmay, error, hfailed⟩
  · cases result with
    | error error => exact h.appendWarnings ..
    | ok observed => exact (h.appendWarnings _ _).add lookup observed.value
  · have hgrown : InspectService.grow target graph' event' =
        InspectService.appendWarnings graph' [warningFrom error] := by
      unfold InspectService.grow
      rw [hfailed]
    -- the second graph got a warning only; the first may have got its observation
    rw [hgrown]
    cases result with
    | error error' => exact h.appendWarnings ..
    | ok observed =>
      exact (h.appendWarnings _ _).add_left hmay (hoptional lookup hmay) observed.value

/-- A whole inspection. -/
theorem Agree.foldl_grow (h : Agree may graph graph')
    (hoptional : ∀ lookup, may lookup → lookup.Optional) {u u' : Trace Lookups}
    (hdegraded : List.Forall₂ (Degraded may) u u') :
    Agree may (u.foldl (InspectService.grow target) graph)
      (u'.foldl (InspectService.grow target) graph') := by
  -- lookup by lookup, from graphs that agree already
  induction hdegraded generalizing graph graph' with
  | nil => exact h
  | cons hevent _ ih => exact ih (h.grow hoptional hevent)

end Agree

/-! ## §4 Warnings, and resources told apart -/

section Fields

variable {target : ResourceTarget} {graph : ResourceGraph}

theorem add_root (lookup : Lookup) (value : lookup.Value) :
    (add target graph lookup value).root = graph.root ∧
      (add target graph lookup value).warnings = graph.warnings := by
  cases lookup with
  | ports query => exact ⟨rfl, rfl⟩
  | process pid =>
    simp only [add, addProcess_eq]
    exact ⟨trivial, trivial⟩
  | processes query => exact ⟨rfl, rfl⟩
  | service unit =>
    simp only [add, addService_eq]
    exact ⟨trivial, trivial⟩
  | logs query =>
    simp only [add, foldl_addEntry_eq]
    exact ⟨trivial, trivial⟩

theorem grow_root (event : Event Lookups) : (grow target graph event).root = graph.root := by
  unfold grow
  split
  · rfl
  · exact (add_root _ _).1

/-- A lookup leaves its warnings, or its error as the only one. -/
theorem grow_warnings (event : Event Lookups) :
    (grow target graph event).warnings = graph.warnings ++ lookupWarnings event.2 := by
  unfold grow lookupWarnings
  cases event.2 with
  | error error => rfl
  | ok observed => exact (add_root _ _).2

theorem foldl_grow_root (u : Trace Lookups) : (u.foldl (grow target) graph).root = graph.root := by
  induction u generalizing graph with
  | nil => rfl
  | cons event u ih => rw [List.foldl_cons, ih, grow_root]

theorem foldl_grow_warnings (u : Trace Lookups) :
    (u.foldl (grow target) graph).warnings =
      graph.warnings ++ u.flatMap fun event => lookupWarnings event.2 := by
  induction u generalizing graph with
  | nil => exact (List.append_nil _).symm
  | cons event u ih =>
    rw [List.foldl_cons, ih, grow_warnings, List.flatMap_cons, List.append_assoc]

/-- No unit name twice. -/
theorem grow_services_nodup (h : (graph.services.map (·.unitName)).Nodup) (event : Event Lookups) :
    ((grow target graph event).services.map (·.unitName)).Nodup := by
  -- only a service adds to the services, and it is compared by name
  obtain ⟨lookup, result⟩ := event
  cases result with
  | error error => exact h
  | ok observed =>
    cases lookup with
    | ports query => exact h
    | process pid =>
      simp only [grow, add, addProcess_eq]
      exact h
    | processes query => exact h
    | service unit =>
      simp only [grow, add, addService_eq]
      exact nodup_appendNew h _
    | logs query =>
      simp only [grow, add, foldl_addEntry_eq]
      exact h

theorem foldl_grow_services_nodup (h : (graph.services.map (·.unitName)).Nodup) (u : Trace Lookups) :
    ((u.foldl (grow target) graph).services.map (·.unitName)).Nodup := by
  induction u generalizing graph with
  | nil => exact h
  | cons event u ih => exact ih (grow_services_nodup h event)

/-- The processes come from other lookups than these. -/
theorem grow_processes {event : Event Lookups} (h : event.1.Optional) :
    (grow target graph event).processes = graph.processes := by
  obtain ⟨lookup, result⟩ := event
  cases result with
  | error error => rfl
  | ok observed =>
    cases lookup with
    | ports query => rfl
    | service unit =>
      simp only [grow, add, addService_eq]
      rfl
    | logs query =>
      simp only [grow, add, foldl_addEntry_eq]
      rfl
    | process pid => exact h.elim
    | processes query => exact h.elim

theorem foldl_grow_processes {u : Trace Lookups} (h : ∀ event ∈ u, event.1.Optional) :
    (u.foldl (grow target) graph).processes = graph.processes := by
  induction u generalizing graph with
  | nil => rfl
  | cons event u ih =>
    rw [List.foldl_cons, ih fun event' hmem => h event' (List.mem_cons_of_mem _ hmem),
      grow_processes (h event List.mem_cons_self)]

end Fields

section Root

variable {target : ResourceTarget} {answer : Lookups.Answer (rootLookup target)}
  {graph : ResourceGraph}

/-- There is no root: its lookup failed, or the port has no socket. -/
def RootFails : (target : ResourceTarget) → Lookups.Answer (rootLookup target) → Prop
  | _, .error _ => True
  | .port _, .ok ports => ports.value = []
  | .process _, .ok _ => False
  | .service _, .ok _ => False

/-- The graph an inspection starts from. -/
structure RootOnly (target : ResourceTarget) (answer : Lookups.Answer (rootLookup target))
    (graph : ResourceGraph) : Prop where
  root : graph.root = target
  warnings : graph.warnings = lookupWarnings answer
  services : (graph.services.map (·.unitName)).Nodup
  processes : (graph.processes.map (·.pid)).Nodup
  recentLogs : graph.recentLogs = []

theorem rootGraph_port (port : Nat) (ports : Observation (List PortInfo)) (h : ports.value ≠ []) :
    rootGraph (.port port) (.ok ports) = .ok
      { root := .port port, ports := ports.value, warnings := ports.warnings,
        processes := (ports.value.flatMap (·.owners)).foldl (appendNew (·.pid)) [] } := by
  dsimp only [rootGraph]
  rw [if_neg (by simpa using h), foldl_addProcess_eq]

theorem rootGraph_error_iff :
    (∃ error, rootGraph target answer = .error error) ↔ RootFails target answer := by
  cases target with
  | port port =>
    cases answer with
    | error error => exact ⟨fun _ => trivial, fun _ => ⟨error, rfl⟩⟩
    | ok ports =>
      -- the only root that fails although its lookup succeeds
      dsimp only [rootGraph, RootFails]
      constructor
      · rintro ⟨error, h⟩
        split at h
        · exact List.isEmpty_iff.mp ‹_›
        · cases h
      · intro hempty
        rw [if_pos (List.isEmpty_iff.mpr hempty)]
        exact ⟨_, rfl⟩
  | process pid =>
    cases answer with
    | error error => exact ⟨fun _ => trivial, fun _ => ⟨error, rfl⟩⟩
    | ok process => exact ⟨fun ⟨_, h⟩ => (by cases h), False.elim⟩
  | service unit =>
    cases answer with
    | error error => exact ⟨fun _ => trivial, fun _ => ⟨error, rfl⟩⟩
    | ok observed => exact ⟨fun ⟨_, h⟩ => (by cases h), False.elim⟩

theorem rootGraph_ok (h : rootGraph target answer = .ok graph) : RootOnly target answer graph := by
  cases target with
  | port port =>
    cases answer with
    | error error => cases h
    | ok ports =>
      by_cases hempty : ports.value = []
      · obtain ⟨error, herror⟩ :=
          rootGraph_error_iff.mpr (show RootFails (.port port) (.ok ports) from hempty)
        rw [herror] at h
        cases h
      · rw [rootGraph_port port ports hempty] at h
        obtain rfl := Except.ok.inj h
        exact ⟨rfl, rfl, List.nodup_nil, nodup_foldl_appendNew List.nodup_nil, rfl⟩
  | process pid =>
    cases answer with
    | error error => cases h
    | ok process =>
      obtain rfl := Except.ok.inj h
      rw [addProcess_eq]
      exact ⟨rfl, rfl, List.nodup_nil, nodup_appendNew (l := []) List.nodup_nil _, rfl⟩
  | service unit =>
    cases answer with
    | error error => cases h
    | ok observed =>
      obtain rfl := Except.ok.inj h
      rw [addService_eq]
      exact ⟨rfl, rfl, nodup_appendNew (l := []) List.nodup_nil _, List.nodup_nil, rfl⟩

/-- Around a port nothing but services and logs is looked up. -/
theorem optional_of_related_port {port : Nat} {answer : Lookups.Answer (rootLookup (.port port))}
    {lookup : Lookup} (h : lookup ∈ related (.port port) answer) : lookup.Optional := by
  cases answer with
  | error error => cases h
  | ok ports =>
    rcases List.mem_append.mp h with h | h
    · obtain ⟨unit, -, h⟩ := List.mem_flatMap.mp h
      rcases List.mem_pair.mp h with rfl | rfl <;> trivial
    · obtain ⟨pid, -, rfl⟩ := List.mem_map.mp h
      trivial

end Root

/-! ## §5 Failures are isolated -/

section Isolation

variable {service : InspectService} {target : ResourceTarget}
  {answer : Lookups.Answer (rootLookup target)} {u u' : Trace Lookups} {t t' : Trace Contract}
  {r r' : Result ResourceGraph} {graph : ResourceGraph}

/-- An inspection with a root comes to a graph. -/
theorem Asked.exists_graph (h : Asked service target answer u t)
    (hrun : (service.inspectTarget target).Run t r) (hroot : ¬RootFails target answer) :
    ∃ graph, rootGraph target answer = .ok graph ∧
      r = .ok (finalizeLogs (u.foldl (grow target) graph)) := by
  rw [h.result hrun, concluded]
  cases hgraph : rootGraph target answer with
  | error error => exact absurd (rootGraph_error_iff.mp ⟨error, hgraph⟩) hroot
  | ok graph => exact ⟨graph, rfl, rfl⟩

theorem concluded_error_iff :
    (∃ error, concluded target answer u = .error error) ↔ RootFails target answer := by
  rw [← rootGraph_error_iff, concluded]
  cases rootGraph target answer with
  | error error => exact Iff.rfl
  | ok graph => exact ⟨fun ⟨_, h⟩ => (by cases h), fun ⟨_, h⟩ => (by cases h)⟩

/-- The resources of a graph are told apart by their names. -/
theorem names_nodup (hrun : (service.inspectTarget target).Run t (.ok graph)) :
    (graph.services.map (·.unitName)).Nodup ∧
      ∀ port, target = .port port → (graph.processes.map (·.pid)).Nodup := by
  obtain ⟨answer, u, hasked, hresult⟩ := inspectTarget_run_iff.mp hrun
  unfold concluded at hresult
  cases hgraph : rootGraph target answer with
  | error error =>
    rw [hgraph] at hresult
    cases hresult
  | ok base =>
    rw [hgraph] at hresult
    obtain rfl := Except.ok.inj hresult
    have hbase := rootGraph_ok hgraph
    refine ⟨foldl_grow_services_nodup hbase.services u, ?_⟩
    rintro port rfl
    -- no lookup around a port touches the processes
    have hoptional : ∀ event ∈ u, event.1.Optional := fun event hmem =>
      optional_of_related_port (hasked.calls ▸ List.mem_map_of_mem hmem)
    show ((u.foldl (grow (.port port)) base).processes.map (·.pid)).Nodup
    rw [foldl_grow_processes hoptional]
    exact hbase.processes

/-- **Failures are isolated.** An inspection fails exactly if there is no root. Of two
    inspections with the same root and the same answers, but for lookups that fail in the
    second (those that `may`), both come to a graph of the target, and a kind of lookup that
    does not fail leaves its part of the graph as it is. Every lookup leaves its own warnings
    or, when it fails, exactly one with the code of its error. -/
theorem failures_isolated (service : InspectService) (target : ResourceTarget) :
    (∀ t r, (service.inspectTarget target).Run t r → ∃ answer u, Asked service target answer u t ∧
      ((∃ error, r = .error error) ↔ RootFails target answer)) ∧
    (∀ answer u u' t t' r r' (may : Lookup → Prop), ¬RootFails target answer →
      Asked service target answer u t → (service.inspectTarget target).Run t r →
      Asked service target answer u' t' → (service.inspectTarget target).Run t' r' →
      (∀ lookup, may lookup → lookup.Optional) → List.Forall₂ (Degraded may) u u' →
      ∃ graph graph', r = .ok graph ∧ r' = .ok graph' ∧ graph.root = target ∧
        graph'.root = target ∧ graph'.processes = graph.processes ∧
        ((∀ unit, ¬may (.service unit)) → graph'.services = graph.services) ∧
        ((∀ query, ¬may (.ports query)) → graph'.ports = graph.ports) ∧
        ((∀ query, ¬may (.logs query)) → graph'.recentLogs = graph.recentLogs) ∧
        graph.warnings = lookupWarnings answer ++ u.flatMap (fun event => lookupWarnings event.2) ∧
        graph'.warnings = lookupWarnings answer ++ u'.flatMap (fun event => lookupWarnings event.2) ∧
        ∀ event ∈ u', ∀ error, event.2 = .error error →
          ∃ warning, lookupWarnings event.2 = [warning] ∧ warning.code = error.code) ∧
    ∀ t graph, (service.inspectTarget target).Run t (.ok graph) →
      (graph.services.map (·.unitName)).Nodup ∧
        ∀ port, target = .port port → (graph.processes.map (·.pid)).Nodup := by
  refine ⟨?_, ?_, fun t graph => names_nodup⟩
  · intro t r hrun
    obtain ⟨answer, u, hasked, rfl⟩ := inspectTarget_run_iff.mp hrun
    exact ⟨answer, u, hasked, concluded_error_iff⟩
  · intro answer u u' t t' r r' may hroot hasked hrun hasked' hrun' hoptional hdegraded
    obtain ⟨base, hbase, rfl⟩ := hasked.exists_graph hrun hroot
    obtain ⟨base', hbase', rfl⟩ := hasked'.exists_graph hrun' hroot
    obtain rfl : base = base' := Except.ok.inj (hbase.symm.trans hbase')
    -- both start from the graph of the root, which the lookups do not see
    have hstart := rootGraph_ok hbase
    have hagree : Agree may (u.foldl (grow target) base) (u'.foldl (grow target) base) :=
      Agree.refl.foldl_grow hoptional hdegraded
    refine ⟨_, _, rfl, rfl, ?_, ?_, hagree.processes, hagree.services, hagree.ports, ?_, ?_, ?_, ?_⟩
    · exact (foldl_grow_root u).trans hstart.root
    · exact (foldl_grow_root u').trans hstart.root
    · intro hnone
      simp only [finalizeLogs, hagree.recentLogs hnone]
    · rw [← hstart.warnings]
      exact foldl_grow_warnings u
    · rw [← hstart.warnings]
      exact foldl_grow_warnings u'
    · intro event _ error hfailed
      rw [hfailed]
      exact ⟨warningFrom error, rfl, rfl⟩

end Isolation

/-- LX with PID 900 on a host without systemd. -/
def bareInspect : InspectService :=
  ⟨⟨⟨⟨900, none⟩, none, 2000⟩, ⟨900, none⟩, {}⟩, ⟨⟨900, none⟩, none, 2000⟩, ⟨900, none⟩,
    {}, {}⟩

def refused : Error := ⟨.permissionDenied, "", 13, "", ""⟩

/-- The lookups around process 42, whose sockets cannot be listed. -/
def bareLookups (logs : Result (Observation (List JournalEntry))) : Trace Lookups :=
  [⟨.ports {}, .error refused⟩, ⟨.logs (pidLogs 42), logs⟩]

def bareExchange (logs : Result (Observation (List JournalEntry))) : Trace Contract :=
  [⟨.getProcess 42, .ok ⟨{ pid := 42 }, []⟩⟩, ⟨.querySockets {}, .error refused⟩,
    ⟨.queryJournal (pidLogs 42), logs⟩]

theorem bareLookups_asked (logs : Result (Observation (List JournalEntry))) :
    Asked bareInspect (.process 42) (.ok ⟨{ pid := 42 }, []⟩) (bareLookups logs)
      (bareExchange logs) where
  calls := rfl
  exchange := by
    refine implements_cons_iff.mpr ⟨[⟨.getProcess 42, _⟩], _, rfl, ⟨_, _, rfl, rfl, rfl⟩, ?_⟩
    refine implements_cons_iff.mpr ⟨[⟨.querySockets {}, _⟩], _, rfl, ⟨_, _, rfl, rfl, rfl⟩, ?_⟩
    exact implements_cons_iff.mpr
      ⟨[⟨.queryJournal (pidLogs 42), logs⟩], [], rfl, ⟨_, _, rfl, rfl, rfl⟩, .nil⟩

/-- The journal of the process cannot be read: only the logs go missing. -/
theorem failures_isolated_logs :
    ∃ graph graph', concluded (.process 42) (.ok ⟨{ pid := 42 }, []⟩)
        (bareLookups (.ok ⟨[{ timestamp := 1 }], []⟩)) = .ok graph ∧
      concluded (.process 42) (.ok ⟨{ pid := 42 }, []⟩) (bareLookups (.error refused)) = .ok graph' ∧
      graph'.processes = graph.processes ∧ graph'.ports = graph.ports ∧
      graph'.warnings = [warningFrom refused, warningFrom refused] := by
  have hasked := bareLookups_asked (.ok ⟨[{ timestamp := 1 }], []⟩)
  have hasked' := bareLookups_asked (.error refused)
  have hdegraded : List.Forall₂ (Degraded fun lookup => lookup = .logs (pidLogs 42))
      (bareLookups (.ok ⟨[{ timestamp := 1 }], []⟩)) (bareLookups (.error refused)) :=
    .cons (.inl rfl) (.cons (.inr ⟨rfl, rfl, refused, rfl⟩) .nil)
  obtain ⟨graph, graph', hgraph, hgraph', -, -, hprocesses, -, hports, -, -, hwarnings, -⟩ :=
    (failures_isolated bareInspect (.process 42)).2.1 _ _ _ _ _ _ _
      (fun lookup => lookup = .logs (pidLogs 42)) id hasked
      (inspectTarget_run_iff.mpr ⟨_, _, hasked, rfl⟩) hasked'
      (inspectTarget_run_iff.mpr ⟨_, _, hasked', rfl⟩)
      (by rintro lookup rfl; trivial) hdegraded
  refine ⟨graph, graph', hgraph, hgraph', hprocesses, hports fun query h => ?_, hwarnings⟩
  cases h

end InspectService

end Lx
