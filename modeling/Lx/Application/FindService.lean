import Lx.Application.PortService
import Mathlib.Data.List.Dedup
import Mathlib.Data.List.Infix
import Mathlib.Data.List.Sort

/-!
# FindService

The search over services, processes and ports (`src/application/FindService.cpp`). A
resource is found when one of its texts contains the query, letter case aside, or when it
belongs to a resource that was found: processes to their unit, ports to their owners and
the owners' units.

## Layers

- The functions of the source (§1).
- The substring test: what it makes of a longer query (§2).
- The search as a function of what was looked up: every list shrinks as the query grows
  (§3).
- Runs of `find` with the same lookups (§4).
-/

namespace Lx

open Interaction

structure FindService where
  portService_ : PortService
  processService_ : ProcessService
  serviceService_ : ServiceService
  deriving DecidableEq, Repr

namespace FindService

/-! ## §1 The search -/

def contains (value needle : Bytes) : Bool := decide (needle <:+: Bytes.lower value)

def serviceMatches (service : ServiceInfo) (query : Bytes) : Bool :=
  contains service.unitName query || contains service.description query

def processMatches (process : ProcessInfo) (query : Bytes) : Bool :=
  contains process.name query || contains process.user query ||
    process.executable.any (contains · query) || process.argv.any (contains · query)

/-- What the three lookups returned. -/
structure Lookups where
  services : Result (Observation (List ServiceInfo))
  processes : Observation (List ProcessInfo)
  ports : Result (Observation (List PortInfo))
  deriving DecidableEq, Repr

/-- The rows of a lookup, none when it failed. -/
def rows {α : Type} (lookup : Result (Observation (List α))) : List α :=
  match lookup with
  | .ok observed => observed.value
  | .error _ => []

section Search

variable (query : Bytes) (lookups : Lookups)

def foundServices : List ServiceInfo := (rows lookups.services).filter (serviceMatches · query)

def matchedUnits : List Bytes := (foundServices query lookups).map (·.unitName)

/-- The process matches, or its unit was found. -/
def foundProcesses : List ProcessInfo :=
  lookups.processes.value.filter fun process =>
    processMatches process query || process.systemdUnit.any (matchedUnits query lookups).contains

def matchedPids : List Int := (foundProcesses query lookups).map (·.pid)

/-- `std::set` of the executables. -/
def foundExecutables : List Bytes :=
  ((foundProcesses query lookups).filterMap (·.executable)).dedup.insertionSort (· ≤ ·)

/-- The number of the port matches, or an owner was found, or the unit of one. -/
def foundPorts : List PortInfo :=
  (rows lookups.ports).filter fun port =>
    contains (Bytes.ofNat port.socket.localEnd.port) query ||
      port.socket.ownerPids.any (matchedPids query lookups).contains ||
      port.owners.any fun owner => owner.systemdUnit.any (matchedUnits query lookups).contains

def search : FindResult where
  services := foundServices query lookups
  processes := foundProcesses query lookups
  ports := foundPorts query lookups
  executables := foundExecutables query lookups
  warnings := lookupWarnings lookups.services ++ lookups.processes.warnings ++
    lookupWarnings lookups.ports

end Search

/-- A search that found nothing is an error; it names the query as it was typed. -/
def conclude (query : Bytes) (result : FindResult) : Result FindResult :=
  if result.services.isEmpty && result.processes.isEmpty && result.ports.isEmpty &&
      result.executables.isEmpty then
    .error ⟨.notFound, Bytes.ofString "No observable resource matched \"" ++ query ++
      Bytes.ofString "\"", 0, "find-service", "find"⟩
  else .ok result

def find (self : FindService) (query : Bytes) : App (Result FindResult) :=
  let normalized := Bytes.lower query
  if normalized.isEmpty then
    -- an empty query would match everything
    return .error ⟨.invalidArgument, "Find query must not be empty", 0, "find-service", "find"⟩
  else do
    let services ← self.serviceService_.list
    match ← self.processService_.list {} with
    -- without processes there is nothing to search
    | .error error => return .error error
    | .ok processes =>
      let ports ← self.portService_.inspect {}
      return conclude query (search normalized ⟨services, processes, ports⟩)

/-! ## §2 The substring test -/

section Contains

variable {query query' : Bytes}

/-- A text that contains the longer query contains the shorter one. -/
theorem contains_mono (h : query <:+: query') {value : Bytes} (hvalue : contains value query' = true) :
    contains value query = true := by
  unfold contains at hvalue ⊢
  simp only [decide_eq_true_eq] at hvalue ⊢
  exact h.trans hvalue

theorem serviceMatches_mono (h : query <:+: query') {service : ServiceInfo}
    (hmatch : serviceMatches service query' = true) : serviceMatches service query = true := by
  simp only [serviceMatches, Bool.or_eq_true] at hmatch ⊢
  exact hmatch.imp (contains_mono h) (contains_mono h)

theorem processMatches_mono (h : query <:+: query') {process : ProcessInfo}
    (hmatch : processMatches process query' = true) : processMatches process query = true := by
  simp only [processMatches, Bool.or_eq_true, Option.any_eq_true, List.any_eq_true] at hmatch ⊢
  -- the text that matched matches the shorter query
  rcases hmatch with ((hname | huser) | ⟨executable, hsome, hmatch⟩) | ⟨argument, hmem, hmatch⟩
  · exact .inl (.inl (.inl (contains_mono h hname)))
  · exact .inl (.inl (.inr (contains_mono h huser)))
  · exact .inl (.inr ⟨executable, hsome, contains_mono h hmatch⟩)
  · exact .inr ⟨argument, hmem, contains_mono h hmatch⟩

end Contains

/-! ## §3 What is found -/

section Found

variable {query query' : Bytes} {lookups : Lookups}

/-- The unit of a found service is among those of the shorter query. -/
theorem any_matchedUnits_mono (h : query <:+: query') {unit : Option Bytes}
    (hunit : unit.any (matchedUnits query' lookups).contains = true) :
    unit.any (matchedUnits query lookups).contains = true := by
  simp only [Option.any_eq_true, List.contains_iff_mem, matchedUnits, List.mem_map,
    foundServices, List.mem_filter] at hunit ⊢
  obtain ⟨name, hname, service, ⟨hrow, hmatch⟩, heq⟩ := hunit
  exact ⟨name, hname, service, ⟨hrow, serviceMatches_mono h hmatch⟩, heq⟩

theorem foundServices_sublist (h : query <:+: query') :
    (foundServices query' lookups).Sublist (foundServices query lookups) :=
  List.monotone_filter_right _ fun _ => serviceMatches_mono h

theorem foundProcesses_sublist (h : query <:+: query') :
    (foundProcesses query' lookups).Sublist (foundProcesses query lookups) := by
  apply List.monotone_filter_right
  intro process hfound
  rw [Bool.or_eq_true] at hfound ⊢
  exact hfound.imp (processMatches_mono h) (any_matchedUnits_mono h)

theorem foundPorts_sublist (h : query <:+: query') :
    (foundPorts query' lookups).Sublist (foundPorts query lookups) := by
  apply List.monotone_filter_right
  intro port hfound
  simp only [Bool.or_eq_true, List.any_eq_true] at hfound ⊢
  rcases hfound with (hnumber | ⟨pid, hpid, hmatched⟩) | ⟨owner, howner, hmatched⟩
  · exact .inl (.inl (contains_mono h hnumber))
  · -- the owner was found, so it is found by the shorter query
    refine .inl (.inr ⟨pid, hpid, ?_⟩)
    simp only [List.contains_iff_mem, matchedPids, List.mem_map] at hmatched ⊢
    obtain ⟨process, hprocess, rfl⟩ := hmatched
    exact ⟨process, (foundProcesses_sublist h).subset hprocess, rfl⟩
  · exact .inr ⟨owner, howner, any_matchedUnits_mono h hmatched⟩

theorem mem_foundExecutables {executable : Bytes} :
    executable ∈ foundExecutables query lookups ↔
      ∃ process ∈ foundProcesses query lookups, process.executable = some executable := by
  rw [foundExecutables, List.mem_insertionSort, List.mem_dedup, List.mem_filterMap]

theorem foundExecutables_ascending : (foundExecutables query lookups).Pairwise (· < ·) := by
  have hle : (foundExecutables query lookups).Pairwise (· ≤ ·) := List.pairwise_insertionSort _ _
  have hnodup : (foundExecutables query lookups).Nodup :=
    (List.perm_insertionSort _ _).nodup_iff.mpr (List.nodup_dedup _)
  exact (hle.and hnodup).imp fun ⟨hle, hne⟩ => lt_of_le_of_ne hle hne

/-- Two ascending lists, one contained in the other. -/
theorem foundExecutables_sublist (h : query <:+: query') :
    (foundExecutables query' lookups).Sublist (foundExecutables query lookups) := by
  -- found processes stay found, and their executables with them
  have hsubset : foundExecutables query' lookups ⊆ foundExecutables query lookups := by
    intro executable hmem
    obtain ⟨process, hprocess, hexecutable⟩ := mem_foundExecutables.mp hmem
    exact mem_foundExecutables.mpr
      ⟨process, (foundProcesses_sublist h).subset hprocess, hexecutable⟩
  have hnodup : (foundExecutables query' lookups).Nodup := foundExecutables_ascending.imp ne_of_lt
  have hsorted : ∀ query, (foundExecutables query lookups).Pairwise (· ≤ ·) :=
    fun query => List.pairwise_insertionSort _ _
  exact List.sublist_of_subperm_of_pairwise (List.subperm_of_subset hnodup hsubset)
    (hsorted query') (hsorted query)

/-- A search that finds something does so for every shorter query. -/
theorem conclude_ok_of_infix (h : query <:+: query') {typed typed' : Bytes} {result : FindResult}
    (hresult : conclude typed' (search query' lookups) = .ok result) :
    conclude typed (search query lookups) = .ok (search query lookups) := by
  unfold conclude at hresult ⊢
  rw [if_neg]
  intro hempty
  split at hresult
  · cases hresult
  · rename_i hsome
    apply hsome
    simp only [Bool.and_eq_true, List.isEmpty_iff] at hempty ⊢
    obtain ⟨⟨⟨hservices, hprocesses⟩, hports⟩, hexecutables⟩ := hempty
    -- if the shorter query found nothing, the longer one did not either
    have hnone : ∀ {α : Type} {found shorter : List α}, found.Sublist shorter → shorter = [] →
        found = [] := fun hsub heq => List.sublist_nil.mp (heq ▸ hsub)
    exact ⟨⟨⟨hnone (foundServices_sublist h) hservices, hnone (foundProcesses_sublist h) hprocesses⟩,
      hnone (foundPorts_sublist h) hports⟩, hnone (foundExecutables_sublist h) hexecutables⟩

theorem conclude_ok {typed : Bytes} {result found : FindResult}
    (h : conclude typed found = .ok result) : result = found := by
  unfold conclude at h
  split at h
  · cases h
  · exact (Except.ok.inj h).symm

/-- The query as it was typed stands in the message of a failure only. -/
theorem conclude_typed (typed typed' : Bytes) (found : FindResult) :
    (∀ result, conclude typed found = .ok result ↔ conclude typed' found = .ok result) ∧
      ∀ error, conclude typed found = .error error →
        ∃ error', conclude typed' found = .error error' ∧ error'.code = error.code := by
  unfold conclude
  split
  · refine ⟨fun result => ⟨fun h => ?_, fun h => ?_⟩, fun error h => ⟨_, rfl, ?_⟩⟩
    · cases h
    · cases h
    · rw [← Except.error.inj h]
  · refine ⟨fun result => Iff.rfl, fun error h => ?_⟩
    cases h

end Found

/-! ## §4 Runs of a search -/

section Runs

variable {service : FindService} {query : Bytes} {t : Trace Contract}

/-- The lookups do not depend on the query. -/
def lookUp (service : FindService) : App (Result Lookups) := do
  let services ← service.serviceService_.list
  match ← service.processService_.list {} with
  | .error error => return .error error
  | .ok processes =>
    let ports ← service.portService_.inspect {}
    return .ok ⟨services, processes, ports⟩

/-- A search looks up the resources and selects from them. -/
theorem find_run_iff (hquery : query ≠ []) {r : Result FindResult} :
    (service.find query).Run t r ↔ ∃ looked, service.lookUp.Run t looked ∧
      r = looked.bind fun lookups => conclude query (search (Bytes.lower query) lookups) := by
  -- lower-casing keeps the length
  have hlower : (Bytes.lower query).isEmpty = false := by
    simpa [Bytes.lower] using hquery
  unfold find lookUp
  dsimp only
  rw [hlower, if_neg Bool.false_ne_true]
  constructor
  · intro h
    obtain ⟨services, t₁, t₂, hservices, hk, rfl⟩ := Prog.run_bind_iff.mp h
    obtain ⟨processes, t₃, t₄, hprocesses, hk, rfl⟩ := Prog.run_bind_iff.mp hk
    cases processes with
    | error error =>
      obtain ⟨rfl, rfl⟩ := hk
      exact ⟨.error error, Prog.run_bind_iff.mpr ⟨services, t₁, _, hservices,
        Prog.run_bind_iff.mpr ⟨_, t₃, [], hprocesses, ⟨rfl, rfl⟩, rfl⟩, rfl⟩, rfl⟩
    | ok processes =>
      obtain ⟨ports, t₅, t₆, hports, ⟨rfl, rfl⟩, rfl⟩ := Prog.run_bind_iff.mp hk
      exact ⟨.ok ⟨services, processes, ports⟩, Prog.run_bind_iff.mpr ⟨services, t₁, _, hservices,
        Prog.run_bind_iff.mpr ⟨_, t₃, _, hprocesses,
          Prog.run_bind_iff.mpr ⟨ports, t₅, [], hports, ⟨rfl, rfl⟩, rfl⟩, rfl⟩, rfl⟩, rfl⟩
  · rintro ⟨looked, h, rfl⟩
    obtain ⟨services, t₁, t₂, hservices, hk, rfl⟩ := Prog.run_bind_iff.mp h
    obtain ⟨processes, t₃, t₄, hprocesses, hk, rfl⟩ := Prog.run_bind_iff.mp hk
    refine Prog.run_bind_iff.mpr ⟨services, t₁, _, hservices,
      Prog.run_bind_iff.mpr ⟨processes, t₃, t₄, hprocesses, ?_, rfl⟩, rfl⟩
    cases processes with
    | error error =>
      obtain ⟨rfl, rfl⟩ := hk
      exact ⟨rfl, rfl⟩
    | ok processes =>
      obtain ⟨ports, t₅, t₆, hports, ⟨rfl, rfl⟩, rfl⟩ := Prog.run_bind_iff.mp hk
      exact Prog.run_bind_iff.mpr ⟨ports, t₅, [], hports, ⟨rfl, rfl⟩, rfl⟩

/-- What a longer query finds, a shorter one finds too. -/
theorem find_ok_of_infix {query' : Bytes} {result' : FindResult} (hquery : query ≠ [])
    (hquery' : query' ≠ []) (hsub : Bytes.lower query <:+: Bytes.lower query')
    (h : (service.find query').Run t (.ok result')) :
    ∃ result, (service.find query).Run t (.ok result) ∧
      result'.services.Sublist result.services ∧ result'.processes.Sublist result.processes ∧
      result'.ports.Sublist result.ports ∧ result'.executables.Sublist result.executables := by
  obtain ⟨looked, hlook, hresult⟩ := (find_run_iff hquery').mp h
  cases looked with
  | error error => cases hresult
  | ok lookups =>
    have hfound : conclude query (search (Bytes.lower query) lookups) = .ok _ :=
      conclude_ok_of_infix hsub hresult.symm
    refine ⟨_, (find_run_iff hquery).mpr ⟨_, hlook, hfound.symm⟩, ?_⟩
    rw [conclude_ok hresult.symm]
    exact ⟨foundServices_sublist hsub, foundProcesses_sublist hsub, foundPorts_sublist hsub,
      foundExecutables_sublist hsub⟩

/-- Queries of one lower-case form have the same results. Only the text of an error quotes the
    query as typed. -/
theorem find_congr_lower {query' : Bytes} (hquery : query ≠ [])
    (heq : Bytes.lower query = Bytes.lower query') :
    (∀ result, (service.find query).Run t (.ok result) ↔ (service.find query').Run t (.ok result)) ∧
      ∀ error, (service.find query).Run t (.error error) →
        ∃ error', (service.find query').Run t (.error error') ∧ error'.code = error.code := by
  -- both are empty or both are not
  have hquery' : query' ≠ [] := by
    rintro rfl
    exact hquery (List.map_eq_nil_iff.mp heq)
  constructor
  · intro result
    rw [find_run_iff hquery, find_run_iff hquery', ← heq]
    apply exists_congr
    intro looked
    apply and_congr_right
    intro _
    cases looked with
    | error error => exact Iff.rfl
    | ok lookups =>
      rw [eq_comm, eq_comm (a := Except.ok result)]
      exact (conclude_typed query query' _).1 result
  · intro error h
    obtain ⟨looked, hlook, herror⟩ := (find_run_iff hquery).mp h
    cases looked with
    | error error' =>
      -- the processes could not be listed
      obtain rfl := Except.error.inj herror
      exact ⟨_, (find_run_iff hquery').mpr ⟨_, hlook, rfl⟩, rfl⟩
    | ok lookups =>
      obtain ⟨error', herror', hcode⟩ := (conclude_typed query query' _).2 error herror.symm
      rw [heq] at herror'
      exact ⟨error', (find_run_iff hquery').mpr ⟨_, hlook, herror'.symm⟩, hcode⟩

theorem find_executables {result : FindResult} (h : (service.find query).Run t (.ok result)) :
    result.executables.Pairwise (· < ·) ∧ ∀ executable, executable ∈ result.executables ↔
      ∃ process ∈ result.processes, process.executable = some executable := by
  by_cases hquery : query = []
  · -- an empty query finds nothing
    subst hquery
    obtain ⟨-, hr⟩ := h
    cases hr
  · obtain ⟨looked, -, hresult⟩ := (find_run_iff hquery).mp h
    cases looked with
    | error error => cases hresult
    | ok lookups =>
      rw [conclude_ok hresult.symm]
      exact ⟨foundExecutables_ascending, fun _ => mem_foundExecutables⟩

/-- **A longer query finds less, and letter case does not matter.** The runs compared get the
    same answers to their lookups; the executables are those of the processes found. -/
theorem find_antitone (service : FindService) (t : Trace Contract) :
    (∀ (query query' : Bytes) (result' : FindResult), query ≠ [] → query' ≠ [] →
      Bytes.lower query <:+: Bytes.lower query' → (service.find query').Run t (.ok result') →
      ∃ result, (service.find query).Run t (.ok result) ∧
        result'.services.Sublist result.services ∧ result'.processes.Sublist result.processes ∧
        result'.ports.Sublist result.ports ∧ result'.executables.Sublist result.executables) ∧
    (∀ (query query' : Bytes), query ≠ [] → Bytes.lower query = Bytes.lower query' →
      (∀ result, (service.find query).Run t (.ok result) ↔ (service.find query').Run t (.ok result)) ∧
      ∀ error, (service.find query).Run t (.error error) →
        ∃ error', (service.find query').Run t (.error error') ∧ error'.code = error.code) ∧
    ∀ (query : Bytes) (result : FindResult), (service.find query).Run t (.ok result) →
      result.executables.Pairwise (· < ·) ∧ ∀ executable, executable ∈ result.executables ↔
        ∃ process ∈ result.processes, process.executable = some executable := by
  refine ⟨?_, ?_, ?_⟩
  · intro query query' result' hquery hquery' hinfix h
    exact find_ok_of_infix hquery hquery' hinfix h
  · intro query query' hquery heq
    exact find_congr_lower hquery heq
  · intro query result h
    exact find_executables h

end Runs

/-- A service layer without unit lookups. -/
def plainService : FindService := ⟨⟨⟨1, none⟩, none, 0⟩, ⟨1, none⟩, {}⟩

/-- One service, one process, and no ports to be had. -/
def plainExchange : Trace Contract :=
  [⟨.listServices, .ok ⟨[{ unitName := Bytes.ofString "Demo.service" }], []⟩⟩,
    ⟨.listProcesses, .ok ⟨[{ pid := 42, name := Bytes.ofString "demod" }], []⟩⟩,
    ⟨.querySockets {}, .error ⟨.unavailable, "", 0, "", ""⟩⟩]

theorem find_antitone_demo :
    ∃ result, (plainService.find (Bytes.ofString "DEM")).Run plainExchange (.ok result) ∧
      [{ unitName := Bytes.ofString "Demo.service" }].Sublist result.services := by
  have hrun : (plainService.find (Bytes.ofString "demo")).Run plainExchange
      (.ok { services := [{ unitName := Bytes.ofString "Demo.service" }]
             processes := [{ pid := 42, name := Bytes.ofString "demod" }]
             warnings := [⟨.unavailable, "", 0, "", ""⟩] }) :=
    ⟨_, _, rfl, _, _, rfl, _, _, rfl, rfl, rfl⟩
  obtain ⟨result, hresult, hservices, -⟩ := (find_antitone plainService plainExchange).1
    (Bytes.ofString "DEM") (Bytes.ofString "demo") _ (by decide) (by decide) (by decide) hrun
  exact ⟨result, hresult, hservices⟩

end FindService

end Lx
