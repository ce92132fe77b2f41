import Lx.Application.ProcessService
import Lx.Lib.Simulation
import Mathlib.Data.List.Flatten

/-!
# Filtered listings

`ProcessService::list` leaves out processes before it looks up their units, and it gives up
when it is asked for a unit and the service manager cannot be reached. It is compared with
the plain path here, which lists everything and filters afterwards
(`src/application/ProcessService.cpp`).
-/

namespace Lx

open Interaction World

/-! ## §1 What is answered -/

/-- What the providers say while listings are made. -/
structure Directory where
  processes : Result (Observation (List ProcessInfo))
  unit : Int → Result (Option Bytes)

namespace Directory

variable (directory : Directory)

def Answers (c : Call) (x : c.Answer) : Prop :=
  match c, x with
  | .listProcesses, observed => observed = directory.processes
  | .unitByPid pid, unit => unit = directory.unit pid
  | _, _ => True

/-- The outcome of a unit lookup. -/
def lookup (pid : Int) : Result (Option Bytes) :=
  if pid ≤ 0 then .error ⟨.invalidArgument, "PID must be greater than zero", 0, "service", "resolve PID"⟩
  else directory.unit pid

end Directory

namespace ProcessService

section Filters

variable {service : ProcessService} {directory : Directory} {t : Trace Contract}

theorem lookup_answered {services : ServiceService} {pid : Int} {r : Result (Option Bytes)}
    (h : (services.unitByPid pid).Run t r) (hanswers : ∀ e ∈ t, directory.Answers e.1 e.2) :
    r = directory.lookup pid := by
  unfold ServiceService.unitByPid at h
  unfold Directory.lookup
  split at h
  · rename_i hpid
    rw [if_pos hpid]
    exact h.2
  · rename_i hpid
    rw [if_neg hpid]
    obtain rfl := Prog.run_perform.mp h
    exact hanswers ⟨.unitByPid pid, r⟩ (by simp)

/-- A listed process with its unit, and the warnings of the lookup. -/
def attached (service : ProcessService) (directory : Directory) (process : ProcessInfo) :
    Observation ProcessInfo :=
  if service.serviceService_.isSome then attachUnit ⟨process, []⟩ (directory.lookup process.pid)
  else ⟨process, []⟩

/-- The service manager cannot be reached for this process. -/
def Unreachable (service : ProcessService) (directory : Directory) (pid : Int) (error : Error) : Prop :=
  service.serviceService_.isSome ∧ directory.lookup pid = .error error ∧ error.code = .unavailable

/-- The unit is the one that is asked for, if one is. -/
def ofUnit (query : ProcessQuery) (process : ProcessInfo) : Bool :=
  !(query.systemdUnit.isSome && process.systemdUnit != query.systemdUnit)

theorem attached_fields (service : ProcessService) (directory : Directory) (process : ProcessInfo) :
    ∃ systemdUnit, (attached service directory process).value = { process with systemdUnit } := by
  unfold attached
  split
  · obtain ⟨systemdUnit, hvalue⟩ := attachUnit_value ⟨process, []⟩ (directory.lookup process.pid)
    exact ⟨systemdUnit, hvalue⟩
  · exact ⟨process.systemdUnit, rfl⟩

/-- The other filters do not look at the unit. -/
theorem selects_attached (query : ProcessQuery) (process : ProcessInfo) :
    selects query (attached service directory process).value = selects query process := by
  obtain ⟨systemdUnit, hvalue⟩ := attached_fields service directory process
  rw [hvalue]
  rfl

/-! ## §2 The loop -/

/-- The rows that are kept of some listed processes. -/
def keptRows (service : ProcessService) (directory : Directory) (query : ProcessQuery)
    (processes : List ProcessInfo) : List ProcessInfo :=
  ((processes.filter (selects query)).map fun process =>
    (attached service directory process).value).filter (ofUnit query)

/-- The warnings of their lookups. -/
def lookupWarnings (service : ProcessService) (directory : Directory) (query : ProcessQuery)
    (processes : List ProcessInfo) : List Warning :=
  (processes.filter (selects query)).flatMap fun process =>
    (attached service directory process).warnings

/-- A process that is selected stops the loop. -/
def Stops (service : ProcessService) (directory : Directory) (query : ProcessQuery)
    (process : ProcessInfo) (error : Error) : Prop :=
  query.systemdUnit.isSome ∧ selects query process = true ∧
    service.Unreachable directory process.pid error

theorem kept_cons {query : ProcessQuery} {process : ProcessInfo} {rest : List ProcessInfo}
    (hselects : selects query process = true) :
    service.keptRows directory query (process :: rest) =
      [(attached service directory process).value].filter (ofUnit query) ++
        service.keptRows directory query rest := by
  simp only [keptRows, List.filter_cons_of_pos hselects, List.map_cons]
  rw [← List.filter_append, List.singleton_append]

theorem kept_skip {query : ProcessQuery} {process : ProcessInfo} {rest : List ProcessInfo}
    (hselects : selects query process = false) :
    service.keptRows directory query (process :: rest) = service.keptRows directory query rest := by
  simp [keptRows, hselects]

theorem warned_cons {query : ProcessQuery} {process : ProcessInfo} {rest : List ProcessInfo}
    (hselects : selects query process = true) :
    service.lookupWarnings directory query (process :: rest) =
      (attached service directory process).warnings ++ service.lookupWarnings directory query rest := by
  simp [lookupWarnings, hselects]

theorem warned_skip {query : ProcessQuery} {process : ProcessInfo} {rest : List ProcessInfo}
    (hselects : selects query process = false) :
    service.lookupWarnings directory query (process :: rest) =
      service.lookupWarnings directory query rest := by
  simp [lookupWarnings, hselects]

/-- The first of some processes that stops the loop, with its error. -/
def StoppedBy (service : ProcessService) (directory : Directory) (query : ProcessQuery)
    (processes : List ProcessInfo) (error : Error) : Prop :=
  ∃ before process after, processes = before ++ process :: after ∧
    (∀ other ∈ before, ∀ error, ¬ service.Stops directory query other error) ∧
    service.Stops directory query process error

theorem StoppedBy.cons {query : ProcessQuery} {process : ProcessInfo} {rest : List ProcessInfo}
    {error : Error} (hgo : ∀ error, ¬ service.Stops directory query process error)
    (h : service.StoppedBy directory query rest error) :
    service.StoppedBy directory query (process :: rest) error := by
  obtain ⟨before, last, after, rfl, hbefore, hstops⟩ := h
  exact ⟨process :: before, last, after, rfl, List.forall_mem_cons.mpr ⟨hgo, hbefore⟩, hstops⟩

/-- Going on after a process, whatever came of its lookup. -/
theorem keep_run {query : ProcessQuery} {rest : List ProcessInfo} {row : ProcessInfo}
    {value : List ProcessInfo} {warnings : List Warning} {r : Result (Observation (List ProcessInfo))}
    (h : (if query.systemdUnit.isSome ∧ row.systemdUnit ≠ query.systemdUnit then
      service.collect query rest ⟨value, warnings⟩
    else service.collect query rest ⟨value ++ [row], warnings⟩).Run t r) :
    (service.collect query rest ⟨value ++ [row].filter (ofUnit query), warnings⟩).Run t r := by
  by_cases hskip : query.systemdUnit.isSome ∧ row.systemdUnit ≠ query.systemdUnit
  · have hno : ofUnit query row = false := by simp [ofUnit, hskip.1, hskip.2]
    rw [if_pos hskip] at h
    simpa [hno] using h
  · have hyes : ofUnit query row = true := by
      cases hsome : query.systemdUnit.isSome with
      | false => simp [ofUnit, hsome]
      | true =>
        have hsame : row.systemdUnit = query.systemdUnit :=
          by_contra fun hne => hskip ⟨hsome, hne⟩
        simp [ofUnit, hsame]
    rw [if_neg hskip] at h
    simpa [hyes] using h

/-- One selected process: it stops the loop, or its row is added. -/
theorem collect_cons {query : ProcessQuery} {process : ProcessInfo} {rest : List ProcessInfo}
    {found : Observation (List ProcessInfo)} {r : Result (Observation (List ProcessInfo))}
    (hselects : selects query process = true)
    (h : (service.collect query (process :: rest) found).Run t r)
    (hanswers : ∀ e ∈ t, directory.Answers e.1 e.2) :
    (∃ error, service.Stops directory query process error ∧ r = .error error) ∨
      ((∀ error, ¬ service.Stops directory query process error) ∧ ∃ u : Trace Contract, u ⊆ t ∧
        (service.collect query rest
          ⟨found.value ++ [(attached service directory process).value].filter (ofUnit query),
            found.warnings ++ (attached service directory process).warnings⟩).Run u r) := by
  simp only [collect] at h
  rw [hselects, if_neg (by simp)] at h
  cases hservices : service.serviceService_ with
  | none =>
    rw [hservices] at h
    refine .inr ⟨fun error hstops => ?_, t, List.Subset.refl t, ?_⟩
    · simp [Stops, Unreachable, hservices] at hstops
    · simpa [attached, hservices] using keep_run h
  | some services =>
    rw [hservices] at h
    obtain ⟨unit, t₁, t₂, hlookup, hmore, rfl⟩ := Prog.run_bind_iff.mp h
    have hunit := lookup_answered hlookup fun e he => hanswers e (List.mem_append_left _ he)
    have hsub : t₂ ⊆ t₁ ++ t₂ := List.subset_append_right _ _
    have hattached : attached service directory process = attachUnit ⟨process, []⟩ unit := by
      rw [attached, hservices, ← hunit]
      rfl
    rw [hattached]
    cases unit with
    | ok systemdUnit =>
      refine .inr ⟨fun error hstops => ?_, t₂, hsub, ?_⟩
      · have hfails := hstops.2.2.2.1
        rw [← hunit] at hfails
        cases hfails
      · simpa [attachUnit] using keep_run hmore
    | error error =>
      dsimp only at hmore
      by_cases hunavailable : query.systemdUnit.isSome ∧ error.code = .unavailable
      · rw [if_pos hunavailable] at hmore
        exact .inl ⟨error, ⟨hunavailable.1, hselects, by simp [hservices], hunit.symm,
          hunavailable.2⟩, hmore.2⟩
      rw [if_neg hunavailable] at hmore
      refine .inr ⟨fun other hstops => ?_, t₂, hsub, ?_⟩
      · obtain ⟨hasked, -, -, hfails, hcode⟩ := hstops
        rw [← hunit] at hfails
        obtain rfl := Except.error.inj hfails
        exact hunavailable ⟨hasked, hcode⟩
      -- the error is dropped or becomes a warning
      cases hquiet : lookupErrorIsQuiet error with
      | true =>
        rw [hquiet, if_pos rfl] at hmore
        simpa [attachUnit, hquiet] using keep_run hmore
      | false =>
        rw [hquiet, if_neg (by decide)] at hmore
        simpa [attachUnit, hquiet] using keep_run hmore

theorem collect_answered {query : ProcessQuery} {processes : List ProcessInfo}
    {found : Observation (List ProcessInfo)} {r : Result (Observation (List ProcessInfo))}
    (h : (service.collect query processes found).Run t r)
    (hanswers : ∀ e ∈ t, directory.Answers e.1 e.2) :
    (∃ error, service.StoppedBy directory query processes error ∧ r = .error error) ∨
      ((∀ process ∈ processes, ∀ error, ¬ service.Stops directory query process error) ∧
        r = .ok ⟨found.value ++ service.keptRows directory query processes,
          found.warnings ++ service.lookupWarnings directory query processes⟩) := by
  induction processes generalizing found t with
  | nil => exact .inr ⟨by simp, by simpa [keptRows, lookupWarnings] using h.2⟩
  | cons process rest ih =>
    cases hselects : selects query process with
    | false =>
      have hskip : (service.collect query rest found).Run t r := by
        simp only [collect] at h
        rwa [hselects, if_pos (by rfl)] at h
      have hgo : ∀ error, ¬ service.Stops directory query process error := by
        intro error hstops
        rw [hstops.2.1] at hselects
        cases hselects
      rw [kept_skip hselects, warned_skip hselects]
      rcases ih hskip hanswers with ⟨error, hstopped, hr⟩ | ⟨hgoes, hr⟩
      · exact .inl ⟨error, hstopped.cons hgo, hr⟩
      · exact .inr ⟨List.forall_mem_cons.mpr ⟨hgo, hgoes⟩, hr⟩
    | true =>
      rw [kept_cons hselects, warned_cons hselects]
      rcases collect_cons hselects h hanswers with ⟨error, hstops, hr⟩ | ⟨hgo, u, hu, hmore⟩
      · exact .inl ⟨error, ⟨[], process, rest, rfl, by simp, hstops⟩, hr⟩
      rcases ih hmore fun e he => hanswers e (hu he) with ⟨error, hstopped, hr⟩ | ⟨hgoes, hr⟩
      · exact .inl ⟨error, hstopped.cons hgo, hr⟩
      · refine .inr ⟨List.forall_mem_cons.mpr ⟨hgo, hgoes⟩, ?_⟩
        simpa [List.append_assoc] using hr

/-! ## §3 The listing -/

theorem list_answered {query checked : ProcessQuery} {observed : Observation (List ProcessInfo)}
    {r : Result (Observation (List ProcessInfo))} (hchecked : service.checkQuery query = .ok checked)
    (hobserved : directory.processes = .ok observed) (h : (service.list query).Run t r)
    (hanswers : ∀ e ∈ t, directory.Answers e.1 e.2) :
    (∃ error, service.StoppedBy directory checked observed.value error ∧ r = .error error) ∨
      ((∀ process ∈ observed.value, ∀ error, ¬ service.Stops directory checked process error) ∧
        r = .ok ⟨service.keptRows directory checked observed.value,
          observed.warnings ++ service.lookupWarnings directory checked observed.value⟩) := by
  unfold list at h
  rw [hchecked] at h
  obtain ⟨x, t₁, t₂, hlist, hrest, rfl⟩ := Prog.run_bind_iff.mp h
  obtain rfl := Prog.run_perform.mp hlist
  have hx : x = directory.processes := hanswers ⟨.listProcesses, x⟩ (by simp)
  rw [hx, hobserved] at hrest
  exact collect_answered hrest fun e he => hanswers e (List.mem_append_right _ he)

/-- The full listing: a row for every process. -/
def wholeListing (service : ProcessService) (directory : Directory)
    (observed : Observation (List ProcessInfo)) : Observation (List ProcessInfo) where
  value := observed.value.map fun process => (attached service directory process).value
  warnings := observed.warnings ++
    observed.value.flatMap fun process => (attached service directory process).warnings

theorem list_whole {observed : Observation (List ProcessInfo)}
    {r : Result (Observation (List ProcessInfo))} (hobserved : directory.processes = .ok observed)
    (h : (service.list {}).Run t r) (hanswers : ∀ e ∈ t, directory.Answers e.1 e.2) :
    r = .ok (service.wholeListing directory observed) := by
  have hselects : selects {} = fun _ => true := rfl
  have hunit : ofUnit {} = fun _ => true := rfl
  have hchecked : service.checkQuery {} = .ok {} := rfl
  rcases list_answered hchecked hobserved h hanswers with ⟨_, hstopped, -⟩ | ⟨-, rfl⟩
  · obtain ⟨_, _, _, -, -, hasked, -⟩ := hstopped
    cases hasked
  · simp [wholeListing, keptRows, lookupWarnings, hselects, hunit]

theorem kept_eq {query : ProcessQuery} {observed : Observation (List ProcessInfo)} :
    service.keptRows directory query observed.value =
      (service.wholeListing directory observed).value.filter
        (fun row => selects query row && ofUnit query row) := by
  have hselects : (selects query ∘ fun process => (attached service directory process).value) =
      selects query := funext fun process => selects_attached query process
  simp only [Bool.and_comm (selects query _)]
  rw [wholeListing, ← List.filter_filter, List.filter_map, hselects, keptRows]

theorem warned_sublist {query : ProcessQuery} {observed : Observation (List ProcessInfo)} :
    (observed.warnings ++ service.lookupWarnings directory query observed.value).Sublist
      (service.wholeListing directory observed).warnings :=
  (List.Sublist.refl _).append (List.filter_sublist.flatMap _)

/-- The calls of a listing. -/
def IsListing (c : Call) : Prop := c = .listProcesses ∨ ∃ pid, c = .unitByPid pid

theorem unitByPid_responsive {services : ServiceService} {pid : Int} :
    Responsive IsListing (services.unitByPid pid) := by
  unfold ServiceService.unitByPid
  split_ifs
  · trivial
  · exact responsive_perform (.inr ⟨pid, rfl⟩)

theorem collect_responsive {query : ProcessQuery} {processes : List ProcessInfo}
    {found : Observation (List ProcessInfo)} :
    Responsive IsListing (service.collect query processes found) := by
  induction processes generalizing found with
  | nil => trivial
  | cons process rest ih =>
    have hkeep : ∀ (row : ProcessInfo) (warnings : List Warning), Responsive IsListing
        (if query.systemdUnit.isSome ∧ row.systemdUnit ≠ query.systemdUnit then
          service.collect query rest ⟨found.value, warnings⟩
        else service.collect query rest ⟨found.value ++ [row], warnings⟩) := by
      intro row warnings
      split_ifs
      · exact ih
      · exact ih
    simp only [collect]
    by_cases hskip : (!selects query process) = true
    · rw [if_pos hskip]
      exact ih
    rw [if_neg hskip]
    cases service.serviceService_ with
    | none => exact hkeep process found.warnings
    | some services =>
      refine Responsive.bind unitByPid_responsive fun unit => ?_
      cases unit with
      | ok systemdUnit => exact hkeep { process with systemdUnit } found.warnings
      | error error =>
        dsimp only
        by_cases hunavailable : query.systemdUnit.isSome ∧ error.code = .unavailable
        · rw [if_pos hunavailable]
          trivial
        rw [if_neg hunavailable]
        cases lookupErrorIsQuiet error with
        | true => exact hkeep process found.warnings
        | false => exact hkeep process (found.warnings ++ [warningFrom error])

theorem list_responsive {query : ProcessQuery} : Responsive IsListing (service.list query) := by
  unfold list
  cases service.checkQuery query with
  | error error => trivial
  | ok checked =>
    refine Responsive.bind (p := contract .listProcesses) (responsive_perform (.inl rfl)) ?_
    intro observed
    cases observed with
    | error error => trivial
    | ok observed => exact collect_responsive

/-- The directory answers every call of a listing. -/
theorem answers_listing (directory : Directory) (c : Call) (hc : IsListing c) :
    ∃ x, directory.Answers c x := by
  rcases hc with rfl | ⟨pid, rfl⟩
  · exact ⟨directory.processes, rfl⟩
  · exact ⟨directory.unit pid, rfl⟩

/-- A filtered listing is the full listing with the rows that pass the filters left in place,
    and it warns of nothing else. Nothing is asked when the query is refused. Asked for a
    unit, it ends with the first selected process for which the service manager cannot be
    reached; apart from this only the provider makes it fail. -/
theorem list_filters (service : ProcessService) (directory : Directory) (query : ProcessQuery) :
    (∃ t r, (service.list query).Run t r ∧ ∀ e ∈ t, directory.Answers e.1 e.2) ∧
    ∀ t r, (service.list query).Run t r → (∀ e ∈ t, directory.Answers e.1 e.2) →
      (∀ error, service.checkQuery query = .error error → t = [] ∧ r = .error error) ∧
      ∀ checked, service.checkQuery query = .ok checked →
        (∀ error, directory.processes = .error error → r = .error error) ∧
        ∀ observed, directory.processes = .ok observed → ∃ whole,
          (∀ u s, (service.list {}).Run u s → (∀ e ∈ u, directory.Answers e.1 e.2) → s = .ok whole) ∧
          ((∃ error, service.StoppedBy directory checked observed.value error ∧ r = .error error) ∨
            ((∀ process ∈ observed.value, ∀ error, ¬ service.Stops directory checked process error) ∧
              ∃ result, r = .ok result ∧
                result.value =
                  whole.value.filter (fun row => selects checked row && ofUnit checked row) ∧
                result.warnings.Sublist whole.warnings)) := by
  refine ⟨list_responsive.exists_run (answers_listing directory), fun t r h hanswers => ⟨?_, ?_⟩⟩
  · intro error hchecked
    unfold list at h
    rw [hchecked] at h
    exact h
  intro checked hchecked
  refine ⟨fun error hfails => ?_, fun observed hobserved => ?_⟩
  · unfold list at h
    rw [hchecked] at h
    obtain ⟨x, t₁, t₂, hlist, hrest, rfl⟩ := Prog.run_bind_iff.mp h
    obtain rfl := Prog.run_perform.mp hlist
    have hx : x = directory.processes := hanswers ⟨.listProcesses, x⟩ (by simp)
    rw [hx, hfails] at hrest
    exact hrest.2
  refine ⟨service.wholeListing directory observed,
    fun u s hrun hsaid => list_whole hobserved hrun hsaid, ?_⟩
  rcases list_answered hchecked hobserved h hanswers with hstopped | ⟨hgoes, hr⟩
  · exact .inl hstopped
  · exact .inr ⟨hgoes, _, hr, kept_eq, warned_sublist⟩

end Filters

/-- A shell of a session and a daemon with a unit. -/
def sessionDirectory : Directory where
  processes := .ok ⟨[{ pid := 42, name := Bytes.ofString "sh" },
    { pid := 43, name := Bytes.ofString "sshd" }], []⟩
  unit pid := if pid = 43 then .ok (some (Bytes.ofString "ssh.service")) else .ok none

theorem list_filters_unit : ∃ t result,
    ((⟨7, some ⟨⟩⟩ : ProcessService).list
      { systemdUnit := some (Bytes.ofString "ssh") }).Run t (.ok result) ∧
      result.value.map ProcessInfo.pid = [43] := by
  obtain ⟨⟨t, r, hrun, hanswers⟩, hlist⟩ := list_filters ⟨7, some ⟨⟩⟩ sessionDirectory
    { systemdUnit := some (Bytes.ofString "ssh") }
  obtain ⟨⟨u, s, hall, hsaid⟩, -⟩ := list_filters ⟨7, some ⟨⟩⟩ sessionDirectory {}
  obtain ⟨-, hchecked⟩ := hlist t r hrun hanswers
  obtain ⟨-, hshown⟩ := hchecked { systemdUnit := some (Bytes.ofString "ssh.service") } (by decide)
  obtain ⟨whole, hwhole, hstopped | ⟨-, result, rfl, hvalue, -⟩⟩ := hshown _ rfl
  · -- a lookup fails for an invalid PID only
    obtain ⟨error, ⟨_, process, _, -, -, -, -, -, hfails, hcode⟩, -⟩ := hstopped
    simp only [Directory.lookup, sessionDirectory] at hfails
    split_ifs at hfails
    obtain rfl := Except.error.inj hfails
    cases hcode
  · have hrows : whole = _ := Except.ok.inj
      ((hwhole u s hall hsaid).symm.trans (list_whole rfl hall hsaid))
    refine ⟨t, result, hrun, ?_⟩
    rw [hvalue, hrows]
    decide

end ProcessService

end Lx
