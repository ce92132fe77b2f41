import Lx.Application.ServiceService

/-!
# ProcessService

Process inspection with its unit lookup, and the guarded signal path
(`src/application/ProcessService.cpp`).
-/

namespace Lx

open Interaction

structure ProcessService where
  selfPid_ : Int
  serviceService_ : Option ServiceService
  deriving DecidableEq, Repr

namespace ProcessService

variable {self : ProcessService} {pid : Int}

/-! ## §1 Inspection -/

/-- The lookup errors that mean "no service manager" or "no unit" and are dropped. -/
def lookupErrorIsQuiet (error : Error) : Bool :=
  error.code == .unavailable || error.code == .notFound

/-- What the unit lookup adds to an observed process. -/
def attachUnit (observed : Observation ProcessInfo) (unit : Result (Option Bytes)) :
    Observation ProcessInfo :=
  match unit with
  | .ok systemdUnit => { observed with value := { observed.value with systemdUnit } }
  | .error error =>
    if lookupErrorIsQuiet error then observed
    else { observed with warnings := observed.warnings ++ [warningFrom error] }

def inspect (self : ProcessService) (pid : Int) : App (Result (Observation ProcessInfo)) :=
  if pid ≤ 0 then
    return .error ⟨.invalidArgument, "PID must be greater than zero", 0,
      "process-service", "inspect"⟩
  else do
    match ← getProcess pid, self.serviceService_ with
    | .error error, _ => return .error error
    | .ok observed, none => return .ok observed
    | .ok observed, some services =>
      let unit ← services.unitByPid pid
      return .ok (attachUnit observed unit)

/-- Unit lookups. -/
def LooksUp (t : Trace Contract) : Prop := ∀ e ∈ t, ∃ pid, e.1 = .unitByPid pid

theorem unitByPid_looksUp {services : ServiceService} {t : Trace Contract}
    {r : Result (Option Bytes)} (h : (services.unitByPid pid).Run t r) : LooksUp t := by
  unfold ServiceService.unitByPid at h
  split_ifs at h
  · rw [h.1]
    intro e he
    cases he
  · obtain rfl := Prog.run_perform.mp h
    intro e he
    obtain rfl := List.mem_singleton.mp he
    exact ⟨pid, rfl⟩

theorem LooksUp.append {t u : Trace Contract} (ht : LooksUp t) (hu : LooksUp u) :
    LooksUp (t ++ u) := by
  intro e he
  rcases List.mem_append.mp he with he | he
  · exact ht e he
  · exact hu e he

theorem attachUnit_value (observed : Observation ProcessInfo) (unit : Result (Option Bytes)) :
    ∃ systemdUnit, (attachUnit observed unit).value = { observed.value with systemdUnit } := by
  cases unit with
  | ok systemdUnit => exact ⟨systemdUnit, rfl⟩
  | error error =>
    refine ⟨observed.value.systemdUnit, ?_⟩
    simp only [attachUnit]
    split_ifs <;> rfl

/-- The calls behind the inspection of one process. -/
theorem inspect_run {t : Trace Contract}
    {r : Result (Observation ProcessInfo)} (h : (self.inspect pid).Run t r) :
    (∃ error, r = .error error ∧ ∀ e ∈ t, ∃ x, e = ⟨.getProcess pid, x⟩) ∨
    (∃ observed, t = [⟨.getProcess pid, .ok observed⟩] ∧ r = .ok observed) ∨
    (∃ observed unit, t = [⟨.getProcess pid, .ok observed⟩, ⟨.unitByPid pid, unit⟩] ∧
      r = .ok (attachUnit observed unit)) := by
  unfold inspect at h
  split at h
  · obtain ⟨rfl, rfl⟩ := h
    exact .inl ⟨_, rfl, by simp⟩
  · rename_i hpos
    obtain ⟨got, _, _, hg, hk, rfl⟩ := Prog.run_bind_iff.mp h
    obtain rfl := Prog.run_perform.mp hg
    split at hk
    · obtain ⟨rfl, rfl⟩ := hk
      exact .inl ⟨_, rfl, fun e he => ⟨_, List.mem_singleton.mp he⟩⟩
    · obtain ⟨rfl, rfl⟩ := hk
      exact .inr (.inl ⟨_, rfl, rfl⟩)
    · obtain ⟨unit, _, _, hu, ⟨rfl, rfl⟩, rfl⟩ := Prog.run_bind_iff.mp hk
      unfold ServiceService.unitByPid at hu
      rw [if_neg hpos] at hu
      obtain rfl := Prog.run_perform.mp hu
      exact .inr (.inr ⟨_, unit, rfl, rfl⟩)

/-- What an inspection shows is the record it got, with a unit attached. -/
theorem inspect_run_ok {t : Trace Contract} {result : Observation ProcessInfo}
    (h : (self.inspect pid).Run t (.ok result)) :
    ∃ (observed : Observation ProcessInfo) (rest : Trace Contract),
      t = ⟨.getProcess pid, .ok observed⟩ :: rest ∧ LooksUp rest ∧
      ∃ systemdUnit, result.value = { observed.value with systemdUnit } := by
  rcases inspect_run h with ⟨_, hr, -⟩ | ⟨observed, rfl, hr⟩ | ⟨observed, unit, rfl, hr⟩
  · cases hr
  · obtain rfl := Except.ok.inj hr
    exact ⟨result, [], rfl, by simp [LooksUp], result.value.systemdUnit, rfl⟩
  · obtain rfl := Except.ok.inj hr
    exact ⟨observed, _, rfl, by simp [LooksUp], attachUnit_value observed unit⟩

/-! ## §2 Listing -/

def listError (code : ErrorCode) (message : Bytes) : Error :=
  ⟨code, message, 0, "process-service", "list"⟩

/-- Checks of the query; the unit comes back normalised. -/
def checkQuery (self : ProcessService) (query : ProcessQuery) : Result ProcessQuery :=
  if query.name = some [] then
    .error (listError .invalidArgument "Process name must not be empty")
  else if query.user = some [] then
    .error (listError .invalidArgument "Process user must not be empty")
  else
    match query.systemdUnit, self.serviceService_ with
    | none, _ => .ok query
    | some _, none => .error (listError .unavailable "Service association is unavailable")
    | some unit, some _ =>
      (ServiceService.normalizeUnit unit).map fun normalized =>
        { query with systemdUnit := some normalized }

/-- The name matches, and the user by number or by name. -/
def selects (query : ProcessQuery) (process : ProcessInfo) : Bool :=
  query.name.all (process.name == ·) &&
    query.user.all fun user => Bytes.fromChars 32 user == some process.uid || process.user == user

/-- The loop over the listed processes. -/
def collect (self : ProcessService) (query : ProcessQuery) :
    List ProcessInfo → Observation (List ProcessInfo) → App (Result (Observation (List ProcessInfo)))
  | [], found => return .ok found
  | process :: rest, found =>
    let keep (process : ProcessInfo) (warnings : List Warning) :
        App (Result (Observation (List ProcessInfo))) :=
      if query.systemdUnit.isSome ∧ process.systemdUnit ≠ query.systemdUnit then
        self.collect query rest ⟨found.value, warnings⟩
      else self.collect query rest ⟨found.value ++ [process], warnings⟩
    if !selects query process then self.collect query rest found
    else
      match self.serviceService_ with
      | none => keep process found.warnings
      | some services => do
        match ← services.unitByPid process.pid with
        | .ok systemdUnit => keep { process with systemdUnit } found.warnings
        | .error error =>
          if query.systemdUnit.isSome ∧ error.code = .unavailable then return .error error
          else if lookupErrorIsQuiet error then keep process found.warnings
          else keep process (found.warnings ++ [warningFrom error])

def list (self : ProcessService) (query : ProcessQuery) :
    App (Result (Observation (List ProcessInfo))) :=
  match self.checkQuery query with
  | .error error => return .error error
  | .ok query => do
    match ← contract .listProcesses with
    | .error error => return .error error
    | .ok observed => self.collect query observed.value ⟨[], observed.warnings⟩

/-- What is listed is what the provider listed, with units attached. -/
def FromListed (records : List ProcessInfo) (process : ProcessInfo) : Prop :=
  ∃ record ∈ records, process = { record with systemdUnit := process.systemdUnit }

theorem collect_run {query : ProcessQuery} {records processes : List ProcessInfo}
    {found : Observation (List ProcessInfo)} {t : Trace Contract}
    {r : Result (Observation (List ProcessInfo))} (hsub : processes ⊆ records)
    (hfound : ∀ process ∈ found.value, FromListed records process)
    (h : (self.collect query processes found).Run t r) :
    LooksUp t ∧ ∀ result, r = .ok result → ∀ process ∈ result.value, FromListed records process := by
  induction processes generalizing found t with
  | nil =>
    obtain ⟨rfl, rfl⟩ := h
    refine ⟨by simp [LooksUp], fun result hresult => ?_⟩
    cases hresult
    exact hfound
  | cons process rest ih =>
    have hrest : rest ⊆ records := fun p hp => hsub (by simp [hp])
    have hprocess : ∀ unit, FromListed records { process with systemdUnit := unit } :=
      fun unit => ⟨process, hsub (by simp), rfl⟩
    -- both ways of going on keep the property
    have hkeep : ∀ (kept : ProcessInfo) (warnings : List Warning) (u : Trace Contract),
        FromListed records kept →
        (if query.systemdUnit.isSome ∧ kept.systemdUnit ≠ query.systemdUnit then
          self.collect query rest ⟨found.value, warnings⟩
        else self.collect query rest ⟨found.value ++ [kept], warnings⟩).Run u r →
        LooksUp u ∧ ∀ result, r = .ok result →
          ∀ process ∈ result.value, FromListed records process := by
      intro kept warnings u hkept hrun
      have hvalue : ∀ p ∈ (⟨found.value, warnings⟩ : Observation (List ProcessInfo)).value,
          FromListed records p := hfound
      split_ifs at hrun
      · exact ih hrest hvalue hrun
      · refine ih hrest (fun p hp => ?_) hrun
        rcases List.mem_append.mp hp with hp | hp
        · exact hfound p hp
        · rw [List.mem_singleton.mp hp]
          exact hkept
    -- the selection, then the unit, then the unit filter
    simp only [collect] at h
    cases hselects : selects query process with
    | false =>
      rw [hselects, if_pos (by rfl)] at h
      exact ih hrest hfound h
    | true =>
    rw [hselects, if_neg (by simp)] at h
    cases hservices : self.serviceService_ with
    | none =>
      rw [hservices] at h
      exact hkeep _ _ t (hprocess process.systemdUnit) h
    | some services =>
      rw [hservices] at h
      obtain ⟨unit, t₁, t₂, hlookup, hmore, rfl⟩ := Prog.run_bind_iff.mp h
      have ht₁ := unitByPid_looksUp hlookup
      cases unit with
      | ok systemdUnit =>
        obtain ⟨ht₂, hresult⟩ := hkeep _ _ t₂ (hprocess systemdUnit) hmore
        exact ⟨ht₁.append ht₂, hresult⟩
      | error error =>
        dsimp only at hmore
        -- asked for a unit, a manager that cannot be reached ends the listing
        by_cases hunavailable : query.systemdUnit.isSome ∧ error.code = .unavailable
        · rw [if_pos hunavailable] at hmore
          obtain ⟨rfl, rfl⟩ := hmore
          refine ⟨ht₁.append (by simp [LooksUp]), fun result hresult => ?_⟩
          cases hresult
        rw [if_neg hunavailable] at hmore
        cases hquiet : lookupErrorIsQuiet error with
        | true =>
          rw [hquiet, if_pos rfl] at hmore
          obtain ⟨ht₂, hresult⟩ := hkeep _ _ t₂ (hprocess process.systemdUnit) hmore
          exact ⟨ht₁.append ht₂, hresult⟩
        | false =>
          rw [hquiet, if_neg (by decide)] at hmore
          obtain ⟨ht₂, hresult⟩ := hkeep _ _ t₂ (hprocess process.systemdUnit) hmore
          exact ⟨ht₁.append ht₂, hresult⟩

/-- A listing without a unit to look for does not fail half-way. -/
theorem collect_ok {query : ProcessQuery} (hunit : query.systemdUnit = none)
    {processes : List ProcessInfo} {found : Observation (List ProcessInfo)} {t : Trace Contract}
    {r : Result (Observation (List ProcessInfo))}
    (h : (self.collect query processes found).Run t r) : ∃ result, r = .ok result := by
  induction processes generalizing found t with
  | nil => exact ⟨found, h.2⟩
  | cons process rest ih =>
    simp only [collect, hunit, Option.isSome_none, Bool.false_eq_true, false_and, if_false] at h
    cases hselects : selects query process with
    | false =>
      rw [hselects, if_pos (by rfl)] at h
      exact ih h
    | true =>
      rw [hselects, if_neg (by simp)] at h
      cases hservices : self.serviceService_ with
      | none =>
        rw [hservices] at h
        exact ih h
      | some services =>
        rw [hservices] at h
        obtain ⟨unit, t₁, t₂, -, hmore, -⟩ := Prog.run_bind_iff.mp h
        cases unit with
        | ok systemdUnit => exact ih hmore
        | error error =>
          dsimp only at hmore
          split_ifs at hmore
          · exact ih hmore
          · exact ih hmore

/-- A listing asks the process provider once, then looks up units. -/
theorem list_run {query : ProcessQuery} {t : Trace Contract}
    {r : Result (Observation (List ProcessInfo))} (h : (self.list query).Run t r) :
    (∃ error, r = .error error ∧ (t = [] ∨ t = [⟨.listProcesses, .error error⟩])) ∨
      ∃ observed rest, t = ⟨.listProcesses, .ok observed⟩ :: rest ∧ LooksUp rest ∧
        ∀ result, r = .ok result → ∀ process ∈ result.value, FromListed observed.value process := by
  unfold list at h
  cases hquery : self.checkQuery query with
  | error error =>
    rw [hquery] at h
    exact .inl ⟨error, h.2, .inl h.1⟩
  | ok query =>
    rw [hquery] at h
    obtain ⟨x, t₁, t₂, hlist, hrest, rfl⟩ := Prog.run_bind_iff.mp h
    obtain rfl := Prog.run_perform.mp hlist
    cases x with
    | error error =>
      obtain ⟨rfl, rfl⟩ := hrest
      exact .inl ⟨error, rfl, .inr rfl⟩
    | ok observed =>
      obtain ⟨hlookups, hresult⟩ := collect_run (List.Subset.refl _) (by simp) hrest
      exact .inr ⟨observed, t₂, rfl, hlookups, hresult⟩

/-- The full listing fails only if the provider does. -/
theorem list_all_run {t : Trace Contract} {r : Result (Observation (List ProcessInfo))}
    (h : (self.list {}).Run t r) :
    (∃ error, r = .error error ∧ t = [⟨.listProcesses, .error error⟩]) ∨
      ∃ observed result rest, r = .ok result ∧ t = ⟨.listProcesses, .ok observed⟩ :: rest ∧
        LooksUp rest ∧ ∀ process ∈ result.value, FromListed observed.value process := by
  obtain ⟨x, t₁, t₂, hlist, hrest, rfl⟩ := Prog.run_bind_iff.mp h
  obtain rfl := Prog.run_perform.mp hlist
  cases x with
  | error error =>
    obtain ⟨rfl, rfl⟩ := hrest
    exact .inl ⟨error, rfl, rfl⟩
  | ok observed =>
    have hunit : ({} : ProcessQuery).systemdUnit = none := rfl
    obtain ⟨result, rfl⟩ := collect_ok hunit hrest
    obtain ⟨hlookups, hresult⟩ := collect_run (List.Subset.refl _) (by simp) hrest
    exact .inr ⟨observed, result, t₂, rfl, rfl, hlookups, hresult result rfl⟩

/-! ## §3 Signals -/

def validateSignalTarget (self : ProcessService) (pid : Int) : Result Unit :=
  if pid ≤ 0 then
    .error ⟨.invalidArgument, "PID must be greater than zero", 0,
      "process-service", "validate signal target"⟩
  else if pid = 1 then
    .error ⟨.conflict, "Refusing to signal PID 1", 0,
      "process-service", "validate signal target"⟩
  else if pid = self.selfPid_ then
    .error ⟨.conflict, "Refusing to signal the LX process", 0,
      "process-service", "validate signal target"⟩
  else .ok ()

/-- A PID that may be signalled: an ordinary process that is not LX itself. -/
def Signalable (self : ProcessService) (pid : Int) : Prop := 1 < pid ∧ pid ≠ self.selfPid_

theorem validateSignalTarget_ok_iff :
    self.validateSignalTarget pid = .ok () ↔ self.Signalable pid := by
  unfold validateSignalTarget Signalable
  split_ifs <;> simp <;> omega

/-- The codes a refused signal target is reported with. -/
theorem validateSignalTarget_error {error : Error}
    (h : self.validateSignalTarget pid = .error error) :
    error.code = .invalidArgument ∨ error.code = .conflict := by
  unfold validateSignalTarget at h
  split_ifs at h <;> cases h <;> simp

def signal (self : ProcessService) (pid : Int) (processSignal : ProcessSignal) :
    App (Result SignalDelivery) :=
  match self.validateSignalTarget pid with
  | .error error => return .error error
  | .ok () => sendSignal pid processSignal

def stop (self : ProcessService) (pid : Int) : App (Result SignalDelivery) :=
  self.signal pid .terminate

def kill (self : ProcessService) (pid : Int) : App (Result SignalDelivery) :=
  self.signal pid .kill

def waitForExit (self : ProcessService) (pid : Int) (timeout : Nat) : App (Result Bool) :=
  match self.validateSignalTarget pid with
  | .error error => return .error error
  | .ok () => awaitExit pid timeout

/-- A signal request reaches the provider once and only for a target that may be
    signalled; otherwise it is refused before any call. -/
theorem signal_run {processSignal : ProcessSignal} {t : Trace Contract}
    {r : Result SignalDelivery} (h : (self.signal pid processSignal).Run t r) :
    (t = [] ∧ ∃ error, r = .error error ∧ ¬ self.Signalable pid) ∨
    (t = [⟨.send pid processSignal, r⟩] ∧ self.Signalable pid) := by
  unfold signal at h
  cases hv : self.validateSignalTarget pid with
  | error error =>
    simp only [hv, Prog.pure_eq_ret, Prog.run_ret] at h
    refine .inl ⟨h.1, error, h.2, fun hs => ?_⟩
    rw [validateSignalTarget_ok_iff.mpr hs] at hv
    cases hv
  | ok u =>
    simp only [hv, sendSignal] at h
    exact .inr ⟨Prog.run_perform.mp h, validateSignalTarget_ok_iff.mp hv⟩

end ProcessService

end Lx
