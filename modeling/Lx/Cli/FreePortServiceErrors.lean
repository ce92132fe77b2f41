import Lx.Cli.FreePortRounds

/-!
# Service errors and process signals in `lx port free`

A failed unit lookup leaves no unit on the record of its process
(`prepareRelease_lookup_failed`), so it takes a run *to* the signals instead of away from
them. That happens whenever a question follows the observation with the failed lookup, the
user agrees, and the port still has the same sockets (`FallsBack`), and in no other run:
`freePort_service_error_iff` covers the plan that is printed and the one made of what is
left after SIGTERM.
-/

namespace Lx

open Interaction

/-! ## §1 Units of inspected owners -/

/-- The unit lookup of `pid` failed in `t` for a reason that does not mean "no unit". -/
def LookupFailure (pid : Int) (t : Trace Contract) : Prop :=
  ∃ error, ⟨.unitByPid pid, .error error⟩ ∈ t ∧ ProcessService.lookupErrorIsQuiet error = false

theorem LookupFailure.tail {pid : Int} {e : Event Contract} {t : Trace Contract}
    (h : LookupFailure pid (e :: t)) (he : ∀ x, e ≠ ⟨.unitByPid pid, x⟩) : LookupFailure pid t := by
  -- the event in front is another one, so the failure is behind it
  obtain ⟨error, hmem, hhard⟩ := h
  rcases List.mem_cons.mp hmem with heq | hmem
  · exact absurd heq.symm (he _)
  · exact ⟨error, hmem, hhard⟩

namespace PortService

variable {self : PortService} {t : Trace Contract}

/-- The record an inspection leaves: about its PID, and without unit when the lookup failed. -/
theorem inspect_record {pid : Int} {observed : Observation ProcessInfo}
    (hprovider : FromProcessProvider t)
    (h : (self.processService_.inspect pid).Run t (.ok observed)) :
    observed.value.pid = pid ∧ (LookupFailure pid t → observed.value.systemdUnit = none) := by
  rcases ProcessService.inspect_run h with ⟨_, hr, -⟩ | ⟨observed', rfl, hr⟩ |
    ⟨observed', unit, rfl, hr⟩
  · cases hr
  -- not looked up, because no service manager is asked
  · obtain rfl := Except.ok.inj hr
    obtain ⟨hpid, hunit⟩ := hprovider pid observed (by simp)
    exact ⟨hpid, fun _ => hunit⟩
  · obtain rfl := Except.ok.inj hr
    obtain ⟨hpid, hunit⟩ := hprovider pid observed' (by simp)
    cases unit with
    | ok unit =>
      refine ⟨hpid, ?_⟩
      rintro ⟨error, hmem, -⟩
      rcases List.mem_pair.mp hmem with heq | heq <;> cases heq
    -- an error leaves the record as the provider made it, whatever it is
    | error error =>
      unfold ProcessService.attachUnit
      dsimp only
      split
      · exact ⟨hpid, fun _ => hunit⟩
      · exact ⟨hpid, fun _ => hunit⟩

/-- An inspection asks for no unit but that of its own process. -/
theorem inspect_lookups {pid other : Int} {r : Result (Observation ProcessInfo)}
    (h : (self.processService_.inspect pid).Run t r) (hne : other ≠ pid) :
    ¬ LookupFailure other t := by
  rintro ⟨error, hmem, -⟩
  rcases ProcessService.inspect_run h with ⟨_, -, hget⟩ | ⟨_, rfl, -⟩ | ⟨_, unit, rfl, -⟩
  · obtain ⟨x, hx⟩ := hget _ hmem
    cases hx
  · cases List.mem_singleton.mp hmem
  · rcases List.mem_pair.mp hmem with heq | heq
    -- the one lookup is about this PID
    · cases heq
    · cases heq
      exact hne rfl

/-- A plan built while the unit lookup of one of its owners failed recommends no unit. -/
theorem prepareRelease_lookup_failed {localPort : Nat} {observed : Observation PortReleasePlan}
    {pid : Int} (hprovider : FromProcessProvider t)
    (h : (self.prepareRelease localPort).Run t (.ok observed))
    (howner : pid ∈ observed.value.ownerPids) (hfail : LookupFailure pid t) :
    observed.value.recommendedUnit = none := by
  have hnamed : RecordsNamed t := fun pid record hmem => (hprovider pid record hmem).1
  obtain ⟨sockets, ownership, rest, visits, rfl, hvisited, hunit⟩ := recommendedUnit_iff hnamed h
  obtain ⟨order, rfl⟩ := hvisited.exchange
  -- the failed lookup belongs to the visit of its own process
  obtain ⟨error, hmem, hhard⟩ :=
    ((hfail.tail (by rintro _ ⟨⟩)).tail (by rintro _ ⟨⟩)).tail (by rintro _ ⟨⟩)
  obtain ⟨failing, hfailing, hmem⟩ := List.mem_flatMap.mp hmem
  have hfailure : LookupFailure pid failing.trace := ⟨error, hmem, hhard⟩
  have hpid : failing.pid = pid := Classical.byContradiction fun hne =>
    inspect_lookups (hvisited.inspected failing hfailing) (Ne.symm hne) hfailure
  rw [Option.eq_none_iff_forall_not_mem]
  intro unit hrecommended
  obtain ⟨process, hshown, hprocess⟩ := (hunit unit).mp hrecommended pid howner
  rw [← hpid, shown_of_mem hvisited.once hfailing] at hshown
  obtain ⟨record, houtcome, rfl⟩ := Visit.process_eq_some hshown
  have hrun := hvisited.inspected failing hfailing
  rw [houtcome] at hrun
  have hvisit : FromProcessProvider failing.trace := hprovider.mono fun e he =>
    List.mem_cons_of_mem _ (List.mem_cons_of_mem _ (List.mem_cons_of_mem _
      (List.mem_flatMap.mpr ⟨failing, hfailing, he⟩)))
  rw [(inspect_record hvisit hrun).2 (hpid ▸ hfailure)] at hprocess
  cases hprocess

/-- The units looked up for a prepared plan are those of its owners. -/
theorem mem_ownerPids_of_lookup {localPort : Nat} {observed : Observation PortReleasePlan}
    {pid : Int} (h : (self.prepareRelease localPort).Run t (.ok observed))
    (hfail : LookupFailure pid t) : pid ∈ observed.value.ownerPids := by
  obtain ⟨ports, hinspect, -, hplan⟩ := prepareRelease_ok h
  obtain ⟨sockets, ownership, rest, visits, rfl, hvisited, hrows⟩ := inspect_ok_run hinspect
  obtain ⟨order, rfl⟩ := hvisited.exchange
  obtain ⟨error, hmem, hhard⟩ :=
    ((hfail.tail (by rintro _ ⟨⟩)).tail (by rintro _ ⟨⟩)).tail (by rintro _ ⟨⟩)
  obtain ⟨failing, hfailing, hmem⟩ := List.mem_flatMap.mp hmem
  have hpid : failing.pid = pid := Classical.byContradiction fun hne =>
    inspect_lookups (hvisited.inspected failing hfailing) (Ne.symm hne) ⟨error, hmem, hhard⟩
  obtain ⟨socket, hsocket, howner⟩ :=
    (hvisited.owners pid).mp (hpid ▸ List.mem_map_of_mem hfailing)
  rw [(planOf_ok hplan).1]
  refine mem_ownerPidsOf.mpr ⟨toPortInfo (entries visits) (withOwners ownership.value socket), ?_, ?_⟩
  · rw [show ports = _ from hrows]
    exact List.mem_map_of_mem (List.mem_map_of_mem hsocket)
  · -- a socket with a looked-up owner is one the resolver knows
    unfold ownersOf at howner
    unfold toPortInfo withOwners
    cases hlookup : ownership.value.lookup socket.inode with
    | none =>
      rw [hlookup] at howner
      cases howner
    | some owners =>
      rw [hlookup] at howner
      exact howner

end PortService

namespace Cli

variable {ports : PortService} {options : FreePortOptions} {port : Nat} {t : Trace Contract}

/-! ## §2 What a service error must not lead to -/

/-- A process signal was sent. -/
def Signals (t : Trace Contract) : Prop := ∃ pid signal x, ⟨.send pid signal, x⟩ ∈ t

/-- The run `t` prepared `plan` by the calls `planning`, printed it, and went on with `rest`. -/
structure Planned (ports : PortService) (port : Nat) (t planning : Trace Contract)
    (plan : PortReleasePlan) (rest : Trace Contract) : Prop where
  split : t = planning ++ ⟨.write (printReleasePlan plan), ()⟩ :: rest
  prepared : ∃ warnings, (ports.prepareRelease port).Run planning (.ok ⟨plan, warnings⟩)

/-- After signals, the next observation `planning` prepared `plan` of what was left, and the
    run went on with `rest`. -/
structure Remains (ports : PortService) (port : Nat) (t planning : Trace Contract)
    (plan : PortReleasePlan) (rest : Trace Contract) : Prop where
  split : ∃ before pid signal x waits,
    -- the signals, the waits, and then the next observation
    t = before ++ ⟨.send pid signal, x⟩ :: (waits ++ (planning ++ rest)) ∧
    ∀ e ∈ waits, ¬ PortService.AsksSockets e
  prepared : ∃ warnings, (ports.prepareRelease port).Run planning (.ok ⟨plan, warnings⟩)

/-- While the plan was built, the unit lookup of one of its owners failed with an error other
    than `Unavailable` and `NotFound`. -/
def LookupFailed (plan : PortReleasePlan) (planning : Trace Contract) : Prop :=
  ∃ pid ∈ plan.ownerPids, LookupFailure pid planning

/-- The stop of the unit the plan recommends failed: its name was refused, or the service
    manager returned an error. -/
def StopFailed (ports : PortService) (port : Nat) (t : Trace Contract) : Prop :=
  ∃ planning plan rest unit, Planned ports port t planning plan rest ∧
    plan.recommendedUnit = some unit ∧
    ((∃ error, ServiceService.normalizeUnit unit = .error error) ∨
      ∃ name error, ⟨.controlService .stop name, .error error⟩ ∈ t)

/-- **A service error aborts the operation.** Two plans can be executed in a run: the printed
    one, and the one made of what is left after SIGTERM. No signal carries out a plan that was
    built while a lookup failed, and none is sent when the service could not be stopped. -/
structure AbortsOnServiceError (ports : PortService) (port : Nat) (t : Trace Contract) : Prop where
  printed : ∀ planning plan rest, Planned ports port t planning plan rest →
    LookupFailed plan planning → ¬ Signals t
  remaining : ∀ planning plan rest, Remains ports port t planning plan rest →
    LookupFailed plan planning → ¬ Signals rest
  stop : StopFailed ports port t → ¬ Signals t

/-! ## §3 When it does -/

/-- An explicit yes. -/
def SaysYes (line : Bytes) : Prop :=
  -- in upper or lower case, with white space around it
  Bytes.lower (Bytes.trim line) = Bytes.ofString "y" ∨
    Bytes.lower (Bytes.trim line) = Bytes.ofString "yes"

/-- The user agreed: beforehand, by `--yes`, or when asked. Only the question about SIGTERM takes
    an empty line for a yes. -/
def Agreed (options : FreePortOptions) (t : Trace Contract) : Prop :=
  options.confirmRelease = true ∨ ∃ before prompt line after,
    t = before ++ ⟨.write prompt, ()⟩ :: ⟨.getline, some line⟩ :: after ∧
    (prompt = terminatePrompt ∧ (Bytes.trim line = [] ∨ SaysYes line) ∨
      prompt = forcePrompt ∧ SaysYes line)

/-- An observation with a failed lookup; the question and the user's agreement; and then an
    observation that is answered with the same sockets. -/
def FallsBackFrom (options : FreePortOptions) (t : Trace Contract) : Prop :=
  ∃ observation asked confirmation after rows rows',
    -- the answers alone: no plan is mentioned, and no result
    t = observation ++ (asked ++ (confirmation ++ after)) ∧
    PortService.Observed observation rows ∧ (∃ pid, LookupFailure pid observation) ∧
    asked ≠ [] ∧ ConsoleOnly asked ∧ Agreed options asked ∧
    PortService.Observed confirmation rows' ∧ rows.Perm rows'

/-- Somewhere in the run. -/
def FallsBack (options : FreePortOptions) (t : Trace Contract) : Prop :=
  ∃ before rest, t = before ++ rest ∧ FallsBackFrom options rest

theorem Quiet.not_signals (h : Quiet t) : ¬ Signals t := by
  rintro ⟨pid, signal, x, hmem⟩
  cases h _ hmem

@[simp] theorem signals_append {u : Trace Contract} : Signals (t ++ u) ↔ Signals t ∨ Signals u := by
  simp only [Signals, List.mem_append, exists_or]

theorem signals_of_sends {processSignal : ProcessSignal} (h : PortService.Sends processSignal t) :
    Signals t := by
  obtain ⟨pid, x, rest, rfl, -⟩ := h
  exact ⟨pid, processSignal, x, by simp⟩

/-- A run has at most one plan. -/
theorem Planned.unique {planning planning' rest rest' : Trace Contract} {plan plan' : PortReleasePlan}
    (h : Planned ports port t planning plan rest) (h' : Planned ports port t planning' plan' rest') :
    planning = planning' ∧ plan = plan' ∧ rest = rest' := by
  obtain ⟨hsplit, warnings, hrun⟩ := h
  obtain ⟨hsplit', warnings', hrun'⟩ := h'
  -- two runs of one program that begin in the same way are the same run
  obtain ⟨hplanning, hrest, hplan⟩ := hrun.prefix_unique hrun' (hsplit.symm.trans hsplit')
  obtain ⟨rfl, -⟩ := Observation.mk.inj (Except.ok.inj hplan)
  exact ⟨hplanning, rfl, (List.cons.inj hrest).2⟩

theorem lookupFailed_iff {planning : Trace Contract} {plan : Observation PortReleasePlan}
    (h : (ports.prepareRelease port).Run planning (.ok plan)) :
    LookupFailed plan.value planning ↔ ∃ pid, LookupFailure pid planning :=
  ⟨fun ⟨pid, _, hfail⟩ => ⟨pid, hfail⟩,
    fun ⟨pid, hfail⟩ => ⟨pid, PortService.mem_ownerPids_of_lookup h hfail, hfail⟩⟩

section Kinds

variable {c : Call} {e : Event Contract}

theorem not_looksUp_of_isConsole (h : isConsole c = true) : ¬ Call.looksUp c = true := by
  revert h
  cases c <;> simp [isConsole, Call.looksUp]

theorem not_asksSockets_of_isConsole (h : isConsole e.1 = true) : ¬ PortService.AsksSockets e := by
  rintro ⟨query, hquery⟩
  rw [hquery] at h
  cases h

theorem not_isConsole_of_looksUp (h : Call.looksUp c = true) : ¬ isConsole c = true :=
  fun hconsole => not_looksUp_of_isConsole hconsole h

theorem not_isConsole_of_carriesOut (h : PortService.carriesOut c = true) : ¬ isConsole c = true := by
  revert h
  cases c <;> simp [PortService.carriesOut, isConsole]

theorem not_asksSockets_of_carriesOut (h : PortService.carriesOut e.1 = true) :
    ¬ PortService.AsksSockets e := by
  rintro ⟨query, hquery⟩
  rw [hquery] at h
  cases h

end Kinds

/-! ## §4 Where a run falls back -/

section FallsBack

variable {u v observation told release : Trace Contract}

theorem FallsBackFrom.asks (h : FallsBackFrom options t) :
    ∃ e rest, t = e :: rest ∧ PortService.AsksSockets e := by
  obtain ⟨_, asked, confirmation, after, _, _, rfl, hobserved, -⟩ := h
  obtain ⟨e, rest, rfl, hasks⟩ := hobserved.asks
  exact ⟨e, _, rfl, hasks⟩

/-- A run does not fall back where it asks for no sockets. -/
theorem fallsBack_append_iff (hu : ∀ e ∈ u, ¬ PortService.AsksSockets e) :
    FallsBack options (u ++ v) ↔ FallsBack options v := by
  constructor
  -- the place it falls back from lies behind this stretch
  · rintro ⟨before, rest, heq, hfalls⟩
    obtain ⟨e, rest', rfl, hasks⟩ := hfalls.asks
    obtain ⟨before', rfl, rfl⟩ := append_split_right hu hasks heq
    exact ⟨before', _, rfl, hfalls⟩
  · rintro ⟨before, rest, rfl, hfalls⟩
    exact ⟨u ++ before, rest, by simp, hfalls⟩

/-- At an observation of the port it can fall back only from its beginning. -/
theorem fallsBack_observation_iff {r : Result (Observation PortReleasePlan)}
    (h : (ports.prepareRelease port).Run observation r) :
    FallsBack options (observation ++ v) ↔
      FallsBackFrom options (observation ++ v) ∨ FallsBack options v := by
  constructor
  -- either it falls back from here, or from further on
  · rintro ⟨before, rest, heq, hfalls⟩
    rcases PortService.prepareRelease_head h with rfl | ⟨query, x, tail, rfl, htail⟩
    · exact .inr ⟨before, rest, heq, hfalls⟩
    · cases before with
      | nil => exact .inl (heq ▸ hfalls)
      | cons e before =>
        obtain ⟨-, heq⟩ := List.cons.inj heq
        exact .inr ((fallsBack_append_iff htail).mp ⟨before, rest, heq, hfalls⟩)
  · rintro (hfalls | ⟨before, rest, rfl, hfalls⟩)
    · exact ⟨[], _, rfl, hfalls⟩
    · exact ⟨observation ++ before, rest, by simp, hfalls⟩

/-- It does not fall back where nobody is told anything, or nothing follows what is told. -/
theorem not_fallsBack_of_console (hu : ∀ e ∈ u, ¬ isConsole e.1 = true) (hv : ConsoleOnly v) :
    ¬ FallsBack options (u ++ v) := by
  rintro ⟨before, _, heq, observation, asked, confirmation, after, _, _, rfl, -, -, hne, hasked, -,
    hconfirmation, -⟩
  obtain ⟨e, asked, rfl⟩ := List.exists_cons_of_ne_nil hne
  rw [← List.append_assoc before] at heq
  obtain ⟨x', -, rfl⟩ := append_split_right (P := fun e : Event Contract => isConsole e.1 = true)
    hu (hasked e (by simp)) heq
  -- the second observation would be among what is told
  obtain ⟨e', rest, rfl, hasks⟩ := hconfirmation.asks
  exact not_asksSockets_of_isConsole (hv e' (by simp)) hasks

/-- Nor does it fall back from an observation that signals follow at once. -/
theorem not_fallsBackFrom_sends {processSignal : ProcessSignal}
    (hlooks : ∀ e ∈ observation, Call.looksUp e.1 = true) (hsends : PortService.Sends processSignal u) :
    ¬ FallsBackFrom options (observation ++ (u ++ v)) := by
  rintro ⟨_, asked, confirmation, after, _, _, heq, hobserved, -, hne, hasked, -⟩
  obtain ⟨pid, x, rest, rfl, -⟩ := hsends
  obtain ⟨e, asked, rfl⟩ := List.exists_cons_of_ne_nil hne
  have hconsole := hasked e (by simp)
  obtain ⟨-, heq⟩ := append_inj_of_stretch (P := fun e : Event Contract => Call.looksUp e.1 = true)
    hlooks hobserved.looksUp (by simp [Call.looksUp])
    (by simpa using not_looksUp_of_isConsole hconsole) heq
  -- nobody is told anything before the signals
  obtain ⟨rfl, -⟩ := List.cons.inj heq
  cases hconsole

/-- The observation a run falls back from reaches up to what is told. -/
theorem FallsBackFrom.observed (hlooks : ∀ e ∈ observation, Call.looksUp e.1 = true) (hne : told ≠ [])
    (htold : ConsoleOnly told) (h : FallsBackFrom options (observation ++ (told ++ v))) :
    ∃ asked confirmation after rows rows', told ++ v = asked ++ (confirmation ++ after) ∧
      PortService.Observed observation rows ∧ (∃ pid, LookupFailure pid observation) ∧
      ConsoleOnly asked ∧ PortService.Observed confirmation rows' ∧ rows.Perm rows' := by
  obtain ⟨observation', asked, confirmation, after, rows, rows', heq, hobserved, hfail, hne', hasked, -,
    hconfirmation, hperm⟩ := h
  obtain ⟨e, told, rfl⟩ := List.exists_cons_of_ne_nil hne
  obtain ⟨e', asked, rfl⟩ := List.exists_cons_of_ne_nil hne'
  -- both observations end where something is told
  obtain ⟨rfl, htail⟩ := append_inj_of_stretch (P := fun e : Event Contract => Call.looksUp e.1 = true)
    hlooks hobserved.looksUp (by simpa using not_looksUp_of_isConsole (htold e (by simp)))
    (by simpa using not_looksUp_of_isConsole (hasked e' (by simp))) heq
  exact ⟨_, confirmation, after, rows, rows', htail, hobserved, hfail, hasked, hconfirmation, hperm⟩

/-- What follows what is told is the second observation. -/
theorem FallsBackFrom.confirmed (hlooks : ∀ e ∈ observation, Call.looksUp e.1 = true) (hne : told ≠ [])
    (htold : ConsoleOnly told) (hv : ∀ e ∈ v.head?, PortService.AsksSockets e)
    (h : FallsBackFrom options (observation ++ (told ++ v))) :
    ∃ confirmation after rows rows', v = confirmation ++ after ∧
      PortService.Observed observation rows ∧ PortService.Observed confirmation rows' ∧
      rows.Perm rows' := by
  obtain ⟨asked, confirmation, after, rows, rows', htail, hobserved, -, hasked, hconfirmation, hperm⟩ :=
    h.observed hlooks hne htold
  obtain ⟨first, rest, rfl, hasks⟩ := hconfirmation.asks
  -- and what is told ends where something is observed
  obtain ⟨-, rfl⟩ := append_inj_of_stretch (P := fun e : Event Contract => isConsole e.1 = true)
    htold hasked (fun e he hconsole => not_asksSockets_of_isConsole hconsole (hv e he))
    (by simpa using fun hconsole => not_asksSockets_of_isConsole hconsole hasks) htail
  exact ⟨_, after, rows, rows', rfl, hobserved, hconfirmation, hperm⟩

/-- With the user's agreement and the same sockets, the failed lookup is all it takes. -/
theorem fallsBackFrom_iff_of_same {plan current : Observation PortReleasePlan}
    {confirmation : Trace Contract} (hplan : (ports.prepareRelease port).Run observation (.ok plan))
    (hne : told ≠ []) (htold : ConsoleOnly told) (hagreed : Agreed options told)
    (hcurrent : (ports.prepareRelease port).Run confirmation (.ok current))
    (hsame : PortService.sameTargets plan.value current.value = true) :
    FallsBackFrom options (observation ++ (told ++ (confirmation ++ v))) ↔
      ∃ pid, LookupFailure pid observation := by
  constructor
  · intro hfalls
    obtain ⟨_, _, _, _, _, -, -, hfail, -⟩ :=
      hfalls.observed ((PortService.prepareRelease_inspects port).run hplan) hne htold
    exact hfail
  · intro hfail
    exact ⟨observation, told, confirmation, v, _, _, rfl, PortService.prepareRelease_observed hplan,
      hfail, hne, htold, hagreed, PortService.prepareRelease_observed hcurrent,
      PortService.sameTargets_iff.mp hsame⟩

/-- **Falling back is signalling**: an observation with a failed lookup, an agreement, and an
    operation that gets through to the signals. -/
theorem fallsBackFrom_iff {plan : Observation PortReleasePlan} {processSignal : ProcessSignal}
    {stillOccupied : List Warning → List SignalDelivery → Observation PortReleasePlan →
      Result (Observation PortReleaseResult)} {r : Result (Observation PortReleaseResult)}
    (hplan : (ports.prepareRelease port).Run observation (.ok plan))
    (hne : told ≠ []) (htold : ConsoleOnly told) (hagreed : Agreed options told)
    (h : (ports.releaseWith processSignal plan.value stillOccupied).Run release r) :
    FallsBackFrom options (observation ++ (told ++ (release ++ v))) ↔
      (∃ pid, LookupFailure pid observation) ∧ Signals release := by
  rcases PortService.releaseWith_rounds hplan h with ⟨current, hobs, -, hdiffers⟩ |
    ⟨current, confirmation, sends, tail, rfl, hobs, hsame, hsends, -⟩
  · -- nothing is signalled, because the second observation does not show the same sockets
    refine iff_of_false (fun hfalls => ?_) fun hboth =>
      Quiet.not_signals (PortService.prepareRelease_quiet hobs) hboth.2
    obtain ⟨first, rest, hfirst, hasks⟩ := PortService.prepareRelease_asks hplan hobs
    obtain ⟨confirmation, after, rows, rows', heq, hobserved, hconfirmation, hperm⟩ :=
      hfalls.confirmed ((PortService.prepareRelease_inspects port).run hplan) hne htold
        (by simpa [hfirst] using hasks)
    rw [hobserved.unique (PortService.prepareRelease_observed hplan)] at hperm
    obtain ⟨observed, rfl, hsame⟩ :=
      PortService.prepareRelease_again hplan hobs heq hconfirmation hperm
    rw [hdiffers observed rfl] at hsame
    cases hsame
  · rw [List.append_assoc confirmation, fallsBackFrom_iff_of_same hplan hne htold hagreed hobs hsame]
    simp [signals_of_sends hsends]

end FallsBack

/-! ## §5 Plans of what is left -/

section Remains

variable {u v observation done release planning rest : Trace Contract} {plan : PortReleasePlan}

/-- A process signal. -/
def IsSignal (e : Event Contract) : Prop := ∃ pid signal x, e = ⟨.send pid signal, x⟩

theorem not_isSignal_of (h : ¬ Signals t) : ∀ e ∈ t, ¬ IsSignal e := by
  rintro e he ⟨pid, signal, x, rfl⟩
  exact h ⟨pid, signal, x, he⟩

theorem ConsoleOnly.not_signals (h : ConsoleOnly t) : ¬ Signals t := Quiet.not_signals h.quiet

theorem Remains.signals (h : Remains ports port t planning plan rest) : Signals t := by
  obtain ⟨before, pid, signal, x, waits, rfl, -⟩ := h.split
  exact ⟨pid, signal, x, by simp⟩

/-- Where nothing is observed after the first signal, no plan is made of what is left. -/
theorem not_remains (hu : ¬ Signals u) (hv : ∀ e ∈ v, ¬ PortService.AsksSockets e) :
    ¬ Remains ports port (u ++ v) planning plan rest := by
  rintro ⟨⟨before, pid, signal, x, waits, heq, -⟩, warnings, hprepared⟩
  obtain ⟨first, _, rfl, hasks⟩ := (PortService.prepareRelease_observed hprepared).asks
  obtain ⟨_, -, rfl⟩ := append_split_right (not_isSignal_of hu) ⟨pid, signal, x, rfl⟩ heq
  exact hv first (by simp) hasks

/-- After one round of signals, the plan of what is left comes from the observation behind it,
    or from a later round. -/
theorem Remains.of_round {processSignal : ProcessSignal} {sends : Trace Contract}
    {r : Result (Observation PortReleasePlan)} (hu : ¬ Signals u)
    (hsends : PortService.Sends processSignal sends)
    (hobserved : (ports.prepareRelease port).Run observation r)
    (h : Remains ports port (u ++ (sends ++ (observation ++ v))) planning plan rest) :
    planning = observation ∧ rest = v ∨ Remains ports port v planning plan rest := by
  -- the signal before it lies behind the stretch without signals
  obtain ⟨⟨before, pid, signal, x, waits, heq, hwaits⟩, warnings, hprepared⟩ := h
  obtain ⟨first, more, hplanning, hfirst⟩ := (PortService.prepareRelease_observed hprepared).asks
  obtain ⟨head, tail, hobservation, hhead⟩ := PortService.prepareRelease_asks hprepared hobserved
  have hquiet : ¬ Signals observation :=
    Quiet.not_signals (PortService.prepareRelease_quiet hobserved)
  obtain ⟨before', -, heq₁⟩ := append_split_right (not_isSignal_of hu) ⟨pid, signal, x, rfl⟩ heq
  -- the observation that made the plan lies behind the signals of the round
  have heq₂ : sends ++ (observation ++ v) =
      (before' ++ ⟨.send pid signal, x⟩ :: waits) ++ first :: (more ++ rest) := by
    rw [heq₁, hplanning]
    simp
  obtain ⟨between, hbetween, heq₃⟩ := append_split_right
    (fun e he => not_asksSockets_of_carriesOut (hsends.carriesOut e he)) hfirst heq₂
  cases between with
  | nil =>
    have hsame : planning ++ rest = observation ++ v := by
      rw [heq₃, hplanning, List.nil_append, List.cons_append]
    obtain ⟨rfl, rfl, -⟩ := hprepared.prefix_unique hobserved hsame
    exact .inl ⟨rfl, rfl⟩
  | cons e between =>
    -- another observation comes first, so the signal before the plan belongs to a later round
    rw [hobservation] at heq₃
    rw [List.cons_append, List.cons_append] at heq₃
    obtain ⟨rfl, heq₄⟩ := List.cons.inj heq₃
    obtain ⟨later, rfl, -⟩ := append_split_left (P := PortService.AsksSockets) (by
      intro e he
      rcases List.mem_cons.mp he with rfl | he
      · simp [PortService.AsksSockets]
      · exact hwaits e he) hhead hbetween
    have htail : ¬ Signals tail := by
      rintro ⟨pid, signal, x, hmem⟩
      exact hquiet ⟨pid, signal, x, hobservation ▸ List.mem_cons_of_mem _ hmem⟩
    have heq₅ : tail ++ v = later ++ ⟨.send pid signal, x⟩ :: (waits ++ (planning ++ rest)) := by
      rw [heq₄, hplanning]
      simp
    obtain ⟨later', -, rfl⟩ := append_split_right (not_isSignal_of htail) ⟨pid, signal, x, rfl⟩ heq₅
    exact .inr ⟨⟨later', pid, signal, x, waits, rfl, hwaits⟩, warnings, hprepared⟩

/-- Nothing is signalled after the last operation of a run. -/
theorem Remains.not_signals {processSignal : ProcessSignal} {before : Trace Contract}
    {executed : Observation PortReleasePlan}
    {stillOccupied : List Warning → List SignalDelivery → Observation PortReleasePlan →
      Result (Observation PortReleaseResult)} {r : Result (Observation PortReleaseResult)}
    (hu : ¬ Signals u) (hexecuted : (ports.prepareRelease port).Run before (.ok executed))
    (hrelease : (ports.releaseWith processSignal executed.value stillOccupied).Run release r)
    (hdone : ConsoleOnly done)
    (h : Remains ports port (u ++ (release ++ done)) planning plan rest) : ¬ Signals rest := by
  rcases PortService.releaseWith_rounds hexecuted hrelease with ⟨current, hobs, -⟩ |
    ⟨current, confirmation, sends, tail, rfl, hobs, -, hsends, ⟨rfl, -⟩ | ⟨after, -, hafter, -⟩⟩
  -- observed only, so there is no signal at all; or signalled and not observed again; or both
  · have hsignals := h.signals
    simp [hu, Quiet.not_signals (PortService.prepareRelease_quiet hobs), hdone.not_signals] at hsignals
  · have hconfirmation : ¬ Signals (u ++ confirmation) := by
      simp [hu, Quiet.not_signals (PortService.prepareRelease_quiet hobs)]
    refine absurd h ?_
    rw [List.append_nil, List.append_assoc, ← List.append_assoc u]
    refine not_remains hconfirmation fun e he => ?_
    rcases List.mem_append.mp he with he | he
    · exact not_asksSockets_of_carriesOut (hsends.carriesOut e he)
    · exact not_asksSockets_of_isConsole (hdone e he)
  · have hconfirmation : ¬ Signals (u ++ confirmation) := by
      simp [hu, Quiet.not_signals (PortService.prepareRelease_quiet hobs)]
    rw [List.append_assoc, List.append_assoc, ← List.append_assoc u] at h
    rcases h.of_round hconfirmation hsends hafter with ⟨-, rfl⟩ | hlater
    · exact hdone.not_signals
    · exact absurd hlater.signals hdone.not_signals

end Remains

/-! ## §6 Whole runs -/

theorem agreed_of_terminate (h : (authorize options terminatePrompt true).Run t true) :
    Agreed options t := by
  refine ((authorize_run h).2 rfl).imp_right ?_
  rintro ⟨before, line, after, rfl, hline⟩
  refine ⟨before, _, line, after, rfl, .inl ⟨rfl, ?_⟩⟩
  -- an empty line agrees to SIGTERM
  unfold accepts at hline
  dsimp only at hline
  split at hline
  · rename_i hempty
    exact .inl (by simpa using hempty)
  · exact .inr (by simpa [SaysYes] using hline)

theorem agreed_of_force (h : (authorize options forcePrompt false).Run t true) : Agreed options t := by
  refine ((authorize_run h).2 rfl).imp_right ?_
  rintro ⟨before, line, after, rfl, hline⟩
  obtain ⟨line', hline', hyes⟩ := accepts_false_iff_explicit.mp hline
  obtain rfl := Option.some.inj hline'
  exact ⟨before, _, line, after, rfl, .inr ⟨rfl, hyes⟩⟩

theorem Agreed.append_left (h : Agreed options t) (earlier : Trace Contract) :
    Agreed options (earlier ++ t) := by
  refine h.imp_right ?_
  rintro ⟨before, prompt, line, after, rfl, hprompt⟩
  exact ⟨earlier ++ before, prompt, line, after, by simp, hprompt⟩

/-- The branch with a recommended unit never signals. -/
theorem freeByService_not_signals {plan : PortReleasePlan} {unit : Bytes} {code : Int}
    (hunit : plan.recommendedUnit = some unit)
    (h : (freeByService ports options port plan unit).Run t code) : ¬ Signals t := by
  rintro ⟨pid, signal, x, hmem⟩
  obtain ⟨past, rest, hsplit⟩ := List.append_of_mem hmem
  have hguarded : Guarded (fun past => Justified ports options port plan ([] ++ past)) t :=
    freeByService_guarded hunit quiet_nil h
  have hjust := hguarded past _ rest hsplit
  -- every signal is justified by a plan without unit
  cases signal with
  | terminate => cases hunit.symm.trans hjust.2.2.1
  | kill => cases hunit.symm.trans hjust.2.2.1

theorem stopManagedService_not_console {plan : PortReleasePlan}
    {r : Result (Observation PortReleaseResult)} (h : (ports.stopManagedService plan).Run t r) :
    ∀ e ∈ t, ¬ isConsole e.1 = true := by
  have hobserves : ∀ {u : Trace Contract} {r}, (ports.prepareRelease plan.localPort).Run u r →
      ∀ e ∈ u, ¬ isConsole e.1 = true := fun hrun e he =>
    not_isConsole_of_looksUp ((PortService.prepareRelease_inspects _).run hrun e he)
  rcases PortService.stopManagedService_run h with ⟨rfl, -⟩ | ⟨_, hobs, -⟩ | ⟨_, hobs, -⟩ |
    ⟨unit, services, current, obs, stop, stopResult, poll, -, hobs, -, -, hstop, rfl, hpoll⟩
  · simp
  · exact hobserves hobs
  · exact hobserves hobs
  · have hstop' : ∀ e ∈ stop, ¬ isConsole e.1 = true := by
      rcases ServiceService.control_run hstop with ⟨_, -, rfl, -⟩ | ⟨normalized, -, rfl⟩
      · simp
      · simp [isConsole]
    have hpoll' : ∀ e ∈ poll, ¬ isConsole e.1 = true := by
      rcases hpoll with ⟨_, -, rfl, -⟩ | ⟨now, rest, -, rfl, hrun⟩
      · simp
      · intro e he
        rcases List.mem_cons.mp he with rfl | he
        · simp [isConsole]
        · refine (PortService.pollStopped_within (P := fun c => ¬ isConsole c = true) ?_ ?_ ?_ ..).run
            hrun e he
          · exact fun c hc => not_isConsole_of_looksUp hc
          · simp [isConsole]
          · simp [isConsole]
    intro e he
    rcases List.mem_append.mp he with he | he
    · rcases List.mem_append.mp he with he | he
      · exact hobserves hobs e he
      · exact hstop' e he
    · exact hpoll' e he

/-- Nothing is asked in the branch with a recommended unit once the port is observed again. -/
theorem freeByService_not_fallsBack {plan : PortReleasePlan} {unit : Bytes} {code : Int}
    (h : (freeByService ports options port plan unit).Run t code) : ¬ FallsBack options t := by
  obtain ⟨agreed, t₁, t₂, ha, hk, rfl⟩ := Prog.run_bind_iff.mp h
  have hasked := (authorize_run ha).1
  rw [fallsBack_append_iff fun e he => not_asksSockets_of_isConsole (hasked e he)]
  -- declined, or nothing but the outcome is told after the stop
  cases agreed with
  | false =>
    exact not_fallsBack_of_console (u := []) (by simp) ((console_cancelled options).run hk)
  | true =>
    obtain ⟨stopped, t₃, t₄, hs, hk₁, rfl⟩ := Prog.run_bind_iff.mp hk
    refine not_fallsBack_of_console (stopManagedService_not_console hs) ?_
    cases stopped with
    | error error => exact (console_fail error).run hk₁
    | ok stopped => exact (console_released _ _ _).run hk₁

theorem releaseWith_not_console {plan : Observation PortReleasePlan} {planning : Trace Contract}
    {processSignal : ProcessSignal}
    {stillOccupied : List Warning → List SignalDelivery → Observation PortReleasePlan →
      Result (Observation PortReleaseResult)} {r : Result (Observation PortReleaseResult)}
    (hplan : (ports.prepareRelease port).Run planning (.ok plan))
    (h : (ports.releaseWith processSignal plan.value stillOccupied).Run t r) :
    ∀ e ∈ t, ¬ isConsole e.1 = true := by
  have hobserves : ∀ {u : Trace Contract} {r}, (ports.prepareRelease port).Run u r →
      ∀ e ∈ u, ¬ isConsole e.1 = true := fun hrun e he =>
    not_isConsole_of_looksUp ((PortService.prepareRelease_inspects _).run hrun e he)
  -- observed, signalled, perhaps observed again: nobody is told anything meanwhile
  rcases PortService.releaseWith_rounds hplan h with ⟨current, hobs, -⟩ |
    ⟨current, confirmation, sends, tail, rfl, hobs, -, hsends, htail⟩
  · exact hobserves hobs
  · have htail' : ∀ e ∈ tail, ¬ isConsole e.1 = true := by
      rcases htail with ⟨rfl, -⟩ | ⟨after, _, hafter, -⟩
      · simp
      · exact hobserves hafter
    intro e he
    rcases List.mem_append.mp he with he | he
    · exact hobserves hobs e he
    rcases List.mem_append.mp he with he | he
    · exact not_isConsole_of_carriesOut (hsends.carriesOut e he)
    · exact htail' e he

theorem abortsOnServiceError_of_not_signals (h : ¬ Signals t) : AbortsOnServiceError ports port t where
  printed _ _ _ _ _ := h
  remaining _ _ _ hremains _ := absurd hremains.signals h
  stop _ := h

/-- A plan without unit leaves no service to be stopped. -/
theorem abortsOnServiceError_iff {plan : PortReleasePlan} {planning rest : Trace Contract}
    (hplanned : Planned ports port t planning plan rest) (hunit : plan.recommendedUnit = none) :
    AbortsOnServiceError ports port t ↔ (LookupFailed plan planning → ¬ Signals t) ∧
      ∀ planning plan rest, Remains ports port t planning plan rest →
        LookupFailed plan planning → ¬ Signals rest := by
  constructor
  · rintro ⟨hprinted, hremaining, -⟩
    exact ⟨hprinted _ _ _ hplanned, hremaining⟩
  · rintro ⟨hprinted, hremaining⟩
    refine ⟨fun _ _ _ hplanned' hfailed => ?_, hremaining, ?_⟩
    -- there is only one printed plan
    · obtain ⟨rfl, rfl, -⟩ := hplanned.unique hplanned'
      exact hprinted hfailed
    · rintro ⟨_, _, _, unit, hplanned', hunit', -⟩
      obtain ⟨-, rfl, -⟩ := hplanned.unique hplanned'
      rw [hunit] at hunit'
      cases hunit'

section Rounds

variable {planning asked confirmation sends replanning asked' release done rest : Trace Contract}
  {plan current remaining : Observation PortReleasePlan} {processSignal : ProcessSignal}
  {stillOccupied : List Warning → List SignalDelivery → Observation PortReleasePlan →
    Result (Observation PortReleaseResult)} {r : Result (Observation PortReleaseResult)}

/-- One operation: it signals after a failed lookup exactly if the run falls back to it. -/
theorem abortsOnServiceError_iff_of_round
    (hplanned : Planned ports port (planning ++ (asked ++ (release ++ done))) planning plan.value rest)
    (hunit : plan.value.recommendedUnit = none)
    (hplan : (ports.prepareRelease port).Run planning (.ok plan))
    (hne : asked ≠ []) (hasked : ConsoleOnly asked) (hagreed : Agreed options asked)
    (hrelease : (ports.releaseWith processSignal plan.value stillOccupied).Run release r)
    (hdone : ConsoleOnly done) :
    AbortsOnServiceError ports port (planning ++ (asked ++ (release ++ done))) ↔
      ¬ FallsBack options (planning ++ (asked ++ (release ++ done))) := by
  have hquiet : ¬ Signals planning := Quiet.not_signals (PortService.prepareRelease_quiet hplan)
  have hsignals : Signals (planning ++ (asked ++ (release ++ done))) ↔ Signals release := by
    simp [hquiet, hasked.not_signals, hdone.not_signals]
  have hremaining : ∀ planning' plan' rest',
      Remains ports port (planning ++ (asked ++ (release ++ done))) planning' plan' rest' →
        ¬ Signals rest' := by
    intro planning' plan' rest' hremains
    rw [← List.append_assoc planning] at hremains
    exact hremains.not_signals (by simp [hquiet, hasked.not_signals]) hplan hrelease hdone
  rw [abortsOnServiceError_iff hplanned hunit, lookupFailed_iff hplan, hsignals,
    and_iff_left fun _ _ _ hremains _ => hremaining _ _ _ hremains,
    fallsBack_observation_iff hplan, fallsBackFrom_iff hplan hne hasked hagreed hrelease,
    fallsBack_append_iff fun e he => not_asksSockets_of_isConsole (hasked e he),
    or_iff_left (not_fallsBack_of_console (releaseWith_not_console hplan hrelease) hdone), not_and]

/-- A round of SIGTERM and an operation for what is left: either can be fallen back to. -/
theorem abortsOnServiceError_iff_of_rounds
    (hplanned : Planned ports port (planning ++ (asked ++ (confirmation ++ (sends ++ (replanning ++
      (asked' ++ (release ++ done))))))) planning plan.value rest)
    (hunit : plan.value.recommendedUnit = none)
    (hplan : (ports.prepareRelease port).Run planning (.ok plan))
    (hne : asked ≠ []) (hasked : ConsoleOnly asked) (hagreed : Agreed options asked)
    (hcurrent : (ports.prepareRelease port).Run confirmation (.ok current))
    (hsame : PortService.sameTargets plan.value current.value = true)
    (hsends : PortService.Sends .terminate sends)
    (hremaining : (ports.prepareRelease port).Run replanning (.ok remaining))
    (hne' : asked' ≠ []) (hasked' : ConsoleOnly asked') (hagreed' : Agreed options asked')
    (hrelease : (ports.releaseWith processSignal remaining.value stillOccupied).Run release r)
    (hdone : ConsoleOnly done) :
    AbortsOnServiceError ports port (planning ++ (asked ++ (confirmation ++ (sends ++ (replanning ++
      (asked' ++ (release ++ done))))))) ↔
      ¬ FallsBack options (planning ++ (asked ++ (confirmation ++ (sends ++ (replanning ++
        (asked' ++ (release ++ done))))))) := by
  have hfalls : FallsBack options (planning ++ (asked ++ (confirmation ++ (sends ++ (replanning ++
      (asked' ++ (release ++ done))))))) ↔ (∃ pid, LookupFailure pid planning) ∨
      (∃ pid, LookupFailure pid replanning) ∧ Signals release := by
    rw [fallsBack_observation_iff hplan,
      fallsBackFrom_iff_of_same hplan hne hasked hagreed hcurrent hsame,
      fallsBack_append_iff fun e he => not_asksSockets_of_isConsole (hasked e he),
      -- the signals keep the run from falling back from the second observation
      fallsBack_observation_iff hcurrent, or_iff_right (not_fallsBackFrom_sends
        ((PortService.prepareRelease_inspects port).run hcurrent) hsends),
      fallsBack_append_iff fun e he => not_asksSockets_of_carriesOut (hsends.carriesOut e he),
      fallsBack_observation_iff hremaining,
      fallsBackFrom_iff hremaining hne' hasked' hagreed' hrelease,
      fallsBack_append_iff fun e he => not_asksSockets_of_isConsole (hasked' e he),
      or_iff_left (not_fallsBack_of_console (releaseWith_not_console hremaining hrelease) hdone)]
  have hbefore : ¬ Signals (planning ++ (asked ++ confirmation)) := by
    simp [hasked.not_signals, Quiet.not_signals (PortService.prepareRelease_quiet hplan),
      Quiet.not_signals (PortService.prepareRelease_quiet hcurrent)]
  rw [abortsOnServiceError_iff hplanned hunit, lookupFailed_iff hplan, hfalls]
  constructor
  -- the lookup failed for the printed plan, or for the one of what was left
  · rintro ⟨hprinted, hleft⟩ (hfail | ⟨hfail, hsignals⟩)
    · exact hprinted hfail (by simp [signals_of_sends hsends])
    · -- the plan of what is left was built while a lookup failed
      obtain ⟨pid, x, waits, rfl, hwaits⟩ := hsends
      refine hleft replanning remaining.value (asked' ++ (release ++ done))
        ⟨⟨planning ++ (asked ++ confirmation), pid, .terminate, x, waits, ?_,
          fun e he => not_asksSockets_of_carriesOut (hwaits e he)⟩, remaining.warnings, hremaining⟩
        ((lookupFailed_iff hremaining).mpr hfail) (by simp [hsignals])
      simp only [List.append_assoc, List.cons_append]
  · intro hnever
    -- a plan of what is left was made after the first round or after the second one
    refine ⟨fun hfail => absurd (.inl hfail) hnever, fun planning' plan' rest' hremains hfailed => ?_⟩
    have hround := hremains
    rw [← List.append_assoc asked, ← List.append_assoc planning] at hround
    rcases hround.of_round hbefore hsends hremaining with ⟨rfl, rfl⟩ | hlater
    · obtain ⟨warnings, hprepared⟩ := hremains.prepared
      have hfail := (lookupFailed_iff hprepared).mp hfailed
      have hrelease' : ¬ Signals release := fun hsignals => hnever (.inr ⟨hfail, hsignals⟩)
      simp [hasked'.not_signals, hrelease', hdone.not_signals]
    · exact hlater.not_signals hasked'.not_signals hremaining hrelease hdone

end Rounds

/-- **Service errors and process signals.** A run aborts on every service error exactly if it does
    not fall back: in no place is an observation with a failed unit lookup followed by the user's
    agreement and by an observation of the same sockets. -/
theorem freePort_service_error_iff {code : Int} (hprovider : FromProcessProvider t)
    (h : (freePort ports options port).Run t code) :
    AbortsOnServiceError ports port t ↔ ¬ FallsBack options t := by
  obtain ⟨prepared, planning, t₂, hp, hk, rfl⟩ := Prog.run_bind_iff.mp h
  have hquiet : ¬ Signals planning := Quiet.not_signals (PortService.prepareRelease_quiet hp)
  have hlooks := (PortService.prepareRelease_inspects port).run hp
  have hsilent : ∀ e ∈ planning, ¬ isConsole e.1 = true := fun e he =>
    not_isConsole_of_looksUp (hlooks e he)
  cases prepared with
  | error error =>
    have hfailed : ConsoleOnly t₂ := (console_fail error).run hk
    exact iff_of_true (abortsOnServiceError_of_not_signals (by simp [hquiet, hfailed.not_signals]))
      (not_fallsBack_of_console hsilent hfailed)
  | ok plan =>
    obtain ⟨_, printed, t₃, hw, hk₁, rfl⟩ := Prog.run_bind_iff.mp hk
    have hprinted : ConsoleOnly printed := (console_write _).run hw
    have hne : printed ≠ [] := by simp [Prog.run_perform.mp hw]
    have hplanned : Planned ports port (planning ++ (printed ++ t₃)) planning plan.value t₃ :=
      ⟨by rw [Prog.run_perform.mp hw]; rfl, plan.warnings, hp⟩
    -- with a unit the run stops it, otherwise it signals
    split at hk₁
    · rename_i unit hunit
      have hnever := freeByService_not_signals hunit hk₁
      refine iff_of_true (abortsOnServiceError_of_not_signals
        (by simp [hquiet, hprinted.not_signals, hnever])) fun hfalls => ?_
      rcases (fallsBack_observation_iff hp).mp hfalls with hfrom | hlater
      · -- a failed lookup would have left no unit to recommend
        obtain ⟨_, _, _, _, _, -, -, ⟨pid, hfail⟩, -⟩ := hfrom.observed hlooks hne hprinted
        have hnone := PortService.prepareRelease_lookup_failed
          (hprovider.mono (List.subset_append_left _ _)) hp
          (PortService.mem_ownerPids_of_lookup hp hfail) hfail
        rw [hunit] at hnone
        cases hnone
      · rw [fallsBack_append_iff fun e he => not_asksSockets_of_isConsole (hprinted e he)] at hlater
        exact freeByService_not_fallsBack hk₁ hlater
    · rename_i hunit
      rcases freeBySignals_rounds hp hk₁ with hconsole |
        ⟨asked, release, r, done, rfl, ha, hrelease, hdone⟩ |
        ⟨asked, current, confirmation, sends, replanning, remaining, told, more, rfl, ha, hobs, hsame,
          hsends, hreplanned, htoldne, htold, asked', release, r, done, rfl, ha', hrelease, hdone⟩
      · -- declined: nobody is signalled, and nothing is observed again
        exact iff_of_true (abortsOnServiceError_of_not_signals
          (by simp [hquiet, hprinted.not_signals, hconsole.not_signals]))
          (not_fallsBack_of_console hsilent (hprinted.append hconsole))
      · rw [← List.append_assoc printed] at hplanned ⊢
        exact abortsOnServiceError_iff_of_round hplanned hunit hp (by simp [hne])
          (hprinted.append (authorize_run ha).1) ((agreed_of_terminate ha).append_left _) hrelease hdone
      · rw [← List.append_assoc printed, ← List.append_assoc told] at hplanned ⊢
        exact abortsOnServiceError_iff_of_rounds hplanned hunit hp (by simp [hne])
          (hprinted.append (authorize_run ha).1) ((agreed_of_terminate ha).append_left _) hobs hsame
          hsends hreplanned (by simp [htoldne]) (htold.append (authorize_run ha').1)
          ((agreed_of_force ha').append_left _) hrelease hdone

/-- `GetUnitByPID` timed out. -/
def lookupTimeout : Error := ⟨.timeout, "Timed out", 110, "systemd", "resolve PID"⟩

/-- The plan for a port whose only owner has no known unit. -/
def heldPlan : PortReleasePlan :=
  ⟨8080, [⟨{ localEnd := ⟨"0.0.0.0", 8080⟩, inode := 7, ownerPids := [42] },
    [{ pid := 42, name := "server" }]⟩], [42], none⟩

/-- The calls that lead to `heldPlan` when the unit lookup is answered with `unit`. -/
def heldPlanning (unit : Result (Option Bytes)) : Trace Contract :=
  [⟨.querySockets { localPort := some 8080 },
      .ok ⟨[{ localEnd := ⟨"0.0.0.0", 8080⟩, inode := 7 }], []⟩⟩,
    ⟨.resolveOwners [7], .ok ⟨[(7, [42])], []⟩⟩, ⟨.hashOrder [42], ⟨[42], .refl _⟩⟩,
    ⟨.getProcess 42, .ok ⟨{ pid := 42, name := "server" }, []⟩⟩, ⟨.unitByPid 42, unit⟩]

theorem heldPlanning_run : (exampleServices.prepareRelease 8080).Run
    (heldPlanning (.error lookupTimeout)) (.ok ⟨heldPlan, [warningFrom lookupTimeout]⟩) :=
  ⟨_, _, rfl, _, _, rfl, _, _, rfl, _, _, rfl, _, _, rfl, rfl, rfl⟩

theorem heldPlanning_run_ok : (exampleServices.prepareRelease 8080).Run
    (heldPlanning (.ok none)) (.ok ⟨heldPlan, []⟩) :=
  ⟨_, _, rfl, _, _, rfl, _, _, rfl, _, _, rfl, _, _, rfl, rfl, rfl⟩

theorem heldPlanning_failed : LookupFailed heldPlan (heldPlanning (.error lookupTimeout)) :=
  ⟨42, by decide, lookupTimeout, by simp [heldPlanning], rfl⟩

/-- The time-out of the only owner's lookup does not keep the run from SIGTERM. -/
theorem freePort_signals_after_lookup_timeout :
    ∃ t planning plan rest, FromProcessProvider t ∧
      (freePort exampleServices { confirmRelease := true } 8080).Run t 0 ∧
      Planned exampleServices 8080 t planning plan rest ∧ LookupFailed plan planning ∧ Signals t ∧
      ¬ AbortsOnServiceError exampleServices 8080 t := by
  -- the run is computed, and its properties are checked on the result
  obtain ⟨rest, code, hrun, htest⟩ := Prog.exists_run_of_exec (S := Contract)
    (holder (delivers .terminate) (.error lookupTimeout))
    (freeBySignals exampleServices { confirmRelease := true } 8080 heldPlan)
    (fun r => decide (r.1 = 0) && (r.2.all isProviderRecord && r.2.any (delivers .terminate)))
    (by decide)
  simp only [Bool.and_eq_true, decide_eq_true_eq, List.any_eq_true] at htest
  obtain ⟨rfl, hrecords, ⟨c, x⟩, hmem, hsend⟩ := htest
  have hplanned : Planned exampleServices 8080
      (heldPlanning (.error lookupTimeout) ++ ⟨.write (printReleasePlan heldPlan), ()⟩ :: rest)
      (heldPlanning (.error lookupTimeout)) heldPlan rest := ⟨rfl, _, heldPlanning_run⟩
  have hsignals : Signals
      (heldPlanning (.error lookupTimeout) ++ ⟨.write (printReleasePlan heldPlan), ()⟩ :: rest) := by
    unfold delivers at hsend
    split at hsend
    · rename_i pid signal hcall
      obtain rfl := hcall
      exact ⟨pid, signal, x, by simp [hmem]⟩
    · cases hsend
  refine ⟨_, _, heldPlan, rest, ?_, ?_, hplanned, heldPlanning_failed, hsignals,
    fun haborts => haborts.printed _ _ _ hplanned heldPlanning_failed hsignals⟩
  · refine fromProcessProvider_of_all ?_
    rw [List.all_append, List.all_cons, hrecords]
    rfl
  · exact Prog.run_bind_iff.mpr ⟨_, _, _, heldPlanning_run, ⟨(), rest, rfl, hrun⟩, rfl⟩

/-! The lookup times out after SIGTERM, and the user does not want SIGKILL. -/

def heldAsked : Trace Contract :=
  [⟨.write (printReleasePlan heldPlan), ()⟩, ⟨.write terminatePrompt, ()⟩,
    ⟨.getline, some (Bytes.ofString "y")⟩]

def heldTerminated : SignalDelivery := ⟨42, .terminate, .pidFd⟩

/-- The clock is read twice within one nanosecond. -/
theorem heldClock : 0 ≤ 0 := Nat.le_refl 0

def heldSends : Trace Contract :=
  [⟨.send 42 .terminate, .ok heldTerminated⟩, ⟨.steadyNow 0, ⟨0, heldClock⟩⟩,
    ⟨.steadyNow 0, ⟨0, heldClock⟩⟩, ⟨.waitForExit 42 2000, .ok true⟩]

def heldDeclined : Trace Contract :=
  [⟨.writeError (Bytes.ofString "Warning: " ++ lookupTimeout.message ++ Bytes.ofString "\n"), ()⟩,
    ⟨.write "Port is still occupied.\n", ()⟩, ⟨.write forcePrompt, ()⟩,
    ⟨.getline, some (Bytes.ofString "n")⟩, ⟨.write "Cancelled.\n", ()⟩]

def heldRun : Trace Contract :=
  heldPlanning (.ok none) ++ (heldAsked ++ ((heldPlanning (.ok none) ++ (heldSends ++
    heldPlanning (.error lookupTimeout))) ++ heldDeclined))

theorem heldRun_run : (freePort exampleServices {} 8080).Run heldRun 0 := by
  have hsent : (exampleServices.signalAndWait .terminate [42]).Run heldSends (.ok [heldTerminated]) := by
    have hmilliseconds : (if 0 + exampleServices.graceNanoseconds ≤ 0 then 0
        else (0 + exampleServices.graceNanoseconds - 0) / 1000000) = 2000 := by decide
    refine ⟨_, _, rfl, _, _, rfl, _, _, rfl, .ok true, [], ?_, rfl, rfl⟩
    rw [hmilliseconds]
  have hterminated : (exampleServices.terminate heldPlan).Run
      (heldPlanning (.ok none) ++ (heldSends ++ heldPlanning (.error lookupTimeout)))
      (.ok ⟨{ deliveries := [heldTerminated], remaining := some heldPlan },
        [warningFrom lookupTimeout]⟩) := by
    -- the same sockets are observed, the owner is signalled, and the lookup times out
    refine Prog.run_bind_iff.mpr ⟨_, _, _, heldPlanning_run_ok, ?_, rfl⟩
    have hsame : PortService.sameTargets heldPlan heldPlan = true :=
      PortService.sameTargets_iff.mpr (.refl _)
    dsimp only
    rw [hsame, if_neg (by decide)]
    exact Prog.run_bind_iff.mpr ⟨_, _, _, hsent, Prog.run_bind_iff.mpr
      ⟨_, _, [], heldPlanning_run, ⟨rfl, rfl⟩, (List.append_nil _).symm⟩, rfl⟩
  -- the warning is printed before the second question
  have hdeclined : (do
      printWarnings false [warningFrom lookupTimeout]
      freeByForce exampleServices {} 8080 heldPlan).Run heldDeclined 0 :=
    ⟨(), _, rfl, (), _, rfl, (), _, rfl, _, _, rfl, (), _, rfl, rfl, rfl⟩
  have hasked : (authorize {} terminatePrompt true).Run heldAsked.tail true :=
    ⟨(), _, rfl, some (Bytes.ofString "y"), _, rfl, rfl, by decide⟩
  have hsignals : (freeBySignals exampleServices {} 8080 heldPlan).Run (heldAsked.tail ++
      ((heldPlanning (.ok none) ++ (heldSends ++ heldPlanning (.error lookupTimeout))) ++
        heldDeclined)) 0 :=
    Prog.run_bind_iff.mpr ⟨true, _, _, hasked,
      Prog.run_bind_iff.mpr ⟨_, _, _, hterminated, hdeclined, rfl⟩, rfl⟩
  exact Prog.run_bind_iff.mpr ⟨_, _, _, heldPlanning_run_ok, ⟨(), _, rfl, hsignals⟩, rfl⟩

/-- Declined at the second prompt, the failed lookup is harmless. -/
theorem freePort_service_error_declined :
    ∃ t, (freePort exampleServices {} 8080).Run t 0 ∧
      Remains exampleServices 8080 t (heldPlanning (.error lookupTimeout)) heldPlan heldDeclined ∧
      LookupFailed heldPlan (heldPlanning (.error lookupTimeout)) ∧
      AbortsOnServiceError exampleServices 8080 t := by
  have hremains : Remains exampleServices 8080 heldRun (heldPlanning (.error lookupTimeout)) heldPlan
      heldDeclined :=
    ⟨⟨heldPlanning (.ok none) ++ (heldAsked ++ heldPlanning (.ok none)), 42, .terminate,
      .ok heldTerminated, heldSends.tail, by simp [heldRun, heldSends],
      by simp [heldSends, PortService.AsksSockets]⟩, _, heldPlanning_run⟩
  refine ⟨heldRun, heldRun_run, hremains, heldPlanning_failed, ?_⟩
  refine (freePort_service_error_iff (fromProcessProvider_of_all rfl) heldRun_run).mpr ?_
  have hasked : ConsoleOnly heldAsked := by simp [ConsoleOnly, heldAsked, isConsole]
  rw [heldRun, fallsBack_observation_iff heldPlanning_run_ok,
    fallsBack_append_iff fun e he => not_asksSockets_of_isConsole (hasked e he)]
  -- neither observation is followed by an agreement and another one
  rintro (hfrom | hlater)
  · -- the first plan was built without a failure
    obtain ⟨_, _, _, _, _, -, -, ⟨pid, error, hmem, -⟩, -⟩ := hfrom.observed
      ((PortService.prepareRelease_inspects 8080).run heldPlanning_run_ok) (by simp [heldAsked]) hasked
    simp only [heldPlanning, List.mem_cons, List.not_mem_nil, or_false] at hmem
    rcases hmem with h | h | h | h | h <;> cases h
  · -- and after the second one nothing is observed any more
    refine not_fallsBack_of_console ?_ ?_ hlater
    · simp [heldPlanning, heldSends, isConsole]
    · simp [ConsoleOnly, heldDeclined, isConsole]

end Cli

end Lx
