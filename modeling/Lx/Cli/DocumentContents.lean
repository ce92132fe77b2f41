import Lx.Cli.SecretArguments
import Mathlib.Algebra.Ring.Int.Defs

/-!
# What a document says

The documents of schema version 1 say everything that was observed, except what they are meant
to keep back: secrets among arguments, and the nanoseconds of a journal entry, which are rounded
to microseconds. Two documents are equal exactly if they were made by the same command and their
observations agree up to that.

## Layers

- §1: values; equal values come from equal records.
- §2: records with secrets, and entries with nanoseconds.
- §3: documents.
-/

namespace Lx.CliApp

open Cli JsonSerializer

/-! ## §1 Values -/

def errorCodes : List ErrorCode :=
  [.invalidArgument, .notFound, .permissionDenied, .unsupported, .unavailable, .ioError,
    .protocolError, .parseError, .operationFailed, .timeout, .conflict, .interrupted]

theorem errorCodeName_injective : Function.Injective errorCodeName := by
  have hall : ∀ code, code ∈ errorCodes := by
    intro code
    cases code <;> simp [errorCodes]
  -- twelve names, no two of them the same
  have hnames : (errorCodes.map errorCodeName).Nodup := by decide +kernel
  exact fun a b h => List.inj_on_of_nodup_map hnames (hall a) (hall b) h

theorem optionalString_injective : Function.Injective optionalString := by
  intro a b h
  cases a <;> cases b <;> simp_all [optionalString]

theorem optionalPid_injective : Function.Injective optionalPid := by
  intro a b h
  cases a <;> cases b <;> simp_all [optionalPid]

/-- Errors and warnings are determined by their members. -/
theorem diagnosticMembers_inj {c c' : ErrorCode} {m m' : Bytes} {n n' : Int} {k k' o o' : Bytes} :
    diagnosticMembers c m n k o = diagnosticMembers c' m' n' k' o' ↔
      -- the keys are the same on both sides, so only the five values are compared
      c = c' ∧ m = m' ∧ n = n' ∧ k = k' ∧ o = o' := by
  simp [diagnosticMembers, member, errorCodeName_injective.eq_iff]

theorem errorValue_injective : Function.Injective errorValue := by
  intro a b h
  obtain ⟨h₁, h₂, h₃, h₄, h₅⟩ := diagnosticMembers_inj.mp (Json.object.inj h)
  cases a
  cases b
  simp_all

theorem warningValue_injective : Function.Injective warningValue := by
  intro a b h
  obtain ⟨h₁, h₂, h₃, h₄, h₅⟩ := diagnosticMembers_inj.mp (Json.object.inj h)
  cases a
  cases b
  simp_all

theorem warningValues_injective : Function.Injective warningValues := fun _ _ h =>
  -- a list is read back element by element
  List.map_injective_iff.mpr warningValue_injective (Json.array.inj h)

theorem endpointValue_injective : Function.Injective endpointValue := by
  rintro ⟨a, n⟩ ⟨b, m⟩ h
  simpa [endpointValue, member] using h

/-- A socket without a remote end has null there. -/
theorem remote_injective : Function.Injective fun remote : Option Endpoint =>
    (match remote with | some remote => endpointValue remote | none => Json.null) := by
  -- null is not an object, so the two cases cannot meet
  intro a b h
  cases a <;> cases b
  · rfl
  · exact absurd h (by simp [endpointValue])
  · exact absurd h (by simp [endpointValue])
  · exact congrArg some (endpointValue_injective h)

theorem protocolName_injective : Function.Injective fun protocol : TransportProtocol =>
    (match protocol with | .tcp => Bytes.ofString "tcp" | .udp => Bytes.ofString "udp") := by
  intro a b h
  cases a <;> cases b <;> first | rfl | exact absurd h (by decide)

theorem familyName_injective : Function.Injective fun family : AddressFamily =>
    (match family with | .ipv4 => Bytes.ofString "ipv4" | .ipv6 => Bytes.ofString "ipv6") := by
  intro a b h
  cases a <;> cases b <;> first | rfl | exact absurd h (by decide)

theorem socketValue_injective : Function.Injective socketValue := by
  rintro ⟨p, f, l, r, s, u, i, o⟩ ⟨p', f', l', r', s', u', i', o'⟩ h
  -- without the keys, an equation for each member
  simp only [socketValue, member, Json.object.injEq, List.cons.injEq, Prod.mk.injEq, true_and,
    and_true, Json.string.injEq, Json.number.injEq, Json.array.injEq, Int.natCast_inj] at h
  obtain ⟨hprotocol, hfamily, hlocal, hremote, hstate, huid, hinode, howners⟩ := h
  obtain rfl : p = p' := protocolName_injective hprotocol
  obtain rfl : f = f' := familyName_injective hfamily
  obtain rfl : l = l' := endpointValue_injective hlocal
  obtain rfl : r = r' := remote_injective hremote
  obtain rfl : o = o' := List.map_injective_iff.mpr (fun _ _ => Json.number.inj) howners
  subst hstate huid hinode
  rfl

/-- A service is shown in full. -/
theorem serviceValue_injective : Function.Injective serviceValue := by
  rintro ⟨n, d, l, a, s, u, m, t⟩ ⟨n', d', l', a', s', u', m', t'⟩ h
  simpa [serviceValue, member, optionalPid_injective.eq_iff] using h

theorem serviceValues_injective : Function.Injective serviceValues := fun _ _ h =>
  List.map_injective_iff.mpr serviceValue_injective (Json.array.inj h)

theorem resourceTargetValue_injective : Function.Injective resourceTargetValue := by
  -- a port and a PID are both numbers: only `type` tells them apart
  have hport : Bytes.ofString "port" ≠ Bytes.ofString "pid" := by decide
  have hservice : Bytes.ofString "port" ≠ Bytes.ofString "service" := by decide
  have hpid : Bytes.ofString "pid" ≠ Bytes.ofString "service" := by decide
  intro a b h
  cases a <;> cases b <;>
    simp_all [resourceTargetValue, member, hport.symm, hservice.symm, hpid.symm]

/-! ## §2 What is kept back -/

/-- A process as it is shown. -/
def shownProcess (raw : Bool) (process : ProcessInfo) : ProcessInfo :=
  { process with argv := arguments process.argv raw }

theorem processValue_eq_iff {raw raw' : Bool} {a b : ProcessInfo} :
    processValue a raw = processValue b raw' ↔ shownProcess raw a = shownProcess raw' b := by
  obtain ⟨i, p, n, s, u, g, w, e, c, v, r, t, k, y⟩ := a
  obtain ⟨i', p', n', s', u', g', w', e', c', v', r', t', k', y'⟩ := b
  -- after redaction arguments are texts, and a list of texts determines them
  have hargv : (arguments v raw).map Json.string = (arguments v' raw').map Json.string ↔
      arguments v raw = arguments v' raw' :=
    (List.map_injective_iff.mpr fun _ _ => Json.string.inj).eq_iff
  simp only [processValue, shownProcess, member, Json.object.injEq, List.cons.injEq, Prod.mk.injEq,
    true_and, and_true, Json.string.injEq, Json.number.injEq, Json.array.injEq, Int.natCast_inj,
    optionalString_injective.eq_iff, hargv, ProcessInfo.mk.injEq]
  -- usage that was not measured is null
  cases k <;> cases k' <;> simp

/-- Lists of values that say the same about each element. -/
theorem map_eq_map_iff {α β γ : Type} {f : α → β} {g : α → γ}
    (h : ∀ a b, f a = f b ↔ g a = g b) {xs ys : List α} : xs.map f = ys.map f ↔ xs.map g = ys.map g := by
  induction xs generalizing ys with
  | nil => cases ys <;> simp
  | cons x xs ih => cases ys <;> simp [h, ih]

theorem processValues_eq_iff {xs ys : List ProcessInfo} :
    processValues xs = processValues ys ↔ xs.map redactedProcess = ys.map redactedProcess := by
  rw [processValues, processValues, Json.array.injEq]
  exact map_eq_map_iff fun _ _ => processValue_eq_iff

/-- A port is shown with its owners, and they have their arguments redacted. -/
theorem portValue_eq_iff {a b : PortInfo} :
    portValue a = portValue b ↔ redactedPort a = redactedPort b := by
  obtain ⟨s, o⟩ := a
  obtain ⟨s', o'⟩ := b
  have howners : o.map (processValue · false) = o'.map (processValue · false) ↔
      o.map redactedProcess = o'.map redactedProcess := map_eq_map_iff fun _ _ => processValue_eq_iff
  simp only [portValue, redactedPort, member, Json.object.injEq, List.cons.injEq, Prod.mk.injEq,
    true_and, and_true, socketValue_injective.eq_iff, Json.array.injEq, howners, PortInfo.mk.injEq]

theorem portValues_eq_iff {xs ys : List PortInfo} :
    portValues xs = portValues ys ↔ xs.map redactedPort = ys.map redactedPort := by
  rw [portValues, portValues, Json.array.injEq]
  exact map_eq_map_iff fun _ _ => portValue_eq_iff

/-- An entry as it is shown: its time in microseconds. -/
def shownEntry (entry : JournalEntry) : JournalEntry :=
  { entry with timestamp := entry.timestamp.tdiv 1000 }

theorem journalValue_eq_iff {a b : JournalEntry} :
    journalValue a = journalValue b ↔ shownEntry a = shownEntry b := by
  obtain ⟨t, c, u, p, m, s, r⟩ := a
  -- one member is rounded, the others are kept as they are
  obtain ⟨t', c', u', p', m', s', r'⟩ := b
  simp only [journalValue, shownEntry, member, Json.object.injEq, List.cons.injEq, Prod.mk.injEq,
    true_and, and_true, Json.string.injEq, Json.number.injEq, optionalString_injective.eq_iff,
    optionalPid_injective.eq_iff, JournalEntry.mk.injEq]
  cases r <;> cases r' <;> simp

theorem journalValues_eq_iff {xs ys : List JournalEntry} :
    journalValues xs = journalValues ys ↔ xs.map shownEntry = ys.map shownEntry := by
  rw [journalValues, journalValues, Json.array.injEq]
  exact map_eq_map_iff fun _ _ => journalValue_eq_iff

/-! ## §3 Documents -/

/-- What a command prints as JSON. -/
inductive Contents where
  | doctor (report : DoctorReport)
  | status (status : HostStatus)
  | process (observed : Observation ProcessInfo) (raw : Bool)
  | processes (observed : Observation (List ProcessInfo))
  | ports (observed : Observation (List PortInfo)) (number : Option Nat)
  | service (observed : Observation ServiceInfo)
  | services (observed : Observation (List ServiceInfo))
  | logs (observed : Observation (List JournalEntry))
  | logEvent (observed : Observation JournalEntry)
  | inspect (graph : ResourceGraph)
  | find (found : FindResult)
  | error (command operation : Bytes) (failure : Error)

def Contents.document : Contents → Json
  | .doctor report => doctorDocument report
  | .status host => statusDocument host
  | .process observed raw => JsonSerializer.process observed raw
  | .processes observed => JsonSerializer.processes observed
  | .ports observed number => JsonSerializer.ports observed (portOperation number)
  | .service observed => JsonSerializer.service observed
  | .services observed => JsonSerializer.services observed
  | .logs observed => JsonSerializer.logs observed
  | .logEvent observed => JsonSerializer.logEvent observed
  | .inspect graph => JsonSerializer.inspect graph
  | .find found => JsonSerializer.find found
  | .error command operation failure => JsonSerializer.error command operation failure

/-- The command and the operation of a document, and whether it reports an error. -/
def Contents.heading : Contents → Bool × Bytes × Bytes
  | .doctor _ => (false, "doctor", "inspect")
  | .status _ => (false, "status", "read")
  | .process _ _ => (false, "process", "inspect")
  -- with a number the sockets on one port, otherwise all of them
  | .processes _ => (false, "process", "list")
  | .ports _ number => (false, "port", portOperation number)
  | .service _ => (false, "service", "inspect")
  | .services _ => (false, "service", "list")
  | .logs _ => (false, "log", "read")
  | .logEvent _ => (false, "log", "follow")
  | .inspect _ => (false, "inspect", "inspect")
  | .find _ => (false, "find", "search")
  | .error command operation _ => (true, command, operation)

/-- The same observations, up to what documents keep back. -/
inductive Contents.Same : Contents → Contents → Prop where
  | doctor {report : DoctorReport} : Same (.doctor report) (.doctor report)
  | status {status : HostStatus} : Same (.status status) (.status status)
  | process {a b : Observation ProcessInfo} {raw raw' : Bool}
      (process : shownProcess raw a.value = shownProcess raw' b.value)
    -- a raw process may look like a redacted one, if it has no secrets
      (warnings : a.warnings = b.warnings) : Same (.process a raw) (.process b raw')
  | processes {a b : Observation (List ProcessInfo)}
      (processes : a.value.map redactedProcess = b.value.map redactedProcess)
      (warnings : a.warnings = b.warnings) : Same (.processes a) (.processes b)
  | ports {a b : Observation (List PortInfo)} {number number' : Option Nat}
      (operation : number.isSome = number'.isSome)
      (ports : a.value.map redactedPort = b.value.map redactedPort)
      (warnings : a.warnings = b.warnings) : Same (.ports a number) (.ports b number')
  | service {observed : Observation ServiceInfo} : Same (.service observed) (.service observed)
  | services {observed : Observation (List ServiceInfo)} :
      Same (.services observed) (.services observed)
  | logs {a b : Observation (List JournalEntry)}
      (entries : a.value.map shownEntry = b.value.map shownEntry)
      (warnings : a.warnings = b.warnings) : Same (.logs a) (.logs b)
  | logEvent {a b : Observation JournalEntry} (entry : shownEntry a.value = shownEntry b.value)
      (warnings : a.warnings = b.warnings) : Same (.logEvent a) (.logEvent b)
  | inspect {a b : ResourceGraph} (root : a.root = b.root)
      (ports : a.ports.map redactedPort = b.ports.map redactedPort)
      (processes : a.processes.map redactedProcess = b.processes.map redactedProcess)
      (services : a.services = b.services)
      (recentLogs : a.recentLogs.map shownEntry = b.recentLogs.map shownEntry)
      (warnings : a.warnings = b.warnings) : Same (.inspect a) (.inspect b)
  | find {a b : FindResult} (services : a.services = b.services)
      (processes : a.processes.map redactedProcess = b.processes.map redactedProcess)
      (ports : a.ports.map redactedPort = b.ports.map redactedPort)
      (executables : a.executables = b.executables)
      (warnings : a.warnings = b.warnings) : Same (.find a) (.find b)
  | error {command operation : Bytes} {failure : Error} :
      Same (.error command operation failure) (.error command operation failure)

/-- An envelope is determined by its command, its operation, its data and its warnings. -/
theorem envelope_inj {c c' o o' : Bytes} {d d' : List (Bytes × Json)} {w w' : List Warning} :
    envelope c o d w = envelope c' o' d' w' ↔ c = c' ∧ o = o' ∧ d = d' ∧ w = w' := by
  -- the number of the schema is the same everywhere
  simp [envelope, member, warningValues_injective.eq_iff]

theorem error_inj {c c' o o' : Bytes} {e e' : Error} :
    JsonSerializer.error c o e = JsonSerializer.error c' o' e' ↔ c = c' ∧ o = o' ∧ e = e' := by
  simp [JsonSerializer.error, member, errorValue_injective.eq_iff]

/-- The heading as a reader finds it. -/
def headingOf : Json → Option (Bool × Bytes × Bytes)
  -- five members with data, four with an error: the two cannot be confused
  | .object [_, (_, .string command), (_, .string operation), _, _] => some (false, command, operation)
  | .object [_, (_, .string command), (_, .string operation), _] => some (true, command, operation)
  | _ => none

theorem headingOf_document (contents : Contents) :
    headingOf contents.document = some contents.heading := by
  cases contents <;> rfl

/-- A document has the heading of what it was made of. -/
theorem heading_eq {a b : Contents} (h : a.document = b.document) : a.heading = b.heading :=
  Option.some.inj (by rw [← headingOf_document, ← headingOf_document, h])

theorem portOperation_inj {number number' : Option Nat} :
    portOperation number = portOperation number' ↔ number.isSome = number'.isSome := by
  have hne : Bytes.ofString "inspect" ≠ Bytes.ofString "list" := by decide
  unfold portOperation
  cases number <;> cases number' <;> simp [hne, hne.symm]

theorem single_member_inj {key : String} {a b : Json} :
    [member key a] = [member key b] ↔ a = b := by
  simp [member]

/-- Two checks that are shown in the same way are the same. -/
theorem checks_injective : Function.Injective fun report : DoctorReport =>
    report.checks.map fun check => Json.object
      [member "name" (.string check.name), member "status" (.string (capabilityName check.status)),
        member "detail" (.string check.detail)] := by
  have hname : Function.Injective capabilityName := by
    intro a b h
    cases a <;> cases b <;> first | rfl | exact absurd h (by decide)
  rintro ⟨a⟩ ⟨b⟩ h
  -- a report is the list of its checks
  congr 1
  refine List.map_injective_iff.mpr ?_ h
  rintro ⟨n, s, d⟩ ⟨n', s', d'⟩ hcheck
  simpa [member, hname.eq_iff] using hcheck

/-- Host statistics are shown in full. -/
theorem statusDocument_injective : Function.Injective statusDocument := by
  rintro ⟨n, c, m, u, t⟩ ⟨n', c', m', u', t'⟩ h
  simp only [statusDocument, envelope_inj, member, Json.object.injEq, List.cons.injEq,
    Prod.mk.injEq, true_and, and_true, Json.string.injEq, Json.number.injEq, Int.natCast_inj] at h
  obtain ⟨rfl, hpercent, rfl, rfl, rfl⟩ := h
  -- usage that was not measured is null, and null is no number
  cases c <;> cases c' <;> simp_all

/-- Equal documents come from the same observations: of different commands they are different,
and of one command they list the same members. -/
theorem same_of_document_eq {a b : Contents} (h : a.document = b.document) : a.Same b := by
  -- the heading excludes every pair of different commands, except the cases below
  have hheading := heading_eq h
  cases a <;> cases b <;>
    try (exfalso; revert hheading; simp +decide [Contents.heading]; done)
  case doctor.doctor x y =>
    have hchecks := (envelope_inj.mp h).2.2.1
    rw [checks_injective (Json.array.inj (single_member_inj.mp hchecks))]
    exact .doctor
  case status.status x y =>
    -- host statistics have no secrets: the document determines all of them
    rw [statusDocument_injective h]
    exact .status
  case process.process x raw y raw' =>
    obtain ⟨-, -, hprocess, hwarnings⟩ := envelope_inj.mp h
    exact .process (processValue_eq_iff.mp (single_member_inj.mp hprocess)) hwarnings
  case processes.processes x y =>
    obtain ⟨-, -, hprocesses, hwarnings⟩ := envelope_inj.mp h
    exact .processes (processValues_eq_iff.mp (single_member_inj.mp hprocesses)) hwarnings
  case ports.ports x number y number' =>
    obtain ⟨-, hoperation, hports, hwarnings⟩ := envelope_inj.mp h
    exact .ports (portOperation_inj.mp hoperation) (portValues_eq_iff.mp (single_member_inj.mp hports))
      hwarnings
  case service.service x y =>
    -- nothing of a unit is kept back
    obtain ⟨-, -, hservice, hwarnings⟩ := envelope_inj.mp h
    obtain rfl : x = y := by
      cases x
      cases y
      congr
      exact serviceValue_injective (single_member_inj.mp hservice)
    exact .service
  case services.services x y =>
    obtain ⟨-, -, hservices, hwarnings⟩ := envelope_inj.mp h
    obtain rfl : x = y := by
      cases x
      cases y
      congr
      exact serviceValues_injective (single_member_inj.mp hservices)
    exact .services
  case logs.logs x y =>
    obtain ⟨-, -, hentries, hwarnings⟩ := envelope_inj.mp h
    exact .logs (journalValues_eq_iff.mp (single_member_inj.mp hentries)) hwarnings
  case logEvent.logEvent x y =>
    obtain ⟨-, -, hentry, hwarnings⟩ := envelope_inj.mp h
    exact .logEvent (journalValue_eq_iff.mp (single_member_inj.mp hentry)) hwarnings
  case inspect.inspect x y =>
    -- five members, in the order in which the serializer writes them
    obtain ⟨-, -, hmembers, hwarnings⟩ := envelope_inj.mp h
    simp only [member, List.cons.injEq, Prod.mk.injEq, true_and, and_true] at hmembers
    obtain ⟨hroot, hports, hprocesses, hservices, hlogs⟩ := hmembers
    exact .inspect (resourceTargetValue_injective hroot) (portValues_eq_iff.mp hports)
      (processValues_eq_iff.mp hprocesses) (serviceValues_injective hservices)
      (journalValues_eq_iff.mp hlogs) hwarnings
  case find.find x y =>
    obtain ⟨-, -, hmembers, hwarnings⟩ := envelope_inj.mp h
    simp only [member, List.cons.injEq, Prod.mk.injEq, true_and, and_true, Json.array.injEq] at hmembers
    obtain ⟨hservices, hprocesses, hports, hexecutables⟩ := hmembers
    exact .find (serviceValues_injective hservices) (processValues_eq_iff.mp hprocesses)
      (portValues_eq_iff.mp hports)
      (List.map_injective_iff.mpr (fun _ _ => Json.string.inj) hexecutables) hwarnings
  case error.error c o x c' o' y =>
    obtain ⟨rfl, rfl, rfl⟩ := error_inj.mp h
    exact .error

/-- Documents do not show what they keep back. -/
theorem document_eq_of_same {a b : Contents} (h : a.Same b) : a.document = b.document := by
  cases h with
  -- nothing is kept back here, so the same observation is one observation
  | doctor | status | service | services | error => rfl
  | process hprocess hwarnings =>
    simp only [Contents.document, JsonSerializer.process, processValue_eq_iff.mpr hprocess, hwarnings]
  | processes hprocesses hwarnings =>
    simp only [Contents.document, JsonSerializer.processes, processValues_eq_iff.mpr hprocesses, hwarnings]
  | ports hoperation hports hwarnings =>
    simp only [Contents.document, JsonSerializer.ports, portOperation_inj.mpr hoperation,
      portValues_eq_iff.mpr hports, hwarnings]
  | logs hentries hwarnings =>
    simp only [Contents.document, JsonSerializer.logs, journalValues_eq_iff.mpr hentries, hwarnings]
  | logEvent hentry hwarnings =>
    simp only [Contents.document, JsonSerializer.logEvent, journalValue_eq_iff.mpr hentry, hwarnings]
  | inspect hroot hports hprocesses hservices hlogs hwarnings =>
    simp only [Contents.document, JsonSerializer.inspect, hroot, portValues_eq_iff.mpr hports,
      processValues_eq_iff.mpr hprocesses, hservices, journalValues_eq_iff.mpr hlogs, hwarnings]
  | find hservices hprocesses hports hexecutables hwarnings =>
    simp only [Contents.document, JsonSerializer.find, hservices, processValues_eq_iff.mpr hprocesses,
      portValues_eq_iff.mpr hports, hexecutables, hwarnings]

/-- **A document determines what was observed**, up to secrets among arguments and nanoseconds,
and determines nothing of those. -/
theorem documents_determine (a b : Contents) : a.document = b.document ↔ a.Same b :=
  ⟨same_of_document_eq, document_eq_of_same⟩

end Lx.CliApp
