import Lx.Domain.Basic
import Lx.Lib.Json

/-!
# JsonSerializer

The documents of `src/cli/JsonSerializer.cpp`, as trees; `dump()` is applied by the
caller. Below each record stands the list of texts it contributes, and the lemma that
a record's document is valid exactly when these texts are: keys, enumerators and
numbers can never make a document invalid.
-/

namespace Lx.Cli

/-! ## §1 Redaction -/

/-- The names of options whose values are secrets. -/
def secretKey (value : Bytes) : Bool :=
  let key := Bytes.lower value
  key == Bytes.ofString "password" || key == Bytes.ofString "passwd" ||
    key == Bytes.ofString "token" || key == Bytes.ofString "api-key" ||
    key == Bytes.ofString "apikey" || key == Bytes.ofString "secret" ||
    key == Bytes.ofString "database_url"

/-- The text before the first `=` without its leading dashes. -/
def argumentKey (argument : Bytes) : Bytes :=
  (argument.takeWhile (· ≠ 61)).dropWhile (· = 45)

/-- The loop of `arguments`; the flag is `redactNext`. -/
def redact : Bool → List Bytes → List Bytes
  | _, [] => []
  | true, _ :: rest => Bytes.ofString "<redacted>" :: redact false rest
  | false, argument :: rest =>
    if secretKey (argumentKey argument) then
      -- the key is shown, so that a reader sees what was kept back
      if 61 ∈ argument then
        (argument.takeWhile (· ≠ 61) ++ [61] ++ Bytes.ofString "<redacted>") :: redact false rest
      -- the value is in the next argument, whatever that looks like
      else argument :: redact true rest
    else argument :: redact false rest

/-- The arguments of a process, as a document shows them. -/
def arguments (source : List Bytes) (raw : Bool) : List Bytes :=
  if raw then source else redact false source

/-! ## §2 Values -/

namespace JsonSerializer

def schemaVersion : Int := 1

/-- A member with its key given as a literal. -/
def member (key : String) (value : Json) : Bytes × Json := (Bytes.ofString key, value)

def errorCodeName : ErrorCode → Bytes
  | .invalidArgument => "invalid_argument"
  | .notFound => "not_found"
  | .permissionDenied => "permission_denied"
  | .unsupported => "unsupported"
  | .unavailable => "unavailable"
  | .ioError => "io_error"
  | .protocolError => "protocol_error"
  | .parseError => "parse_error"
  | .operationFailed => "operation_failed"
  | .timeout => "timeout"
  | .conflict => "conflict"
  | .interrupted => "interrupted"

/-- Errors and warnings have the same five members. -/
def diagnosticMembers (code : ErrorCode) (message : Bytes) (systemError : Int)
    (component operation : Bytes) : List (Bytes × Json) :=
  [member "code" (.string (errorCodeName code)),
    member "message" (.string message),
    member "system_error" (.number systemError),
    member "component" (.string component),
    member "operation" (.string operation)]

def errorValue (error : Error) : Json :=
  .object (diagnosticMembers error.code error.message error.systemError error.component
    error.operation)

def warningValue (warning : Warning) : Json :=
  .object (diagnosticMembers warning.code warning.message warning.systemError warning.component
    warning.operation)

def warningValues (warnings : List Warning) : Json := .array (warnings.map warningValue)

/-- An absent text is null. -/
def optionalString : Option Bytes → Json
  | some value => .string value
  | none => .null

def optionalPid : Option Int → Json
  | some value => .number value
  | none => .null

/-- A process, with its arguments redacted unless `raw`. -/
def processValue (process : ProcessInfo) (raw : Bool) : Json :=
  .object
    [member "pid" (.number process.pid),
      member "ppid" (.number process.ppid),
      member "name" (.string process.name),
      member "state" (.string process.state),
      member "uid" (.number process.uid),
      member "gid" (.number process.gid),
      member "user" (.string process.user),
      member "executable" (optionalString process.executable),
      -- redacted unless the user asked for the raw command
      member "cwd" (optionalString process.cwd),
      member "argv" (.array ((arguments process.argv raw).map .string)),
      member "rss_bytes" (.number process.rssBytes),
      member "threads" (.number process.threads),
      member "cpu_percent" (match process.cpuPercent with | some value => .double value | none => .null),
      member "systemd_unit" (optionalString process.systemdUnit)]

def endpointValue (endpoint : Endpoint) : Json :=
  .object [member "address" (.string endpoint.address), member "port" (.number endpoint.port)]

def socketValue (socket : SocketInfo) : Json :=
  .object
    [member "protocol" (.string (match socket.protocol with | .tcp => "tcp" | .udp => "udp")),
      member "family" (.string (match socket.family with | .ipv4 => "ipv4" | .ipv6 => "ipv6")),
      member "local" (endpointValue socket.localEnd),
      -- a socket that is not connected has no remote end
      member "remote" (match socket.remote with | some remote => endpointValue remote | none => .null),
      member "state" (.string socket.state),
      member "uid" (.number socket.uid),
      member "inode" (.number socket.inode),
      member "owner_pids" (.array (socket.ownerPids.map .number))]

def portValue (port : PortInfo) : Json :=
  .object
    [member "socket" (socketValue port.socket),
      -- owners are always redacted: `--raw-command` belongs to the details of one process
      member "owners" (.array (port.owners.map (processValue · false)))]

def serviceValue (service : ServiceInfo) : Json :=
  .object
    [member "unit_name" (.string service.unitName),
      member "description" (.string service.description),
      member "load_state" (.string service.loadState),
      member "active_state" (.string service.activeState),
      member "sub_state" (.string service.subState),
      member "unit_file_state" (.string service.unitFileState),
      member "main_pid" (optionalPid service.mainPid),
      member "active_enter_timestamp_usec" (.number service.activeEnterTimestampUsec)]

def journalValue (entry : JournalEntry) : Json :=
  .object
    -- `duration_cast` to microseconds rounds towards zero
    [member "timestamp_unix_usec" (.number (entry.timestamp.tdiv 1000)),
      member "cursor" (.string entry.cursor),
      member "systemd_unit" (optionalString entry.systemdUnit),
      member "pid" (optionalPid entry.pid),
      member "command" (optionalString entry.command),
      member "message" (.string entry.message),
      member "priority" (match entry.priority with | some value => .number value | none => .null)]

def portValues (source : List PortInfo) : Json := .array (source.map portValue)

def processValues (source : List ProcessInfo) : Json := .array (source.map (processValue · false))

def serviceValues (source : List ServiceInfo) : Json := .array (source.map serviceValue)

def journalValues (source : List JournalEntry) : Json := .array (source.map journalValue)

/-- What was inspected: a kind, and a number or a name. -/
def resourceTargetValue : ResourceTarget → Json
  | .port port => .object [member "type" (.string "port"), member "value" (.number port)]
  | .process pid => .object [member "type" (.string "pid"), member "value" (.number pid)]
  | .service unit => .object [member "type" (.string "service"), member "value" (.string unit)]

/-! ## §3 Documents -/

/-- The members that every document without an error has. -/
def envelope (command operation : Bytes) (data : List (Bytes × Json)) (warnings : List Warning) :
    Json :=
  .object
    [member "schema_version" (.number schemaVersion),
      member "command" (.string command),
      member "operation" (.string operation),
    -- `data` is an object in every document, also where a command has one value to show
      member "data" (.object data),
      member "warnings" (warningValues warnings)]

/-- A command that failed, and why. -/
def error (command operation : Bytes) (value : Error) : Json :=
  .object
    [member "schema_version" (.number schemaVersion),
      member "command" (.string command),
      member "operation" (.string operation),
      -- in the place of `data`, without warnings beside it
      member "error" (errorValue value)]

def process (value : Observation ProcessInfo) (rawCommand : Bool) : Json :=
  envelope "process" "inspect" [member "process" (processValue value.value rawCommand)]
    value.warnings

def processes (value : Observation (List ProcessInfo)) : Json :=
  envelope "process" "list" [member "processes" (processValues value.value)] value.warnings

def ports (value : Observation (List PortInfo)) (operation : Bytes) : Json :=
  envelope "port" operation [member "ports" (portValues value.value)] value.warnings

def service (value : Observation ServiceInfo) : Json :=
  envelope "service" "inspect" [member "service" (serviceValue value.value)] value.warnings

def services (value : Observation (List ServiceInfo)) : Json :=
  envelope "service" "list" [member "services" (serviceValues value.value)] value.warnings

def logs (value : Observation (List JournalEntry)) : Json :=
  envelope "log" "read" [member "entries" (journalValues value.value)] value.warnings

def logEvent (value : Observation JournalEntry) : Json :=
  -- `--follow` writes one document for each entry
  envelope "log" "follow" [member "entry" (journalValue value.value)] value.warnings

def inspect (value : ResourceGraph) : Json :=
  envelope "inspect" "inspect"
    [member "root" (resourceTargetValue value.root),
      member "ports" (portValues value.ports),
      member "processes" (processValues value.processes),
      member "services" (serviceValues value.services),
      member "recent_logs" (journalValues value.recentLogs)]
    value.warnings

def find (value : FindResult) : Json :=
  envelope "find" "search"
    [member "services" (serviceValues value.services),
      member "processes" (processValues value.processes),
      member "ports" (portValues value.ports),
      member "executables" (.array (value.executables.map .string))]
    value.warnings

end JsonSerializer

/-! ## §4 The texts of a document -/

/-- Every text of a list is UTF-8. -/
def AllUtf8 (texts : List Bytes) : Prop := ∀ text ∈ texts, ValidUtf8 text

instance (texts : List Bytes) : Decidable (AllUtf8 texts) :=
  inferInstanceAs (Decidable (∀ text ∈ texts, ValidUtf8 text))

@[simp] theorem allUtf8_nil : AllUtf8 [] := by simp [AllUtf8]

@[simp] theorem allUtf8_cons {text : Bytes} {rest : List Bytes} :
    AllUtf8 (text :: rest) ↔ ValidUtf8 text ∧ AllUtf8 rest := by simp [AllUtf8]

@[simp] theorem allUtf8_append {texts rest : List Bytes} :
    AllUtf8 (texts ++ rest) ↔ AllUtf8 texts ∧ AllUtf8 rest := by
  simp [AllUtf8, or_imp, forall_and]

theorem allUtf8_flatMap {α : Type} {f : α → List Bytes} {xs : List α} :
    AllUtf8 (xs.flatMap f) ↔ ∀ x ∈ xs, AllUtf8 (f x) := by
  simp only [AllUtf8, List.mem_flatMap]
  exact ⟨fun h x hx text ht => h text ⟨x, hx, ht⟩, fun h text ⟨x, hx, ht⟩ => h x hx text ht⟩

namespace JsonSerializer

def errorTexts (error : Error) : List Bytes := [error.message, error.component, error.operation]

def warningTexts (warning : Warning) : List Bytes :=
  [warning.message, warning.component, warning.operation]

/-- The texts of a process; its arguments count as they are shown. -/
def processTexts (raw : Bool) (process : ProcessInfo) : List Bytes :=
  [process.name, process.state, process.user] ++ process.executable.toList ++ process.cwd.toList ++
    -- redaction can only replace texts, and what it writes is ASCII
    arguments process.argv raw ++ process.systemdUnit.toList

def endpointTexts (endpoint : Endpoint) : List Bytes := [endpoint.address]

def socketTexts (socket : SocketInfo) : List Bytes :=
  endpointTexts socket.localEnd ++ socket.remote.toList.flatMap endpointTexts ++ [socket.state]

def portTexts (port : PortInfo) : List Bytes :=
  socketTexts port.socket ++ port.owners.flatMap (processTexts false)

def serviceTexts (service : ServiceInfo) : List Bytes :=
  [service.unitName, service.description, service.loadState, service.activeState,
    service.subState, service.unitFileState]

def journalTexts (entry : JournalEntry) : List Bytes :=
  -- the message is bytes from the journal, and may be anything
  [entry.cursor] ++ entry.systemdUnit.toList ++ entry.command.toList ++ [entry.message]

/-- Of the targets only a unit is a text. -/
def targetTexts : ResourceTarget → List Bytes
  | .service unit => [unit]
  | _ => []

/-- The texts of an observation: those of its value and those of its warnings. -/
def observationTexts {α : Type} (texts : α → List Bytes) (observed : Observation α) : List Bytes :=
  texts observed.value ++ observed.warnings.flatMap warningTexts

def graphTexts (graph : ResourceGraph) : List Bytes :=
  targetTexts graph.root ++ graph.ports.flatMap portTexts ++
    graph.processes.flatMap (processTexts false) ++ graph.services.flatMap serviceTexts ++
    graph.recentLogs.flatMap journalTexts ++ graph.warnings.flatMap warningTexts

def findTexts (result : FindResult) : List Bytes :=
  result.services.flatMap serviceTexts ++ result.processes.flatMap (processTexts false) ++
    result.ports.flatMap portTexts ++ result.executables ++ result.warnings.flatMap warningTexts

/-! ## §5 Validity of a document -/

/-- A literal key never spoils a document. -/
theorem valid_object_member {key : String} {value : Json} {rest : List (Bytes × Json)}
    (hkey : key.toList.all (·.toNat < 128) = true) :
    (Json.object (member key value :: rest)).Valid ↔ value.Valid ∧ (Json.object rest).Valid := by
  -- a key is a literal of the source, checked by `decide` where the lemma is used
  have hvalid : ValidUtf8 (Bytes.ofString key) := validUtf8_ofString hkey
  simp [member, hvalid]

/-- A list of records is valid when each of them is. -/
theorem valid_array_map {α : Type} {f : α → Json} {texts : α → List Bytes} {xs : List α}
    (h : ∀ x, (f x).Valid ↔ AllUtf8 (texts x)) :
    (Json.array (xs.map f)).Valid ↔ AllUtf8 (xs.flatMap texts) := by
  simp [allUtf8_flatMap, h]

theorem valid_strings {xs : List Bytes} : (Json.array (xs.map .string)).Valid ↔ AllUtf8 xs := by
  simp [AllUtf8]

theorem valid_optionalString {value : Option Bytes} :
    (optionalString value).Valid ↔ AllUtf8 value.toList := by
  cases value <;> simp [optionalString]

theorem valid_optionalPid {value : Option Int} : (optionalPid value).Valid := by
  cases value <;> simp [optionalPid]

theorem valid_errorCodeName (code : ErrorCode) : ValidUtf8 (errorCodeName code) := by
  -- twelve names, each of them ASCII
  cases code <;> decide

theorem valid_errorValue {value : Error} :
    (errorValue value).Valid ↔ AllUtf8 (errorTexts value) := by
  simp (disch := decide) [errorValue, diagnosticMembers, errorTexts, valid_object_member,
    valid_errorCodeName]

theorem valid_warningValue {value : Warning} :
    (warningValue value).Valid ↔ AllUtf8 (warningTexts value) := by
  simp (disch := decide) [warningValue, diagnosticMembers, warningTexts, valid_object_member,
    valid_errorCodeName]

theorem valid_warningValues {warnings : List Warning} :
    (warningValues warnings).Valid ↔ AllUtf8 (warnings.flatMap warningTexts) :=
  valid_array_map fun _ => valid_warningValue

theorem valid_processValue {process : ProcessInfo} {raw : Bool} :
    (processValue process raw).Valid ↔ AllUtf8 (processTexts raw process) := by
  -- `cpu_percent` is null or a number, never a text
  have hcpu : (match process.cpuPercent with
      | some value => Json.double value
      | none => .null).Valid := by
    cases process.cpuPercent <;> simp
  simp (disch := decide) only [processValue, processTexts, valid_object_member, valid_strings,
    valid_optionalString, hcpu, Json.valid_number, Json.valid_string, Json.valid_object_nil,
    allUtf8_append, allUtf8_cons, allUtf8_nil]
  tauto

theorem valid_endpointValue {endpoint : Endpoint} :
    (endpointValue endpoint).Valid ↔ AllUtf8 (endpointTexts endpoint) := by
  simp (disch := decide) [endpointValue, endpointTexts, valid_object_member]

theorem valid_socketValue {socket : SocketInfo} :
    (socketValue socket).Valid ↔ AllUtf8 (socketTexts socket) := by
  -- null where there is no remote end, so that end contributes no text
  have hremote : (match socket.remote with
      | some remote => endpointValue remote
      | none => .null).Valid ↔ AllUtf8 (socket.remote.toList.flatMap endpointTexts) := by
    cases socket.remote <;> simp [valid_endpointValue]
  have hprotocol : ValidUtf8 (match socket.protocol with | .tcp => "tcp" | .udp => "udp") := by
    cases socket.protocol <;> decide
  have hfamily : ValidUtf8 (match socket.family with | .ipv4 => "ipv4" | .ipv6 => "ipv6") := by
    cases socket.family <;> decide
  have howners : (Json.array (socket.ownerPids.map .number)).Valid := by simp
  simp (disch := decide) only [socketValue, socketTexts, valid_object_member, valid_endpointValue,
    hremote, hprotocol, hfamily, howners, Json.valid_number, Json.valid_string,
    Json.valid_object_nil, allUtf8_append, allUtf8_cons, allUtf8_nil]
  tauto

theorem valid_portValue {port : PortInfo} : (portValue port).Valid ↔ AllUtf8 (portTexts port) := by
  -- the owners of a port contribute what they contribute anywhere else
  have howners : (Json.array (port.owners.map (processValue · false))).Valid ↔
      AllUtf8 (port.owners.flatMap (processTexts false)) :=
    valid_array_map fun _ => valid_processValue
  simp (disch := decide) only [portValue, portTexts, valid_object_member, valid_socketValue, howners,
    Json.valid_object_nil, allUtf8_append, and_true]

theorem valid_serviceValue {service : ServiceInfo} :
    (serviceValue service).Valid ↔ AllUtf8 (serviceTexts service) := by
  simp (disch := decide) [serviceValue, serviceTexts, valid_object_member, valid_optionalPid]

/-- The message of an entry is written as it is, so it decides like any other text. -/
theorem valid_journalValue {entry : JournalEntry} :
    (journalValue entry).Valid ↔ AllUtf8 (journalTexts entry) := by
  have hpriority : (match entry.priority with
      | some value => Json.number value
      | none => .null).Valid := by
    cases entry.priority <;> simp
  simp (disch := decide) only [journalValue, journalTexts, valid_object_member, valid_optionalString,
    valid_optionalPid, hpriority, Json.valid_number, Json.valid_string, Json.valid_object_nil,
    allUtf8_append, allUtf8_cons, allUtf8_nil]
  tauto

theorem valid_resourceTargetValue {target : ResourceTarget} :
    (resourceTargetValue target).Valid ↔ AllUtf8 (targetTexts target) := by
  -- a port and a PID are numbers; a unit is shown as the user wrote it
  cases target with
  | port port =>
    simp (disch := decide) [resourceTargetValue, targetTexts, valid_object_member]
    decide
  | process pid =>
    simp (disch := decide) [resourceTargetValue, targetTexts, valid_object_member]
    decide
  | service unit =>
    have htype : ValidUtf8 (Bytes.ofString "service") := by decide
    simp (disch := decide) [resourceTargetValue, targetTexts, valid_object_member, htype]

theorem valid_portValues {source : List PortInfo} :
    (portValues source).Valid ↔ AllUtf8 (source.flatMap portTexts) :=
  valid_array_map fun _ => valid_portValue

theorem valid_processValues {source : List ProcessInfo} :
    (processValues source).Valid ↔ AllUtf8 (source.flatMap (processTexts false)) :=
  valid_array_map fun _ => valid_processValue

theorem valid_serviceValues {source : List ServiceInfo} :
    (serviceValues source).Valid ↔ AllUtf8 (source.flatMap serviceTexts) :=
  valid_array_map fun _ => valid_serviceValue

theorem valid_journalValues {source : List JournalEntry} :
    (journalValues source).Valid ↔ AllUtf8 (source.flatMap journalTexts) :=
  valid_array_map fun _ => valid_journalValue

/-- An envelope is valid when its data and its warnings are. -/
theorem valid_envelope {command operation : Bytes} {data : List (Bytes × Json)}
    {warnings : List Warning} (hcommand : ValidUtf8 command) (hoperation : ValidUtf8 operation) :
    (envelope command operation data warnings).Valid ↔
      (Json.object data).Valid ∧ AllUtf8 (warnings.flatMap warningTexts) := by
  -- the two names are literals, except the operation of `port`, which is one of two
  simp (disch := decide) [envelope, valid_object_member, hcommand, hoperation, valid_warningValues]

/-- The envelopes around one observation. -/
theorem valid_envelope_observation {α : Type} {command operation : Bytes} {key : String}
    {f : α → Json} {texts : α → List Bytes} {observed : Observation α}
    (hcommand : ValidUtf8 command) (hoperation : ValidUtf8 operation)
    (hkey : key.toList.all (·.toNat < 128) = true) (hf : ∀ x, (f x).Valid ↔ AllUtf8 (texts x)) :
    (envelope command operation [member key (f observed.value)] observed.warnings).Valid ↔
      AllUtf8 (observationTexts texts observed) := by
  simp [valid_envelope hcommand hoperation, valid_object_member hkey, hf, observationTexts]

theorem valid_error {command operation : Bytes} {value : Error} (hcommand : ValidUtf8 command)
    (hoperation : ValidUtf8 operation) :
    (error command operation value).Valid ↔ AllUtf8 (errorTexts value) := by
  simp (disch := decide) [error, valid_object_member, hcommand, hoperation, valid_errorValue]

theorem valid_process {value : Observation ProcessInfo} {rawCommand : Bool} :
    (process value rawCommand).Valid ↔ AllUtf8 (observationTexts (processTexts rawCommand) value) :=
  valid_envelope_observation (f := (processValue · rawCommand)) (by decide) (by decide) (by decide)
    fun _ => valid_processValue

theorem valid_processes {value : Observation (List ProcessInfo)} :
    (processes value).Valid ↔
      AllUtf8 (observationTexts (·.flatMap (processTexts false)) value) :=
  valid_envelope_observation (by decide) (by decide) (by decide) fun _ => valid_processValues

theorem valid_ports {value : Observation (List PortInfo)} {operation : Bytes}
    (hoperation : ValidUtf8 operation) :
    (ports value operation).Valid ↔ AllUtf8 (observationTexts (·.flatMap portTexts) value) :=
  valid_envelope_observation (by decide) hoperation (by decide) fun _ => valid_portValues

theorem valid_service {value : Observation ServiceInfo} :
    (service value).Valid ↔ AllUtf8 (observationTexts serviceTexts value) :=
  valid_envelope_observation (by decide) (by decide) (by decide) fun _ => valid_serviceValue

theorem valid_services {value : Observation (List ServiceInfo)} :
    (services value).Valid ↔ AllUtf8 (observationTexts (·.flatMap serviceTexts) value) :=
  valid_envelope_observation (by decide) (by decide) (by decide) fun _ => valid_serviceValues

theorem valid_logs {value : Observation (List JournalEntry)} :
    (logs value).Valid ↔ AllUtf8 (observationTexts (·.flatMap journalTexts) value) :=
  valid_envelope_observation (by decide) (by decide) (by decide) fun _ => valid_journalValues

theorem valid_logEvent {value : Observation JournalEntry} :
    (logEvent value).Valid ↔ AllUtf8 (observationTexts journalTexts value) :=
  valid_envelope_observation (by decide) (by decide) (by decide) fun _ => valid_journalValue

/-- A graph contributes what each of its five members contributes. -/
theorem valid_inspect {value : ResourceGraph} :
    (inspect value).Valid ↔ AllUtf8 (graphTexts value) := by
  -- the root is one value, the rest are lists of records
  unfold inspect graphTexts
  rw [valid_envelope (by decide) (by decide)]
  simp (disch := decide) only [valid_object_member, valid_resourceTargetValue, valid_portValues,
    valid_processValues, valid_serviceValues, valid_journalValues, Json.valid_object_nil,
    allUtf8_append]
  tauto

theorem valid_find {value : FindResult} : (find value).Valid ↔ AllUtf8 (findTexts value) := by
  unfold find findTexts
  rw [valid_envelope (by decide) (by decide)]
  simp (disch := decide) only [valid_object_member, valid_portValues, valid_processValues,
    valid_serviceValues, valid_strings, Json.valid_object_nil, allUtf8_append]
  tauto

end JsonSerializer

end Lx.Cli
