import Lx.Application.ServiceService
import Lx.Lib.DBus
import Lx.Lib.Loops
import Lx.Linux.Sys

/-!
# SystemdServiceProvider

The services of the system manager (`src/linux/systemd/SystemdServiceProvider.cpp`), over the
calls of libsystemd's `sd-bus`, with the connection of `SdBus.cpp` and the reader of the
`ListUnits` reply of `SystemdMessageParser.cpp`.

Every method call goes to the manager object of systemd; what varies is the method and its
arguments. The loop over a reply takes the number of rounds it may make as an argument.

An object path and a unit name are passed on as C strings, up to their first null byte.
-/

namespace Lx.Systemd

open Interaction

/-! ## §1 The calls -/

/-- A negative status with the `sd_bus_error` that came with it. -/
structure BusFailure where
  number : Errno
  name : Option Bytes := none
  message : Option Bytes := none
  deriving DecidableEq, Repr

/-- The methods of the manager, with their arguments. -/
inductive Method where
  /-- `ListUnits` -/
  | listUnits
  /-- `GetUnit` -/
  | getUnit (unit : Bytes)
  /-- `GetUnitFileState` -/
  | getUnitFileState (unit : Bytes)
  /-- `GetUnitByPID` -/
  | getUnitByPid (pid : Nat)
  /-- `StartUnit`, `StopUnit` and `RestartUnit` -/
  | control (action : ServiceAction) (unit mode : Bytes)
  deriving DecidableEq, Repr

/-- The properties of the `Unit` interface that are text. -/
inductive TextProperty where
  | id
  | description
  | loadState
  | activeState
  | subState
  deriving DecidableEq, Repr

inductive BusCall where
  /-- `sd_bus_open_system` -/
  | openSystem
  /-- `sd_bus_call_method` -/
  | callMethod (method : Method)
  /-- `sd_bus_get_property` for the version of the manager -/
  | getVersion
  /-- `sd_bus_get_property_string` -/
  | getText (path : Bytes) (property : TextProperty)
  /-- `sd_bus_get_property_trivial` for `MainPID` of the `Service` interface -/
  | getMainPid (path : Bytes)
  /-- `sd_bus_get_property_trivial` for `ActiveEnterTimestamp` of the `Unit` interface -/
  | getActiveEnterTimestamp (path : Bytes)
  | enterContainer (container : DBus.Container) (contents : DBus.Sig)
  | read (types : DBus.Sig)
  | exitContainer
  /-- Everything that is not asked of systemd. -/
  | contract (call : Call)

/-- A method call tells whether it stored a reply, `read` stores values of the types it was
    asked for or, at the end of an array, nothing; strings may come back as null pointers. -/
def BusCall.Answer : BusCall → Type
  | .openSystem => Except Errno Unit
  | .callMethod _ => Except BusFailure Bool
  | .getVersion => Except BusFailure Unit
  | .getText _ _ => Except BusFailure (Option Bytes)
  | .getMainPid _ => Except BusFailure (Fin (2 ^ 32))
  | .getActiveEnterTimestamp _ => Except BusFailure (Fin (2 ^ 64))
  | .enterContainer _ _ => Except Errno Bool
  | .read types => Except Errno (Option { values : List DBus.Value // DBus.signatures values = types })
  | .exitContainer => Except Errno Unit
  | .contract call => call.Answer

abbrev SdBus : Signature := ⟨BusCall, BusCall.Answer⟩

/-- Make one call. -/
def bus (call : BusCall) : Prog SdBus call.Answer := perform (S := SdBus) call

/-- `c_str()`: the text up to its first null byte. -/
def cString (text : Bytes) : Bytes := text.takeWhile (· != 0)

/-! ## §2 Units -/

structure SystemdUnitRecord where
  name : Bytes
  description : Bytes
  loadState : Bytes
  activeState : Bytes
  subState : Bytes
  deriving DecidableEq, Repr

def isService (value : Bytes) : Bool :=
  ServiceService.suffix.length < value.length && ServiceService.suffix.isSuffixOf value

def serviceFromUnitRecord (record : SystemdUnitRecord) : Option ServiceInfo :=
  if isService record.name then
    some
      { unitName := record.name
        description := record.description
        loadState := record.loadState
        activeState := record.activeState
        subState := record.subState }
  else none

/-- The types of a unit in a `ListUnits` reply, `ssssssouso`. -/
def unitTypes : DBus.Sig :=
  [.string, .string, .string, .string, .string, .string, .objectPath, .uint32, .string, .objectPath]

/-- The text of a string that was read; a null pointer is taken for the empty text. -/
def textAt (values : List DBus.Value) (index : Nat) : Bytes :=
  match values[index]? with
  | some (.string text) => text
  | _ => []

def parseFailure (message : Bytes) : Result (List ServiceInfo) :=
  .error ⟨.protocolError, message, 0, "systemd", "parse ListUnits"⟩

/-- One round of the loop over the units. -/
def parseUnit (services : List ServiceInfo) :
    Prog SdBus (Result (List ServiceInfo) ⊕ List ServiceInfo) := do
  match ← bus (.enterContainer .struct unitTypes) with
  | .error _ => return .inl (parseFailure "Malformed ListUnits response")
  | .ok false =>
    match ← bus .exitContainer with
    | .error _ => return .inl (parseFailure "Malformed ListUnits response")
    | .ok () => return .inl (.ok services)
  | .ok true =>
    match ← bus (.read unitTypes) with
    | .error _ => return .inl (parseFailure "Unable to decode a ListUnits record")
    | .ok stored =>
      let values := stored.elim [] Subtype.val
      match ← bus .exitContainer with
      | .error _ => return .inl (parseFailure "Malformed ListUnits unit record")
      | .ok () =>
        let service := serviceFromUnitRecord
          ⟨textAt values 0, textAt values 1, textAt values 2, textAt values 3, textAt values 4⟩
        return .inr (services ++ service.toList)

def parseListUnitsMessage (rounds : Nat) (message : Bool) : Prog SdBus (Result (List ServiceInfo)) :=
  if message then do
    match ← bus (.enterContainer .array (.openStruct :: (unitTypes ++ [.closeStruct]))) with
    | .error _ => return parseFailure "ListUnits response is not an array of units"
    -- at the end of an array nothing is entered, and the loop goes on in the array around it
    | .ok _ => loop parseUnit rounds []
  else return parseFailure "ListUnits returned no message"

section Provider

-- `std::strerror` and `std::system_category().message`
variable (strerror systemMessage : Int → Bytes)

/-! ## §3 Calls on a connection -/

def openSystem : Prog SdBus (Result Unit) := do
  match ← bus .openSystem with
  | .error number =>
    return .error
      { code := if number = Errno.eacces ∨ number = Errno.eperm then .permissionDenied else .unavailable
        message := Bytes.ofString "Unable to open the system bus: " ++ systemMessage number
        systemError := number
        component := "sd-bus"
        operation := "open system bus" }
  | .ok () => return .ok ()

/-- `sd_bus_error_has_name` -/
def BusFailure.hasName (failure : BusFailure) (name : String) : Bool :=
  failure.name == some (Bytes.ofString name)

def busErrorCode (failure : BusFailure) : ErrorCode :=
  if failure.number = Errno.eacces ∨ failure.number = Errno.eperm ∨
      failure.hasName "org.freedesktop.DBus.Error.AccessDenied" then .permissionDenied
  else if failure.number = 110 ∨ failure.hasName "org.freedesktop.DBus.Error.NoReply" then .timeout
  else if failure.number = Errno.enoent ∨ failure.hasName "org.freedesktop.systemd1.NoSuchUnit" ∨
      failure.hasName "org.freedesktop.systemd1.NoUnitForPID" then .notFound
  else if failure.number = 111 ∨ failure.number = 107 ∨
      failure.hasName "org.freedesktop.DBus.Error.ServiceUnknown" ∨
      failure.hasName "org.freedesktop.DBus.Error.NameHasNoOwner" then .unavailable
  else .operationFailed

def busError (failure : BusFailure) (operation : Bytes) : Error where
  code := busErrorCode failure
  message :=
    match failure.message with
    | some message => message
    | none =>
      if failure.number ≠ 0 then strerror failure.number else "systemd D-Bus operation failed"
  systemError := failure.number
  component := "systemd"
  operation := operation

/-- A method that replies with one value: its text, or nothing for any other reply. -/
def replyText (code : DBus.TypeCode) : Prog SdBus (Option Bytes) := do
  match ← bus (.read [code]) with
  | .ok (some ⟨[.objectPath path], _⟩) => return some path
  | .ok (some ⟨[.string text], _⟩) => return some text
  | _ => return none

def getUnitPath (unit : Bytes) : Prog SdBus (Result Bytes) := do
  match ← bus (.callMethod (.getUnit (cString unit))) with
  | .error failure => return .error (busError strerror failure "get unit")
  | .ok _ =>
    match ← replyText .objectPath with
    | some path => return .ok path
    | none =>
      return .error ⟨.protocolError, "GetUnit returned no object path", 0, "systemd", "get unit"⟩

/-- What the property functions make of a status. -/
def propertyResult {α : Type} : Except BusFailure α → Result α
  | .error failure => .error (busError strerror failure "read service property")
  | .ok value => .ok value

def stringProperty (path : Bytes) (property : TextProperty) : Prog SdBus (Result Bytes) := do
  let value ← bus (.getText (cString path) property)
  return (propertyResult strerror value).map (·.getD [])

/-- `trivialProperty` of `MainPID` -/
def mainPidProperty (path : Bytes) : Prog SdBus (Result (Fin (2 ^ 32))) := do
  return propertyResult strerror (← bus (.getMainPid (cString path)))

/-- `trivialProperty` of `ActiveEnterTimestamp` -/
def timestampProperty (path : Bytes) : Prog SdBus (Result (Fin (2 ^ 64))) := do
  return propertyResult strerror (← bus (.getActiveEnterTimestamp (cString path)))

def unitFileState (unit : Bytes) : Prog SdBus (Result Bytes) := do
  match ← bus (.callMethod (.getUnitFileState (cString unit))) with
  | .error failure => return .error (busError strerror failure "get unit file state")
  | .ok _ =>
    match ← replyText .string with
    | some state => return .ok state
    | none =>
      return .error ⟨.protocolError, "GetUnitFileState returned no state", 0, "systemd",
        "get unit file state"⟩

/-- `static_cast<pid_t>` of an unsigned number; zero is no process. -/
def mainPidOf (value : Fin (2 ^ 32)) : Option Int :=
  if value.val = 0 then none else some ((value.val : Int).bmod (2 ^ 32))

/-! ## §4 The provider -/

def probe : Prog SdBus (Result Unit) := do
  match ← openSystem systemMessage with
  | .error error => return .error error
  | .ok () =>
    match ← bus .getVersion with
    | .error failure => return .error (busError strerror failure "probe")
    | .ok () => return .ok ()

/-- A unit file whose state is known. -/
def withFileState (service : ServiceInfo) : Result Bytes → ServiceInfo
  | .ok state => { service with unitFileState := state }
  | .error _ => service

/-- That there is no unit file is no warning. -/
def fileStateWarnings : Result Bytes → List Warning
  | .ok _ => []
  | .error error => if error.code = .notFound then [] else [warningFrom error]

/-- What `list` adds to a service, with the warnings on the way. -/
def completeService (service : ServiceInfo) : Prog SdBus (ServiceInfo × List Warning) := do
  let fileState ← unitFileState strerror service.unitName
  match ← getUnitPath strerror service.unitName with
  | .error error =>
    return (withFileState service fileState, fileStateWarnings fileState ++ [warningFrom error])
  | .ok path =>
    match ← mainPidProperty strerror path with
    | .error error =>
      return (withFileState service fileState, fileStateWarnings fileState ++ [warningFrom error])
    | .ok value =>
      return ({ withFileState service fileState with mainPid := mainPidOf value },
        fileStateWarnings fileState)

/-- The loop of `list`. -/
def completeServices : List ServiceInfo → Prog SdBus (Observation (List ServiceInfo))
  | [] => return ⟨[], []⟩
  | service :: rest => do
    let (service, warnings) ← completeService strerror service
    let observation ← completeServices rest
    return ⟨service :: observation.value, warnings ++ observation.warnings⟩

def list (rounds : Nat) : Prog SdBus (Result (Observation (List ServiceInfo))) := do
  match ← openSystem systemMessage with
  | .error error => return .error error
  | .ok () =>
    match ← bus (.callMethod .listUnits) with
    | .error failure => return .error (busError strerror failure "list services")
    | .ok reply =>
      match ← parseListUnitsMessage rounds reply with
      | .error error => return .error error
      | .ok services => return .ok (← completeServices strerror services)

/-- A property that is missing becomes a warning. -/
def warningsOf {α : Type} : Result α → List Warning
  | .ok _ => []
  | .error error => [warningFrom error]

def get (unit : Bytes) : Prog SdBus (Result (Observation ServiceInfo)) := do
  match ← openSystem systemMessage with
  | .error error => return .error error
  | .ok () =>
    match ← getUnitPath strerror unit with
    | .error error => return .error error
    | .ok path =>
      let description ← stringProperty strerror path .description
      let loadState ← stringProperty strerror path .loadState
      let activeState ← stringProperty strerror path .activeState
      let subState ← stringProperty strerror path .subState
      match description, loadState, activeState, subState with
      | .error error, _, _, _ => return .error error
      | _, .error error, _, _ => return .error error
      | _, _, .error error, _ => return .error error
      | _, _, _, .error error => return .error error
      | .ok description, .ok loadState, .ok activeState, .ok subState =>
        let fileState ← unitFileState strerror unit
        let mainPid ← mainPidProperty strerror path
        let timestamp ← timestampProperty strerror path
        return .ok
          { value :=
              { unitName := unit
                description := description
                loadState := loadState
                activeState := activeState
                subState := subState
                unitFileState := fileState.toOption.getD []
                mainPid := mainPid.toOption.bind mainPidOf
                activeEnterTimestampUsec := (timestamp.toOption.map Fin.val).getD 0 }
            warnings := warningsOf fileState ++ warningsOf mainPid ++ warningsOf timestamp }

def unitByPid (pid : Int) : Prog SdBus (Result (Option Bytes)) := do
  if pid ≤ 0 then
    return .error ⟨.invalidArgument, "PID must be greater than zero", 0, "systemd", "resolve PID"⟩
  else
    match ← openSystem systemMessage with
    | .error error => return .error error
    | .ok () =>
      match ← bus (.callMethod (.getUnitByPid pid.toNat)) with
      | .error failure =>
        let mapped := busError strerror failure "resolve PID"
        return if mapped.code = .notFound then .ok none else .error mapped
      | .ok _ =>
        match ← replyText .objectPath with
        | none =>
          return .error ⟨.protocolError, "GetUnitByPID returned no object path", 0, "systemd",
            "resolve PID"⟩
        | some path =>
          match ← stringProperty strerror path .id with
          | .error error => return if error.code = .notFound then .ok none else .error error
          | .ok id => return .ok (if isService id then some id else none)

/-- `controlUnit` with the method of an action -/
def controlUnit (unit : Bytes) (action : ServiceAction) (operation : Bytes) :
    Prog SdBus (Result Unit) := do
  match ← openSystem systemMessage with
  | .error error => return .error error
  | .ok () =>
    match ← bus (.callMethod (.control action (cString unit) "replace")) with
    | .error failure => return .error (busError strerror failure operation)
    | .ok _ =>
      match ← replyText .objectPath with
      | some _ => return .ok ()
      | none =>
        return .error ⟨.protocolError, "systemd returned no job object path", 0, "systemd", operation⟩

/-- `start`, `stop` and `restart` -/
def control (action : ServiceAction) (unit : Bytes) : Prog SdBus (Result Unit) :=
  controlUnit strerror systemMessage unit action
    (match action with
      | .start => "start service"
      | .stop => "stop service"
      | .restart => "restart service")

/-- The application layer with systemd behind it. -/
def implement (rounds : Nat) : (c : Call) → Prog SdBus c.Answer
  | .listServices => list strerror systemMessage rounds
  | .getService unit => get strerror systemMessage unit
  | .unitByPid pid => unitByPid strerror systemMessage pid
  | .controlService action unit => control strerror systemMessage action unit
  | call => bus (.contract call)

end Provider

end Lx.Systemd
