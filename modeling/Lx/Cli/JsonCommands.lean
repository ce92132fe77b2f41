import Lx.Cli.Console
import Lx.Cli.JsonSerializer

/-!
# Read-only commands with `--json`

The branches of `CliApp::run` that write JSON documents, over the services the
application object is constructed with. The services answer as they like; what a
branch makes of the answers is the subject here.

Every branch except `log --follow` ends in one `output << JsonSerializer::…(…) << '\n'`
followed by a `return`, so a branch is written as a program that computes the document
and the exit code, and `deliver` prints and returns. `dump` is evaluated before anything
is written; an exception it throws leaves `run`, whose only handler is for command-line
errors.
-/

namespace Lx.Cli

open Interaction

/-! ## §1 What the commands call -/

inductive ServiceCall where
  /-- `ProcessService::list` -/
  | listProcesses (query : ProcessQuery)
  /-- `ProcessService::inspect` -/
  | inspectProcess (pid : Int)
  /-- `StatusService::measure` -/
  | measure
  /-- `PortService::inspect` -/
  | inspectPorts (query : SocketQuery)
  /-- `ServiceService::list` -/
  | listServices
  /-- `ServiceService::inspect` -/
  | inspectService (unit : Bytes)
  /-- `InspectService::inspect` -/
  | inspectResource (expression : Bytes)
  /-- `FindService::find` -/
  | find (query : Bytes)
  /-- `LogService::parseSince` at the current time -/
  | parseSince (value : Bytes)
  /-- `LogService::read` -/
  | readLog (query : LogQuery)
  /-- `InterruptGuard::install` -/
  | installInterrupt
  /-- `LogService::follow` -/
  | followLog (query : LogQuery)
  /-- Text written to standard output. -/
  | write (text : Bytes)
  deriving DecidableEq, Repr

/-- A failed `sigaction`: `errno` and its `strerror` text. -/
structure SystemFailure where
  number : Int
  text : Bytes
  deriving DecidableEq, Repr

/-- What a follow did: the entries it passed to the sink, in order, and its result. -/
structure Followed where
  entries : List (Observation JournalEntry)
  result : Result Unit

def ServiceCall.Answer : ServiceCall → Type
  | .listProcesses _ => Result (Observation (List ProcessInfo))
  | .inspectProcess _ => Result (Observation ProcessInfo)
  | .measure => Result MetricsView
  | .inspectPorts _ => Result (Observation (List PortInfo))
  | .listServices => Result (Observation (List ServiceInfo))
  | .inspectService _ => Result (Observation ServiceInfo)
  | .inspectResource _ => Result ResourceGraph
  | .find _ => Result FindResult
  | .parseSince _ => Result Int
  | .readLog _ => Result (Observation (List JournalEntry))
  | .installInterrupt => Option SystemFailure
  | .followLog _ => Followed
  | .write _ => Unit

/-- The signature `CliApp` is written against. -/
abbrev Services : Signature := ⟨ServiceCall, ServiceCall.Answer⟩

/-- Ask a service. -/
def ask (call : ServiceCall) : Prog Services (ServiceCall.Answer call) :=
  perform (S := Services) call

/-! ## §2 The command line -/

structure ProcessOptions where
  pid : Option Int := none
  /-- `--raw-command` -/
  rawCommand : Bool := false
  /-- `--name` -/
  name : Option Bytes := none
  /-- `--user` -/
  user : Option Bytes := none
  /-- `--service` -/
  service : Option Bytes := none
  deriving DecidableEq, Repr

def ProcessOptions.hasFilters (options : ProcessOptions) : Bool :=
  options.name.isSome || options.user.isSome || options.service.isSome

structure LogOptions where
  unit : Option Bytes := none
  /-- `--pid` -/
  pid : Option Int := none
  /-- `--lines` -/
  lines : Nat := 50
  /-- `--since` -/
  since : Option Bytes := none
  /-- `--follow` -/
  follow : Bool := false
  deriving DecidableEq, Repr

/-- A parsed read-only command. -/
inductive Command where
  | process (options : ProcessOptions)
  | port (number : Option Nat)
  | service (unit : Option Bytes)
  | inspect (expression : Bytes)
  | find (query : Bytes)
  | log (options : LogOptions)
  deriving DecidableEq, Repr

/-- The `command` member of the documents. -/
def Command.name : Command → Bytes
  | .process _ => "process"
  | .port _ => "port"
  | .service _ => "service"
  | .inspect _ => "inspect"
  | .find _ => "find"
  | .log _ => "log"

/-- Whether arguments are shown unredacted. -/
def Command.rawCommand : Command → Bool
  | .process options => options.rawCommand
  | _ => false

/-! ## §3 Replies -/

/-- The document a branch prints and the code it returns. -/
structure Reply where
  document : Json
  code : Int

/-- `fail` in JSON mode. -/
def Reply.failure (command operation : Bytes) (failure : Error) : Reply :=
  ⟨JsonSerializer.error command operation failure, exitCode failure.code⟩

/-- A document printed at the end of a successful branch. -/
def Reply.success (document : Json) : Reply := ⟨document, 0⟩

/-- The common end of the branches: report the error, or print the value's document. -/
def Reply.of {α : Type} (command operation : Bytes) (document : α → Json) : Result α → Reply
  | .error error => .failure command operation error
  | .ok value => .success (document value)

def attachCpu (metrics : MetricsView) (process : ProcessInfo) : ProcessInfo :=
  match metrics.processCpuPercent.lookup process.pid with
  | some percent => { process with cpuPercent := some percent }
  | none => process

section Branches

-- whether `statusService_` is set
variable (hasStatus : Bool)

/-- The measurement taken after the processes were observed; a failure is ignored. -/
def measured : Prog Services (Option MetricsView) := do
  if hasStatus then return (← ask .measure).toOption
  else return none

/-- Attach the measured CPU usage to what was observed before it. -/
def withCpu {α : Type} (attach : MetricsView → α → α) :
    Result (Observation α) → Prog Services (Result (Observation α))
  | .error error => return .error error
  | .ok observed => do
    match ← measured hasStatus with
    | none => return .ok observed
    | some metrics => return .ok { observed with value := attach metrics observed.value }

/-- `ProcessService::list` with the CPU usage attached. -/
def listProcesses (query : ProcessQuery) :
    Prog Services (Result (Observation (List ProcessInfo))) := do
  let observed ← ask (.listProcesses query)
  withCpu hasStatus (fun metrics processes => processes.map (attachCpu metrics)) observed

/-- `ProcessService::inspect` with the CPU usage attached. -/
def inspectProcess (pid : Int) : Prog Services (Result (Observation ProcessInfo)) := do
  let observed ← ask (.inspectProcess pid)
  withCpu hasStatus attachCpu observed

def processReply (options : ProcessOptions) : Prog Services Reply :=
  match options.pid with
  | some pid => do
    if options.hasFilters then
      return .failure "process" "validate"
        ⟨.invalidArgument, "Process PID cannot be combined with list filters", 0, "cli", "validate"⟩
    else
      let observed ← inspectProcess hasStatus pid
      return .of "process" "inspect" (JsonSerializer.process · options.rawCommand) observed
  | none => do
    if options.rawCommand then
      return .failure "process" "validate"
        ⟨.invalidArgument, "--raw-command requires a process PID", 0, "cli", "validate"⟩
    else
      let observed ← listProcesses hasStatus ⟨options.name, options.user, options.service⟩
      return .of "process" "list" JsonSerializer.processes observed

def portOperation (number : Option Nat) : Bytes := if number.isSome then "inspect" else "list"

/-- The reply to a port listing; one port that nothing holds is an error. -/
def portsReply (number : Option Nat) : Result (Observation (List PortInfo)) → Reply
  | .error error => .failure "port" (portOperation number) error
  | .ok observed =>
    if number.isSome ∧ observed.value = [] then
      .failure "port" "inspect"
        ⟨.notFound, Bytes.ofString "No socket found for port " ++ Bytes.ofNat (number.getD 0), 0,
          "cli", "inspect"⟩
    else .success (JsonSerializer.ports observed (portOperation number))

def portReply (number : Option Nat) : Prog Services Reply := do
  return portsReply number (← ask (.inspectPorts { localPort := number }))

def serviceReply : Option Bytes → Prog Services Reply
  | none => do
    return .of "service" "list" JsonSerializer.services (← ask .listServices)
  | some unit => do
    return .of "service" "inspect" JsonSerializer.service (← ask (.inspectService unit))

def inspectReply (expression : Bytes) : Prog Services Reply := do
  return .of "inspect" "inspect" JsonSerializer.inspect (← ask (.inspectResource expression))

def findReply (query : Bytes) : Prog Services Reply := do
  return .of "find" "search" JsonSerializer.find (← ask (.find query))

def readLogReply (query : LogQuery) : Prog Services Reply := do
  return .of "log" "read" JsonSerializer.logs (← ask (.readLog query))

/-- The query of the log command, or the reply to a bad `--since`. -/
def logQuery (options : LogOptions) : Prog Services (Except Reply LogQuery) := do
  let query : LogQuery := { unit := options.unit, pid := options.pid, limit := options.lines }
  match options.since with
  | none => return .ok query
  | some value =>
    match ← ask (.parseSince value) with
    | .error error => return .error (.failure "log" "read" error)
    | .ok since => return .ok { query with since := some since }

/-! ## §4 Printing -/

variable (dump : Json → Except TypeError Bytes)

/-- Code that may end with an exception of the JSON library. -/
abbrev JsonMode := ExceptT TypeError (Prog Services)

/-- `output << document.dump() << '\n'` -/
def print (document : Json) : JsonMode Unit := do
  let text ← ExceptT.mk (pure (dump document))
  ExceptT.lift (ask (.write (text ++ [10])))

def deliver (reply : Reply) : JsonMode Int := do
  print dump reply.document
  return reply.code

/-- The sink of `log --follow`, called for one entry after the other. -/
def sink : List (Observation JournalEntry) → JsonMode Unit
  | [] => return ()
  | entry :: rest => do
    print dump (JsonSerializer.logEvent entry)
    sink rest

/-- The end of `log --follow`: an interrupt is not reported as an error. -/
def followEnd : Result Unit → JsonMode Int
  | .ok () => return 0
  | .error error =>
    if error.code = .interrupted then return 130
    else deliver dump (.failure "log" "follow" error)

def followLog (query : LogQuery) : JsonMode Int := do
  match ← ExceptT.lift (ask .installInterrupt) with
  | some failure =>
    deliver dump (.failure "log" "follow" ⟨.operationFailed,
      Bytes.ofString "Unable to install SIGINT handler: " ++ failure.text, failure.number,
      "cli", "install SIGINT handler"⟩)
  | none =>
    let followed ← ExceptT.lift (ask (.followLog query))
    sink dump followed.entries
    followEnd dump followed.result

def log (options : LogOptions) : JsonMode Int := do
  match ← ExceptT.lift (logQuery options) with
  | .error reply => deliver dump reply
  | .ok query =>
    if options.follow then followLog dump query
    else do
      let reply ← ExceptT.lift (readLogReply query)
      deliver dump reply

/-- Print the reply of a branch. -/
def finish (branch : Prog Services Reply) : JsonMode Int := do
  let reply ← ExceptT.lift branch
  deliver dump reply

/-- The read-only commands of `CliApp::run` in JSON mode. -/
def run : Command → JsonMode Int
  | .process options => finish dump (processReply hasStatus options)
  | .port number => finish dump (portReply number)
  | .service unit => finish dump (serviceReply unit)
  | .inspect expression => finish dump (inspectReply expression)
  | .find query => finish dump (findReply query)
  | .log options => log dump options

end Branches

end Lx.Cli
