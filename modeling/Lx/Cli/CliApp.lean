import Lx.Cli.FreePort
import Lx.Cli.HumanOutput
import Lx.Cli.ProcessKill

/-!
# CliApp

`CliApp::run` of `src/cli/CliApp.cpp` as a whole: every subcommand, with people or with
programs reading, over the services the application object is constructed with. The services
answer as they like. The command line has been parsed; `--no-color` has no effect on any
output and is left out.
-/

namespace Lx.CliApp

open Interaction Cli

/-! ## §1 What is called -/

inductive CliCall where
  /-- The read-only services, and text written to standard output. -/
  | services (call : ServiceCall)
  /-- `DoctorService::inspect` -/
  | doctor
  /-- `StatusService::get` -/
  | status
  /-- `ITuiRunner::run` -/
  | tui
  /-- `ProcessService::stop` -/
  | stopProcess (pid : Int)
  /-- `ProcessService::validateSignalTarget` -/
  | validateSignalTarget (pid : Int)
  /-- `ProcessService::kill` -/
  | killProcess (pid : Int)
  /-- `ServiceService::start`, `stop` and `restart` -/
  | control (action : ServiceAction) (unit : Bytes)
  /-- `PortService::prepareRelease` -/
  | prepareRelease (port : Nat)
  /-- `PortService::stopManagedService` -/
  | stopManagedService (plan : PortReleasePlan)
  /-- `PortService::terminate` -/
  | terminate (plan : PortReleasePlan)
  /-- `PortService::force` -/
  | force (plan : PortReleasePlan)
  /-- `std::getline` on standard input; nothing at end of file. -/
  | getline
  /-- Text written to standard error. -/
  | writeError (text : Bytes)
  deriving DecidableEq, Repr

def CliCall.Answer : CliCall → Type
  | .services call => call.Answer
  | .doctor => DoctorReport
  | .status => Result HostStatus
  | .tui => Result Unit
  | .stopProcess _ => Result SignalDelivery
  | .validateSignalTarget _ => Result Unit
  | .killProcess _ => Result SignalDelivery
  | .control _ _ => Result Unit
  | .prepareRelease _ => Result (Observation PortReleasePlan)
  | .stopManagedService _ => Result (Observation PortReleaseResult)
  | .terminate _ => Result (Observation PortReleaseResult)
  | .force _ => Result (Observation PortReleaseResult)
  | .getline => Option Bytes
  | .writeError _ => Unit

abbrev CliCalls : Signature := ⟨CliCall, CliCall.Answer⟩

abbrev Cli := Prog CliCalls

def call (c : CliCall) : Cli c.Answer := perform (S := CliCalls) c

/-- A read-only service. -/
def ask (c : ServiceCall) : Cli c.Answer := call (.services c)

def write (text : Bytes) : Cli Unit := ask (.write text)

def writeError (text : Bytes) : Cli Unit := call (.writeError text)

/-! ## §2 Command lines -/

/-- A subcommand with its arguments. -/
inductive CommandLine where
  | tui
  | doctor
  | status
  | read (command : Command)
  /-- `process stop` -/
  | stopProcess (pid : Int)
  /-- `process kill` -/
  | killProcess (pid : Int) (yes : Bool)
  /-- `service UNIT ACTION` -/
  | control (unit : Bytes) (action : ServiceAction) (yes : Bool)
  /-- `port free` -/
  | freePort (port : Nat) (yes : Bool)
  deriving DecidableEq, Repr

/-- The word for an action on the command line. -/
def actionText : ServiceAction → Bytes
  | .start => "start"
  | .stop => "stop"
  | .restart => "restart"

/-- What the application object and the process it runs in have. -/
structure Setup where
  /-- `statusService_` is set. -/
  hasStatus : Bool
  /-- `tuiRunner_` is set. -/
  hasTui : Bool
  fmt : Fmt
  zone : LogService.LocalTime
  dump : Json → Except TypeError Bytes

section Run

variable (setup : Setup)

/-! ## §3 Output for people -/

section Human

-- `--quiet`
variable (quiet : Bool)

/-- `fail` without `--json` -/
def fail (failure : Error) : Cli Int := do
  writeError (failure.message ++ Bytes.ofString "\n")
  return exitCode failure.code

/-- Output that `--quiet` suppresses. -/
def report (text : Bytes) : Cli Unit := if quiet then return () else write text

def warningLine (warning : Warning) : Bytes :=
  Bytes.ofString "Warning: " ++ warning.message ++ Bytes.ofString "\n"

/-- Warnings go to `diagnostics`. -/
def printWarnings : List Warning → Cli Unit
  | [] => return ()
  | warning :: rest => do
    if quiet then pure () else writeError (warningLine warning)
    printWarnings rest

/-- A page or a table, and what was not found out. -/
def printed (text : Bytes) (warnings : List Warning) : Cli Int := do
  write text
  printWarnings quiet warnings
  return 0

/-- Report the error, or show the value. -/
def shown {α : Type} (page : α → Bytes) : Result (Observation α) → Cli Int
  | .error error => fail error
  | .ok observed => printed quiet (page observed.value) observed.warnings

/-- The measurement after processes were observed; a failure is ignored. -/
def measured : Cli (Option MetricsView) := do
  if setup.hasStatus then return (← ask .measure).toOption
  else return none

def listProcesses (query : ProcessQuery) : Cli Int := do
  match ← ask (.listProcesses query) with
  | .error error => fail error
  | .ok observed =>
    match ← measured setup with
    | none => printed quiet (processTable setup.fmt observed.value) observed.warnings
    | some metrics =>
      printed quiet (processTable setup.fmt (observed.value.map (attachCpu metrics))) observed.warnings

/-- `printProcess`: the warnings are part of the page. -/
def printProcess (process : ProcessInfo) (warnings : List Warning) (raw : Bool) : Cli Int := do
  write (processPage setup.fmt process raw)
  if !quiet && !warnings.isEmpty then write (processWarnings warnings) else pure ()
  return 0

def inspectProcess (pid : Int) (raw : Bool) : Cli Int := do
  match ← ask (.inspectProcess pid) with
  | .error error => fail error
  | .ok observed =>
    match ← measured setup with
    | none => printProcess setup quiet observed.value observed.warnings raw
    | some metrics => printProcess setup quiet (attachCpu metrics observed.value) observed.warnings raw

def process (options : ProcessOptions) : Cli Int :=
  match options.pid with
  | some pid =>
    if options.hasFilters then
      fail ⟨.invalidArgument, "Process PID cannot be combined with list filters", 0, "cli", "validate"⟩
    else inspectProcess setup quiet pid options.rawCommand
  | none =>
    if options.rawCommand then
      fail ⟨.invalidArgument, "--raw-command requires a process PID", 0, "cli", "validate"⟩
    else listProcesses setup quiet ⟨options.name, options.user, options.service⟩

def port (number : Option Nat) : Cli Int := do
  match ← ask (.inspectPorts { localPort := number }) with
  | .error error => fail error
  | .ok observed =>
    if number.isSome ∧ observed.value = [] then
      fail ⟨.notFound, Bytes.ofString "No socket found for port " ++ Bytes.ofNat (number.getD 0), 0,
        "cli", "inspect"⟩
    else printed quiet (portTable setup.fmt observed.value) observed.warnings

def service : Option Bytes → Cli Int
  | none => do shown quiet serviceTable (← ask .listServices)
  | some unit => do shown quiet (servicePage setup.zone) (← ask (.inspectService unit))

def inspect (expression : Bytes) : Cli Int := do
  match ← ask (.inspectResource expression) with
  | .error error => fail error
  | .ok graph => printed quiet (graphPage setup.fmt setup.zone graph) graph.warnings

def find (query : Bytes) : Cli Int := do
  match ← ask (.find query) with
  | .error error => fail error
  | .ok result => printed quiet (findPage setup.fmt result) result.warnings

/-- The sink of `log --follow`. -/
def sink : List (Observation JournalEntry) → Cli Unit
  | [] => return ()
  | entry :: rest => do
    write (journalLine setup.zone entry.value)
    printWarnings quiet entry.warnings
    sink rest

def followLog (query : LogQuery) : Cli Int := do
  match ← ask .installInterrupt with
  | some failure =>
    fail ⟨.operationFailed, Bytes.ofString "Unable to install SIGINT handler: " ++ failure.text,
      failure.number, "cli", "install SIGINT handler"⟩
  | none =>
    let followed ← ask (.followLog query)
    sink setup quiet followed.entries
    match followed.result with
    | .ok () => return 0
    | .error error => if error.code = .interrupted then return 130 else fail error

def logAt (options : LogOptions) (since : Option Int) : Cli Int := do
  let query : LogQuery :=
    { unit := options.unit, pid := options.pid, since := since, limit := options.lines }
  if options.follow then followLog setup quiet query
  else shown quiet (fun entries => entries.flatMap (journalLine setup.zone)) (← ask (.readLog query))

def log (options : LogOptions) : Cli Int :=
  match options.since with
  | none => logAt setup quiet options none
  | some value => do
    match ← ask (.parseSince value) with
    | .error error => fail error
    | .ok since => logAt setup quiet options (some since)

def readCommand : Command → Cli Int
  | .process options => process setup quiet options
  | .port number => port setup quiet number
  | .service unit => service setup quiet unit
  | .inspect expression => inspect setup quiet expression
  | .find query => find setup quiet query
  | .log options => log setup quiet options

/-! ## §4 Commands that change something -/

def confirm (prompt : Bytes) (defaultYes : Bool) : Cli Bool := do
  write prompt
  return accepts defaultYes (← call .getline)

/-- `--yes`, or the answer to a prompt. -/
def authorize (yes : Bool) (prompt : Bytes) (defaultYes : Bool) : Cli Bool :=
  if yes then return true else confirm prompt defaultYes

/-- The user said no. -/
def cancelled : Cli Int := do
  report quiet "Cancelled.\n"
  return 0

/-- The last words of a command that changed something. -/
def done (text : Bytes) : Cli Int := do
  report quiet text
  return 0

def stopProcess (pid : Int) : Cli Int := do
  match ← call (.stopProcess pid) with
  | .error error => fail error
  | .ok delivery => done quiet (sentText "SIGTERM" pid delivery)

def killProcess (pid : Int) (yes : Bool) : Cli Int := do
  match ← call (.validateSignalTarget pid) with
  | .error error => fail error
  | .ok () =>
    match ← ask (.inspectProcess pid) with
    | .error error => fail error
    | .ok target =>
      if !(← authorize yes (killPrompt pid target.value.name) false) then cancelled quiet
      else
        match ← call (.killProcess pid) with
        | .error error => fail error
        | .ok delivery => done quiet (sentText "SIGKILL" pid delivery)

def controlPrompt (action : ServiceAction) (unit : Bytes) : Bytes :=
  Bytes.ofString (if action = .stop then "Stop " else "Restart ") ++ unit ++ Bytes.ofString "? [y/N] "

def control (unit : Bytes) (action : ServiceAction) (yes : Bool) : Cli Int := do
  if !(← authorize (action == .start || yes) (controlPrompt action unit) false) then cancelled quiet
  else
    match ← call (.control action unit) with
    | .error error => fail error
    | .ok () => done quiet (actionText action ++ Bytes.ofString " submitted for " ++ unit ++ [10])

/-- A release with the warnings on the way. -/
def released (warnings : List Warning) (text : Bytes) : Cli Int := do
  printWarnings quiet warnings
  done quiet text

def freeByService (port : Nat) (plan : PortReleasePlan) (unit : Bytes) (yes : Bool) : Cli Int := do
  if !(← authorize yes (stopPrompt unit) true) then cancelled quiet
  else
    match ← call (.stopManagedService plan) with
    | .error error => fail error
    | .ok stopped =>
      released quiet stopped.warnings (Bytes.ofString "Port " ++ Bytes.ofNat port ++
        Bytes.ofString " released by stopping " ++ unit ++ Bytes.ofString ".\n")

def freeByForce (port : Nat) (remaining : PortReleasePlan) (yes : Bool) : Cli Int := do
  -- written with `--quiet` too
  write "Port is still occupied.\n"
  if !(← authorize yes forcePrompt false) then cancelled quiet
  else
    match ← call (.force remaining) with
    | .error error => fail error
    | .ok forced =>
      released quiet forced.warnings (Bytes.ofString "Port " ++ Bytes.ofNat port ++
        Bytes.ofString " released with SIGKILL.\n")

def freeBySignals (port : Nat) (plan : PortReleasePlan) (yes : Bool) : Cli Int := do
  if !(← authorize yes terminatePrompt true) then cancelled quiet
  else
    match ← call (.terminate plan) with
    | .error error => fail error
    | .ok terminated =>
      if terminated.value.released then
        released quiet terminated.warnings (Bytes.ofString "Port " ++ Bytes.ofNat port ++
          Bytes.ofString " released with SIGTERM.\n")
      else do
        printWarnings quiet terminated.warnings
        match terminated.value.remaining with
        | some remaining => freeByForce quiet port remaining yes
        -- `*remaining` of an empty optional is undefined
        | none => .block

def freePort (port : Nat) (yes : Bool) : Cli Int := do
  match ← call (.prepareRelease port) with
  | .error error => fail error
  | .ok plan =>
    write (printReleasePlan plan.value)
    match plan.value.recommendedUnit with
    | some unit => freeByService quiet port plan.value unit yes
    | none => freeBySignals quiet port plan.value yes

def human : CommandLine → Cli Int
  | .tui =>
    if setup.hasTui then do
      match ← call .tui with
      | .error error => fail error
      | .ok () => return 0
    else fail ⟨.unavailable, "LX was built without terminal UI support", 0, "cli", "tui"⟩
  | .doctor => do
    write (printDoctorReport setup.fmt (← call .doctor))
    return 0
  | .status =>
    if setup.hasStatus then do
      match ← call .status with
      | .error error => fail error
      | .ok status =>
        write (printStatus setup.fmt status)
        return 0
    else fail ⟨.unavailable, "Status metrics are unavailable", 0, "cli", "status"⟩
  | .read command => readCommand setup quiet command
  | .stopProcess pid => stopProcess quiet pid
  | .killProcess pid yes => killProcess quiet pid yes
  | .control unit action yes => control quiet unit action yes
  | .freePort port yes => freePort quiet port yes

end Human

/-! ## §5 Output for programs -/

abbrev Throwing := ExceptT TypeError Cli

/-- A document printed at the end of a branch. -/
def deliver (reply : Reply) : Throwing Int := do
  let text ← ExceptT.mk (pure (setup.dump reply.document))
  ExceptT.lift (write (text ++ [10]))
  return reply.code

def capabilityName : CapabilityStatus → Bytes
  | .available => "available"
  | .unavailable => "unavailable"
  | .notImplemented => "not_implemented"

/-- `JsonSerializer::doctor` -/
def doctorDocument (report : DoctorReport) : Json :=
  JsonSerializer.envelope "doctor" "inspect"
    [JsonSerializer.member "checks" (.array (report.checks.map fun check => .object
      [JsonSerializer.member "name" (.string check.name),
        JsonSerializer.member "status" (.string (capabilityName check.status)),
        JsonSerializer.member "detail" (.string check.detail)]))] []

/-- `JsonSerializer::status` -/
def statusDocument (status : HostStatus) : Json :=
  JsonSerializer.envelope "status" "read"
    [JsonSerializer.member "status" (.object
      [JsonSerializer.member "hostname" (.string status.hostname),
        JsonSerializer.member "cpu_percent"
          (match status.cpuPercent with | some value => .double value | none => .null),
        JsonSerializer.member "memory_total_bytes" (.number status.memoryTotalBytes),
        JsonSerializer.member "memory_used_bytes" (.number status.memoryUsedBytes),
        JsonSerializer.member "uptime_milliseconds" (.number status.uptime)])] []

/-- The refusal of commands that are not read-only. -/
def refused (command : Bytes) : Throwing Int :=
  deliver setup (.failure command "mutate"
    ⟨.invalidArgument, "--json is only supported by read-only commands", 0, "cli", "validate"⟩)

def json : CommandLine → Throwing Int
  | .stopProcess _ => refused setup "process"
  | .killProcess _ _ => refused setup "process"
  | .freePort _ _ => refused setup "port"
  | .control _ _ _ => refused setup "service"
  | .tui => refused setup "process"
  | .doctor => do
    let report ← ExceptT.lift (call .doctor)
    deliver setup (.success (doctorDocument report))
  | .status =>
    if setup.hasStatus then do
      let status ← ExceptT.lift (call .status)
      deliver setup (.of "status" "read" statusDocument status)
    else
      deliver setup (.failure "status" "read"
        ⟨.unavailable, "Status metrics are unavailable", 0, "cli", "status"⟩)
  | .read command =>
    ExceptT.mk ((Cli.run setup.hasStatus setup.dump command).run.interpret fun c => ask c)

/-- `CliApp::run` after the command line has been parsed. -/
def run (jsonOutput quietOutput : Bool) (line : CommandLine) : Cli (Except TypeError Int) :=
  if jsonOutput then (json setup line).run
  else do return .ok (← human setup quietOutput line)

end Run

/-! ## §6 Parts of a command that only tell something -/

section Telling

variable {quiet : Bool}

/-- Output, or a warning. -/
def Remarking : CliCall → Prop
  | .services (.write _) => True
  | .writeError text => ∃ warning, text = warningLine warning
  | _ => False

theorem write_remarks (text : Bytes) : (write text).Within Remarking := Prog.within_perform trivial

theorem report_remarks (text : Bytes) : (report quiet text).Within Remarking := by
  unfold report
  split
  · trivial
  · exact write_remarks text

theorem printWarnings_remarks (warnings : List Warning) :
    (printWarnings quiet warnings).Within Remarking := by
  induction warnings with
  | nil => trivial
  | cons warning rest ih =>
    unfold printWarnings
    split
    · exact ih
    · exact Prog.Within.bind (Prog.within_perform ⟨warning, rfl⟩) fun _ => ih

theorem printed_remarks (text : Bytes) (warnings : List Warning) :
    (printed quiet text warnings).Within Remarking :=
  (write_remarks text).bind fun _ => (printWarnings_remarks warnings).bind fun _ => trivial

theorem printProcess_remarks (setup : Setup) (process : ProcessInfo) (warnings : List Warning)
    (raw : Bool) : (printProcess setup quiet process warnings raw).Within Remarking := by
  refine (write_remarks _).bind fun _ => ?_
  split
  · exact (write_remarks _).bind fun _ => trivial
  · trivial

theorem sink_remarks (setup : Setup) (entries : List (Observation JournalEntry)) :
    (sink setup quiet entries).Within Remarking := by
  induction entries with
  | nil => trivial
  | cons entry rest ih =>
    exact (write_remarks _).bind fun _ => (printWarnings_remarks _).bind fun _ => ih

theorem done_remarks (text : Bytes) : (done quiet text).Within Remarking :=
  (report_remarks text).bind fun _ => trivial

theorem cancelled_remarks : (cancelled quiet).Within Remarking := done_remarks _

theorem released_remarks (warnings : List Warning) (text : Bytes) :
    (released quiet warnings text).Within Remarking :=
  (printWarnings_remarks warnings).bind fun _ => done_remarks text

/-- Something is written. -/
def Telling : CliCall → Prop
  | .services (.write _) | .writeError _ => True
  | _ => False

theorem tells_of_remarks {α : Type} {p : Cli α} (hp : p.Within Remarking) : p.Within Telling := by
  refine hp.mono fun c h => ?_
  match c, h with
  | .services (.write _), _ => trivial
  | .writeError _, _ => trivial

theorem fail_tells (failure : Error) : (fail failure).Within Telling :=
  Prog.Within.bind (Prog.within_perform trivial) fun _ => trivial

theorem shown_tells {α : Type} (page : α → Bytes) (result : Result (Observation α)) :
    (shown quiet page result).Within Telling := by
  cases result with
  | error failure => exact fail_tells failure
  | ok observed => exact tells_of_remarks (printed_remarks _ _)

end Telling

/-- A setup without status and terminal UI, with the texts of the formatting library. -/
def exampleSetup : Setup where
  hasStatus := false
  hasTui := false
  fmt :=
    { left := Bytes.padRight
      right := fun width text => List.replicate (width - text.length) 32 ++ text
      oneDecimal := fun value =>
        let tenths := (value * 10 + 1 / 2).floor
        Bytes.ofInt (tenths / 10) ++ Bytes.ofString "." ++ Bytes.ofInt (tenths % 10) }
  zone := ⟨fun _ => none, fun _ => -1, fun _ => none⟩
  dump := compact fun _ => []

end Lx.CliApp
