import Lx.Cli.JsonCommands
import Lx.Cli.LogLines
import Lx.Cli.Redaction

/-!
# Texts for people

What `src/cli/CliApp.cpp` prints when it does not print JSON: the tables and the pages of the
read-only commands, as the texts that go to standard output.
-/

namespace Lx

/-! ## §1 Capabilities -/

inductive CapabilityStatus where
  | available
  | unavailable
  | notImplemented
  deriving DecidableEq, Repr

structure CapabilityCheck where
  name : Bytes
  status : CapabilityStatus := .notImplemented
  detail : Bytes := []
  deriving DecidableEq, Repr

structure DoctorReport where
  checks : List CapabilityCheck
  deriving DecidableEq, Repr

end Lx

namespace Lx.Cli

/-- What is used of the formatting library. -/
structure Fmt where
  /-- `{:<width}` -/
  left : Nat → Bytes → Bytes
  /-- `{:>width}` -/
  right : Nat → Bytes → Bytes
  /-- `{:.1f}` -/
  oneDecimal : Rat → Bytes

def statusText : CapabilityStatus → Bytes
  | .available => "OK"
  | .unavailable => "unavailable"
  | .notImplemented => "not implemented"

/-! ## §2 Pieces of lines -/

/-- Texts with something between them. -/
def joined (separator : Bytes) (texts : List Bytes) : Bytes :=
  (texts.intersperse separator).flatten

def joinArguments (arguments : List Bytes) : Bytes := joined [32] arguments

def protocolText : TransportProtocol → Bytes
  | .tcp => "TCP"
  | .udp => "UDP"

def ownerName (port : PortInfo) (pid : Int) : Bytes :=
  match port.owners.find? (·.pid == pid) with
  | none => "<unavailable>"
  | some owner => owner.name

def ownerNames (port : PortInfo) : Bytes :=
  if port.socket.ownerPids.isEmpty then "unresolved"
  else
    -- a comma is written once something has been written
    port.socket.ownerPids.foldl (fun joined pid =>
      (if joined.isEmpty then joined else joined ++ [44]) ++ ownerName port pid) []

def ownerPids (port : PortInfo) : Bytes :=
  if port.socket.ownerPids.isEmpty then "-"
  else joined [44] (port.socket.ownerPids.map Bytes.ofInt)

/-- The loop of `ownerServices`: every unit once, where it comes first. -/
def ownerUnits : List ProcessInfo → List Bytes → List Bytes
  | [], units => units
  | owner :: rest, units =>
    match owner.systemdUnit with
    | none => ownerUnits rest units
    | some unit => ownerUnits rest (if unit ∈ units then units else units ++ [unit])

def ownerServices (port : PortInfo) : Bytes :=
  let units := ownerUnits port.owners []
  if units.isEmpty then "-" else joined [44] units

def tableCell (value : Bytes) (width : Nat) : Bytes :=
  Bytes.padRight width (shortened value width)

def timestampText (zone : LogService.LocalTime) (timestampUsec : Nat) : Bytes :=
  if timestampUsec = 0 then "-"
  else
    match zone.localtime (timestampUsec / 1000000 : Nat) with
    | none => "-"
    | some tm => putTime tm

def pidOrDash : Option Int → Bytes
  | none => "-"
  | some pid => Bytes.ofInt pid

/-- An empty text is shown as a dash. -/
def orDash (text : Bytes) : Bytes := if text.isEmpty then "-" else text

section

variable (fmt : Fmt) (zone : LogService.LocalTime)

def mebibytes (bytes : Nat) : Bytes := fmt.oneDecimal (bytes / (1024 * 1024))

/-! ## §3 Pages and tables -/

def printDoctorReport (report : DoctorReport) : Bytes :=
  Bytes.ofString "LX Doctor\n\n" ++ report.checks.flatMap fun check =>
    fmt.left 20 check.name ++ Bytes.ofString " " ++ statusText check.status ++ Bytes.ofString "\n  " ++
      check.detail ++ Bytes.ofString "\n"

def printStatus (status : HostStatus) : Bytes :=
  -- the quotients are those of C++, which round toward zero
  let uptimeSeconds := status.uptime.tdiv 1000
  let days := uptimeSeconds.tdiv 86400
  let hours := (uptimeSeconds.tmod 86400).tdiv 3600
  let minutes := (uptimeSeconds.tmod 3600).tdiv 60
  Bytes.ofString "Host      " ++ status.hostname ++ Bytes.ofString "\nCPU       " ++
    (match status.cpuPercent with
      | none => Bytes.ofString "-"
      | some percent => fmt.oneDecimal percent ++ Bytes.ofString "%") ++
    Bytes.ofString "\nMemory    " ++ mebibytes fmt status.memoryUsedBytes ++ Bytes.ofString " / " ++
    mebibytes fmt status.memoryTotalBytes ++ Bytes.ofString " MiB (" ++
    fmt.oneDecimal (if status.memoryTotalBytes = 0 then 0
      else 100 * status.memoryUsedBytes / status.memoryTotalBytes) ++
    Bytes.ofString "%)\nUptime    " ++ Bytes.ofInt days ++ Bytes.ofString "d " ++
    twoDigits (Bytes.ofInt hours) ++ Bytes.ofString "h " ++ twoDigits (Bytes.ofInt minutes) ++
    Bytes.ofString "m\n"

/-- `printProcess` up to the warnings -/
def processPage (process : ProcessInfo) (raw : Bool) : Bytes :=
  Bytes.ofString "Process " ++ Bytes.ofInt process.pid ++ Bytes.ofString "\n\nName        " ++
    process.name ++ Bytes.ofString "\nState       " ++ process.state ++
    Bytes.ofString "\nPPID        " ++ Bytes.ofInt process.ppid ++ Bytes.ofString "\nUser        " ++
    process.user ++ Bytes.ofString " (" ++ Bytes.ofNat process.uid ++
    Bytes.ofString ")\nThreads     " ++ Bytes.ofNat process.threads ++
    Bytes.ofString "\nRSS         " ++ mebibytes fmt process.rssBytes ++
    Bytes.ofString " MiB\nCPU         " ++
    (match process.cpuPercent with
      | none => Bytes.ofString "-"
      | some percent => fmt.oneDecimal percent ++ Bytes.ofString "%") ++
    Bytes.ofString "\nExecutable  " ++ process.executable.getD "<unavailable>" ++
    Bytes.ofString "\nCWD         " ++ process.cwd.getD "<unavailable>" ++
    Bytes.ofString "\n\nCommand\n  " ++ joinArguments (displayedArguments process.argv raw) ++
    Bytes.ofString "\n\nService\n  " ++ process.systemdUnit.getD "<none>" ++ Bytes.ofString "\n"

/-- The warnings `printProcess` puts below the page. -/
def processWarnings (warnings : List Warning) : Bytes :=
  Bytes.ofString "\nWarnings\n" ++ warnings.flatMap fun warning =>
    Bytes.ofString "  " ++ warning.message ++ Bytes.ofString "\n"

def processRow (process : ProcessInfo) : Bytes :=
  fmt.left 8 (Bytes.ofInt process.pid) ++ Bytes.ofString " " ++
    fmt.left 16 (shortened process.user 16) ++ Bytes.ofString " " ++
    fmt.left 14 (shortened process.state 14) ++ Bytes.ofString " " ++
    fmt.right 6 (match process.cpuPercent with
      | none => Bytes.ofString "-"
      | some percent => fmt.oneDecimal percent) ++ Bytes.ofString " " ++
    fmt.right 9 (mebibytes fmt process.rssBytes) ++ Bytes.ofString " " ++
    fmt.right 8 (Bytes.ofNat process.threads) ++ Bytes.ofString "  " ++
    fmt.left 24 (shortened process.name 24) ++ Bytes.ofString " " ++
    process.systemdUnit.getD "-" ++ Bytes.ofString "\n"

/-- `printProcesses` up to the warnings -/
def processTable (processes : List ProcessInfo) : Bytes :=
  Bytes.ofString
    "PID      USER             STATE          CPU %   RSS MiB   THREADS  NAME                     SERVICE\n" ++
    processes.flatMap (processRow fmt)

def serviceRow (service : ServiceInfo) : Bytes :=
  tableCell service.unitName 40 ++ [32] ++ tableCell service.activeState 12 ++ [32] ++
    tableCell service.subState 16 ++ [32] ++ tableCell (orDash service.unitFileState) 16 ++ [32] ++
    pidOrDash service.mainPid ++ [10]

/-- `printServices` up to the warnings -/
def serviceTable (services : List ServiceInfo) : Bytes :=
  tableCell "SERVICE" 40 ++ [32] ++ tableCell "ACTIVE" 12 ++ [32] ++ tableCell "SUB" 16 ++ [32] ++
    tableCell "ENABLED" 16 ++ Bytes.ofString " MAIN PID\n" ++ services.flatMap serviceRow

/-- `printService` up to the warnings -/
def servicePage (service : ServiceInfo) : Bytes :=
  service.unitName ++ Bytes.ofString "\n\nDescription  " ++ service.description ++
    Bytes.ofString "\nLoad         " ++ service.loadState ++ Bytes.ofString "\nActive       " ++
    service.activeState ++ Bytes.ofString "\nSub          " ++ service.subState ++
    Bytes.ofString "\nEnabled      " ++ orDash service.unitFileState ++
    Bytes.ofString "\nMain PID     " ++ pidOrDash service.mainPid ++
    Bytes.ofString "\nSince        " ++ timestampText zone service.activeEnterTimestampUsec ++ [10]

/-- A part of a page, left out if there is nothing to show. -/
def part {α : Type} (title : String) (row : α → Bytes) (values : List α) : Bytes :=
  if values.isEmpty then [] else Bytes.ofString title ++ values.flatMap row

def targetText : ResourceTarget → Bytes
  | .port port => Bytes.ofString "Port " ++ Bytes.ofNat port ++ [10]
  | .process pid => Bytes.ofString "Process " ++ Bytes.ofInt pid ++ [10]
  | .service unit => unit ++ [10]

/-- `printResourceGraph` up to the warnings -/
def graphPage (graph : ResourceGraph) : Bytes :=
  targetText graph.root ++
    part "\nPorts\n" (fun port : PortInfo =>
      Bytes.ofString "  " ++ protocolText port.socket.protocol ++ Bytes.ofString " " ++
        port.socket.localEnd.address ++ Bytes.ofString ":" ++
        Bytes.ofNat port.socket.localEnd.port ++ Bytes.ofString " " ++
        fmt.left 10 port.socket.state ++ Bytes.ofString " PID " ++ ownerPids port ++ [10]) graph.ports ++
    part "\nProcesses\n" (fun process : ProcessInfo =>
      Bytes.ofString "  " ++ fmt.left 8 (Bytes.ofInt process.pid) ++ Bytes.ofString " " ++
        fmt.left 24 (shortened process.name 24) ++ Bytes.ofString " " ++
        fmt.left 14 (shortened process.state 14) ++ Bytes.ofString " " ++ process.user ++ [10])
      graph.processes ++
    part "\nServices\n" (fun service : ServiceInfo =>
      Bytes.ofString "  " ++ fmt.left 40 (shortened service.unitName 40) ++ Bytes.ofString " " ++
        service.activeState ++ Bytes.ofString " / " ++ service.subState ++ [10]) graph.services ++
    part "\nRecent logs\n" (journalLine zone) graph.recentLogs

/-- `printFindResult` up to the warnings -/
def findPage (result : FindResult) : Bytes :=
  part "SERVICES\n" (fun service : ServiceInfo => Bytes.ofString "  " ++ service.unitName ++ [10])
      result.services ++
    part "\nPROCESSES\n" (fun process : ProcessInfo =>
      Bytes.ofString "  " ++ fmt.left 8 (Bytes.ofInt process.pid) ++ Bytes.ofString " " ++
        process.name ++ [10]) result.processes ++
    part "\nPORTS\n" (fun port : PortInfo =>
      Bytes.ofString "  " ++ protocolText port.socket.protocol ++ Bytes.ofString " " ++
        port.socket.localEnd.address ++ Bytes.ofString ":" ++
        Bytes.ofNat port.socket.localEnd.port ++ [10]) result.ports ++
    part "\nEXECUTABLES\n" (fun executable : Bytes => Bytes.ofString "  " ++ executable ++ [10])
      result.executables

def portRow (port : PortInfo) : Bytes :=
  fmt.left 6 (protocolText port.socket.protocol) ++ Bytes.ofString " " ++
    fmt.left 40 port.socket.localEnd.address ++ Bytes.ofString " " ++
    fmt.left 6 (Bytes.ofNat port.socket.localEnd.port) ++ Bytes.ofString " " ++
    fmt.left 12 port.socket.state ++ Bytes.ofString " " ++
    fmt.left 7 (Bytes.ofNat port.socket.uid) ++ Bytes.ofString " " ++
    fmt.left 11 (Bytes.ofNat port.socket.inode) ++ Bytes.ofString " " ++
    fmt.left 16 (ownerNames port) ++ Bytes.ofString " " ++ fmt.left 12 (ownerPids port) ++
    Bytes.ofString " " ++ ownerServices port ++ [10]

/-- The table of the port command. -/
def portTable (ports : List PortInfo) : Bytes :=
  Bytes.ofString
    "PROTO  ADDRESS                                  PORT   STATE        UID     INODE       PROCESS          PID          SERVICE\n" ++
    ports.flatMap (portRow fmt)

end

end Lx.Cli
