import Lx.Lib.Bytes
import Mathlib.Data.Rat.Defs
import Mathlib.Order.Fin.Basic

/-!
# Domain records

The plain records of `include/lx/domain`. Texts are byte strings, `pid_t` is an
integer, the unsigned counters are natural numbers, a `double` is read as the
exact rational it stands for. Fields no modelled function reads are left out.
-/

namespace Lx

/-! ## §1 Errors and results -/

inductive ErrorCode where
  | invalidArgument
  | notFound
  | permissionDenied
  | unsupported
  | unavailable
  | ioError
  | protocolError
  | parseError
  | operationFailed
  | timeout
  | conflict
  | interrupted
  deriving DecidableEq, Repr

structure Error where
  code : ErrorCode
  message : Bytes
  systemError : Int
  component : Bytes
  operation : Bytes
  deriving DecidableEq, Repr

structure Warning where
  code : ErrorCode
  message : Bytes
  systemError : Int
  component : Bytes
  operation : Bytes
  deriving DecidableEq, Repr

/-- The warning a failed optional step leaves behind. -/
def warningFrom (error : Error) : Warning :=
  ⟨error.code, error.message, error.systemError, error.component, error.operation⟩

/-- `Result<T>`: a value or an error. -/
abbrev Result (α : Type) := Except Error α

/-- A value with the warnings collected while it was observed. -/
structure Observation (α : Type) where
  value : α
  warnings : List Warning
  deriving DecidableEq, Repr

/-- The warnings of a lookup, or its error as one. -/
def lookupWarnings {α : Type} (lookup : Result (Observation α)) : List Warning :=
  match lookup with
  | .ok observed => observed.warnings
  | .error error => [warningFrom error]

/-! ## §2 Processes and signals -/

structure ProcessInfo where
  pid : Int
  ppid : Int := -1
  name : Bytes := []
  state : Bytes := []
  uid : Nat := 0
  gid : Nat := 0
  user : Bytes := []
  executable : Option Bytes := none
  cwd : Option Bytes := none
  argv : List Bytes := []
  rssBytes : Nat := 0
  threads : Nat := 0
  cpuPercent : Option Rat := none
  systemdUnit : Option Bytes := none
  deriving DecidableEq, Repr

inductive ProcessSignal where
  | terminate
  | kill
  deriving DecidableEq, Repr

inductive SignalMechanism where
  | pidFd
  | kill
  deriving DecidableEq, Repr

structure SignalDelivery where
  pid : Int
  signal : ProcessSignal
  mechanism : SignalMechanism
  deriving DecidableEq, Repr

/-! ## §3 Sockets and ports -/

inductive TransportProtocol where
  | tcp
  | udp
  deriving DecidableEq, Repr

inductive AddressFamily where
  | ipv4
  | ipv6
  deriving DecidableEq, Repr

/-- Enumerators compare by their position in the declaration. -/
instance : LinearOrder TransportProtocol :=
  LinearOrder.lift' (fun p => match p with | .tcp => 0 | .udp => (1 : Nat))
    (by intro a b; cases a <;> cases b <;> simp)

instance : LinearOrder AddressFamily :=
  LinearOrder.lift' (fun f => match f with | .ipv4 => 0 | .ipv6 => (1 : Nat))
    (by intro a b; cases a <;> cases b <;> simp)

structure Endpoint where
  address : Bytes
  port : Nat
  deriving DecidableEq, Repr

structure SocketInfo where
  protocol : TransportProtocol := .tcp
  family : AddressFamily := .ipv4
  localEnd : Endpoint := ⟨[], 0⟩
  remote : Option Endpoint := none
  state : Bytes := []
  uid : Nat := 0
  inode : Nat := 0
  ownerPids : List Int := []
  deriving DecidableEq, Repr

structure SocketQuery where
  localPort : Option Nat := none
  protocol : Option TransportProtocol := none
  listeningOnly : Bool := true
  deriving DecidableEq, Repr

/-- `std::unordered_map<inode, owners>`, searched by key. -/
abbrev SocketOwnership := List (Nat × List Int)

structure PortInfo where
  socket : SocketInfo
  owners : List ProcessInfo
  deriving DecidableEq, Repr

structure PortReleasePlan where
  localPort : Nat
  ports : List PortInfo
  ownerPids : List Int
  recommendedUnit : Option Bytes
  deriving DecidableEq, Repr

structure PortReleaseResult where
  released : Bool := false
  deliveries : List SignalDelivery := []
  remaining : Option PortReleasePlan := none
  deriving DecidableEq, Repr

/-! ## §4 Services and the journal -/

structure ServiceInfo where
  unitName : Bytes := []
  description : Bytes := []
  loadState : Bytes := []
  activeState : Bytes := []
  subState : Bytes := []
  unitFileState : Bytes := []
  mainPid : Option Int := none
  activeEnterTimestampUsec : Nat := 0
  deriving DecidableEq, Repr

structure JournalEntry where
  /-- Nanoseconds since the epoch. -/
  timestamp : Int := 0
  cursor : Bytes := []
  systemdUnit : Option Bytes := none
  pid : Option Int := none
  command : Option Bytes := none
  message : Bytes := []
  priority : Option Nat := none
  deriving DecidableEq, Repr

structure LogQuery where
  unit : Option Bytes := none
  pid : Option Int := none
  /-- Nanoseconds since the epoch. -/
  since : Option Int := none
  limit : Nat := 50
  follow : Bool := false
  deriving DecidableEq, Repr

/-! ## §5 Queries across resources -/

structure ProcessQuery where
  name : Option Bytes := none
  user : Option Bytes := none
  systemdUnit : Option Bytes := none
  deriving DecidableEq, Repr

inductive ResourceTarget where
  | port (port : Nat)
  | process (pid : Int)
  | service (unit : Bytes)
  deriving DecidableEq, Repr

structure ResourceGraph where
  root : ResourceTarget
  ports : List PortInfo := []
  processes : List ProcessInfo := []
  services : List ServiceInfo := []
  recentLogs : List JournalEntry := []
  warnings : List Warning := []
  deriving DecidableEq, Repr

structure FindResult where
  services : List ServiceInfo := []
  processes : List ProcessInfo := []
  ports : List PortInfo := []
  executables : List Bytes := []
  warnings : List Warning := []
  deriving DecidableEq, Repr

/-! ## §6 Metrics -/

structure CpuTimes where
  totalTicks : Nat := 0
  idleTicks : Nat := 0
  deriving DecidableEq, Repr

structure SystemMetricsSample where
  cpu : CpuTimes := {}
  memoryTotalBytes : Nat := 0
  memoryAvailableBytes : Nat := 0
  /-- Milliseconds. -/
  uptime : Int := 0
  logicalCpuCount : Nat := 1
  hostname : Bytes := []
  deriving DecidableEq, Repr

structure ProcessCpuSample where
  pid : Int := -1
  startTimeTicks : Nat := 0
  cpuTimeTicks : Nat := 0
  deriving DecidableEq, Repr

structure MetricsSnapshot where
  system : SystemMetricsSample
  processes : List ProcessCpuSample
  deriving DecidableEq, Repr

structure HostStatus where
  hostname : Bytes := []
  cpuPercent : Option Rat := none
  memoryTotalBytes : Nat := 0
  memoryUsedBytes : Nat := 0
  /-- Milliseconds. -/
  uptime : Int := 0
  deriving DecidableEq, Repr

structure MetricsView where
  host : HostStatus := {}
  /-- `std::unordered_map<pid_t, double>`, searched by key. -/
  processCpuPercent : List (Int × Rat) := []
  deriving DecidableEq, Repr

structure DashboardSnapshot where
  host : HostStatus := {}
  processes : List ProcessInfo := []
  ports : List PortInfo := []
  services : List ServiceInfo := []
  hostStale : Bool := false
  processesStale : Bool := false
  portsStale : Bool := false
  servicesStale : Bool := false
  warnings : List Warning := []
  /-- Nanoseconds since the epoch. -/
  capturedAt : Int := 0
  deriving DecidableEq, Repr

end Lx
