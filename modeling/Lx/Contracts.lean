import Lx.Domain.Basic
import Lx.Lib.Interaction

/-!
# The boundary of the application layer

Everything the application services and the command line reach the outside
through: the provider interfaces of `include/lx/contracts`, the standard streams,
and the two choices the C++ runtime makes on its own (the iteration order of an
`unordered_set` and the readings of `steady_clock`). A program over `Contract`
gets arbitrary answers unless a trace says otherwise.
-/

namespace Lx

open Interaction

/-- What a service manager is asked to do with a unit. -/
inductive ServiceAction where
  | start
  | stop
  | restart
  deriving DecidableEq, Repr

/-- The calls that leave the application layer. -/
inductive Call where
  /-- `ISocketProvider::query` -/
  | querySockets (query : SocketQuery)
  /-- `ISocketOwnerResolver::resolve` -/
  | resolveOwners (inodes : List Nat)
  /-- `IProcessProvider::get` -/
  | getProcess (pid : Int)
  /-- `IProcessProvider::list` -/
  | listProcesses
  /-- `ISystemMetricsProvider::sample` -/
  | sampleSystem
  /-- `IProcessMetricsProvider::sample` -/
  | sampleProcesses
  /-- The waiter between two samples, in milliseconds. -/
  | wait (interval : Nat)
  /-- `IServiceProvider::list` -/
  | listServices
  /-- `IServiceProvider::get` -/
  | getService (unit : Bytes)
  /-- `IServiceProvider::unitByPid` -/
  | unitByPid (pid : Int)
  /-- `IServiceProvider::start`, `stop` and `restart` -/
  | controlService (action : ServiceAction) (unit : Bytes)
  /-- `IJournalProvider::query` -/
  | queryJournal (query : LogQuery)
  /-- `ISignalProvider::send` -/
  | send (pid : Int) (signal : ProcessSignal)
  /-- `ISignalProvider::waitForExit`, timeout in milliseconds -/
  | waitForExit (pid : Int) (timeout : Nat)
  /-- The order in which a range-for visits an `unordered_set` with these elements. -/
  | hashOrder (pids : List Int)
  /-- `steady_clock::now()` in nanoseconds, read after an earlier reading. -/
  | steadyNow (earlier : Nat)
  /-- `system_clock::now()` in nanoseconds. -/
  | systemNow
  /-- `sleep_for`, with the reading before it and the duration in nanoseconds. -/
  | sleepFor (now duration : Nat)
  /-- `std::getline` on standard input; nothing at end of file. -/
  | getline
  /-- Text written to standard output. -/
  | write (text : Bytes)
  /-- Text written to standard error. -/
  | writeError (text : Bytes)
  deriving DecidableEq, Repr

/-- The answers the calls get. The subtypes carry what the C++ library promises: a
    range-for visits every element once, a steady clock does not run backwards and
    `sleep_for` sleeps at least as long as asked. -/
def Call.Answer : Call → Type
  | .querySockets _ => Result (Observation (List SocketInfo))
  | .resolveOwners _ => Result (Observation SocketOwnership)
  | .getProcess _ => Result (Observation ProcessInfo)
  | .listProcesses => Result (Observation (List ProcessInfo))
  | .sampleSystem => Result SystemMetricsSample
  | .sampleProcesses => Result (List ProcessCpuSample)
  | .wait _ => Unit
  | .listServices => Result (Observation (List ServiceInfo))
  | .getService _ => Result (Observation ServiceInfo)
  | .unitByPid _ => Result (Option Bytes)
  | .controlService _ _ => Result Unit
  | .queryJournal _ => Result (Observation (List JournalEntry))
  | .send _ _ => Result SignalDelivery
  | .waitForExit _ _ => Result Bool
  | .hashOrder pids => { order : List Int // order.Perm pids }
  | .steadyNow earlier => { now : Nat // earlier ≤ now }
  | .systemNow => Int
  | .sleepFor now duration => { after : Nat // now + duration ≤ after }
  | .getline => Option Bytes
  | .write _ => Unit
  | .writeError _ => Unit

/-- The signature of the application layer. -/
abbrev Contract : Signature := ⟨Call, Call.Answer⟩

/-- Programs of the application layer and the command line. -/
abbrev App := Prog Contract

def querySockets (query : SocketQuery) : App (Result (Observation (List SocketInfo))) :=
  perform (S := Contract) (.querySockets query)

def resolveOwners (inodes : List Nat) : App (Result (Observation SocketOwnership)) :=
  perform (S := Contract) (.resolveOwners inodes)

def getProcess (pid : Int) : App (Result (Observation ProcessInfo)) :=
  perform (S := Contract) (.getProcess pid)

def contract (call : Call) : App call.Answer := perform (S := Contract) call

def lookupUnit (pid : Int) : App (Result (Option Bytes)) :=
  perform (S := Contract) (.unitByPid pid)

def controlService (action : ServiceAction) (unit : Bytes) : App (Result Unit) :=
  perform (S := Contract) (.controlService action unit)

def sendSignal (pid : Int) (signal : ProcessSignal) : App (Result SignalDelivery) :=
  perform (S := Contract) (.send pid signal)

def awaitExit (pid : Int) (timeout : Nat) : App (Result Bool) :=
  perform (S := Contract) (.waitForExit pid timeout)

def hashOrder (pids : List Int) : App { order : List Int // order.Perm pids } :=
  perform (S := Contract) (.hashOrder pids)

def steadyNow (earlier : Nat) : App { now : Nat // earlier ≤ now } :=
  perform (S := Contract) (.steadyNow earlier)

def sleepFor (now duration : Nat) : App { after : Nat // now + duration ≤ after } :=
  perform (S := Contract) (.sleepFor now duration)

def getline : App (Option Bytes) := perform (S := Contract) .getline

def write (text : Bytes) : App Unit := perform (S := Contract) (.write text)

def writeError (text : Bytes) : App Unit := perform (S := Contract) (.writeError text)

/-! ## What a provider promises -/

/-- What is promised of `IProcessProvider::get`: the record is about the PID asked for,
    and units are left to the service layer. -/
def FromProcessProvider (t : Trace Contract) : Prop :=
  ∀ pid observed, ⟨.getProcess pid, .ok observed⟩ ∈ t →
    observed.value.pid = pid ∧ observed.value.systemdUnit = none

theorem FromProcessProvider.mono {t u : Trace Contract} (h : FromProcessProvider t) (hsub : u ⊆ t) :
    FromProcessProvider u :=
  fun pid observed hmem => h pid observed (hsub hmem)

/-- The check of `FromProcessProvider` on one event. -/
def isProviderRecord : Event Contract → Bool
  | ⟨.getProcess pid, .ok observed⟩ => observed.value.pid == pid && observed.value.systemdUnit.isNone
  | _ => true

theorem fromProcessProvider_of_all {t : Trace Contract} (h : t.all isProviderRecord = true) :
    FromProcessProvider t := by
  intro pid observed hmem
  have hrecord := List.all_eq_true.mp h _ hmem
  simpa [isProviderRecord] using hrecord

end Lx
