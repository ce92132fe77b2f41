import Lx.Application.ProcessService
import Mathlib.Data.List.Sort
import Mathlib.Data.Prod.Lex

/-!
# PortService

Socket enrichment, the release plan, and the three operations that execute a plan:
`stopManagedService`, `terminate` and `force` (`src/application/PortService.cpp`).
Loops of the source that may return early are written as recursive functions over
the list they run through.
-/

namespace Lx

open Interaction

structure PortService where
  processService_ : ProcessService
  serviceService_ : Option ServiceService
  /-- Milliseconds. -/
  gracePeriod_ : Nat
  deriving DecidableEq, Repr

namespace PortService

/-! ## §1 Comparing plans -/

/-- `std::tuple<protocol, family, address, port, inode, owners>` with its
    lexicographic order. -/
abbrev SocketIdentity :=
  TransportProtocol ×ₗ AddressFamily ×ₗ Bytes ×ₗ Nat ×ₗ Nat ×ₗ List Int

/-- The tuple one socket of a plan contributes. -/
def identity (port : PortInfo) : SocketIdentity :=
  toLex (port.socket.protocol, toLex (port.socket.family, toLex (port.socket.localEnd.address,
    toLex (port.socket.localEnd.port, toLex (port.socket.inode, port.socket.ownerPids)))))

/-- The sorted tuples of a plan's sockets. -/
def identities (plan : PortReleasePlan) : List SocketIdentity :=
  (plan.ports.map identity).insertionSort (· ≤ ·)

def sameTargets (expected current : PortReleasePlan) : Bool :=
  identities expected == identities current

/-- `std::includes` on two ranges. -/
def includes : List Int → List Int → Bool
  | _, [] => true
  | [], _ :: _ => false
  | a :: as, b :: bs =>
    if b < a then false
    else if a < b then includes as (b :: bs)
    else includes as bs

/-- The endpoint and inode of two sockets agree; owners are not compared. -/
def sameSocket (candidate current : PortInfo) : Bool :=
  candidate.socket.protocol == current.socket.protocol &&
    candidate.socket.family == current.socket.family &&
    candidate.socket.localEnd.address == current.socket.localEnd.address &&
    candidate.socket.localEnd.port == current.socket.localEnd.port &&
    candidate.socket.inode == current.socket.inode

def remainingTargetsBelongTo (original current : PortReleasePlan) : Bool :=
  current.ports.all fun currentPort =>
    match original.ports.find? (sameSocket · currentPort) with
    | none => false
    -- owners may have gone, but none may have come
    | some found => includes found.socket.ownerPids currentPort.socket.ownerPids

def changedTargetError : Error :=
  ⟨.conflict, "Port ownership changed; refusing to signal a new target", 0,
    "port-service", "release"⟩

/-! ## §2 Inspection -/

/-- The inodes whose owners are looked up. -/
def requestedInodes (sockets : List SocketInfo) : List Nat :=
  (sockets.map (·.inode)).filter (· ≠ 0)

/-- A socket with the owners the resolver found for its inode. -/
def withOwners (ownership : SocketOwnership) (socket : SocketInfo) : SocketInfo :=
  match ownership.lookup socket.inode with
  | none => socket
  | some owners => { socket with ownerPids := owners }

/-- The set of PIDs the resolver named for some socket. -/
def resolvedPids (ownership : SocketOwnership) (sockets : List SocketInfo) : List Int :=
  (sockets.flatMap fun socket => (ownership.lookup socket.inode).getD []).dedup

/-- Inspect every owner, collecting the records by PID and the warnings. -/
def inspectOwners (self : PortService) :
    List Int → List (Int × ProcessInfo) → List Warning →
      App (List (Int × ProcessInfo) × List Warning)
  | [], processes, warnings => return (processes, warnings)
  | pid :: rest, processes, warnings => do
    match ← self.processService_.inspect pid with
    | .error error => self.inspectOwners rest processes (warnings ++ [warningFrom error])
    | .ok observed =>
      self.inspectOwners rest (processes ++ [(pid, observed.value)]) (warnings ++ observed.warnings)

/-- One row of the result: the socket with the records of its readable owners. -/
def toPortInfo (processes : List (Int × ProcessInfo)) (socket : SocketInfo) : PortInfo :=
  ⟨socket, socket.ownerPids.filterMap fun pid => processes.lookup pid⟩

def inspect (self : PortService) (query : SocketQuery) :
    App (Result (Observation (List PortInfo))) := do
  match ← querySockets query with
  | .error error => return .error error
  | .ok sockets =>
    match ← resolveOwners (requestedInodes sockets.value) with
    | .error error => return .error error
    | .ok ownership =>
      -- the PIDs are gone through in the order of an `unordered_set`
      let order ← hashOrder (resolvedPids ownership.value sockets.value)
      let (processes, warnings) ←
        self.inspectOwners order.val [] (sockets.warnings ++ ownership.warnings)
      let owned := sockets.value.map (withOwners ownership.value)
      return .ok ⟨owned.map (toPortInfo processes), warnings⟩

/-! ## §3 The release plan -/

/-- `std::unique`: drop every element equal to its predecessor. -/
def unique : List Int → List Int
  | [] => []
  | [a] => [a]
  | a :: b :: rest => if a = b then unique (b :: rest) else a :: unique (b :: rest)

/-- The owners of all sockets, sorted and without repetition. -/
def ownerPidsOf (ports : List PortInfo) : List Int :=
  unique ((ports.flatMap (·.socket.ownerPids)).insertionSort (· ≤ ·))

/-- The first record of a PID among the owners of the ports. -/
def findOwner (ports : List PortInfo) (pid : Int) : Option ProcessInfo :=
  ports.findSome? fun port => port.owners.find? (·.pid == pid)

/-- The unit all of `pids` share with `commonUnit`, if every record is readable and
    carries it. -/
def commonUnitOf (ports : List PortInfo) : List Int → Option Bytes → Option Bytes
  | [], commonUnit => commonUnit
  | pid :: rest, commonUnit =>
    match (findOwner ports pid).bind (·.systemdUnit), commonUnit with
    -- an owner without a readable record or without a unit ends the search
    | none, _ => none
    | some unit, none => commonUnitOf ports rest (some unit)
    | some unit, some common =>
      if common ≠ unit then none else commonUnitOf ports rest (some common)

/-- The first owner that must not be signalled, as an error. -/
def validateTargets (self : PortService) : List Int → Result Unit
  | [] => .ok ()
  | pid :: rest =>
    match self.processService_.validateSignalTarget pid with
    | .error error => .error error
    | .ok () => self.validateTargets rest

/-- The plan built from a non-empty observation. -/
def planOf (self : PortService) (localPort : Nat) (ports : List PortInfo) :
    Result PortReleasePlan :=
  if ports.any (·.socket.ownerPids.isEmpty) then
    .error ⟨.permissionDenied,
      "Cannot safely release the port because a socket owner is unresolved", 0,
      "port-service", "prepare release"⟩
  else
    let ownerPids := ownerPidsOf ports
    match self.validateTargets ownerPids with
    | .error error => .error error
    | .ok () => .ok ⟨localPort, ports, ownerPids, commonUnitOf ports ownerPids none⟩

def noSocketError (localPort : Nat) : Error :=
  ⟨.notFound, Bytes.ofString "No socket found for port " ++ Bytes.ofNat localPort, 0,
    "port-service", "prepare release"⟩

def prepareRelease (self : PortService) (localPort : Nat) :
    App (Result (Observation PortReleasePlan)) :=
  if localPort = 0 then
    return .error ⟨.invalidArgument, "Port must be between 1 and 65535", 0,
      "port-service", "prepare release"⟩
  else do
    match ← self.inspect { localPort := some localPort } with
    | .error error => return .error error
    | .ok inspected =>
      -- the callers take this code for a free port
      if inspected.value.isEmpty then return .error (noSocketError localPort)
      else
        match self.planOf localPort inspected.value with
        | .error error => return .error error
        | .ok plan => return .ok ⟨plan, inspected.warnings⟩

/-! ## §4 Executing a plan -/

/-- Signal every owner in turn; the first failure ends the loop. -/
def signalOwners (self : PortService) (processSignal : ProcessSignal) :
    List Int → List SignalDelivery → App (Result (List SignalDelivery))
  | [], deliveries => return .ok deliveries
  | pid :: rest, deliveries => do
    match ← self.processService_.signal pid processSignal with
    | .error error =>
      return .error { error with
        message := if deliveries.isEmpty then error.message
          else Bytes.ofString "Port release was partially signaled: " ++ error.message }
    | .ok delivery => self.signalOwners processSignal rest (deliveries ++ [delivery])

/-- Wait for every owner until the common deadline (nanoseconds). -/
def waitForOwners (self : PortService) (deadline : Nat) : List Int → Nat → App (Result Unit)
  | [], _ => return .ok ()
  | pid :: rest, earlier => do
    let now ← steadyNow earlier
    -- a deadline in the past leaves no time, otherwise whole milliseconds remain
    let remaining := if deadline ≤ now.val then 0 else (deadline - now.val) / 1000000
    match ← self.processService_.waitForExit pid remaining with
    | .error error => return .error error
    | .ok _ => self.waitForOwners deadline rest now.val

def graceNanoseconds (self : PortService) : Nat := self.gracePeriod_ * 1000000

/-- Signal all owners, then give them the grace period to exit. -/
def signalAndWait (self : PortService) (processSignal : ProcessSignal) (ownerPids : List Int) :
    App (Result (List SignalDelivery)) := do
  match ← self.signalOwners processSignal ownerPids [] with
  | .error error => return .error error
  | .ok deliveries =>
    let now ← steadyNow 0
    match ← self.waitForOwners (now.val + self.graceNanoseconds) ownerPids now.val with
    | .error error => return .error error
    | .ok () => return .ok deliveries

/-- What the observation after the signals means: the port is free, somebody else
    holds it, or the original owners still do (`stillOccupied`). -/
def concludeRelease (plan : PortReleasePlan) (warnings : List Warning)
    (deliveries : List SignalDelivery)
    (stillOccupied : Observation PortReleasePlan → Result (Observation PortReleaseResult))
    (after : Result (Observation PortReleasePlan)) : Result (Observation PortReleaseResult) :=
  match after with
  | .error error =>
    if error.code = .notFound then .ok ⟨{ released := true, deliveries }, warnings⟩
    else .error error
  | .ok after =>
    if !remainingTargetsBelongTo plan after.value then .error changedTargetError
    else stillOccupied after

/-- The common body of `terminate` and `force`: observe again, signal only unchanged
    targets, and observe the outcome. -/
def releaseWith (self : PortService) (processSignal : ProcessSignal) (plan : PortReleasePlan)
    (stillOccupied : List Warning → List SignalDelivery → Observation PortReleasePlan →
      Result (Observation PortReleaseResult)) : App (Result (Observation PortReleaseResult)) := do
  match ← self.prepareRelease plan.localPort with
  | .error error =>
    if error.code = .notFound then return .ok ⟨{ released := true }, []⟩
    else return .error error
  | .ok current =>
    if !sameTargets plan current.value then return .error changedTargetError
    else
      -- the signals go to the PIDs of the plan, which the observation has confirmed
      match ← self.signalAndWait processSignal plan.ownerPids with
      | .error error => return .error error
      | .ok deliveries =>
        let after ← self.prepareRelease plan.localPort
        return concludeRelease plan current.warnings deliveries
          (stillOccupied current.warnings deliveries) after

def terminate (self : PortService) (plan : PortReleasePlan) :
    App (Result (Observation PortReleaseResult)) :=
  self.releaseWith .terminate plan fun warnings deliveries after =>
    .ok ⟨{ deliveries, remaining := some after.value }, warnings ++ after.warnings⟩

def force (self : PortService) (plan : PortReleasePlan) :
    App (Result (Observation PortReleaseResult)) :=
  self.releaseWith .kill plan fun _ _ _ =>
    .error ⟨.timeout, "Port is still occupied after SIGKILL", 0, "port-service", "force release"⟩

/-- Poll until the port is free, somebody else holds it, or the deadline has passed.
    `now` is the last clock reading; every round sleeps 25 ms. -/
def pollStopped (self : PortService) (plan : PortReleasePlan) (unit : Bytes) (deadline now : Nat)
    (warnings : List Warning) : App (Result (Observation PortReleaseResult)) := do
  match ← self.prepareRelease plan.localPort with
  | .error error =>
    if error.code = .notFound then return .ok ⟨{ released := true }, warnings⟩
    else return .error error
  | .ok after =>
    if !remainingTargetsBelongTo plan after.value then return .error changedTargetError
    else
      let reading ← steadyNow now
      if _h : deadline ≤ reading.val then
        return .error ⟨.timeout,
          Bytes.ofString "Port is still occupied after stopping " ++ unit, 0,
          "port-service", "stop managed service"⟩
      else
        let woken ← sleepFor reading.val 25000000
        self.pollStopped plan unit deadline woken.val (warnings ++ after.warnings)
termination_by deadline - now
decreasing_by
  have := reading.property
  have := woken.property
  omega

def stopManagedService (self : PortService) (plan : PortReleasePlan) :
    App (Result (Observation PortReleaseResult)) :=
  match plan.recommendedUnit, self.serviceService_ with
  | some unit, some services => do
    match ← self.prepareRelease plan.localPort with
    | .error error =>
      if error.code = .notFound then return .ok ⟨{ released := true }, []⟩
      else return .error error
    | .ok current =>
      if !sameTargets plan current.value || current.value.recommendedUnit ≠ plan.recommendedUnit
      then return .error changedTargetError
      else
        match ← services.stop unit with
        | .error error => return .error error
        | .ok () =>
          let now ← steadyNow 0
          self.pollStopped plan unit (now.val + self.graceNanoseconds) now.val current.warnings
  | _, _ =>
    return .error ⟨.invalidArgument, "Port release plan has no managed service", 0,
      "port-service", "stop managed service"⟩

end PortService

end Lx
