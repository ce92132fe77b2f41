import Lx.Linux.Sys
import Lx.Application.PortService

/-!
# SocketInodeResolver

The owners of socket inodes, found by scanning the descriptors of every process
(`src/linux/procfs/SocketInodeResolver.cpp`, `SocketFdTarget.cpp`). What cannot be read
is counted and skipped; only the root directory itself has to open.
-/

namespace Lx.SocketInodeResolver

open Interaction

/-! ## §1 Texts -/

/-- The entries of the root that are processes. -/
def parsePid (name : Bytes) : Option Int :=
  match Bytes.fromChars 64 name with
  | none => none
  | some value => if value = 0 ∨ 2 ^ 31 ≤ value then none else some value

def socketPrefix : Bytes := Bytes.ofString "socket:["

/-- The inode a descriptor link names, if it names a socket at all. -/
def parseSocketFdTarget (target : Bytes) : Result (Option Nat) :=
  if !socketPrefix.isPrefixOf target then .ok none
  else if target.length ≤ socketPrefix.length + 1 ∨ target.getLast? ≠ some 93 then
    .error ⟨.parseError, "Malformed socket file descriptor target", 0, "socket-fd-target", "parse"⟩
  else
    let digits := (target.drop socketPrefix.length).dropLast
    match Bytes.fromChars 64 digits with
    | none => .error ⟨.parseError, "Invalid socket inode", 0, "socket-fd-target", "parse"⟩
    | some inode => .ok (some inode)

/-! ## §2 Errors -/

def disappeared (errno : Errno) : Bool := errno == Errno.enoent || errno == Errno.esrch

def denied (errno : Errno) : Bool := errno == Errno.eacces || errno == Errno.eperm

def errorCode (errno : Errno) : ErrorCode :=
  if denied errno then .permissionDenied
  else if disappeared errno then .notFound
  else .ioError

def makeError (strerror : Int → Bytes) (errno : Errno) (operation : Bytes) : Error where
  code := errorCode errno
  message := Bytes.ofString "Unable to " ++ operation ++ Bytes.ofString ": " ++ strerror errno
  systemError := errno
  component := "socket-inode-resolver"
  operation := operation

/-! ## §3 The scan -/

/-- The variables of `resolve`. -/
structure ScanState where
  ownership : SocketOwnership := []
  deniedCount : Nat := 0
  unreadableCount : Nat := 0
  deriving DecidableEq, Repr

def ScanState.count (state : ScanState) (errno : Errno) : ScanState :=
  if denied errno then { state with deniedCount := state.deniedCount + 1 }
  -- what is gone owns nothing any more
  else if disappeared errno then state
  else { state with unreadableCount := state.unreadableCount + 1 }

/-- The error that ended an iteration, counted when there is one. -/
def ScanState.countFailure (state : ScanState) : Option Errno → ScanState
  | none => state
  | some errno => state.count errno

/-- `ownership[inode].push_back(pid)` -/
def addOwner (inode : Nat) (pid : Int) : SocketOwnership → SocketOwnership
  | [] => [(inode, [pid])]
  | (key, owners) :: rest =>
    if key = inode then (key, owners ++ [pid]) :: rest else (key, owners) :: addOwner inode pid rest

/-- The descriptors of one process. -/
def scanDescriptors (targets : List Nat) (entry : Bytes) (pid : Int) :
    List Bytes → ScanState → Prog Sys ScanState
  | [], state => return state
  | descriptor :: rest, state => do
    match ← sys (.fdLink entry descriptor) with
    | .error errno => scanDescriptors targets entry pid rest (state.count errno)
    | .ok target =>
      match parseSocketFdTarget target with
      | .ok (some inode) =>
        if inode ∈ targets then
          scanDescriptors targets entry pid rest
            { state with ownership := addOwner inode pid state.ownership }
        else scanDescriptors targets entry pid rest state
      -- no socket, or a link that cannot be understood
      | _ => scanDescriptors targets entry pid rest state

/-- The entries of the root. -/
def scanProcesses (targets : List Nat) : List Bytes → ScanState → Prog Sys ScanState
  | [], state => return state
  | entry :: rest, state =>
    match parsePid entry with
    | none => scanProcesses targets rest state
    | some pid => do
      match ← sys (.fdDirectory entry) with
      -- the descriptors of other users cannot be listed
      | .error errno => scanProcesses targets rest (state.count errno)
      | .ok descriptors =>
        let state ← scanDescriptors targets entry pid descriptors.entries
          (state.countFailure descriptors.failure)
        scanProcesses targets rest state

/-- The owners sorted, each once. -/
def normalizeOwners (ownership : SocketOwnership) : SocketOwnership :=
  ownership.map fun (inode, owners) => (inode, PortService.unique (owners.insertionSort (· ≤ ·)))

/-- The warnings of a scan. -/
def scanWarnings (state : ScanState) : List Warning :=
  (if state.deniedCount ≠ 0 then
    [⟨.permissionDenied, Bytes.ofNat state.deniedCount ++
      Bytes.ofString " procfs entries could not be inspected because of permissions", 0,
      "socket-inode-resolver", "resolve"⟩] else []) ++
  (if state.unreadableCount ≠ 0 then
    [⟨.ioError, Bytes.ofNat state.unreadableCount ++
      Bytes.ofString " procfs entries could not be inspected", 0,
      "socket-inode-resolver", "resolve"⟩] else [])

/-- `SocketInodeResolver::resolve` -/
def resolve (strerror : Int → Bytes) (inodes : List Nat) :
    Prog Sys (Result (Observation SocketOwnership)) :=
  let targets := inodes.filter (· ≠ 0)
  if targets.isEmpty then return .ok ⟨[], []⟩
  else do
    match ← sys .rootDirectory with
    | .error errno => return .error (makeError strerror errno "enumerate procfs root")
    | .ok processes =>
      let state ← scanProcesses targets processes.entries
        (ScanState.countFailure {} processes.failure)
      return .ok ⟨normalizeOwners state.ownership, scanWarnings state⟩

/-- Nothing is asked for when there is nothing to resolve, and the only failure is that of
    the root directory. -/
theorem resolve_error {strerror : Int → Bytes} {inodes : List Nat} {t : Trace Sys} {error : Error}
    (h : (resolve strerror inodes).Run t (.error error)) :
    inodes.filter (· ≠ 0) ≠ [] ∧ ∃ errno, t = [⟨.rootDirectory, .error errno⟩] ∧
      error.code = errorCode errno := by
  unfold resolve at h
  dsimp only at h
  split at h
  · obtain ⟨-, h⟩ := h
    cases h
  · rename_i hne
    obtain ⟨listed, _, _, hl, hk, rfl⟩ := Prog.run_bind_iff.mp h
    obtain rfl := Prog.run_perform.mp hl
    cases listed with
    | error errno =>
      obtain ⟨rfl, hr⟩ := hk
      obtain rfl := Except.error.inj hr
      exact ⟨by simpa using hne, errno, rfl, rfl⟩
    | ok processes =>
      obtain ⟨_, _, _, -, ⟨rfl, hr⟩, rfl⟩ := Prog.run_bind_iff.mp hk
      cases hr

end Lx.SocketInodeResolver
