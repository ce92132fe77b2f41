import Lx.Linux.Sys
import Lx.Linux.ProcFsParsers
import Lx.Linux.SocketInodeResolver

/-!
# ProcFsProcessProvider

Processes read from procfs (`src/linux/procfs/ProcFsReader.cpp`,
`PasswdUserResolver.cpp`, `ProcFsProcessProvider.cpp`). Opening and reading a record are
separate steps: a failed open is an error value, a failed read makes the stream buffer
throw, and nothing here catches it.
-/

namespace Lx.ProcFs

open Interaction

/-- The C++ exceptions that can leave these functions. -/
inductive Exception where
  /-- `std::ios_base::failure`, thrown by `basic_filebuf::underflow`. -/
  | iosFailure (errno : Errno)
  /-- `std::filesystem::filesystem_error`, thrown by `directory_iterator::operator++`. -/
  | filesystemError (errno : Errno)
  deriving DecidableEq, Repr

/-- Programs that may throw. -/
abbrev Throws := ExceptT Exception (Prog Sys)

/-- A system call inside a program that may throw. -/
def call (c : SysCall) : Throws c.Answer := ExceptT.lift (sys c)

section Provider

variable (strerror : Int → Bytes)

/-! ## §1 ProcFsReader -/

def ProcFile.name : ProcFile → Bytes
  | .stat => "stat"
  | .status => "status"
  | .cmdline => "cmdline"

def ProcLink.name : ProcLink → Bytes
  | .exe => "exe"
  | .cwd => "cwd"

def makeError (number : Errno) (operation : Bytes) : Error where
  code :=
    if number = Errno.enoent ∨ number = Errno.esrch then .notFound
    else if number = Errno.eacces ∨ number = Errno.eperm then .permissionDenied
    else .ioError
  message := Bytes.ofString "Unable to " ++ operation ++ Bytes.ofString ": " ++ strerror number
  systemError := number
  component := "procfs"
  operation := operation

namespace ProcFsReader

def readFile (pid : Int) (file : ProcFile) : Throws (Result Bytes) := do
  match ← call (.openFile pid file) with
  | .error errno =>
    let number := if errno = 0 then Errno.eio else errno
    return .error (makeError strerror number (Bytes.ofString "read " ++ ProcFile.name file))
  | .ok () =>
    match ← call (.readFile pid file) with
    -- `istreambuf_iterator` lets the exception pass, so `bad()` is never reached
    | .error errno => throw (.iosFailure errno)
    | .ok contents => return .ok contents

def readLink (pid : Int) (link : ProcLink) : Throws (Result Bytes) := do
  match ← call (.readLink pid link) with
  | .error errno =>
    return .error (makeError strerror errno (Bytes.ofString "readlink " ++ ProcLink.name link))
  | .ok target => return .ok target

def processIds : Throws (Result (List Int)) := do
  match ← call .rootDirectory with
  | .error errno => return .error (makeError strerror errno "enumerate processes")
  | .ok listing =>
    match listing.failure with
    -- the range-for over the directory throws when an increment fails
    | some errno => throw (.filesystemError errno)
    | none =>
      let ids := listing.entries.filterMap SocketInodeResolver.parsePid
      return .ok (ids.insertionSort (· ≤ ·))

end ProcFsReader

/-! ## §2 PasswdUserResolver -/

def maximumBuffer : Nat := 1024 * 1024

def erange : Errno := 34

/-- The loop over growing buffers. -/
def nameWithBuffer (uid size : Nat) (hsize : 0 < size) : Throws (Result Bytes) :=
  if _h : size ≤ maximumBuffer then do
    match ← call (.getpwuid uid size) with
    | (0, some name) => return .ok name
    | (0, none) =>
      return .error ⟨.notFound, "No passwd entry for UID", 0, "passwd-user-resolver", "resolve uid"⟩
    | (status, _) =>
      if status ≠ erange then
        return .error ⟨.ioError, "Unable to resolve UID", status, "passwd-user-resolver",
          "resolve uid"⟩
      -- `ERANGE`: the entry did not fit
      else nameWithBuffer uid (size * 2) (by omega)
  else
    return .error ⟨.operationFailed, "Passwd entry exceeds safety limit", erange,
      "passwd-user-resolver", "resolve uid"⟩
termination_by maximumBuffer + 1 - size

def nameForUid (uid : Nat) : Throws (Result Bytes) := do
  let suggested : Int ← call .sysconf
  if h : 0 < suggested.toNat then nameWithBuffer uid suggested.toNat h
  else nameWithBuffer uid 1024 (by omega)

/-! ## §3 ProcFsProcessProvider -/

def stateName (state : UInt8) : Bytes :=
  if state = 82 then "running"
  else if state = 83 then "sleeping"
  else if state = 68 then "disk sleep"
  else if state = 90 then "zombie"
  else if state = 84 then "stopped"
  else if state = 116 then "tracing stop"
  else if state = 88 ∨ state = 120 then "dead"
  else if state = 73 then "idle"
  else [state]

def pidMismatchError : Error :=
  ⟨.parseError, "Process stat PID does not match request", 0, "procfs-process-provider", "get"⟩

/-- The records of a process a listing depends on. -/
def requiredRecords (pid : Int) : Throws (Result (StatRecord × StatusRecord)) := do
  match ← ProcFsReader.readFile strerror pid .stat with
  | .error error => return .error error
  | .ok statText =>
    match parseStat statText with
    | .error error => return .error error
    | .ok stat =>
      -- the PID of the record is checked before anything else is read
      if stat.pid ≠ pid then return .error pidMismatchError
      else
        match ← ProcFsReader.readFile strerror pid .status with
        | .error error => return .error error
        | .ok statusText =>
          match parseStatus statusText with
          | .error error => return .error error
          | .ok status => return .ok (stat, status)

/-- What the required records say about a process. -/
def infoOf (pid : Int) (stat : StatRecord) (status : StatusRecord) : ProcessInfo :=
  { pid
    ppid := stat.ppid
    name := stat.name
    state := stateName stat.state
    uid := status.uid
    gid := status.gid
    threads := status.threads
    rssBytes := status.rssBytes }

/-- A detail that could be read changes the record; one that could not leaves a warning. -/
def attach {α : Type} (update : ProcessInfo → α → ProcessInfo) (observed : Observation ProcessInfo) :
    Result α → Observation ProcessInfo
  | .ok detail => { observed with value := update observed.value detail }
  | .error error => { observed with warnings := observed.warnings ++ [warningFrom error] }

/-- The user name, or the number in its place. -/
def attachUser (info : ProcessInfo) : Result Bytes → Observation ProcessInfo :=
  attach (fun info name => { info with user := name })
    ⟨{ info with user := Bytes.ofNat info.uid }, []⟩

/-- The parts of a process that may be missing. -/
def optionalDetails (pid : Int) (info : ProcessInfo) : Throws (Observation ProcessInfo) := do
  -- each of the four may fail without failing the process
  let observed := attachUser info (← nameForUid info.uid)
  let cmdline ← ProcFsReader.readFile strerror pid .cmdline
  let observed := attach (fun info contents => { info with argv := parseCmdline contents })
    observed cmdline
  let executable ← ProcFsReader.readLink strerror pid .exe
  let observed := attach (fun info target => { info with executable := some target })
    observed executable
  let cwd ← ProcFsReader.readLink strerror pid .cwd
  return attach (fun info target => { info with cwd := some target }) observed cwd

def get (pid : Int) : Throws (Result (Observation ProcessInfo)) := do
  match ← requiredRecords strerror pid with
  | .error error => return .error error
  | .ok (stat, status) =>
    let observed ← optionalDetails strerror pid (infoOf pid stat status)
    return .ok observed

/-- The counters and the list of `list`. -/
structure ListState where
  value : List ProcessInfo := []
  permissionWarnings : Nat := 0
  disappearedWarnings : Nat := 0
  detailWarnings : Nat := 0
  deriving DecidableEq, Repr

def ListState.countWarning (state : ListState) (code : ErrorCode) : ListState :=
  if code = .permissionDenied then
    { state with permissionWarnings := state.permissionWarnings + 1 }
  else if code = .notFound then
    { state with disappearedWarnings := state.disappearedWarnings + 1 }
  else { state with detailWarnings := state.detailWarnings + 1 }

/-- One process of the listing. -/
def ListState.record (state : ListState) : Result (Observation ProcessInfo) → ListState
  | .error error => state.countWarning error.code
  | .ok process =>
    process.warnings.foldl (fun state warning => state.countWarning warning.code)
      { state with value := state.value ++ [process.value] }

def listFrom : List Int → ListState → Throws ListState
  | [], state => return state
  | pid :: rest, state => do
    let process ← get strerror pid
    listFrom rest (state.record process)

def permissionWarning (count : Nat) : Warning :=
  ⟨.permissionDenied, Bytes.ofNat count ++
    Bytes.ofString " process details could not be read because of permissions", 0,
    "procfs-process-provider", "list"⟩

def disappearedWarning (count : Nat) : Warning :=
  ⟨.notFound, Bytes.ofNat count ++
    Bytes.ofString " process details disappeared during enumeration", 0,
    "procfs-process-provider", "list"⟩

def detailWarning (count : Nat) : Warning :=
  ⟨.ioError, Bytes.ofNat count ++ Bytes.ofString " optional process details were unavailable", 0,
    "procfs-process-provider", "list"⟩

def ListState.warnings (state : ListState) : List Warning :=
  (if state.permissionWarnings ≠ 0 then [permissionWarning state.permissionWarnings] else []) ++
  (if state.disappearedWarnings ≠ 0 then [disappearedWarning state.disappearedWarnings] else []) ++
  (if state.detailWarnings ≠ 0 then [detailWarning state.detailWarnings] else [])

def list : Throws (Result (Observation (List ProcessInfo))) := do
  match ← ProcFsReader.processIds strerror with
  | .error error => return .error error
  | .ok ids =>
    let state ← listFrom strerror ids {}
    return .ok ⟨state.value, state.warnings⟩

def sampleFrom : List Int → List ProcessCpuSample → Throws (List ProcessCpuSample)
  | [], samples => return samples
  | pid :: rest, samples => do
    match ← ProcFsReader.readFile strerror pid .stat with
    -- a process that cannot be read is left out silently
    | .error _ => sampleFrom rest samples
    | .ok text =>
      match parseProcessCpuStat text with
      | .ok parsed =>
        if parsed.pid = pid then sampleFrom rest (samples ++ [parsed]) else sampleFrom rest samples
      | .error _ => sampleFrom rest samples

def sample : Throws (Result (List ProcessCpuSample)) := do
  match ← ProcFsReader.processIds strerror with
  | .error error => return .error error
  | .ok ids =>
    let samples ← sampleFrom strerror ids []
    return .ok samples

end Provider

end Lx.ProcFs
