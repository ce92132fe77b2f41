import Lx.Linux.Sys

/-!
# LinuxSignalProvider

Sending a signal to a process (`src/linux/process/LinuxSignalProvider.cpp`): through a
pidfd (`PidFd.cpp`) where the kernel has them, through `kill(2)` otherwise.
-/

namespace Lx.LinuxSignalProvider

open Interaction

inductive PidFdPolicy where
  | auto
  | disabled
  deriving DecidableEq, Repr

section

-- `std::system_category().message`
variable (systemMessage : Int → Bytes)

/-! ## §1 PidFd -/

namespace PidFd

def makeError (number : Errno) (operation : Bytes) : Error where
  code :=
    if number = Errno.enosys ∨ number = Errno.einval then .unsupported
    else if number = Errno.esrch ∨ number = Errno.enoent then .notFound
    else if number = Errno.eperm ∨ number = Errno.eacces then .permissionDenied
    else .ioError
  message := Bytes.ofString "Unable to " ++ operation ++ Bytes.ofString ": " ++ systemMessage number
  systemError := number
  component := "pidfd"
  operation := operation

/-- `PidFd::open` -/
def openPid (pid : Int) : Prog Sys (Result Nat) := do
  match ← sys (.pidfdOpen pid) with
  | .error number => return .error (makeError systemMessage number "open process handle")
  | .ok fd => return .ok fd

def send (fd : Nat) (signal : ProcessSignal) : Prog Sys (Result Unit) := do
  match ← sys (.pidfdSendSignal fd signal) with
  | .error number => return .error (makeError systemMessage number "send process signal")
  | .ok () => return .ok ()

end PidFd

/-! ## §2 The provider -/

def makeError (number : Errno) (operation : Bytes) : Error where
  code :=
    if number = Errno.esrch then .notFound
    else if number = Errno.eperm ∨ number = Errno.eacces then .permissionDenied
    else .ioError
  message := Bytes.ofString "Unable to " ++ operation ++ Bytes.ofString ": " ++ systemMessage number
  systemError := number
  component := "linux-signal-provider"
  operation := operation

def sendWithKill (pid : Int) (signal : ProcessSignal) : Prog Sys (Result SignalDelivery) := do
  match ← sys (.kill pid signal) with
  | .error number => return .error (makeError systemMessage number "send signal")
  | .ok () => return .ok ⟨pid, signal, .kill⟩

/-- The handle is closed when its block is left, so before `kill(2)` is tried. -/
def sendWithPidFd (fd : Nat) (pid : Int) (signal : ProcessSignal) :
    Prog Sys (Result SignalDelivery) := do
  let sent ← PidFd.send systemMessage fd signal
  sys (.close fd)
  match sent with
  | .ok () => return .ok ⟨pid, signal, .pidFd⟩
  | .error error =>
    -- the kernel knows the handle but not the call
    if error.code = .unsupported then sendWithKill systemMessage pid signal
    else return .error error

def send (policy : PidFdPolicy) (pid : Int) (signal : ProcessSignal) :
    Prog Sys (Result SignalDelivery) :=
  match policy with
  | .disabled => sendWithKill systemMessage pid signal
  | .auto => do
    match ← PidFd.openPid systemMessage pid with
    | .ok fd => sendWithPidFd systemMessage fd pid signal
    | .error error =>
      if error.code = .unsupported then sendWithKill systemMessage pid signal
      else return .error error

end

end Lx.LinuxSignalProvider
