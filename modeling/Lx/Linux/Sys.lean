import Lx.Contracts
import Lx.Linux.InetDiagCodec
import Mathlib.Data.Prod.Lex

/-!
# The boundary to the operating system

The system calls and C library calls behind the Linux providers. A program over `Sys`
gets arbitrary answers; a world that gives them meaning is a separate notion.
Interrupted calls are retried by the source until they are not, so `EINTR` is no answer.
-/

namespace Lx

open Interaction

/-- The number a failed call leaves in `errno`. -/
abbrev Errno := Int

namespace Errno

def eperm : Errno := 1
def enoent : Errno := 2
def esrch : Errno := 3
def eintr : Errno := 4
def eio : Errno := 5
def eacces : Errno := 13
def einval : Errno := 22
def enosys : Errno := 38

end Errno

/-- What a system call returned, and `errno` after it. -/
structure SysReturn where
  ret : Int
  errno : Errno
  deriving DecidableEq, Repr

/-- What iterating over a directory delivers: names, and possibly an error that ends it. -/
structure Listing where
  entries : List Bytes
  failure : Option Errno := none
  deriving DecidableEq, Repr

/-- The records of a process that are read as files. -/
inductive ProcFile where
  | stat
  | status
  | cmdline
  deriving DecidableEq, Repr

/-- The links of a process that are read. -/
inductive ProcLink where
  | exe
  | cwd
  deriving DecidableEq, Repr

/-- The calls the Linux providers make. -/
inductive SysCall where
  /-- `socket(AF_NETLINK, …, NETLINK_SOCK_DIAG)` -/
  | socket
  | sendto (request : Bytes)
  | recv
  /-- The order `std::sort` gives sockets that its comparison does not tell apart. -/
  | sortSockets (sockets : List SocketInfo)
  /-- Iterating over the procfs root. -/
  | rootDirectory
  /-- Iterating over the `fd` directory of an entry of the root. -/
  | fdDirectory (entry : Bytes)
  /-- `readlink` of one descriptor of an entry of the root. -/
  | fdLink (entry descriptor : Bytes)
  /-- Opening a record of a process with `std::ifstream`. -/
  | openFile (pid : Int) (file : ProcFile)
  /-- Reading an opened record to its end. -/
  | readFile (pid : Int) (file : ProcFile)
  /-- `readlink` of a link of a process. -/
  | readLink (pid : Int) (link : ProcLink)
  /-- `sysconf(_SC_GETPW_R_SIZE_MAX)` -/
  | sysconf
  /-- `getpwuid_r` with a buffer of this size: its status, and the name it found. -/
  | getpwuid (uid size : Nat)
  /-- `pidfd_open(pid, 0)` -/
  | pidfdOpen (pid : Int)
  /-- `pidfd_send_signal(fd, signal, nullptr, 0)` -/
  | pidfdSendSignal (fd : Nat) (signal : ProcessSignal)
  | close (fd : Nat)
  /-- `kill(2)` -/
  | kill (pid : Int) (signal : ProcessSignal)
  /-- A call of the application layer that another backend answers. -/
  | contract (call : Call)
  deriving DecidableEq, Repr

/-- The order of `NetlinkSocketProvider::query`. -/
def socketKey (socket : SocketInfo) : Nat ×ₗ TransportProtocol ×ₗ AddressFamily ×ₗ Bytes :=
  toLex (socket.localEnd.port, toLex (socket.protocol, toLex (socket.family,
    socket.localEnd.address)))

def SysCall.Answer : SysCall → Type
  | .socket => Except Errno Unit
  | .sendto _ => { answer : SysReturn // ¬ (answer.ret < 0 ∧ answer.errno = Errno.eintr) }
  | .recv => Except { errno : Errno // errno ≠ Errno.eintr } Netlink.Datagram
  | .sortSockets sockets => { sorted : List SocketInfo //
      sorted.Perm sockets ∧ sorted.Pairwise fun a b => socketKey a ≤ socketKey b }
  | .rootDirectory => Except Errno Listing
  | .fdDirectory _ => Except Errno Listing
  | .fdLink _ _ => Except Errno Bytes
  | .openFile _ _ => Except Errno Unit
  | .readFile _ _ => Except Errno Bytes
  | .readLink _ _ => Except Errno Bytes
  | .sysconf => Int
  | .getpwuid _ _ => Errno × Option Bytes
  | .pidfdOpen _ => Except Errno Nat
  | .pidfdSendSignal _ _ => Except Errno Unit
  | .close _ => Unit
  | .kill _ _ => Except Errno Unit
  | .contract call => call.Answer

/-- Sending the 72 bytes of a dump request at once is an answer of `sendto`. -/
theorem sent_uninterrupted : ¬ ((⟨72, 0⟩ : SysReturn).ret < 0 ∧
    (⟨72, 0⟩ : SysReturn).errno = Errno.eintr) := by
  decide

/-- `ENOBUFS` is an answer of `recv`. -/
theorem Errno.enobufs_ne_eintr : (105 : Errno) ≠ Errno.eintr := by decide

/-- The signature of the Linux providers. -/
abbrev Sys : Signature := ⟨SysCall, SysCall.Answer⟩

def sys (call : SysCall) : Prog Sys call.Answer := perform (S := Sys) call

end Lx
