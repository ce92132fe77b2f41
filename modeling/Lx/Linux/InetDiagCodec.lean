import Lx.Domain.Basic
import Mathlib.Tactic.NormNum

/-!
# The sock-diag wire format

Requests and answers of `NETLINK_SOCK_DIAG` as `src/linux/netlink/InetDiagCodec.cpp`
builds and reads them, on a little-endian machine. Ports and addresses travel in
network order. `strerror` stands for the texts of `std::system_category()`.
-/

namespace Lx.Netlink

/-! ## §1 Constants of the kernel interface -/

def nlmsgDone : Nat := 3
def nlmsgError : Nat := 2
def nlmsgOverrun : Nat := 4
def dumpInterrupted : Nat := 0x10
def sockDiagByFamily : Nat := 20
def requestDump : Nat := 0x301
def afInet : Nat := 2
def afInet6 : Nat := 10

/-- `sizeof(nlmsghdr)` and `NLMSG_HDRLEN` -/
def headerSize : Nat := 16

/-- `sizeof(nlmsgerr)` -/
def errorSize : Nat := 20

/-- `sizeof(inet_diag_msg)` -/
def diagSize : Nat := 72

/-- `NLMSG_ALIGN` in 32-bit arithmetic. -/
def nlmsgAlign (length : Nat) : Nat := (length + 3) % 2 ^ 32 / 4 * 4

/-- Alignment does not wrap for the lengths a datagram can hold. -/
theorem le_nlmsgAlign {length : Nat} (h : length ≤ 65536) : length ≤ nlmsgAlign length := by
  unfold nlmsgAlign
  omega

/-- What `recv` puts into the buffer of `NetlinkSocket::receive`. -/
abbrev Datagram := { data : Bytes // data.length ≤ 65536 }

/-! ## §2 Addresses -/

def inetNtop4 (address : Bytes) : Bytes :=
  (Bytes.ofString ".").intercalate (address.map fun byte => Bytes.ofNat byte.toNat)

/-- The first longest run of zero words from index `i` on, as (start, length); `current` is
    the run that reaches up to `i`. -/
def zeroRun : List Nat → Nat → Nat × Nat → Nat × Nat → Nat × Nat
  | [], _, current, best => if best.2 < current.2 then current else best
  | word :: rest, i, current, best =>
    if word = 0 then
      zeroRun rest (i + 1) (if current.2 = 0 then (i, 1) else (current.1, current.2 + 1)) best
    else zeroRun rest (i + 1) (i, 0) (if best.2 < current.2 then current else best)

/-- The words of an IPv6 address from index `i` on, with the run `best` written as `::` and
    an embedded IPv4 address in dotted form. -/
def formatWords (address : Bytes) (best : Nat × Nat) (words : List Nat) : List Nat → Nat → Bytes
  | [], _ => if best.2 ≠ 0 ∧ best.1 + best.2 = 8 then Bytes.ofString ":" else []
  | word :: rest, i =>
    if best.2 ≠ 0 ∧ best.1 ≤ i ∧ i < best.1 + best.2 then
      (if i = best.1 then Bytes.ofString ":" else []) ++ formatWords address best words rest (i + 1)
    else
      (if i ≠ 0 then Bytes.ofString ":" else []) ++
      if i = 6 ∧ best.1 = 0 ∧ (best.2 = 6 ∨ (best.2 = 5 ∧ words.getD 5 0 = 0xffff)) then
        inetNtop4 (address.drop 12)
      else Bytes.ofNatHex word ++ formatWords address best words rest (i + 1)

/-- The eight 16-bit words of an IPv6 address. -/
def addressWords (address : Bytes) : List Nat :=
  (List.range 8).map fun i => Bytes.toNatBE (Bytes.field address (2 * i) 2)

def inetNtop6 (address : Bytes) : Bytes :=
  let words := addressWords address
  let best := zeroRun words 0 (0, 0) (0, 0)
  -- a single zero word is not abbreviated
  formatWords address (if best.2 < 2 then (0, 0) else best) words words 0

/-- `inet_ntop`. The buffer of `INET6_ADDRSTRLEN` bytes holds every address, so formatting
    does not fail. -/
def inetNtop (family : AddressFamily) (address : Bytes) : Bytes :=
  match family with
  | .ipv4 => inetNtop4 (address.take 4)
  | .ipv6 => inetNtop6 (address.take 16)

/-! ## §3 Requests -/

/-- `nlmsghdr` followed by `inet_diag_req_v2`; the identity asks for no cookie. -/
def buildInetDiagRequest (family : AddressFamily) (protocol : TransportProtocol)
    (sequence states : Nat) : Bytes :=
  Bytes.ofNatLE 4 72 ++ Bytes.ofNatLE 2 sockDiagByFamily ++ Bytes.ofNatLE 2 requestDump ++
    Bytes.ofNatLE 4 sequence ++ Bytes.ofNatLE 4 0 ++
  Bytes.ofNatLE 1 (match family with | .ipv4 => afInet | .ipv6 => afInet6) ++
    Bytes.ofNatLE 1 (match protocol with | .tcp => 6 | .udp => 17) ++ Bytes.ofNatLE 2 0 ++
    Bytes.ofNatLE 4 states ++
  List.replicate 40 0 ++ Bytes.ofNatLE 4 0xffffffff ++ Bytes.ofNatLE 4 0xffffffff

/-! ## §4 Answers -/

/-- `nlmsghdr` without the sender's port. -/
structure Header where
  length : Nat
  type : Nat
  flags : Nat
  sequence : Nat
  deriving DecidableEq, Repr

def readHeader (data : Bytes) : Header where
  length := Bytes.toNatLE (Bytes.field data 0 4)
  type := Bytes.toNatLE (Bytes.field data 4 2)
  flags := Bytes.toNatLE (Bytes.field data 6 2)
  sequence := Bytes.toNatLE (Bytes.field data 8 4)

structure InetDiagBatch where
  sockets : List SocketInfo := []
  done : Bool := false
  deriving DecidableEq, Repr

def parseError {α : Type} (message : Bytes) : Result α :=
  .error ⟨.protocolError, message, 0, "inet-diag-codec", "parse"⟩

def tcpStates : List String :=
  ["unknown", "established", "syn-sent", "syn-recv", "fin-wait-1", "fin-wait-2", "time-wait",
    "close", "close-wait", "last-ack", "listen", "closing", "new-syn-recv"]

def tcpState (state : Nat) : Bytes := Bytes.ofString (tcpStates.getD state "unknown")

/-- The remote endpoint, present when its port or address is not zero. -/
def remoteOf (family : AddressFamily) (message : Bytes) : Option Endpoint :=
  let remotePort := Bytes.toNatBE (Bytes.field message 6 2)
  let address := Bytes.field message 24 16
  if remotePort ≠ 0 ∨ address.any (· ≠ 0) then some ⟨inetNtop family address, remotePort⟩
  else none

/-- The socket an `inet_diag_msg` of a known family describes. -/
def socketOf (protocol : TransportProtocol) (family : AddressFamily) (message : Bytes) : SocketInfo :=
  let remote := remoteOf family message
  { protocol
    family
    localEnd := ⟨inetNtop family (Bytes.field message 8 16), Bytes.toNatBE (Bytes.field message 4 2)⟩
    remote
    state := match protocol with
      | .tcp => tcpState (Bytes.toNatLE (Bytes.field message 1 1))
      -- UDP has no states of its own
      | .udp => if remote.isSome then "connected" else "unconnected"
    uid := Bytes.toNatLE (Bytes.field message 64 4)
    inode := Bytes.toNatLE (Bytes.field message 68 4) }

/-- A payload that carries one socket. -/
def parseSocket (protocol : TransportProtocol) (payload : Bytes) : Result SocketInfo :=
  if payload.length < diagSize then parseError "Truncated INET_DIAG message"
  else
    let family := Bytes.toNatLE (Bytes.field payload 0 1)
    if family = afInet then .ok (socketOf protocol .ipv4 payload)
    else if family = afInet6 then .ok (socketOf protocol .ipv6 payload)
    else parseError "Unsupported INET_DIAG address family"

/-- The signed 32-bit number with these bytes. -/
def toInt32 (bytes : Bytes) : Int :=
  let n := Bytes.toNatLE bytes
  if n < 2 ^ 31 then n else (n : Int) - 2 ^ 32

section Parse

variable (strerror : Int → Bytes)

/-- An error message of the kernel; zero is an acknowledgement. -/
def parseKernelError (payload : Bytes) : Result Unit :=
  if payload.length < errorSize then parseError "Truncated Netlink error"
  else
    let error := toInt32 (Bytes.field payload 0 4)
    if error ≠ 0 then
      .error ⟨.protocolError, strerror (-error), -error, "inet-diag-codec", "kernel response"⟩
    else .ok ()

/-- What one message adds to the batch. -/
def parseMessage (protocol : TransportProtocol) (header : Header) (payload : Bytes)
    (batch : InetDiagBatch) : Result InetDiagBatch :=
  if header.type = nlmsgDone then
    -- the table changed while it was dumped
    if header.flags &&& dumpInterrupted ≠ 0 then parseError "Netlink dump was interrupted"
    else .ok { batch with done := true }
  else if header.type = nlmsgError then do
    parseKernelError strerror payload
    return batch
  else if header.type = nlmsgOverrun then parseError "Netlink response overrun"
  else do
    let socket ← parseSocket protocol payload
    return { batch with sockets := batch.sockets ++ [socket] }

/-- The messages from `offset` on. -/
def parseMessages (sequence : Nat) (protocol : TransportProtocol) (data : Datagram) (offset : Nat)
    (batch : InetDiagBatch) : Result InetDiagBatch :=
  if _hmore : offset < data.val.length then
    if data.val.length - offset < headerSize then parseError "Truncated Netlink header"
    else
      let header := readHeader (data.val.drop offset)
      if _hlength : header.length < headerSize ∨ data.val.length - offset < header.length then
        parseError "Invalid Netlink message length"
      else if header.sequence ≠ sequence then parseError "Unexpected Netlink sequence"
      else
        let payload := Bytes.field data.val (offset + headerSize) (header.length - headerSize)
        match parseMessage strerror protocol header payload batch with
        | .error error => .error error
        | .ok batch =>
          let aligned := nlmsgAlign header.length
          if data.val.length - offset < aligned then
            if header.length ≠ data.val.length - offset then
              parseError "Truncated aligned Netlink message"
            -- the last message of a datagram may lack its padding
            else parseMessages sequence protocol data data.val.length batch
          else parseMessages sequence protocol data (offset + aligned) batch
  else .ok batch
termination_by data.val.length - offset
decreasing_by
  · omega
  · -- the length of a message is positive and its alignment does not wrap
    have := data.property
    have haligned : header.length ≤ nlmsgAlign header.length := le_nlmsgAlign (by omega)
    have hheader : headerSize = 16 := rfl
    change data.val.length - (offset + nlmsgAlign header.length) < data.val.length - offset
    omega

def parseInetDiagDatagram (data : Datagram) (sequence : Nat) (protocol : TransportProtocol) :
    Result InetDiagBatch :=
  parseMessages strerror sequence protocol data 0 {}

/-! ## §5 Errors -/

variable {strerror}

theorem parseSocket_error {protocol : TransportProtocol} {payload : Bytes} {error : Error}
    (h : parseSocket protocol payload = .error error) : error.code = .protocolError := by
  unfold parseSocket parseError at h
  dsimp only at h
  split_ifs at h <;> cases h <;> rfl

theorem parseMessage_error {protocol : TransportProtocol} {header : Header} {payload : Bytes}
    {batch : InetDiagBatch} {error : Error}
    (h : parseMessage strerror protocol header payload batch = .error error) :
    error.code = .protocolError := by
  unfold parseMessage at h
  split at h
  · split at h
    · cases h
      rfl
    · cases h
  · split at h
    · unfold parseKernelError parseError at h
      dsimp only at h
      split_ifs at h <;> cases h <;> rfl
    · split at h
      · cases h
        rfl
      · cases hs : parseSocket protocol payload with
        | error error' =>
          rw [hs] at h
          cases h
          exact parseSocket_error hs
        | ok socket =>
          rw [hs] at h
          cases h

/-- Whatever is wrong with a datagram is a protocol error. -/
theorem parseMessages_error {sequence : Nat} {protocol : TransportProtocol} {data : Datagram}
    {offset : Nat} {batch : InetDiagBatch} {error : Error}
    (h : parseMessages strerror sequence protocol data offset batch = .error error) :
    error.code = .protocolError := by
  fun_induction parseMessages strerror sequence protocol data offset batch with
  | case1 | case2 | case3 | case5 =>
    cases h
    rfl
  | case4 offset batch _ _ header _ _ payload error' hmessage =>
    cases h
    exact parseMessage_error hmessage
  | case6 => rename_i ih; exact ih h
  | case7 => rename_i ih; exact ih h
  | case8 => cases h

/-! ## §6 The end of a dump -/

/-- The message the kernel ends a dump with. -/
def doneMessage (sequence : Nat) : Bytes :=
  Bytes.ofNatLE 4 20 ++ Bytes.ofNatLE 2 nlmsgDone ++ Bytes.ofNatLE 2 0 ++ Bytes.ofNatLE 4 sequence ++
    Bytes.ofNatLE 4 0 ++ Bytes.ofNatLE 4 0

/-- The datagram that holds nothing but that message. -/
def doneDatagram (sequence : Nat) : Datagram :=
  ⟨doneMessage sequence, by
    change 20 ≤ 65536
    omega⟩

theorem readHeader_doneMessage {sequence : Nat} (h : sequence < 2 ^ 32) :
    readHeader (doneMessage sequence) = ⟨20, nlmsgDone, 0, sequence⟩ := by
  have hsequence : Bytes.field (doneMessage sequence) 8 4 = Bytes.ofNatLE 4 sequence := rfl
  unfold readHeader
  rw [hsequence, Bytes.toNatLE_ofNatLE, Nat.mod_eq_of_lt (by simpa using h)]
  rfl

theorem parse_doneDatagram {sequence : Nat} {protocol : TransportProtocol} (h : sequence < 2 ^ 32) :
    parseInetDiagDatagram strerror (doneDatagram sequence) sequence protocol =
      .ok { done := true } := by
  have hlength : (doneDatagram sequence).val.length = 20 := rfl
  have hheader : readHeader (doneDatagram sequence).val = ⟨20, nlmsgDone, 0, sequence⟩ :=
    readHeader_doneMessage h
  unfold parseInetDiagDatagram
  rw [parseMessages]
  simp only [hlength, List.drop_zero, hheader]
  simp only [headerSize, parseMessage, nlmsgDone, nlmsgAlign, dumpInterrupted]
  norm_num
  -- nothing is left after the only message
  rw [parseMessages]
  simp [hlength]

end Parse

end Lx.Netlink
