import Lx.Linux.NetlinkSocketProvider

/-!
# What a sock-diag dump means

The kernel's side of the wire format: how socket records are laid out as messages, how
messages are packed into datagrams, and how a dump ends. The receive loop of
`NetlinkSocketProvider.cpp` undoes all of it: `one_decodes` says that it returns the
records of the dump in order, however the kernel splits them.

## Layers

- `DiagRecord.encode`, `Message.encode`, `encodeFrames`: one layer of the format each
- `parseSocket_encode`, `parseMessage_encode`, `parseMessages_encodeFrames`: the layer read
  back by the function that reads it
- `one_decodes`: the loop over datagrams
-/

namespace Lx.Netlink

open Interaction

/-! ## §1 Records -/

def addressSize : AddressFamily → Nat
  | .ipv4 => 4
  | .ipv6 => 16

abbrev Address (family : AddressFamily) := { bytes : Bytes // bytes.length = addressSize family }

/-- An address in the four words of `inet_diag_sockid`; the words IPv4 leaves are zero. -/
def Address.words {family : AddressFamily} (address : Address family) : Bytes :=
  address.val ++ List.replicate (16 - addressSize family) 0

/-- An `inet_diag_msg` with the attributes behind it. -/
structure DiagRecord where
  family : AddressFamily
  state : UInt8
  timer : UInt8
  retrans : UInt8
  localPort : UInt16
  remotePort : UInt16
  localAddress : Address family
  remoteAddress : Address family
  /-- Interface, cookie, expiry and queue lengths. -/
  unread : { bytes : Bytes // bytes.length = 24 }
  uid : UInt32
  inode : UInt32
  attributes : Bytes

/-- `htons` -/
def networkOrder (port : UInt16) : Bytes := (Bytes.ofNatLE 2 port.toNat).reverse

def familyNumber : AddressFamily → UInt8
  | .ipv4 => 2
  | .ipv6 => 10

def DiagRecord.encode (record : DiagRecord) : Bytes :=
  [familyNumber record.family] ++ ([record.state] ++ ([record.timer, record.retrans] ++
    (networkOrder record.localPort ++ (networkOrder record.remotePort ++
    (record.localAddress.words ++ (record.remoteAddress.words ++ (record.unread.val ++
    (Bytes.ofNatLE 4 record.uid.toNat ++ (Bytes.ofNatLE 4 record.inode.toNat ++
    record.attributes)))))))))

/-- The remote endpoint of a record, unless port and address are zero. -/
def DiagRecord.remote (record : DiagRecord) : Option Endpoint :=
  if record.remotePort ≠ 0 ∨ ∃ byte ∈ record.remoteAddress.val, byte ≠ 0 then
    some ⟨inetNtop record.family record.remoteAddress.val, record.remotePort.toNat⟩
  else none

/-- `enum tcp_state` of the kernel, in words. -/
def stateName : UInt8 → Bytes
  | 1 => "established"
  | 2 => "syn-sent"
  | 3 => "syn-recv"
  | 4 => "fin-wait-1"
  | 5 => "fin-wait-2"
  | 6 => "time-wait"
  | 7 => "close"
  | 8 => "close-wait"
  | 9 => "last-ack"
  | 10 => "listen"
  | 11 => "closing"
  | 12 => "new-syn-recv"
  | _ => "unknown"

/-- What a record says, in the words of the domain. -/
def DiagRecord.toSocketInfo (protocol : TransportProtocol) (record : DiagRecord) : SocketInfo where
  protocol := protocol
  family := record.family
  localEnd := ⟨inetNtop record.family record.localAddress.val, record.localPort.toNat⟩
  remote := record.remote
  state := match protocol with
    | .tcp => stateName record.state
    | .udp => if record.remote.isSome then "connected" else "unconnected"
  uid := record.uid.toNat
  inode := record.inode.toNat

/-! ## §2 Reading a record back -/

section Records

variable {record : DiagRecord}

@[simp] theorem length_networkOrder (port : UInt16) : (networkOrder port).length = 2 := by
  simp [networkOrder]

@[simp] theorem Address.length_words {family : AddressFamily} (address : Address family) :
    (Address.words address).length = 16 := by
  cases family <;> simp [Address.words, address.property, addressSize]

theorem toNatBE_networkOrder (port : UInt16) : Bytes.toNatBE (networkOrder port) = port.toNat := by
  have hlt := port.toNat_lt
  rw [networkOrder, Bytes.toNatBE, List.reverse_reverse, Bytes.toNatLE_ofNatLE]
  exact Nat.mod_eq_of_lt hlt

theorem toNatLE_ofNatLE_uint32 (n : UInt32) : Bytes.toNatLE (Bytes.ofNatLE 4 n.toNat) = n.toNat := by
  rw [Bytes.toNatLE_ofNatLE]
  exact Nat.mod_eq_of_lt n.toNat_lt

theorem inetNtop_words {family : AddressFamily} (address : Address family) :
    inetNtop family (Address.words address) = inetNtop family address.val := by
  have hlength := address.property
  cases family with
  | ipv4 =>
    have htake : (Address.words address).take 4 = address.val.take 4 :=
      List.take_append_of_le_length hlength.ge
    simp only [inetNtop, htake]
  | ipv6 =>
    have htake : (Address.words address).take 16 = address.val.take 16 :=
      List.take_append_of_le_length hlength.ge
    simp only [inetNtop, htake]

/-- The padding of an IPv4 address does not make it non-zero. -/
theorem any_words {family : AddressFamily} (address : Address family) :
    (Address.words address).any (· ≠ 0) = true ↔ ∃ byte ∈ address.val, byte ≠ 0 := by
  simp [Address.words, List.any_eq_true]

theorem length_encode_record : record.encode.length = diagSize + record.attributes.length := by
  simp [DiagRecord.encode, record.unread.property, diagSize]
  omega

/-! Every member stands where `inet_diag_msg` has it. -/

theorem field_family : Bytes.field record.encode 0 1 = [familyNumber record.family] :=
  Bytes.field_append_left rfl

theorem field_state : Bytes.field record.encode 1 1 = [record.state] := by
  simp (disch := simp) only [DiagRecord.encode, Bytes.field_append_right, Bytes.field_append_left,
    List.length_singleton, Nat.reduceSub]

theorem field_localPort : Bytes.field record.encode 4 2 = networkOrder record.localPort := by
  simp (disch := simp) only [DiagRecord.encode, Bytes.field_append_right, Bytes.field_append_left,
    List.length_cons, List.length_nil, Nat.reduceAdd, Nat.reduceSub]

theorem field_remotePort : Bytes.field record.encode 6 2 = networkOrder record.remotePort := by
  simp (disch := simp) only [DiagRecord.encode, Bytes.field_append_right, Bytes.field_append_left,
    List.length_cons, List.length_nil, length_networkOrder, Nat.reduceAdd, Nat.reduceSub]

theorem field_localAddress : Bytes.field record.encode 8 16 = record.localAddress.words := by
  simp (disch := simp) only [DiagRecord.encode, Bytes.field_append_right, Bytes.field_append_left,
    List.length_cons, List.length_nil, length_networkOrder, Nat.reduceAdd, Nat.reduceSub]

theorem field_remoteAddress : Bytes.field record.encode 24 16 = record.remoteAddress.words := by
  simp (disch := simp) only [DiagRecord.encode, Bytes.field_append_right, Bytes.field_append_left,
    List.length_cons, List.length_nil, length_networkOrder, Address.length_words, Nat.reduceAdd,
    Nat.reduceSub]

theorem field_uid : Bytes.field record.encode 64 4 = Bytes.ofNatLE 4 record.uid.toNat := by
  simp (disch := simp [record.unread.property]) only [DiagRecord.encode, Bytes.field_append_right,
    Bytes.field_append_left, List.length_cons, List.length_nil, length_networkOrder,
    Address.length_words, record.unread.property, Nat.reduceAdd, Nat.reduceSub]

theorem field_inode : Bytes.field record.encode 68 4 = Bytes.ofNatLE 4 record.inode.toNat := by
  simp (disch := simp [record.unread.property]) only [DiagRecord.encode, Bytes.field_append_right,
    Bytes.field_append_left, List.length_cons, List.length_nil, length_networkOrder,
    Address.length_words, record.unread.property, Bytes.length_ofNatLE, Nat.reduceAdd, Nat.reduceSub]

/-- The table of the source has the kernel's numbers, and a word for all others. -/
theorem tcpState_eq (state : UInt8) : tcpState state.toNat = stateName state := by
  rw [tcpState, stateName.eq_def]
  split
  -- one goal for each state of the kernel, and one for the numbers that are none
  iterate 12 rfl
  · have hother : state.toNat = 0 ∨ 13 ≤ state.toNat := by
      simp only [imp_false, ← UInt8.toNat_inj, UInt8.reduceToNat] at *
      omega
    obtain hzero | hlarge := hother
    · rw [hzero]
      rfl
    · rw [List.getD_eq_getElem?_getD, List.getElem?_eq_none hlarge]
      rfl

theorem remoteOf_encode : remoteOf record.family record.encode = record.remote := by
  have hport : record.remotePort.toNat ≠ 0 ↔ record.remotePort ≠ 0 := by
    rw [Ne, Ne, ← UInt16.toNat_inj]
    rfl
  unfold remoteOf DiagRecord.remote
  simp only [field_remotePort, field_remoteAddress, toNatBE_networkOrder, inetNtop_words, hport,
    any_words]

theorem socketOf_encode (protocol : TransportProtocol) :
    socketOf protocol record.family record.encode = record.toSocketInfo protocol := by
  have hstate : Bytes.toNatLE [record.state] = record.state.toNat := rfl
  -- the state of a datagram socket is told by its remote end
  cases protocol <;>
    simp only [socketOf, DiagRecord.toSocketInfo, remoteOf_encode, field_localAddress, inetNtop_words,
      field_localPort, toNatBE_networkOrder, field_state, field_uid, field_inode,
      toNatLE_ofNatLE_uint32, hstate, tcpState_eq]

/-- **A record is read back** from the payload it was written to. -/
theorem parseSocket_encode (protocol : TransportProtocol) :
    parseSocket protocol record.encode = .ok (record.toSocketInfo protocol) := by
  have hlength : ¬ record.encode.length < diagSize := by
    rw [length_encode_record]
    omega
  unfold parseSocket
  rw [if_neg hlength, field_family, ← socketOf_encode]
  cases hfamily : record.family with
  | ipv4 => rfl
  | ipv6 => rfl

end Records

/-! ## §3 Messages -/

/-- The messages of a dump that goes well. -/
inductive Body where
  | socket (record : DiagRecord)
  /-- `NLMSG_DONE` with its payload -/
  | done (payload : Bytes)

def Body.type : Body → Nat
  | .socket _ => sockDiagByFamily
  | .done _ => nlmsgDone

def Body.payload : Body → Bytes
  | .socket record => record.encode
  | .done payload => payload

/-- A message; the end of a dump is not flagged as interrupted. -/
structure Message where
  flags : UInt16
  portId : UInt32
  body : Body
  not_interrupted : ∀ payload, body = .done payload → flags.toNat &&& dumpInterrupted = 0

def Message.length (message : Message) : Nat := headerSize + message.body.payload.length

/-- The `nlmsghdr` of a message and its payload. -/
def Message.encode (sequence : Nat) (message : Message) : Bytes :=
  Bytes.ofNatLE 4 message.length ++ (Bytes.ofNatLE 2 message.body.type ++
    (Bytes.ofNatLE 2 message.flags.toNat ++ (Bytes.ofNatLE 4 sequence ++
    (Bytes.ofNatLE 4 message.portId.toNat ++ message.body.payload))))

/-- What a message adds to a batch. -/
def Message.addTo (protocol : TransportProtocol) (batch : InetDiagBatch) (message : Message) :
    InetDiagBatch :=
  match message.body with
  | .socket record => { batch with sockets := batch.sockets ++ [record.toSocketInfo protocol] }
  | .done _ => { batch with done := true }

section Messages

variable {sequence : Nat} {message : Message}

theorem length_encode_message : (message.encode sequence).length = message.length := by
  simp [Message.encode, Message.length, headerSize]
  omega

theorem readHeader_encode (hsequence : sequence < 2 ^ 32) (hlength : message.length < 2 ^ 32)
    (rest : Bytes) : readHeader (message.encode sequence ++ rest) =
      ⟨message.length, message.body.type, message.flags.toNat, sequence⟩ := by
  have htype : message.body.type % 65536 = message.body.type := by
    cases message.body with
    | socket record => rfl
    | done payload => rfl
  have hlength : message.length % 4294967296 = message.length := Nat.mod_eq_of_lt hlength
  have hflags : message.flags.toNat % 65536 = message.flags.toNat :=
    Nat.mod_eq_of_lt message.flags.toNat_lt
  have hsequence : sequence % 4294967296 = sequence := Nat.mod_eq_of_lt hsequence
  unfold readHeader
  simp (disch := simp) only [Message.encode, List.append_assoc, Bytes.field_append_right,
    Bytes.field_append_left, Bytes.length_ofNatLE, Bytes.toNatLE_ofNatLE, Nat.reduceSub,
    Nat.reducePow, hlength, htype, hflags, hsequence]

theorem field_payload (rest : Bytes) :
    Bytes.field (message.encode sequence ++ rest) headerSize (message.length - headerSize) =
      message.body.payload := by
  simp (disch := simp) only [headerSize, Message.encode, List.append_assoc,
    Bytes.field_append_right, Bytes.length_ofNatLE, Nat.reduceSub]
  exact Bytes.field_append_left (by simp [Message.length, headerSize])

/-- **A message is understood** as what it says. -/
theorem parseMessage_encode {strerror : Int → Bytes} (protocol : TransportProtocol)
    (batch : InetDiagBatch) :
    parseMessage strerror protocol ⟨message.length, message.body.type, message.flags.toNat, sequence⟩
      message.body.payload batch = .ok (message.addTo protocol batch) := by
  have hflags := message.not_interrupted
  unfold Message.addTo
  cases hbody : message.body with
  | done payload =>
    simp only [parseMessage, Body.type, hflags payload hbody]
    rfl
  | socket record =>
    simp only [parseMessage, Body.type, Body.payload, parseSocket_encode]
    rfl

end Messages

/-! ## §4 Datagrams -/

/-- The bytes from the end of a message of this length to the next multiple of four. -/
def padSize (length : Nat) : Nat := (4 - length % 4) % 4

/-- A message and the bytes after it. -/
structure Frame where
  message : Message
  padding : Bytes

def encodeFrames (sequence : Nat) (frames : List Frame) : Bytes :=
  frames.flatMap fun frame => frame.message.encode sequence ++ frame.padding

/-- Messages are padded to a multiple of four; the last one may stay as it is. -/
def Padded : List Frame → Prop
  | [] => True
  | frame :: rest =>
    (frame.padding.length = padSize frame.message.length ∨ frame.padding = [] ∧ rest = []) ∧ Padded rest

/-- What the messages of a datagram add to a batch. -/
def addFrames (protocol : TransportProtocol) (frames : List Frame) (batch : InetDiagBatch) :
    InetDiagBatch :=
  frames.foldl (fun batch frame => frame.message.addTo protocol batch) batch

theorem nlmsgAlign_eq {length : Nat} (h : length ≤ 65536) :
    nlmsgAlign length = length + padSize length := by
  unfold nlmsgAlign padSize
  omega

section Datagrams

variable {strerror : Int → Bytes} {sequence : Nat} {protocol : TransportProtocol} {data : Datagram}

/-- One turn of the parse loop reads one frame. -/
theorem parseMessages_frame (hsequence : sequence < 2 ^ 32) {offset : Nat} {frame : Frame}
    {rest : Bytes} {batch : InetDiagBatch}
    (hdata : data.val.drop offset = frame.message.encode sequence ++ frame.padding ++ rest)
    (hpadding : frame.padding.length = padSize frame.message.length ∨
      frame.padding = [] ∧ rest = []) :
    parseMessages strerror sequence protocol data offset batch =
      parseMessages strerror sequence protocol data
        (offset + frame.message.length + frame.padding.length) (frame.message.addTo protocol batch) := by
  -- what is left of the datagram: this frame and the rest
  have hleft : data.val.length - offset =
      frame.message.length + frame.padding.length + rest.length := by
    have hlengths := congrArg List.length hdata
    simpa only [List.length_drop, List.length_append, length_encode_message] using hlengths
  have hsize := data.property
  have hheaderSize : headerSize ≤ frame.message.length := Nat.le_add_right _ _
  have hpositive : 0 < headerSize := by decide
  have hheader : readHeader (data.val.drop offset) = ⟨frame.message.length, frame.message.body.type,
      frame.message.flags.toNat, sequence⟩ := by
    rw [hdata, List.append_assoc]
    exact readHeader_encode hsequence (by omega) _
  have hpayload : Bytes.field data.val (offset + headerSize) (frame.message.length - headerSize) =
      frame.message.body.payload := by
    have hshift : Bytes.field data.val (offset + headerSize) (frame.message.length - headerSize) =
        Bytes.field (data.val.drop offset) headerSize (frame.message.length - headerSize) := by
      unfold Bytes.field
      rw [List.drop_drop]
    rw [hshift, hdata, List.append_assoc]
    exact field_payload _
  -- none of the checks of the loop fails
  rw [parseMessages, dif_pos (by omega), if_neg (by omega)]
  simp only [hheader, hpayload, parseMessage_encode]
  rw [dif_neg (by omega), if_neg (by simp), nlmsgAlign_eq (by omega)]
  rcases hpadding with hpadded | ⟨hpadding, rfl⟩
  · rw [if_neg (by omega), hpadded, Nat.add_assoc]
  · -- the last message, without padding
    rw [hpadding, List.length_nil, Nat.add_zero]
    simp only [hpadding, List.length_nil, Nat.add_zero] at hleft
    by_cases hshort : data.val.length - offset < frame.message.length + padSize frame.message.length
    · rw [if_pos hshort, if_neg (by omega)]
      congr 1
      omega
    · rw [if_neg hshort]
      congr 1
      omega

/-- **A datagram is taken apart** into its messages. -/
theorem parseMessages_encodeFrames (hsequence : sequence < 2 ^ 32) {frames : List Frame}
    {offset : Nat} {batch : InetDiagBatch} (hpadded : Padded frames)
    (hdata : data.val.drop offset = encodeFrames sequence frames) :
    parseMessages strerror sequence protocol data offset batch =
      .ok (addFrames protocol frames batch) := by
  induction frames generalizing offset batch with
  | nil =>
    have hend : data.val.length ≤ offset := List.drop_eq_nil_iff.mp hdata
    rw [parseMessages, dif_neg (by omega)]
    rfl
  | cons frame frames ih =>
    obtain ⟨hpadding, hrest⟩ := hpadded
    have hsplit : data.val.drop offset =
        frame.message.encode sequence ++ frame.padding ++ encodeFrames sequence frames := hdata
    -- only the last frame may lack its padding, and nothing comes behind it
    have hpadding' : frame.padding.length = padSize frame.message.length ∨
        frame.padding = [] ∧ encodeFrames sequence frames = [] :=
      hpadding.imp_right fun h => ⟨h.1, by rw [h.2]; rfl⟩
    rw [parseMessages_frame hsequence hsplit hpadding']
    refine ih hrest ?_
    rw [Nat.add_assoc, ← List.drop_drop, hsplit]
    refine List.drop_left' ?_
    rw [List.length_append, length_encode_message]

end Datagrams

/-- A datagram of a dump, as the kernel packs it. -/
structure DumpDatagram (sequence : Nat) where
  frames : List Frame
  padded : Padded frames
  length_le : (encodeFrames sequence frames).length ≤ 65536

/-- The bytes `recv` delivers. -/
def DumpDatagram.bytes {sequence : Nat} (datagram : DumpDatagram sequence) : Datagram :=
  ⟨encodeFrames sequence datagram.frames, datagram.length_le⟩

/-- The messages of some datagrams, in order. -/
def bodies {sequence : Nat} (datagrams : List (DumpDatagram sequence)) : List Body :=
  datagrams.flatMap fun datagram => datagram.frames.map (·.message.body)

/-! ## §5 Dumps -/

section Dumps

variable {strerror : Int → Bytes} {sequence : Nat} {protocol : TransportProtocol}

theorem parse_bytes (hsequence : sequence < 2 ^ 32) (datagram : DumpDatagram sequence) :
    parseInetDiagDatagram strerror datagram.bytes sequence protocol =
      .ok (addFrames protocol datagram.frames {}) :=
  parseMessages_encodeFrames hsequence datagram.padded rfl

/-- Records are added to a batch in order. -/
theorem addFrames_sockets {frames : List Frame} {records : List DiagRecord} {batch : InetDiagBatch}
    (h : frames.map (·.message.body) = records.map .socket) :
    addFrames protocol frames batch =
      { batch with sockets := batch.sockets ++ records.map (·.toSocketInfo protocol) } := by
  induction frames generalizing records batch with
  | nil =>
    obtain rfl := List.map_eq_nil_iff.mp h.symm
    simp [addFrames]
  | cons frame frames ih =>
    cases records with
    | nil => cases h
    | cons record records =>
      obtain ⟨hbody, hrest⟩ := List.cons.inj h
      have hadd : frame.message.addTo protocol batch =
          { batch with sockets := batch.sockets ++ [record.toSocketInfo protocol] } := by
        simp only [Message.addTo, hbody]
      change addFrames protocol frames (frame.message.addTo protocol batch) = _
      rw [ih hrest, hadd]
      simp

/-- A datagram that ends a dump closes the batch. -/
theorem addFrames_done {frames : List Frame} {records : List DiagRecord} {payload : Bytes}
    {batch : InetDiagBatch}
    (h : frames.map (·.message.body) = records.map .socket ++ [.done payload]) :
    addFrames protocol frames batch =
      ⟨batch.sockets ++ records.map (·.toSocketInfo protocol), true⟩ := by
  obtain ⟨initial, last, rfl, hinitial, hlast⟩ := List.map_eq_append_iff.mp h
  obtain ⟨frame, rfl, hbody⟩ := List.map_eq_singleton_iff.mp hlast
  have hsplit : addFrames protocol (initial ++ [frame]) batch =
      frame.message.addTo protocol (addFrames protocol initial batch) := by
    simp [addFrames, List.foldl_append]
  rw [hsplit, addFrames_sockets hinitial]
  simp only [Message.addTo, hbody]

/-- Datagrams without the end of the dump are collected, and the loop goes on. -/
theorem drain_sockets (hsequence : sequence < 2 ^ 32) {datagrams : List (DumpDatagram sequence)}
    {records : List DiagRecord} {values : List SocketInfo} {queue : List Received}
    (h : bodies datagrams = records.map .socket) :
    drain strerror sequence protocol (datagrams.map (fun datagram => .ok datagram.bytes) ++ queue)
      values = drain strerror sequence protocol queue
        (values ++ records.map (·.toSocketInfo protocol)) := by
  induction datagrams generalizing records values with
  | nil =>
    obtain rfl := List.map_eq_nil_iff.mp h.symm
    simp
  | cons datagram datagrams ih =>
    -- the records of the first datagram and those of the others
    have happend : datagram.frames.map (·.message.body) ++ bodies datagrams =
        records.map .socket := h
    obtain ⟨first, others, rfl, hfirst, hothers⟩ := List.map_eq_append_iff.mp happend.symm
    have hparsed : parseInetDiagDatagram strerror datagram.bytes sequence protocol =
        .ok (addFrames protocol datagram.frames {}) := parse_bytes hsequence datagram
    rw [addFrames_sockets hfirst.symm] at hparsed
    simp only [List.map_cons, List.cons_append, drain, hparsed]
    rw [if_neg (by simp), ih hothers.symm]
    simp

/-- **A dump is decoded exactly.** Whatever records the kernel reports, with whatever
    attributes and padding, and however it packs the messages into datagrams, the receive
    loop returns the records in order. -/
theorem one_decodes {family : AddressFamily} (hsequence : sequence < 2 ^ 32)
    (initial : List (DumpDatagram sequence)) (final : DumpDatagram sequence)
    (records : List DiagRecord) (payload : Bytes) (hfinal : final.frames ≠ [])
    (hmessages : bodies (initial ++ [final]) = records.map .socket ++ [.done payload])
    (sent : SysCall.Answer (.sendto (dumpRequest family protocol sequence)))
    (hsent : ¬ Unsent (dumpRequest family protocol sequence) sent.val)
    (datagrams : Nat) (henough : initial.length < datagrams) (r : Result (List SocketInfo)) :
    (one strerror datagrams family protocol sequence).Run
      (⟨.sendto (dumpRequest family protocol sequence), sent⟩ ::
        (initial ++ [final]).map fun datagram => received (.ok datagram.bytes)) r ↔
      r = .ok (records.map (·.toSocketInfo protocol)) := by
  -- the last datagram holds the end of the dump, the others only records
  obtain ⟨frames, frame, hframes⟩ := (List.eq_nil_or_concat final.frames).resolve_left hfinal
  have hbodies : bodies (initial ++ [final]) =
      (bodies initial ++ frames.map (·.message.body)) ++ [frame.message.body] := by
    simp [bodies, hframes]
  obtain ⟨hrecords, hdone⟩ := List.append_inj' (hbodies.symm.trans hmessages) rfl
  obtain ⟨before, last, rfl, hbefore, hlast⟩ := List.map_eq_append_iff.mp hrecords.symm
  have hclosed : addFrames protocol final.frames {} =
      ⟨last.map (·.toSocketInfo protocol), true⟩ := by
    have hfinal_bodies : final.frames.map (·.message.body) = last.map .socket ++ [.done payload] := by
      rw [hframes, List.concat_eq_append, List.map_append, hlast, ← hdone]
      rfl
    rw [addFrames_done hfinal_bodies]
    rfl
  have hdrain : drain strerror sequence protocol
      ((initial ++ [final]).map fun datagram => .ok datagram.bytes) [] =
      some (.ok ((before ++ last).map (·.toSocketInfo protocol)), []) := by
    have hparsed : parseInetDiagDatagram strerror final.bytes sequence protocol =
        .ok (addFrames protocol final.frames {}) := parse_bytes hsequence final
    rw [List.map_append, drain_sockets hsequence hbefore.symm]
    simp only [List.map_cons, List.map_nil, drain, hparsed, hclosed]
    simp
  have hmap : (initial ++ [final]).map (fun datagram => received (.ok datagram.bytes)) =
      ((initial ++ [final]).map fun datagram => (.ok datagram.bytes : Received)).map received := by
    rw [List.map_map]
    rfl
  rw [one_run_iff, hmap]
  constructor
  · -- the trace fixes the queue, and the queue the outcome
    rintro ⟨sent', t', heq, h⟩
    obtain ⟨hsent', rfl⟩ := List.cons.inj heq
    cases hsent'
    rcases h with ⟨hunsent, -⟩ | ⟨-, queue, hqueue, -, hresult⟩
    · exact absurd hunsent hsent
    · obtain rfl := List.map_injective_iff.mpr received_injective hqueue
      rw [hdrain] at hresult
      cases hresult
      rfl
  · rintro rfl
    refine ⟨sent, _, rfl, .inr ⟨hsent, _, rfl, ?_, hdrain⟩⟩
    simp only [List.length_map, List.length_append, List.length_singleton]
    omega

end Dumps

/-- A listener on 127.0.0.1:8080, with one byte of attributes. -/
def exampleRecord : DiagRecord where
  family := .ipv4
  state := 10
  timer := 0
  retrans := 0
  localPort := 8080
  remotePort := 0
  localAddress := ⟨[127, 0, 0, 1], rfl⟩
  remoteAddress := ⟨[0, 0, 0, 0], rfl⟩
  unread := ⟨List.replicate 24 0, rfl⟩
  uid := 1000
  inode := 42
  attributes := [7]

def exampleMessage (body : Body) : Message := ⟨0, 0, body, fun _ _ => rfl⟩

/-- Two records in one datagram; the second is not padded. -/
def exampleInitial : DumpDatagram 1 where
  frames := [⟨exampleMessage (.socket exampleRecord), [0, 0, 0]⟩,
    ⟨exampleMessage (.socket exampleRecord), []⟩]
  padded := ⟨.inl rfl, .inr ⟨rfl, rfl⟩, trivial⟩
  length_le := by
    simp [encodeFrames, length_encode_message, Message.length, exampleMessage, Body.payload,
      length_encode_record, exampleRecord, headerSize, diagSize]

/-- The end of the dump in a datagram of its own. -/
def exampleFinal : DumpDatagram 1 where
  frames := [⟨exampleMessage (.done [0, 0, 0, 0]), []⟩]
  padded := ⟨.inl rfl, trivial⟩
  length_le := by
    simp [encodeFrames, length_encode_message, Message.length, exampleMessage, Body.payload, headerSize]

theorem one_decodes_example :
    (one (fun _ => []) 2 .ipv4 .tcp 1).Run
      (⟨.sendto (dumpRequest .ipv4 .tcp 1), ⟨⟨72, 0⟩, by decide⟩⟩ ::
        [exampleInitial, exampleFinal].map fun datagram => received (.ok datagram.bytes))
      (.ok ([exampleRecord, exampleRecord].map (·.toSocketInfo .tcp))) :=
  (one_decodes (by decide) [exampleInitial] exampleFinal [exampleRecord, exampleRecord] [0, 0, 0, 0]
    (by simp [exampleFinal]) rfl _ (by decide) 2 (by decide) _).mpr rfl

example : exampleRecord.toSocketInfo .tcp =
    { localEnd := ⟨"127.0.0.1", 8080⟩, state := "listen", uid := 1000, inode := 42 } := by
  decide

end Lx.Netlink
