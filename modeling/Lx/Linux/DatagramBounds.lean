import Lx.Lib.Loops
import Lx.Linux.InetDiagCodec

/-!
# The netlink parser in memory

`parseInetDiagDatagram` as it works on the vector it is given: positions in `size_t`,
lengths in 32 bits, both of which wrap around, and headers and records copied out with
`memcpy`. Lengths come from the datagram, so whoever sends it chooses them.

## Layers

- `iteration`: one round of the loop as a program that reads a buffer (§1).
- What a round reads and what it computes from it: `stepAt` is the same round without
  memory, and `parseMessages` repeats it (§2).
- Every read stays inside, every round that goes on moves on (§3), and what is accepted is
  covered by messages (§4).
-/

namespace Lx.Netlink

open Interaction

/-! ## §1 The loop -/

/-- The variables of the loop. -/
structure ParseState where
  offset : Nat := 0
  batch : InetDiagBatch := {}
  deriving DecidableEq, Repr

section Machine

variable (strerror : Int → Bytes) (sequence : Nat) (protocol : TransportProtocol)

/-- The branches for the types of messages. `payload` is the position of the payload. -/
def readMessage (header : Header) (payload payloadSize : Nat) (batch : InetDiagBatch) :
    Prog (Buffer UInt8) (Result InetDiagBatch) :=
  if header.type = nlmsgDone then
    if header.flags &&& dumpInterrupted ≠ 0 then return parseError "Netlink dump was interrupted"
    else return .ok { batch with done := true }
  else if header.type = nlmsgError then
    if payloadSize < errorSize then return parseError "Truncated Netlink error"
    else do
      let e ← memcpy payload errorSize
      let error := toInt32 (Bytes.field e 0 4)
      if error ≠ 0 then
        return .error ⟨.protocolError, strerror (-error), -error, "inet-diag-codec",
          "kernel response"⟩
      else return .ok batch
  else if header.type = nlmsgOverrun then return parseError "Netlink response overrun"
  else if payloadSize < diagSize then return parseError "Truncated INET_DIAG message"
  else do
    let m ← memcpy payload diagSize
    let family := Bytes.toNatLE (Bytes.field m 0 1)
    if family = afInet then
      return .ok { batch with sockets := batch.sockets ++ [socketOf protocol .ipv4 m] }
    else if family = afInet6 then
      return .ok { batch with sockets := batch.sockets ++ [socketOf protocol .ipv6 m] }
    else return parseError "Unsupported INET_DIAG address family"

/-- The test and the body of `while(offset<data.size())`, for a vector of `size` bytes. -/
def iteration (size : Nat) (state : ParseState) :
    Prog (Buffer UInt8) (Result InetDiagBatch ⊕ ParseState) :=
  if state.offset < size then
    -- `data.size()-offset`, which would wrap around behind the end
    let left := wrapSub 64 size state.offset
    if left < headerSize then return .inl (parseError "Truncated Netlink header")
    else do
      let h ← memcpy state.offset headerSize
      let header := readHeader h
      if header.length < headerSize ∨ left < header.length then
        return .inl (parseError "Invalid Netlink message length")
      else if header.sequence ≠ sequence then
        return .inl (parseError "Unexpected Netlink sequence")
      else do
        match ← readMessage strerror protocol header (state.offset + headerSize)
            (wrapSub 32 header.length headerSize) state.batch with
        | .error error => return .inl (.error error)
        | .ok batch =>
          let aligned := nlmsgAlign header.length
          if left < aligned then
            if header.length ≠ left then
              return .inl (parseError "Truncated aligned Netlink message")
            else return .inr ⟨size, batch⟩
          else return .inr ⟨wrapAdd 64 state.offset aligned, batch⟩
  else return .inl (.ok state.batch)

/-! ## §2 What a round reads and computes -/

/-- The end of a round: the message and its padding are passed over. -/
def passOver (data : Datagram) (offset length : Nat) (batch : InetDiagBatch) :
    Result InetDiagBatch ⊕ ParseState :=
  if data.val.length - offset < nlmsgAlign length then
    if length ≠ data.val.length - offset then
      .inl (parseError "Truncated aligned Netlink message")
    else .inr ⟨data.val.length, batch⟩
  else .inr ⟨offset + nlmsgAlign length, batch⟩

/-- One round of `parseMessages`. -/
def stepAt (data : Datagram) (state : ParseState) : Result InetDiagBatch ⊕ ParseState :=
  if state.offset < data.val.length then
    if data.val.length - state.offset < headerSize then
      .inl (parseError "Truncated Netlink header")
    else
      let header := readHeader (data.val.drop state.offset)
      if header.length < headerSize ∨ data.val.length - state.offset < header.length then
        .inl (parseError "Invalid Netlink message length")
      else if header.sequence ≠ sequence then .inl (parseError "Unexpected Netlink sequence")
      else
        let payload := Bytes.field data.val (state.offset + headerSize) (header.length - headerSize)
        match parseMessage strerror protocol header payload state.batch with
        | .error error => .inl (.error error)
        | .ok batch => passOver data state.offset header.length batch
  else .inl (.ok state.batch)

end Machine

/-- What is copied out of the payload of a message. -/
def payloadCopies (header : Header) (payload payloadSize : Nat) : List Copy :=
  if header.type = nlmsgDone then []
  else if header.type = nlmsgError then
    if payloadSize < errorSize then [] else [⟨payload, errorSize⟩]
  else if header.type = nlmsgOverrun then []
  else if payloadSize < diagSize then [] else [⟨payload, diagSize⟩]

/-- What a round copies: a header, and something of the payload if the header is accepted. -/
def copiesAt (data : Datagram) (sequence : Nat) (state : ParseState) : List Copy :=
  if state.offset < data.val.length ∧ headerSize ≤ data.val.length - state.offset then
    let header := readHeader (data.val.drop state.offset)
    ⟨state.offset, headerSize⟩ ::
      if header.length < headerSize ∨ data.val.length - state.offset < header.length ∨
        header.sequence ≠ sequence then []
      else payloadCopies header (state.offset + headerSize) (header.length - headerSize)
  else []

section Round

variable {strerror : Int → Bytes} {sequence : Nat} {protocol : TransportProtocol}

/-- A copy that holds the header has all that is read of it. -/
theorem readHeader_take {width : Nat} (h : headerSize ≤ width) (bytes : Bytes) :
    readHeader (bytes.take width) = readHeader bytes := by
  have hheader : headerSize = 16 := rfl
  simp (disch := omega) only [readHeader, Bytes.field_take]

theorem remoteOf_take (family : AddressFamily) (payload : Bytes) :
    remoteOf family (payload.take diagSize) = remoteOf family payload := by
  have hport : Bytes.field (payload.take diagSize) 6 2 = Bytes.field payload 6 2 :=
    Bytes.field_take (by decide)
  have haddress : Bytes.field (payload.take diagSize) 24 16 = Bytes.field payload 24 16 :=
    Bytes.field_take (by decide)
  unfold remoteOf
  rw [hport, haddress]

theorem socketOf_take (family : AddressFamily) (payload : Bytes) :
    socketOf protocol family (payload.take diagSize) = socketOf protocol family payload := by
  unfold socketOf
  rw [remoteOf_take, Bytes.field_take (by decide), Bytes.field_take (by decide),
    Bytes.field_take (by decide), Bytes.field_take (by decide), Bytes.field_take (by decide)]

/-- **A message is read inside its payload**, and what is read is what `parseMessage` sees. -/
theorem readMessage_copies {data : Bytes} {header : Header} {payload payloadSize : Nat}
    (hinside : payload + payloadSize ≤ data.length) (batch : InetDiagBatch) :
    Copies data (readMessage strerror protocol header payload payloadSize batch)
      (payloadCopies header payload payloadSize)
      (parseMessage strerror protocol header (Bytes.field data payload payloadSize) batch) := by
  have hlength : (Bytes.field data payload payloadSize).length = payloadSize := by
    rw [Bytes.field, List.length_take, List.length_drop]
    omega
  -- a shorter copy is the beginning of the payload
  have htake : ∀ width, width ≤ payloadSize → (data.drop payload).take width =
      (Bytes.field data payload payloadSize).take width := by
    intro width hwidth
    rw [Bytes.field, List.take_take, Nat.min_eq_left hwidth]
  unfold readMessage payloadCopies parseMessage
  by_cases hdone : header.type = nlmsgDone
  · simp only [if_pos hdone]
    split <;> exact copies_ret
  simp only [if_neg hdone]
  by_cases herror : header.type = nlmsgError
  · simp only [if_pos herror, parseKernelError, hlength]
    by_cases hshort : payloadSize < errorSize
    · simp only [if_pos hshort]
      exact copies_ret
    · have hwidth : errorSize ≤ payloadSize := Nat.not_lt.mp hshort
      simp only [if_neg hshort]
      refine copies_memcpy_bind (by omega) ?_
      rw [htake _ hwidth, Bytes.field_take (by decide)]
      split <;> exact copies_ret
  simp only [if_neg herror]
  by_cases hoverrun : header.type = nlmsgOverrun
  · simp only [if_pos hoverrun]
    exact copies_ret
  simp only [if_neg hoverrun, parseSocket, hlength]
  by_cases hshort : payloadSize < diagSize
  · simp only [if_pos hshort]
    exact copies_ret
  · have hwidth : diagSize ≤ payloadSize := Nat.not_lt.mp hshort
    simp only [if_neg hshort]
    refine copies_memcpy_bind (by omega) ?_
    rw [htake _ hwidth, Bytes.field_take (by decide)]
    simp only [socketOf_take]
    split
    · exact copies_ret
    · split <;> exact copies_ret

/-- Nothing is read while a message is passed over, and the position does not wrap around. -/
theorem passOver_copies {data : Datagram} {offset length : Nat}
    (hoffset : offset ≤ data.val.length) (batch : InetDiagBatch) :
    Copies data.val
      (if data.val.length - offset < nlmsgAlign length then
        if length ≠ data.val.length - offset then
          return .inl (parseError "Truncated aligned Netlink message")
        else return .inr ⟨data.val.length, batch⟩
      else return .inr ⟨wrapAdd 64 offset (nlmsgAlign length), batch⟩)
      [] (passOver data offset length batch) := by
  have hsize := data.property
  unfold passOver
  by_cases haligned : data.val.length - offset < nlmsgAlign length
  · simp only [if_pos haligned]
    split <;> exact copies_ret
  · have hnext : wrapAdd 64 offset (nlmsgAlign length) = offset + nlmsgAlign length :=
      wrapAdd_of_lt (by omega)
    simp only [if_neg haligned, hnext]
    exact copies_ret

/-- **What a round reads and computes.** None of the numbers on the way wraps around. -/
theorem iteration_copies {data : Datagram} {state : ParseState}
    (hstate : state.offset ≤ data.val.length) :
    Copies data.val (iteration strerror sequence protocol data.val.length state)
      (copiesAt data sequence state) (stepAt strerror sequence protocol data state) := by
  have hsize := data.property
  have hleft : wrapSub 64 data.val.length state.offset = data.val.length - state.offset :=
    wrapSub_of_le hstate (by omega)
  unfold iteration copiesAt stepAt
  by_cases hmore : state.offset < data.val.length
  · simp only [if_pos hmore, hleft]
    by_cases hshort : data.val.length - state.offset < headerSize
    · rw [if_pos hshort, if_pos hshort, if_neg fun h => Nat.not_le.mpr hshort h.2]
      exact copies_ret
    · have hheader : headerSize ≤ data.val.length - state.offset := Nat.not_lt.mp hshort
      rw [if_neg hshort, if_neg hshort, if_pos ⟨hmore, hheader⟩]
      refine copies_memcpy_bind (by omega) ?_
      rw [readHeader_take (Nat.le_refl _)]
      generalize readHeader (data.val.drop state.offset) = header
      by_cases hlength : header.length < headerSize ∨ data.val.length - state.offset < header.length
      · rw [if_pos hlength, if_pos hlength, if_pos (hlength.imp_right Or.inl)]
        exact copies_ret
      · by_cases hsequence : header.sequence ≠ sequence
        · rw [if_neg hlength, if_neg hlength, if_pos hsequence, if_pos hsequence,
            if_pos (Or.inr (Or.inr hsequence))]
          exact copies_ret
        · -- the header is accepted, so its length is that of a part of the vector
          obtain ⟨hlow, hhigh⟩ := not_or.mp hlength
          have hpayload : wrapSub 32 header.length headerSize = header.length - headerSize :=
            wrapSub_of_le (Nat.not_lt.mp hlow) (by omega)
          have hend : state.offset + headerSize + (header.length - headerSize) ≤
              data.val.length := by
            omega
          rw [if_neg hlength, if_neg hlength, if_neg hsequence, if_neg hsequence, hpayload,
            if_neg (not_or.mpr ⟨hlow, not_or.mpr ⟨hhigh, hsequence⟩⟩)]
          refine (readMessage_copies hend state.batch).bind_nil ?_
          cases parseMessage strerror protocol header
              (Bytes.field data.val (state.offset + headerSize) (header.length - headerSize))
              state.batch with
          | error error => exact copies_ret
          | ok batch => exact passOver_copies hstate batch
  · rw [if_neg hmore, if_neg hmore, if_neg fun h => hmore h.1]
    exact copies_ret

/-- `parseMessages` repeats the round. -/
theorem parseMessages_eq (data : Datagram) (state : ParseState) :
    parseMessages strerror sequence protocol data state.offset state.batch =
      match stepAt strerror sequence protocol data state with
      | .inl result => result
      | .inr next => parseMessages strerror sequence protocol data next.offset next.batch := by
  rw [parseMessages, stepAt]
  by_cases hmore : state.offset < data.val.length
  · rw [dif_pos hmore, if_pos hmore]
    by_cases hshort : data.val.length - state.offset < headerSize
    · rw [if_pos hshort, if_pos hshort]
    · rw [if_neg hshort, if_neg hshort]
      dsimp only
      by_cases hlength : (readHeader (data.val.drop state.offset)).length < headerSize ∨
          data.val.length - state.offset < (readHeader (data.val.drop state.offset)).length
      · rw [dif_pos hlength, if_pos hlength]
      · rw [dif_neg hlength, if_neg hlength]
        by_cases hsequence : (readHeader (data.val.drop state.offset)).sequence ≠ sequence
        · rw [if_pos hsequence, if_pos hsequence]
        · rw [if_neg hsequence, if_neg hsequence]
          cases parseMessage strerror protocol (readHeader (data.val.drop state.offset))
              (Bytes.field data.val (state.offset + headerSize)
                ((readHeader (data.val.drop state.offset)).length - headerSize)) state.batch with
          | error error => rfl
          | ok batch =>
            dsimp only [passOver]
            split_ifs <;> rfl
  · rw [dif_neg hmore, if_neg hmore]

/-! ## §3 Staying inside and moving on -/

/-- Where the message at `offset` ends, by its own length field. Its header belongs to it
    whatever that field says. -/
def messageEnd (data : Datagram) (offset : Nat) : Nat :=
  offset + max headerSize (readHeader (data.val.drop offset)).length

/-- The next multiple of four, without wrapping. -/
def roundUp (length : Nat) : Nat := (length + 3) / 4 * 4

/-- `NLMSG_ALIGN` does not wrap for the lengths that fit into a datagram. -/
theorem nlmsgAlign_eq_roundUp {length : Nat} (h : length ≤ 65536) :
    nlmsgAlign length = roundUp length := by
  rw [nlmsgAlign, roundUp, Nat.mod_eq_of_lt (by omega)]

theorem within_of_mem_payloadCopies {header : Header} {payload payloadSize : Nat} {copy : Copy}
    (h : copy ∈ payloadCopies header payload payloadSize) :
    copy.Within payload (payload + payloadSize) := by
  unfold payloadCopies at h
  split_ifs at h
  · cases h
  · cases h
  · obtain rfl := List.mem_singleton.mp h
    exact ⟨Nat.le_refl _, by dsimp only; omega⟩
  · cases h
  · cases h
  · obtain rfl := List.mem_singleton.mp h
    exact ⟨Nat.le_refl _, by dsimp only; omega⟩

/-- **Every copy lies inside the vector and inside its own message.** -/
theorem within_of_mem_copiesAt {data : Datagram} {state : ParseState} {copy : Copy}
    (h : copy ∈ copiesAt data sequence state) :
    copy.Within 0 data.val.length ∧ copy.Within state.offset (messageEnd data state.offset) := by
  unfold copiesAt at h
  split at h
  · rename_i hheader
    obtain ⟨hmore, hheader⟩ := hheader
    unfold messageEnd
    rcases List.mem_cons.mp h with rfl | hpayload
    · exact ⟨⟨Nat.zero_le _, by dsimp only; omega⟩, Nat.le_refl _, by dsimp only; omega⟩
    · split at hpayload
      · cases hpayload
      · -- behind an accepted header the payload lies before the end of the message
        rename_i haccepted
        obtain ⟨hlow, haccepted⟩ := not_or.mp haccepted
        obtain ⟨hhigh, -⟩ := not_or.mp haccepted
        obtain ⟨hfirst, hlast⟩ := within_of_mem_payloadCopies hpayload
        exact ⟨⟨Nat.zero_le _, by omega⟩, by omega, by omega⟩
  · cases h

theorem passOver_advances {data : Datagram} {offset length : Nat} {batch : InetDiagBatch}
    {next : ParseState} (hlength : length ≤ data.val.length - offset)
    (h : passOver data offset length batch = .inr next) (hoffset : offset ≤ data.val.length) :
    offset + length ≤ next.offset ∧ next.offset ≤ data.val.length := by
  have hsize := data.property
  have haligned : length ≤ nlmsgAlign length := le_nlmsgAlign (by omega)
  unfold passOver at h
  split_ifs at h with hpadding hlast
  · -- the last message lacks its padding
    obtain rfl := Sum.inr.inj h
    exact ⟨by dsimp only; omega, Nat.le_refl _⟩
  · obtain rfl := Sum.inr.inj h
    exact ⟨by dsimp only; omega, by dsimp only; omega⟩

/-- A round that goes on has accepted a header and passes over its message. -/
theorem stepAt_inr {data : Datagram} {state next : ParseState}
    (h : stepAt strerror sequence protocol data state = .inr next) :
    state.offset < data.val.length ∧
      headerSize ≤ (readHeader (data.val.drop state.offset)).length ∧
      (readHeader (data.val.drop state.offset)).length ≤ data.val.length - state.offset ∧
      ∃ batch, passOver data state.offset (readHeader (data.val.drop state.offset)).length batch =
        .inr next := by
  unfold stepAt at h
  dsimp only at h
  split_ifs at h with hmore hshort hlength hsequence
  obtain ⟨hlow, hhigh⟩ := not_or.mp hlength
  refine ⟨hmore, Nat.not_lt.mp hlow, Nat.not_lt.mp hhigh, ?_⟩
  cases hparsed : parseMessage strerror protocol (readHeader (data.val.drop state.offset))
      (Bytes.field data.val (state.offset + headerSize)
        ((readHeader (data.val.drop state.offset)).length - headerSize)) state.batch with
  | error error =>
    rw [hparsed] at h
    cases h
  | ok batch =>
    rw [hparsed] at h
    exact ⟨batch, h⟩

/-- A round that succeeds has nothing left to read. -/
theorem stepAt_inl_ok {data : Datagram} {state : ParseState} {batch : InetDiagBatch}
    (h : stepAt strerror sequence protocol data state = .inl (.ok batch)) :
    data.val.length ≤ state.offset := by
  unfold stepAt at h
  dsimp only at h
  split_ifs at h with hmore hshort hlength hsequence
  · cases h
  · cases h
  · cases h
  · cases hparsed : parseMessage strerror protocol (readHeader (data.val.drop state.offset))
        (Bytes.field data.val (state.offset + headerSize)
          ((readHeader (data.val.drop state.offset)).length - headerSize)) state.batch with
    | error error =>
      rw [hparsed] at h
      cases h
    | ok batch' =>
      rw [hparsed] at h
      dsimp only [passOver] at h
      split_ifs at h
      cases h
  · exact Nat.not_lt.mp hmore

/-- **A round that goes on moves on**, by a header at least and not past the end. -/
theorem stepAt_advances {data : Datagram} {state next : ParseState}
    (h : stepAt strerror sequence protocol data state = .inr next) :
    state.offset + headerSize ≤ next.offset ∧ next.offset ≤ data.val.length := by
  obtain ⟨hmore, hlow, hhigh, batch, hpass⟩ := stepAt_inr h
  obtain ⟨hpast, hend⟩ := passOver_advances hhigh hpass (Nat.le_of_lt hmore)
  exact ⟨by omega, hend⟩

/-! ## §4 What is accepted -/

/-- A message with its padding, or a message without any. -/
def IsMessage (padded : Bool) (piece : Bytes) : Prop :=
  headerSize ≤ (readHeader piece).length ∧
    piece.length = if padded then roundUp (readHeader piece).length else (readHeader piece).length

/-- Padded messages one after the other, and at most one without padding behind them. -/
def Covered (bytes : Bytes) : Prop :=
  ∃ (pieces : List Bytes) (last : Bytes), bytes = pieces.flatten ++ last ∧
    (∀ piece ∈ pieces, IsMessage true piece) ∧ (last = [] ∨ IsMessage false last)

/-- A message at an accepted length, with or without its padding, in front of what is covered. -/
theorem covered_of_passOver {data : Datagram} {offset : Nat} {batch : InetDiagBatch}
    {next : ParseState} (hoffset : offset ≤ data.val.length)
    (hlow : headerSize ≤ (readHeader (data.val.drop offset)).length)
    (hhigh : (readHeader (data.val.drop offset)).length ≤ data.val.length - offset)
    (h : passOver data offset (readHeader (data.val.drop offset)).length batch = .inr next)
    (hrest : Covered (data.val.drop next.offset)) : Covered (data.val.drop offset) := by
  have hsize := data.property
  have hfits : (readHeader (data.val.drop offset)).length ≤ 65536 := by omega
  have halign := nlmsgAlign_eq_roundUp hfits
  have hround := le_nlmsgAlign hfits
  unfold passOver at h
  split_ifs at h with hpadding hlast
  · -- all that is left is one message
    refine ⟨[], data.val.drop offset, rfl, fun _ hpiece => absurd hpiece List.not_mem_nil, .inr ?_⟩
    exact ⟨hlow, by rw [List.length_drop, if_neg Bool.false_ne_true, not_not.mp hlast]⟩
  · obtain rfl := Sum.inr.inj h
    obtain ⟨pieces, last, hbytes, hpieces, hlast⟩ := hrest
    refine ⟨(data.val.drop offset).take (nlmsgAlign (readHeader (data.val.drop offset)).length) ::
      pieces, last, ?_, List.forall_mem_cons.mpr ⟨?_, hpieces⟩, hlast⟩
    · dsimp only at hbytes
      rw [List.flatten_cons, List.append_assoc, ← hbytes, ← List.drop_drop, List.take_append_drop]
    · unfold IsMessage
      rw [readHeader_take (by omega), List.length_take, List.length_drop, if_pos rfl, ← halign]
      exact ⟨hlow, Nat.min_eq_left (Nat.not_lt.mp hpadding)⟩

/-- **Success means that messages cover the vector.** -/
theorem covered_of_parseMessages {data : Datagram} {state : ParseState} {batch : InetDiagBatch}
    (hstate : state.offset ≤ data.val.length)
    (h : parseMessages strerror sequence protocol data state.offset state.batch = .ok batch) :
    Covered (data.val.drop state.offset) := by
  -- along the loop, whose measure is the number of bytes that are left
  induction hleft : data.val.length - state.offset using Nat.strongRecOn generalizing state with
  | ind left ih =>
    rw [parseMessages_eq] at h
    cases hstep : stepAt strerror sequence protocol data state with
    | inl result =>
      rw [hstep] at h
      dsimp only at h
      subst h
      rw [List.drop_eq_nil_of_le (stepAt_inl_ok hstep)]
      exact ⟨[], [], rfl, fun _ hpiece => absurd hpiece List.not_mem_nil, .inl rfl⟩
    | inr next =>
      rw [hstep] at h
      have hheader : headerSize = 16 := rfl
      obtain ⟨hpast, hend⟩ := stepAt_advances hstep
      obtain ⟨-, hlow, hhigh, batch', hpass⟩ := stepAt_inr hstep
      exact covered_of_passOver hstate hlow hhigh hpass
        (ih (data.val.length - next.offset) (by omega) hend h rfl)

/-! ## §5 The whole loop -/

/-- The offset never leaves the vector. -/
theorem reached_offset_le {data : Datagram} {state : ParseState}
    (h : Reached (iteration strerror sequence protocol data.val.length) (Faithful data.val) {} state) :
    state.offset ≤ data.val.length := by
  refine h.invariant (fun state => state.offset ≤ data.val.length) (Nat.zero_le _)
    fun before next t hbefore hrun hfaithful => ?_
  obtain ⟨-, hstep⟩ := (iteration_copies hbefore t _).mp ⟨hrun, hfaithful⟩
  exact (stepAt_advances hstep.symm).2

/-- Whatever number of rounds is allowed, the loop returns what `parseInetDiagDatagram` does. -/
theorem loop_iteration_eq {data : Datagram} {rounds : Nat} {t : Trace (Buffer UInt8)}
    {result : Result InetDiagBatch}
    (h : (loop (iteration strerror sequence protocol data.val.length) rounds {}).Run t result)
    (hfaithful : ∀ e ∈ t, Faithful data.val e) :
    result = parseInetDiagDatagram strerror data sequence protocol := by
  -- the value of a state is what is parsed from there on
  refine loop_run_eq (fun state => state.offset ≤ data.val.length)
    (fun state => parseMessages strerror sequence protocol data state.offset state.batch)
    ?_ (Nat.zero_le _) h hfaithful
  intro state t out hstate hrun hanswered
  obtain ⟨-, rfl⟩ := (iteration_copies hstate t out).mp ⟨hrun, hanswered⟩
  rw [parseMessages_eq data state]
  constructor
  · intro result hresult
    rw [hresult]
  · intro next hnext
    rw [hnext]
    exact ⟨(stepAt_advances hnext).2, rfl⟩

/-- One round for every sixteen bytes, and one more, are enough. -/
theorem exists_loop_iteration (data : Datagram) {rounds : Nat} (h : data.val.length / 16 < rounds) :
    ∃ t, (loop (iteration strerror sequence protocol data.val.length) rounds {}).Run t
        (parseInetDiagDatagram strerror data sequence protocol) ∧ ∀ e ∈ t, Faithful data.val e := by
  have hheader : headerSize = 16 := rfl
  -- a round can always be run, and those that go on take sixteen bytes off
  have hround : ∀ state : ParseState, state.offset ≤ data.val.length →
      ∃ t out, (iteration strerror sequence protocol data.val.length state).Run t out ∧
        (∀ e ∈ t, Faithful data.val e) ∧ ∀ next, out = .inr next →
          next.offset ≤ data.val.length ∧
            (data.val.length - next.offset) / 16 < (data.val.length - state.offset) / 16 := by
    intro state hstate
    obtain ⟨hrun, hanswered⟩ := (iteration_copies hstate _ _).mpr ⟨rfl, rfl⟩
    refine ⟨_, _, hrun, hanswered, fun next hnext => ?_⟩
    obtain ⟨hpast, hend⟩ := stepAt_advances hnext
    exact ⟨hend, by omega⟩
  have hstart : ({} : ParseState).offset ≤ data.val.length := Nat.zero_le _
  obtain ⟨t, result, hrun, hfaithful⟩ := exists_loop_run
    (fun state : ParseState => state.offset ≤ data.val.length)
    (fun state => (data.val.length - state.offset) / 16) hround hstart h
  rw [loop_iteration_eq hrun hfaithful] at hrun
  exact ⟨t, hrun, hfaithful⟩

end Round

/-- **The parser is safe on every datagram.** In every round every copy lies inside the vector
    and inside its own message, a round that does not return moves on by sixteen bytes at
    least and not past the end, and `NLMSG_ALIGN` of an accepted length does not wrap. The
    loop ends, and it ends with success only if messages and their padding cover the vector. -/
theorem parser_safe (strerror : Int → Bytes) (data : Datagram) (sequence : Nat)
    (protocol : TransportProtocol) :
    (∀ state, Reached (iteration strerror sequence protocol data.val.length) (Faithful data.val) {}
        state →
      ∀ t out, (iteration strerror sequence protocol data.val.length state).Run t out →
        (∀ e ∈ t, Faithful data.val e) →
        (∀ e ∈ t, e.1.Within 0 data.val.length ∧
          e.1.Within state.offset (messageEnd data state.offset)) ∧
        (∀ next, out = .inr next →
          state.offset + 16 ≤ next.offset ∧ next.offset ≤ data.val.length) ∧
        ((readHeader (data.val.drop state.offset)).length ≤ data.val.length - state.offset →
          nlmsgAlign (readHeader (data.val.drop state.offset)).length =
            roundUp (readHeader (data.val.drop state.offset)).length)) ∧
    (∀ rounds, data.val.length / 16 < rounds → ∃ t,
      (loop (iteration strerror sequence protocol data.val.length) rounds {}).Run t
        (parseInetDiagDatagram strerror data sequence protocol) ∧ ∀ e ∈ t, Faithful data.val e) ∧
    ∀ rounds t result,
      (loop (iteration strerror sequence protocol data.val.length) rounds {}).Run t result →
      (∀ e ∈ t, Faithful data.val e) →
      result = parseInetDiagDatagram strerror data sequence protocol ∧
        ∀ batch, result = .ok batch → Covered data.val := by
  refine ⟨?_, fun rounds hrounds => exists_loop_iteration data hrounds, ?_⟩
  · intro state hreached t out hrun hfaithful
    have hstate := reached_offset_le hreached
    obtain ⟨rfl, rfl⟩ := (iteration_copies hstate t out).mp ⟨hrun, hfaithful⟩
    refine ⟨?_, fun next hnext => stepAt_advances hnext, ?_⟩
    · intro e he
      obtain ⟨copy, hcopy, rfl⟩ := List.mem_map.mp he
      exact within_of_mem_copiesAt hcopy
    · intro hlength
      have hsize := data.property
      exact nlmsgAlign_eq_roundUp (by omega)
  · intro rounds t result hrun hfaithful
    have hresult := loop_iteration_eq hrun hfaithful
    refine ⟨hresult, fun batch hok => ?_⟩
    rw [hok] at hresult
    have hstart : ({} : ParseState).offset ≤ data.val.length := Nat.zero_le _
    exact covered_of_parseMessages hstart hresult.symm

/-- The end of a dump is read in two rounds, and is covered by its one message. -/
theorem parser_safe_done :
    (∃ t, (loop (iteration (fun _ => []) 1 .tcp 20) 2 {}).Run t
      (parseInetDiagDatagram (fun _ => []) (doneDatagram 1) 1 .tcp)) ∧
    Covered (doneDatagram 1).val := by
  obtain ⟨-, hends, hcovers⟩ := parser_safe (fun _ => []) (doneDatagram 1) 1 .tcp
  obtain ⟨t, hrun, hfaithful⟩ := hends 2 (by decide)
  exact ⟨⟨t, hrun⟩, (hcovers 2 t _ hrun hfaithful).2 _ (parse_doneDatagram (by decide))⟩

end Lx.Netlink
