import Lx.Linux.InetDiagDump

/-!
# Interrupted dumps

The kernel sets `NLM_F_DUMP_INTR` on a message of a dump when the table changed since the
dump began; the message may be any of the answer. `parseInetDiagDatagram` looks at the
flag on `NLMSG_DONE` only.

## Layers

- The messages of a datagram, found by their length fields, and which of them a parser
  that does not look at flags would accept (§1).
- A datagram is accepted exactly when it is well formed and its `NLMSG_DONE`, if there is
  one, lacks the flag (§2).
- Runs of `one`: when a flag on some message keeps the dump from being accepted (§3).
-/

namespace Lx.Netlink

open Interaction

/-! ## §1 Messages of a datagram -/

/-- A message as it lies in a datagram. -/
structure RawMessage where
  header : Header
  payload : Bytes
  deriving DecidableEq, Repr

/-- The messages from `offset` on, and whether they fill the datagram to its end. -/
def messagesFrom (data : Datagram) (offset : Nat) : List RawMessage × Bool :=
  if _hmore : offset < data.val.length then
    if data.val.length - offset < headerSize then ([], false)
    else
      let header := readHeader (data.val.drop offset)
      if _hlength : header.length < headerSize ∨ data.val.length - offset < header.length then
        ([], false)
      else
        let message : RawMessage :=
          ⟨header, Bytes.field data.val (offset + headerSize) (header.length - headerSize)⟩
        let aligned := nlmsgAlign header.length
        -- the last message of a datagram may lack its padding, or some of it
        if data.val.length - offset < aligned then
          ([message], decide (header.length = data.val.length - offset))
        else
          let rest := messagesFrom data (offset + aligned)
          (message :: rest.1, rest.2)
  else ([], true)
termination_by data.val.length - offset
decreasing_by
  have := data.property
  have haligned : header.length ≤ nlmsgAlign header.length := le_nlmsgAlign (by omega)
  have hheader : headerSize = 16 := rfl
  change data.val.length - (offset + nlmsgAlign header.length) < data.val.length - offset
  omega

/-- The message at an offset. -/
def messageAt (data : Datagram) (offset : Nat) : RawMessage :=
  ⟨readHeader (data.val.drop offset), Bytes.field data.val (offset + headerSize)
    ((readHeader (data.val.drop offset)).length - headerSize)⟩

/-- A header whose length fits is followed by the messages behind it. -/
theorem messagesFrom_eq {data : Datagram} {offset : Nat} (hmore : offset < data.val.length)
    (hwhole : ¬ data.val.length - offset < headerSize)
    (hlength : ¬ ((readHeader (data.val.drop offset)).length < headerSize ∨
      data.val.length - offset < (readHeader (data.val.drop offset)).length)) :
    messagesFrom data offset =
      if data.val.length - offset < nlmsgAlign (readHeader (data.val.drop offset)).length then
        ([messageAt data offset],
          decide ((readHeader (data.val.drop offset)).length = data.val.length - offset))
      else
        (messageAt data offset ::
            (messagesFrom data (offset + nlmsgAlign (readHeader (data.val.drop offset)).length)).1,
          (messagesFrom data (offset + nlmsgAlign (readHeader (data.val.drop offset)).length)).2) := by
  rw [messagesFrom, dif_pos hmore, if_neg hwhole, dif_neg hlength]
  rfl

theorem messageAt_mem {data : Datagram} {offset : Nat} (hmore : offset < data.val.length)
    (hwhole : ¬ data.val.length - offset < headerSize)
    (hlength : ¬ ((readHeader (data.val.drop offset)).length < headerSize ∨
      data.val.length - offset < (readHeader (data.val.drop offset)).length)) :
    messageAt data offset ∈ (messagesFrom data offset).1 := by
  rw [messagesFrom_eq hmore hwhole hlength]
  split <;> exact List.mem_cons_self

/-- The messages of a datagram. -/
def messages (data : Datagram) : List RawMessage := (messagesFrom data 0).1

/-- The message ends the dump. -/
def RawMessage.IsDone (message : RawMessage) : Prop := message.header.type = nlmsgDone

instance (message : RawMessage) : Decidable message.IsDone := inferInstanceAs (Decidable (_ = _))

/-- The table changed while it was dumped. -/
def RawMessage.Interrupted (message : RawMessage) : Prop :=
  message.header.flags &&& dumpInterrupted ≠ 0

instance (message : RawMessage) : Decidable message.Interrupted :=
  inferInstanceAs (Decidable (_ ≠ _))

/-- The message belongs to the dump and is the end of it, an acknowledgement, or a whole
    record of a known family. Its flags do not matter. -/
def RawMessage.Sound (sequence : Nat) (message : RawMessage) : Prop :=
  message.header.sequence = sequence ∧
    if message.header.type = nlmsgDone then True
    else if message.header.type = nlmsgError then
      errorSize ≤ message.payload.length ∧ toInt32 (Bytes.field message.payload 0 4) = 0
    else message.header.type ≠ nlmsgOverrun ∧ diagSize ≤ message.payload.length ∧
      (Bytes.toNatLE (Bytes.field message.payload 0 1) = afInet ∨
        Bytes.toNatLE (Bytes.field message.payload 0 1) = afInet6)

/-- Messages from the first byte to the last, each of them sound. -/
def WellFormed (sequence : Nat) (data : Datagram) : Prop :=
  (messagesFrom data 0).2 = true ∧ ∀ message ∈ messages data, message.Sound sequence

/-! ## §2 Which datagrams are accepted -/

section Accepted

variable {strerror : Int → Bytes} {sequence : Nat} {protocol : TransportProtocol}

theorem parseKernelError_ok_iff {payload : Bytes} :
    parseKernelError strerror payload = .ok () ↔
      errorSize ≤ payload.length ∧ toInt32 (Bytes.field payload 0 4) = 0 := by
  unfold parseKernelError parseError
  dsimp only
  -- the payload is measured before its first field is read
  by_cases hlength : payload.length < errorSize
  · rw [if_pos hlength]
    simp [Nat.not_le.mpr hlength]
  · rw [if_neg hlength]
    by_cases herror : toInt32 (Bytes.field payload 0 4) = 0
    · simp [herror, Nat.not_lt.mp hlength]
    · simp [herror]

theorem parseSocket_ok_iff {payload : Bytes} :
    (∃ socket, parseSocket protocol payload = .ok socket) ↔ diagSize ≤ payload.length ∧
      (Bytes.toNatLE (Bytes.field payload 0 1) = afInet ∨
        Bytes.toNatLE (Bytes.field payload 0 1) = afInet6) := by
  unfold parseSocket parseError
  dsimp only
  by_cases hlength : payload.length < diagSize
  · rw [if_pos hlength]
    simp [Nat.not_le.mpr hlength]
  · rw [if_neg hlength]
    split_ifs with hinet hinet6
    · simp [hinet, Nat.not_lt.mp hlength]
    · simp [hinet6, Nat.not_lt.mp hlength]
    · simp [hinet, hinet6]

/-- A sound message is accepted unless it is the end of the dump and carries the flag. -/
theorem parseMessage_ok_iff {header : Header} {payload : Bytes} {batch : InetDiagBatch}
    (hsequence : header.sequence = sequence) :
    (∃ batch', parseMessage strerror protocol header payload batch = .ok batch') ↔
      (RawMessage.mk header payload).Sound sequence ∧
        ¬ ((RawMessage.mk header payload).IsDone ∧ (RawMessage.mk header payload).Interrupted) := by
  unfold parseMessage RawMessage.Sound RawMessage.IsDone RawMessage.Interrupted
  dsimp only
  rw [and_iff_right hsequence]
  -- the flag is looked at in this branch only
  by_cases hdone : header.type = nlmsgDone
  · rw [if_pos hdone, if_pos hdone]
    by_cases hflag : header.flags &&& dumpInterrupted = 0 <;> simp [hdone, hflag, parseError]
  · rw [if_neg hdone, if_neg hdone]
    by_cases herror : header.type = nlmsgError
    · have hkernel : parseKernelError strerror payload = .ok () ↔ _ := parseKernelError_ok_iff
      -- an error of number zero is an acknowledgement
      rw [if_pos herror, if_pos herror, ← hkernel]
      cases parseKernelError strerror payload with
      | error error => simp [bind, Except.bind]
      | ok => simp [hdone, bind, Except.bind, pure, Except.pure]
    · rw [if_neg herror, if_neg herror]
      by_cases hoverrun : header.type = nlmsgOverrun
      · rw [if_pos hoverrun]
        simp [hoverrun, parseError]
      · have hsocket : (∃ socket, parseSocket protocol payload = .ok socket) ↔ _ :=
          parseSocket_ok_iff
        rw [if_neg hoverrun, ← hsocket]
        cases parseSocket protocol payload with
        | error error => simp [bind, Except.bind]
        | ok socket => simp [hdone, hoverrun, bind, Except.bind, pure, Except.pure]

/-- **What the parse loop accepts**: messages up to the last byte, each of them sound, and
    no flag on the end of the dump. -/
theorem parseMessages_ok_iff {data : Datagram} {offset : Nat} {batch : InetDiagBatch} :
    (∃ batch', parseMessages strerror sequence protocol data offset batch = .ok batch') ↔
      (messagesFrom data offset).2 = true ∧ ∀ message ∈ (messagesFrom data offset).1,
        message.Sound sequence ∧ ¬ (message.IsDone ∧ message.Interrupted) := by
  fun_induction parseMessages strerror sequence protocol data offset batch with
  | case1 offset batch hmore hshort =>
    -- fewer bytes than a header are left
    rw [messagesFrom, dif_pos hmore, if_pos hshort]
    simp [parseError]
  | case2 offset batch hmore hwhole header hlength =>
    -- the header promises less than itself or more than there is
    rw [messagesFrom, dif_pos hmore, if_neg hwhole]
    simp [parseError, header, hlength]
  | case3 offset batch hmore hwhole header hlength hother =>
    -- a message of another dump
    have hmem := messageAt_mem hmore hwhole hlength
    constructor
    · rintro ⟨batch', hbatch⟩
      cases hbatch
    · rintro ⟨-, hall⟩
      exact absurd (hall _ hmem).1.1 hother
  | case4 offset batch hmore hwhole header hlength hsequence payload error hmessage =>
    have hmem := messageAt_mem hmore hwhole hlength
    constructor
    · rintro ⟨batch', hbatch⟩
      cases hbatch
    · rintro ⟨-, hall⟩
      -- such a message would have been accepted
      obtain ⟨batch', hbatch⟩ := (parseMessage_ok_iff (not_not.mp hsequence)).mpr (hall _ hmem)
      have hcontra := hmessage.symm.trans hbatch
      cases hcontra
  | case5 offset batch hmore hwhole header hlength hsequence payload batch' hmessage aligned hleft
    hcut =>
    -- the padding of the last message is cut off, and so is the message
    have hshort : decide (header.length = data.val.length - offset) = false := by simpa using hcut
    rw [messagesFrom_eq hmore hwhole hlength, if_pos hleft]
    simp [parseError, header, hshort]
  | case6 offset batch hmore hwhole header hlength hsequence payload batch' hmessage aligned hleft
    hcut ih =>
    -- the last message may end without its padding
    have hexact : decide (header.length = data.val.length - offset) = true := by simpa using hcut
    have haccepted := (parseMessage_ok_iff (not_not.mp hsequence)).mp ⟨batch', hmessage⟩
    have hnone : messagesFrom data data.val.length = ([], true) := by
      rw [messagesFrom, dif_neg (Nat.lt_irrefl _)]
    rw [ih, messagesFrom_eq hmore hwhole hlength, if_pos hleft, hnone]
    exact iff_of_true ⟨rfl, by simp⟩ ⟨hexact, List.forall_mem_singleton.mpr haccepted⟩
  | case7 offset batch hmore hwhole header hlength hsequence payload batch' hmessage aligned hleft ih =>
    have haccepted := (parseMessage_ok_iff (not_not.mp hsequence)).mp ⟨batch', hmessage⟩
    rw [ih, messagesFrom_eq hmore hwhole hlength, if_neg hleft]
    apply and_congr_right
    intro _
    rw [List.forall_mem_cons]
    exact (and_iff_right haccepted).symm
  | case8 offset batch hend =>
    rw [messagesFrom, dif_neg hend]
    simp

/-- Some message ends the dump and says that it was interrupted. -/
def EndInterrupted (data : Datagram) : Prop :=
  ∃ message ∈ messages data, message.IsDone ∧ message.Interrupted

theorem parse_ok_iff {data : Datagram} :
    (∃ batch, parseInetDiagDatagram strerror data sequence protocol = .ok batch) ↔
      WellFormed sequence data ∧ ¬ EndInterrupted data := by
  unfold parseInetDiagDatagram WellFormed EndInterrupted messages
  rw [parseMessages_ok_iff]
  constructor
  · rintro ⟨hwhole, hall⟩
    refine ⟨⟨hwhole, fun message hmessage => (hall message hmessage).1⟩, ?_⟩
    rintro ⟨message, hmessage, hend⟩
    exact (hall message hmessage).2 hend
  · rintro ⟨⟨hwhole, hsound⟩, hend⟩
    exact ⟨hwhole, fun message hmessage =>
      ⟨hsound message hmessage, fun hflag => hend ⟨message, hmessage, hflag⟩⟩⟩

/-- The loop returns a list exactly when it was given well-formed datagrams only, and none
    of them ended an interrupted dump. -/
theorem drain_ok_iff {queue left : List Received} {values : List SocketInfo}
    {r : Result (List SocketInfo)}
    (h : drain strerror sequence protocol queue values = some (r, left)) (hleft : left = []) :
    (∃ sockets, r = .ok sockets) ↔ ∀ x ∈ queue, ∃ data, x = .ok data ∧
      WellFormed sequence data ∧ ¬ EndInterrupted data := by
  induction queue generalizing values with
  | nil => cases h
  | cons x queue ih =>
    cases x with
    | error errno =>
      simp only [drain, Option.some.injEq, Prod.mk.injEq] at h
      -- a datagram was lost
      obtain ⟨rfl, rfl⟩ := h
      simp
    | ok data =>
      have hfirst : (∃ data', (Except.ok data : Received) = .ok data' ∧
          WellFormed sequence data' ∧ ¬ EndInterrupted data') ↔
          WellFormed sequence data ∧ ¬ EndInterrupted data := by
        simp
      rw [List.forall_mem_cons, hfirst, ← parse_ok_iff]
      simp only [drain] at h
      cases hparsed : parseInetDiagDatagram strerror data sequence protocol with
      | error error =>
        rw [hparsed] at h
        obtain ⟨rfl, -⟩ := Prod.mk.inj (Option.some.inj h)
        simp
      | ok batch =>
        rw [hparsed] at h
        dsimp only at h
        by_cases hdone : batch.done = true
        · -- the dump ends here, so nothing was read behind it
          rw [if_pos hdone] at h
          obtain ⟨rfl, rfl⟩ := Prod.mk.inj (Option.some.inj h)
          simp [hleft]
        · rw [if_neg hdone] at h
          rw [ih h]
          simp

end Accepted

/-! ## §3 Runs of a dump -/

/-- The datagrams a run received. -/
def datagramsOf (t : Trace Sys) : List Datagram :=
  t.filterMap fun
    | ⟨.recv, .ok data⟩ => some data
    | _ => none

/-- The messages of the answer a run received. -/
def answerOf (t : Trace Sys) : List RawMessage := (datagramsOf t).flatMap messages

/-- Nothing is wrong with the exchange, flags apart: the request was sent, nothing was lost,
    and the datagrams are well formed. -/
def Faultless (request : Bytes) (sequence : Nat) (t : Trace Sys) : Prop :=
  (∀ sent, ⟨.sendto request, sent⟩ ∈ t → ¬ Unsent request sent.val) ∧
    (∀ errno, received (.error errno) ∉ t) ∧ ∀ data ∈ datagramsOf t, WellFormed sequence data

/-- The end of the dump carries the flag. -/
def InterruptedAtEnd (t : Trace Sys) : Prop :=
  ∃ message ∈ answerOf t, message.IsDone ∧ message.Interrupted

section Runs

variable {strerror : Int → Bytes} {datagrams sequence : Nat} {family : AddressFamily}
  {protocol : TransportProtocol} {t : Trace Sys} {r : Result (List SocketInfo)}

theorem mem_datagramsOf_received {queue : List Received} {data : Datagram} :
    data ∈ datagramsOf (queue.map received) ↔ .ok data ∈ queue := by
  induction queue with
  | nil => exact iff_of_false List.not_mem_nil List.not_mem_nil
  | cons x queue ih =>
    cases x with
    | error errno =>
      rw [List.mem_cons, or_iff_right (fun h => by cases h)]
      exact ih
    | ok first =>
      have hcons : datagramsOf ((.ok first :: queue).map received) =
          first :: datagramsOf (queue.map received) := rfl
      rw [hcons, List.mem_cons, List.mem_cons, ih, Except.ok.injEq]

section Exchange

variable {request : Bytes} {sent : SysCall.Answer (.sendto request)} {queue : List Received}

theorem faultless_exchange_iff :
    Faultless request sequence (⟨.sendto request, sent⟩ :: queue.map received) ↔
      ¬ Unsent request sent.val ∧
        ∀ x ∈ queue, ∃ data, x = .ok data ∧ WellFormed sequence data := by
  constructor
  · rintro ⟨hsent, hlost, hwell⟩
    refine ⟨hsent sent List.mem_cons_self, fun x hx => ?_⟩
    cases x with
    | error errno =>
      have herror : received (.error errno) ∈ queue.map received := List.mem_map_of_mem hx
      exact absurd (List.mem_cons_of_mem _ herror) (hlost errno)
    | ok data => exact ⟨data, rfl, hwell data (mem_datagramsOf_received.mpr hx)⟩
  · rintro ⟨hsent, hall⟩
    refine ⟨?_, ?_, ?_⟩
    · intro sent' hsent'
      rcases List.mem_cons.mp hsent' with heq | hqueue
      · cases heq
        exact hsent
      · obtain ⟨x, -, hx⟩ := List.mem_map.mp hqueue
        cases hx
    · intro errno herror
      rcases List.mem_cons.mp herror with heq | hqueue
      · cases heq
      · obtain ⟨x, hx, heq⟩ := List.mem_map.mp hqueue
        obtain rfl := received_injective heq
        obtain ⟨data, hdata, -⟩ := hall _ hx
        cases hdata
    · intro data hdata
      obtain ⟨data', heq, hwell⟩ := hall _ (mem_datagramsOf_received.mp hdata)
      cases heq
      exact hwell

theorem interruptedAtEnd_exchange_iff :
    InterruptedAtEnd (⟨.sendto request, sent⟩ :: queue.map received) ↔
      ∃ data, .ok data ∈ queue ∧ EndInterrupted data := by
  constructor
  · rintro ⟨message, hmessage, hend⟩
    obtain ⟨data, hdata, hmessage⟩ := List.mem_flatMap.mp hmessage
    exact ⟨data, mem_datagramsOf_received.mp hdata, message, hmessage, hend⟩
  · rintro ⟨data, hdata, message, hmessage, hend⟩
    exact ⟨message, List.mem_flatMap.mpr ⟨data, mem_datagramsOf_received.mpr hdata, hmessage⟩, hend⟩

end Exchange

/-- **Which dumps are accepted**: those without fault whose end lacks the flag. -/
theorem one_ok_iff (h : (one strerror datagrams family protocol sequence).Run t r) :
    (∃ sockets, r = .ok sockets) ↔
      Faultless (dumpRequest family protocol sequence) sequence t ∧ ¬ InterruptedAtEnd t := by
  obtain ⟨sent, t', rfl, ⟨hunsent, rfl, rfl⟩ | ⟨hsent, queue, rfl, -, hdrain⟩⟩ := one_run_iff.mp h
  · -- the request was not sent
    constructor
    · rintro ⟨sockets, hok⟩
      cases hok
    · rintro ⟨⟨hall, -⟩, -⟩
      exact absurd hunsent (hall sent List.mem_cons_self)
  · rw [drain_ok_iff hdrain rfl, faultless_exchange_iff, interruptedAtEnd_exchange_iff]
    constructor
    · intro hall
      refine ⟨⟨hsent, fun x hx => ?_⟩, ?_⟩
      · obtain ⟨data, rfl, hwell, -⟩ := hall x hx
        exact ⟨data, rfl, hwell⟩
      · rintro ⟨data, hdata, hend⟩
        obtain ⟨data', heq, -, hflag⟩ := hall _ hdata
        cases heq
        exact hflag hend
    · rintro ⟨⟨-, hall⟩, hend⟩ x hx
      obtain ⟨data, rfl, hwell⟩ := hall x hx
      exact ⟨data, rfl, hwell, fun hflag => hend ⟨data, hx, hflag⟩⟩

/-- **When a flag keeps a dump from being accepted**: on any message of the answer it does
    exactly if it is on the end of the dump as well, or something else is wrong. -/
theorem interrupted_dump_refused_iff
    (h : (one strerror datagrams family protocol sequence).Run t r) :
    ((∃ message ∈ answerOf t, message.Interrupted) → ∀ sockets, r ≠ .ok sockets) ↔
      ((∃ message ∈ answerOf t, message.Interrupted) →
        InterruptedAtEnd t ∨ ¬ Faultless (dumpRequest family protocol sequence) sequence t) := by
  apply imp_congr_right
  intro _
  rw [← not_exists, one_ok_iff h]
  tauto

end Runs

/-- The end of a dump that was interrupted. -/
def interruptedEnd : Datagram :=
  ⟨Bytes.ofNatLE 4 16 ++ Bytes.ofNatLE 2 nlmsgDone ++ Bytes.ofNatLE 2 dumpInterrupted ++
    Bytes.ofNatLE 4 1 ++ Bytes.ofNatLE 4 0, by decide⟩

theorem messageAt_mem_interruptedEnd : messageAt interruptedEnd 0 ∈ messages interruptedEnd :=
  messageAt_mem (by decide) (by decide) (by decide)

/-- The exchange of a dump with nothing but that message. -/
def interruptedExchange : Trace Sys :=
  [⟨.sendto (dumpRequest .ipv4 .tcp 1), ⟨⟨72, 0⟩, sent_uninterrupted⟩⟩, received (.ok interruptedEnd)]

theorem interrupted_dump_refused_at_end :
    ∃ r, (one (fun _ => []) 1 .ipv4 .tcp 1).Run interruptedExchange r ∧
      ∀ sockets, r ≠ .ok sockets := by
  have hanswer : messageAt interruptedEnd 0 ∈ answerOf interruptedExchange :=
    List.mem_flatMap.mpr ⟨_, List.mem_cons_self, messageAt_mem_interruptedEnd⟩
  cases hparsed : parseInetDiagDatagram (fun _ => []) interruptedEnd 1 .tcp with
  | ok batch =>
    have hend : EndInterrupted interruptedEnd :=
      ⟨_, messageAt_mem_interruptedEnd, by decide, by decide⟩
    exact absurd hend (parse_ok_iff.mp ⟨batch, hparsed⟩).2
  | error error =>
    have hrun : (one (fun _ => []) 1 .ipv4 .tcp 1).Run interruptedExchange (.error error) := by
      refine one_run_iff.mpr ⟨_, _, rfl, .inr ⟨by decide, [.ok interruptedEnd], rfl, by decide, ?_⟩⟩
      simp [drain, hparsed]
    exact ⟨_, hrun, (interrupted_dump_refused_iff hrun).mpr
      (fun _ => .inl ⟨_, hanswer, by decide, by decide⟩) ⟨_, hanswer, by decide⟩⟩

/-- A record that follows a change of the table. -/
def flaggedDatagram : DumpDatagram 1 where
  frames := [⟨⟨0x10, 0, .socket exampleRecord, fun _ h => by cases h⟩, []⟩]
  padded := ⟨.inr ⟨rfl, rfl⟩, trivial⟩
  length_le := by
    simp [encodeFrames, length_encode_message, Message.length, Body.payload,
      length_encode_record, exampleRecord, headerSize, diagSize]

/-- The exchange of a dump with that record, whose end lacks the flag. -/
def flaggedExchange : Trace Sys :=
  ⟨.sendto (dumpRequest .ipv4 .tcp 1), ⟨⟨72, 0⟩, sent_uninterrupted⟩⟩ ::
    [.ok flaggedDatagram.bytes, .ok (doneDatagram 1)].map received

theorem flaggedDatagram_interrupted :
    ∃ message ∈ messages flaggedDatagram.bytes, message.Interrupted :=
  ⟨messageAt flaggedDatagram.bytes 0, messageAt_mem (by decide) (by decide) (by decide), by decide⟩

/-- A dump whose only record says that it was interrupted is accepted. -/
theorem interrupted_dump_accepted :
    (one (fun _ => []) 2 .ipv4 .tcp 1).Run flaggedExchange
        (.ok [exampleRecord.toSocketInfo .tcp]) ∧
      ∃ message ∈ answerOf flaggedExchange, message.Interrupted := by
  constructor
  · have hrecord : parseInetDiagDatagram (fun _ => []) flaggedDatagram.bytes 1 .tcp =
        .ok ⟨[exampleRecord.toSocketInfo .tcp], false⟩ := parse_bytes (by decide) flaggedDatagram
    have hdone : parseInetDiagDatagram (fun _ => []) (doneDatagram 1) 1 .tcp = .ok { done := true } :=
      parse_doneDatagram (by decide)
    refine one_run_iff.mpr ⟨_, _, rfl, .inr ⟨by decide, _, rfl, by decide, ?_⟩⟩
    simp [drain, hrecord, hdone]
  · obtain ⟨message, hmessage, hflag⟩ := flaggedDatagram_interrupted
    exact ⟨message, List.mem_flatMap.mpr ⟨_, List.mem_cons_self, hmessage⟩, hflag⟩

end Lx.Netlink
