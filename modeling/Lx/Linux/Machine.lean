import Lx.Application.PortInspection
import Lx.Lib.Simulation
import Lx.Linux.DumpIsolation
import Lx.Linux.InetDiagDump
import Lx.Linux.ReleaseSoundness
import Lx.Linux.SocketOwnership

/-!
# A machine behind the port commands

What `lx port` shows passes through four formats: the dump request, the records of the
answer, the links of procfs, and the rows in which the application layer joins them. Here
they meet. A `Machine` has sockets, processes and units, and it answers system calls: it
reads a request as the kernel does, packs its records into datagrams, and shows the
descriptors of its processes as links.

## Layers

- `readRequest`: the kernel's reading of a dump request (§1)
- `Machine`, `machineWorld`: the machine, and its answers to system calls (§2)
- `one_machine`, `query_machine`, `resolve_machine`: what the providers make of them (§3, §4)
- `Machine.Observes`, `backend_observes`: what the application layer is told (§5)
-/

namespace Lx

open Interaction World Netlink

/-! ## §1 Requests -/

namespace Netlink

/-- A dump request, as the kernel reads it. Ports that are zero restrict nothing. -/
structure DiagRequest where
  sequence : Nat
  family : AddressFamily
  protocol : TransportProtocol
  states : Nat
  localPort : Nat := 0
  remotePort : Nat := 0
  deriving DecidableEq, Repr

def familyOf (number : Nat) : Option AddressFamily :=
  if number = afInet then some .ipv4 else if number = afInet6 then some .ipv6 else none

def protocolOf (number : Nat) : Option TransportProtocol :=
  if number = 6 then some .tcp else if number = 17 then some .udp else none

/-- `IPPROTO_TCP` and `IPPROTO_UDP` -/
def protocolNumber : TransportProtocol → UInt8
  | .tcp => 6
  | .udp => 17

theorem familyOf_familyNumber (family : AddressFamily) :
    familyOf (Bytes.toNatLE [familyNumber family]) = some family := by
  cases family <;> rfl

theorem protocolOf_protocolNumber (protocol : TransportProtocol) :
    protocolOf (Bytes.toNatLE [protocolNumber protocol]) = some protocol := by
  cases protocol <;> rfl

/-- `nlmsghdr` and `inet_diag_req_v2`, read from the receiving end. -/
def readRequest (request : Bytes) : Option DiagRequest :=
  let header := readHeader request
  if request.length ≠ headerSize + 56 ∨ header.length ≠ request.length ∨
      header.type ≠ sockDiagByFamily ∨ header.flags ≠ requestDump then none
  else
    match familyOf (Bytes.toNatLE (Bytes.field request 16 1)),
      protocolOf (Bytes.toNatLE (Bytes.field request 17 1)) with
    | some family, some protocol => some
      { sequence := header.sequence
        family
        protocol
        states := Bytes.toNatLE (Bytes.field request 20 4)
        localPort := Bytes.toNatBE (Bytes.field request 24 2)
        remotePort := Bytes.toNatBE (Bytes.field request 26 2) }
    | _, _ => none

/-- The kernel reads what `buildInetDiagRequest` wrote. -/
theorem readRequest_build {family : AddressFamily} {protocol : TransportProtocol}
    {sequence states : Nat} (hsequence : sequence < 2 ^ 32) (hstates : states < 2 ^ 32) :
    readRequest (buildInetDiagRequest family protocol sequence states) =
      some { sequence, family, protocol, states } := by
  have hlength : (buildInetDiagRequest family protocol sequence states).length = 72 := by
    simp [buildInetDiagRequest]
  have hheader : readHeader (buildInetDiagRequest family protocol sequence states) =
      ⟨72, sockDiagByFamily, requestDump, sequence⟩ := by
    have hnumber : Bytes.field (buildInetDiagRequest family protocol sequence states) 8 4 =
        Bytes.ofNatLE 4 sequence := rfl
    unfold readHeader
    rw [hnumber, Bytes.toNatLE_ofNatLE, Nat.mod_eq_of_lt (by simpa using hsequence)]
    rfl
  have hmask : Bytes.toNatLE (Bytes.field (buildInetDiagRequest family protocol sequence states)
      20 4) = states := by
    have hfield : Bytes.field (buildInetDiagRequest family protocol sequence states) 20 4 =
        Bytes.ofNatLE 4 states := rfl
    rw [hfield, Bytes.toNatLE_ofNatLE, Nat.mod_eq_of_lt (by simpa using hstates)]
  have hfamily : Bytes.field (buildInetDiagRequest family protocol sequence states) 16 1 =
      [familyNumber family] := by
    cases family <;> rfl
  have hprotocol : Bytes.field (buildInetDiagRequest family protocol sequence states) 17 1 =
      [protocolNumber protocol] := by
    cases protocol <;> rfl
  have hlocal : Bytes.field (buildInetDiagRequest family protocol sequence states) 24 2 = [0, 0] := rfl
  have hremote : Bytes.field (buildInetDiagRequest family protocol sequence states) 26 2 = [0, 0] := rfl
  unfold readRequest
  simp only [hheader, hlength, hmask, hfamily, hprotocol, hlocal, hremote]
  rw [if_neg (by simp [headerSize]), familyOf_familyNumber, protocolOf_protocolNumber]
  rfl

/-! ## §2 Machines -/

/-- The record is one the request asks for. -/
def selects (request : DiagRequest) (record : DiagRecord) : Bool :=
  record.family == request.family && request.states.testBit record.state.toNat &&
    (request.localPort == 0 || request.localPort == record.localPort.toNat) &&
    (request.remotePort == 0 || request.remotePort == record.remotePort.toNat)

/-- The records a request asks for. -/
def dumped (sockets : TransportProtocol → List DiagRecord) (request : DiagRequest) :
    List DiagRecord :=
  (sockets request.protocol).filter (selects request)

/-- One way to send records: datagrams of records only, and one that ends the dump. -/
structure Packing (sequence : Nat) (records : List DiagRecord) where
  initial : List (DumpDatagram sequence)
  final : DumpDatagram sequence
  early : List DiagRecord
  late : List DiagRecord
  payload : Bytes
  initial_bodies : bodies initial = early.map .socket
  final_bodies : final.frames.map (·.message.body) = late.map .socket ++ [.done payload]
  complete : early ++ late = records

/-- What the packing puts into the queue. -/
def Packing.queue {sequence : Nat} {records : List DiagRecord} (packing : Packing sequence records) :
    List Received :=
  (packing.initial ++ [packing.final]).map fun datagram => .ok datagram.bytes

/-- A message with this body fits into a datagram. -/
def Fitting (body : Body) : Prop := headerSize + body.payload.length ≤ 65536

theorem no_flags (body : Body) :
    ∀ payload, body = .done payload → (0 : UInt16).toNat &&& dumpInterrupted = 0 :=
  fun _ _ => rfl

/-- A message without flags. -/
def soloFrame (body : Body) : Frame := ⟨⟨0, 0, body, no_flags body⟩, []⟩

theorem padded_soloFrame (body : Body) : Padded [soloFrame body] := ⟨.inr ⟨rfl, rfl⟩, trivial⟩

theorem length_soloFrame {sequence : Nat} {body : Body} (h : Fitting body) :
    (encodeFrames sequence [soloFrame body]).length ≤ 65536 := by
  simpa [soloFrame, Fitting, encodeFrames, length_encode_message, Message.length] using h

/-- A datagram that holds one message. -/
def soloDatagram (sequence : Nat) (body : Body) (h : Fitting body) : DumpDatagram sequence :=
  ⟨[soloFrame body], padded_soloFrame body, length_soloFrame h⟩

/-- The records one by one. -/
def soloDatagrams {sequence : Nat} {records : List DiagRecord}
    (h : ∀ record ∈ records, Fitting (.socket record)) : List (DumpDatagram sequence) :=
  records.pmap (fun record hfits => soloDatagram sequence (.socket record) hfits) h

theorem bodies_soloDatagrams {n : Nat} {records : List DiagRecord}
    (h : ∀ record ∈ records, Fitting (.socket record)) :
    bodies (soloDatagrams h : List (DumpDatagram n)) = records.map .socket := by
  unfold bodies soloDatagrams
  induction records with
  | nil => rfl
  | cons record records ih =>
    rw [List.pmap, List.flatMap_cons, ih]
    rfl

/-- Records that fit into datagrams can be sent. -/
def Packing.separate {sequence : Nat} {records : List DiagRecord}
    (h : ∀ record ∈ records, Fitting (.socket record)) : Packing sequence records where
  initial := soloDatagrams h
  final := soloDatagram sequence (.done [0, 0, 0, 0]) (by simp [Fitting, headerSize, Body.payload])
  early := records
  late := []
  payload := [0, 0, 0, 0]
  initial_bodies := bodies_soloDatagrams h
  final_bodies := rfl
  complete := List.append_nil records

end Netlink

/-- What the port commands can see of a machine. -/
structure Machine where
  sockets : TransportProtocol → List DiagRecord
  tree : SocketInodeResolver.ProcTree
  /-- `IProcessProvider::get` -/
  process : Int → Result (Observation ProcessInfo)
  /-- `IServiceProvider::unitByPid` -/
  unit : Int → Result (Option Bytes)
  /-- How the kernel splits its answers. -/
  packing : (request : DiagRequest) → Packing request.sequence (dumped sockets request)
  /-- A mask has a bit for every state. -/
  state_lt : ∀ protocol, ∀ record ∈ sockets protocol, record.state.toNat < 32
  /-- procfs is mounted. -/
  mounted : ∃ listing, tree.root = .ok listing
  /-- A record is about the process that was asked for. -/
  named : ∀ pid observed, process pid = .ok observed → observed.value.pid = pid

/-- The datagrams that answer a request. -/
def Machine.reply (m : Machine) (request : Bytes) : List Received :=
  match readRequest request with
  | some request => (m.packing request).queue
  | none => []

/-- The state is the queue of the socket. -/
def Machine.Answers (m : Machine) (queue : List Received) :
    (call : SysCall) → call.Answer → List Received → Prop
  | .socket, opened, queue' => opened = .ok () ∧ queue' = []
  | .sendto request, sent, queue' =>
    ¬ Unsent request sent.val ∧ queue' = queue ++ m.reply request
  | .recv, x, queue' => queue = x :: queue'
  | .rootDirectory, listed, queue' => listed = m.tree.root ∧ queue' = queue
  | .fdDirectory entry, listed, queue' => listed = m.tree.fd entry ∧ queue' = queue
  | .fdLink entry descriptor, target, queue' =>
    target = m.tree.link entry descriptor ∧ queue' = queue
  | .contract (.getProcess pid), process, queue' => process = m.process pid ∧ queue' = queue
  | .contract (.unitByPid pid), unit, queue' => unit = m.unit pid ∧ queue' = queue
  | _, _, queue' => queue' = queue

/-- The machine as a world. Nothing happens to it between the calls. -/
abbrev machineWorld (m : Machine) : World Sys where
  State := List Received
  Move := Empty
  move _ _ _ := False
  answer queue call x queue' := m.Answers queue call x queue'

section World

variable {m : Machine} {queue queue' : List Received} {log : (machineWorld m).Log}

theorem machine_log (log : (machineWorld m).Log) : log = (events log).map .inr := by
  induction log with
  | nil => rfl
  | cons item log ih =>
    cases item with
    | inl move => exact move.elim
    | inr e => exact congrArg (.inr e :: ·) ih

/-- procfs shows what is in the tree. -/
theorem path_tree (h : (machineWorld m).Path queue log queue') :
    ∀ e ∈ events log, m.tree.Answers e := by
  induction log generalizing queue with
  | nil => simp
  | cons item log ih =>
    cases item with
    | inl move => exact move.elim
    | inr e =>
      obtain ⟨queue₁, hanswer, hrest⟩ := h
      intro e' he'
      rcases List.mem_cons.mp he' with rfl | he'
      · obtain ⟨call, x⟩ := e'
        cases call with
        | rootDirectory => exact hanswer.1
        | fdDirectory entry => exact hanswer.1
        | fdLink entry descriptor => exact hanswer.1
        | _ => trivial
      · exact ih hrest e' he'

/-- Reading takes from the front of the queue. -/
theorem path_queue {read : List Received} :
    (machineWorld m).Path queue ((read.map received).map .inr) queue' ↔ queue = read ++ queue' := by
  induction read generalizing queue with
  | nil => exact eq_comm
  | cons x read ih =>
    constructor
    · rintro ⟨queue₁, hqueue, hrest⟩
      rw [show queue = x :: queue₁ from hqueue, ih.mp hrest]
      rfl
    · rintro rfl
      exact ⟨read ++ queue', rfl, ih.mpr rfl⟩

theorem idle_machine (h : (machineWorld m).Idle queue log queue') : log = [] ∧ queue' = queue := by
  obtain ⟨hevents, hpath⟩ := h
  rw [machine_log log, hevents] at hpath ⊢
  exact ⟨rfl, hpath⟩

theorem sys_machine {call : SysCall} {x : call.Answer} :
    (machineWorld m).Runs (sys call) queue log x queue' ↔
      log = [.inr ⟨call, x⟩] ∧ m.Answers queue call x queue' := by
  constructor
  · intro h
    obtain ⟨l₁, l₂, queue₁, queue₂, rfl, hbefore, hanswer, hafter⟩ := runs_perform_iff.mp h
    obtain ⟨rfl, rfl⟩ := idle_machine hbefore
    obtain ⟨rfl, rfl⟩ := idle_machine hafter
    exact ⟨rfl, hanswer⟩
  · rintro ⟨rfl, hanswer⟩
    exact ⟨Prog.run_perform.mpr rfl, queue', hanswer, rfl⟩

end World

/-! ## §3 Dumps -/

/-- The request of a dump, as the kernel reads it. -/
def asking (target : Target) (sequence : Nat) : DiagRequest where
  sequence := sequence
  family := target.2
  protocol := target.1
  states := requestedStates target.1

/-- The sockets a dump returns. -/
def Machine.delivered (m : Machine) (target : Target) : List SocketInfo :=
  (dumped m.sockets (asking target 0)).map (·.toSocketInfo target.1)

section Dumps

variable {m : Machine} {strerror : Int → Bytes} {datagrams sequence : Nat}
  {log : (machineWorld m).Log} {queue queue' : List Received}

/-- The loop of a dump reads the records of its answer, and leaves nothing. -/
theorem Netlink.Packing.drained {records : List DiagRecord} {protocol : TransportProtocol}
    (packing : Packing sequence records) (hsequence : sequence < 2 ^ 32) :
    drain strerror sequence protocol packing.queue [] =
      some (.ok (records.map (·.toSocketInfo protocol)), []) := by
  have hparsed : parseInetDiagDatagram strerror packing.final.bytes sequence protocol =
      .ok ⟨packing.late.map (·.toSocketInfo protocol), true⟩ := by
    rw [parse_bytes hsequence, addFrames_done packing.final_bodies]
    rfl
  calc drain strerror sequence protocol packing.queue []
      = some (.ok ((packing.early ++ packing.late).map (·.toSocketInfo protocol)), []) := by
        rw [Packing.queue, List.map_append, drain_sockets hsequence packing.initial_bodies]
        simp [drain, hparsed]
    _ = some (.ok (records.map (·.toSocketInfo protocol)), []) := by rw [packing.complete]

theorem reply_dumpRequest {target : Target} (hsequence : sequence < 2 ^ 32) :
    m.reply (target.request sequence) = (m.packing (asking target sequence)).queue := by
  have hstates : requestedStates target.1 < 2 ^ 32 := by
    cases target.1 <;> decide
  unfold Machine.reply Target.request dumpRequest
  rw [readRequest_build hsequence hstates]
  rfl

/-- One dump delivers the records it asked for. -/
theorem one_machine {target : Target} {r : Result (List SocketInfo)} (hsequence : sequence < 2 ^ 32)
    (h : (machineWorld m).Runs (one strerror datagrams target.2 target.1 sequence) [] log r queue') :
    r = .ok (m.delivered target) ∧ queue' = [] := by
  obtain ⟨hrun, hpath⟩ := h
  obtain ⟨sent, t, hevents, hone⟩ := one_run_iff.mp hrun
  rw [machine_log log, hevents] at hpath
  obtain ⟨queue₁, ⟨hsent, hqueue₁⟩, hrest⟩ := hpath
  rcases hone with ⟨hunsent, -⟩ | ⟨-, read, rfl, -, hdrain⟩
  · exact absurd hunsent hsent
  · -- what was read is the beginning of the answer, and the loop ends with its end
    have hanswer : queue₁ = (m.packing (asking target sequence)).queue := by
      rw [hqueue₁, List.nil_append]
      exact reply_dumpRequest hsequence
    have hread : queue₁ = read ++ queue' := path_queue.mp hrest
    have hdrained : drain strerror sequence target.1 (m.packing (asking target sequence)).queue [] =
        some (.ok (m.delivered target), []) := Packing.drained _ hsequence
    have hwhole := drain_append hdrain queue'
    rw [← hread, hanswer, hdrained, List.nil_append] at hwhole
    obtain ⟨rfl, rfl⟩ := Prod.mk.inj (Option.some.inj hwhole)
    exact ⟨rfl, rfl⟩

/-- The rounds of a query on the machine. -/
def Machine.rounds (m : Machine) (targets : List Target) : List Round :=
  targets.map fun target => (target, .ok (m.delivered target))

theorem runDumps_machine {query : SocketQuery} {targets : List Target} {state final : DumpState}
    (hsequence : sequence + targets.length ≤ 2 ^ 32)
    (h : (machineWorld m).Runs (runDumps strerror datagrams query targets sequence state) [] log
      final queue') : final = stateAfter query (m.rounds targets) state ∧ queue' = [] := by
  induction targets generalizing sequence state log with
  | nil =>
    obtain ⟨rfl, hidle⟩ := runs_ret_iff.mp h
    exact ⟨rfl, (idle_machine hidle).2⟩
  | cons target targets ih =>
    rw [List.length_cons] at hsequence
    obtain ⟨outcome, l₁, l₂, queue₁, rfl, hone, hrest⟩ := runs_bind_iff.mp h
    obtain ⟨rfl, rfl⟩ := one_machine (by omega) hone
    exact ih (by omega) hrest

/-- Nothing failed, so there is nothing to warn about. -/
theorem stateAfter_rounds {query : SocketQuery} {targets : List Target} {state : DumpState} :
    (stateAfter query (m.rounds targets) state).last = state.last ∧
      (stateAfter query (m.rounds targets) state).warnings = state.warnings := by
  induction targets generalizing state with
  | nil => exact ⟨rfl, rfl⟩
  | cons target targets ih => exact ih

end Dumps

/-! ## §4 Queries -/

/-- A socket of the machine is one the query asks for. -/
def Wanted (query : SocketQuery) (protocol : TransportProtocol) (record : DiagRecord) : Prop :=
  (∀ wanted ∈ query.protocol, wanted = protocol) ∧
  (∀ localPort ∈ query.localPort, record.localPort.toNat = localPort) ∧
  (protocol = .tcp → record.state = 10) ∧
  (protocol = .udp → query.listeningOnly = true → record.remote = none)

instance (query : SocketQuery) (protocol : TransportProtocol) :
    DecidablePred (Wanted query protocol) :=
  fun _ => inferInstanceAs (Decidable (_ ∧ _ ∧ _ ∧ _))

/-- The sockets of one protocol the query asks for. -/
def Machine.wantedOf (m : Machine) (query : SocketQuery) (protocol : TransportProtocol) :
    List SocketInfo :=
  ((m.sockets protocol).filter (Wanted query protocol)).map (·.toSocketInfo protocol)

/-- The sockets the query asks for. -/
def Machine.wanted (m : Machine) (query : SocketQuery) : List SocketInfo :=
  m.wantedOf query .tcp ++ m.wantedOf query .udp

section Queries

variable {m : Machine} {query : SocketQuery} {protocol : TransportProtocol}

/-- The filter behind a dump. -/
theorem matchesQuery_iff {record : DiagRecord} :
    matchesQuery query protocol (record.toSocketInfo protocol) = true ↔
      (protocol = .udp → query.listeningOnly = true → record.remote = none) ∧
      ∀ localPort ∈ query.localPort, record.localPort.toNat = localPort := by
  unfold matchesQuery
  rw [Bool.and_eq_true]
  apply and_congr
  · cases hremote : record.remote <;> cases protocol <;>
      cases query.listeningOnly <;> simp [DiagRecord.toSocketInfo, hremote]
  · cases query.localPort with
    | none => simp
    | some localPort => simp [DiagRecord.toSocketInfo]

/-- The mask of a request. -/
theorem selects_iff {family : AddressFamily} {record : DiagRecord}
    (hstate : record.state.toNat < 32) :
    selects (asking (protocol, family) 0) record = true ↔
      record.family = family ∧ (protocol = .tcp → record.state = 10) := by
  have hlisten : record.state = 10 ↔ 10 = record.state.toNat := by
    rw [← UInt8.toNat_inj, eq_comm]
    rfl
  have hmask : (requestedStates protocol).testBit record.state.toNat = true ↔
      (protocol = .tcp → record.state = 10) := by
    unfold requestedStates
    cases protocol with
    | tcp => rw [Nat.testBit_two_pow, decide_eq_true_iff, hlisten, imp_iff_right rfl]
    | udp => rw [Nat.testBit_two_pow_sub_one, decide_eq_true_iff]; simp [hstate]
  simp [selects, asking, hmask]

/-- What is left of a dump: the sockets of its family that the query asks for. -/
theorem delivered_wanted {family : AddressFamily}
    (hprotocol : ∀ wanted ∈ query.protocol, wanted = protocol) :
    (m.delivered (protocol, family)).filter (matchesQuery query protocol) =
      (((m.sockets protocol).filter (Wanted query protocol)).filter (·.family == family)).map
        (·.toSocketInfo protocol) := by
  unfold Machine.delivered dumped
  rw [List.filter_map, List.filter_filter, List.filter_filter]
  congr 1
  apply List.filter_congr
  intro record hrecord
  have hstate : record.state.toNat < 32 := m.state_lt protocol record hrecord
  rw [Bool.eq_iff_iff, Bool.and_eq_true, Bool.and_eq_true, Function.comp_apply, matchesQuery_iff,
    selects_iff hstate, beq_iff_eq, decide_eq_true_iff, Wanted]
  tauto

theorem wantedOf_perm (hprotocol : ∀ wanted ∈ query.protocol, wanted = protocol) :
    ([(protocol, AddressFamily.ipv4), (protocol, .ipv6)].flatMap fun target =>
      (m.delivered target).filter (matchesQuery query target.1)).Perm (m.wantedOf query protocol) := by
  have hfamilies : ∀ record : DiagRecord, (record.family == .ipv6) = !(record.family == .ipv4) := by
    intro record
    cases record.family <;> rfl
  simp only [List.flatMap_cons, List.flatMap_nil, List.append_nil, delivered_wanted hprotocol]
  rw [← List.map_append, List.filter_congr fun record _ => hfamilies record]
  exact (List.filter_append_perm ..).map _

theorem wantedOf_other {wanted : TransportProtocol} (h : query.protocol = some wanted)
    (protocol : TransportProtocol) (hne : wanted ≠ protocol) : m.wantedOf query protocol = [] := by
  have hnone : (m.sockets protocol).filter (Wanted query protocol) = [] := by
    apply List.filter_eq_nil_iff.mpr
    intro record _ hwanted
    exact hne ((of_decide_eq_true hwanted).1 wanted h)
  rw [Machine.wantedOf, hnone, List.map_nil]

/-- The dumps of a query deliver what it asks for. -/
theorem rounds_perm (m : Machine) (query : SocketQuery) :
    ((m.rounds (dumpTargets query)).flatMap (found query)).Perm (m.wanted query) := by
  have hfound : (m.rounds (dumpTargets query)).flatMap (found query) =
      (dumpTargets query).flatMap fun target =>
        (m.delivered target).filter (matchesQuery query target.1) := by
    rw [Machine.rounds, List.flatMap_map]
    rfl
  rw [hfound, Machine.wanted, dumpTargets]
  cases hprotocol : query.protocol with
  | none =>
    -- both protocols, both families
    have hany : ∀ protocol, ∀ wanted ∈ query.protocol, wanted = protocol := by
      simp [hprotocol]
    exact List.flatMap_append ▸ (wantedOf_perm (hany .tcp)).append (wantedOf_perm (hany .udp))
  | some wanted =>
    have hsame : ∀ other ∈ query.protocol, other = wanted := by
      simp [hprotocol]
    cases wanted with
    | tcp =>
      rw [wantedOf_other hprotocol .udp (by decide), List.append_nil]
      exact wantedOf_perm hsame
    | udp =>
      rw [wantedOf_other hprotocol .tcp (by decide), List.nil_append]
      exact wantedOf_perm hsame

/-- **A query finds what it asks for**, in order. -/
theorem query_machine {strerror : Int → Bytes} {datagrams : Nat} {queue queue' : List Received}
    {log : (machineWorld m).Log} {r : Result (Observation (List SocketInfo))}
    (h : (machineWorld m).Runs (Netlink.query strerror datagrams query) queue log r queue') :
    ∃ sockets, r = .ok ⟨sockets, []⟩ ∧ sockets.Perm (m.wanted query) ∧
      sockets.Pairwise fun a b => socketKey a ≤ socketKey b := by
  obtain ⟨opened, l₁, l₂, queue₁, rfl, hopen, hrest⟩ := runs_bind_iff.mp h
  obtain ⟨answer, l₃, l₄, queue₂, rfl, hsocket, hopened⟩ := runs_bind_iff.mp hopen
  obtain ⟨rfl, rfl⟩ : answer = .ok () ∧ queue₂ = [] := (sys_machine.mp hsocket).2
  obtain ⟨rfl, hidle⟩ := runs_ret_iff.mp hopened
  obtain rfl := (idle_machine hidle).2
  obtain ⟨state, l₅, l₆, queue₃, rfl, hdumps, hconclude⟩ := runs_bind_iff.mp hrest
  have hlength : 1 + (dumpTargets query).length ≤ 2 ^ 32 := by
    have := length_dumpTargets_le query
    omega
  obtain ⟨rfl, rfl⟩ := runDumps_machine hlength hdumps
  obtain ⟨hlast, hwarnings⟩ : _ ∧ (stateAfter query (m.rounds (dumpTargets query)) {}).warnings = [] :=
    stateAfter_rounds
  -- no dump failed, so the query ends with the sorted list
  rw [show ({} : DumpState).last = none from rfl] at hlast
  unfold conclude at hconclude
  rw [hlast] at hconclude
  obtain ⟨sorted, l₇, l₈, queue₄, rfl, hsort, hreturn⟩ := runs_bind_iff.mp hconclude
  obtain ⟨rfl, -⟩ := runs_ret_iff.mp hreturn
  refine ⟨sorted.val, by rw [hwarnings], ?_, sorted.property.2⟩
  apply sorted.property.1.trans
  rw [stateAfter_value]
  exact rounds_perm m query

end Queries

/-! ## §5 Owners -/

namespace SocketInodeResolver

/-- What a table in order has under a key. -/
theorem Tidy.lookup_normalizeOwners {ownership : SocketOwnership} (h : Tidy ownership) (inode : Nat) :
    (((normalizeOwners ownership).lookup inode).getD []).Pairwise (· < ·) ∧
      ∀ pid, pid ∈ ((normalizeOwners ownership).lookup inode).getD [] ↔ Owns ownership inode pid := by
  cases hlookup : (normalizeOwners ownership).lookup inode with
  | none =>
    refine ⟨.nil, fun pid => iff_of_false List.not_mem_nil ?_⟩
    rintro ⟨owners, hmem, -⟩
    have hentry : (inode, PortService.unique (owners.insertionSort (· ≤ ·))) ∈
        normalizeOwners ownership := mem_normalizeOwners.mpr ⟨owners, hmem, rfl⟩
    simpa using List.lookup_eq_none_iff.mp hlookup _ hentry
  | some owners =>
    have hmem : (inode, owners) ∈ normalizeOwners ownership := by
      obtain ⟨l₁, l₂, hsplit, -⟩ := List.lookup_eq_some_iff.mp hlookup
      simp [hsplit]
    obtain ⟨found, hfound, rfl⟩ := mem_normalizeOwners.mp hmem
    refine ⟨PortService.unique_ascending (List.pairwise_insertionSort _ _), fun pid => ?_⟩
    rw [Option.getD_some, PortService.mem_unique, List.mem_insertionSort, h.mem_iff hfound]

end SocketInodeResolver

section Owners

variable {m : Machine} {strerror : Int → Bytes} {queue queue' : List Received}
  {log : (machineWorld m).Log}

/-- **The owners of an inode** are the processes that hold it. -/
theorem resolve_machine {inodes : List Nat} {r : Result (Observation SocketOwnership)}
    (hfits : ∀ inode ∈ inodes, inode < 2 ^ 64)
    (h : (machineWorld m).Runs (SocketInodeResolver.resolve strerror inodes) queue log r queue') :
    ∃ observed, r = .ok observed ∧ ∀ inode,
      ((observed.value.lookup inode).getD []).Pairwise (· < ·) ∧
      ∀ pid, pid ∈ (observed.value.lookup inode).getD [] ↔
        (inode ≠ 0 ∧ inode ∈ inodes) ∧ m.tree.Holds pid inode := by
  obtain ⟨hrun, hpath⟩ := h
  have htree : ∀ e ∈ events log, m.tree.Answers e := path_tree hpath
  cases r with
  | error error =>
    -- the root can be opened
    obtain ⟨-, errno, hevents, -⟩ := SocketInodeResolver.resolve_error hrun
    obtain ⟨listing, hlisting⟩ := m.mounted
    have hroot : .error errno = m.tree.root :=
      htree ⟨.rootDirectory, .error errno⟩ (by rw [hevents]; exact List.mem_singleton_self _)
    rw [hlisting] at hroot
    cases hroot
  | ok observed =>
    -- inodes are numbers of 64 bits
    have hwords : inodes = (inodes.map UInt64.ofNat).map UInt64.toNat := by
      have hsame : inodes.map (UInt64.toNat ∘ UInt64.ofNat) = inodes.map id :=
        List.map_congr_left fun inode hinode => Nat.mod_eq_of_lt (hfits inode hinode)
      rw [List.map_map, hsame, List.map_id]
    rw [hwords] at hrun ⊢
    obtain ⟨final, hscanned, rfl⟩ := SocketInodeResolver.resolve_ok hrun htree
    have htidy : SocketInodeResolver.Tidy final.ownership :=
      hscanned.tidy SocketInodeResolver.tidy_nil
    refine ⟨_, rfl, fun inode => ?_⟩
    obtain ⟨hascending, howners⟩ := htidy.lookup_normalizeOwners inode
    refine ⟨hascending, fun pid => ?_⟩
    rw [howners, hscanned.owns, SocketInodeResolver.mem_requested]
    simp [SocketInodeResolver.Owns]

end Owners

/-! ## §6 What the application layer is told -/

/-- The resolver has found the holders of the inodes it was asked for. -/
def Machine.Resolves (m : Machine) (inodes : List Nat) (ownership : SocketOwnership) : Prop :=
  ∀ inode, ((ownership.lookup inode).getD []).Pairwise (· < ·) ∧
    ∀ pid, pid ∈ (ownership.lookup inode).getD [] ↔
      (inode ≠ 0 ∧ inode ∈ inodes) ∧ m.tree.Holds pid inode

/-- The call got the answer that is true of the machine. -/
def Machine.Observes (m : Machine) : Event Contract → Prop
  | ⟨.querySockets query, r⟩ => ∃ sockets, r = .ok ⟨sockets, []⟩ ∧ sockets.Perm (m.wanted query) ∧
      sockets.Pairwise fun a b => socketKey a ≤ socketKey b
  | ⟨.resolveOwners inodes, r⟩ => (∀ inode ∈ inodes, inode < 2 ^ 64) →
      ∃ observed, r = .ok observed ∧ m.Resolves inodes observed.value
  | ⟨.getProcess pid, r⟩ => r = m.process pid
  | ⟨.unitByPid pid, r⟩ => r = m.unit pid
  | _ => True

/-- **The backend tells the truth**: whatever system calls it takes. -/
theorem backend_observes {m : Machine} {strerror : Int → Bytes} {datagrams : Nat} {call : Call}
    {x : call.Answer} {queue queue' : List Received} {log : (machineWorld m).Log}
    (h : (machineWorld m).Runs (implement strerror datagrams call) queue log x queue') :
    m.Observes ⟨call, x⟩ := by
  cases call with
  | querySockets query => exact query_machine h
  | resolveOwners inodes => exact fun hfits => resolve_machine hfits h
  | getProcess pid => exact (sys_machine.mp h).2.1
  | unitByPid pid => exact (sys_machine.mp h).2.1
  | _ => trivial

/-! ## §7 Nothing waits forever -/

section Answers

variable (m : Machine) (strerror : Int → Bytes)

/-- A dump with enough turns reads its answer to the end. -/
theorem exists_one {target : Target} {sequence datagrams : Nat} (hsequence : sequence < 2 ^ 32)
    (henough : (m.packing (asking target sequence)).queue.length ≤ datagrams) :
    ∃ log, (machineWorld m).Runs (one strerror datagrams target.2 target.1 sequence) [] log
      (.ok (m.delivered target)) [] := by
  have hsent : ¬ Unsent (target.request sequence) (doneAnswer sequence).sent.val :=
    doneAnswer_sent target sequence sequence
  have hdrained : drain strerror sequence target.1 (m.packing (asking target sequence)).queue [] =
      some (.ok (m.delivered target), []) := Packing.drained _ hsequence
  refine ⟨(⟨.sendto (target.request sequence), (doneAnswer sequence).sent⟩ ::
    (m.packing (asking target sequence)).queue.map received).map .inr, ?_, ?_⟩
  · rw [events_map_inr]
    exact one_run_iff.mpr ⟨_, _, rfl, .inr ⟨hsent, _, rfl, henough, hdrained⟩⟩
  · refine ⟨_, ⟨hsent, rfl⟩, path_queue.mpr ?_⟩
    rw [reply_dumpRequest hsequence, List.nil_append, List.append_nil]

theorem exists_runDumps (query : SocketQuery) (targets : List Target) (sequence : Nat)
    (state : DumpState) (hsequence : sequence + targets.length ≤ 2 ^ 32) :
    ∃ enough, ∀ datagrams ≥ enough, ∃ log, (machineWorld m).Runs
      (runDumps strerror datagrams query targets sequence state) [] log
      (stateAfter query (m.rounds targets) state) [] := by
  induction targets generalizing sequence state with
  | nil => exact ⟨0, fun _ _ => ⟨[], runs_ret_iff.mpr ⟨rfl, rfl, rfl⟩⟩⟩
  | cons target targets ih =>
    rw [List.length_cons] at hsequence
    obtain ⟨enough, hrest⟩ := ih (sequence + 1) (state.record query target.1 (.ok (m.delivered target)))
      (by omega)
    refine ⟨max enough (m.packing (asking target sequence)).queue.length, fun datagrams hle => ?_⟩
    obtain ⟨l₁, hone⟩ := exists_one m strerror (by omega) (le_of_max_le_right hle)
    obtain ⟨l₂, hlater⟩ := hrest datagrams (le_of_max_le_left hle)
    exact ⟨l₁ ++ l₂, runs_bind_iff.mpr ⟨_, l₁, l₂, [], rfl, hone, hlater⟩⟩

/-- `std::sort` has an order to give. -/
theorem exists_sorted (sockets : List SocketInfo) : ∃ sorted : List SocketInfo,
    sorted.Perm sockets ∧ sorted.Pairwise fun a b => socketKey a ≤ socketKey b := by
  let before (a b : SocketInfo) : Bool := socketKey a ≤ socketKey b
  have htrans : ∀ a b c, before a b = true → before b c = true → before a c = true :=
    fun a b c hab hbc => decide_eq_true ((of_decide_eq_true hab).trans (of_decide_eq_true hbc))
  have htotal : ∀ a b, (before a b || before b a) = true := by
    intro a b
    simpa [before] using le_total (socketKey a) (socketKey b)
  refine ⟨sockets.mergeSort before, List.mergeSort_perm .., ?_⟩
  exact (List.pairwise_mergeSort htrans htotal sockets).imp of_decide_eq_true

theorem exists_query (query : SocketQuery) : ∃ enough, ∀ datagrams ≥ enough, ∀ queue,
    ∃ log r queue', (machineWorld m).Runs (Netlink.query strerror datagrams query) queue log r
      queue' := by
  have hlength : 1 + (dumpTargets query).length ≤ 2 ^ 32 := by
    have := length_dumpTargets_le query
    omega
  obtain ⟨enough, hdumps⟩ := exists_runDumps m strerror query (dumpTargets query) 1 {} hlength
  refine ⟨enough, fun datagrams hle queue => ?_⟩
  obtain ⟨log, hlog⟩ := hdumps datagrams hle
  obtain ⟨sorted, hsorted⟩ := exists_sorted (stateAfter query (m.rounds (dumpTargets query)) {}).value
  obtain ⟨hlast, -⟩ : (stateAfter query (m.rounds (dumpTargets query)) {}).last = none ∧ _ :=
    stateAfter_rounds
  have hopen : (machineWorld m).Runs (NetlinkSocket.open' strerror) queue
      [.inr ⟨.socket, .ok ()⟩] (.ok ()) [] :=
    runs_bind_iff.mpr ⟨.ok (), _, [], [], rfl, sys_machine.mpr ⟨rfl, rfl, rfl⟩,
      runs_ret_iff.mpr ⟨rfl, rfl, rfl⟩⟩
  have hconclude : (machineWorld m).Runs
      (conclude (stateAfter query (m.rounds (dumpTargets query)) {})) []
      [.inr ⟨.sortSockets _, ⟨sorted, hsorted⟩⟩]
      (.ok ⟨sorted, (stateAfter query (m.rounds (dumpTargets query)) {}).warnings⟩) [] := by
    unfold conclude
    rw [hlast]
    exact runs_bind_iff.mpr ⟨⟨sorted, hsorted⟩, _, [], [], rfl, sys_machine.mpr ⟨rfl, rfl⟩,
      runs_ret_iff.mpr ⟨rfl, rfl, rfl⟩⟩
  exact ⟨_, _, [], runs_bind_iff.mpr ⟨.ok (), _, _, [], rfl, hopen,
    runs_bind_iff.mpr ⟨_, log, _, [], rfl, hlog, hconclude⟩⟩⟩

/-- The accesses to procfs. -/
def IsProcfs : SysCall → Prop
  | .rootDirectory | .fdDirectory _ | .fdLink _ _ => True
  | _ => False

theorem scanDescriptors_responsive {targets : List Nat} {entry : Bytes} {pid : Int}
    (descriptors : List Bytes) (state : SocketInodeResolver.ScanState) :
    Responsive IsProcfs (SocketInodeResolver.scanDescriptors targets entry pid descriptors state) := by
  induction descriptors generalizing state with
  | nil => trivial
  | cons descriptor rest ih =>
    refine ⟨trivial, fun answer => ?_⟩
    cases answer with
    | error errno => exact ih _
    | ok target =>
      dsimp only [Prog.bind]
      split
      · split
        · exact ih _
        · exact ih _
      · exact ih _

theorem scanProcesses_responsive {targets : List Nat} (entries : List Bytes)
    (state : SocketInodeResolver.ScanState) :
    Responsive IsProcfs (SocketInodeResolver.scanProcesses targets entries state) := by
  induction entries generalizing state with
  | nil => trivial
  | cons entry rest ih =>
    unfold SocketInodeResolver.scanProcesses
    split
    · exact ih _
    · refine ⟨trivial, fun answer => ?_⟩
      cases answer with
      | error errno => exact ih _
      | ok descriptors => exact (scanDescriptors_responsive _ _).bind fun _ => ih _

theorem resolve_responsive (inodes : List Nat) :
    Responsive IsProcfs (SocketInodeResolver.resolve strerror inodes) := by
  unfold SocketInodeResolver.resolve
  dsimp only
  split
  · trivial
  · refine ⟨trivial, fun answer => ?_⟩
    cases answer with
    | error errno => trivial
    | ok processes => exact (scanProcesses_responsive _ _).bind fun _ => trivial

/-- What an inspection of ports asks the backend for. -/
def IsInspection (query : SocketQuery) : Call → Prop
  | .querySockets asked => asked = query
  | .resolveOwners _ | .hashOrder _ | .getProcess _ | .unitByPid _ => True
  | _ => False

/-- **The backend answers** every call of an inspection, with enough turns for its dumps. -/
theorem backend_answers (query : SocketQuery) : ∃ enough, ∀ datagrams ≥ enough, ∀ queue call,
    IsInspection query call → ∃ log x queue',
      (machineWorld m).Runs (implement strerror datagrams call) queue log x queue' := by
  obtain ⟨enough, hquery⟩ := exists_query m strerror query
  refine ⟨enough, fun datagrams hle queue call hcall => ?_⟩
  cases call with
  | querySockets asked =>
    obtain rfl : asked = query := hcall
    exact hquery datagrams hle queue
  | resolveOwners inodes =>
    apply (resolve_responsive strerror inodes).exists_runs
    intro queue call hprocfs
    cases call with
    | rootDirectory => exact ⟨m.tree.root, queue, rfl, rfl⟩
    | fdDirectory entry => exact ⟨m.tree.fd entry, queue, rfl, rfl⟩
    | fdLink entry descriptor => exact ⟨m.tree.link entry descriptor, queue, rfl, rfl⟩
    | _ => exact hprocfs.elim
  | hashOrder pids =>
    exact ⟨_, ⟨pids, .refl _⟩, queue, sys_machine.mpr ⟨rfl, rfl⟩⟩
  | getProcess pid => exact ⟨_, m.process pid, queue, sys_machine.mpr ⟨rfl, rfl, rfl⟩⟩
  | unitByPid pid => exact ⟨_, m.unit pid, queue, sys_machine.mpr ⟨rfl, rfl, rfl⟩⟩
  | _ => exact hcall.elim

end Answers

end Lx
