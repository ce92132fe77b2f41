import Lx.Linux.Sys

/-!
# NetlinkSocketProvider

One sock-diag socket, up to four dumps on it, and the list they add up to
(`src/linux/netlink/NetlinkSocket.cpp`, `NetlinkSocketProvider.cpp`). A dump that fails
is recorded as a warning as long as another one succeeds.
-/

namespace Lx.Netlink

open Interaction

section Provider

variable (strerror : Int → Bytes)

/-! ## §1 The socket -/

/-- `error(op)` of `NetlinkSocket.cpp`, for the current `errno`. -/
def socketError (operation : Bytes) (errno : Errno) : Error where
  code := if errno = Errno.eacces ∨ errno = Errno.eperm then .permissionDenied else .ioError
  message := Bytes.ofString "Unable to " ++ operation ++ Bytes.ofString ": " ++ strerror errno
  systemError := errno
  component := "netlink-socket"
  operation := operation

namespace NetlinkSocket

def open' : Prog Sys (Result Unit) := do
  match ← sys .socket with
  | .error errno => return .error (socketError strerror "open sock-diag socket" errno)
  | .ok () => return .ok ()

def send (request : Bytes) : Prog Sys (Result Unit) := do
  let sent ← sys (.sendto request)
  if sent.val.ret < 0 ∨ sent.val.ret ≠ request.length then
    return .error (socketError strerror "send sock-diag request" sent.val.errno)
  else return .ok ()

def receive : Prog Sys (Result Datagram) := do
  match ← sys .recv with
  | .error errno => return .error (socketError strerror "receive sock-diag response" errno.val)
  | .ok data => return .ok data

end NetlinkSocket

/-! ## §2 One dump -/

/-- The receive loop of `one`, for answers of at most `datagrams` datagrams. -/
def receiveDump (sequence : Nat) (protocol : TransportProtocol) :
    Nat → List SocketInfo → Prog Sys (Result (List SocketInfo))
  | 0, _ => .block
  | datagrams + 1, values => do
    match ← NetlinkSocket.receive strerror with
    | .error error => return .error error
    | .ok data =>
      match parseInetDiagDatagram strerror data sequence protocol with
      | .error error => return .error error
      | .ok batch =>
        let values := values ++ batch.sockets
        if batch.done then return .ok values
        else receiveDump sequence protocol datagrams values

/-- The states a dump asks for: listening TCP sockets, all UDP sockets. -/
def requestedStates : TransportProtocol → Nat
  | .tcp => 2 ^ 10
  | .udp => 2 ^ 32 - 1

def one (datagrams : Nat) (family : AddressFamily) (protocol : TransportProtocol) (sequence : Nat) :
    Prog Sys (Result (List SocketInfo)) := do
  match ← NetlinkSocket.send strerror
      (buildInetDiagRequest family protocol sequence (requestedStates protocol)) with
  | .error error => return .error error
  | .ok () => receiveDump strerror sequence protocol datagrams []

/-! ## §3 All dumps of a query -/

/-- The variables of `query`'s loop. -/
structure DumpState where
  value : List SocketInfo := []
  warnings : List Warning := []
  last : Option Error := none
  attempts : Nat := 0
  failures : Nat := 0
  deriving DecidableEq, Repr

/-- The sockets of a dump the query asks for. -/
def matchesQuery (query : SocketQuery) (protocol : TransportProtocol) (item : SocketInfo) : Bool :=
  -- connected UDP sockets do not listen
  !(protocol == .udp && query.listeningOnly && item.remote.isSome) &&
    match query.localPort with
    | none => true
    | some localPort => item.localEnd.port == localPort

/-- One round of the loop, for the outcome of its dump. -/
def DumpState.record (query : SocketQuery) (state : DumpState) (protocol : TransportProtocol) :
    Result (List SocketInfo) → DumpState
  | .error error => { state with
      attempts := state.attempts + 1
      failures := state.failures + 1
      last := some error
      warnings := state.warnings ++ [warningFrom error] }
  | .ok items => { state with
      attempts := state.attempts + 1
      value := state.value ++ items.filter (matchesQuery query protocol) }

/-- The dumps a query makes, in order. -/
def dumpTargets (query : SocketQuery) : List (TransportProtocol × AddressFamily) :=
  ([TransportProtocol.tcp, .udp].filter fun protocol =>
    match query.protocol with
    | none => true
    | some wanted => wanted == protocol).flatMap fun protocol =>
      [(protocol, AddressFamily.ipv4), (protocol, .ipv6)]

def runDumps (datagrams : Nat) (query : SocketQuery) :
    List (TransportProtocol × AddressFamily) → Nat → DumpState → Prog Sys DumpState
  | [], _, state => return state
  | (protocol, family) :: rest, sequence, state => do
    let result ← one strerror datagrams family protocol sequence
    -- all dumps use the same socket; they are told apart by their sequence number
    runDumps datagrams query rest (sequence + 1) (state.record query protocol result)

/-- The end of `query`: everything failed, or a sorted list with warnings. -/
def conclude (state : DumpState) : Prog Sys (Result (Observation (List SocketInfo))) :=
  match state.last with
  | some last =>
    -- one dump that succeeded is enough, however the others went
    if state.failures = state.attempts then return .error last
    else do
      let sorted ← sys (.sortSockets state.value)
      return .ok ⟨sorted.val, state.warnings⟩
  | none => do
    let sorted ← sys (.sortSockets state.value)
    return .ok ⟨sorted.val, state.warnings⟩

/-- `NetlinkSocketProvider::query` -/
def query (datagrams : Nat) (query : SocketQuery) :
    Prog Sys (Result (Observation (List SocketInfo))) := do
  match ← NetlinkSocket.open' strerror with
  | .error error => return .error error
  | .ok () =>
    let state ← runDumps strerror datagrams query (dumpTargets query) 1 {}
    conclude state

end Provider

/-! ## §4 The receive loop on a queue -/

/-- What `recv` finds: a datagram, or an error. -/
abbrev Received := Except { errno : Errno // errno ≠ Errno.eintr } Datagram

/-- The exchange of one `recv`. -/
def received (x : Received) : Event Sys := ⟨.recv, x⟩

theorem received_injective : Function.Injective received := by
  intro x y h
  cases h
  rfl

section Drain

variable (strerror : Int → Bytes) (sequence : Nat) (protocol : TransportProtocol)

/-- The loop of `one` on a queue: its outcome and what it leaves in the queue, or nothing
    when it goes on waiting. -/
def drain : List Received → List SocketInfo → Option (Result (List SocketInfo) × List Received)
  | [], _ => none
  | .error errno :: rest, _ =>
    some (.error (socketError strerror "receive sock-diag response" errno.val), rest)
  | .ok data :: rest, values =>
    match parseInetDiagDatagram strerror data sequence protocol with
    | .error error => some (.error error, rest)
    | .ok batch =>
      if batch.done then some (.ok (values ++ batch.sockets), rest)
      else drain rest (values ++ batch.sockets)

variable {strerror sequence protocol}

/-- **The receive loop is `drain`**: it reads as many datagrams as it needs and no more. -/
theorem receiveDump_run_iff {datagrams : Nat} {values : List SocketInfo} {t : Trace Sys}
    {r : Result (List SocketInfo)} :
    (receiveDump strerror sequence protocol datagrams values).Run t r ↔
      ∃ queue : List Received, t = queue.map received ∧ queue.length ≤ datagrams ∧
        drain strerror sequence protocol queue values = some (r, []) := by
  induction datagrams generalizing values t with
  | zero =>
    constructor
    · exact False.elim
    · rintro ⟨queue, -, hlength, hdrain⟩
      obtain rfl := List.eq_nil_of_length_eq_zero (Nat.le_zero.mp hlength)
      cases hdrain
  | succ datagrams ih =>
    constructor
    · intro h
      obtain ⟨result, t₁, t₂, hreceive, hk, rfl⟩ := Prog.run_bind_iff.mp h
      obtain ⟨x, _, _, hx, hresult, rfl⟩ := Prog.run_bind_iff.mp hreceive
      obtain rfl := Prog.run_perform.mp hx
      cases x with
      | error errno =>
        obtain ⟨rfl, rfl⟩ := hresult
        obtain ⟨rfl, rfl⟩ := hk
        exact ⟨[.error errno], rfl, Nat.le_add_left 1 _, rfl⟩
      | ok data =>
        obtain ⟨rfl, rfl⟩ := hresult
        dsimp only at hk
        cases hparsed : parseInetDiagDatagram strerror data sequence protocol with
        | error error =>
          rw [hparsed] at hk
          obtain ⟨rfl, rfl⟩ := hk
          exact ⟨[.ok data], rfl, Nat.le_add_left 1 _, by simp [drain, hparsed]⟩
        | ok batch =>
          rw [hparsed] at hk
          dsimp only at hk
          by_cases hdone : batch.done = true
          · rw [if_pos hdone] at hk
            obtain ⟨rfl, rfl⟩ := hk
            exact ⟨[.ok data], rfl, Nat.le_add_left 1 _, by simp [drain, hparsed, hdone]⟩
          · rw [if_neg hdone] at hk
            obtain ⟨queue, rfl, hlength, hdrain⟩ := ih.mp hk
            exact ⟨.ok data :: queue, rfl, Nat.succ_le_succ hlength,
              by simp [drain, hparsed, hdone, hdrain]⟩
    · rintro ⟨queue, rfl, hlength, hdrain⟩
      -- the event that is read first
      have hreceive : ∀ x : Received, (NetlinkSocket.receive strerror).Run [received x]
          (x.mapError fun errno => socketError strerror "receive sock-diag response" errno.val) := by
        intro x
        refine Prog.run_bind_iff.mpr ⟨x, [received x], [], Prog.run_perform.mpr rfl, ?_, rfl⟩
        cases x <;> exact ⟨rfl, rfl⟩
      cases queue with
      | nil => cases hdrain
      | cons x queue =>
        refine Prog.run_bind_iff.mpr ⟨_, [received x], queue.map received, hreceive x, ?_, rfl⟩
        cases x with
        | error errno =>
          cases hdrain
          exact ⟨rfl, rfl⟩
        | ok data =>
          simp only [drain] at hdrain
          change (match parseInetDiagDatagram strerror data sequence protocol with
            | .error error => _
            | .ok batch => _ : Prog Sys _).Run _ _
          cases hparsed : parseInetDiagDatagram strerror data sequence protocol with
          | error error =>
            rw [hparsed] at hdrain
            cases hdrain
            exact ⟨rfl, rfl⟩
          | ok batch =>
            rw [hparsed] at hdrain
            dsimp only at hdrain ⊢
            by_cases hdone : batch.done = true
            · rw [if_pos hdone] at hdrain ⊢
              cases hdrain
              exact ⟨rfl, rfl⟩
            · rw [if_neg hdone] at hdrain ⊢
              exact ih.mpr ⟨queue, rfl, Nat.le_of_succ_le_succ hlength, hdrain⟩

/-- The request of a dump. -/
def dumpRequest (family : AddressFamily) (protocol : TransportProtocol) (sequence : Nat) : Bytes :=
  buildInetDiagRequest family protocol sequence (requestedStates protocol)

/-- `sendto` failed, or did not take the whole request. -/
def Unsent (request : Bytes) (answer : SysReturn) : Prop :=
  answer.ret < 0 ∨ answer.ret ≠ request.length

instance (request : Bytes) (answer : SysReturn) : Decidable (Unsent request answer) :=
  inferInstanceAs (Decidable (_ ∨ _))

theorem send_run_iff {request : Bytes} {t : Trace Sys} {result : Result Unit} :
    (NetlinkSocket.send strerror request).Run t result ↔
      ∃ sent, t = [⟨.sendto request, sent⟩] ∧ (Unsent request sent.val ∧
        result = .error (socketError strerror "send sock-diag request" sent.val.errno) ∨
        ¬ Unsent request sent.val ∧ result = .ok ()) := by
  -- the condition of the source is `Unsent` spelled out
  have hsent : (NetlinkSocket.send strerror request).Run t result ↔
      ∃ sent t', t = ⟨.sendto request, sent⟩ :: t' ∧
        (if Unsent request sent.val then
          .ret (.error (socketError strerror "send sock-diag request" sent.val.errno))
        else .ret (.ok ()) : Prog Sys (Result Unit)).Run t' result := Iff.rfl
  rw [hsent]
  constructor
  · rintro ⟨sent, t', rfl, h⟩
    refine ⟨sent, ?_⟩
    by_cases hunsent : Unsent request sent.val
    · rw [if_pos hunsent] at h
      obtain ⟨rfl, rfl⟩ := h
      exact ⟨rfl, .inl ⟨hunsent, rfl⟩⟩
    · rw [if_neg hunsent] at h
      obtain ⟨rfl, rfl⟩ := h
      exact ⟨rfl, .inr ⟨hunsent, rfl⟩⟩
  · rintro ⟨sent, rfl, ⟨hunsent, rfl⟩ | ⟨hunsent, rfl⟩⟩
    · refine ⟨sent, [], rfl, ?_⟩
      rw [if_pos hunsent]
      exact ⟨rfl, rfl⟩
    · refine ⟨sent, [], rfl, ?_⟩
      rw [if_neg hunsent]
      exact ⟨rfl, rfl⟩

/-- A dump sends its request and drains the queue. -/
theorem one_run_iff {datagrams : Nat} {family : AddressFamily} {t : Trace Sys}
    {r : Result (List SocketInfo)} :
    (one strerror datagrams family protocol sequence).Run t r ↔
      ∃ sent t', t = ⟨.sendto (dumpRequest family protocol sequence), sent⟩ :: t' ∧
        (Unsent (dumpRequest family protocol sequence) sent.val ∧ t' = [] ∧
          r = .error (socketError strerror "send sock-diag request" sent.val.errno) ∨
        ¬ Unsent (dumpRequest family protocol sequence) sent.val ∧
          ∃ queue : List Received, t' = queue.map received ∧ queue.length ≤ datagrams ∧
            drain strerror sequence protocol queue [] = some (r, [])) := by
  constructor
  · intro h
    obtain ⟨result, t₁, t', hsend, hk, rfl⟩ := Prog.run_bind_iff.mp h
    obtain ⟨sent, rfl, ⟨hunsent, rfl⟩ | ⟨hsent, rfl⟩⟩ := send_run_iff.mp hsend
    · obtain ⟨rfl, rfl⟩ := hk
      exact ⟨sent, [], rfl, .inl ⟨hunsent, rfl, rfl⟩⟩
    · exact ⟨sent, t', rfl, .inr ⟨hsent, receiveDump_run_iff.mp hk⟩⟩
  · rintro ⟨sent, t', rfl, ⟨hunsent, rfl, rfl⟩ | ⟨hsent, hdrain⟩⟩
    · exact Prog.run_bind_iff.mpr ⟨_, _, [], send_run_iff.mpr ⟨sent, rfl, .inl ⟨hunsent, rfl⟩⟩,
        ⟨rfl, rfl⟩, rfl⟩
    · exact Prog.run_bind_iff.mpr ⟨_, _, t', send_run_iff.mpr ⟨sent, rfl, .inr ⟨hsent, rfl⟩⟩,
        receiveDump_run_iff.mpr hdrain, rfl⟩

end Drain

/-! ## §5 Runs of a query -/

section Runs

variable {strerror : Int → Bytes} {datagrams sequence : Nat} {t : Trace Sys}

theorem socketError_code (operation : Bytes) (errno : Errno) :
    (socketError strerror operation errno).code ≠ .notFound := by
  unfold socketError
  dsimp only
  split <;> simp

theorem drain_error {protocol : TransportProtocol} {queue left : List Received}
    {values : List SocketInfo} {error : Error}
    (h : drain strerror sequence protocol queue values = some (.error error, left)) :
    error.code ≠ .notFound := by
  induction queue generalizing values with
  | nil => cases h
  | cons x queue ih =>
    cases x with
    | error errno =>
      cases h
      exact socketError_code _ _
    | ok data =>
      simp only [drain] at h
      cases hparsed : parseInetDiagDatagram strerror data sequence protocol with
      | error error' =>
        rw [hparsed] at h
        cases h
        simp [parseMessages_error hparsed]
      | ok batch =>
        rw [hparsed] at h
        dsimp only at h
        split at h
        · cases h
        · exact ih h

/-- A failed dump is a matter of permission, of input or of protocol. -/
theorem one_error {family : AddressFamily} {protocol : TransportProtocol} {error : Error}
    (h : (one strerror datagrams family protocol sequence).Run t (.error error)) :
    error.code ≠ .notFound := by
  obtain ⟨sent, t', rfl, ⟨-, -, herror⟩ | ⟨-, queue, -, -, hdrain⟩⟩ := one_run_iff.mp h
  · obtain rfl := Except.error.inj herror
    exact socketError_code _ _
  · exact drain_error hdrain

/-- A dump of a query with its outcome. -/
abbrev Round := (TransportProtocol × AddressFamily) × Result (List SocketInfo)

/-- The sockets a round contributes. -/
def found (query : SocketQuery) (round : Round) : List SocketInfo :=
  match round.2 with
  | .ok items => items.filter (matchesQuery query round.1.1)
  | .error _ => []

/-- `t` is what the dumps of `rounds` exchanged, one after the other. -/
def Dumped (strerror : Int → Bytes) (datagrams : Nat) : Nat → List Round → Trace Sys → Prop
  | _, [], t => t = []
  | sequence, (target, outcome) :: rest, t => ∃ t₁ t₂, t = t₁ ++ t₂ ∧
      (one strerror datagrams target.2 target.1 sequence).Run t₁ outcome ∧
      Dumped strerror datagrams (sequence + 1) rest t₂

/-- The answers of the kernel decide what the dumps of a query came to. -/
theorem Dumped.prefix_unique {as bs : List Round} {t₁ t₂ u₁ u₂ : Trace Sys}
    (ha : Dumped strerror datagrams sequence as t₁) (hb : Dumped strerror datagrams sequence bs t₂)
    (htargets : as.map Prod.fst = bs.map Prod.fst) (heq : t₁ ++ u₁ = t₂ ++ u₂) :
    as = bs ∧ u₁ = u₂ := by
  induction as generalizing bs sequence t₁ t₂ with
  | nil =>
    obtain rfl := List.map_eq_nil_iff.mp htargets.symm
    obtain rfl : t₁ = [] := ha
    obtain rfl : t₂ = [] := hb
    exact ⟨rfl, heq⟩
  | cons round rest ih =>
    obtain ⟨round', rest', rfl, htarget, hrest⟩ := List.map_eq_cons_iff.mp htargets.symm
    obtain ⟨target, outcome⟩ := round
    obtain ⟨target', outcome'⟩ := round'
    obtain rfl : target' = target := htarget
    obtain ⟨s₁, d₁, rfl, hone, hd₁⟩ := ha
    obtain ⟨s₂, d₂, rfl, hone', hd₂⟩ := hb
    simp only [List.append_assoc] at heq
    -- the same dump reads the same answers, and the next one starts at the same event
    obtain ⟨-, htail, rfl⟩ := hone.prefix_unique hone' heq
    obtain ⟨rfl, hafter⟩ := ih hd₁ hd₂ hrest.symm htail
    exact ⟨rfl, hafter⟩

/-- The loop's variables after some rounds. -/
def stateAfter (query : SocketQuery) (rounds : List Round) (state : DumpState) : DumpState :=
  rounds.foldl (fun state round => state.record query round.1.1 round.2) state

/-- The loop runs the dumps one after the other and keeps count of them. -/
theorem runDumps_run_iff {query : SocketQuery} {targets : List (TransportProtocol × AddressFamily)}
    {state final : DumpState} :
    (runDumps strerror datagrams query targets sequence state).Run t final ↔
      ∃ rounds, rounds.map Prod.fst = targets ∧ Dumped strerror datagrams sequence rounds t ∧
        final = stateAfter query rounds state := by
  induction targets generalizing sequence state t with
  | nil =>
    constructor
    · rintro ⟨rfl, rfl⟩
      exact ⟨[], rfl, rfl, rfl⟩
    · rintro ⟨rounds, hrounds, hdumped, rfl⟩
      obtain rfl := List.map_eq_nil_iff.mp hrounds
      exact ⟨hdumped, rfl⟩
  | cons target targets ih =>
    constructor
    · intro h
      obtain ⟨outcome, t₁, t₂, ho, hk, rfl⟩ := Prog.run_bind_iff.mp h
      obtain ⟨rounds, htargets, hdumped, rfl⟩ := ih.mp hk
      exact ⟨(target, outcome) :: rounds, by simp [htargets], ⟨t₁, t₂, rfl, ho, hdumped⟩, rfl⟩
    · rintro ⟨_ | ⟨⟨target', outcome⟩, rounds⟩, hrounds, hdumped, rfl⟩
      · cases hrounds
      · obtain ⟨rfl, htargets⟩ := List.cons.inj hrounds
        obtain ⟨t₁, t₂, rfl, ho, hrest⟩ := hdumped
        exact Prog.run_bind_iff.mpr ⟨outcome, t₁, t₂, ho, ih.mpr ⟨rounds, htargets, hrest, rfl⟩, rfl⟩

theorem stateAfter_value {query : SocketQuery} {rounds : List Round} {state : DumpState} :
    (stateAfter query rounds state).value = state.value ++ rounds.flatMap (found query) := by
  induction rounds generalizing state with
  | nil => simp [stateAfter]
  | cons round rounds ih =>
    obtain ⟨target, outcome⟩ := round
    change (stateAfter query rounds _).value = _
    rw [ih]
    cases outcome with
    | error error => simp [DumpState.record, found]
    | ok items => simp [DumpState.record, found]

/-- The error kept for the case that everything fails is that of a dump. -/
theorem stateAfter_last {query : SocketQuery} {rounds : List Round} {state : DumpState} {last : Error}
    (h : (stateAfter query rounds state).last = some last) :
    state.last = some last ∨ ∃ target, (target, Except.error last) ∈ rounds := by
  induction rounds generalizing state with
  | nil => exact .inl h
  | cons round rounds ih =>
    obtain ⟨target, outcome⟩ := round
    rcases ih h with hlast | ⟨target', hmem⟩
    · cases outcome with
      | error error =>
        obtain rfl := Option.some.inj hlast
        exact .inr ⟨target, by simp⟩
      | ok items => exact .inl hlast
    · exact .inr ⟨target', by simp [hmem]⟩

theorem dumped_error {rounds : List Round} {target : TransportProtocol × AddressFamily} {error : Error}
    (h : Dumped strerror datagrams sequence rounds t) (hmem : (target, Except.error error) ∈ rounds) :
    error.code ≠ .notFound := by
  induction rounds generalizing sequence t with
  | nil => cases hmem
  | cons round rounds ih =>
    obtain ⟨target', outcome⟩ := round
    obtain ⟨t₁, t₂, rfl, hone, hrest⟩ := h
    rcases List.mem_cons.mp hmem with heq | hmem
    · obtain ⟨rfl, rfl⟩ := Prod.mk.inj heq
      exact one_error hone
    · exact ih hrest hmem

/-- The trace of a query that got as far as its dumps. -/
def Queried (strerror : Int → Bytes) (datagrams : Nat) (query : SocketQuery) (rounds : List Round)
    (t : Trace Sys) : Prop :=
  ∃ dumps after, t = ⟨.socket, .ok ()⟩ :: (dumps ++ after) ∧
    rounds.map Prod.fst = dumpTargets query ∧ Dumped strerror datagrams 1 rounds dumps ∧
    ∀ e ∈ after, ∃ sockets, e.1 = .sortSockets sockets

/-- The outcomes of a query: it never fails with `NotFound`, and a successful one lists what
    its successful dumps found. -/
theorem query_run {query : SocketQuery} {r : Result (Observation (List SocketInfo))}
    (h : (Netlink.query strerror datagrams query).Run t r) :
    (∃ error, r = .error error ∧ error.code ≠ .notFound) ∨
    (∃ rounds observed, r = .ok observed ∧ Queried strerror datagrams query rounds t ∧
      observed.value.Perm (rounds.flatMap (found query))) := by
  obtain ⟨opened, t₁, t₂, ho, hk, rfl⟩ := Prog.run_bind_iff.mp h
  obtain ⟨answer, _, _, ha, hanswer, rfl⟩ := Prog.run_bind_iff.mp ho
  obtain rfl := Prog.run_perform.mp ha
  cases answer with
  | error errno =>
    obtain ⟨rfl, rfl⟩ := hanswer
    obtain ⟨rfl, rfl⟩ := hk
    exact .inl ⟨_, rfl, socketError_code _ _⟩
  | ok _ =>
    obtain ⟨rfl, rfl⟩ := hanswer
    obtain ⟨state, dumps, t₃, hd, hk₁, rfl⟩ := Prog.run_bind_iff.mp hk
    obtain ⟨rounds, htargets, hdumped, rfl⟩ := runDumps_run_iff.mp hd
    -- the two ways to a list are one
    have hsorted : (do
        let sorted ← sys (.sortSockets (stateAfter query rounds {}).value)
        return Except.ok ⟨sorted.val, (stateAfter query rounds {}).warnings⟩ :
          Prog Sys (Result (Observation (List SocketInfo)))).Run t₃ r →
        ∃ rounds observed, r = .ok observed ∧
          Queried strerror datagrams query rounds ([⟨.socket, .ok ()⟩] ++ [] ++ (dumps ++ t₃)) ∧
          observed.value.Perm (rounds.flatMap (found query)) := by
      intro hk₂
      obtain ⟨sorted, _, _, hs, ⟨rfl, rfl⟩, rfl⟩ := Prog.run_bind_iff.mp hk₂
      obtain rfl := Prog.run_perform.mp hs
      refine ⟨rounds, _, rfl, ⟨dumps, _, rfl, htargets, hdumped, ?_⟩, ?_⟩
      · intro e he
        obtain rfl := List.mem_singleton.mp (by simpa using he)
        exact ⟨_, rfl⟩
      · exact sorted.property.1.trans (.of_eq stateAfter_value)
    unfold conclude at hk₁
    split at hk₁
    · rename_i last hlast
      split at hk₁
      · obtain ⟨rfl, rfl⟩ := hk₁
        refine .inl ⟨last, rfl, ?_⟩
        rcases stateAfter_last hlast with hnone | ⟨target, hmem⟩
        · cases hnone
        · exact dumped_error hdumped hmem
      · exact .inr (hsorted hk₁)
    · exact .inr (hsorted hk₁)

end Runs

end Lx.Netlink
