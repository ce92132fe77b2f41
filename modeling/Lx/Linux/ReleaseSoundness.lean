import Lx.Application.PortRelease
import Lx.Linux.NetlinkSocketProvider
import Lx.Linux.SocketInodeResolver

/-!
# What a reported release says about the kernel's sockets

The release operations run on the real socket backend: `ISocketProvider::query` is
`NetlinkSocketProvider::query` and `ISocketOwnerResolver::resolve` is
`SocketInodeResolver::resolve`; the other providers stay arbitrary. A release is reported
after an observation answered with `NotFound`. Followed down to the system calls, that
is an observation whose dumps found nothing *as far as they succeeded*, or one whose
owners could not be resolved because the procfs root was gone.
-/

namespace Lx

open Interaction

/-- The backend of the application layer. -/
def implement (strerror : Int → Bytes) (datagrams : Nat) : (c : Call) → Prog Sys c.Answer
  | .querySockets query => Netlink.query strerror datagrams query
  | .resolveOwners inodes => SocketInodeResolver.resolve strerror inodes
  | call => sys (.contract call)

/-- The operations that execute a plan. -/
inductive ReleaseOperation where
  | terminate
  | force
  | stopManagedService
  deriving DecidableEq, Repr

def ReleaseOperation.program (operation : ReleaseOperation) (ports : PortService)
    (plan : PortReleasePlan) : App (Result (Observation PortReleaseResult)) :=
  match operation with
  | .terminate => ports.terminate plan
  | .force => ports.force plan
  | .stopManagedService => ports.stopManagedService plan

/-- A reported release rests on an observation that ended with `NotFound`. -/
theorem ReleaseOperation.endsNotFound {operation : ReleaseOperation} {ports : PortService}
    {plan : PortReleasePlan} {t : Trace Contract} {result : Observation PortReleaseResult}
    (h : (operation.program ports plan).Run t (.ok result)) (hreleased : result.value.released = true) :
    ports.EndsNotFound plan.localPort t := by
  cases operation with
  | terminate => exact PortService.terminate_released h hreleased
  | force => exact PortService.force_released h hreleased
  | stopManagedService => exact PortService.stopManagedService_released h

namespace Netlink

/-- Every dump succeeded. -/
def Complete (rounds : List Round) : Prop := ∀ round ∈ rounds, ∃ items, round.2 = .ok items

/-- No dump delivered a socket the query asks for. -/
def Empty (query : SocketQuery) (rounds : List Round) : Prop :=
  ∀ round ∈ rounds, ∀ items, round.2 = .ok items →
    ∀ item ∈ items, matchesQuery query round.1.1 item = false

theorem empty_iff {query : SocketQuery} {rounds : List Round} :
    Empty query rounds ↔ rounds.flatMap (found query) = [] := by
  rw [List.flatMap_eq_nil_iff]
  refine forall₂_congr fun round _ => ?_
  obtain ⟨target, outcome⟩ := round
  cases outcome with
  | error error => simp [found]
  | ok items => simp [found]

end Netlink

/-- The query a release plan is checked with. -/
def portQuery (localPort : Nat) : SocketQuery := { localPort := some localPort }

/-- The procfs root could not be opened because it does not exist. -/
def RootMissing (t : Trace Sys) : Prop :=
  ∃ errno, ⟨.rootDirectory, .error errno⟩ ∈ t ∧ SocketInodeResolver.disappeared errno = true

open Netlink

variable {strerror : Int → Bytes} {datagrams : Nat} {ports : PortService} {plan : PortReleasePlan}

/-- A release is reported after a last query that ended all right; everything its dumps
    delivered has been looked at, so what a complete query misses can only be owners of an
    unresolvable root. -/
theorem released_sound_iff {operation : ReleaseOperation} {t : Trace Sys}
    {result : Observation PortReleaseResult}
    (h : ((operation.program ports plan).interpret (implement strerror datagrams)).Run t (.ok result))
    (hreleased : result.value.released = true) :
    ∃ rounds before queried after, t = before ++ (queried ++ after) ∧
      Queried strerror datagrams (portQuery plan.localPort) rounds queried ∧
      (∀ e ∈ after, e.1 ≠ .socket) ∧
      (Complete rounds ∧ Empty (portQuery plan.localPort) rounds ↔
        Complete rounds ∧ ¬ RootMissing after) := by
  obtain ⟨u, hu, himp⟩ := Prog.run_interpret_iff.mp h
  -- all three operations report a release only after an observation that ended in `NotFound`
  obtain ⟨before, observation, error, rfl, hobs, hcode⟩ :=
    ReleaseOperation.endsNotFound hu hreleased
  obtain ⟨tb, tobs, rfl, -, hlast⟩ := himp.append_inv
  rcases PortService.prepareRelease_notFound hobs hcode with rfl | ⟨sockets, rfl⟩ |
    ⟨sockets, ownership, order, hnone, rfl⟩
  · -- a failed query is never `NotFound`
    obtain ⟨tq, _, rfl, hquery, -⟩ := Prog.implements_cons_iff.mp hlast
    rcases query_run hquery with ⟨_, herror, hne⟩ | ⟨_, _, hok, -⟩
    · obtain rfl := Except.error.inj herror
      exact absurd hcode hne
    · cases hok
  · -- sockets were found, and the root was gone when their owners were looked up
    obtain ⟨tq, _, rfl, hquery, hrest⟩ := Prog.implements_cons_iff.mp hlast
    obtain ⟨tr, _, rfl, hresolve, hnil⟩ := Prog.implements_cons_iff.mp hrest
    obtain rfl := Prog.implements_nil_iff.mp hnil
    obtain ⟨hne, errno, rfl, herror⟩ := SocketInodeResolver.resolve_error hresolve
    rcases query_run hquery with ⟨_, hr, -⟩ | ⟨rounds, observed, hr, hqueried, hperm⟩
    · cases hr
    · obtain rfl := Except.ok.inj hr
      refine ⟨rounds, tb, tq, _, rfl, hqueried, by simp, iff_of_false ?_ ?_⟩
      · rintro ⟨-, hempty⟩
        -- there were inodes to resolve, so some socket was found
        rw [(hperm.trans (.of_eq (empty_iff.mp hempty))).eq_nil] at hne
        exact hne rfl
      · rintro ⟨-, hroot⟩
        refine hroot ⟨errno, by simp, ?_⟩
        rw [herror] at hcode
        unfold SocketInodeResolver.errorCode at hcode
        split_ifs at hcode with _ hgone
        exact hgone
  · -- nothing was found, and nothing had to be resolved
    obtain ⟨tq, _, rfl, hquery, hrest⟩ := Prog.implements_cons_iff.mp hlast
    obtain ⟨tr, _, rfl, hresolve, hrest'⟩ := Prog.implements_cons_iff.mp hrest
    obtain ⟨th, _, rfl, horder, hnil⟩ := Prog.implements_cons_iff.mp hrest'
    obtain rfl := Prog.implements_nil_iff.mp hnil
    obtain ⟨rfl, -⟩ : tr = [] ∧ _ := hresolve
    obtain rfl := Prog.run_perform.mp horder
    rcases query_run hquery with ⟨_, hr, -⟩ | ⟨rounds, observed, hr, hqueried, hperm⟩
    · cases hr
    · obtain rfl := Except.ok.inj hr
      refine ⟨rounds, tb, tq, _, rfl, hqueried, by simp, and_congr_right fun _ => ?_⟩
      rw [hnone] at hperm
      refine iff_of_true (empty_iff.mpr hperm.nil_eq.symm) ?_
      rintro ⟨errno, hmem, -⟩
      cases List.mem_singleton.mp (by simpa using hmem)

/-! ## Two concrete observations -/

/-- The request of a dump, sent completely. -/
def sendEvent (family : AddressFamily) (protocol : TransportProtocol) (sequence : Nat) : Event Sys :=
  ⟨.sendto (buildInetDiagRequest family protocol sequence (requestedStates protocol)),
    ⟨⟨72, 0⟩, sent_uninterrupted⟩⟩

theorem sendEvent_run {family : AddressFamily} {protocol : TransportProtocol} {sequence : Nat} :
    (NetlinkSocket.send strerror
      (buildInetDiagRequest family protocol sequence (requestedStates protocol))).Run
      [sendEvent family protocol sequence] (.ok ()) := by
  have hlength : (buildInetDiagRequest family protocol sequence (requestedStates protocol)).length =
      72 := by
    simp [buildInetDiagRequest, Bytes.ofNatLE]
  refine Prog.run_bind_iff.mpr ⟨_, _, [], Prog.run_perform.mpr rfl, ?_, rfl⟩
  rw [hlength]
  exact ⟨rfl, rfl⟩

theorem one_done {family : AddressFamily} {protocol : TransportProtocol} {sequence : Nat}
    (h : sequence < 2 ^ 32) : (one strerror 1 family protocol sequence).Run
      [sendEvent family protocol sequence, ⟨.recv, .ok (doneDatagram sequence)⟩] (.ok []) := by
  have hreceived : (NetlinkSocket.receive strerror).Run [⟨.recv, .ok (doneDatagram sequence)⟩]
      (.ok (doneDatagram sequence)) := ⟨_, _, rfl, rfl, rfl⟩
  have hloop : (receiveDump strerror sequence protocol 1 []).Run
      [⟨.recv, .ok (doneDatagram sequence)⟩] (.ok []) := by
    refine Prog.run_bind_iff.mpr ⟨_, _, [], hreceived, ?_, rfl⟩
    simp [parse_doneDatagram h]
  exact Prog.run_bind_iff.mpr ⟨_, _, _, sendEvent_run, hloop, rfl⟩

/-- `ENOBUFS` while the answer to the first dump is received. -/
def overrunEvent : Event Sys := ⟨.recv, .error ⟨105, Errno.enobufs_ne_eintr⟩⟩

theorem one_overrun {family : AddressFamily} {protocol : TransportProtocol} {sequence : Nat} :
    (one strerror 1 family protocol sequence).Run [sendEvent family protocol sequence, overrunEvent]
      (.error (socketError strerror "receive sock-diag response" 105)) := by
  have hloop : (receiveDump strerror sequence protocol 1 []).Run [overrunEvent]
      (.error (socketError strerror "receive sock-diag response" 105)) :=
    ⟨_, _, rfl, rfl, rfl⟩
  exact Prog.run_bind_iff.mpr ⟨_, _, _, sendEvent_run, hloop, rfl⟩

/-- The four dumps of a query, the first of them with this answer and outcome. -/
def exampleDumps (first : Event Sys) : Trace Sys :=
  [sendEvent .ipv4 .tcp 1, first, sendEvent .ipv6 .tcp 2, ⟨.recv, .ok (doneDatagram 2)⟩,
    sendEvent .ipv4 .udp 3, ⟨.recv, .ok (doneDatagram 3)⟩,
    sendEvent .ipv6 .udp 4, ⟨.recv, .ok (doneDatagram 4)⟩]

def exampleRounds (first : Result (List SocketInfo)) : List Round :=
  [((.tcp, .ipv4), first), ((.tcp, .ipv6), .ok []), ((.udp, .ipv4), .ok []), ((.udp, .ipv6), .ok [])]

theorem exampleDumps_dumped {first : Event Sys} {outcome : Result (List SocketInfo)}
    (h : (one strerror 1 .ipv4 .tcp 1).Run [sendEvent .ipv4 .tcp 1, first] outcome) :
    Dumped strerror 1 1 (exampleRounds outcome) (exampleDumps first) :=
  ⟨_, _, rfl, h, _, _, rfl, one_done (by decide), _, _, rfl, one_done (by decide), _, _, rfl,
    one_done (by decide), rfl⟩

/-- The order of an empty list. -/
def sortNothing : Event Sys := ⟨.sortSockets [], ⟨[], .nil, .nil⟩⟩

/-- A whole observation of the port that finds nothing. -/
def exampleObservation (first : Event Sys) : Trace Sys :=
  ⟨.socket, .ok ()⟩ :: (exampleDumps first ++ [sortNothing])

/-- A plan for port 8080. -/
def examplePlan : PortReleasePlan :=
  ⟨8080, [⟨{ localEnd := ⟨"0.0.0.0", 8080⟩, inode := 7, ownerPids := [42] },
    [{ pid := 42, name := "server" }]⟩], [42], none⟩

/-- The services of an LX process with PID 900 and without systemd. -/
def examplePorts : PortService := ⟨⟨900, none⟩, none, 2000⟩

theorem exampleObservation_queried {first : Event Sys} {outcome : Result (List SocketInfo)}
    (h : (one strerror 1 .ipv4 .tcp 1).Run [sendEvent .ipv4 .tcp 1, first] outcome) :
    Queried strerror 1 (portQuery 8080) (exampleRounds outcome) (exampleObservation first) :=
  ⟨_, _, rfl, rfl, exampleDumps_dumped h, fun e he => ⟨[], by rw [List.mem_singleton.mp he]; rfl⟩⟩

theorem conclude_nothing {state : DumpState} (hvalue : state.value = [])
    (hsome : state.failures ≠ state.attempts) :
    (conclude state).Run [sortNothing] (.ok ⟨[], state.warnings⟩) := by
  obtain ⟨value, warnings, last, attempts, failures⟩ := state
  obtain rfl : value = [] := hvalue
  cases last with
  | none => exact ⟨_, _, rfl, rfl, rfl⟩
  | some last =>
    unfold conclude
    dsimp only at hsome ⊢
    rw [if_neg hsome]
    exact ⟨_, _, rfl, rfl, rfl⟩

/-- With three empty dumps `terminate` reports a release unless the first one delivers a
    socket; that it failed makes no difference. -/
theorem exampleObservation_released {first : Event Sys} {outcome : Result (List SocketInfo)}
    (h : (one strerror 1 .ipv4 .tcp 1).Run [sendEvent .ipv4 .tcp 1, first] outcome)
    (hempty : found (portQuery 8080) ((.tcp, .ipv4), outcome) = []) :
    ((ReleaseOperation.terminate.program examplePorts examplePlan).interpret
      (implement strerror 1)).Run
      (exampleObservation first ++ [⟨.contract (.hashOrder []), ⟨[], .refl _⟩⟩])
      (.ok ⟨{ released := true }, []⟩) := by
  let state := stateAfter (portQuery 8080) (exampleRounds outcome) {}
  have hvalue : state.value = [] := by
    simp only [state, stateAfter_value]
    simpa [exampleRounds, found] using hempty
  have hsome : state.failures ≠ state.attempts := by
    cases outcome <;> simp [state, stateAfter, exampleRounds, DumpState.record]
  have hquery : (Netlink.query strerror 1 (portQuery 8080)).Run (exampleObservation first)
      (.ok ⟨[], state.warnings⟩) := by
    have hopened : (NetlinkSocket.open' strerror).Run [⟨.socket, .ok ()⟩] (.ok ()) :=
      ⟨_, _, rfl, rfl, rfl⟩
    have hdumps : (runDumps strerror 1 (portQuery 8080) (dumpTargets (portQuery 8080)) 1 {}).Run
        (exampleDumps first) state :=
      runDumps_run_iff.mpr ⟨_, rfl, exampleDumps_dumped h, rfl⟩
    exact Prog.run_bind_iff.mpr ⟨.ok (), _, _, hopened,
      Prog.run_bind_iff.mpr ⟨state, _, _, hdumps, conclude_nothing hvalue hsome, rfl⟩, rfl⟩
  have hresolve : (SocketInodeResolver.resolve strerror []).Run [] (.ok ⟨[], []⟩) := ⟨rfl, rfl⟩
  have horder : (sys (.contract (.hashOrder []))).Run
      [⟨.contract (.hashOrder []), ⟨[], .refl _⟩⟩] ⟨[], .refl _⟩ := ⟨_, _, rfl, rfl, rfl⟩
  refine Prog.run_interpret_iff.mpr ⟨[⟨.querySockets (portQuery 8080), .ok ⟨[], state.warnings⟩⟩,
    ⟨.resolveOwners [], .ok ⟨[], []⟩⟩, ⟨.hashOrder [], ⟨[], .refl _⟩⟩], ?_, ?_⟩
  · exact ⟨_, _, rfl, _, _, rfl, _, _, rfl, rfl, rfl⟩
  · exact Prog.implements_cons_iff.mpr ⟨_, _, rfl, hquery, Prog.implements_cons_iff.mpr
      ⟨_, _, rfl, hresolve, Prog.implements_cons_iff.mpr ⟨_, _, rfl, horder, .nil⟩⟩⟩

/-- The only query of the observation is its four dumps. -/
theorem exampleObservation_last {rounds : List Round} {before queried after : Trace Sys}
    (hqueried : Queried strerror 1 (portQuery 8080) rounds queried)
    (heq : exampleObservation ⟨.recv, .ok (doneDatagram 1)⟩ ++
        [⟨.contract (.hashOrder []), ⟨[], .refl _⟩⟩] = before ++ (queried ++ after)) :
    before = [] ∧ rounds = exampleRounds (.ok []) := by
  obtain ⟨dumps, sorted, rfl, htargets, hdumped, -⟩ := hqueried
  have hsplit : (⟨.socket, .ok ()⟩ : Event Sys) :: (exampleDumps ⟨.recv, .ok (doneDatagram 1)⟩ ++
      [sortNothing, ⟨.contract (.hashOrder []), ⟨[], .refl _⟩⟩]) =
      before ++ ⟨.socket, .ok ()⟩ :: (dumps ++ (sorted ++ after)) := by
    simpa only [exampleObservation, List.append_assoc, List.cons_append, List.nil_append] using heq
  -- a socket is opened once only, by the first system call
  cases before with
  | cons e before =>
    have hmem : (⟨.socket, .ok ()⟩ : Event Sys) ∈ exampleDumps ⟨.recv, .ok (doneDatagram 1)⟩ ++
        [sortNothing, ⟨.contract (.hashOrder []), ⟨[], .refl _⟩⟩] :=
      (List.cons.inj hsplit).2 ▸ List.mem_append_right before (List.mem_cons_self ..)
    simp only [exampleDumps, sendEvent, sortNothing, List.cons_append, List.nil_append,
      List.mem_cons, List.not_mem_nil, or_false] at hmem
    rcases hmem with h | h | h | h | h | h | h | h | h | h <;> cases h
  | nil =>
    exact ⟨rfl, (hdumped.prefix_unique (exampleDumps_dumped (one_done (by decide))) htargets
      (List.cons.inj hsplit).2.symm).1⟩

/-- `ENOBUFS` in the TCP/IPv4 dump and three empty dumps: port 8080 counts as released. -/
theorem released_after_failed_dump : ∃ t : Trace Sys,
    ((ReleaseOperation.terminate.program examplePorts examplePlan).interpret
      (implement (fun _ => []) 1)).Run t (.ok ⟨{ released := true }, []⟩) ∧
    ∃ rounds queried after, t = queried ++ after ∧
      Queried (fun _ => []) 1 (portQuery 8080) rounds queried ∧ (∀ e ∈ after, e.1 ≠ .socket) ∧
      ¬ (Complete rounds ∧ Empty (portQuery 8080) rounds) := by
  refine ⟨_, exampleObservation_released one_overrun rfl, _, _, _, rfl,
    exampleObservation_queried one_overrun, by simp, ?_⟩
  rintro ⟨hcomplete, -⟩
  obtain ⟨items, hitems⟩ := hcomplete _ (List.mem_cons_self ..)
  cases hitems

/-- Four empty dumps: `terminate` reports the release, its only query was complete, and no
    socket holds the port. -/
theorem released_after_complete_observation :
    ∃ rounds : List Round, ∃ queried after : Trace Sys,
      ((ReleaseOperation.terminate.program examplePorts examplePlan).interpret
        (implement (fun _ => []) 1)).Run (queried ++ after) (.ok ⟨{ released := true }, []⟩) ∧
      Queried (fun _ => []) 1 (portQuery 8080) rounds queried ∧ (∀ e ∈ after, e.1 ≠ .socket) ∧
      rounds.length = 4 ∧ Complete rounds ∧ Empty (portQuery 8080) rounds ∧ ¬ RootMissing after := by
  have hrun := @exampleObservation_released (fun _ => []) _ _ (one_done (by decide)) rfl
  obtain ⟨rounds, before, queried, after, heq, hqueried, hsocket, hiff⟩ :=
    released_sound_iff hrun rfl
  obtain ⟨rfl, rfl⟩ := exampleObservation_last hqueried heq
  have hcomplete : Complete (exampleRounds (.ok [])) := by
    intro round hround
    simp only [exampleRounds, List.mem_cons, List.not_mem_nil, or_false] at hround
    rcases hround with rfl | rfl | rfl | rfl <;> exact ⟨[], rfl⟩
  have hempty : Empty (portQuery 8080) (exampleRounds (.ok [])) := empty_iff.mpr rfl
  rw [heq, List.nil_append] at hrun
  exact ⟨_, queried, after, hrun, hqueried, hsocket, rfl, hcomplete, hempty,
    (hiff.mp ⟨hcomplete, hempty⟩).2⟩

end Lx
