import Lx.Application.PortService
import Mathlib.Data.List.Perm.Basic

/-!
# Runs of the release operations

What the operations of `PortService` exchange with their providers, one inversion
lemma per function. Observing never mutates anything (`prepareRelease_quiet`);
the operations that execute a plan mutate only after an observation that matches it
(`releaseWith_run`, `stopManagedService_run`).
-/

namespace Lx

open Interaction

/-! ## §1 Quiet traces -/

/-- The calls that change something outside LX. -/
def Call.mutates : Call → Bool
  | .send _ _ => true
  | .controlService _ _ => true
  | _ => false

/-- Nothing was signalled, started, stopped or restarted. -/
def Quiet (t : Trace Contract) : Prop := ∀ e ∈ t, Call.mutates e.1 = false

@[simp] theorem quiet_nil : Quiet [] := by simp [Quiet]

@[simp] theorem quiet_cons {e : Event Contract} {t : Trace Contract} :
    Quiet (e :: t) ↔ Call.mutates e.1 = false ∧ Quiet t := by simp [Quiet]

@[simp] theorem quiet_append {t u : Trace Contract} : Quiet (t ++ u) ↔ Quiet t ∧ Quiet u := by
  simp only [Quiet, List.mem_append, or_imp, forall_and]

/-- A program none of whose calls mutates anything. -/
abbrev Observes {α : Type} (p : App α) : Prop := p.Within (S := Contract) (Call.mutates · = false)

theorem observes_call (c : Call) (h : c.mutates = false := by rfl) :
    Observes (perform (S := Contract) c) := Prog.within_perform h

/-- The lookups behind an inspection: sockets, owners, records and units. -/
def Call.looksUp : Call → Bool
  | .querySockets _ | .resolveOwners _ | .getProcess _ | .unitByPid _ | .hashOrder _ => true
  | _ => false

/-- A program that only looks things up. -/
abbrev Inspects {α : Type} (p : App α) : Prop := p.Within (S := Contract) (Call.looksUp · = true)

theorem Call.not_mutates_of_looksUp {c : Call} (h : c.looksUp = true) : c.mutates = false := by
  cases c <;> first | rfl | cases h

theorem Inspects.observes {α : Type} {p : App α} (hp : Inspects p) : Observes p :=
  hp.mono fun _ hcall => Call.not_mutates_of_looksUp hcall

theorem inspects_call (c : Call) (h : c.looksUp = true := by rfl) :
    Inspects (perform (S := Contract) c) := Prog.within_perform h

theorem Observes.quiet {α : Type} {p : App α} {t : Trace Contract} {a : α}
    (hp : Observes p) (h : p.Run t a) : Quiet t := hp.run h

namespace ProcessService

theorem inspect_inspects (self : ProcessService) (pid : Int) : Inspects (self.inspect pid) := by
  unfold inspect
  split
  · exact Prog.within_ret
  · refine (inspects_call (.getProcess pid)).bind fun got => ?_
    split
    · exact Prog.within_ret
    · exact Prog.within_ret
    · refine Prog.Within.bind ?_ fun _ => Prog.within_ret
      unfold ServiceService.unitByPid
      split
      · exact Prog.within_ret
      · exact inspects_call (.unitByPid pid)

theorem waitForExit_observes (self : ProcessService) (pid : Int) (timeout : Nat) :
    Observes (self.waitForExit pid timeout) := by
  unfold waitForExit
  split
  · exact Prog.within_ret
  · exact observes_call (.waitForExit pid timeout)

end ProcessService

namespace PortService

variable {self : PortService} {t : Trace Contract}

theorem inspectOwners_inspects (pids : List Int) (processes : List (Int × ProcessInfo))
    (warnings : List Warning) : Inspects (self.inspectOwners pids processes warnings) := by
  induction pids generalizing processes warnings with
  | nil => exact Prog.within_ret
  | cons pid rest ih =>
    refine (ProcessService.inspect_inspects _ pid).bind fun got => ?_
    cases got with
    | error error => exact ih _ _
    | ok observed => exact ih _ _

theorem waitForOwners_observes (deadline : Nat) (pids : List Int) (earlier : Nat) :
    Observes (self.waitForOwners deadline pids earlier) := by
  induction pids generalizing earlier with
  | nil => exact Prog.within_ret
  | cons pid rest ih =>
    refine (observes_call (.steadyNow earlier)).bind fun now => ?_
    refine (ProcessService.waitForExit_observes _ pid _).bind fun exited => ?_
    cases exited with
    | error error => exact Prog.within_ret
    | ok _ => exact ih _

/-! ## §2 Observing the port -/

/-- The provider calls behind one inspection, by how far it got. -/
theorem inspect_run {query : SocketQuery} {r : Result (Observation (List PortInfo))}
    (h : (self.inspect query).Run t r) :
    (∃ error, t = [⟨.querySockets query, .error error⟩] ∧ r = .error error) ∨
    (∃ sockets error, t = [⟨.querySockets query, .ok sockets⟩,
        ⟨.resolveOwners (requestedInodes sockets.value), .error error⟩] ∧ r = .error error) ∨
    (∃ sockets ownership order t' processes warnings,
      t = ⟨.querySockets query, .ok sockets⟩ ::
        ⟨.resolveOwners (requestedInodes sockets.value), .ok ownership⟩ ::
        ⟨.hashOrder (resolvedPids ownership.value sockets.value), order⟩ :: t' ∧
      (self.inspectOwners order.val [] (sockets.warnings ++ ownership.warnings)).Run t'
        (processes, warnings) ∧
      r = .ok ⟨(sockets.value.map (withOwners ownership.value)).map (toPortInfo processes),
        warnings⟩) := by
  unfold inspect at h
  obtain ⟨queried, _, _, hq, hk, rfl⟩ := Prog.run_bind_iff.mp h
  obtain rfl := Prog.run_perform.mp hq
  cases queried with
  | error error =>
    obtain ⟨rfl, rfl⟩ := hk
    exact .inl ⟨error, rfl, rfl⟩
  | ok sockets =>
    obtain ⟨resolved, _, _, hr, hk₁, rfl⟩ := Prog.run_bind_iff.mp hk
    obtain rfl := Prog.run_perform.mp hr
    cases resolved with
    | error error =>
      obtain ⟨rfl, rfl⟩ := hk₁
      exact .inr (.inl ⟨sockets, error, rfl, rfl⟩)
    | ok ownership =>
      obtain ⟨order, _, _, ho, hk₂, rfl⟩ := Prog.run_bind_iff.mp hk₁
      obtain rfl := Prog.run_perform.mp ho
      obtain ⟨⟨processes, warnings⟩, t', _, hi, ⟨rfl, rfl⟩, rfl⟩ := Prog.run_bind_iff.mp hk₂
      exact .inr (.inr ⟨sockets, ownership, order, t', processes, warnings, by simp, hi, rfl⟩)

theorem inspect_inspects (query : SocketQuery) : Inspects (self.inspect query) := by
  unfold inspect
  refine (inspects_call (.querySockets query)).bind fun queried => ?_
  cases queried with
  | error error => exact Prog.within_ret
  | ok sockets =>
    refine (inspects_call (.resolveOwners _)).bind fun resolved => ?_
    cases resolved with
    | error error => exact Prog.within_ret
    | ok ownership =>
      refine (inspects_call (.hashOrder _)).bind fun order => ?_
      exact (inspectOwners_inspects _ _ _).bind fun _ => Prog.within_ret

theorem prepareRelease_inspects (localPort : Nat) : Inspects (self.prepareRelease localPort) := by
  unfold prepareRelease
  split
  · exact Prog.within_ret
  · refine (inspect_inspects _).bind fun inspected => ?_
    cases inspected with
    | error error => exact Prog.within_ret
    | ok inspected =>
      dsimp only
      split
      · exact Prog.within_ret
      · split <;> exact Prog.within_ret

theorem prepareRelease_observes (localPort : Nat) : Observes (self.prepareRelease localPort) :=
  (prepareRelease_inspects localPort).observes

theorem prepareRelease_quiet {localPort : Nat} {r : Result (Observation PortReleasePlan)}
    (h : (self.prepareRelease localPort).Run t r) : Quiet t :=
  (prepareRelease_observes localPort).quiet h

/-- A plan comes out of an inspection that found sockets, through `planOf`. -/
theorem prepareRelease_ok {localPort : Nat} {observed : Observation PortReleasePlan}
    (h : (self.prepareRelease localPort).Run t (.ok observed)) :
    ∃ ports, (self.inspect { localPort := some localPort }).Run t (.ok ⟨ports, observed.warnings⟩) ∧
      ports ≠ [] ∧ self.planOf localPort ports = .ok observed.value := by
  unfold prepareRelease at h
  split at h
  · obtain ⟨-, h⟩ := h
    cases h
  · obtain ⟨inspected, t₁, t₂, hi, hk, rfl⟩ := Prog.run_bind_iff.mp h
    cases inspected with
    | error error =>
      obtain ⟨-, hr⟩ := hk
      cases hr
    | ok inspected =>
      dsimp only at hk
      split at hk
      · obtain ⟨-, hr⟩ := hk
        cases hr
      · rename_i hne
        split at hk
        · obtain ⟨-, hr⟩ := hk
          cases hr
        · rename_i plan hplan
          obtain ⟨rfl, hr⟩ := hk
          obtain rfl := Except.ok.inj hr
          refine ⟨inspected.value, by simpa using hi, ?_, hplan⟩
          simpa using hne

/-! ## §3 Plans -/

/-- `std::unique` keeps the elements of its range. -/
theorem mem_unique {a : Int} (l : List Int) : a ∈ unique l ↔ a ∈ l := by
  induction l using unique.induct with
  | case1 => simp [unique]
  | case2 b => simp [unique]
  | case3 b rest ih =>
    rw [unique, if_pos rfl, ih]
    simp
  | case4 b c rest hne ih =>
    rw [unique, if_neg hne, List.mem_cons, ih, List.mem_cons (b := b)]

theorem mem_ownerPidsOf {ports : List PortInfo} {pid : Int} :
    pid ∈ ownerPidsOf ports ↔ ∃ port ∈ ports, pid ∈ port.socket.ownerPids := by
  rw [ownerPidsOf, mem_unique, List.mem_insertionSort, List.mem_flatMap]

theorem validateTargets_ok {pids : List Int} (h : self.validateTargets pids = .ok ()) :
    ∀ pid ∈ pids, self.processService_.Signalable pid := by
  induction pids with
  | nil => simp
  | cons pid rest ih =>
    unfold validateTargets at h
    split at h
    · cases h
    · rename_i hv
      intro p hp
      rcases List.mem_cons.mp hp with rfl | hp'
      · exact ProcessService.validateSignalTarget_ok_iff.mp hv
      · exact ih h p hp'

/-- The fields of a plan, and what building it has checked. -/
theorem planOf_ok {localPort : Nat} {ports : List PortInfo} {plan : PortReleasePlan}
    (h : self.planOf localPort ports = .ok plan) :
    plan = ⟨localPort, ports, ownerPidsOf ports, commonUnitOf ports (ownerPidsOf ports) none⟩ ∧
    (∀ port ∈ ports, port.socket.ownerPids ≠ []) ∧
    ∀ pid ∈ ownerPidsOf ports, self.processService_.Signalable pid := by
  unfold planOf at h
  split at h
  · cases h
  · rename_i howned
    dsimp only at h
    split at h
    · cases h
    · rename_i hv
      refine ⟨(Except.ok.inj h).symm, fun port hport hempty => howned ?_, validateTargets_ok hv⟩
      exact List.any_eq_true.mpr ⟨port, hport, by simp [hempty]⟩

theorem validateTargets_of_signalable {pids : List Int}
    (h : ∀ pid ∈ pids, self.processService_.Signalable pid) : self.validateTargets pids = .ok () := by
  induction pids with
  | nil => rfl
  | cons pid rest ih =>
    unfold validateTargets
    rw [ProcessService.validateSignalTarget_ok_iff.mpr (h pid (List.mem_cons_self ..))]
    exact ih fun other hother => h other (List.mem_cons_of_mem _ hother)

/-- Sockets that are all held, by processes that may be signalled, make a plan. -/
theorem exists_planOf {localPort : Nat} {ports : List PortInfo}
    (howned : ∀ port ∈ ports, port.socket.ownerPids ≠ [])
    (hsignalable : ∀ pid ∈ ownerPidsOf ports, self.processService_.Signalable pid) :
    ∃ plan, self.planOf localPort ports = .ok plan := by
  have hresolved : ¬ ports.any (·.socket.ownerPids.isEmpty) = true := by
    simpa using howned
  unfold planOf
  rw [if_neg hresolved]
  dsimp only
  rw [validateTargets_of_signalable hsignalable]
  exact ⟨_, rfl⟩

/-- The owners of a prepared plan are the owners of its sockets, and all of them may
    be signalled. -/
theorem prepareRelease_plan {localPort : Nat} {observed : Observation PortReleasePlan}
    (h : (self.prepareRelease localPort).Run t (.ok observed)) :
    observed.value.localPort = localPort ∧
    observed.value.ownerPids = ownerPidsOf observed.value.ports ∧
    ∀ pid ∈ observed.value.ownerPids, self.processService_.Signalable pid := by
  obtain ⟨ports, -, -, hplan⟩ := prepareRelease_ok h
  obtain ⟨hplan, -, hsignalable⟩ := planOf_ok hplan
  rw [hplan]
  exact ⟨rfl, rfl, hsignalable⟩

/-! ## §4 Comparing observations -/

/-- What a socket is recognised by: protocol, family, address, port, inode and owners. -/
abbrev SocketRow := TransportProtocol × AddressFamily × Bytes × Nat × Nat × List Int

def socketRow (socket : SocketInfo) : SocketRow :=
  (socket.protocol, socket.family, socket.localEnd.address, socket.localEnd.port, socket.inode,
    socket.ownerPids)

/-- The order of the tuples puts nothing in their place. -/
theorem map_identity_perm_iff {ports ports' : List PortInfo} :
    (ports.map identity).Perm (ports'.map identity) ↔
      (ports.map (socketRow ·.socket)).Perm (ports'.map (socketRow ·.socket)) := by
  let ordered (row : SocketRow) : SocketIdentity :=
    toLex (row.1, toLex (row.2.1, toLex (row.2.2.1, toLex (row.2.2.2.1, toLex row.2.2.2.2))))
  have hinjective : Function.Injective ordered := by
    rintro ⟨a, b, c, d, e⟩ ⟨a', b', c', d', e'⟩ h
    cases h
    rfl
  have hmap : ∀ l : List PortInfo, l.map identity = (l.map (socketRow ·.socket)).map ordered := by
    intro l
    rw [List.map_map]
    rfl
  rw [hmap, hmap, List.map_perm_map_iff hinjective]

/-- `sameTargets` compares the sockets of two plans as multisets. -/
theorem sameTargets_iff {expected current : PortReleasePlan} :
    sameTargets expected current = true ↔
      (expected.ports.map (socketRow ·.socket)).Perm (current.ports.map (socketRow ·.socket)) := by
  rw [← map_identity_perm_iff]
  unfold sameTargets identities
  rw [beq_iff_eq]
  constructor
  · intro h
    have hsorted := List.perm_insertionSort (· ≤ ·) (expected.ports.map identity)
    rw [h] at hsorted
    exact hsorted.symm.trans (List.perm_insertionSort _ _)
  · intro h
    refine List.Perm.eq_of_pairwise (fun a b _ _ => le_antisymm)
      (List.pairwise_insertionSort _ _) (List.pairwise_insertionSort _ _) ?_
    exact (List.perm_insertionSort _ _).trans (h.trans (List.perm_insertionSort _ _).symm)

/-- Whatever the order of the ranges, `std::includes` only accepts members. -/
theorem subset_of_includes {owners current : List Int} (h : includes owners current = true) :
    current ⊆ owners := by
  induction owners, current using includes.induct with
  | case1 => simp
  | case2 => cases h
  | case3 a as b bs hlt => simp [includes, hlt] at h
  | case4 a as b bs hle hlt ih =>
    rw [includes, if_neg hle, if_pos hlt] at h
    exact List.Subset.trans (ih h) (List.subset_cons_self a as)
  | case5 a as b bs hle hge ih =>
    rw [includes, if_neg hle, if_neg hge] at h
    obtain rfl : a = b := by omega
    exact List.cons_subset_cons a (ih h)

/-- Owners that remain are owners of the original plan. -/
theorem remaining_ownerPids_subset {original current : PortReleasePlan}
    (h : remainingTargetsBelongTo original current = true) :
    ownerPidsOf current.ports ⊆ ownerPidsOf original.ports := by
  intro pid hpid
  obtain ⟨port, hport, howner⟩ := mem_ownerPidsOf.mp hpid
  have hfound := List.all_eq_true.mp h port hport
  split at hfound
  · cases hfound
  · rename_i found hfind
    exact mem_ownerPidsOf.mpr
      ⟨found, List.mem_of_find?_eq_some hfind, subset_of_includes hfound howner⟩

/-! ## §5 Signalling -/

/-- The signal loop sends one signal kind, to listed owners that may be signalled; when
    it succeeds every owner got its signal. -/
theorem signalOwners_run {processSignal : ProcessSignal} {pids : List Int}
    {deliveries : List SignalDelivery} {r : Result (List SignalDelivery)}
    (h : (self.signalOwners processSignal pids deliveries).Run t r) :
    (∀ e ∈ t, ∃ pid ∈ pids, self.processService_.Signalable pid ∧
      ∃ x, e = ⟨.send pid processSignal, x⟩) ∧
    (∀ delivered, r = .ok delivered →
      ∀ pid ∈ pids, ∃ delivery, ⟨.send pid processSignal, .ok delivery⟩ ∈ t) := by
  induction pids generalizing deliveries t with
  | nil =>
    obtain ⟨rfl, rfl⟩ := h
    simp
  | cons pid rest ih =>
    obtain ⟨sent, t₁, t₂, hs, hk, rfl⟩ := Prog.run_bind_iff.mp h
    -- the request for the head: refused without a call, or one call to the provider
    have hhead : ∀ e ∈ t₁, ∃ p ∈ pid :: rest, self.processService_.Signalable p ∧
        ∃ x, e = ⟨.send p processSignal, x⟩ := by
      rcases ProcessService.signal_run hs with ⟨rfl, -⟩ | ⟨rfl, hok⟩
      · simp
      · intro e he
        exact ⟨pid, List.mem_cons_self .., hok, sent, List.mem_singleton.mp he⟩
    cases sent with
    | error error =>
      obtain ⟨rfl, rfl⟩ := hk
      exact ⟨by simpa using hhead, fun _ hr => by cases hr⟩
    | ok delivery =>
      obtain ⟨htail, hdone⟩ := ih hk
      refine ⟨fun e he => ?_, fun delivered hr p hp => ?_⟩
      · rcases List.mem_append.mp he with he | he
        · exact hhead e he
        · obtain ⟨p, hp, rest⟩ := htail e he
          exact ⟨p, List.mem_cons_of_mem _ hp, rest⟩
      · rcases List.mem_cons.mp hp with rfl | hp
        · rcases ProcessService.signal_run hs with ⟨-, _, hbad, -⟩ | ⟨rfl, -⟩
          · cases hbad
          · exact ⟨delivery, by simp⟩
        · obtain ⟨d, hd⟩ := hdone delivered hr p hp
          exact ⟨d, List.mem_append_right _ hd⟩

/-- Waiting for the owners adds nothing but observations to the signal loop. -/
theorem signalAndWait_run {processSignal : ProcessSignal} {pids : List Int}
    {r : Result (List SignalDelivery)}
    (h : (self.signalAndWait processSignal pids).Run t r) :
    ∃ t₁ t₂ sent, (self.signalOwners processSignal pids []).Run t₁ sent ∧ Quiet t₂ ∧
      t = t₁ ++ t₂ ∧ (∀ delivered, r = .ok delivered → sent = .ok delivered) := by
  obtain ⟨sent, t₁, t₂, hs, hk, rfl⟩ := Prog.run_bind_iff.mp h
  refine ⟨t₁, t₂, sent, hs, ?_, rfl, ?_⟩
  · -- the waits only observe
    refine Observes.quiet ?_ hk
    cases sent with
    | error error => exact Prog.within_ret
    | ok deliveries =>
      refine (observes_call (.steadyNow 0)).bind fun now => ?_
      refine (waitForOwners_observes _ _ _).bind fun waited => ?_
      cases waited <;> exact Prog.within_ret
  · rintro delivered rfl
    cases sent with
    | error error =>
      obtain ⟨-, hr⟩ := hk
      cases hr
    | ok deliveries =>
      obtain ⟨now, _, _, -, hk₁, rfl⟩ := Prog.run_bind_iff.mp hk
      obtain ⟨waited, _, _, -, hk₂, rfl⟩ := Prog.run_bind_iff.mp hk₁
      cases waited with
      | error error =>
        obtain ⟨-, hr⟩ := hk₂
        cases hr
      | ok _ =>
        obtain ⟨-, hr⟩ := hk₂
        rw [Except.ok.inj hr]

/-! ## §6 Executing a plan -/

/-- The ways `terminate` and `force` can go. Either the new observation `current` ends
    the operation before any signal, or it matches the plan and the signal loop runs;
    only after a complete loop is the port observed once more. -/
theorem releaseWith_run {processSignal : ProcessSignal} {plan : PortReleasePlan}
    {stillOccupied : List Warning → List SignalDelivery → Observation PortReleasePlan →
      Result (Observation PortReleaseResult)} {r : Result (Observation PortReleaseResult)}
    (h : (self.releaseWith processSignal plan stillOccupied).Run t r) :
    (∃ error, (self.prepareRelease plan.localPort).Run t (.error error) ∧
      r = if error.code = .notFound then .ok ⟨{ released := true }, []⟩ else .error error) ∨
    (∃ current, (self.prepareRelease plan.localPort).Run t (.ok current) ∧
      sameTargets plan current.value = false ∧ r = .error changedTargetError) ∨
    (∃ current t₁ t₂ error, (self.prepareRelease plan.localPort).Run t₁ (.ok current) ∧
      sameTargets plan current.value = true ∧
      (self.signalAndWait processSignal plan.ownerPids).Run t₂ (.error error) ∧
      t = t₁ ++ t₂ ∧ r = .error error) ∨
    (∃ current t₁ t₂ deliveries t₃ after,
      (self.prepareRelease plan.localPort).Run t₁ (.ok current) ∧
      sameTargets plan current.value = true ∧
      (self.signalAndWait processSignal plan.ownerPids).Run t₂ (.ok deliveries) ∧
      (self.prepareRelease plan.localPort).Run t₃ after ∧ t = t₁ ++ t₂ ++ t₃ ∧
      r = concludeRelease plan current.warnings deliveries
        (stillOccupied current.warnings deliveries) after) := by
  obtain ⟨current, t₁, t', hc, hk, rfl⟩ := Prog.run_bind_iff.mp h
  cases current with
  | error error =>
    -- a port without sockets counts as released, any other failure is passed on
    dsimp only at hk
    refine .inl ⟨error, ?_⟩
    split at hk
    · rename_i hnf
      obtain ⟨rfl, rfl⟩ := hk
      exact ⟨by simpa using hc, by simp [hnf]⟩
    · rename_i hnf
      obtain ⟨rfl, rfl⟩ := hk
      exact ⟨by simpa using hc, by simp [hnf]⟩
  | ok current =>
    dsimp only at hk
    split at hk
    · rename_i hdiff
      obtain ⟨rfl, rfl⟩ := hk
      exact .inr (.inl ⟨current, by simpa using hc, by simpa using hdiff, rfl⟩)
    · rename_i hsame
      -- the targets are still the same, so the owners are signalled
      obtain ⟨sent, t₂, t'', hs, hk₁, rfl⟩ := Prog.run_bind_iff.mp hk
      cases sent with
      | error error =>
        obtain ⟨rfl, rfl⟩ := hk₁
        exact .inr (.inr (.inl ⟨current, t₁, t₂, error, hc, by simpa using hsame, hs, by simp, rfl⟩))
      | ok deliveries =>
        obtain ⟨after, t₃, _, ha, ⟨rfl, rfl⟩, rfl⟩ := Prog.run_bind_iff.mp hk₁
        exact .inr (.inr (.inr ⟨current, t₁, t₂, deliveries, t₃, after, hc,
          by simpa using hsame, hs, ha, by simp, rfl⟩))

/-- Polling looks things up, reads the clock and sleeps. -/
theorem pollStopped_within {P : Call → Prop} (hlookup : ∀ c, Call.looksUp c = true → P c)
    (hclock : ∀ earlier, P (.steadyNow earlier)) (hsleep : ∀ now duration, P (.sleepFor now duration))
    (plan : PortReleasePlan) (unit : Bytes) (deadline now : Nat) (warnings : List Warning) :
    (self.pollStopped plan unit deadline now warnings).Within (S := Contract) P := by
  -- every round sleeps, so the time left before the deadline decreases
  induction hleft : deadline - now using Nat.strong_induction_on generalizing now warnings with
  | _ left ih =>
    rw [pollStopped]
    refine ((prepareRelease_inspects _).mono hlookup).bind fun after => ?_
    cases after with
    | error error =>
      dsimp only
      split <;> exact Prog.within_ret
    | ok after =>
      dsimp only
      split
      · exact Prog.within_ret
      · refine Prog.Within.bind (Prog.within_perform (hclock now)) fun reading => ?_
        split
        · exact Prog.within_ret
        · rename_i hbefore
          refine Prog.Within.bind (Prog.within_perform (hsleep reading.val 25000000)) fun woken => ?_
          have hreading := reading.property
          have hwoken := woken.property
          exact ih (deadline - woken.val) (by omega) woken.val _ rfl

theorem pollStopped_observes (plan : PortReleasePlan) (unit : Bytes) (deadline now : Nat)
    (warnings : List Warning) : Observes (self.pollStopped plan unit deadline now warnings) :=
  pollStopped_within (fun _ hcall => Call.not_mutates_of_looksUp hcall) (fun _ => rfl) (fun _ _ => rfl)
    plan unit deadline now warnings

/-- The ways `stopManagedService` can go. The unit is stopped only after an observation
    that matches the plan and recommends the same unit; what follows only observes. -/
theorem stopManagedService_run {plan : PortReleasePlan} {r : Result (Observation PortReleaseResult)}
    (h : (self.stopManagedService plan).Run t r) :
    (t = [] ∧ ∃ error, r = .error error) ∨
    (∃ error, (self.prepareRelease plan.localPort).Run t (.error error) ∧
      r = if error.code = .notFound then .ok ⟨{ released := true }, []⟩ else .error error) ∨
    (∃ current, (self.prepareRelease plan.localPort).Run t (.ok current) ∧
      ¬ (sameTargets plan current.value = true ∧
        current.value.recommendedUnit = plan.recommendedUnit) ∧
      r = .error changedTargetError) ∨
    (∃ unit services current t₁ t₂ stopped t₃, plan.recommendedUnit = some unit ∧
      (self.prepareRelease plan.localPort).Run t₁ (.ok current) ∧
      sameTargets plan current.value = true ∧
      current.value.recommendedUnit = plan.recommendedUnit ∧
      (ServiceService.stop services unit).Run t₂ stopped ∧ t = t₁ ++ t₂ ++ t₃ ∧
      ((∃ error, stopped = .error error ∧ t₃ = [] ∧ r = .error error) ∨
       (∃ now t₄, stopped = .ok () ∧ t₃ = ⟨.steadyNow 0, now⟩ :: t₄ ∧
        (self.pollStopped plan unit (now.val + self.graceNanoseconds) now.val
          current.warnings).Run t₄ r))) := by
  unfold stopManagedService at h
  split at h
  · rename_i unit services hunit _
    obtain ⟨current, t₁, t', hc, hk, rfl⟩ := Prog.run_bind_iff.mp h
    cases current with
    | error error =>
      dsimp only at hk
      refine .inr (.inl ⟨error, ?_⟩)
      split at hk
      · rename_i hnf
        obtain ⟨rfl, rfl⟩ := hk
        exact ⟨by simpa using hc, by simp [hnf]⟩
      · rename_i hnf
        obtain ⟨rfl, rfl⟩ := hk
        exact ⟨by simpa using hc, by simp [hnf]⟩
    | ok current =>
      dsimp only at hk
      split at hk
      · rename_i hdiff
        obtain ⟨rfl, rfl⟩ := hk
        refine .inr (.inr (.inl ⟨current, by simpa using hc, ?_, rfl⟩))
        rintro ⟨hsame, hrec⟩
        simp [hsame, hrec] at hdiff
      · rename_i hsame
        -- same targets, same unit: the unit is stopped, and then the port is polled
        obtain ⟨stopped, t₂, t₃, hs, hk₁, rfl⟩ := Prog.run_bind_iff.mp hk
        simp only [Bool.or_eq_true, Bool.not_eq_true', decide_eq_true_eq, not_or,
          Bool.not_eq_false, ne_eq, Decidable.not_not] at hsame
        refine .inr (.inr (.inr ⟨unit, services, current, t₁, t₂, stopped, t₃, hunit, hc,
          hsame.1, hsame.2, hs, by simp, ?_⟩))
        cases stopped with
        | error error =>
          obtain ⟨rfl, rfl⟩ := hk₁
          exact .inl ⟨error, rfl, rfl, rfl⟩
        | ok _ =>
          obtain ⟨now, _, t₄, hn, hk₂, rfl⟩ := Prog.run_bind_iff.mp hk₁
          obtain rfl := Prog.run_perform.mp hn
          exact .inr ⟨now, t₄, rfl, rfl, hk₂⟩
  · obtain ⟨rfl, rfl⟩ := h
    exact .inl ⟨rfl, _, rfl⟩

/-! ## §7 Released ports -/

theorem validateTargets_error {pids : List Int} {error : Error}
    (h : self.validateTargets pids = .error error) : error.code ≠ .notFound := by
  induction pids with
  | nil => cases h
  | cons pid rest ih =>
    unfold validateTargets at h
    split at h
    · rename_i hpid
      obtain rfl := Except.error.inj h
      rcases ProcessService.validateSignalTarget_error hpid with hcode | hcode <;> simp [hcode]
    · exact ih h

theorem planOf_error {localPort : Nat} {ports : List PortInfo} {error : Error}
    (h : self.planOf localPort ports = .error error) : error.code ≠ .notFound := by
  unfold planOf at h
  split at h
  · obtain rfl := Except.error.inj h
    simp
  · dsimp only at h
    split at h
    · rename_i hv
      obtain rfl := Except.error.inj h
      exact validateTargets_error hv
    · cases h

/-- What `NotFound` from `prepareRelease` can mean: a failed socket query, failed owner
    resolution, or an observation without sockets. -/
theorem prepareRelease_notFound {localPort : Nat} {error : Error}
    (h : (self.prepareRelease localPort).Run t (.error error)) (hcode : error.code = .notFound) :
    (t = [⟨.querySockets { localPort := some localPort }, .error error⟩]) ∨
    (∃ sockets, t = [⟨.querySockets { localPort := some localPort }, .ok sockets⟩,
      ⟨.resolveOwners (requestedInodes sockets.value), .error error⟩]) ∨
    (∃ sockets ownership order, sockets.value = [] ∧
      t = [⟨.querySockets { localPort := some localPort }, .ok sockets⟩,
        ⟨.resolveOwners [], .ok ownership⟩, ⟨.hashOrder [], order⟩]) := by
  unfold prepareRelease at h
  split at h
  · obtain ⟨-, hr⟩ := h
    obtain rfl := Except.error.inj hr
    cases hcode
  · obtain ⟨inspected, t₁, t₂, hi, hk, rfl⟩ := Prog.run_bind_iff.mp h
    cases inspected with
    | error error' =>
      obtain ⟨rfl, hr⟩ := hk
      obtain rfl := Except.error.inj hr
      rcases inspect_run hi with ⟨_, rfl, hr⟩ | ⟨sockets, _, rfl, hr⟩ |
        ⟨_, _, _, _, _, _, -, -, hr⟩
      · obtain rfl := Except.error.inj hr
        exact .inl rfl
      · obtain rfl := Except.error.inj hr
        exact .inr (.inl ⟨sockets, rfl⟩)
      · cases hr
    | ok inspected =>
      dsimp only at hk
      split at hk
      · rename_i hempty
        obtain ⟨rfl, -⟩ := hk
        rcases inspect_run hi with ⟨_, -, hr⟩ | ⟨_, _, -, hr⟩ |
          ⟨⟨sockets, queryWarnings⟩, ownership, order, t', processes, warnings, rfl, howners, hr⟩
        · cases hr
        · cases hr
        · obtain rfl := Except.ok.inj hr
          obtain rfl : sockets = [] := by simpa using hempty
          -- no socket, so no owner to visit
          have hvisits : order.val = [] := order.property.eq_nil
          rw [hvisits] at howners
          obtain ⟨rfl, -⟩ := howners
          exact .inr (.inr ⟨⟨[], queryWarnings⟩, ownership, order, rfl, rfl⟩)
      · split at hk
        · rename_i hplan
          obtain ⟨-, hr⟩ := hk
          obtain rfl := Except.error.inj hr
          exact absurd hcode (planOf_error hplan)
        · obtain ⟨-, hr⟩ := hk
          cases hr

/-- The run ends with an observation that was answered by `NotFound`. -/
def EndsNotFound (self : PortService) (localPort : Nat) (t : Trace Contract) : Prop :=
  ∃ before observation error, t = before ++ observation ∧
    (self.prepareRelease localPort).Run observation (.error error) ∧ error.code = .notFound

theorem EndsNotFound.append_left {localPort : Nat} (h : self.EndsNotFound localPort t)
    (earlier : Trace Contract) : self.EndsNotFound localPort (earlier ++ t) := by
  obtain ⟨before, observation, error, rfl, hrun, hcode⟩ := h
  exact ⟨earlier ++ before, observation, error, by simp, hrun, hcode⟩

/-- `terminate` and `force` report a release only after such an observation. -/
theorem releaseWith_released {processSignal : ProcessSignal} {plan : PortReleasePlan}
    {stillOccupied : List Warning → List SignalDelivery → Observation PortReleasePlan →
      Result (Observation PortReleaseResult)} {result : Observation PortReleaseResult}
    (hoccupied : ∀ warnings deliveries after result,
      stillOccupied warnings deliveries after = .ok result → result.value.released = false)
    (h : (self.releaseWith processSignal plan stillOccupied).Run t (.ok result))
    (hreleased : result.value.released = true) : self.EndsNotFound plan.localPort t := by
  rcases releaseWith_run h with ⟨error, hobs, hr⟩ | ⟨_, -, -, hr⟩ | ⟨_, _, _, _, -, -, -, -, hr⟩ |
    ⟨current, t₁, t₂, deliveries, t₃, after, -, -, -, hafter, rfl, hr⟩
  · split at hr
    · rename_i hcode
      exact ⟨[], t, error, rfl, hobs, hcode⟩
    · cases hr
  · cases hr
  · cases hr
  · unfold concludeRelease at hr
    cases after with
    | error error =>
      dsimp only at hr
      split at hr
      · rename_i hcode
        exact ⟨t₁ ++ t₂, t₃, error, rfl, hafter, hcode⟩
      · cases hr
    | ok after =>
      dsimp only at hr
      split at hr
      · cases hr
      · rw [hoccupied _ _ _ _ hr.symm] at hreleased
        cases hreleased

theorem terminate_released {plan : PortReleasePlan} {result : Observation PortReleaseResult}
    (h : (self.terminate plan).Run t (.ok result)) (hreleased : result.value.released = true) :
    self.EndsNotFound plan.localPort t := by
  refine releaseWith_released (fun _ _ _ _ hr => ?_) h hreleased
  obtain rfl := Except.ok.inj hr
  rfl

theorem force_released {plan : PortReleasePlan} {result : Observation PortReleaseResult}
    (h : (self.force plan).Run t (.ok result)) (hreleased : result.value.released = true) :
    self.EndsNotFound plan.localPort t :=
  releaseWith_released (fun _ _ _ _ hr => by cases hr) h hreleased

theorem pollStopped_released {plan : PortReleasePlan} {unit : Bytes} {deadline now : Nat}
    {warnings : List Warning} {result : Observation PortReleaseResult}
    (h : (self.pollStopped plan unit deadline now warnings).Run t (.ok result)) :
    self.EndsNotFound plan.localPort t := by
  induction hleft : deadline - now using Nat.strong_induction_on generalizing t now warnings with
  | _ left ih =>
    rw [pollStopped] at h
    obtain ⟨after, t₁, t₂, hobs, hk, rfl⟩ := Prog.run_bind_iff.mp h
    cases after with
    | error error =>
      dsimp only at hk
      split at hk
      · rename_i hcode
        obtain ⟨rfl, -⟩ := hk
        exact ⟨[], _, error, rfl, by simpa using hobs, hcode⟩
      · obtain ⟨-, hr⟩ := hk
        cases hr
    | ok after =>
      dsimp only at hk
      split at hk
      · obtain ⟨-, hr⟩ := hk
        cases hr
      · obtain ⟨reading, _, t₃, hn, hk₁, rfl⟩ := Prog.run_bind_iff.mp hk
        split at hk₁
        · obtain ⟨-, hr⟩ := hk₁
          cases hr
        · obtain ⟨woken, _, t₄, hs, hk₂, rfl⟩ := Prog.run_bind_iff.mp hk₁
          have hreading := reading.property
          have hwoken := woken.property
          exact ((ih _ (by omega) hk₂ rfl).append_left _).append_left _ |>.append_left _

theorem stopManagedService_released {plan : PortReleasePlan} {result : Observation PortReleaseResult}
    (h : (self.stopManagedService plan).Run t (.ok result)) :
    self.EndsNotFound plan.localPort t := by
  rcases stopManagedService_run h with ⟨-, _, hr⟩ | ⟨error, hobs, hr⟩ | ⟨_, -, -, hr⟩ |
    ⟨unit, services, current, t₁, t₂, stopped, t₃, -, -, -, -, -, rfl, hpoll⟩
  · cases hr
  · split at hr
    · rename_i hcode
      exact ⟨[], t, error, rfl, hobs, hcode⟩
    · cases hr
  · cases hr
  · rcases hpoll with ⟨_, -, -, hr⟩ | ⟨now, t₄, -, rfl, hrun⟩
    · cases hr
    · exact ((pollStopped_released hrun).append_left [_]).append_left _

end PortService

end Lx
