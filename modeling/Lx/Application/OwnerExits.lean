import Lx.Application.PortInspection
import Lx.Lib.Interleaving

/-!
# Owners that exit during a release

The owners of one socket are often related, and a signal to one of them makes others exit
before their turn. Here `PortService::terminate` runs in a world where processes come and
go between any two calls. Its signal loop gives up at the first delivery that fails, also
when the target is simply gone: the release is then reported as failed although nobody
holds the port any more.

## Layers

- The loop seen from its answers: it goes through exactly if none of them is an error (§1).
- How `terminate` is put together from the second observation, the loop and the final
  observation (§2).
- Owners that exit, and what that means for the release (§3, §4).
-/

namespace Lx

open Interaction World

/-! ## §1 The loop and its answers -/

/-- A delivery or a wait that was answered with an error. -/
def isFailure : Event Contract → Bool
  | ⟨.send _ _, .error _⟩ => true
  | ⟨.waitForExit _ _, .error _⟩ => true
  | _ => false

theorem isFailure_cases {e : Event Contract} (h : isFailure e = true) :
    (∃ pid signal error, e = ⟨.send pid signal, .error error⟩) ∨
      ∃ pid timeout error, e = ⟨.waitForExit pid timeout, .error error⟩ := by
  unfold isFailure at h
  split at h
  · exact .inl ⟨_, _, _, rfl⟩
  · exact .inr ⟨_, _, _, rfl⟩
  · cases h

namespace PortService

variable {self : PortService} {t : Trace Contract}

theorem signalOwners_ok_iff {processSignal : ProcessSignal} {pids : List Int}
    {deliveries : List SignalDelivery} {r : Result (List SignalDelivery)}
    (hpids : ∀ pid ∈ pids, self.processService_.Signalable pid)
    (h : (self.signalOwners processSignal pids deliveries).Run t r) :
    (∃ delivered, r = .ok delivered) ↔ ∀ e ∈ t, isFailure e = false := by
  induction pids generalizing deliveries t with
  | nil =>
    obtain ⟨rfl, rfl⟩ := h
    simp
  | cons pid rest ih =>
    obtain ⟨sent, t₁, t₂, hs, hk, rfl⟩ := Prog.run_bind_iff.mp h
    have ht₁ : t₁ = [⟨.send pid processSignal, sent⟩] := by
      rcases ProcessService.signal_run hs with ⟨-, _, -, hnot⟩ | ⟨ht₁, -⟩
      · exact absurd (hpids pid (List.mem_cons_self ..)) hnot
      · exact ht₁
    rw [ht₁]
    cases sent with
    | error error =>
      -- the first failure ends the loop
      obtain ⟨rfl, rfl⟩ := hk
      simp [isFailure]
    | ok delivery =>
      rw [ih (fun p hp => hpids p (List.mem_cons_of_mem _ hp)) hk]
      simp [isFailure]

theorem waitForOwners_ok_iff {deadline : Nat} {pids : List Int} {earlier : Nat} {r : Result Unit}
    (hpids : ∀ pid ∈ pids, self.processService_.Signalable pid)
    (h : (self.waitForOwners deadline pids earlier).Run t r) :
    r = .ok () ↔ ∀ e ∈ t, isFailure e = false := by
  induction pids generalizing earlier t with
  | nil =>
    obtain ⟨rfl, rfl⟩ := h
    simp
  | cons pid rest ih =>
    obtain ⟨now, t₁, t₂, hn, hk, rfl⟩ := Prog.run_bind_iff.mp h
    obtain rfl := Prog.run_perform.mp hn
    obtain ⟨exited, t₃, t₄, hw, hk₁, rfl⟩ := Prog.run_bind_iff.mp hk
    have hvalid := ProcessService.validateSignalTarget_ok_iff.mpr (hpids pid (List.mem_cons_self ..))
    simp only [ProcessService.waitForExit, hvalid] at hw
    obtain rfl := Prog.run_perform.mp hw
    cases exited with
    | error error =>
      obtain ⟨rfl, rfl⟩ := hk₁
      simp [isFailure]
    | ok _ =>
      rw [ih (fun p hp => hpids p (List.mem_cons_of_mem _ hp)) hk₁]
      simp [isFailure]

/-- **The loop goes through exactly if no delivery and no wait fails.** -/
theorem signalAndWait_ok_iff {processSignal : ProcessSignal} {pids : List Int}
    {r : Result (List SignalDelivery)}
    (hpids : ∀ pid ∈ pids, self.processService_.Signalable pid)
    (h : (self.signalAndWait processSignal pids).Run t r) :
    (∃ delivered, r = .ok delivered) ↔ ∀ e ∈ t, isFailure e = false := by
  obtain ⟨sent, t₁, t₂, hs, hk, rfl⟩ := Prog.run_bind_iff.mp h
  have hsent := signalOwners_ok_iff hpids hs
  cases sent with
  | error error =>
    obtain ⟨rfl, rfl⟩ := hk
    simpa using hsent
  | ok deliveries =>
    obtain ⟨now, t₃, t₄, hn, hk₁, rfl⟩ := Prog.run_bind_iff.mp hk
    obtain rfl := Prog.run_perform.mp hn
    obtain ⟨waited, t₅, t₆, hw, hk₂, rfl⟩ := Prog.run_bind_iff.mp hk₁
    -- all signals went out, so the waits decide
    have hall : ∀ e ∈ t₁, isFailure e = false := hsent.mp ⟨deliveries, rfl⟩
    have hwaited := waitForOwners_ok_iff hpids hw
    cases waited with
    | error error =>
      obtain ⟨rfl, rfl⟩ := hk₂
      have hfails : ¬∀ e ∈ t₅, isFailure e = false := fun hnone => by cases hwaited.mpr hnone
      refine iff_of_false (by simp) fun hnone => hfails fun e he => hnone e (by simp [he])
    | ok done =>
      obtain ⟨rfl, rfl⟩ := hk₂
      have hnone : ∀ e ∈ t₅, isFailure e = false := hwaited.mp rfl
      refine iff_of_true ⟨deliveries, rfl⟩ ?_
      simp only [List.mem_append, List.mem_singleton, List.append_nil]
      rintro e (he | rfl | he)
      · exact hall e he
      · rfl
      · exact hnone e he

/-! ## §2 The parts of `terminate` -/

/-- Seen without sockets, a port needs no release. -/
theorem prepareRelease_of_no_socket {localPort : Nat} {warnings : List Warning}
    (hport : localPort ≠ 0)
    (h : (self.inspect { localPort := some localPort }).Run t (.ok ⟨[], warnings⟩)) :
    (self.prepareRelease localPort).Run t (.error (noSocketError localPort)) := by
  rw [prepareRelease, if_neg hport]
  exact Prog.run_bind_iff.mpr ⟨_, t, [], h, ⟨rfl, rfl⟩, by simp⟩

theorem prepareRelease_port {localPort : Nat} {observed : Observation PortReleasePlan}
    (h : (self.prepareRelease localPort).Run t (.ok observed)) : localPort ≠ 0 := by
  intro hzero
  rw [prepareRelease, if_pos hzero] at h
  cases h.2

section Parts

variable {plan : PortReleasePlan} {current : Observation PortReleasePlan} {t₁ t₂ t₃ : Trace Contract}

/-- A loop that gives up ends the operation with its error. -/
theorem terminate_of_loop_error {error : Error}
    (hcurrent : (self.prepareRelease plan.localPort).Run t₁ (.ok current))
    (hsame : sameTargets plan current.value = true)
    (hloop : (self.signalAndWait .terminate plan.ownerPids).Run t₂ (.error error)) :
    (self.terminate plan).Run (t₁ ++ t₂) (.error error) := by
  refine Prog.run_bind_iff.mpr ⟨_, t₁, t₂, hcurrent, ?_, rfl⟩
  simp only [hsame, Bool.not_true, Bool.false_eq_true, if_false]
  exact Prog.run_bind_iff.mpr ⟨_, t₂, [], hloop, ⟨rfl, rfl⟩, by simp⟩

/-- A loop that goes through is followed by the final observation. -/
theorem terminate_of_loop_ok {deliveries : List SignalDelivery} {error : Error}
    (hcurrent : (self.prepareRelease plan.localPort).Run t₁ (.ok current))
    (hsame : sameTargets plan current.value = true)
    (hloop : (self.signalAndWait .terminate plan.ownerPids).Run t₂ (.ok deliveries))
    (hfinal : (self.prepareRelease plan.localPort).Run t₃ (.error error))
    (hcode : error.code = .notFound) :
    (self.terminate plan).Run (t₁ ++ (t₂ ++ t₃))
      (.ok ⟨{ released := true, deliveries }, current.warnings⟩) := by
  refine Prog.run_bind_iff.mpr ⟨_, t₁, t₂ ++ t₃, hcurrent, ?_, rfl⟩
  simp only [hsame, Bool.not_true, Bool.false_eq_true, if_false]
  refine Prog.run_bind_iff.mpr ⟨_, t₂, t₃, hloop, ?_, rfl⟩
  refine Prog.run_bind_iff.mpr ⟨_, t₃, [], hfinal, ⟨rfl, ?_⟩, by simp⟩
  simp [concludeRelease, hcode]

end Parts

end PortService

/-! ## §3 Processes that come and go -/

inductive ProcessChange where
  /-- A process is gone: nothing answers to its PID any more. -/
  | exit (pid : Int)
  /-- A process takes a PID. -/
  | start (pid : Int)
  deriving DecidableEq, Repr

/-- The state is the set of PIDs in use. A signal is delivered only to a PID in use, and
    `NotFound` is answered only for one that is not; everything else may be answered in
    any way, and any call may fail. -/
abbrev ownerWorld : World Contract where
  State := Set Int
  Move := ProcessChange
  move w m w' :=
    match m with
    | .exit pid => w' = w \ {pid}
    | .start pid => w' = insert pid w
  answer w c x w' := w' = w ∧
    match c, x with
    | .send pid _, .ok _ => pid ∈ w
    | .send pid _, .error error => error.code = .notFound → pid ∉ w
    | _, _ => True

abbrev OwnerLog := List (ProcessChange ⊕ Event Contract)

/-- Every delivery that failed was answered with `NotFound`. -/
def OnlyNotFound (log : OwnerLog) : Prop :=
  ∀ pid signal error, .inr ⟨.send pid signal, .error error⟩ ∈ log → error.code = .notFound

/-- No owner is gone when its signal is sent. -/
def StillThere (w : Set Int) (log : OwnerLog) (w' : Set Int) : Prop :=
  ∀ before pid signal x after v, log = before ++ .inr ⟨.send pid signal, x⟩ :: after →
    ownerWorld.Path w before v → ownerWorld.Path v (.inr ⟨.send pid signal, x⟩ :: after) w' →
    pid ∈ v

/-- No wait fails. -/
def WaitsAnswered (log : OwnerLog) : Prop :=
  ∀ pid timeout error, .inr ⟨.waitForExit pid timeout, .error error⟩ ∉ log

/-- Where deliveries fail for exited targets only, nothing fails exactly if nobody exits
    before the signal. -/
theorem no_failure_iff {w w' : Set Int} {log : OwnerLog} (hgone : OnlyNotFound log)
    (hpath : ownerWorld.Path w log w') :
    (∀ e ∈ events (W := ownerWorld) log, isFailure e = false) ↔
      StillThere w log w' ∧ WaitsAnswered log := by
  constructor
  · intro hnone
    refine ⟨?_, fun pid timeout error hmem => ?_⟩
    · rintro before pid signal x after v rfl - ⟨v', hanswer, -⟩
      cases x with
      | ok delivery => exact hanswer.2
      | error error =>
        have hfailed := hnone ⟨.send pid signal, .error error⟩ (mem_events.mpr (by simp))
        cases hfailed
    · cases hnone _ (mem_events.mpr hmem)
  · rintro ⟨hthere, hwaits⟩ e he
    have hmem := mem_events.mp he
    rw [Bool.eq_false_iff]
    intro hfailed
    rcases isFailure_cases hfailed with ⟨pid, signal, error, rfl⟩ | ⟨pid, timeout, error, rfl⟩
    · -- the target was gone, against the condition
      obtain ⟨before, after, rfl⟩ := List.append_of_mem hmem
      obtain ⟨v, hbefore, hafter⟩ := path_append.mp hpath
      have hpresent := hthere before pid signal _ after v rfl hbefore hafter
      obtain ⟨v', hanswer, -⟩ := hafter
      exact hanswer.2 (hgone pid signal error hmem) hpresent
    · exact hwaits pid timeout error hmem

/-- Whoever only observes gets every answer, and changes nothing. -/
theorem path_of_quiet {t : Trace Contract} (h : Quiet t) (w : Set Int) :
    ownerWorld.Path w (t.map .inr) w := by
  induction t with
  | nil => rfl
  | cons e t ih =>
    obtain ⟨hcall, hrest⟩ := quiet_cons.mp h
    refine ⟨w, ⟨rfl, ?_⟩, ih hrest⟩
    obtain ⟨c, x⟩ := e
    cases c <;> trivial

theorem runs_of_quiet {α : Type} {p : App α} {t : Trace Contract} {a : α} (hquiet : Quiet t)
    (h : p.Run t a) (w : Set Int) : ownerWorld.Runs p w (t.map .inr) a w :=
  ⟨by rw [events_map_inr]; exact h, path_of_quiet hquiet w⟩

/-! ## §4 The release -/

/-- A release that should succeed. The plan was prepared, the second observation matches
    it, the signal loop fails for exited targets only, and the port is seen without
    sockets at the end. The last observation is the one `terminate` makes; where
    `terminate` has returned before, it is what would be seen then. -/
structure Releasable (ports : PortService) (plan : PortReleasePlan) (w w₁ w₂ w₃ : Set Int)
    (recheck loop final : OwnerLog) : Prop where
  prepared : ∃ port t warnings, (ports.prepareRelease port).Run t (.ok ⟨plan, warnings⟩)
  unchanged : ∃ current, PortService.sameTargets plan current.value = true ∧
    ownerWorld.Runs (ports.prepareRelease plan.localPort) w recheck (.ok current) w₁
  signalled : ∃ sent,
    ownerWorld.Runs (ports.signalAndWait .terminate plan.ownerPids) w₁ loop sent w₂
  onlyNotFound : OnlyNotFound loop
  free : ∃ warnings, ownerWorld.Runs (ports.inspect { localPort := some plan.localPort }) w₂ final
    (.ok ⟨[], warnings⟩) w₃

/-- **A release fails when an owner exits before its turn.** Whatever part of such a
    history `terminate` has made when it returns: it reports the release exactly if no
    owner was gone when its signal was sent and no wait failed. -/
theorem terminate_released_iff_stillThere {ports : PortService} {plan : PortReleasePlan}
    {w w₁ w₂ w₃ w' : Set Int} {recheck loop final made : OwnerLog}
    {r : Result (Observation PortReleaseResult)}
    (h : Releasable ports plan w w₁ w₂ w₃ recheck loop final)
    (hmade : made <+: recheck ++ (loop ++ final))
    (hrun : ownerWorld.Runs (ports.terminate plan) w made r w') :
    (∃ result, r = .ok result ∧ result.value.released = true) ↔
      StillThere w₁ loop w₂ ∧ WaitsAnswered loop := by
  obtain ⟨port, t, planWarnings, hprepared⟩ := h.prepared
  obtain ⟨current, hsame, hcurrent⟩ := h.unchanged
  obtain ⟨sent, hloop⟩ := h.signalled
  obtain ⟨warnings, hfinal⟩ := h.free
  have hsignalable := (PortService.prepareRelease_plan hprepared).2.2
  rw [← no_failure_iff h.onlyNotFound hloop.2, ← PortService.signalAndWait_ok_iff hsignalable hloop.1]
  -- the answers decide how `terminate` went: compare with the run built from the parts
  obtain ⟨rest, hrest⟩ := hmade
  have hevents : events (W := ownerWorld) made ++ events (W := ownerWorld) rest =
      events (W := ownerWorld) recheck ++
        (events (W := ownerWorld) loop ++ events (W := ownerWorld) final) := by
    rw [← events_append, hrest, events_append, events_append]
  cases sent with
  | error error =>
    -- the loop has failed, and nobody looks at the port any more
    have hgivesUp := PortService.terminate_of_loop_error hcurrent.1 hsame hloop.1
    rw [← List.append_assoc] at hevents
    obtain ⟨-, -, rfl⟩ := Prog.Run.prefix_unique hrun.1 hgivesUp hevents
    exact iff_of_false (by simp) (by simp)
  | ok deliveries =>
    have hport := PortService.prepareRelease_port hcurrent.1
    -- the loop went through, and the last look finds the port free
    have hreleases := PortService.terminate_of_loop_ok hcurrent.1 hsame hloop.1
      (PortService.prepareRelease_of_no_socket hport hfinal.1) rfl
    rw [← List.append_nil (_ ++ (_ ++ _))] at hevents
    obtain ⟨-, -, rfl⟩ := Prog.Run.prefix_unique hrun.1 hreleases hevents
    exact iff_of_true ⟨_, rfl, rfl⟩ ⟨deliveries, rfl⟩

/-- An observation that finds nothing. -/
def freeObservation : Trace Contract :=
  [⟨.querySockets { localPort := some 8080 }, .ok ⟨[], []⟩⟩, ⟨.resolveOwners [], .ok ⟨[], []⟩⟩,
    ⟨.hashOrder [], ⟨[], .refl _⟩⟩]

theorem sharedPlan_unchanged : PortService.sameTargets sharedPlan sharedPlan = true := by decide

theorem freeObservation_run :
    (sharedPorts.inspect { localPort := some sharedPlan.localPort }).Run freeObservation
      (.ok ⟨[], []⟩) :=
  ⟨_, _, rfl, _, _, rfl, _, _, rfl, rfl, rfl⟩

theorem freeObservation_quiet : Quiet freeObservation :=
  (PortService.inspect_inspects _).observes.quiet freeObservation_run

/-- The history of a release of the shared socket, by what happens in the loop. -/
theorem shared_releasable {w₁ w₂ : Set Int} {loop : OwnerLog} {sent : Result (List SignalDelivery)}
    (hloop : ownerWorld.Runs (sharedPorts.signalAndWait .terminate [20, 30]) w₁ loop sent w₂)
    (hgone : OnlyNotFound loop) :
    Releasable sharedPorts sharedPlan w₁ w₁ w₂ w₂ (sharedObservation.map .inr) loop
      (freeObservation.map .inr) where
  prepared := ⟨8080, _, _, sharedObservation_run⟩
  unchanged := ⟨⟨sharedPlan, []⟩, sharedPlan_unchanged,
    runs_of_quiet (PortService.prepareRelease_quiet sharedObservation_run) sharedObservation_run w₁⟩
  signalled := ⟨sent, hloop⟩
  onlyNotFound := hgone
  free := ⟨[], runs_of_quiet freeObservation_quiet freeObservation_run w₂⟩

/-- Both processes take the signal and exit. -/
def smoothLoop : OwnerLog :=
  [.inr ⟨.send 20 .terminate, .ok ⟨20, .terminate, .pidFd⟩⟩,
    .inr ⟨.send 30 .terminate, .ok ⟨30, .terminate, .pidFd⟩⟩,
    .inl (.exit 20), .inl (.exit 30), .inr ⟨.steadyNow 0, ⟨0, le_rfl⟩⟩,
    .inr ⟨.steadyNow 0, ⟨0, le_rfl⟩⟩, .inr ⟨.waitForExit 20 0, .ok true⟩,
    .inr ⟨.steadyNow 0, ⟨0, le_rfl⟩⟩, .inr ⟨.waitForExit 30 0, .ok true⟩]

/-- The worker exits with the server, before its own signal. -/
def exitingLoop : OwnerLog :=
  [.inr ⟨.send 20 .terminate, .ok ⟨20, .terminate, .pidFd⟩⟩, .inl (.exit 20), .inl (.exit 30),
    .inr ⟨.send 30 .terminate, .error ⟨.notFound,
      "Unable to open process handle: No such process", 3, "pidfd", "open process handle"⟩⟩]

theorem smoothLoop_runs : ownerWorld.Runs (sharedPorts.signalAndWait .terminate [20, 30]) {20, 30}
    smoothLoop (.ok [⟨20, .terminate, .pidFd⟩, ⟨30, .terminate, .pidFd⟩])
    (({20, 30} \ {20}) \ {30} : Set Int) := by
  constructor
  · have hwaits : (sharedPorts.waitForOwners 0 [20, 30] 0).Run
        [⟨.steadyNow 0, ⟨0, le_rfl⟩⟩, ⟨.waitForExit 20 0, .ok true⟩, ⟨.steadyNow 0, ⟨0, le_rfl⟩⟩,
          ⟨.waitForExit 30 0, .ok true⟩] (.ok ()) :=
      ⟨_, _, rfl, _, _, rfl, _, _, rfl, _, _, rfl, rfl, rfl⟩
    have hsignals : (sharedPorts.signalOwners .terminate [20, 30] []).Run
        [⟨.send 20 .terminate, .ok ⟨20, .terminate, .pidFd⟩⟩,
          ⟨.send 30 .terminate, .ok ⟨30, .terminate, .pidFd⟩⟩]
        (.ok [⟨20, .terminate, .pidFd⟩, ⟨30, .terminate, .pidFd⟩]) :=
      ⟨_, _, rfl, _, _, rfl, rfl, rfl⟩
    refine Prog.run_bind_iff.mpr ⟨_, _, _, hsignals, ?_, rfl⟩
    refine Prog.run_bind_iff.mpr ⟨⟨0, le_rfl⟩, [_], _, Prog.run_perform.mpr rfl, ?_, rfl⟩
    exact Prog.run_bind_iff.mpr ⟨_, _, [], hwaits, ⟨rfl, rfl⟩, rfl⟩
  · exact ⟨_, ⟨rfl, by simp⟩, _, ⟨rfl, by simp⟩, _, rfl, _, rfl, _, ⟨rfl, trivial⟩, _,
      ⟨rfl, trivial⟩, _, ⟨rfl, trivial⟩, _, ⟨rfl, trivial⟩, _, ⟨rfl, trivial⟩, rfl⟩

theorem smoothLoop_onlyNotFound : OnlyNotFound smoothLoop := by
  intro pid signal error hmem
  simp only [smoothLoop, List.mem_cons, List.not_mem_nil, or_false] at hmem
  rcases hmem with h | h | h | h | h | h | h | h | h <;> cases h

/-- What is reported then. -/
def exitedError : Error :=
  ⟨.notFound, "Port release was partially signaled: Unable to open process handle: No such process",
    3, "pidfd", "open process handle"⟩

theorem exitingLoop_runs : ownerWorld.Runs (sharedPorts.signalAndWait .terminate [20, 30]) {20, 30}
    exitingLoop (.error exitedError) (({20, 30} \ {20}) \ {30} : Set Int) := by
  refine ⟨⟨_, _, rfl, _, _, rfl, rfl, rfl⟩, ?_⟩
  exact ⟨_, ⟨rfl, by simp⟩, _, rfl, _, rfl, _, ⟨rfl, fun _ => by simp⟩, rfl⟩

theorem exitingLoop_onlyNotFound : OnlyNotFound exitingLoop := by
  intro pid signal error hmem
  simp only [exitingLoop, List.mem_cons, List.not_mem_nil, or_false] at hmem
  rcases hmem with h | h | h | h <;> cases h
  rfl

/-- Both processes exit after their signals: the release is reported, and nobody was gone
    when the signals were sent. -/
theorem terminate_released_smoothly :
    ownerWorld.Runs (sharedPorts.terminate sharedPlan) {20, 30}
      (sharedObservation.map .inr ++ (smoothLoop ++ freeObservation.map .inr))
      (.ok ⟨{ released := true, deliveries := [⟨20, .terminate, .pidFd⟩, ⟨30, .terminate, .pidFd⟩] },
        []⟩) (({20, 30} \ {20}) \ {30} : Set Int) ∧
    OnlyNotFound smoothLoop ∧
    StillThere {20, 30} smoothLoop (({20, 30} \ {20}) \ {30} : Set Int) ∧
    WaitsAnswered smoothLoop := by
  have hfinal : (sharedPorts.prepareRelease sharedPlan.localPort).Run freeObservation
      (.error (PortService.noSocketError 8080)) :=
    PortService.prepareRelease_of_no_socket (by decide) freeObservation_run
  have hreleases : ownerWorld.Runs (sharedPorts.terminate sharedPlan) {20, 30}
      (sharedObservation.map .inr ++ (smoothLoop ++ freeObservation.map .inr))
      (.ok ⟨{ released := true, deliveries := [⟨20, .terminate, .pidFd⟩, ⟨30, .terminate, .pidFd⟩] },
        []⟩) (({20, 30} \ {20}) \ {30} : Set Int) := by
    constructor
    · have hcode : (PortService.noSocketError 8080).code = .notFound := rfl
      rw [events_append, events_append, events_map_inr, events_map_inr]
      exact PortService.terminate_of_loop_ok sharedObservation_run sharedPlan_unchanged
        smoothLoop_runs.1 hfinal hcode
    · refine path_append.mpr ⟨_, path_of_quiet
        (PortService.prepareRelease_quiet sharedObservation_run) _, ?_⟩
      exact path_append.mpr ⟨_, smoothLoop_runs.2, path_of_quiet freeObservation_quiet _⟩
  exact ⟨hreleases, smoothLoop_onlyNotFound, (terminate_released_iff_stillThere
    (shared_releasable smoothLoop_runs smoothLoop_onlyNotFound) List.prefix_rfl hreleases).mp
    ⟨_, rfl, rfl⟩⟩

/-- **The worker exits with the server.** Nobody holds the port any more, and the release
    is reported as failed. -/
theorem terminate_fails_for_exited_worker : ∃ w' made final,
    Releasable sharedPorts sharedPlan {20, 30} {20, 30} w' w' (sharedObservation.map .inr)
      exitingLoop final ∧
    made <+: sharedObservation.map .inr ++ (exitingLoop ++ final) ∧
    ownerWorld.Runs (sharedPorts.terminate sharedPlan) {20, 30} made (.error exitedError)
      w' := by
  have hmade : sharedObservation.map .inr ++ exitingLoop <+:
      sharedObservation.map .inr ++ (exitingLoop ++ freeObservation.map .inr) := by
    rw [← List.append_assoc]
    exact List.prefix_append _ _
  refine ⟨_, _, _, shared_releasable exitingLoop_runs exitingLoop_onlyNotFound, hmade, ?_, ?_⟩
  · rw [events_append, events_map_inr]
    exact PortService.terminate_of_loop_error sharedObservation_run sharedPlan_unchanged
      exitingLoop_runs.1
  · exact path_append.mpr ⟨_, path_of_quiet
      (PortService.prepareRelease_quiet sharedObservation_run) _, exitingLoop_runs.2⟩

end Lx
