import Lx.Application.PortInspection
import Lx.Cli.FreePortSafety

/-!
# The rounds of `lx port free`

A run that signals observes the port, asks, observes the port again, signals the owners and
looks at what is left; then it may do all that once more with SIGKILL. The lemmas here take a
run apart into these stretches (`releaseWith_rounds`, `freeBySignals_rounds`) and say what an
observation consists of (`Observed`), down to the answers of the providers.
-/

namespace Lx

open Interaction

namespace PortService

variable {self : PortService} {t : Trace Contract}

/-! ## §1 Observations -/

/-- The calls that go through the owners found. -/
def visitsOwners : Call → Bool
  | .hashOrder _ | .getProcess _ | .unitByPid _ => true
  | _ => false

theorem inspectOwners_visits (pids : List Int) (processes : List (Int × ProcessInfo))
    (warnings : List Warning) :
    (self.inspectOwners pids processes warnings).Within (S := Contract) (visitsOwners · = true) := by
  induction pids generalizing processes warnings with
  | nil => exact Prog.within_ret
  | cons pid rest ih =>
    refine Prog.Within.bind ?_ fun got => ?_
    -- one visit: the record of the process, and its unit
    · unfold ProcessService.inspect
      split
      · exact Prog.within_ret
      · refine (Prog.within_perform (S := Contract) (P := (visitsOwners · = true))
          (c := .getProcess pid) rfl).bind fun got => ?_
        split
        · exact Prog.within_ret
        · exact Prog.within_ret
        · refine Prog.Within.bind ?_ fun _ => Prog.within_ret
          unfold ServiceService.unitByPid
          split
          · exact Prog.within_ret
          · exact Prog.within_perform rfl
    · cases got with
      | error error => exact ih _ _
      | ok observed => exact ih _ _

/-- The question an observation begins with. -/
def AsksSockets (e : Event Contract) : Prop := ∃ query, e.1 = .querySockets query

theorem not_asksSockets_of_visitsOwners {e : Event Contract} (h : visitsOwners e.1 = true) :
    ¬ AsksSockets e := by
  rintro ⟨query, hquery⟩
  rw [hquery] at h
  cases h

/-- An observation asks for the sockets once, and first. -/
theorem prepareRelease_head {localPort : Nat} {r : Result (Observation PortReleasePlan)}
    (h : (self.prepareRelease localPort).Run t r) : t = [] ∨ ∃ query x rest,
      t = ⟨.querySockets query, x⟩ :: rest ∧ ∀ e ∈ rest, ¬ AsksSockets e := by
  unfold prepareRelease at h
  split at h
  -- port 0 is refused before anything is asked
  · exact .inl h.1
  · obtain ⟨inspected, t₁, t₂, hinspect, hrest, rfl⟩ := Prog.run_bind_iff.mp h
    -- nothing is exchanged after the inspection
    have hnone : t₂ = [] := by
      cases inspected with
      | error error => exact hrest.1
      | ok inspected =>
        dsimp only at hrest
        split at hrest
        · exact hrest.1
        · split at hrest <;> exact hrest.1
    subst hnone
    rw [List.append_nil]
    rcases inspect_run hinspect with ⟨_, rfl, -⟩ | ⟨_, _, rfl, -⟩ |
      ⟨sockets, ownership, order, t', processes, warnings, rfl, howners, -⟩
    · exact .inr ⟨_, _, [], rfl, by simp⟩
    -- the sockets, their owners, and then the owners one by one
    · exact .inr ⟨_, _, _, rfl, by simp [AsksSockets]⟩
    · refine .inr ⟨_, _, _, rfl, ?_⟩
      intro e he
      rcases List.mem_cons.mp he with rfl | he
      · simp [AsksSockets]
      rcases List.mem_cons.mp he with rfl | he
      · simp [AsksSockets]
      · exact not_asksSockets_of_visitsOwners ((inspectOwners_visits _ _ _).run howners e he)

/-- `t` is one observation of the port, and its first two answers put these rows together. -/
def Observed (t : Trace Contract) (rows : List SocketRow) : Prop :=
  ∃ query sockets inodes ownership visits,
    t = ⟨.querySockets query, .ok sockets⟩ :: ⟨.resolveOwners inodes, .ok ownership⟩ :: visits ∧
    (∀ e ∈ visits, visitsOwners e.1 = true) ∧
    rows = sockets.value.map fun socket => socketRow { socket with
      ownerPids := (ownership.value.lookup socket.inode).getD socket.ownerPids }

theorem withOwners_eq (ownership : SocketOwnership) (socket : SocketInfo) :
    withOwners ownership socket = { socket with
      ownerPids := (ownership.lookup socket.inode).getD socket.ownerPids } := by
  -- without an owner on record the socket keeps what the provider has put there
  unfold withOwners
  cases ownership.lookup socket.inode with
  | none => rfl
  | some owners => rfl

theorem rows_toPortInfo (sockets : List SocketInfo) (ownership : SocketOwnership)
    (processes : List (Int × ProcessInfo)) :
    ((sockets.map (withOwners ownership)).map (toPortInfo processes)).map (socketRow ·.socket) =
      sockets.map fun socket => socketRow { socket with
        ownerPids := (ownership.lookup socket.inode).getD socket.ownerPids } := by
  rw [List.map_map, List.map_map]
  refine List.map_congr_left fun socket _ => ?_
  rw [← withOwners_eq]
  rfl

/-- A prepared plan has the rows of its observation. -/
theorem prepareRelease_observed {localPort : Nat} {observed : Observation PortReleasePlan}
    (h : (self.prepareRelease localPort).Run t (.ok observed)) :
    Observed t (observed.value.ports.map (socketRow ·.socket)) := by
  obtain ⟨ports, hinspect, -, hplan⟩ := prepareRelease_ok h
  obtain ⟨hplan, -, -⟩ := planOf_ok hplan
  rcases inspect_run hinspect with ⟨_, -, hr⟩ | ⟨_, _, -, hr⟩ |
    ⟨sockets, ownership, order, t', processes, warnings, rfl, howners, hr⟩
  -- a plan is made only if both questions were answered
  · cases hr
  · cases hr
  · obtain ⟨rfl, -⟩ := Observation.mk.inj (Except.ok.inj hr)
    refine ⟨_, sockets, _, ownership, _, rfl, ?_, ?_⟩
    · intro e he
      rcases List.mem_cons.mp he with rfl | he
      · rfl
      · exact (inspectOwners_visits _ _ _).run howners e he
    · rw [hplan]
      exact rows_toPortInfo _ _ _

theorem Observed.looksUp {rows : List SocketRow} (h : Observed t rows) :
    ∀ e ∈ t, Call.looksUp e.1 = true := by
  obtain ⟨query, sockets, inodes, ownership, visits, rfl, hvisits, -⟩ := h
  intro e he
  rcases List.mem_cons.mp he with rfl | he
  · rfl
  rcases List.mem_cons.mp he with rfl | he
  · rfl
  have hvisit := hvisits e he
  cases hcall : e.1 <;> rw [hcall] at hvisit <;> first | rfl | cases hvisit

theorem Observed.unique {rows rows' : List SocketRow} (h : Observed t rows) (h' : Observed t rows') :
    rows = rows' := by
  obtain ⟨_, _, _, _, _, rfl, -, rfl⟩ := h
  obtain ⟨_, _, _, _, _, heq, -, rfl⟩ := h'
  cases heq
  rfl

theorem Observed.asks {rows : List SocketRow} (h : Observed t rows) :
    ∃ e rest, t = e :: rest ∧ AsksSockets e := by
  obtain ⟨query, sockets, inodes, ownership, visits, rfl, -⟩ := h
  exact ⟨_, _, rfl, query, rfl⟩

/-- A port that has been observed is asked for its sockets every time. -/
theorem prepareRelease_asks {localPort : Nat} {observation : Trace Contract}
    {plan : Observation PortReleasePlan} {r : Result (Observation PortReleasePlan)}
    (hplan : (self.prepareRelease localPort).Run observation (.ok plan))
    (h : (self.prepareRelease localPort).Run t r) : ∃ e rest, t = e :: rest ∧ AsksSockets e := by
  rcases prepareRelease_head h with rfl | ⟨query, x, rest, rfl, -⟩
  · -- a run that asks nothing is the same run again, but the first one has asked
    obtain ⟨rfl, -⟩ := hplan.prefix_unique h (by simp : observation ++ [] = [] ++ observation)
    obtain ⟨e, rest, hnil, -⟩ := (prepareRelease_observed hplan).asks
    cases hnil
  · exact ⟨_, rest, rfl, query, rfl⟩

/-- An observation that shows the rows of a plan makes a plan again. -/
theorem prepareRelease_again {localPort : Nat} {plan : Observation PortReleasePlan}
    {observation confirmation after u : Trace Contract}
    {r : Result (Observation PortReleasePlan)} {rows : List SocketRow}
    (hplan : (self.prepareRelease localPort).Run observation (.ok plan))
    (h : (self.prepareRelease localPort).Run t r) (heq : t ++ u = confirmation ++ after)
    (hconfirmation : Observed confirmation rows)
    (hsame : (plan.value.ports.map (socketRow ·.socket)).Perm rows) :
    ∃ current, r = .ok current ∧ sameTargets plan.value current.value = true := by
  obtain ⟨ports, -, hports, hplanOf⟩ := prepareRelease_ok hplan
  obtain ⟨hplanEq, howned, hsignalable⟩ := planOf_ok hplanOf
  obtain rfl : plan.value.ports = ports := by rw [hplanEq]
  have hport : localPort ≠ 0 := by
    rintro rfl
    obtain ⟨-, hr⟩ := hplan
    cases hr
  unfold prepareRelease at h
  rw [if_neg hport] at h
  obtain ⟨inspected, t₁, t₂, hinspect, hrest, rfl⟩ := Prog.run_bind_iff.mp h
  obtain ⟨query, sockets, inodes, ownership, visits, rfl, -, rfl⟩ := hconfirmation
  rcases inspect_run hinspect with ⟨_, rfl, rfl⟩ | ⟨_, _, rfl, rfl⟩ |
    ⟨sockets', ownership', order, t', processes, warnings', rfl, -, rfl⟩
  -- the first two answers are those of an observation, so neither question failed
  · cases (List.cons.inj heq).1
  · cases (List.cons.inj (List.cons.inj heq).2).1
  · obtain ⟨hfirst, hmore⟩ := List.cons.inj heq
    obtain ⟨hsecond, -⟩ := List.cons.inj hmore
    cases hfirst
    cases hsecond
    rw [← rows_toPortInfo _ _ processes] at hsame
    -- the new rows have the owners of the old ones, so they pass the same checks
    generalize (sockets.value.map (withOwners ownership.value)).map (toPortInfo processes) = shown
      at hrest hsame
    have hmem : ∀ port ∈ shown, ∃ old ∈ plan.value.ports,
        old.socket.ownerPids = port.socket.ownerPids := by
      intro port hmem
      have hrow : socketRow port.socket ∈ shown.map (socketRow ·.socket) := List.mem_map_of_mem hmem
      obtain ⟨old, hold, heq⟩ := List.mem_map.mp (hsame.mem_iff.mpr hrow)
      refine ⟨old, hold, ?_⟩
      simp only [socketRow, Prod.mk.injEq] at heq
      exact heq.2.2.2.2.2
    have hne : shown ≠ [] := by
      rintro rfl
      exact hports (List.map_eq_nil_iff.mp hsame.eq_nil)
    have hshown : ∀ port ∈ shown, port.socket.ownerPids ≠ [] := by
      intro port hport
      obtain ⟨old, hold, howners⟩ := hmem port hport
      rw [← howners]
      exact howned old hold
    have hpids : ∀ pid ∈ ownerPidsOf shown, self.processService_.Signalable pid := by
      intro pid hpid
      obtain ⟨port, hport, hpid⟩ := mem_ownerPidsOf.mp hpid
      obtain ⟨old, hold, howners⟩ := hmem port hport
      exact hsignalable pid (mem_ownerPidsOf.mpr ⟨old, hold, howners ▸ hpid⟩)
    obtain ⟨current, hcurrent⟩ : ∃ current, self.planOf localPort shown = .ok current :=
      exists_planOf hshown hpids
    dsimp only at hrest
    rw [if_neg (by simpa using hne), hcurrent] at hrest
    obtain ⟨rfl, rfl⟩ := hrest
    -- the new plan shows what the observation shows
    refine ⟨_, rfl, sameTargets_iff.mpr ?_⟩
    rw [(planOf_ok hcurrent).1]
    exact hsame

/-! ## §2 Rounds of signals -/

/-- Signalling, and waiting for the outcome. -/
def carriesOut : Call → Bool
  | .send _ _ | .waitForExit _ _ | .steadyNow _ => true
  | _ => false

/-- A round of signals: the first signal, then more of them and the waits. -/
def Sends (processSignal : ProcessSignal) (t : Trace Contract) : Prop :=
  ∃ pid x rest, t = ⟨.send pid processSignal, x⟩ :: rest ∧ ∀ e ∈ rest, carriesOut e.1 = true

theorem Sends.carriesOut {processSignal : ProcessSignal} (h : Sends processSignal t) :
    ∀ e ∈ t, carriesOut e.1 = true := by
  obtain ⟨pid, x, rest, rfl, hrest⟩ := h
  intro e he
  rcases List.mem_cons.mp he with rfl | he
  · rfl
  · exact hrest e he

theorem signalOwners_carriesOut (processSignal : ProcessSignal) (pids : List Int)
    (deliveries : List SignalDelivery) :
    (self.signalOwners processSignal pids deliveries).Within (S := Contract) (carriesOut · = true) := by
  induction pids generalizing deliveries with
  | nil => exact Prog.within_ret
  | cons pid rest ih =>
    refine Prog.Within.bind ?_ fun sent => ?_
    · unfold ProcessService.signal
      split
      -- a refused target ends the loop without a signal
      · exact Prog.within_ret
      · exact Prog.within_perform rfl
    · cases sent with
      | error error => exact Prog.within_ret
      | ok delivery => exact ih _

theorem waitForOwners_carriesOut (deadline : Nat) (pids : List Int) (earlier : Nat) :
    (self.waitForOwners deadline pids earlier).Within (S := Contract) (carriesOut · = true) := by
  induction pids generalizing earlier with
  | nil => exact Prog.within_ret
  | cons pid rest ih =>
    refine (Prog.within_perform (S := Contract) (P := (carriesOut · = true))
      (c := .steadyNow earlier) rfl).bind fun now => ?_
    refine Prog.Within.bind ?_ fun exited => ?_
    · unfold ProcessService.waitForExit
      split
      · exact Prog.within_ret
      · exact Prog.within_perform rfl
    · cases exited with
      | error error => exact Prog.within_ret
      | ok _ => exact ih _

theorem signalAndWait_carriesOut (processSignal : ProcessSignal) (pids : List Int) :
    (self.signalAndWait processSignal pids).Within (S := Contract) (carriesOut · = true) := by
  refine (signalOwners_carriesOut _ _ _).bind fun sent => ?_
  cases sent with
  | error error => exact Prog.within_ret
  | ok deliveries =>
    -- the deadline is set once, after the last signal
    refine (Prog.within_perform (S := Contract) (P := (carriesOut · = true))
      (c := .steadyNow 0) rfl).bind fun now => ?_
    refine (waitForOwners_carriesOut _ _ _).bind fun waited => ?_
    cases waited <;> exact Prog.within_ret

/-- A prepared plan has somebody to signal. -/
theorem prepareRelease_ownerPids_ne_nil {localPort : Nat} {observed : Observation PortReleasePlan}
    (h : (self.prepareRelease localPort).Run t (.ok observed)) : observed.value.ownerPids ≠ [] := by
  obtain ⟨ports, -, hne, hplan⟩ := prepareRelease_ok h
  obtain ⟨hplan, howned, -⟩ := planOf_ok hplan
  rw [hplan]
  exact ownerPidsOf_ne_nil hne howned

/-- Carrying out a prepared plan begins with a signal. -/
theorem signalAndWait_sends {localPort : Nat} {plan : Observation PortReleasePlan}
    {planning : Trace Contract} {processSignal : ProcessSignal} {r : Result (List SignalDelivery)}
    (hplan : (self.prepareRelease localPort).Run planning (.ok plan))
    (h : (self.signalAndWait processSignal plan.value.ownerPids).Run t r) : Sends processSignal t := by
  have hcarries := (signalAndWait_carriesOut _ _).run h
  obtain ⟨pid, others, hpids⟩ := List.exists_cons_of_ne_nil (prepareRelease_ownerPids_ne_nil hplan)
  obtain ⟨-, -, hsignalable⟩ := prepareRelease_plan hplan
  obtain ⟨loop, waits, _, hloop, -, rfl, -⟩ := signalAndWait_run h
  -- somebody owns the port, and may be signalled
  rw [hpids] at hloop
  obtain ⟨sent, t₁, t₂, hsent, -, rfl⟩ := Prog.run_bind_iff.mp hloop
  rcases ProcessService.signal_run hsent with ⟨-, _, -, hnot⟩ | ⟨rfl, -⟩
  · exact absurd (hsignalable pid (by simp [hpids])) hnot
  · exact ⟨pid, sent, t₂ ++ waits, rfl, fun e he => hcarries e (List.mem_cons_of_mem _ he)⟩

/-- An operation that leaves nothing to ask about. -/
def Ends (r : Result (Observation PortReleaseResult)) : Prop :=
  (∃ error, r = .error error) ∨ ∃ result, r = .ok result ∧ result.value.released = true

/-- **The rounds of an operation.** Unless the new observation keeps it from the signals, they
    follow it, and the port is observed once more if all of them were delivered. -/
theorem releaseWith_rounds {localPort : Nat} {plan : Observation PortReleasePlan}
    {planning : Trace Contract} {processSignal : ProcessSignal}
    {stillOccupied : List Warning → List SignalDelivery → Observation PortReleasePlan →
      Result (Observation PortReleaseResult)} {r : Result (Observation PortReleaseResult)}
    (hplan : (self.prepareRelease localPort).Run planning (.ok plan))
    (h : (self.releaseWith processSignal plan.value stillOccupied).Run t r) :
    (∃ current, (self.prepareRelease localPort).Run t current ∧ Ends r ∧
      ∀ observed, current = .ok observed → sameTargets plan.value observed.value = false) ∨
    ∃ current observation sends tail, t = observation ++ (sends ++ tail) ∧
      (self.prepareRelease localPort).Run observation (.ok current) ∧
      sameTargets plan.value current.value = true ∧ Sends processSignal sends ∧
      (tail = [] ∧ Ends r ∨ ∃ after deliveries, (self.prepareRelease localPort).Run tail after ∧
        r = concludeRelease plan.value current.warnings deliveries
          (stillOccupied current.warnings deliveries) after) := by
  obtain ⟨hport, -⟩ := prepareRelease_plan hplan
  rcases releaseWith_run h with ⟨error, hobs, rfl⟩ | ⟨current, hobs, hdiff, rfl⟩ |
    ⟨current, t₁, t₂, error, hobs, hsame, hsig, rfl, rfl⟩ |
    ⟨current, t₁, t₂, deliveries, t₃, after, hobs, hsame, hsig, hafter, rfl, rfl⟩
  · refine .inl ⟨_, hport ▸ hobs, ?_, by simp⟩
    split
    · exact .inr ⟨_, rfl, rfl⟩
    · exact .inl ⟨_, rfl⟩
  · refine .inl ⟨_, hport ▸ hobs, .inl ⟨_, rfl⟩, ?_⟩
    rintro _ ⟨⟩
    exact hdiff
  · exact .inr ⟨current, t₁, t₂, [], by simp, hport ▸ hobs, hsame, signalAndWait_sends hplan hsig,
      .inl ⟨rfl, .inl ⟨_, rfl⟩⟩⟩
  · exact .inr ⟨current, t₁, t₂, t₃, by simp, hport ▸ hobs, hsame, signalAndWait_sends hplan hsig,
      .inr ⟨after, deliveries, hport ▸ hafter, rfl⟩⟩

end PortService

namespace Cli

variable {ports : PortService} {options : FreePortOptions} {port : Nat} {t : Trace Contract}

/-! ## §3 The shape of a run -/

/-- The second question, and SIGKILL. -/
def Forced (ports : PortService) (options : FreePortOptions) (remaining : PortReleasePlan)
    (t : Trace Contract) : Prop :=
  ∃ asked release r done, t = asked ++ (release ++ done) ∧
    (authorize options forcePrompt false).Run asked true ∧ (ports.force remaining).Run release r ∧
    ConsoleOnly done

theorem freeByForce_rounds {remaining : PortReleasePlan} {code : Int}
    (h : (freeByForce ports options port remaining).Run t code) :
    ConsoleOnly t ∨ ∃ told more, t = told ++ more ∧ told ≠ [] ∧ ConsoleOnly told ∧
      Forced ports options remaining more := by
  obtain ⟨_, t₁, t₂, hw, hk, rfl⟩ := Prog.run_bind_iff.mp h
  obtain rfl := Prog.run_perform.mp hw
  obtain ⟨agreed, t₃, t₄, ha, hk₁, rfl⟩ := Prog.run_bind_iff.mp hk
  have hwritten : ConsoleOnly [⟨.write "Port is still occupied.\n", ()⟩] := by
    simp [ConsoleOnly, isConsole]
  cases agreed with
  | false =>
    exact .inl (hwritten.append ((authorize_run ha).1.append ((console_cancelled options).run hk₁)))
  | true =>
    obtain ⟨forced, t₅, t₆, hf, hk₂, rfl⟩ := Prog.run_bind_iff.mp hk₁
    have hdone : ConsoleOnly t₆ := by
      cases forced with
      | error error => exact (console_fail error).run hk₂
      | ok forced => exact (console_released _ _ _).run hk₂
    exact .inr ⟨_, _, rfl, by simp, hwritten, t₃, t₅, forced, t₆, rfl, ha, hf, hdone⟩

/-- **The rounds of the signal branch.** Declined at the first question, or ended by the first
    operation, or asked once more. -/
theorem freeBySignals_rounds {plan : Observation PortReleasePlan} {planning : Trace Contract}
    {code : Int} (hplan : (ports.prepareRelease port).Run planning (.ok plan))
    (h : (freeBySignals ports options port plan.value).Run t code) :
    ConsoleOnly t ∨
    (∃ asked release r done, t = asked ++ (release ++ done) ∧
      (authorize options terminatePrompt true).Run asked true ∧
      (ports.terminate plan.value).Run release r ∧ ConsoleOnly done) ∨
    ∃ asked current observation sends replanning remaining told more,
      t = asked ++ (observation ++ (sends ++ (replanning ++ (told ++ more)))) ∧
      (authorize options terminatePrompt true).Run asked true ∧
      (ports.prepareRelease port).Run observation (.ok current) ∧
      PortService.sameTargets plan.value current.value = true ∧
      PortService.Sends .terminate sends ∧
      (ports.prepareRelease port).Run replanning (.ok remaining) ∧
      told ≠ [] ∧ ConsoleOnly told ∧ Forced ports options remaining.value more := by
  obtain ⟨agreed, t₁, t₂, ha, hk, rfl⟩ := Prog.run_bind_iff.mp h
  cases agreed with
  | false => exact .inl ((authorize_run ha).1.append ((console_cancelled options).run hk))
  | true =>
    obtain ⟨terminated, t₃, t₄, ht, hk₁, rfl⟩ := Prog.run_bind_iff.mp hk
    -- an operation that ends leaves nothing to ask about
    have hends : PortService.Ends terminated → ConsoleOnly t₄ := by
      rintro (⟨error, rfl⟩ | ⟨result, rfl, hreleased⟩)
      · exact (console_fail error).run hk₁
      · dsimp only at hk₁
        rw [if_pos hreleased] at hk₁
        exact (console_released _ _ _).run hk₁
    by_cases hdone : ConsoleOnly t₄
    · exact .inr (.inl ⟨t₁, t₃, terminated, t₄, rfl, ha, ht, hdone⟩)
    · rcases PortService.releaseWith_rounds hplan ht with ⟨_, -, hend, -⟩ |
        ⟨current, observation, sends, tail, rfl, hobs, hsame, hsends,
          ⟨-, hend⟩ | ⟨after, deliveries, hafter, rfl⟩⟩
      · exact absurd (hends hend) hdone
      · exact absurd (hends hend) hdone
      · cases after with
        | error error =>
          refine absurd (hends ?_) hdone
          unfold PortService.concludeRelease
          dsimp only
          split
          · exact .inr ⟨_, rfl, rfl⟩
          · exact .inl ⟨_, rfl⟩
        | ok remaining =>
          unfold PortService.concludeRelease at hk₁ hends
          dsimp only at hk₁ hends
          cases hbelongs : PortService.remainingTargetsBelongTo plan.value remaining.value with
          | false =>
            rw [hbelongs, if_pos (by rfl)] at hends
            exact absurd (hends (.inl ⟨_, rfl⟩)) hdone
          | true =>
            rw [hbelongs, if_neg (by simp)] at hk₁
            dsimp only at hk₁
            rw [if_neg (by simp)] at hk₁
            -- the owners that are left are asked about
            obtain ⟨_, t₅, t₆, hw, hk₂, rfl⟩ := Prog.run_bind_iff.mp hk₁
            have hwarnings : ConsoleOnly t₅ := (console_printWarnings _ _).run hw
            rcases freeByForce_rounds hk₂ with hconsole | ⟨told, more, rfl, hne, htold, hforced⟩
            · exact absurd (hwarnings.append hconsole) hdone
            · exact .inr (.inr ⟨t₁, current, observation, sends, tail, remaining, t₅ ++ told, more,
                by simp, ha, hobs, hsame, hsends, hafter, by simp [hne], hwarnings.append htold, hforced⟩)

end Cli

end Lx
