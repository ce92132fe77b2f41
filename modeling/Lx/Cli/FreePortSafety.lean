import Lx.Application.PortRelease
import Lx.Cli.FreePort

/-!
# Signal-target safety of `lx port free`

Every provider may answer every call as it likes, and differently each time. The
command still signals only owners of the plan it printed, only right after an
observation that matches the plan it executes, and only with authorisation; SIGKILL
needs a SIGTERM delivered in the same run and a second, explicit agreement.

The development follows the phases of a run: each lemma justifies the mutating calls
of one phase by its past (`Guarded`), and `freePort_guarded` puts the phases together.
-/

namespace Lx.Cli

open Interaction

variable {ports : PortService} {options : FreePortOptions} {port : Nat} {t : Trace Contract}

/-! ## §1 What justifies a mutating call -/

/-- Some prompt was agreed to in `past`: with `--yes` none is needed. -/
def Authorized (options : FreePortOptions) (prompt : Bytes) (defaultYes : Bool)
    (past : Trace Contract) : Prop :=
  options.confirmRelease = true ∨
  ∃ before line after, past = before ++ ⟨.write prompt, ()⟩ :: ⟨.getline, some line⟩ :: after ∧
    accepts defaultYes (some line) = true

/-- The last observation in `past` shows exactly the sockets of `executed`, as a multiset
    of (protocol, family, address, port, inode, owners); only mutating calls came after it. -/
def Revalidated (ports : PortService) (executed : PortReleasePlan) (past : Trace Contract) : Prop :=
  ∃ before observation loop current, past = before ++ observation ++ loop ∧
    (ports.prepareRelease executed.localPort).Run observation (.ok current) ∧
    (executed.ports.map (PortService.socketRow ·.socket)).Perm
      (current.value.ports.map (PortService.socketRow ·.socket)) ∧
    ∀ e ∈ loop, Call.mutates e.1 = true

/-- The last observation of the port in `past` returned `plan`. -/
def LastObserved (ports : PortService) (port : Nat) (plan : PortReleasePlan)
    (past : Trace Contract) : Prop :=
  ∃ before observation after warnings, past = before ++ observation ++ after ∧
    (ports.prepareRelease port).Run observation (.ok ⟨plan, warnings⟩) ∧
    ∀ e ∈ after, ∀ query, e.1 ≠ .querySockets query

/-- SIGTERM reached `pid` in `past`. -/
def Terminated (pid : Int) (past : Trace Contract) : Prop :=
  ∃ delivery, ⟨.send pid .terminate, .ok delivery⟩ ∈ past

/-- What justifies a call of the command that printed `plan`, given all calls before it. -/
def Justified (ports : PortService) (options : FreePortOptions) (port : Nat)
    (plan : PortReleasePlan) (past : Trace Contract) (e : Event Contract) : Prop :=
  match e.1 with
  | .send pid .terminate =>
    pid ∈ plan.ownerPids ∧ ports.processService_.Signalable pid ∧ plan.recommendedUnit = none ∧
    Authorized options terminatePrompt true past ∧ Revalidated ports plan past
  | .send pid .kill =>
    pid ∈ plan.ownerPids ∧ ports.processService_.Signalable pid ∧ plan.recommendedUnit = none ∧
    Authorized options terminatePrompt true past ∧ Authorized options forcePrompt false past ∧
    Terminated pid past ∧
    -- the executed plan is what was left when the port was found still occupied
    ∃ remaining occupied rest, past = occupied ++ rest ∧
      LastObserved ports port remaining occupied ∧ pid ∈ remaining.ownerPids ∧
      Revalidated ports remaining rest
  | .controlService action unit =>
    (∃ recommended, plan.recommendedUnit = some recommended ∧ action = .stop ∧
      ServiceService.normalizeUnit recommended = .ok unit ∧
      Authorized options (stopPrompt recommended) true past) ∧
    Revalidated ports plan past ∧ ∀ e ∈ past, ∀ action' unit', e.1 ≠ .controlService action' unit'
  | _ => True

theorem Authorized.append_right {prompt : Bytes} {defaultYes : Bool} {past : Trace Contract}
    (h : Authorized options prompt defaultYes past) (after : Trace Contract) :
    Authorized options prompt defaultYes (past ++ after) := by
  rcases h with hyes | ⟨b, line, a, rfl, hline⟩
  · exact .inl hyes
  · exact .inr ⟨b, line, a ++ after, by simp, hline⟩

theorem Authorized.append_left {prompt : Bytes} {defaultYes : Bool} {past : Trace Contract}
    (h : Authorized options prompt defaultYes past) (earlier : Trace Contract) :
    Authorized options prompt defaultYes (earlier ++ past) := by
  rcases h with hyes | ⟨b, line, a, rfl, hline⟩
  · exact .inl hyes
  · exact .inr ⟨earlier ++ b, line, a, by simp, hline⟩

theorem LastObserved.append_left {plan : PortReleasePlan} {past : Trace Contract}
    (h : LastObserved ports port plan past) (earlier : Trace Contract) :
    LastObserved ports port plan (earlier ++ past) := by
  obtain ⟨before, observation, after, warnings, rfl, hrest⟩ := h
  exact ⟨earlier ++ before, observation, after, warnings, by simp, hrest⟩

theorem Revalidated.append_left {executed : PortReleasePlan} {past : Trace Contract}
    (h : Revalidated ports executed past) (earlier : Trace Contract) :
    Revalidated ports executed (earlier ++ past) := by
  obtain ⟨before, observation, loop, current, rfl, hrest⟩ := h
  exact ⟨earlier ++ before, observation, loop, current, by simp, hrest⟩

/-- Calls that mutate nothing are always justified. -/
theorem justified_of_quiet {plan : PortReleasePlan} {past : Trace Contract} {e : Event Contract}
    (h : Call.mutates e.1 = false) : Justified ports options port plan past e := by
  unfold Justified
  split
  · rename_i heq
    rw [heq] at h
    cases h
  · rename_i heq
    rw [heq] at h
    cases h
  · rename_i heq
    rw [heq] at h
    cases h
  · trivial

/-! ## §2 The signal phases -/

section Phase

variable {P : Trace Contract → Event Contract → Prop}

theorem guarded_of_quiet (hquiet : ∀ past e, Call.mutates e.1 = false → P past e) (h : Quiet t) :
    Guarded P t :=
  Guarded.of_forall fun e he past => hquiet past e (h e he)

/-- The signals of one phase come in a row, right after the observation that matched. -/
theorem signalAndWait_guarded {processSignal : ProcessSignal} {executed : PortReleasePlan}
    {before observation : Trace Contract} {current : Observation PortReleasePlan}
    {r : Result (List SignalDelivery)}
    (hquiet : ∀ past e, Call.mutates e.1 = false → P past e)
    (hsend : ∀ pid x rest, pid ∈ executed.ownerPids → ports.processService_.Signalable pid →
      Revalidated ports executed rest → P (before ++ rest) ⟨.send pid processSignal, x⟩)
    (hobs : (ports.prepareRelease executed.localPort).Run observation (.ok current))
    (hsame : PortService.sameTargets executed current.value = true)
    (h : (ports.signalAndWait processSignal executed.ownerPids).Run t r) :
    Guarded (fun past => P (before ++ (observation ++ past))) t := by
  obtain ⟨sends, waits, sent, hsends, hwaits, rfl, -⟩ := PortService.signalAndWait_run h
  obtain ⟨hevents, -⟩ := PortService.signalOwners_run hsends
  refine guarded_append.mpr ⟨fun past e rest heq => ?_, guarded_of_quiet (fun _ e => hquiet _ e) hwaits⟩
  obtain ⟨pid, hpid, hsignalable, x, rfl⟩ := hevents e (by simp [heq])
  refine hsend pid x (observation ++ past) hpid hsignalable
    ⟨[], observation, past, current, rfl, hobs, PortService.sameTargets_iff.mp hsame, ?_⟩
  -- what precedes this signal in its loop are signals too
  intro e he
  obtain ⟨_, _, _, _, rfl⟩ := hevents e (by simp [heq, he])
  rfl

/-- All of `terminate` and `force`: signals are sent only after an observation that
    matches the executed plan. -/
theorem releaseWith_guarded {processSignal : ProcessSignal} {executed : PortReleasePlan}
    {stillOccupied : List Warning → List SignalDelivery → Observation PortReleasePlan →
      Result (Observation PortReleaseResult)}
    {before : Trace Contract} {r : Result (Observation PortReleaseResult)}
    (hquiet : ∀ past e, Call.mutates e.1 = false → P past e)
    (hsend : ∀ pid x rest, pid ∈ executed.ownerPids → ports.processService_.Signalable pid →
      Revalidated ports executed rest → P (before ++ rest) ⟨.send pid processSignal, x⟩)
    (h : (ports.releaseWith processSignal executed stillOccupied).Run t r) :
    Guarded (fun past => P (before ++ past)) t := by
  have hq : ∀ {u v : Trace Contract}, Quiet u → Guarded (fun past => P (v ++ past)) u :=
    fun hu => guarded_of_quiet (fun _ e => hquiet _ e) hu
  rcases PortService.releaseWith_run h with ⟨error, hobs, -⟩ | ⟨current, hobs, -⟩ |
    ⟨current, t₁, t₂, error, hobs, hsame, hsig, rfl, -⟩ |
    ⟨current, t₁, t₂, deliveries, t₃, after, hobs, hsame, hsig, hafter, rfl, -⟩
  · exact hq (PortService.prepareRelease_quiet hobs)
  · exact hq (PortService.prepareRelease_quiet hobs)
  · exact guarded_append.mpr ⟨hq (PortService.prepareRelease_quiet hobs),
      signalAndWait_guarded hquiet hsend hobs hsame hsig⟩
  · refine guarded_append.mpr ⟨guarded_append.mpr ⟨hq (PortService.prepareRelease_quiet hobs),
      signalAndWait_guarded hquiet hsend hobs hsame hsig⟩, ?_⟩
    exact guarded_of_quiet (fun _ e => hquiet _ e) (PortService.prepareRelease_quiet hafter)

end Phase

/-- A `terminate` that leaves the port occupied has delivered SIGTERM to every owner, and
    what remains is an observation whose owners all belong to the plan. -/
theorem terminate_remaining {plan : PortReleasePlan} {terminated : Observation PortReleaseResult}
    (hplan : plan.ownerPids = PortService.ownerPidsOf plan.ports)
    (h : (ports.terminate plan).Run t (.ok terminated))
    (hoccupied : terminated.value.released = false) :
    ∃ remaining, terminated.value.remaining = some remaining ∧
      remaining.localPort = plan.localPort ∧
      LastObserved ports plan.localPort remaining t ∧
      remaining.ownerPids ⊆ plan.ownerPids ∧ ∀ pid ∈ plan.ownerPids, Terminated pid t := by
  rcases PortService.releaseWith_run h with ⟨error, -, hr⟩ | ⟨_, -, -, hr⟩ |
    ⟨_, _, _, _, -, -, -, -, hr⟩ |
    ⟨current, t₁, t₂, deliveries, t₃, after, hobs, hsame, hsig, hafter, rfl, hr⟩
  · split at hr
    · obtain rfl := Except.ok.inj hr
      cases hoccupied
    · cases hr
  · cases hr
  · cases hr
  · unfold PortService.concludeRelease at hr
    cases after with
    | error error =>
      dsimp only at hr
      split at hr
      · obtain rfl := Except.ok.inj hr
        cases hoccupied
      · cases hr
    | ok after =>
      dsimp only at hr
      split at hr
      · cases hr
      · rename_i hbelongs
        obtain rfl := Except.ok.inj hr
        obtain ⟨hport, howners, -⟩ := PortService.prepareRelease_plan hafter
        refine ⟨after.value, rfl, hport, ⟨t₁ ++ t₂, t₃, [], after.warnings, by simp, hafter, by simp⟩,
          ?_, ?_⟩
        · rw [howners, hplan]
          exact PortService.remaining_ownerPids_subset (by simpa using hbelongs)
        · intro pid hpid
          obtain ⟨sends, waits, sent, hsends, -, rfl, hsent⟩ := PortService.signalAndWait_run hsig
          obtain ⟨-, hdelivered⟩ := PortService.signalOwners_run hsends
          obtain ⟨delivery, hmem⟩ := hdelivered deliveries (hsent deliveries rfl) pid hpid
          exact ⟨delivery, by simp [hmem]⟩

/-! ## §3 Console traces -/

/-- Reading and writing the standard streams. -/
def isConsole : Call → Bool
  | .getline | .write _ | .writeError _ => true
  | _ => false

/-- Only the standard streams were used. -/
def ConsoleOnly (t : Trace Contract) : Prop := ∀ e ∈ t, isConsole e.1 = true

theorem ConsoleOnly.append {u : Trace Contract} (ht : ConsoleOnly t) (hu : ConsoleOnly u) :
    ConsoleOnly (t ++ u) := by
  intro e he
  rcases List.mem_append.mp he with he | he
  · exact ht e he
  · exact hu e he

theorem ConsoleOnly.quiet (h : ConsoleOnly t) : Quiet t := by
  intro e he
  have hc := h e he
  cases hcall : e.1 <;> rw [hcall] at hc <;> first | rfl | cases hc

theorem LastObserved.append_console {plan : PortReleasePlan} {past : Trace Contract}
    (h : LastObserved ports port plan past) (ht : ConsoleOnly t) :
    LastObserved ports port plan (past ++ t) := by
  obtain ⟨before, observation, after, warnings, rfl, hrun, hafter⟩ := h
  refine ⟨before, observation, after ++ t, warnings, by simp, hrun, fun e he query heq => ?_⟩
  rcases List.mem_append.mp he with he | he
  · exact hafter e he query heq
  · have hc := ht e he
    rw [heq] at hc
    cases hc

section Console

abbrev ConsoleProg {α : Type} (p : App α) : Prop := p.Within (S := Contract) (isConsole · = true)

theorem console_write (text : Bytes) : ConsoleProg (write text) := Prog.within_perform rfl

theorem console_writeError (text : Bytes) : ConsoleProg (writeError text) := Prog.within_perform rfl

theorem console_report (quiet : Bool) (text : Bytes) : ConsoleProg (report quiet text) := by
  unfold report
  split
  · exact Prog.within_ret
  · exact console_write text

theorem console_printWarnings (quiet : Bool) (warnings : List Warning) :
    ConsoleProg (printWarnings quiet warnings) := by
  induction warnings with
  | nil => exact Prog.within_ret
  | cons warning rest ih =>
    cases quiet with
    | true => exact ih
    | false => exact (console_writeError _).bind fun _ => ih

theorem console_fail (failure : Error) : ConsoleProg (fail failure) :=
  (console_writeError _).bind fun _ => Prog.within_ret

theorem console_cancelled (options : FreePortOptions) : ConsoleProg (cancelled options) :=
  (console_report _ _).bind fun _ => Prog.within_ret

theorem console_released (options : FreePortOptions) (warnings : List Warning) (text : Bytes) :
    ConsoleProg (released options warnings text) :=
  (console_printWarnings _ _).bind fun _ => (console_report _ _).bind fun _ => Prog.within_ret

end Console

/-- Authorisation uses the console only, and a positive outcome leaves its evidence. -/
theorem authorize_run {prompt : Bytes} {defaultYes agreed : Bool}
    (h : (authorize options prompt defaultYes).Run t agreed) :
    ConsoleOnly t ∧ (agreed = true → Authorized options prompt defaultYes t) := by
  unfold authorize at h
  split at h
  · rename_i hyes
    obtain ⟨rfl, rfl⟩ := h
    exact ⟨by simp [ConsoleOnly], fun _ => .inl hyes⟩
  · obtain ⟨answer, rfl, rfl⟩ := confirm_run h
    refine ⟨by simp [ConsoleOnly, isConsole], fun hagreed => ?_⟩
    cases answer with
    | none => cases hagreed
    | some line => exact .inr ⟨[], line, [], rfl, hagreed⟩

/-! ## §4 The branches of the command -/

theorem guarded_of_console {plan : PortReleasePlan} (before : Trace Contract) (h : ConsoleOnly t) :
    Guarded (fun past => Justified ports options port plan (before ++ past)) t :=
  guarded_of_quiet (fun _ _ hq => justified_of_quiet hq) h.quiet

/-- The SIGKILL phase: every signal goes to a remaining owner that got SIGTERM, after the
    second agreement. -/
theorem freeByForce_guarded {plan remaining : PortReleasePlan} {before : Trace Contract} {code : Int}
    (hunit : plan.recommendedUnit = none)
    (hauth : Authorized options terminatePrompt true before)
    (hobserved : LastObserved ports port remaining before)
    (howners : remaining.ownerPids ⊆ plan.ownerPids)
    (hterm : ∀ pid ∈ plan.ownerPids, Terminated pid before)
    (h : (freeByForce ports options port remaining).Run t code) :
    Guarded (fun past => Justified ports options port plan (before ++ past)) t := by
  obtain ⟨_, t₁, _, hw, hk, rfl⟩ := Prog.run_bind_iff.mp h
  obtain ⟨agreed, t₂, t₃, ha, hk₁, rfl⟩ := Prog.run_bind_iff.mp hk
  -- `t₁` reports the remaining owners, `t₂` is the second prompt, `t₃` what was agreed to
  have hc₁ : ConsoleOnly t₁ := (console_write _).run hw
  obtain ⟨hc₂, hagreed⟩ := authorize_run ha
  refine guarded_append.mpr ⟨guarded_of_console _ hc₁, guarded_append.mpr ⟨?_, ?_⟩⟩
  · simpa only [List.append_assoc] using guarded_of_console (before ++ t₁) hc₂
  · cases agreed with
    | false =>
      have hc₃ : ConsoleOnly t₃ := (console_cancelled options).run hk₁
      simpa only [List.append_assoc] using guarded_of_console (before ++ t₁ ++ t₂) hc₃
    | true =>
      obtain ⟨forced, t₄, t₅, hf, hk₂, rfl⟩ := Prog.run_bind_iff.mp hk₁
      have hc₅ : ConsoleOnly t₅ := by
        cases forced with
        | error error => exact (console_fail error).run hk₂
        | ok forced => exact (console_released _ _ _).run hk₂
      have hphase : Guarded (fun past =>
          Justified ports options port plan ((before ++ t₁ ++ t₂) ++ past)) t₄ := by
        refine releaseWith_guarded (fun _ _ hq => justified_of_quiet hq) ?_ hf
        intro pid x rest hpid hsignalable hrevalidated
        obtain ⟨delivery, hdelivery⟩ := hterm pid (howners hpid)
        refine ⟨howners hpid, hsignalable, hunit, ?_, ?_, ⟨delivery, by simp [hdelivery]⟩,
          remaining, before ++ t₁ ++ t₂, rest, rfl, ?_, hpid, hrevalidated⟩
        · simpa only [List.append_assoc] using hauth.append_right (t₁ ++ (t₂ ++ rest))
        · exact ((hagreed rfl).append_left _).append_right rest
        · exact (hobserved.append_console hc₁).append_console hc₂
      refine guarded_append.mpr ⟨by simpa only [List.append_assoc] using hphase, ?_⟩
      simpa only [List.append_assoc] using
        guarded_of_console (before ++ t₁ ++ t₂ ++ t₄) hc₅

/-- The branch without a recommended unit. -/
theorem freeBySignals_guarded {plan : PortReleasePlan} {before : Trace Contract} {code : Int}
    (hunit : plan.recommendedUnit = none) (hport : plan.localPort = port)
    (hplan : plan.ownerPids = PortService.ownerPidsOf plan.ports)
    (h : (freeBySignals ports options port plan).Run t code) :
    Guarded (fun past => Justified ports options port plan (before ++ past)) t := by
  obtain ⟨agreed, t₁, t₂, ha, hk, rfl⟩ := Prog.run_bind_iff.mp h
  obtain ⟨hc₁, hagreed⟩ := authorize_run ha
  refine guarded_append.mpr ⟨guarded_of_console _ hc₁, ?_⟩
  cases agreed with
  | false =>
    have hc₂ : ConsoleOnly t₂ := (console_cancelled options).run hk
    simpa only [List.append_assoc] using guarded_of_console (before ++ t₁) hc₂
  | true =>
    have hauth : ∀ rest, Authorized options terminatePrompt true (before ++ t₁ ++ rest) :=
      ((hagreed rfl).append_left before).append_right
    obtain ⟨terminated, t₃, t₄, ht, hk₁, rfl⟩ := Prog.run_bind_iff.mp hk
    have hphase : Guarded (fun past =>
        Justified ports options port plan ((before ++ t₁) ++ past)) t₃ := by
      refine releaseWith_guarded (fun _ _ hq => justified_of_quiet hq) ?_ ht
      intro pid x rest hpid hsignalable hrevalidated
      exact ⟨hpid, hsignalable, hunit, hauth rest, hrevalidated.append_left _⟩
    refine guarded_append.mpr ⟨by simpa only [List.append_assoc] using hphase, ?_⟩
    suffices hlast : Guarded (fun past =>
        Justified ports options port plan ((before ++ t₁ ++ t₃) ++ past)) t₄ by
      simpa only [List.append_assoc] using hlast
    cases terminated with
    | error error => exact guarded_of_console _ ((console_fail error).run hk₁)
    | ok terminated =>
      dsimp only at hk₁
      split at hk₁
      · exact guarded_of_console _ ((console_released _ _ _).run hk₁)
      · -- still occupied: the evidence for the force phase is all in the past by now
        rename_i hoccupied
        obtain ⟨_, t₅, t₆, hw, hk₂, rfl⟩ := Prog.run_bind_iff.mp hk₁
        have hc₅ : ConsoleOnly t₅ := (console_printWarnings _ _).run hw
        obtain ⟨remaining, hremaining, -, hlast, howners, hterm⟩ :=
          terminate_remaining hplan ht (by simpa using hoccupied)
        rw [hremaining] at hk₂
        refine guarded_append.mpr ⟨guarded_of_console _ hc₅, ?_⟩
        have hauth' : Authorized options terminatePrompt true (before ++ t₁ ++ t₃ ++ t₅) := by
          simpa only [List.append_assoc] using hauth (t₃ ++ t₅)
        have hobserved : LastObserved ports port remaining (before ++ t₁ ++ t₃ ++ t₅) := by
          rw [hport] at hlast
          exact (hlast.append_left _).append_console hc₅
        have hterm' : ∀ pid ∈ plan.ownerPids, Terminated pid (before ++ t₁ ++ t₃ ++ t₅) := by
          intro pid hpid
          obtain ⟨delivery, hdelivery⟩ := hterm pid hpid
          exact ⟨delivery, by simp [hdelivery]⟩
        have hforce := freeByForce_guarded hunit hauth' hobserved howners hterm' hk₂
        simpa only [List.append_assoc] using hforce

/-- The stop request: at most one call of the provider, right after the observation that
    matched the plan. -/
theorem stop_guarded {plan : PortReleasePlan} {unit : Bytes} {before observation : Trace Contract}
    {current : Observation PortReleasePlan} {services : ServiceService} {r : Result Unit}
    (hunit : plan.recommendedUnit = some unit) (hbefore : Quiet before)
    (hauth : Authorized options (stopPrompt unit) true before)
    (hobs : (ports.prepareRelease plan.localPort).Run observation (.ok current))
    (hsame : PortService.sameTargets plan current.value = true)
    (h : (ServiceService.stop services unit).Run t r) :
    Guarded (fun past => Justified ports options port plan (before ++ (observation ++ past))) t := by
  rcases ServiceService.control_run h with ⟨_, -, rfl, -⟩ | ⟨normalized, hnorm, rfl⟩
  · exact guarded_nil
  · refine guarded_cons.mpr ⟨⟨⟨unit, hunit, rfl, hnorm, hauth.append_right _⟩, ?_, ?_⟩, guarded_nil⟩
    · exact ⟨before, observation, [], current, by simp, hobs, PortService.sameTargets_iff.mp hsame,
        by simp⟩
    · -- no earlier request: nothing has been changed so far
      intro e he action unit' heq
      have hquiet : Quiet (before ++ (observation ++ [])) := by
        simp [hbefore, PortService.prepareRelease_quiet hobs]
      have hmutates := hquiet e he
      rw [heq] at hmutates
      cases hmutates

/-- The branch with a recommended unit: no signals, and one stop request at most. -/
theorem freeByService_guarded {plan : PortReleasePlan} {unit : Bytes} {before : Trace Contract}
    {code : Int} (hunit : plan.recommendedUnit = some unit) (hbefore : Quiet before)
    (h : (freeByService ports options port plan unit).Run t code) :
    Guarded (fun past => Justified ports options port plan (before ++ past)) t := by
  obtain ⟨agreed, t₁, t₂, ha, hk, rfl⟩ := Prog.run_bind_iff.mp h
  obtain ⟨hc₁, hagreed⟩ := authorize_run ha
  refine guarded_append.mpr ⟨guarded_of_console _ hc₁, ?_⟩
  suffices hlast : Guarded (fun past =>
      Justified ports options port plan ((before ++ t₁) ++ past)) t₂ by
    simpa only [List.append_assoc] using hlast
  cases agreed with
  | false => exact guarded_of_console _ ((console_cancelled options).run hk)
  | true =>
    obtain ⟨stopped, t₃, t₄, hs, hk₁, rfl⟩ := Prog.run_bind_iff.mp hk
    have hc₄ : ConsoleOnly t₄ := by
      cases stopped with
      | error error => exact (console_fail error).run hk₁
      | ok stopped => exact (console_released _ _ _).run hk₁
    have hquiet : ∀ {u v : Trace Contract}, Quiet u →
        Guarded (fun past => Justified ports options port plan (v ++ past)) u :=
      guarded_of_quiet fun _ _ hq => justified_of_quiet hq
    refine guarded_append.mpr ⟨?_, guarded_of_quiet (fun _ _ hq => justified_of_quiet hq) hc₄.quiet⟩
    rcases PortService.stopManagedService_run hs with ⟨rfl, -⟩ | ⟨_, hobs, -⟩ | ⟨_, hobs, -⟩ |
      ⟨unit', services, current, obs, stop, stopResult, poll, hunit', hobs, hsame, hrec, hstop, rfl,
        hpoll⟩
    · exact guarded_nil
    · exact hquiet (PortService.prepareRelease_quiet hobs)
    · exact hquiet (PortService.prepareRelease_quiet hobs)
    · obtain rfl : unit = unit' := Option.some.inj (hunit.symm.trans hunit')
      -- what follows the request only polls the port
      have hqpoll : Quiet poll := by
        rcases hpoll with ⟨_, -, rfl, -⟩ | ⟨now, rest, -, rfl, hrun⟩
        · exact quiet_nil
        · exact quiet_cons.mpr ⟨rfl, (PortService.pollStopped_observes ..).quiet hrun⟩
      refine guarded_append.mpr ⟨guarded_append.mpr
        ⟨hquiet (PortService.prepareRelease_quiet hobs), ?_⟩, ?_⟩
      · exact stop_guarded hunit (quiet_append.mpr ⟨hbefore, hc₁.quiet⟩)
          ((hagreed rfl).append_left before) hobs hsame hstop
      · exact guarded_of_quiet (fun _ _ hq => justified_of_quiet hq) hqpoll

/-- Every call of a run is justified by the run up to it. -/
theorem freePort_guarded {code : Int} (h : (freePort ports options port).Run t code) :
    Quiet t ∨ ∃ before after plan warnings,
      t = before ++ ⟨.write (printReleasePlan plan), ()⟩ :: after ∧
      (ports.prepareRelease port).Run before (.ok ⟨plan, warnings⟩) ∧
      Guarded (Justified ports options port plan) t := by
  obtain ⟨prepared, t₁, t₂, hp, hk, rfl⟩ := Prog.run_bind_iff.mp h
  have hq₁ : Quiet t₁ := PortService.prepareRelease_quiet hp
  cases prepared with
  | error error =>
    have hc₂ : ConsoleOnly t₂ := (console_fail error).run hk
    exact .inl (quiet_append.mpr ⟨hq₁, hc₂.quiet⟩)
  | ok plan =>
    obtain ⟨_, _, t₃, hw, hk₁, rfl⟩ := Prog.run_bind_iff.mp hk
    obtain rfl := Prog.run_perform.mp hw
    obtain ⟨hport, howners, -⟩ := PortService.prepareRelease_plan hp
    refine .inr ⟨t₁, t₃, plan.value, plan.warnings, rfl, hp, ?_⟩
    refine guarded_append.mpr ⟨guarded_of_quiet (fun _ _ hq => justified_of_quiet hq) hq₁, ?_⟩
    refine guarded_append.mpr ⟨guarded_cons.mpr ⟨justified_of_quiet rfl, guarded_nil⟩, ?_⟩
    suffices hlast : Guarded (fun past => Justified ports options port plan.value
        ((t₁ ++ [⟨.write (printReleasePlan plan.value), ()⟩]) ++ past)) t₃ by
      simpa only [List.append_assoc] using hlast
    split at hk₁
    · rename_i unit hunit
      refine freeByService_guarded hunit ?_ hk₁
      exact quiet_append.mpr ⟨hq₁, quiet_cons.mpr ⟨rfl, quiet_nil⟩⟩
    · rename_i hunit
      exact freeBySignals_guarded hunit hport howners hk₁

/-! ## §5 Safety of a whole run -/

/-- Requests to a service manager. -/
def isControl : Call → Bool
  | .controlService _ _ => true
  | _ => false

/-- **Signal-target safety.** A run either changes nothing, or it printed a plan first and
    every signal and stop request is covered by that plan, by the last observation of the
    port and by the user. -/
theorem freePort_safe {code : Int} (h : (freePort ports options port).Run t code) :
    Quiet t ∨ ∃ before after plan warnings,
      t = before ++ ⟨.write (printReleasePlan plan), ()⟩ :: after ∧
      (ports.prepareRelease port).Run before (.ok ⟨plan, warnings⟩) ∧ Quiet before ∧
      -- only printed owners, never PID 1 and never LX itself
      (∀ pid signal x, ⟨.send pid signal, x⟩ ∈ t →
        pid ∈ plan.ownerPids ∧ 1 < pid ∧ pid ≠ ports.processService_.selfPid_) ∧
      -- SIGTERM: agreed to, and the observation right before the loop matches the plan
      (∀ past pid x rest, t = past ++ ⟨.send pid .terminate, x⟩ :: rest →
        Authorized options terminatePrompt true past ∧ Revalidated ports plan past) ∧
      -- SIGKILL: after SIGTERM and `--yes` or an explicit yes, and the observation right
      -- before the loop matches what was left after SIGTERM
      (∀ past pid x rest, t = past ++ ⟨.send pid .kill, x⟩ :: rest →
        Terminated pid past ∧
        (options.confirmRelease = true ∨ ∃ b line a,
          past = b ++ ⟨.write forcePrompt, ()⟩ :: ⟨.getline, some line⟩ :: a ∧
          (Bytes.lower (Bytes.trim line) = Bytes.ofString "y" ∨
            Bytes.lower (Bytes.trim line) = Bytes.ofString "yes")) ∧
        Authorized options terminatePrompt true past ∧
        ∃ remaining occupied between, past = occupied ++ between ∧
          LastObserved ports port remaining occupied ∧ pid ∈ remaining.ownerPids ∧
          Revalidated ports remaining between) ∧
      -- a service is stopped only as recommended, agreed to, and after a matching observation
      (∀ past action unit x rest, t = past ++ ⟨.controlService action unit, x⟩ :: rest →
        action = .stop ∧ Revalidated ports plan past ∧
        ∃ recommended, plan.recommendedUnit = some recommended ∧
          ServiceService.normalizeUnit recommended = .ok unit ∧
          Authorized options (stopPrompt recommended) true past) ∧
      (plan.recommendedUnit ≠ none → ∀ pid signal x, ⟨.send pid signal, x⟩ ∉ t) ∧
      t.countP (isControl ·.1) ≤ 1 := by
  rcases freePort_guarded h with hq | ⟨before, after, plan, warnings, heq, hrun, hguarded⟩
  · exact .inl hq
  have hsend : ∀ pid signal x, ⟨.send pid signal, x⟩ ∈ t → pid ∈ plan.ownerPids ∧
      ports.processService_.Signalable pid ∧ plan.recommendedUnit = none := by
    intro pid signal x hmem
    obtain ⟨past, rest, hsplit⟩ := List.append_of_mem hmem
    have hjust := hguarded past _ rest hsplit
    cases signal with
    | terminate => exact ⟨hjust.1, hjust.2.1, hjust.2.2.1⟩
    | kill => exact ⟨hjust.1, hjust.2.1, hjust.2.2.1⟩
  refine .inr ⟨before, after, plan, warnings, heq, hrun, PortService.prepareRelease_quiet hrun,
    fun pid signal x hmem => ⟨(hsend pid signal x hmem).1, (hsend pid signal x hmem).2.1⟩,
    ?_, ?_, ?_, ?_, ?_⟩
  · intro past pid x rest hsplit
    exact (hguarded past _ rest hsplit).2.2.2
  · intro past pid x rest hsplit
    obtain ⟨-, -, -, hauth, hforce, hterm, hremaining⟩ := hguarded past _ rest hsplit
    refine ⟨hterm, hforce.imp_right ?_, hauth, hremaining⟩
    rintro ⟨b, line, a, hpast, hline⟩
    obtain ⟨line', hline', hexplicit⟩ := accepts_false_iff_explicit.mp hline
    obtain rfl := Option.some.inj hline'
    exact ⟨b, line, a, hpast, hexplicit⟩
  · intro past action unit x rest hsplit
    obtain ⟨⟨recommended, hunit, haction, hnorm, hauth⟩, hrevalidated, -⟩ :=
      hguarded past _ rest hsplit
    exact ⟨haction, hrevalidated, recommended, hunit, hnorm, hauth⟩
  · intro hunit pid signal x hmem
    exact hunit (hsend pid signal x hmem).2.2
  · refine Guarded.countP_le_one (hguarded.mono ?_)
    rintro past ⟨c, x⟩ hjust hcontrol
    cases c with
    | controlService action unit =>
      rintro ⟨c', x'⟩ hmem
      cases c' with
      | controlService action' unit' => exact absurd rfl (hjust.2.2 _ hmem action' unit')
      | _ => rfl
    | _ => cases hcontrol

/-- Providers for a port held by PID 42 until `freed`, with the answer `unit` to every
    unit lookup; whatever else is asked succeeds. -/
def holder (freed : Event Contract → Bool) (unit : Result (Option Bytes)) :
    Trace Contract → (c : Call) → Call.Answer c
  | past, .querySockets _ =>
    .ok ⟨if past.any freed then [] else [{ localEnd := ⟨"0.0.0.0", 8080⟩, inode := 7 }], []⟩
  | _, .resolveOwners _ => .ok ⟨[(7, [42])], []⟩
  | _, .getProcess pid => .ok ⟨{ pid, name := "server" }, []⟩
  | _, .listProcesses => .ok ⟨[], []⟩
  | _, .sampleSystem => .ok {}
  | _, .sampleProcesses => .ok []
  | _, .wait _ => ()
  | _, .listServices => .ok ⟨[], []⟩
  | _, .getService _ => .ok ⟨{}, []⟩
  | _, .unitByPid _ => unit
  | _, .controlService _ _ => .ok ()
  | _, .queryJournal _ => .ok ⟨[], []⟩
  | _, .send pid signal => .ok ⟨pid, signal, .pidFd⟩
  | _, .waitForExit _ _ => .ok true
  | _, .hashOrder pids => ⟨pids, .refl pids⟩
  | _, .steadyNow earlier => ⟨earlier, Nat.le_refl earlier⟩
  | _, .systemNow => (0 : Int)
  | _, .sleepFor now duration => ⟨now + duration, Nat.le_refl _⟩
  | _, .getline => some []
  | _, .write _ => ()
  | _, .writeError _ => ()

/-- The services of an LX process with PID 900. -/
def exampleServices : PortService := ⟨⟨900, some {}⟩, some {}, 2000⟩

/-- A signal of the kind, delivered to anybody. -/
def delivers (signal : ProcessSignal) (e : Event Contract) : Bool :=
  match e.1 with
  | .send _ signal' => signal' == signal
  | _ => false

/-- An owner that ignores SIGTERM is killed, and got SIGTERM first. -/
theorem freePort_safe_stubborn : ∃ t, (freePort exampleServices { confirmRelease := true } 8080).Run t 0 ∧
    ∃ past pid x rest, t = past ++ ⟨.send pid .kill, x⟩ :: rest ∧ 1 < pid ∧ Terminated pid past := by
  obtain ⟨t, code, hrun, htest⟩ := Prog.exists_run_of_exec (S := Contract)
    (holder (delivers .kill) (.ok none)) (freePort exampleServices { confirmRelease := true } 8080)
    (fun r => decide (r.1 = 0) && r.2.any (delivers .kill)) (by decide)
  simp only [Bool.and_eq_true, decide_eq_true_eq, List.any_eq_true] at htest
  obtain ⟨rfl, ⟨c, x⟩, hmem, hkill⟩ := htest
  refine ⟨t, hrun, ?_⟩
  unfold delivers at hkill
  split at hkill
  · rename_i pid signal hcall
    obtain rfl : signal = .kill := by simpa using hkill
    obtain rfl := hcall
    obtain ⟨past, rest, hsplit⟩ := List.append_of_mem hmem
    rcases freePort_safe hrun with hq | ⟨_, _, _, _, -, -, -, htargets, -, hkills, -⟩
    · cases hq _ hmem
    · exact ⟨past, pid, x, rest, hsplit, (htargets pid .kill x hmem).2.1,
        (hkills past pid x rest hsplit).1⟩
  · cases hkill

end Lx.Cli
