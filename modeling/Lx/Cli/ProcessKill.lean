import Lx.Application.PortRelease
import Lx.Cli.Console

/-!
# `lx process stop` and `lx process kill`

The two signalling branches of `CliApp::run`. `--json` is rejected before they are
reached, so failures are human text here.
-/

namespace Lx.Cli

open Interaction

structure KillOptions where
  /-- `--yes` -/
  confirmKill : Bool := false
  /-- `--quiet` -/
  quiet : Bool := false
  deriving DecidableEq, Repr

def mechanismName : SignalMechanism → Bytes
  | .pidFd => "pidfd"
  | .kill => "kill(2)"

/-- What is printed after a signal was sent. -/
def sentText (signal : String) (pid : Int) (delivery : SignalDelivery) : Bytes :=
  Bytes.ofString "Sent " ++ Bytes.ofString signal ++ Bytes.ofString " to PID " ++ Bytes.ofInt pid ++
    Bytes.ofString " via " ++ mechanismName delivery.mechanism ++ Bytes.ofString "\n"

def stopProcess (processes : ProcessService) (quiet : Bool) (pid : Int) : App Int := do
  match ← processes.stop pid with
  | .error error => fail error
  | .ok delivery =>
    report quiet (sentText "SIGTERM" pid delivery)
    return 0

def killPrompt (pid : Int) (name : Bytes) : Bytes :=
  Bytes.ofString "Force termination of PID " ++ Bytes.ofInt pid ++ Bytes.ofString " (" ++ name ++
    Bytes.ofString ") with SIGKILL? [y/N] "

/-- `--yes`, or the answer to the prompt. -/
def confirmTarget (options : KillOptions) (pid : Int) (name : Bytes) : App Bool :=
  if options.confirmKill then return true else confirm (killPrompt pid name) false

def killProcess (processes : ProcessService) (options : KillOptions) (pid : Int) : App Int :=
  match processes.validateSignalTarget pid with
  | .error error => fail error
  | .ok () => do
    match ← processes.inspect pid with
    | .error error => fail error
    | .ok target =>
      if !(← confirmTarget options pid target.value.name) then do
        report options.quiet "Cancelled.\n"
        return 0
      else
        match ← processes.kill pid with
        | .error error => fail error
        | .ok delivery =>
          report options.quiet (sentText "SIGKILL" pid delivery)
          return 0

/-! ## What `killProcess` does before and after the signal -/

section

variable {processes : ProcessService} {options : KillOptions} {pid : Int} {t : Trace Contract}

theorem observes_report (quiet : Bool) (text : Bytes) : Observes (report quiet text) := by
  unfold report
  split
  · exact Prog.within_ret
  · exact observes_call (.write text)

theorem observes_fail (failure : Error) : Observes (fail failure) :=
  (observes_call (.writeError _)).bind fun _ => Prog.within_ret

/-- The name that is shown is the one the process provider reported. -/
theorem inspect_name {target : Observation ProcessInfo}
    (h : (processes.inspect pid).Run t (.ok target)) :
    ∃ observed rest, t = ⟨.getProcess pid, .ok observed⟩ :: rest ∧
      target.value.name = observed.value.name := by
  unfold ProcessService.inspect at h
  split_ifs at h
  · cases h.2
  obtain ⟨x, t₀, t', hget, hrest, rfl⟩ := Prog.run_bind_iff.mp h
  obtain rfl := Prog.run_perform.mp hget
  cases x with
  | error error => cases hrest.2
  | ok observed =>
    refine ⟨observed, t', rfl, ?_⟩
    cases hservices : processes.serviceService_ with
    | none =>
      rw [hservices] at hrest
      obtain ⟨-, htarget⟩ := hrest
      cases htarget
      rfl
    | some services =>
      rw [hservices] at hrest
      obtain ⟨unit, t₁, t₂, -, ⟨rfl, htarget⟩, rfl⟩ := Prog.run_bind_iff.mp hrest
      cases htarget
      unfold ProcessService.attachUnit
      split
      · rfl
      · split_ifs <;> rfl

/-- The user agreed to the prompt that shows this name, or did not want to be asked. -/
def Confirmed (options : KillOptions) (pid : Int) (name : Bytes) (t : Trace Contract) : Prop :=
  options.confirmKill = true ∨ ∃ before answer,
    t = before ++ [⟨.write (killPrompt pid name), ()⟩, ⟨.getline, answer⟩] ∧
      accepts false answer = true

theorem confirmTarget_run {name : Bytes} {agreed : Bool}
    (h : (confirmTarget options pid name).Run t agreed) :
    Quiet t ∧ (agreed = true → ∀ before, Confirmed options pid name (before ++ t)) := by
  unfold confirmTarget at h
  split at h
  · rename_i hyes
    obtain ⟨rfl, rfl⟩ := h
    exact ⟨quiet_nil, fun _ _ => .inl hyes⟩
  · obtain ⟨answer, rfl, rfl⟩ := confirm_run h
    exact ⟨by simp [Call.mutates], fun hagreed before => .inr ⟨before, answer, rfl, hagreed⟩⟩

/-- **One signal at most**, after the target was inspected and confirmed. -/
theorem killProcess_run {code : Int} (h : (killProcess processes options pid).Run t code) :
    Quiet t ∨ ∃ observed before r after,
      t = ⟨.getProcess pid, .ok observed⟩ :: (before ++ ⟨.send pid .kill, r⟩ :: after) ∧
      processes.Signalable pid ∧ Quiet before ∧ Quiet after ∧
      Confirmed options pid observed.value.name before := by
  unfold killProcess at h
  split at h
  · exact .inl ((observes_fail _).quiet h)
  obtain ⟨x, t₁, t₂, hinspect, hrest, rfl⟩ := Prog.run_bind_iff.mp h
  have hquiet₁ := (ProcessService.inspect_inspects _ _).observes.quiet hinspect
  cases x with
  | error error => exact .inl (quiet_append.mpr ⟨hquiet₁, (observes_fail _).quiet hrest⟩)
  | ok target =>
    obtain ⟨observed, rest, rfl, hname⟩ := inspect_name hinspect
    obtain ⟨agreed, t₃, t₄, hconfirm, hkill, rfl⟩ := Prog.run_bind_iff.mp hrest
    obtain ⟨hquiet₂, hconfirmed⟩ := confirmTarget_run hconfirm
    cases agreed with
    | false =>
      have hend : Quiet t₄ := by
        exact Observes.quiet ((observes_report _ _).bind fun _ => Prog.within_ret) hkill
      exact .inl (quiet_append.mpr ⟨hquiet₁, quiet_append.mpr ⟨hquiet₂, hend⟩⟩)
    | true =>
      obtain ⟨r, t₅, t₆, hsignal, hreport, rfl⟩ := Prog.run_bind_iff.mp hkill
      have hquiet₃ : Quiet t₆ := by
        cases r with
        | error error => exact (observes_fail _).quiet hreport
        | ok delivery =>
          exact Observes.quiet ((observes_report _ _).bind fun _ => Prog.within_ret) hreport
      rcases ProcessService.signal_run hsignal with ⟨rfl, -, -, -⟩ | ⟨rfl, htarget⟩
      · exact .inl (quiet_append.mpr ⟨hquiet₁, quiet_append.mpr ⟨hquiet₂, hquiet₃⟩⟩)
      · refine .inr ⟨observed, rest ++ t₃, r, t₆, by simp, htarget, ?_, hquiet₃, ?_⟩
        · exact quiet_append.mpr ⟨(quiet_cons.mp hquiet₁).2, hquiet₂⟩
        · rw [← hname]
          exact hconfirmed rfl rest

end

end Lx.Cli
