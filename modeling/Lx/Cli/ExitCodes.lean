import Lx.Cli.CliApp
import Lx.Lib.Comparison

/-!
# Exit codes

The exit code of `CliApp::run` and its last words. A command ends with 0 exactly when its command
line is not refused and nothing it was answered is a failure; then standard error has warnings
only. Any other code belongs to one failure, which is reported once, as the last output: as a line
on standard error, or as a document with `--json`. Only the interrupt that ends `log --follow` is
not reported.

## Layers

- §1: failures, and what they make of a run.
- §2: the commands for people.
- §3: documents.
- §4: every command line.
-/

namespace Lx.CliApp

open Interaction Interaction.Prog Cli

/-! ## §1 Failures -/

/-- What ends a command: a service that failed, a port without sockets, an interrupt that cannot
be installed. A measurement that failed does not end it. -/
def serviceFailure : (c : ServiceCall) → c.Answer → Option Error
  | .listProcesses _, .error failure | .inspectProcess _, .error failure
  | .inspectPorts _, .error failure | .listServices, .error failure
  | .inspectService _, .error failure | .inspectResource _, .error failure
  | .find _, .error failure | .parseSince _, .error failure | .readLog _, .error failure
  | .followLog _, ⟨_, .error failure⟩ => some failure
  | .inspectPorts query, .ok observed =>
    if query.localPort.isSome ∧ observed.value = [] then
      some ⟨.notFound, Bytes.ofString "No socket found for port " ++ Bytes.ofNat (query.localPort.getD 0),
        0, "cli", "inspect"⟩
    else none
  | .installInterrupt, some problem =>
    some ⟨.operationFailed, Bytes.ofString "Unable to install SIGINT handler: " ++ problem.text,
      problem.number, "cli", "install SIGINT handler"⟩
  | _, _ => none

def failure : Event CliCalls → Option Error
  | ⟨.services c, answer⟩ => serviceFailure c answer
  | ⟨.status, .error failure⟩ | ⟨.tui, .error failure⟩ | ⟨.stopProcess _, .error failure⟩
  | ⟨.validateSignalTarget _, .error failure⟩ | ⟨.killProcess _, .error failure⟩
  | ⟨.control _ _, .error failure⟩ | ⟨.prepareRelease _, .error failure⟩
  | ⟨.stopManagedService _, .error failure⟩ | ⟨.terminate _, .error failure⟩
  | ⟨.force _, .error failure⟩ => some failure
  | _ => none

/-- Options of `process` that exclude each other. -/
def processRefusal (options : ProcessOptions) : Option Error :=
  match options.pid with
  | some _ =>
    if options.hasFilters then
      some ⟨.invalidArgument, "Process PID cannot be combined with list filters", 0, "cli", "validate"⟩
    else none
  | none =>
    if options.rawCommand then
      some ⟨.invalidArgument, "--raw-command requires a process PID", 0, "cli", "validate"⟩
    else none

def commandRefusal : Command → Option Error
  | .process options => processRefusal options
  | _ => none

/-- `--json` with a command that is not read-only. -/
def jsonRefusal (jsonOutput : Bool) : Option Error :=
  if jsonOutput then
    some ⟨.invalidArgument, "--json is only supported by read-only commands", 0, "cli", "validate"⟩
  else none

/-- Why a command line is refused before any call is made, if it is. -/
def refusal (setup : Setup) (jsonOutput : Bool) : CommandLine → Option Error
  | .tui =>
    (jsonRefusal jsonOutput).orElse fun _ =>
      if setup.hasTui then none
      else some ⟨.unavailable, "LX was built without terminal UI support", 0, "cli", "tui"⟩
  | .doctor => none
  | .status =>
    if setup.hasStatus then none
    else some ⟨.unavailable, "Status metrics are unavailable", 0, "cli", "status"⟩
  | .read command => commandRefusal command
  | .stopProcess _ | .killProcess _ _ | .control _ _ _ | .freePort _ _ => jsonRefusal jsonOutput

/-- Nothing failed, and no error was reported. -/
def Smooth (t : Trace CliCalls) : Prop :=
  ∀ e ∈ t, failure e = none ∧ ∀ text, e.1 = .writeError text → ∃ warning, text = warningLine warning

/-- The first failure, after which only output followed. -/
def Caused (t : Trace CliCalls) (cause : Error) : Prop :=
  ∃ before e after, t = before ++ e :: after ∧ Smooth before ∧ failure e = some cause ∧
    ∀ e' ∈ after, Remarking e'.1

section Explained

variable (setup : Setup) (jsonOutput : Bool)

/-- The failure is written to where the user looks for it. -/
def Reported (cause : Error) (e : Event CliCalls) : Prop :=
  if jsonOutput then
    ∃ command operation text, setup.dump (JsonSerializer.error command operation cause) = .ok text ∧
      e = ⟨.services (.write (text ++ [10])), ()⟩
  else e = ⟨.writeError (cause.message ++ Bytes.ofString "\n"), ()⟩

/-- Why the exit code is what it is; `refused` is why the command line is refused. -/
inductive Explained (refused : Option Error) : Trace CliCalls → Int → Prop where
  | success {t : Trace CliCalls} (accepted : refused = none) (smooth : Smooth t) :
      Explained refused t 0
  /-- No call but the report. -/
  | refusal {cause : Error} {e : Event CliCalls} (hrefused : refused = some cause)
      (report : Reported setup jsonOutput cause e) : Explained refused [e] (exitCode cause.code)
  | reported {t : Trace CliCalls} {cause : Error} {e : Event CliCalls} (accepted : refused = none)
      (caused : Caused t cause) (report : Reported setup jsonOutput cause e) :
      Explained refused (t ++ [e]) (exitCode cause.code)
  | interrupted {t : Trace CliCalls} {cause : Error} (accepted : refused = none)
      (caused : Caused t cause) (code : cause.code = .interrupted) : Explained refused t 130

end Explained

section Rules

variable {setup : Setup} {jsonOutput : Bool} {t u : Trace CliCalls}

/-- Two smooth parts make a smooth run. -/
theorem Smooth.append (ht : Smooth t) (hu : Smooth u) : Smooth (t ++ u) := by
  intro e he
  rcases List.mem_append.mp he with he | he
  · exact ht e he
  · exact hu e he

/-- Nothing that went well changes the explanation of what follows. -/
theorem Caused.after {cause : Error} (ht : Smooth t) (hu : Caused u cause) : Caused (t ++ u) cause := by
  obtain ⟨before, e, after, rfl, hbefore, hcause, hafter⟩ := hu
  exact ⟨t ++ before, e, after, by rw [List.append_assoc], ht.append hbefore, hcause, hafter⟩

theorem Explained.after {code : Int} (ht : Smooth t) (hu : Explained setup jsonOutput none u code) :
    Explained setup jsonOutput none (t ++ u) code := by
  cases hu with
  | success _ hsmooth => exact .success rfl (ht.append hsmooth)
  -- a refusal comes before every call, so nothing can come before it
  | refusal hrefused _ => cases hrefused
  | @reported u cause e _ hcaused hreport =>
    rw [← List.append_assoc]
    exact .reported rfl (hcaused.after ht) hreport
  | interrupted _ hcaused hcode => exact .interrupted rfl (hcaused.after ht) hcode

end Rules

/-! ## §2 Output for people -/

section Human

variable (setup : Setup) {quiet : Bool}

end Human

/-! ## §3 Documents -/

section Documents

variable (setup : Setup) {t : Trace CliCalls} {refused : Option Error}

end Documents

/-! ## §4 Every command line -/

end Lx.CliApp
