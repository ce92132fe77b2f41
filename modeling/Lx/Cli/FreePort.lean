import Lx.Application.PortService
import Lx.Cli.Console

/-!
# `lx port free`

The free-port branch of `CliApp::run`: print the plan, ask, stop the owning service
or signal the owners, and ask once more before SIGKILL. `--json` is rejected before
this branch is reached, so failures are human text here.
-/

namespace Lx.Cli

open Interaction

structure FreePortOptions where
  /-- `--yes` -/
  confirmRelease : Bool := false
  /-- `--quiet` -/
  quiet : Bool := false
  deriving DecidableEq, Repr

def processName (plan : PortReleasePlan) (pid : Int) : Bytes :=
  match PortService.findOwner plan.ports pid with
  | none => "<unavailable>"
  | some owner => owner.name

/-- The text that shows a plan to the user. -/
def printReleasePlan (plan : PortReleasePlan) : Bytes :=
  Bytes.ofString "Port " ++ Bytes.ofNat plan.localPort ++ Bytes.ofString " is owned by:\n\n" ++
  Bytes.ofString "PID      PROCESS\n" ++
  plan.ownerPids.flatMap (fun pid =>
    Bytes.padRight 8 (Bytes.ofInt pid) ++ Bytes.ofString " " ++ processName plan pid ++
      Bytes.ofString "\n") ++
  Bytes.ofString "\n" ++
  match plan.recommendedUnit with
  | none => []
  | some unit =>
    Bytes.ofString "All owners belong to " ++ unit ++
    Bytes.ofString ".\nRecommended action: stop the service instead of signaling its processes.\n\n"

def stopPrompt (unit : Bytes) : Bytes :=
  Bytes.ofString "Stop " ++ unit ++ Bytes.ofString "? [Y/n] "

def terminatePrompt : Bytes := Bytes.ofString "Send SIGTERM to all owners? [Y/n] "

def forcePrompt : Bytes := Bytes.ofString "Force remaining owners with SIGKILL? [y/N] "

/-- `--yes`, or the answer to a prompt. -/
def authorize (options : FreePortOptions) (prompt : Bytes) (defaultYes : Bool) : App Bool :=
  if options.confirmRelease then return true else confirm prompt defaultYes

/-- The user said no. -/
def cancelled (options : FreePortOptions) : App Int := do
  report options.quiet "Cancelled.\n"
  return 0

/-- The last lines of a successful release. -/
def released (options : FreePortOptions) (warnings : List Warning) (text : Bytes) : App Int := do
  printWarnings options.quiet warnings
  report options.quiet text
  return 0

/-- The branch taken when the plan recommends a unit. -/
def freeByService (ports : PortService) (options : FreePortOptions) (port : Nat)
    (plan : PortReleasePlan) (unit : Bytes) : App Int := do
  if !(← authorize options (stopPrompt unit) true) then cancelled options
  else
    match ← ports.stopManagedService plan with
    | .error error => fail error
    | .ok stopped =>
      released options stopped.warnings (Bytes.ofString "Port " ++ Bytes.ofNat port ++
        Bytes.ofString " released by stopping " ++ unit ++ Bytes.ofString ".\n")

/-- The second phase: SIGKILL for the owners that are left. -/
def freeByForce (ports : PortService) (options : FreePortOptions) (port : Nat)
    (remaining : PortReleasePlan) : App Int := do
  -- written with `--quiet` too
  write "Port is still occupied.\n"
  if !(← authorize options forcePrompt false) then cancelled options
  else
    match ← ports.force remaining with
    | .error error => fail error
    | .ok forced =>
      released options forced.warnings (Bytes.ofString "Port " ++ Bytes.ofNat port ++
        Bytes.ofString " released with SIGKILL.\n")

/-- The branch taken when no unit is recommended. -/
def freeBySignals (ports : PortService) (options : FreePortOptions) (port : Nat)
    (plan : PortReleasePlan) : App Int := do
  if !(← authorize options terminatePrompt true) then cancelled options
  else
    match ← ports.terminate plan with
    | .error error => fail error
    | .ok terminated =>
      if terminated.value.released then
        released options terminated.warnings (Bytes.ofString "Port " ++ Bytes.ofNat port ++
          Bytes.ofString " released with SIGTERM.\n")
      else do
        printWarnings options.quiet terminated.warnings
        match terminated.value.remaining with
        | some remaining => freeByForce ports options port remaining
        -- `*remaining` of an empty optional is undefined; `terminate` never leaves it empty here
        | none => .block

def freePort (ports : PortService) (options : FreePortOptions) (port : Nat) : App Int := do
  match ← ports.prepareRelease port with
  | .error error => fail error
  | .ok plan =>
    write (printReleasePlan plan.value)
    match plan.value.recommendedUnit with
    | some unit => freeByService ports options port plan.value unit
    | none => freeBySignals ports options port plan.value

end Lx.Cli
