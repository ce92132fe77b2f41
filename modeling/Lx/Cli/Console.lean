import Lx.Contracts

/-!
# Console helpers

The confirmation prompt, the exit codes and the failure path shared by the
commands of `src/cli/CliApp.cpp`.
-/

namespace Lx.Cli

open Interaction

/-- The decision `confirm` takes from the line it read (`none` at end of input). -/
def accepts (defaultYes : Bool) : Option Bytes → Bool
  | none => false
  | some line =>
    let answer := Bytes.trim line
    if answer.isEmpty then defaultYes
    else Bytes.lower answer == Bytes.ofString "y" || Bytes.lower answer == Bytes.ofString "yes"

def confirm (prompt : Bytes) (defaultYes : Bool) : App Bool := do
  write prompt
  let answer ← getline
  return accepts defaultYes answer

theorem confirm_run {prompt : Bytes} {defaultYes : Bool} {t : Trace Contract} {agreed : Bool}
    (h : (confirm prompt defaultYes).Run t agreed) :
    ∃ answer, t = [⟨.write prompt, ()⟩, ⟨.getline, answer⟩] ∧ agreed = accepts defaultYes answer := by
  obtain ⟨_, _, _, hw, hk, rfl⟩ := Prog.run_bind_iff.mp h
  obtain rfl := Prog.run_perform.mp hw
  obtain ⟨answer, _, _, hg, ⟨rfl, rfl⟩, rfl⟩ := Prog.run_bind_iff.mp hk
  obtain rfl := Prog.run_perform.mp hg
  exact ⟨answer, rfl, rfl⟩

/-- An empty answer counts as agreement only where the prompt says so; otherwise it
    takes an explicit `y` or `yes`. -/
theorem accepts_false_iff_explicit {answer : Option Bytes} :
    accepts false answer = true ↔ ∃ line, answer = some line ∧
      (Bytes.lower (Bytes.trim line) = Bytes.ofString "y" ∨
        Bytes.lower (Bytes.trim line) = Bytes.ofString "yes") := by
  cases answer with
  | none => simp [accepts]
  | some line =>
    unfold accepts
    cases hempty : (Bytes.trim line).isEmpty with
    | false => simp [hempty]
    | true =>
      have hnil : Bytes.trim line = [] := by simpa using hempty
      simp [hnil, Bytes.lower, Bytes.ofString]

def exitCode : ErrorCode → Int
  | .invalidArgument => 2
  | .notFound => 3
  | .permissionDenied => 4
  | .unsupported | .unavailable => 6
  | .conflict => 7
  | .timeout => 8
  | .interrupted => 130
  | _ => 5

/-- Human output of a failed command. -/
def fail (failure : Error) : App Int := do
  writeError (failure.message ++ Bytes.ofString "\n")
  return exitCode failure.code

/-- A line of output unless `--quiet` is given. -/
def report (quiet : Bool) (text : Bytes) : App Unit :=
  if quiet then return () else write text

/-- Warnings go to standard error, or nowhere with `--quiet`. -/
def printWarnings (quiet : Bool) : List Warning → App Unit
  | [] => return ()
  | warning :: rest => do
    if quiet then pure ()
    else writeError (Bytes.ofString "Warning: " ++ warning.message ++ Bytes.ofString "\n")
    printWarnings quiet rest

end Lx.Cli
