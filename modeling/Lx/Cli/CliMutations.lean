import Lx.Cli.CliApp
import Lx.Lib.Comparison

/-!
# What a command line is allowed to do

Whatever the services answer and whatever the user types, `CliApp::run` makes a call that
changes something only for a command line that asks for it, and then only with a history that
justifies it: the preparation has succeeded, the user has seen what is going to happen, and has
agreed to it or has passed `--yes`. The history is given completely, so that nothing else can
have happened before.

## Layers

- §1: the histories that justify a call.
- §2: the rules for the pieces the commands share.
- §3: the commands, and every command line.
-/

namespace Lx.CliApp

open Interaction Interaction.Prog Cli

/-! ## §1 Justifications -/

/-- Calls that change something, hand the terminal over or ask the user. -/
def interferes : CliCall → Bool
  -- a question has to be justified like a change
  | .tui | .stopProcess _ | .killProcess _ | .control _ _ | .stopManagedService _ | .terminate _
  | .force _ | .getline => true
  | _ => false

def wrote (text : Bytes) : Event CliCalls := ⟨.services (.write text), ()⟩

def answered (answer : Option Bytes) : Event CliCalls := ⟨.getline, answer⟩

/-- The warnings on standard error. -/
def warned (quiet : Bool) (warnings : List Warning) : Trace CliCalls :=
  if quiet then [] else warnings.map fun warning => ⟨.writeError (warningLine warning), ()⟩

/-- The words that agree. -/
def agreements : List Bytes :=
  ["y", "Y", "yes", "yeS", "yEs", "yES", "Yes", "YeS", "YEs", "YES"].map Bytes.ofString

/-- A line that agrees: one of the words, with white space around it, or nothing where
    nothing stands for yes. The end of the input does not agree. -/
def Agreed (defaultYes : Bool) (answer : Option Bytes) : Prop :=
  ∃ before word after, answer = some (before ++ word ++ after) ∧
    (∀ c ∈ before ++ after, Bytes.isSpace c = true) ∧
    (word ∈ agreements ∨ (word = [] ∧ defaultYes = true))

/-- The user agreed in advance, or to the prompt. -/
def Consented (yes : Bool) (prompt : Bytes) (defaultYes : Bool) (before past : Trace CliCalls) : Prop :=
  (yes = true ∧ past = before) ∨
    (yes = false ∧ ∃ answer, Agreed defaultYes answer ∧
      past = before ++ [wrote prompt, answered answer])

/-- The process was a possible target and was looked up. -/
def targeted (pid : Int) (target : Observation ProcessInfo) : Trace CliCalls :=
  [⟨.validateSignalTarget pid, .ok ()⟩, ⟨.services (.inspectProcess pid), .ok target⟩]

/-- The plan was made and shown. -/
def planned (port : Nat) (plan : Observation PortReleasePlan) : Trace CliCalls :=
  [⟨.prepareRelease port, .ok plan⟩, wrote (printReleasePlan plan.value)]

/-- The owners were asked to exit, and some of them did not. -/
def unreleased (quiet : Bool) (plan : PortReleasePlan) (result : Observation PortReleaseResult) :
    Trace CliCalls :=
  ⟨.terminate plan, .ok result⟩ :: warned quiet result.warnings ++ [wrote "Port is still occupied.\n"]

/-- The prompts of a command line that does not have `--yes`. -/
def Prompted (line : CommandLine) (prompt : Bytes) : Prop :=
  (∃ pid name, line = .killProcess pid false ∧ prompt = killPrompt pid name) ∨
    (∃ unit action, line = .control unit action false ∧ action ≠ .start ∧
      prompt = controlPrompt action unit) ∨
    (∃ port, line = .freePort port false ∧
      (prompt = terminatePrompt ∨ prompt = forcePrompt ∨ ∃ unit, prompt = stopPrompt unit))

/-- The command line asks for the call, and `past` is all that has to happen before it. -/
def Justified (quiet : Bool) (line : CommandLine) (past : Trace CliCalls) : CliCall → Prop
  | .tui => line = .tui ∧ past = []
  | .stopProcess pid => line = .stopProcess pid ∧ past = []
  | .killProcess pid => ∃ yes target, line = .killProcess pid yes ∧
      Consented yes (killPrompt pid target.value.name) false (targeted pid target) past
  | .control action unit => ∃ yes, line = .control unit action yes ∧
      -- `start` never asks; the other actions ask unless there is `--yes`
      Consented (action == .start || yes) (controlPrompt action unit) false [] past
  | .stopManagedService plan => ∃ port yes unit warnings, line = .freePort port yes ∧
      plan.recommendedUnit = some unit ∧
      Consented yes (stopPrompt unit) true (planned port ⟨plan, warnings⟩) past
  | .terminate plan => ∃ port yes warnings, line = .freePort port yes ∧ plan.recommendedUnit = none ∧
      Consented yes terminatePrompt true (planned port ⟨plan, warnings⟩) past
  -- SIGKILL follows SIGTERM and a second question, and is for the owners that were left
  | .force remaining => ∃ port yes plan warnings result before, line = .freePort port yes ∧
      plan.recommendedUnit = none ∧
      Consented yes terminatePrompt true (planned port ⟨plan, warnings⟩) before ∧
      result.value.released = false ∧ result.value.remaining = some remaining ∧
      Consented yes forcePrompt false (before ++ unreleased quiet plan result) past
  -- a question is preceded by its prompt, and the prompt belongs to the command line
  | .getline => ∃ before prompt, Prompted line prompt ∧ past = before ++ [wrote prompt]
  | _ => True

/-- A call that interferes is justified, and is never made with `--json`. -/
def Authorised (jsonOutput quiet : Bool) (line : CommandLine) (past : Trace CliCalls)
    (e : Event CliCalls) : Prop :=
  interferes e.1 = true → jsonOutput = false ∧ Justified quiet line past e.1

/-! ## §2 The pieces of a command -/

/-- Trimming takes white space away, and nothing else. -/
theorem trim_split (line : Bytes) : ∃ before after, line = before ++ Bytes.trim line ++ after ∧
    ∀ c ∈ before ++ after, Bytes.isSpace c = true := by
  -- trimming drops white space at the front, reverses, and does the same again
  let rest := (line.dropWhile Bytes.isSpace).reverse
  refine ⟨line.takeWhile Bytes.isSpace, (rest.takeWhile Bytes.isSpace).reverse, ?_, ?_⟩
  · have hrest : Bytes.trim line ++ (rest.takeWhile Bytes.isSpace).reverse =
        line.dropWhile Bytes.isSpace := by
      rw [Bytes.trim, ← List.reverse_append, List.takeWhile_append_dropWhile, List.reverse_reverse]
    rw [List.append_assoc, hrest, List.takeWhile_append_dropWhile]
  · intro c hc
    rcases List.mem_append.mp hc with hc | hc
    · exact List.all_eq_true.mp List.all_takeWhile c hc
    · exact List.all_eq_true.mp List.all_takeWhile c (List.mem_reverse.mp hc)

/-- A letter in either case. -/
theorem toLower_eq {c letter : UInt8} (h : Bytes.toLower c = letter) : c = letter ∨ c = letter - 32 := by
  -- only the letters from `A` to `Z` are changed, by 32
  unfold Bytes.toLower at h
  split_ifs at h
  · exact .inr (by rw [← h, UInt8.add_sub_cancel])
  · exact .inl h

/-- What `confirm` accepts. -/
theorem agreed_of_accepts {defaultYes : Bool} {answer : Option Bytes}
    (h : accepts defaultYes answer = true) : Agreed defaultYes answer := by
  cases answer with
  | none => cases h
  | some line =>
    obtain ⟨before, after, hline, hblank⟩ := trim_split line
    refine ⟨before, Bytes.trim line, after, congrArg some hline, hblank, ?_⟩
    change (if (Bytes.trim line).isEmpty = true then defaultYes else _) = true at h
    split_ifs at h with hempty
    · exact .inr ⟨List.isEmpty_iff.mp hempty, h⟩
    · left
      rw [Bool.or_eq_true, beq_iff_eq, beq_iff_eq] at h
      -- the two words as bytes, so that each byte of the answer can be read off
      have hy : Bytes.ofString "y" = [121] := by decide
      have hyes : Bytes.ofString "yes" = [121, 101, 115] := by decide
      rw [hy, hyes, Bytes.lower, List.map_eq_singleton_iff] at h
      -- either letter by letter
      rcases h with ⟨c, hword, hc⟩ | h
      · rw [hword]
        rcases toLower_eq hc with rfl | rfl <;> decide
      · obtain ⟨c, d, e, hword, hc, hd, he⟩ : ∃ c d e, Bytes.trim line = [c, d, e] ∧
            Bytes.toLower c = 121 ∧ Bytes.toLower d = 101 ∧ Bytes.toLower e = 115 := by
          simpa [List.map_eq_cons_iff] using h
        rw [hword]
        rcases toLower_eq hc with rfl | rfl <;> rcases toLower_eq hd with rfl | rfl <;>
          rcases toLower_eq he with rfl | rfl <;> decide

section Pieces

variable {jsonOutput quiet : Bool} {line : CommandLine} {past : Trace CliCalls}

/-- Calls that do not interfere. -/
abbrev Harmless (c : CliCall) : Prop := interferes c = false

theorem Harmless.authorised (c : CliCall) (h : Harmless c) (before : Trace CliCalls) (x : c.Answer) :
    Authorised jsonOutput quiet line before ⟨c, x⟩ := by
  intro hinterferes
  -- a call cannot both interfere and not
  exact absurd (h.symm.trans hinterferes) (by decide)

/-- A program of harmless calls needs no justification. -/
theorem watched_harmless {α : Type} {p : Cli α} (hp : p.Within Harmless) (before : Trace CliCalls) :
    p.Watched (Authorised jsonOutput quiet line) before :=
  hp.watched (fun c h before x => Harmless.authorised c h before x) before

theorem ask_harmless (c : ServiceCall) : (ask c).Within Harmless := within_perform rfl

theorem harmless_of_tells {α : Type} {p : Cli α} (hp : p.Within Telling) : p.Within Harmless := by
  refine hp.mono fun c h => ?_
  cases c <;> first | rfl | exact h.elim

theorem harmless_of_remarks {α : Type} {p : Cli α} (hp : p.Within Remarking) : p.Within Harmless :=
  harmless_of_tells (tells_of_remarks hp)

theorem fail_harmless (failure : Error) : (fail failure).Within Harmless :=
  harmless_of_tells (fail_tells failure)

/-- The warnings are all that `printWarnings` does. -/
theorem printWarnings_run {warnings : List Warning} {t : Trace CliCalls}
    (h : (printWarnings quiet warnings).Run t ()) : t = warned quiet warnings := by
  -- the induction is on the warnings: one call for each, or none at all if quiet
  induction warnings generalizing t with
  | nil =>
    obtain ⟨rfl, -⟩ := h
    cases quiet <;> rfl
  | cons warning rest ih =>
    unfold printWarnings at h
    cases quiet with
    | true =>
      have hrest : (printWarnings true rest).Run t () := h
      rw [ih hrest]
      rfl
    | false =>
      obtain ⟨x, t', rfl, hrest⟩ := h
      rw [ih hrest]
      rfl

/-- A prompt of this command line may be asked, and either answer is followed by what was
announced for it. -/
theorem watched_authorize {α : Type} {yes defaultYes : Bool} {prompt : Bytes} {k : Bool → Cli α}
    (hprompt : yes = false → jsonOutput = false ∧ Prompted line prompt)
    (hagreed : ∀ after, Consented yes prompt defaultYes past after →
      (k true).Watched (Authorised jsonOutput quiet line) after)
    (hrefused : (k false).Within Harmless) :
    (authorize yes prompt defaultYes >>= k).Watched (Authorised jsonOutput quiet line) past := by
  cases yes with
  -- agreed in advance, without a prompt
  | true => exact hagreed past (.inl ⟨rfl, rfl⟩)
  | false =>
    obtain ⟨hjson, hasked⟩ := hprompt rfl
    -- the prompt, and then the line that is read
    refine fun x => ⟨Harmless.authorised _ rfl past x, fun answer => ⟨fun _ => ?_, ?_⟩⟩
    · exact ⟨hjson, past, prompt, hasked, rfl⟩
    · cases hanswer : accepts defaultYes answer with
      | false =>
        -- anything else is followed by `Cancelled.` at most
        show ((Prog.ret (accepts defaultYes answer)) >>= k).Watched _ _
        rw [hanswer]
        exact watched_harmless hrefused _
      | true =>
        show ((Prog.ret (accepts defaultYes answer)) >>= k).Watched _ _
        rw [hanswer]
        refine hagreed _ (.inr ⟨rfl, answer, agreed_of_accepts hanswer, ?_⟩)
        rw [List.append_assoc]
        rfl

end Pieces

/-! ## §3 Commands -/

section Commands

variable {quiet : Bool} (setup : Setup)

theorem measured_harmless : (measured setup).Within Harmless := by
  unfold measured
  -- usage is measured only where there is something to measure it with
  split
  · exact (ask_harmless _).bind fun _ => trivial
  · trivial

theorem listProcesses_harmless (query : ProcessQuery) :
    (listProcesses setup quiet query).Within Harmless := by
  refine (ask_harmless _).bind fun result => ?_
  cases result with
  | error failure => exact fail_harmless failure
  | ok observed =>
    refine (measured_harmless setup).bind fun metrics => ?_
    cases metrics <;> exact harmless_of_remarks (printed_remarks _ _)

theorem inspectProcess_harmless (pid : Int) (raw : Bool) :
    (inspectProcess setup quiet pid raw).Within Harmless := by
  refine (ask_harmless _).bind fun result => ?_
  cases result with
  | error failure => exact fail_harmless failure
  | ok observed =>
    refine (measured_harmless setup).bind fun metrics => ?_
    cases metrics <;> exact harmless_of_remarks (printProcess_remarks _ _ _ _)

theorem process_harmless (options : ProcessOptions) : (process setup quiet options).Within Harmless := by
  unfold process
  repeat' split
  · exact fail_harmless _
  · exact inspectProcess_harmless setup _ _
  · exact fail_harmless _
  · exact listProcesses_harmless setup _

theorem port_harmless (number : Option Nat) : (port setup quiet number).Within Harmless := by
  refine (ask_harmless _).bind fun result => ?_
  cases result with
  | error failure => exact fail_harmless failure
  | ok observed =>
    dsimp only
    split
    · exact fail_harmless _
    · exact harmless_of_remarks (printed_remarks _ _)

theorem followLog_harmless (query : LogQuery) : (followLog setup quiet query).Within Harmless := by
  refine (ask_harmless _).bind fun failure => ?_
  cases failure with
  | some failure => exact fail_harmless _
  | none =>
    refine (ask_harmless _).bind fun followed => (harmless_of_remarks (sink_remarks _ _)).bind fun _ => ?_
    -- Ctrl+C ends a follower with its own code, other failures are reported
    split
    · trivial
    · split
      · trivial
      · exact fail_harmless _

theorem logAt_harmless (options : LogOptions) (since : Option Int) :
    (logAt setup quiet options since).Within Harmless := by
  unfold logAt
  dsimp only
  split
  · exact followLog_harmless setup _
  · exact (ask_harmless _).bind fun _ => harmless_of_tells (shown_tells _ _)

theorem log_harmless (options : LogOptions) : (log setup quiet options).Within Harmless := by
  unfold log
  split
  · exact logAt_harmless setup _ _
  -- `--since` is parsed by the same service, which changes nothing
  · refine (ask_harmless _).bind fun result => ?_
    cases result with
    | error failure => exact fail_harmless failure
    | ok since => exact logAt_harmless setup _ _

/-- The read-only commands. -/
theorem readCommand_harmless (command : Command) : (readCommand setup quiet command).Within Harmless := by
  cases command with
  | process options => exact process_harmless setup options
  | port number => exact port_harmless setup number
  | service unit =>
    cases unit <;> exact (ask_harmless _).bind fun _ => harmless_of_tells (shown_tells _ _)
  | inspect expression =>
    refine (ask_harmless _).bind fun result => ?_
    cases result with
    | error failure => exact fail_harmless failure
    | ok graph => exact harmless_of_remarks (printed_remarks _ _)
  | find query =>
    refine (ask_harmless _).bind fun result => ?_
    cases result with
    | error failure => exact fail_harmless failure
    | ok found => exact harmless_of_remarks (printed_remarks _ _)
  | log options => exact log_harmless setup options

/-- Whatever a program of the read-only services does is harmless here. -/
theorem interpret_harmless {α : Type} (p : Prog Services α) :
    (p.interpret fun c => ask c).Within Harmless := by
  induction p with
  | ret a => trivial
  | call c k ih => exact (ask_harmless c).bind ih
  | block => trivial

theorem deliver_harmless (reply : Reply) : (deliver setup reply).run.Within Harmless := by
  -- a document may fail to be written, and then an exception ends the command
  refine Within.exceptT_bind (p := ExceptT.mk (pure (setup.dump reply.document))) trivial fun text => ?_
  exact Within.exceptT_bind (p := ExceptT.lift (write (text ++ [10])))
    ((harmless_of_remarks (write_remarks _)).bind fun _ => trivial) fun _ => trivial

/-- With `--json` nothing is changed. -/
theorem json_harmless (line : CommandLine) : (json setup line).run.Within Harmless := by
  cases line with
    -- the commands that change something are refused as a whole
  | stopProcess pid => exact deliver_harmless setup _
  | killProcess pid yes => exact deliver_harmless setup _
  | freePort port yes => exact deliver_harmless setup _
  | control unit action yes => exact deliver_harmless setup _
  | tui => exact deliver_harmless setup _
  | doctor =>
    exact Within.exceptT_bind (p := ExceptT.lift (call .doctor)) ⟨rfl, fun _ => trivial⟩ fun _ =>
      deliver_harmless setup _
  | status =>
    show Within Harmless (if setup.hasStatus then _ else _ : Throwing Int).run
    split
    · exact Within.exceptT_bind (p := ExceptT.lift (call .status)) ⟨rfl, fun _ => trivial⟩ fun _ =>
        deliver_harmless setup _
    · exact deliver_harmless setup _
  | read command => exact interpret_harmless _

/-! ### Commands that change something -/

section Watched

variable {past : Trace CliCalls}

theorem stopProcess_watched (pid : Int) :
    (stopProcess quiet pid).Watched (Authorised false quiet (.stopProcess pid)) [] := by
  -- stopping is not confirmed: the request itself is the first call
  refine fun result => ⟨fun _ => ⟨rfl, rfl, rfl⟩, watched_harmless ?_ _⟩
  cases result with
  | error failure => exact fail_harmless failure
  | ok delivery => exact harmless_of_remarks (done_remarks _)

theorem killProcess_watched (pid : Int) (yes : Bool) :
    (killProcess quiet pid yes).Watched (Authorised false quiet (.killProcess pid yes)) [] := by
  -- whether the PID may be signalled at all is checked first, then who it is
  refine fun valid => ⟨Harmless.authorised _ rfl _ _, ?_⟩
  cases valid with
  | error failure => exact watched_harmless (fail_harmless failure) _
  | ok valid =>
    refine fun looked => ⟨Harmless.authorised _ rfl _ _, ?_⟩
    cases looked with
    | error failure => exact watched_harmless (fail_harmless failure) _
    | ok target =>
      -- the prompt names the process that was just looked up
      refine watched_authorize (fun hyes => ⟨rfl, .inl ⟨pid, _, by rw [hyes], rfl⟩⟩)
        (fun after hconsent result => ⟨fun _ => ⟨rfl, yes, target, rfl, hconsent⟩, ?_⟩)
        (harmless_of_remarks cancelled_remarks)
      refine watched_harmless ?_ _
      cases result with
      | error failure => exact fail_harmless failure
      | ok delivery => exact harmless_of_remarks (done_remarks _)

theorem control_watched (unit : Bytes) (action : ServiceAction) (yes : Bool) :
    (control quiet unit action yes).Watched (Authorised false quiet (.control unit action yes)) [] := by
  -- the first call is the action itself, or the question about it
  refine watched_authorize (fun hyes => ⟨rfl, .inr (.inl ⟨unit, action, ?_, ?_, rfl⟩)⟩)
    (fun after hconsent result => ⟨fun _ => ⟨rfl, yes, rfl, hconsent⟩, ?_⟩)
    (harmless_of_remarks cancelled_remarks)
  · rw [(Bool.or_eq_false_iff.mp hyes).2]
  · exact fun hstart => absurd (Bool.or_eq_false_iff.mp hyes).1 (by simp [hstart])
  · refine watched_harmless ?_ _
    cases result with
    | error failure => exact fail_harmless failure
    | ok submitted => exact harmless_of_remarks (done_remarks _)

theorem freeByService_watched {port : Nat} {plan : PortReleasePlan} {unit : Bytes} {yes : Bool}
    {warnings : List Warning} (hunit : plan.recommendedUnit = some unit) :
    (freeByService quiet port plan unit yes).Watched (Authorised false quiet (.freePort port yes))
      (planned port ⟨plan, warnings⟩) := by
  -- the plan recommends a unit, so its owners get no signals at all
  refine watched_authorize
    (fun hyes => ⟨rfl, .inr (.inr ⟨port, by rw [hyes], .inr (.inr ⟨unit, rfl⟩)⟩)⟩)
    (fun after hconsent result =>
      ⟨fun _ => ⟨rfl, port, yes, unit, warnings, rfl, hunit, hconsent⟩, ?_⟩)
    (harmless_of_remarks cancelled_remarks)
  refine watched_harmless ?_ _
  cases result with
  | error failure => exact fail_harmless failure
  | ok stopped => exact harmless_of_remarks (released_remarks _ _)

theorem freeByForce_watched {port : Nat} {plan remaining : PortReleasePlan} {yes : Bool}
    {warnings : List Warning} {result : Observation PortReleaseResult} {before : Trace CliCalls}
    (hunit : plan.recommendedUnit = none)
    (hbefore : Consented yes terminatePrompt true (planned port ⟨plan, warnings⟩) before)
    (hunreleased : result.value.released = false) (hremaining : result.value.remaining = some remaining) :
    (freeByForce quiet port remaining yes).Watched (Authorised false quiet (.freePort port yes))
      (before ++ [⟨.terminate plan, .ok result⟩] ++ warned quiet result.warnings) := by
  rintro ⟨⟩
  -- the past ends with the unsuccessful SIGTERM; the remark and the second question follow
  refine ⟨Harmless.authorised _ rfl _ _, watched_authorize
    (fun hyes => ⟨rfl, .inr (.inr ⟨port, by rw [hyes], .inr (.inl rfl)⟩)⟩)
    (fun after hconsent forced => ⟨fun _ => ⟨rfl, port, yes, plan, warnings, result, before, rfl, hunit,
      hbefore, hunreleased, hremaining, ?_⟩, ?_⟩) (harmless_of_remarks cancelled_remarks)⟩
  · simpa [unreleased, wrote] using hconsent
  · refine watched_harmless ?_ _
    cases forced with
    | error failure => exact fail_harmless failure
    | ok released => exact harmless_of_remarks (released_remarks _ _)

theorem freeBySignals_watched {port : Nat} {plan : PortReleasePlan} {yes : Bool}
    {warnings : List Warning} (hunit : plan.recommendedUnit = none) :
    (freeBySignals quiet port plan yes).Watched (Authorised false quiet (.freePort port yes))
      (planned port ⟨plan, warnings⟩) := by
  -- no unit is responsible, so the owners themselves are asked to exit
  refine watched_authorize
    (fun hyes => ⟨rfl, .inr (.inr ⟨port, by rw [hyes], .inl rfl⟩)⟩)
    (fun after hconsent result =>
      ⟨fun _ => ⟨rfl, port, yes, warnings, rfl, hunit, hconsent⟩, ?_⟩)
    (harmless_of_remarks cancelled_remarks)
  cases result with
  | error failure => exact watched_harmless (fail_harmless failure) _
  | ok terminated =>
    show (if terminated.value.released = true then _ else _ : Cli Int).Watched _ _
    split
    · exact watched_harmless (harmless_of_remarks (released_remarks _ _)) _
    · rename_i hunreleased
      -- its own warnings come before the second stage
      refine (watched_harmless (harmless_of_remarks (printWarnings_remarks _)) _).bind ?_
      intro t u hprinted
      rw [printWarnings_run hprinted]
      cases hremaining : terminated.value.remaining with
      | none => trivial
      | some remaining =>
        exact freeByForce_watched hunit hconsent (Bool.eq_false_iff.mpr hunreleased) hremaining

theorem freePort_watched (port : Nat) (yes : Bool) :
    (freePort quiet port yes).Watched (Authorised false quiet (.freePort port yes)) [] := by
  refine fun prepared => ⟨Harmless.authorised _ rfl _ _, ?_⟩
  cases prepared with
  | error failure => exact watched_harmless (fail_harmless failure) _
  | ok plan =>
    -- the plan is shown before anything is asked
    rintro ⟨⟩
    refine ⟨Harmless.authorised _ rfl _ _, ?_⟩
    dsimp only
    cases hunit : plan.value.recommendedUnit with
    | some unit => exact freeByService_watched hunit
    | none => exact freeBySignals_watched hunit

end Watched

/-- Every call that changes something, hands the terminal over or asks the user is asked for by
the command line and has the history that justifies it; with `--json` there is none. -/
theorem mutations_authorised (jsonOutput quietOutput : Bool) (line : CommandLine) :
    (run setup jsonOutput quietOutput line).Watched (Authorised jsonOutput quietOutput line) [] := by
  cases jsonOutput with
  -- `json` has no path to a call that interferes
  | true => exact watched_harmless (json_harmless setup line) _
  | false =>
    -- what follows the command is its exit code alone
    refine Watched.bind (p := human setup quietOutput line) ?_ fun _ _ _ => trivial
    cases line with
    | tui =>
      show (if setup.hasTui then _ else _ : Cli Int).Watched _ _
      split
      · refine fun result => ⟨fun _ => ⟨rfl, rfl, rfl⟩, watched_harmless ?_ _⟩
        cases result with
        | error failure => exact fail_harmless failure
        | ok finished => trivial
      · exact watched_harmless (fail_harmless _) _
    | doctor =>
      refine fun report => ⟨Harmless.authorised _ rfl _ _, watched_harmless ?_ _⟩
      exact harmless_of_remarks
        ((write_remarks (printDoctorReport setup.fmt report)).bind fun _ => within_ret)
    | status =>
      show (if setup.hasStatus then _ else _ : Cli Int).Watched _ _
      split
      · refine fun result => ⟨Harmless.authorised _ rfl _ _, watched_harmless ?_ _⟩
        cases result with
        | error failure => exact fail_harmless failure
        | ok status => exact (harmless_of_remarks (write_remarks _)).bind fun _ => trivial
      · exact watched_harmless (fail_harmless _) _
    | read command => exact watched_harmless (readCommand_harmless setup command) _
    | stopProcess pid => exact stopProcess_watched pid
    | killProcess pid yes => exact killProcess_watched pid yes
    | control unit action yes => exact control_watched unit action yes
    | freePort port yes => exact freePort_watched port yes

end Commands

end Lx.CliApp
