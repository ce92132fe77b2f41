import Lx.Cli.CliApp
import Lx.Lib.Comparison

/-!
# Secrets on command lines

Without `--raw-command` nothing that `CliApp::run` writes, and no call it makes, depends on a
secret among the arguments of a process. Two machines whose answers have the same redaction are
told apart by no command line, with `--json` or without. The only calls that carry arguments of
processes at all are those that execute a release plan, whose owners come with theirs: they are
handed on as they are, and differ in these secrets only.

## Layers

- §1: answers with their arguments redacted; pages and documents are made of these alone.
- §2: programs that do not tell such answers apart, and the commands for people.
- §3: the same for the documents.
- §4: every command line.
-/

namespace Lx.CliApp

open Interaction Interaction.Prog Cli

/-! ## §1 Redacted answers -/

/-- A process with the secrets among its arguments replaced. -/
def redactedProcess (process : ProcessInfo) : ProcessInfo :=
  { process with argv := redact false process.argv }

def redactedPort (port : PortInfo) : PortInfo :=
  { port with owners := port.owners.map redactedProcess }

def redactedGraph (graph : ResourceGraph) : ResourceGraph :=
  { graph with
    ports := graph.ports.map redactedPort
    processes := graph.processes.map redactedProcess }

def redactedFound (found : FindResult) : FindResult :=
  { found with
    ports := found.ports.map redactedPort
    processes := found.processes.map redactedProcess }

def redactedValue {α : Type} (redacted : α → α) (observed : Observation α) : Observation α :=
  { observed with value := redacted observed.value }

/-- The answer of a service with the arguments of every process redacted. -/
def redactedAnswer : (c : ServiceCall) → c.Answer → c.Answer
  | .listProcesses _, answer => answer.map (redactedValue (List.map redactedProcess))
  | .inspectProcess _, answer => answer.map (redactedValue redactedProcess)
  | .inspectPorts _, answer => answer.map (redactedValue (List.map redactedPort))
  | .inspectResource _, answer => answer.map redactedGraph
  | .find _, answer => answer.map redactedFound
  | _, answer => answer

/-- A plan keeps its PIDs and its unit; only the owners it shows have arguments. -/
def redactedPlan (plan : PortReleasePlan) : PortReleasePlan :=
  { plan with ports := plan.ports.map redactedPort }

def redactedRelease (result : PortReleaseResult) : PortReleaseResult :=
  { result with remaining := result.remaining.map redactedPlan }

/-- A call with the arguments it carries redacted: only a release plan has any. -/
def redactedCall : CliCall → CliCall
  | .stopManagedService plan => .stopManagedService (redactedPlan plan)
  | .terminate plan => .terminate (redactedPlan plan)
  | .force plan => .force (redactedPlan plan)
  | c => c

/-- A call with its answer, redacted. -/
def redactedEvent : Event CliCalls → Event CliCalls
  | ⟨.services c, answer⟩ => ⟨.services c, redactedAnswer c answer⟩
  | ⟨.prepareRelease port, answer⟩ =>
    ⟨.prepareRelease port, Except.map (redactedValue redactedPlan) answer⟩
  | ⟨.stopManagedService plan, answer⟩ =>
    ⟨.stopManagedService (redactedPlan plan), Except.map (redactedValue redactedRelease) answer⟩
  | ⟨.terminate plan, answer⟩ =>
    ⟨.terminate (redactedPlan plan), Except.map (redactedValue redactedRelease) answer⟩
  | ⟨.force plan, answer⟩ =>
    ⟨.force (redactedPlan plan), Except.map (redactedValue redactedRelease) answer⟩
  | e => e

/-- Calls that differ in secrets only. -/
def SameCall (c d : CliCall) : Prop := redactedCall c = redactedCall d

/-- Calls with their answers that differ in secrets only. -/
def SameButSecrets (e f : Event CliCalls) : Prop := redactedEvent e = redactedEvent f

/-- Such calls are the same call, or execute plans that differ in secrets only. -/
theorem sameCall_cases {c d : CliCall} (h : SameCall c d) :
    d = c ∨ ∃ plan plan', redactedPlan plan = redactedPlan plan' ∧
      ((c = .stopManagedService plan ∧ d = .stopManagedService plan') ∨
        (c = .terminate plan ∧ d = .terminate plan') ∨ (c = .force plan ∧ d = .force plan')) := by
  unfold SameCall at h
  cases c with
  | stopManagedService plan =>
    cases d with
    | stopManagedService plan' =>
      exact .inr ⟨plan, plan', CliCall.stopManagedService.inj h, .inl ⟨rfl, rfl⟩⟩
    | _ => cases h
  | terminate plan =>
    cases d with
    | terminate plan' => exact .inr ⟨plan, plan', CliCall.terminate.inj h, .inr (.inl ⟨rfl, rfl⟩)⟩
    | _ => cases h
  | force plan =>
    cases d with
    | force plan' => exact .inr ⟨plan, plan', CliCall.force.inj h, .inr (.inr ⟨rfl, rfl⟩)⟩
    | _ => cases h
  -- all other calls are redacted to themselves
  | _ =>
    left
    cases d <;> first | exact h.symm | cases h

/-- Whether the command line asks for arguments as they are. -/
def CommandLine.rawCommand : CommandLine → Bool
  | .read command => command.rawCommand
  | _ => false

section Pages

variable (fmt : Fmt) (zone : LogService.LocalTime)

/-- A page shows a process as it is after redaction. -/
theorem processPage_redacted (process : ProcessInfo) :
    processPage fmt (redactedProcess process) false = processPage fmt process false := by
  have harguments : displayedArguments (redactedProcess process).argv false =
      displayedArguments process.argv false := by
    -- redacting twice is redacting once
    rw [displayedArguments_eq_arguments, displayedArguments_eq_arguments]
    exact redact_redact false process.argv
  unfold processPage
  rw [harguments]
  rfl

theorem processTable_redacted (processes : List ProcessInfo) :
    processTable fmt (processes.map redactedProcess) = processTable fmt processes := by
  simp only [processTable, List.flatMap_map]
  rfl

theorem ownerUnits_redacted (owners : List ProcessInfo) (units : List Bytes) :
    ownerUnits (owners.map redactedProcess) units = ownerUnits owners units := by
  induction owners generalizing units with
  | nil => rfl
  | cons owner rest ih =>
    simp only [List.map_cons, ownerUnits, redactedProcess]
    -- a unit is no argument
    cases owner.systemdUnit <;> exact ih _

theorem ownerName_redacted (port : PortInfo) (pid : Int) :
    ownerName (redactedPort port) pid = ownerName port pid := by
  simp only [ownerName, redactedPort, List.find?_map]
  -- owners are found by their PID, which stays
  cases h : port.owners.find? (·.pid == pid) with
  | none =>
    have h' : port.owners.find? ((fun owner => owner.pid == pid) ∘ redactedProcess) = none := h
    rw [h']
    rfl
  | some owner =>
    have h' : port.owners.find? ((fun owner => owner.pid == pid) ∘ redactedProcess) = some owner := h
    rw [h']
    rfl

/-- A row names the owners, and not their arguments. -/
theorem portRow_redacted (port : PortInfo) : portRow fmt (redactedPort port) = portRow fmt port := by
  have hsocket : (redactedPort port).socket = port.socket := rfl
  have hnames : ownerNames (redactedPort port) = ownerNames port := by
    simp only [ownerNames, ownerName_redacted, hsocket]
  have hservices : ownerServices (redactedPort port) = ownerServices port := by
    simp only [ownerServices, redactedPort, ownerUnits_redacted]
  have hpids : ownerPids (redactedPort port) = ownerPids port := rfl
  simp only [portRow, hnames, hservices, hpids, hsocket]

theorem portTable_redacted (ports : List PortInfo) :
    portTable fmt (ports.map redactedPort) = portTable fmt ports := by
  simp only [portTable, List.flatMap_map, portRow_redacted]

/-- The redaction of an owner is looked up like the owner. -/
theorem findOwner_redacted (ports : List PortInfo) (pid : Int) :
    PortService.findOwner (ports.map redactedPort) pid =
      (PortService.findOwner ports pid).map redactedProcess := by
  induction ports with
  | nil => rfl
  | cons port rest ih =>
    unfold PortService.findOwner at ih ⊢
    rw [List.map_cons, List.findSome?_cons, List.findSome?_cons, ih]
    have hfind : (redactedPort port).owners.find? (·.pid == pid) =
        (port.owners.find? (·.pid == pid)).map redactedProcess := List.find?_map ..
    rw [hfind]
    cases port.owners.find? (·.pid == pid) <;> rfl

/-- The printed plan names the owners only. -/
theorem printReleasePlan_redacted (plan : PortReleasePlan) :
    printReleasePlan (redactedPlan plan) = printReleasePlan plan := by
  have hname : ∀ pid, processName (redactedPlan plan) pid = processName plan pid := by
    intro pid
    unfold processName
    rw [redactedPlan, findOwner_redacted]
    cases PortService.findOwner plan.ports pid <;> rfl
  unfold printReleasePlan
  simp only [hname]
  rfl

/-- A graph shows its processes and owners in tables. -/
theorem graphPage_redacted (graph : ResourceGraph) :
    graphPage fmt zone (redactedGraph graph) = graphPage fmt zone graph := by
  simp only [graphPage, redactedGraph, part, List.flatMap_map, List.isEmpty_map]
  rfl

theorem findPage_redacted (found : FindResult) :
    findPage fmt (redactedFound found) = findPage fmt found := by
  simp only [findPage, redactedFound, part, List.flatMap_map, List.isEmpty_map]
  rfl

end Pages

section Documents

open JsonSerializer

theorem processValue_redacted (process : ProcessInfo) :
    processValue (redactedProcess process) false = processValue process false := by
  simp only [processValue, redactedProcess, arguments, Bool.false_eq_true, if_false, redact_redact]

theorem processValues_redacted (processes : List ProcessInfo) :
    processValues (processes.map redactedProcess) = processValues processes := by
  simp only [processValues, List.map_map, Function.comp_def, processValue_redacted]

theorem portValues_redacted (ports : List PortInfo) :
    portValues (ports.map redactedPort) = portValues ports := by
  have hport : ∀ port, portValue (redactedPort port) = portValue port := by
    intro port
    simp only [portValue, redactedPort, List.map_map, Function.comp_def, processValue_redacted]
  simp only [portValues, List.map_map, Function.comp_def, hport]

end Documents

/-- Usage is attached to a process in the same way with its secrets replaced. -/
theorem attachCpu_redacted (metrics : MetricsView) (process : ProcessInfo) :
    redactedProcess (attachCpu metrics process) = attachCpu metrics (redactedProcess process) := by
  have hpid : (redactedProcess process).pid = process.pid := rfl
  simp only [attachCpu, hpid]
  -- the CPU time is found by PID
  cases metrics.processCpuPercent.lookup process.pid <;> rfl

/-! ## §2 Programs that do not depend on secrets -/

/-- The programs behave in the same way on answers that differ in secrets only. -/
abbrev AlikeButSecrets {α : Type} (p q : Cli α) : Prop := Alike SameCall SameButSecrets Eq p q

/-- The program shows nothing of secrets. -/
abbrev Discreet {α : Type} (p : Cli α) : Prop := AlikeButSecrets p p

/-- Equal redactions of answers to one call. -/
theorem sameButSecrets_answers {c : CliCall} {redacted : c.Answer → c.Answer}
    (hredacted : ∀ x, redactedEvent ⟨c, x⟩ = ⟨c, redacted x⟩) {x y : c.Answer}
    (h : SameButSecrets ⟨c, x⟩ ⟨c, y⟩) : redacted x = redacted y := by
  rw [SameButSecrets, hredacted, hredacted] at h
  exact eq_of_heq (Sigma.mk.inj h).2

/-- Calls whose answers hold no secrets. -/
abbrev Plain (c : CliCall) : Prop := ∀ x, redactedEvent ⟨c, x⟩ = ⟨c, x⟩

/-- An answer that holds no process is the same on both machines. -/
theorem Plain.eq {c : CliCall} (hc : Plain c) {x y : c.Answer}
    (h : SameButSecrets ⟨c, x⟩ ⟨c, y⟩) : x = y :=
  @sameButSecrets_answers c id hc x y h

theorem discreet_tells {α : Type} {p : Cli α} (hp : p.Within Telling) : Discreet p := by
  refine hp.alike (fun _ _ => rfl) fun c hc x y _ => ?_
  -- what is written has no answer that could differ
  match c, hc, x, y with
  | .services (.write _), _, (), () => rfl
  | .writeError _, _, (), () => rfl

theorem discreet_remarks {α : Type} {p : Cli α} (hp : p.Within Remarking) : Discreet p :=
  discreet_tells (tells_of_remarks hp)

theorem alike_call {c d : CliCall} (h : SameCall c d) : Alike SameCall SameButSecrets
    (fun x y => SameButSecrets ⟨c, x⟩ ⟨d, y⟩) (call c) (call d) :=
  alike_perform h

theorem discreet_plain {α : Type} (c : CliCall) (hc : Plain c) {k : c.Answer → Cli α}
    (hk : ∀ x, Discreet (k x)) : Discreet (call c >>= k) := by
  refine Alike.bind (alike_call rfl) fun x y h => ?_
  rw [hc.eq h]
  exact hk y

/-- The answers of a service, up to secrets. -/
theorem alike_ask (c : ServiceCall) :
    Alike SameCall SameButSecrets (fun x y => redactedAnswer c x = redactedAnswer c y)
      (ask c) (ask c) :=
  .call rfl fun _ _ h => .ret (sameButSecrets_answers (fun _ => rfl) h)

/-- What a discreet program returns is the same, so the rest may depend on it. -/
theorem discreet_after {α β : Type} {p : Cli α} (hp : Discreet p) {k : α → Cli β}
    (hk : ∀ a, Discreet (k a)) : Discreet (p >>= k) := by
  refine hp.bind ?_
  rintro a _ rfl
  exact hk a

/-- Two results with the same redaction are the same error, or values with the same redaction. -/
theorem result_cases {α β : Type} {redacted : α → β} {x y : Result α}
    (h : x.map redacted = y.map redacted) :
    (∃ failure, x = .error failure ∧ y = .error failure) ∨
      ∃ a b, x = .ok a ∧ y = .ok b ∧ redacted a = redacted b := by
  cases x with
  | error failure =>
    cases y with
    | error failure' => exact .inl ⟨failure, rfl, by rw [Except.error.inj h]⟩
    | ok b => exact absurd h (by simp [Except.map])
  | ok a =>
    cases y with
    | error failure' => exact absurd h (by simp [Except.map])
    | ok b => exact .inr ⟨a, b, rfl, rfl, Except.ok.inj h⟩

theorem redactedValue_eq {α : Type} {redacted : α → α} {a b : Observation α}
    (h : redactedValue redacted a = redactedValue redacted b) :
    redacted a.value = redacted b.value ∧ a.warnings = b.warnings := by
  unfold redactedValue at h
  obtain ⟨hvalue, hwarnings⟩ := Observation.mk.inj h
  exact ⟨hvalue, hwarnings⟩

/-- What is made of redacted values only is the same. -/
theorem eq_of_redacted {α β : Type} {redacted : α → α} {made : α → β}
    (hmade : ∀ a, made (redacted a) = made a) {a b : α} (h : redacted a = redacted b) :
    made a = made b := by
  rw [← hmade a, h, hmade b]

section Commands

variable (setup : Setup) {quiet : Bool}

theorem discreet_measured : Discreet (measured setup) := by
  unfold measured
  split
  · exact discreet_plain (.services .measure) (fun _ => rfl) fun _ => .ret rfl
  · exact .ret rfl

theorem discreet_listProcesses (query : ProcessQuery) : Discreet (listProcesses setup quiet query) := by
  refine (alike_ask (.listProcesses query)).bind fun x y h => ?_
  obtain ⟨failure, rfl, rfl⟩ | ⟨a, b, rfl, rfl, hab⟩ := result_cases h
  · exact discreet_tells (fail_tells failure)
  · obtain ⟨hvalue, hwarnings⟩ := redactedValue_eq hab
    refine (discreet_measured setup).bind ?_
    rintro metrics _ rfl
    -- the table is made of the same rows, with the CPU time or without
    cases metrics with
    | none =>
      dsimp only
      rw [eq_of_redacted (processTable_redacted setup.fmt) hvalue, hwarnings]
      exact discreet_remarks (printed_remarks _ _)
    | some metrics =>
      have hattached : (a.value.map (attachCpu metrics)).map redactedProcess =
          (b.value.map (attachCpu metrics)).map redactedProcess := by
        simp only [List.map_map, Function.comp_def, attachCpu_redacted]
        simpa only [List.map_map, Function.comp_def] using congrArg (List.map (attachCpu metrics)) hvalue
      dsimp only
      rw [eq_of_redacted (processTable_redacted setup.fmt) hattached, hwarnings]
      exact discreet_remarks (printed_remarks _ _)

theorem discreet_inspectProcess (pid : Int) : Discreet (inspectProcess setup quiet pid false) := by
  refine (alike_ask (.inspectProcess pid)).bind fun x y h => ?_
  obtain ⟨failure, rfl, rfl⟩ | ⟨a, b, rfl, rfl, hab⟩ := result_cases h
  · exact discreet_tells (fail_tells failure)
  · obtain ⟨hvalue, hwarnings⟩ := redactedValue_eq hab
    refine (discreet_measured setup).bind ?_
    rintro metrics _ rfl
    -- the page is the same, with the usage attached or without
    have hpage : ∀ process process', redactedProcess process = redactedProcess process' →
        AlikeButSecrets (printProcess setup quiet process a.warnings false)
          (printProcess setup quiet process' b.warnings false) := by
      intro process process' hsame
      have htext : processPage setup.fmt process false = processPage setup.fmt process' false := by
        rw [← processPage_redacted, hsame, processPage_redacted]
      unfold printProcess
      rw [htext, hwarnings]
      exact discreet_remarks (printProcess_remarks setup process' b.warnings false)
    cases metrics with
    | none => exact hpage _ _ hvalue
    | some metrics =>
      refine hpage _ _ ?_
      rw [attachCpu_redacted, attachCpu_redacted, hvalue]

theorem discreet_port (number : Option Nat) : Discreet (port setup quiet number) := by
  refine (alike_ask (.inspectPorts _)).bind fun x y h => ?_
  obtain ⟨failure, rfl, rfl⟩ | ⟨a, b, rfl, rfl, hab⟩ := result_cases h
  · exact discreet_tells (fail_tells failure)
  · obtain ⟨hvalue, hwarnings⟩ := redactedValue_eq hab
    -- a list is empty with its secrets and without them
    have hempty : a.value = [] ↔ b.value = [] := by
      rw [← List.map_eq_nil_iff (f := redactedPort), hvalue, List.map_eq_nil_iff]
    dsimp only
    rw [eq_of_redacted (portTable_redacted setup.fmt) hvalue, hwarnings]
    simp only [hempty]
    refine discreet_tells ?_
    split
    · exact fail_tells _
    · exact tells_of_remarks (printed_remarks _ _)

theorem discreet_inspect (expression : Bytes) : Discreet (inspect setup quiet expression) := by
  refine (alike_ask (.inspectResource expression)).bind fun x y h => ?_
  obtain ⟨failure, rfl, rfl⟩ | ⟨a, b, rfl, rfl, hab⟩ := result_cases h
  · exact discreet_tells (fail_tells failure)
  · have hwarnings : a.warnings = b.warnings := by
      show (redactedGraph a).warnings = (redactedGraph b).warnings
      rw [hab]
    dsimp only
    rw [eq_of_redacted (graphPage_redacted setup.fmt setup.zone) hab, hwarnings]
    exact discreet_remarks (printed_remarks _ _)

theorem discreet_find (query : Bytes) : Discreet (find setup quiet query) := by
  refine (alike_ask (.find query)).bind fun x y h => ?_
  obtain ⟨failure, rfl, rfl⟩ | ⟨a, b, rfl, rfl, hab⟩ := result_cases h
  · exact discreet_tells (fail_tells failure)
  · have hwarnings : a.warnings = b.warnings := by
      show (redactedFound a).warnings = (redactedFound b).warnings
      rw [hab]
    dsimp only
    rw [eq_of_redacted (findPage_redacted setup.fmt) hab, hwarnings]
    exact discreet_remarks (printed_remarks _ _)

theorem discreet_logAt (options : LogOptions) (since : Option Int) :
    Discreet (logAt setup quiet options since) := by
  unfold logAt
  dsimp only
  split
  · refine discreet_plain (.services .installInterrupt) (fun _ => rfl) fun failure => ?_
    cases failure with
    | some failure => exact discreet_tells (fail_tells _)
    | none =>
      -- journal entries hold no arguments of processes
      refine discreet_plain (.services (.followLog _)) (fun _ => rfl) fun followed => ?_
      refine discreet_after (discreet_remarks (sink_remarks setup followed.entries)) fun _ => ?_
      refine discreet_tells ?_
      split
      · trivial
      · split
        · trivial
        · exact fail_tells _
  · exact discreet_plain (.services (.readLog _)) (fun _ => rfl) fun _ => discreet_tells (shown_tells _ _)

/-- Read-only commands, without `--raw-command`. -/
theorem discreet_readCommand (command : Command) (hraw : command.rawCommand = false) :
    Discreet (readCommand setup quiet command) := by
  cases command with
  | process options =>
    show Discreet (process setup quiet options)
    have hraw : options.rawCommand = false := hraw
    unfold process
    -- only `--raw-command` shows the arguments as they are
    rw [hraw]
    cases options.pid with
    | none => exact discreet_listProcesses setup _
    | some pid =>
      dsimp only
      split
      · exact discreet_tells (fail_tells _)
      · exact discreet_inspectProcess setup pid
  | port number => exact discreet_port setup number
  | service unit =>
    cases unit with
    | none =>
      exact discreet_plain (.services .listServices) (fun _ => rfl) fun _ =>
        discreet_tells (shown_tells _ _)
    | some unit =>
      exact discreet_plain (.services (.inspectService unit)) (fun _ => rfl) fun _ =>
        discreet_tells (shown_tells _ _)
  | inspect expression => exact discreet_inspect setup expression
  | find query => exact discreet_find setup query
  | log options =>
    show Discreet (log setup quiet options)
    unfold log
    split
    · exact discreet_logAt setup _ _
    · refine discreet_plain (.services (.parseSince _)) (fun _ => rfl) fun result => ?_
      cases result with
      | error failure => exact discreet_tells (fail_tells failure)
      | ok since => exact discreet_logAt setup _ _

/-! ## §3 Documents -/

/-- Answers of the services that differ in secrets only. -/
def SameReplies (e f : Event Services) : Prop :=
  (⟨e.1, redactedAnswer e.1 e.2⟩ : Event Services) = ⟨f.1, redactedAnswer f.1 f.2⟩

/-- The same of a program of the services. -/
abbrev DiscreetReply {α : Type} (p : Prog Services α) : Prop := Alike Eq SameReplies Eq p p

theorem alike_reply {α β : Type} {R : α → β → Prop} {c : ServiceCall} {k : c.Answer → Prog Services α}
    {k' : c.Answer → Prog Services β}
    (h : ∀ x y, redactedAnswer c x = redactedAnswer c y → Alike Eq SameReplies R (k x) (k' y)) :
    Alike Eq SameReplies R (.call (S := Services) c k) (.call (S := Services) c k') :=
  .call rfl fun x y hxy => h x y (eq_of_heq (Sigma.mk.inj hxy).2)

abbrev PlainService (c : ServiceCall) : Prop :=
  ∀ x y, redactedAnswer c x = redactedAnswer c y → x = y

/-- A reply made of what a service answers. -/
theorem discreet_reply {c : ServiceCall} {reply : c.Answer → Reply}
    (hreply : ∀ x y, redactedAnswer c x = redactedAnswer c y → reply x = reply y) :
    DiscreetReply (do return reply (← Cli.ask c)) :=
  alike_reply fun x y h => .ret (hreply x y h)

theorem reply_of {α : Type} {redacted : α → α} {command operation : Bytes} {document : α → Json}
    (hdocument : ∀ a, document (redacted a) = document a) {x y : Result α}
    (h : x.map redacted = y.map redacted) :
    Reply.of command operation document x = Reply.of command operation document y := by
  obtain ⟨failure, rfl, rfl⟩ | ⟨a, b, rfl, rfl, hab⟩ := result_cases h
  · rfl
  · exact congrArg Reply.success (eq_of_redacted hdocument hab)

/-- The usage is attached to processes with the same redaction. -/
theorem alike_withCpu {α : Type} {redacted : α → α} {attach : MetricsView → α → α} (hasStatus : Bool)
    (hattach : ∀ metrics a, redacted (attach metrics a) = attach metrics (redacted a))
    {x y : Result (Observation α)} (h : x.map (redactedValue redacted) = y.map (redactedValue redacted)) :
    Alike Eq SameReplies
      (fun x y => x.map (redactedValue redacted) = y.map (redactedValue redacted))
      (withCpu hasStatus attach x) (withCpu hasStatus attach y) := by
  obtain ⟨failure, rfl, rfl⟩ | ⟨a, b, rfl, rfl, hab⟩ := result_cases h
  · exact .ret rfl
  · obtain ⟨hvalue, hwarnings⟩ := redactedValue_eq hab
    have hmeasured : DiscreetReply (Cli.measured hasStatus) := by
      unfold Cli.measured
      split
      -- a measurement holds no arguments either
      · exact alike_reply fun metrics _ h => .ret (congrArg Except.toOption h)
      · exact .ret rfl
    refine hmeasured.bind ?_
    rintro metrics _ rfl
    cases metrics with
    | none => exact .ret h
    | some metrics =>
      refine .ret ?_
      show Except.ok _ = Except.ok _
      simp only [redactedValue, hattach, hvalue, hwarnings]

theorem discreet_processReply (hasStatus : Bool) (options : ProcessOptions)
    (hraw : options.rawCommand = false) : DiscreetReply (processReply hasStatus options) := by
  unfold processReply
  rw [hraw]
  cases options.pid with
  | some pid =>
    dsimp only
    split
    · exact .ret rfl
    · have hlooked : Alike Eq SameReplies _ (Cli.inspectProcess hasStatus pid)
          (Cli.inspectProcess hasStatus pid) :=
        alike_reply fun x y h => alike_withCpu hasStatus attachCpu_redacted h
      refine hlooked.bind fun x y h => .ret (reply_of (fun a => ?_) h)
      show JsonSerializer.process _ false = JsonSerializer.process _ false
      simp only [JsonSerializer.process, redactedValue, processValue_redacted]
  | none =>
    have hlisted : ∀ query, Alike Eq SameReplies _ (Cli.listProcesses hasStatus query)
        (Cli.listProcesses hasStatus query) := fun query =>
      alike_reply fun x y h => alike_withCpu hasStatus (fun metrics processes => by
        simp only [List.map_map, Function.comp_def, attachCpu_redacted]) h
    refine (hlisted _).bind fun x y h => .ret (reply_of (fun a => ?_) h)
    simp only [JsonSerializer.processes, redactedValue, processValues_redacted]

theorem discreet_portReply (number : Option Nat) : DiscreetReply (portReply number) := by
  refine discreet_reply fun x y h => ?_
  obtain ⟨failure, rfl, rfl⟩ | ⟨a, b, rfl, rfl, hab⟩ := result_cases h
  · rfl
  · obtain ⟨hvalue, hwarnings⟩ := redactedValue_eq hab
    -- an unused port is reported on both machines or on none
    have hempty : a.value = [] ↔ b.value = [] := by
      rw [← List.map_eq_nil_iff (f := redactedPort), hvalue, List.map_eq_nil_iff]
    simp only [portsReply, JsonSerializer.ports, hempty, hwarnings,
      eq_of_redacted portValues_redacted hvalue]

theorem discreet_print (document : Json) : DiscreetReply (print setup.dump document).run :=
  Alike.exceptT_bind (p := ExceptT.mk (pure (setup.dump document))) (.ret rfl) fun text =>
    (alike_reply fun _ _ _ => .ret rfl : DiscreetReply (Cli.ask (.write (text ++ [10])))).exceptT_lift

theorem discreet_deliver (reply : Reply) : DiscreetReply (Cli.deliver setup.dump reply).run :=
  (discreet_print setup reply.document).exceptT_bind fun _ => .ret rfl

/-- The reply is made into a document, and the document is written. -/
theorem discreet_finish {branch : Prog Services Reply} (hbranch : DiscreetReply branch) :
    DiscreetReply (finish setup.dump branch).run :=
  hbranch.exceptT_lift.exceptT_bind fun reply => discreet_deliver setup reply

theorem discreet_sink (entries : List (Observation JournalEntry)) :
    DiscreetReply (Cli.sink setup.dump entries).run := by
  induction entries with
  | nil => exact .ret rfl
  | cons entry rest ih => exact (discreet_print setup _).exceptT_bind fun _ => ih

/-- A call without secrets, in code that may throw. -/
theorem discreet_asked {α : Type} (c : ServiceCall) (hc : PlainService c)
    {k : c.Answer → JsonMode α} (hk : ∀ x, DiscreetReply (k x).run) :
    DiscreetReply (ExceptT.lift (Cli.ask c) >>= k).run :=
  (alike_reply fun x y h => .ret (hc x y h) : DiscreetReply (Cli.ask c)).exceptT_lift.exceptT_bind hk

theorem discreet_jsonFollow (query : LogQuery) :
    DiscreetReply (Cli.followLog setup.dump query).run := by
  refine discreet_asked .installInterrupt (fun _ _ h => h) fun failure => ?_
  cases failure with
  | some failure => exact discreet_deliver setup _
  | none =>
    refine discreet_asked (.followLog query) (fun _ _ h => h) fun followed => ?_
    refine (discreet_sink setup followed.entries).exceptT_bind fun _ => ?_
    unfold followEnd
    split
    · exact .ret rfl
    · split
      · exact .ret rfl
      · exact discreet_deliver setup _

theorem discreet_jsonLog (options : LogOptions) : DiscreetReply (Cli.log setup.dump options).run := by
  have hquery : DiscreetReply (logQuery options) := by
    unfold logQuery
    cases options.since with
    | none => exact .ret rfl
    | some value =>
      refine alike_reply fun x y h => ?_
      rw [show x = y from h]
      exact Within.alike (P := fun _ => False) (by cases y <;> trivial) (by simp) (by simp)
  refine hquery.exceptT_lift.exceptT_bind fun query => ?_
  cases query with
  | error reply => exact discreet_deliver setup reply
  | ok query =>
    dsimp only
    split
    · exact discreet_jsonFollow setup query
    · refine Alike.exceptT_bind (Alike.exceptT_lift ?_) fun reply => discreet_deliver setup reply
      exact discreet_reply fun x y h => by rw [show x = y from h]

/-- The read-only commands with `--json`. -/
theorem discreet_jsonCommand (command : Command) (hraw : command.rawCommand = false) :
    DiscreetReply (Cli.run setup.hasStatus setup.dump command).run := by
  cases command with
  | process options => exact discreet_finish setup (discreet_processReply _ options hraw)
  | port number => exact discreet_finish setup (discreet_portReply number)
  | service unit =>
    refine discreet_finish setup ?_
    cases unit <;> exact discreet_reply fun x y h => by rw [show x = y from h]
  | inspect expression =>
    refine discreet_finish setup (discreet_reply fun x y h => reply_of (fun graph => ?_) h)
    simp only [JsonSerializer.inspect, redactedGraph, portValues_redacted, processValues_redacted]
  | find query =>
    refine discreet_finish setup (discreet_reply fun x y h => reply_of (fun found => ?_) h)
    simp only [JsonSerializer.find, redactedFound, portValues_redacted, processValues_redacted]
  | log options => exact discreet_jsonLog setup options

/-! ## §4 Every command line -/

/-- Documents of the other commands. -/
theorem discreet_delivered (reply : Reply) : Discreet (deliver setup reply).run :=
  Alike.exceptT_bind (p := ExceptT.mk (pure (setup.dump reply.document))) (.ret rfl) fun text =>
    Alike.exceptT_bind (discreet_remarks (write_remarks (text ++ [10]))).exceptT_lift fun _ => .ret rfl

/-- A call that is passed on to a service. -/
theorem alike_asked (c d : ServiceCall) (h : c = d) :
    Alike SameCall SameButSecrets (fun x y => SameReplies ⟨c, x⟩ ⟨d, y⟩) (ask c) (ask d) := by
  subst h
  exact .call rfl fun x y hxy => .ret
    (congrArg (Sigma.mk c) (sameButSecrets_answers (c := .services c) (fun _ => rfl) hxy))

theorem discreet_json (line : CommandLine) (hraw : line.rawCommand = false) :
    Discreet (json setup line).run := by
  cases line with
  | stopProcess pid => exact discreet_delivered setup _
  | killProcess pid yes => exact discreet_delivered setup _
  | freePort port yes => exact discreet_delivered setup _
  | control unit action yes => exact discreet_delivered setup _
  | tui => exact discreet_delivered setup _
  | doctor =>
    exact Alike.exceptT_bind (discreet_plain .doctor (fun _ => rfl) fun _ => .ret rfl) fun _ =>
      discreet_delivered setup _
  | status =>
    show Discreet (if setup.hasStatus then _ else _ : Throwing Int).run
    split
    · exact Alike.exceptT_bind (discreet_plain .status (fun _ => rfl) fun _ => .ret rfl) fun _ =>
        discreet_delivered setup _
    · exact discreet_delivered setup _
  | read command => exact (discreet_jsonCommand setup command hraw).interpret alike_asked

theorem discreet_authorize (yes : Bool) (prompt : Bytes) (defaultYes : Bool) :
    Discreet (authorize yes prompt defaultYes) := by
  cases yes with
  | true => exact .ret rfl
  | false =>
    exact discreet_after (discreet_remarks (write_remarks prompt)) fun _ =>
      discreet_plain .getline (fun _ => rfl) fun _ => .ret rfl

theorem discreet_killProcess (pid : Int) (yes : Bool) : Discreet (killProcess quiet pid yes) := by
  refine discreet_plain (.validateSignalTarget pid) (fun _ => rfl) fun valid => ?_
  cases valid with
  | error failure => exact discreet_tells (fail_tells failure)
  | ok valid =>
    refine (alike_ask (.inspectProcess pid)).bind fun x y h => ?_
    obtain ⟨failure, rfl, rfl⟩ | ⟨a, b, rfl, rfl, hab⟩ := result_cases h
    · exact discreet_tells (fail_tells failure)
    · -- the prompt shows the name of the process only
      have hname : a.value.name = b.value.name := by
        show (redactedProcess a.value).name = (redactedProcess b.value).name
        rw [(redactedValue_eq hab).1]
      dsimp only
      rw [hname]
      refine discreet_after (discreet_authorize yes _ false) fun agreed => ?_
      cases agreed with
      | false => exact discreet_remarks cancelled_remarks
      | true =>
        refine discreet_plain (.killProcess pid) (fun _ => rfl) fun result => discreet_tells ?_
        cases result with
        | error failure => exact fail_tells failure
        | ok delivery => exact tells_of_remarks (done_remarks _)

/-- Executing two plans that differ in secrets only. -/
theorem alike_freeByForce (port : Nat) {remaining remaining' : PortReleasePlan}
    (hplan : redactedPlan remaining = redactedPlan remaining') (yes : Bool) :
    AlikeButSecrets (freeByForce quiet port remaining yes) (freeByForce quiet port remaining' yes) := by
  refine (discreet_remarks (write_remarks _)).bind ?_
  rintro _ _ rfl
  refine (discreet_authorize yes _ false).bind ?_
  rintro agreed _ rfl
  cases agreed with
  | false => exact discreet_remarks cancelled_remarks
  | true =>
    -- the plans may differ in secrets, and so may the calls
    have hcall : SameCall (.force remaining) (.force remaining') := congrArg CliCall.force hplan
    refine Alike.bind (alike_call hcall) fun x y h => ?_
    have hxy : Except.map (redactedValue redactedRelease) x =
        Except.map (redactedValue redactedRelease) y := eq_of_heq (Sigma.mk.inj h).2
    obtain ⟨failure, rfl, rfl⟩ | ⟨a, b, rfl, rfl, hab⟩ := result_cases hxy
    · exact discreet_tells (fail_tells failure)
    · dsimp only
      rw [(redactedValue_eq hab).2]
      exact discreet_tells (tells_of_remarks (released_remarks _ _))

/-- The two plans recommend the same unit, and the stop is a call with either plan. -/
theorem alike_freeByService (port : Nat) {plan plan' : PortReleasePlan}
    (hplan : redactedPlan plan = redactedPlan plan') (unit : Bytes) (yes : Bool) :
    AlikeButSecrets (freeByService quiet port plan unit yes)
      (freeByService quiet port plan' unit yes) := by
  refine (discreet_authorize yes _ true).bind ?_
  rintro agreed _ rfl
  cases agreed with
  | false => exact discreet_remarks cancelled_remarks
  | true =>
    have hcall : SameCall (.stopManagedService plan) (.stopManagedService plan') :=
      congrArg CliCall.stopManagedService hplan
    refine Alike.bind (alike_call hcall) fun x y h => ?_
    have hxy : Except.map (redactedValue redactedRelease) x =
        Except.map (redactedValue redactedRelease) y := eq_of_heq (Sigma.mk.inj h).2
    obtain ⟨failure, rfl, rfl⟩ | ⟨a, b, rfl, rfl, hab⟩ := result_cases hxy
    · exact discreet_tells (fail_tells failure)
    · dsimp only
      rw [(redactedValue_eq hab).2]
      exact discreet_tells (tells_of_remarks (released_remarks _ _))

theorem alike_freeBySignals (port : Nat) {plan plan' : PortReleasePlan}
    (hplan : redactedPlan plan = redactedPlan plan') (yes : Bool) :
    AlikeButSecrets (freeBySignals quiet port plan yes) (freeBySignals quiet port plan' yes) := by
  refine (discreet_authorize yes _ true).bind ?_
  rintro agreed _ rfl
  cases agreed with
  | false => exact discreet_remarks cancelled_remarks
  | true =>
    have hcall : SameCall (.terminate plan) (.terminate plan') := congrArg CliCall.terminate hplan
    refine Alike.bind (alike_call hcall) fun x y h => ?_
    have hxy : Except.map (redactedValue redactedRelease) x =
        Except.map (redactedValue redactedRelease) y := eq_of_heq (Sigma.mk.inj h).2
    obtain ⟨failure, rfl, rfl⟩ | ⟨a, b, rfl, rfl, hab⟩ := result_cases hxy
    · exact discreet_tells (fail_tells failure)
    · obtain ⟨hvalue, hwarnings⟩ := redactedValue_eq hab
      -- whether the port is free is no secret, and what is left is redacted alike
      have hreleased : a.value.released = b.value.released :=
        (congrArg PortReleaseResult.released hvalue :)
      have hremaining : a.value.remaining.map redactedPlan = b.value.remaining.map redactedPlan :=
        (congrArg PortReleaseResult.remaining hvalue :)
      dsimp only [Bool.not_true]
      rw [hwarnings, hreleased]
      split
      · exact discreet_remarks (released_remarks _ _)
      · refine (discreet_remarks (printWarnings_remarks _)).bind ?_
        rintro _ _ rfl
        -- what is left is executed by force, on both machines or on none
        cases hleft : a.value.remaining with
        | none =>
          rw [hleft] at hremaining
          rw [Option.map_eq_none_iff.mp hremaining.symm]
          exact .block
        | some remaining =>
          rw [hleft] at hremaining
          obtain ⟨remaining', hleft', hsame⟩ := Option.map_eq_some_iff.mp hremaining.symm
          rw [hleft']
          exact alike_freeByForce port hsame.symm yes

/-- Both plans are printed alike, and lead to the same questions. -/
theorem discreet_freePort (port : Nat) (yes : Bool) : Discreet (freePort quiet port yes) := by
  have hcall : SameCall (.prepareRelease port) (.prepareRelease port) := rfl
  refine Alike.bind (alike_call hcall) fun x y h => ?_
  have hxy : Except.map (redactedValue redactedPlan) x = Except.map (redactedValue redactedPlan) y :=
    eq_of_heq (Sigma.mk.inj h).2
  obtain ⟨failure, rfl, rfl⟩ | ⟨a, b, rfl, rfl, hab⟩ := result_cases hxy
  · exact discreet_tells (fail_tells failure)
  · obtain ⟨hplan, -⟩ := redactedValue_eq hab
    -- the recommended unit decides the branch
    have hunit : a.value.recommendedUnit = b.value.recommendedUnit :=
      (congrArg PortReleasePlan.recommendedUnit hplan :)
    dsimp only
    rw [eq_of_redacted printReleasePlan_redacted hplan]
    refine (discreet_remarks (write_remarks _)).bind ?_
    rintro _ _ rfl
    rw [hunit]
    cases b.value.recommendedUnit with
    | some unit => exact alike_freeByService port hplan unit yes
    | none => exact alike_freeBySignals port hplan yes

theorem discreet_control (unit : Bytes) (action : ServiceAction) (yes : Bool) :
    Discreet (control quiet unit action yes) := by
  refine discreet_after (discreet_authorize _ _ false) fun agreed => ?_
  cases agreed with
  | false => exact discreet_remarks cancelled_remarks
  | true =>
    refine discreet_plain (.control action unit) (fun _ => rfl) fun result => discreet_tells ?_
    cases result with
    | error failure => exact fail_tells failure
    | ok submitted => exact tells_of_remarks (done_remarks _)

/-- Every command line without `--json`. -/
theorem discreet_human (line : CommandLine) (hraw : line.rawCommand = false) :
    Discreet (human setup quiet line) := by
  cases line with
  | tui =>
    show Discreet (if setup.hasTui then _ else _)
    split
    · refine discreet_plain .tui (fun _ => rfl) fun result => discreet_tells ?_
      cases result with
      | error failure => exact fail_tells failure
      | ok finished => trivial
    · exact discreet_tells (fail_tells _)
  | doctor =>
    exact discreet_plain .doctor (fun _ => rfl) fun report =>
      discreet_remarks ((write_remarks (printDoctorReport setup.fmt report)).bind fun _ => within_ret)
  | status =>
    show Discreet (if setup.hasStatus then _ else _)
    split
    · refine discreet_plain .status (fun _ => rfl) fun result => discreet_tells ?_
      cases result with
      | error failure => exact fail_tells failure
      | ok status =>
        exact tells_of_remarks ((write_remarks (printStatus setup.fmt status)).bind fun _ => within_ret)
    · exact discreet_tells (fail_tells _)
  | read command => exact discreet_readCommand setup command hraw
  | stopProcess pid =>
    refine discreet_plain (.stopProcess pid) (fun _ => rfl) fun result => discreet_tells ?_
    cases result with
    | error failure => exact fail_tells failure
    | ok delivery => exact tells_of_remarks (done_remarks _)
  | killProcess pid yes => exact discreet_killProcess pid yes
  | control unit action yes => exact discreet_control unit action yes
  | freePort port yes => exact discreet_freePort port yes

/-- A machine whose answers differ in secrets only is called in the same way, with the same output
to both streams among the calls, and the command ends with the same exit code. The calls that
execute a release plan hand on what the machine answered, and so differ in secrets only. -/
theorem secrets_do_not_show {jsonOutput quietOutput : Bool} {line : CommandLine} {t : Trace CliCalls}
    {code : Except TypeError Int} (hraw : line.rawCommand = false)
    (hrun : (run setup jsonOutput quietOutput line).Run t code)
    (answer : List CliCall → (c : CliCall) → c.Answer)
    (hsame : AnswersLike SameCall SameButSecrets answer t) :
    ∃ u, (run setup jsonOutput quietOutput line).Run u code ∧
      List.Forall₂ SameCall (t.map Sigma.fst) (u.map Sigma.fst) ∧ Answered answer u := by
  have hdiscreet : Discreet (run setup jsonOutput quietOutput line) := by
    cases jsonOutput with
    | true => exact discreet_json setup line hraw
    | false => exact discreet_after (discreet_human setup line hraw) fun _ => .ret rfl
  obtain ⟨u, code', hu, rfl, hcalls, hanswered⟩ := hdiscreet.run hrun answer hsame
  exact ⟨u, hu, hcalls, hanswered⟩

end Commands

section Example

def exampleProcess (secret : Bytes) : ProcessInfo :=
  { pid := 7, name := "agent", argv := ["agent", "--token", secret] }

/-- The plan of a port that the process holds. -/
def examplePlan (secret : Bytes) : PortReleasePlan where
  localPort := 80
  ports := [{ socket := { localEnd := ⟨[], 80⟩, inode := 5 }, owners := [exampleProcess secret] }]
  ownerPids := [7]
  recommendedUnit := none

/-- A machine that has one process, and whose other services are down. -/
def exampleMachine (secret : Bytes) : (c : CliCall) → c.Answer
  | .services (.inspectProcess _) => .ok ⟨exampleProcess secret, []⟩
  | .prepareRelease _ => .ok ⟨examplePlan secret, []⟩
  | .terminate _ => .ok ⟨{ released := true }, []⟩
  | .services (.listProcesses _) | .services .measure | .services (.inspectPorts _)
  | .services .listServices | .services (.inspectService _) | .services (.inspectResource _)
  | .services (.find _) | .services (.parseSince _) | .services (.readLog _) | .status | .tui
  | .stopProcess _ | .validateSignalTarget _ | .killProcess _ | .control _ _
  | .stopManagedService _ | .force _ => .error ⟨.unavailable, [], 0, [], []⟩
  | .services .installInterrupt => none
  | .services (.followLog _) => ⟨[], .ok ()⟩
  | .services (.write _) | .writeError _ => ()
  | .doctor => ⟨[]⟩
  | .getline => none

theorem exampleProcess_redacted :
    redactedProcess (exampleProcess "one") = redactedProcess (exampleProcess "two") := by
  have hargv : redact false (exampleProcess "one").argv = redact false (exampleProcess "two").argv := by
    decide
  simp only [redactedProcess, hargv]
  rfl

/-- Two such machines differ in the token only. -/
theorem exampleMachine_like {c d : CliCall} (h : SameCall c d) :
    SameButSecrets ⟨c, exampleMachine "one" c⟩ ⟨d, exampleMachine "two" d⟩ := by
  -- the calls are equal, or one of the three that execute a plan
  rcases sameCall_cases h with rfl | ⟨plan, plan', hplan, ⟨rfl, rfl⟩ | ⟨rfl, rfl⟩ | ⟨rfl, rfl⟩⟩
  · cases d with
    | services c =>
      cases c with
      | inspectProcess pid =>
        have hevent := congrArg (fun process =>
          (⟨.services (.inspectProcess pid), .ok ⟨process, []⟩⟩ : Event CliCalls))
          exampleProcess_redacted
        exact hevent
      | _ => simp only [SameButSecrets, exampleMachine]
    | prepareRelease port =>
      have hevent := congrArg (fun process => (⟨.prepareRelease port, .ok ⟨{ examplePlan [] with
        ports := [{ socket := { localEnd := ⟨[], 80⟩, inode := 5 }, owners := [process] }] }, []⟩⟩ :
          Event CliCalls)) exampleProcess_redacted
      exact hevent
    | _ => simp only [SameButSecrets, exampleMachine]
  · have hevent := congrArg (fun plan =>
      (⟨.stopManagedService plan, .error ⟨.unavailable, [], 0, [], []⟩⟩ : Event CliCalls)) hplan
    exact hevent
  · have hevent := congrArg (fun plan =>
      (⟨.terminate plan, .ok ⟨{ released := true }, []⟩⟩ : Event CliCalls)) hplan
    exact hevent
  · have hevent := congrArg (fun plan =>
      (⟨.force plan, .error ⟨.unavailable, [], 0, [], []⟩⟩ : Event CliCalls)) hplan
    exact hevent

/-- The port is freed, and the process shown, without its token. -/
theorem secrets_do_not_show_token :
    (∃ u, (run exampleSetup false false (.freePort 80 true)).Run u (.ok 0) ∧
      List.Forall₂ SameCall [.prepareRelease 80,
        .services (.write (printReleasePlan (examplePlan "one"))), .terminate (examplePlan "one"),
        .services (.write (Bytes.ofString "Port 80 released with SIGTERM.\n"))] (u.map Sigma.fst) ∧
      Answered (fun _ => exampleMachine "two") u) ∧
    ∃ u, (run exampleSetup false false (.read (.process { pid := some 7 }))).Run u (.ok 0) ∧
      List.Forall₂ SameCall [.services (.inspectProcess 7),
        .services (.write (processPage exampleSetup.fmt (exampleProcess "one") false))]
        (u.map Sigma.fst) ∧
      Answered (fun _ => exampleMachine "two") u := by
  constructor
  · have hrun : (run exampleSetup false false (.freePort 80 true)).Run
        [⟨.prepareRelease 80, .ok ⟨examplePlan "one", []⟩⟩,
          ⟨.services (.write (printReleasePlan (examplePlan "one"))), ()⟩,
          ⟨.terminate (examplePlan "one"), .ok ⟨{ released := true }, []⟩⟩,
          ⟨.services (.write (Bytes.ofString "Port 80 released with SIGTERM.\n")), ()⟩] (.ok 0) :=
      ⟨_, _, rfl, _, _, rfl, _, _, rfl, _, _, rfl, rfl, rfl⟩
    refine secrets_do_not_show exampleSetup rfl hrun (fun _ => exampleMachine "two") ?_
    refine guarded_cons.mpr ⟨fun past' d _ hd => exampleMachine_like hd, guarded_cons.mpr ⟨?_, ?_⟩⟩
    · exact fun past' d _ hd => exampleMachine_like hd
    refine guarded_cons.mpr ⟨fun past' d _ hd => exampleMachine_like hd, guarded_cons.mpr ⟨?_, ?_⟩⟩
    · exact fun past' d _ hd => exampleMachine_like hd
    · exact guarded_nil
  · have hrun : (run exampleSetup false false (.read (.process { pid := some 7 }))).Run
        [⟨.services (.inspectProcess 7), .ok ⟨exampleProcess "one", []⟩⟩,
          ⟨.services (.write (processPage exampleSetup.fmt (exampleProcess "one") false)), ()⟩]
        (.ok 0) :=
      ⟨_, _, rfl, (), _, rfl, rfl, rfl⟩
    refine secrets_do_not_show exampleSetup rfl hrun (fun _ => exampleMachine "two") ?_
    refine guarded_cons.mpr ⟨fun past' d _ hd => exampleMachine_like hd, guarded_cons.mpr ⟨?_, ?_⟩⟩
    · exact fun past' d _ hd => exampleMachine_like hd
    · exact guarded_nil

end Example

end Lx.CliApp
