import Lx.Cli.JsonCommands

/-!
# What JSON mode writes

`docs/json-schema-v1.md` promises one schema-1 document for every finite command and one
per entry for `log --follow`, with the documented exit codes. The texts in the documents
come from the kernel, the journal and the command line as raw bytes, and `dump()` is
strict: this module proves that the promise is kept exactly when every text the services
hand to the serializer is UTF-8 (`json_documents_iff`), and that a process name cut in
the middle of a character breaks it.
-/

namespace Lx.Cli

open Interaction

/-! ## §1 The promise -/

/-- The exit codes of the design document. -/
def documentedExitCodes : List Int := [0, 2, 3, 4, 5, 6, 7, 8, 130]

theorem exitCode_documented (code : ErrorCode) : exitCode code ∈ documentedExitCodes := by
  cases code <;> decide

/-- A complete envelope of schema version 1: either data and warnings, or an error. -/
def IsEnvelope (command : Bytes) (document : Json) : Prop :=
  ∃ operation : Bytes,
    (∃ (data : List (Bytes × Json)) (warnings : List Json), document = .object
      [(Bytes.ofString "schema_version", .number 1), (Bytes.ofString "command", .string command),
        (Bytes.ofString "operation", .string operation), (Bytes.ofString "data", .object data),
        (Bytes.ofString "warnings", .array warnings)]) ∨
    (∃ (code message : Bytes) (systemError : Int) (component inner : Bytes), document = .object
      [(Bytes.ofString "schema_version", .number 1), (Bytes.ofString "command", .string command),
        (Bytes.ofString "operation", .string operation),
        (Bytes.ofString "error", .object
          [(Bytes.ofString "code", .string code), (Bytes.ofString "message", .string message),
            (Bytes.ofString "system_error", .number systemError),
            (Bytes.ofString "component", .string component),
            (Bytes.ofString "operation", .string inner)])])

theorem isEnvelope_envelope (command operation : Bytes) (data : List (Bytes × Json))
    (warnings : List Warning) :
    IsEnvelope command (JsonSerializer.envelope command operation data warnings) :=
  ⟨operation, .inl ⟨data, _, rfl⟩⟩

theorem isEnvelope_error (command operation : Bytes) (failure : Error) :
    IsEnvelope command (JsonSerializer.error command operation failure) :=
  ⟨operation, .inr ⟨_, _, _, _, _, rfl⟩⟩

/-- The texts written to standard output. -/
def written (t : Trace Services) : List Bytes :=
  t.filterMap fun
    | ⟨.write text, _⟩ => some text
    | _ => none

@[simp] theorem written_append (t u : Trace Services) :
    written (t ++ u) = written t ++ written u := List.filterMap_append

/-- What a follow did, if there was one. -/
def followed? (t : Trace Services) : Option Followed :=
  t.findSome? fun
    | ⟨.followLog _, followed⟩ => some followed
    | _ => none

@[simp] theorem followed?_append (t u : Trace Services) :
    followed? (t ++ u) = (followed? t).or (followed? u) := List.findSome?_append

/-- A follow that ended for another reason than the user's interrupt. -/
def Followed.failure? (followed : Followed) : Option Error :=
  match followed.result with
  | .ok () => none
  | .error error => if error.code = .interrupted then none else some error

/-- How many documents are promised: one, or one for every followed entry and one for the
    error a follow ended with. -/
def documentCount (t : Trace Services) : Nat :=
  match followed? t with
  | none => 1
  | some followed => followed.entries.length + followed.failure?.toList.length

/-- A line of output that holds a document. -/
def Line (dump : Json → Except TypeError Bytes) (document : Json) (line : Bytes) : Prop :=
  ∃ text, dump document = .ok text ∧ line = text ++ [10]

/-- **The promise**: the command returns a documented exit code, and what it wrote are as
    many complete envelopes as are due, each on a line of its own. -/
structure Delivers (dump : Json → Except TypeError Bytes) (command : Bytes) (t : Trace Services)
    (outcome : Except TypeError Int) : Prop where
  exit : ∃ code, outcome = .ok code ∧ code ∈ documentedExitCodes
  documents : ∃ documents : List Json, documents.length = documentCount t ∧
    (∀ document ∈ documents, IsEnvelope command document) ∧
    List.Forall₂ (Line dump) documents (written t)

/-! ## §2 The texts the services hand over -/

open JsonSerializer

/-- The texts of an error, or those of the value. -/
def resultTexts {α : Type} (texts : α → List Bytes) : Result α → List Bytes
  | .ok value => texts value
  | .error error => errorTexts error

def Followed.texts (followed : Followed) : List Bytes :=
  followed.entries.flatMap (observationTexts journalTexts) ++
    followed.failure?.toList.flatMap errorTexts

/-- The texts of an answer that end up in a document. A lookup of one port that finds no
    socket is reported with a message of its own. -/
def shownTexts (rawCommand : Bool) : Event Services → List Bytes
  | ⟨.listProcesses _, answer⟩ =>
    resultTexts (observationTexts (·.flatMap (processTexts false))) answer
  | ⟨.inspectProcess _, answer⟩ => resultTexts (observationTexts (processTexts rawCommand)) answer
  | ⟨.measure, _⟩ => []
  | ⟨.inspectPorts query, answer⟩ =>
    resultTexts (fun observed =>
      if query.localPort.isSome ∧ observed.value = [] then []
      else observationTexts (·.flatMap portTexts) observed) answer
  | ⟨.listServices, answer⟩ => resultTexts (observationTexts (·.flatMap serviceTexts)) answer
  | ⟨.inspectService _, answer⟩ => resultTexts (observationTexts serviceTexts) answer
  | ⟨.inspectResource _, answer⟩ => resultTexts graphTexts answer
  | ⟨.find _, answer⟩ => resultTexts findTexts answer
  | ⟨.parseSince _, answer⟩ => resultTexts (fun _ => []) answer
  | ⟨.readLog _, answer⟩ => resultTexts (observationTexts (·.flatMap journalTexts)) answer
  | ⟨.installInterrupt, answer⟩ =>
    match answer with
    | some failure => [failure.text]
    | none => []
  | ⟨.followLog _, followed⟩ => followed.texts
  | ⟨.write _, _⟩ => []

/-- Everything the services handed to the serializer is UTF-8. -/
def ShownUtf8 (rawCommand : Bool) (t : Trace Services) : Prop :=
  AllUtf8 (t.flatMap (shownTexts rawCommand))

instance (rawCommand : Bool) (t : Trace Services) : Decidable (ShownUtf8 rawCommand t) :=
  inferInstanceAs (Decidable (AllUtf8 _))

@[simp] theorem shownUtf8_append {rawCommand : Bool} {t u : Trace Services} :
    ShownUtf8 rawCommand (t ++ u) ↔ ShownUtf8 rawCommand t ∧ ShownUtf8 rawCommand u := by
  simp [ShownUtf8]

/-! ## §3 The finite branches -/

/-- The answer of a service, as opposed to a write or a follow. -/
def isQuiet : Event Services → Bool
  | ⟨.write _, _⟩ => false
  | ⟨.followLog _, _⟩ => false
  | _ => true

/-- Nothing was written and nothing was followed. -/
def Quiet (t : Trace Services) : Prop := ∀ event ∈ t, isQuiet event = true

@[simp] theorem quiet_nil : Quiet [] := by simp [Quiet]

@[simp] theorem quiet_cons {event : Event Services} {t : Trace Services} :
    Quiet (event :: t) ↔ isQuiet event = true ∧ Quiet t := by simp [Quiet]

@[simp] theorem quiet_append {t u : Trace Services} : Quiet (t ++ u) ↔ Quiet t ∧ Quiet u := by
  simp [Quiet, or_imp, forall_and]

theorem Quiet.written {t : Trace Services} (h : Quiet t) : written t = [] := by
  rw [Cli.written, List.filterMap_eq_nil_iff]
  intro event hmem
  have hquiet := h event hmem
  obtain ⟨call, answer⟩ := event
  cases call <;> first | rfl | cases hquiet

theorem Quiet.followed? {t : Trace Services} (h : Quiet t) : followed? t = none := by
  rw [Cli.followed?, List.findSome?_eq_none_iff]
  intro event hmem
  have hquiet := h event hmem
  obtain ⟨call, answer⟩ := event
  cases call <;> first | rfl | cases hquiet

/-- A run of a branch up to its reply: only services were asked, the reply is an envelope
    with a documented code, and its texts are those of the services' answers. -/
structure Answers (command : Bytes) (rawCommand : Bool) (t : Trace Services) (reply : Reply) :
    Prop where
  quiet : Quiet t
  envelope : IsEnvelope command reply.document
  code : reply.code ∈ documentedExitCodes
  valid : reply.document.Valid ↔ ShownUtf8 rawCommand t

section

variable {command operation : Bytes} {rawCommand : Bool} {t : Trace Services}

theorem answers_failure {error : Error} (hquiet : Quiet t) (hcommand : ValidUtf8 command)
    (hoperation : ValidUtf8 operation)
    (hshown : AllUtf8 (errorTexts error) ↔ ShownUtf8 rawCommand t) :
    Answers command rawCommand t (.failure command operation error) where
  quiet := hquiet
  envelope := isEnvelope_error command operation error
  code := exitCode_documented error.code
  valid := (valid_error hcommand hoperation).trans hshown

theorem answers_success {document : Json} (hquiet : Quiet t) (henvelope : IsEnvelope command document)
    (hshown : document.Valid ↔ ShownUtf8 rawCommand t) :
    Answers command rawCommand t (.success document) where
  quiet := hquiet
  envelope := henvelope
  code := by simp [Reply.success, documentedExitCodes]
  valid := hshown

/-- The texts of a trace with one answer in it. -/
theorem shownUtf8_singleton {event : Event Services} :
    ShownUtf8 rawCommand [event] ↔ AllUtf8 (shownTexts rawCommand event) := by
  simp [ShownUtf8]

theorem ask_bind_run {α : Type} {c : ServiceCall} {k : ServiceCall.Answer c → Prog Services α}
    {a : α} (h : (ask c >>= k).Run t a) : ∃ x u, t = ⟨c, x⟩ :: u ∧ (k x).Run u a := by
  obtain ⟨x, _, u, hx, hk, rfl⟩ := Prog.run_bind_iff.mp h
  obtain rfl := Prog.run_perform.mp hx
  exact ⟨x, u, rfl, hk⟩

/-- The common end of the branches. -/
theorem answers_of {α : Type} {result : Result α} {texts : α → List Bytes} {document : α → Json}
    (hquiet : Quiet t) (hshown : AllUtf8 (resultTexts texts result) ↔ ShownUtf8 rawCommand t)
    (hcommand : ValidUtf8 command) (hoperation : ValidUtf8 operation)
    (henvelope : ∀ value, IsEnvelope command (document value))
    (hvalid : ∀ value, (document value).Valid ↔ AllUtf8 (texts value)) :
    Answers command rawCommand t (.of command operation document result) := by
  cases result with
  | error error => exact answers_failure hquiet hcommand hoperation hshown
  | ok value => exact answers_success hquiet (henvelope value) ((hvalid value).trans hshown)

/-- A branch that asks one service. -/
theorem answers_ask {α : Type} {event : Event Services} {result : Result α}
    {texts : α → List Bytes} {document : α → Json} (hevent : isQuiet event = true)
    (hshown : shownTexts rawCommand event = resultTexts texts result)
    (hcommand : ValidUtf8 command) (hoperation : ValidUtf8 operation)
    (henvelope : ∀ value, IsEnvelope command (document value))
    (hvalid : ∀ value, (document value).Valid ↔ AllUtf8 (texts value)) :
    Answers command rawCommand [event] (.of command operation document result) := by
  refine answers_of (by simpa using hevent) ?_ hcommand hoperation henvelope hvalid
  rw [shownUtf8_singleton, hshown]

/-- The measurement shows no text. -/
theorem measured_run (rawCommand : Bool) {hasStatus : Bool} {metrics : Option MetricsView}
    (h : (measured hasStatus).Run t metrics) : Quiet t ∧ ShownUtf8 rawCommand t := by
  unfold measured at h
  cases hasStatus with
  | false =>
    obtain ⟨rfl, -⟩ := h
    simp [ShownUtf8]
  | true =>
    obtain ⟨answer, u, rfl, rfl, -⟩ := ask_bind_run h
    simp [isQuiet, ShownUtf8, shownTexts]

/-- Attaching CPU usage changes no text. -/
theorem withCpu_run {α : Type} (rawCommand : Bool) {hasStatus : Bool} {attach : MetricsView → α → α}
    {texts : α → List Bytes} {answer r : Result (Observation α)}
    (hattach : ∀ metrics value, texts (attach metrics value) = texts value)
    (h : (withCpu hasStatus attach answer).Run t r) :
    Quiet t ∧ ShownUtf8 rawCommand t ∧
      resultTexts (observationTexts texts) r = resultTexts (observationTexts texts) answer := by
  cases answer with
  | error error =>
    obtain ⟨rfl, rfl⟩ := h
    simp [ShownUtf8]
  | ok observed =>
    obtain ⟨metrics, u₁, u₂, hm, hr, rfl⟩ := Prog.run_bind_iff.mp h
    obtain ⟨hquiet, hshown⟩ := measured_run rawCommand hm
    cases metrics with
    | none =>
      obtain ⟨rfl, rfl⟩ := hr
      simp [hquiet, hshown]
    | some metrics =>
      obtain ⟨rfl, rfl⟩ := hr
      simp [hquiet, hshown, resultTexts, observationTexts, hattach]

/-- CPU usage is a number: it adds no text. -/
theorem processTexts_attachCpu (metrics : MetricsView) (process : ProcessInfo) :
    processTexts rawCommand (attachCpu metrics process) = processTexts rawCommand process := by
  unfold attachCpu
  split <;> rfl

/-- A reply that asks nothing: an error with fixed texts. -/
theorem answers_fixed {error : Error} (hcommand : ValidUtf8 command)
    (hoperation : ValidUtf8 operation) (herror : AllUtf8 (errorTexts error)) :
    Answers command rawCommand [] (.failure command operation error) :=
  answers_failure quiet_nil hcommand hoperation (by simpa [ShownUtf8] using herror)

/-- A branch that asks for processes and measures them. -/
theorem answers_measured {α : Type} {hasStatus : Bool} {event : Event Services}
    {answer r : Result (Observation α)} {attach : MetricsView → α → α} {texts : α → List Bytes}
    {document : Observation α → Json} (hevent : isQuiet event = true)
    (hshown : shownTexts rawCommand event = resultTexts (observationTexts texts) answer)
    (hattach : ∀ metrics value, texts (attach metrics value) = texts value)
    (hcommand : ValidUtf8 command) (hoperation : ValidUtf8 operation)
    (henvelope : ∀ value, IsEnvelope command (document value))
    (hvalid : ∀ value, (document value).Valid ↔ AllUtf8 (observationTexts texts value))
    (h : (withCpu hasStatus attach answer).Run t r) :
    Answers command rawCommand (event :: t) (.of command operation document r) := by
  obtain ⟨hquiet, hmeasured, htexts⟩ := withCpu_run rawCommand hattach h
  refine answers_of (quiet_cons.mpr ⟨hevent, hquiet⟩) ?_ hcommand hoperation henvelope hvalid
  -- the texts are those of the answer, with or without CPU usage
  rw [htexts, ← hshown, ← List.singleton_append, shownUtf8_append, shownUtf8_singleton]
  simp [hmeasured]

theorem processReply_answers {hasStatus : Bool} {options : ProcessOptions} {reply : Reply}
    (h : (processReply hasStatus options).Run t reply) :
    Answers (Bytes.ofString "process") options.rawCommand t reply := by
  unfold processReply at h
  split at h
  · -- a PID was given
    split at h
    · obtain ⟨rfl, rfl⟩ := h
      exact answers_fixed (by decide) (by decide) (by decide)
    · obtain ⟨observed, u, v, hobserved, ⟨rfl, rfl⟩, rfl⟩ := Prog.run_bind_iff.mp h
      obtain ⟨answer, u, rfl, hcpu⟩ := ask_bind_run hobserved
      rw [List.append_nil]
      exact answers_measured rfl rfl processTexts_attachCpu (by decide) (by decide)
        (fun _ => isEnvelope_envelope _ _ _ _) (fun _ => valid_process) hcpu
  · -- without a PID the processes are listed, always redacted
    split at h
    · obtain ⟨rfl, rfl⟩ := h
      exact answers_fixed (by decide) (by decide) (by decide)
    · obtain ⟨observed, u, v, hobserved, ⟨rfl, rfl⟩, rfl⟩ := Prog.run_bind_iff.mp h
      obtain ⟨answer, u, rfl, hcpu⟩ := ask_bind_run hobserved
      have hattach : ∀ (metrics : MetricsView) (processes : List ProcessInfo),
          (processes.map (attachCpu metrics)).flatMap (processTexts false) =
            processes.flatMap (processTexts false) := by
        intro metrics processes
        simp [List.flatMap_map, processTexts_attachCpu]
      rw [List.append_nil]
      exact answers_measured rfl rfl hattach (by decide) (by decide)
        (fun _ => isEnvelope_envelope _ _ _ _) (fun _ => valid_processes) hcpu

theorem portReply_answers {number : Option Nat} {reply : Reply}
    (h : (portReply number).Run t reply) : Answers (Bytes.ofString "port") false t reply := by
  obtain ⟨answer, u, rfl, rfl, rfl⟩ := ask_bind_run h
  have hoperation : ValidUtf8 (portOperation number) := by
    unfold portOperation
    split <;> decide
  cases answer with
  | error error =>
    refine answers_failure (by simp [isQuiet]) (by decide) hoperation ?_
    rw [shownUtf8_singleton]
    rfl
  | ok observed =>
    -- the message of an empty lookup is the command's own
    simp only [portsReply]
    split_ifs with hnothing
    · -- one port was asked for and nothing holds it
      refine answers_failure (by simp [isQuiet]) (by decide) (by decide) ?_
      have hmessage : ValidUtf8 (Bytes.ofString "No socket found for port " ++
          Bytes.ofNat (number.getD 0)) :=
        (validUtf8_append_left (ascii_ofString (by decide))).mpr
          (validUtf8_of_ascii (ascii_ofNat _))
      have hrest : AllUtf8 [Bytes.ofString "cli", Bytes.ofString "inspect"] := by decide
      rw [shownUtf8_singleton]
      simpa [errorTexts, shownTexts, resultTexts, hmessage, hnothing] using hrest
    · refine answers_success (by simp [isQuiet]) (isEnvelope_envelope _ _ _ _) ?_
      rw [valid_ports hoperation, shownUtf8_singleton]
      simp [shownTexts, resultTexts, hnothing]

theorem serviceReply_answers {unit : Option Bytes} {reply : Reply}
    (h : (serviceReply unit).Run t reply) : Answers (Bytes.ofString "service") false t reply := by
  cases unit with
  | none =>
    obtain ⟨answer, u, rfl, rfl, rfl⟩ := ask_bind_run h
    exact answers_ask rfl rfl (by decide) (by decide)
      (fun _ => isEnvelope_envelope _ _ _ _) (fun _ => valid_services)
  | some unit =>
    obtain ⟨answer, u, rfl, rfl, rfl⟩ := ask_bind_run h
    exact answers_ask rfl rfl (by decide) (by decide)
      (fun _ => isEnvelope_envelope _ _ _ _) (fun _ => valid_service)

theorem inspectReply_answers {expression : Bytes} {reply : Reply}
    (h : (inspectReply expression).Run t reply) :
    Answers (Bytes.ofString "inspect") false t reply := by
  obtain ⟨answer, u, rfl, rfl, rfl⟩ := ask_bind_run h
  exact answers_ask rfl rfl (by decide) (by decide)
    (fun _ => isEnvelope_envelope _ _ _ _) (fun _ => valid_inspect)

theorem findReply_answers {query : Bytes} {reply : Reply} (h : (findReply query).Run t reply) :
    Answers (Bytes.ofString "find") false t reply := by
  obtain ⟨answer, u, rfl, rfl, rfl⟩ := ask_bind_run h
  exact answers_ask rfl rfl (by decide) (by decide)
    (fun _ => isEnvelope_envelope _ _ _ _) (fun _ => valid_find)

theorem readLogReply_answers {query : LogQuery} {reply : Reply}
    (h : (readLogReply query).Run t reply) : Answers (Bytes.ofString "log") false t reply := by
  obtain ⟨answer, u, rfl, rfl, rfl⟩ := ask_bind_run h
  exact answers_ask rfl rfl (by decide) (by decide)
    (fun _ => isEnvelope_envelope _ _ _ _) (fun _ => valid_logs)

end

/-! ## §4 Printing -/

def isWrite : Event Services → Bool
  | ⟨.write _, _⟩ => true
  | _ => false

/-- Only writes, which show no text of their own and follow nothing. -/
def OnlyWrites (t : Trace Services) : Prop := ∀ event ∈ t, isWrite event = true

theorem OnlyWrites.followed? {t : Trace Services} (h : OnlyWrites t) : followed? t = none := by
  rw [Cli.followed?, List.findSome?_eq_none_iff]
  intro event hmem
  have hwrite := h event hmem
  obtain ⟨call, answer⟩ := event
  cases call <;> first | rfl | cases hwrite

theorem OnlyWrites.shown {rawCommand : Bool} {t : Trace Services} (h : OnlyWrites t) :
    ShownUtf8 rawCommand t := by
  apply allUtf8_flatMap.mpr
  intro event hmem
  have hwrite := h event hmem
  obtain ⟨call, answer⟩ := event
  cases call <;> first | exact allUtf8_nil | cases hwrite

/-- The trace writes exactly these documents, one line each. -/
structure Printed (dump : Json → Except TypeError Bytes) (documents : List Json)
    (t : Trace Services) : Prop where
  lines : List.Forall₂ (Line dump) documents (written t)
  only : OnlyWrites t
  valid : ∀ document ∈ documents, document.Valid

section

variable {dump : Json → Except TypeError Bytes} {t u : Trace Services} {rawCommand : Bool}
  {command : Bytes}

theorem printed_nil : Printed dump [] [] := ⟨.nil, by simp [OnlyWrites], by simp⟩

theorem Printed.append {ds es : List Json} (ht : Printed dump ds t) (hu : Printed dump es u) :
    Printed dump (ds ++ es) (t ++ u) where
  lines := by
    rw [written_append]
    exact List.rel_append ht.lines hu.lines
  only := by
    intro event hmem
    rcases List.mem_append.mp hmem with h | h
    · exact ht.only event h
    · exact hu.only event h
  valid := by
    intro document hmem
    rcases List.mem_append.mp hmem with h | h
    · exact ht.valid document h
    · exact hu.valid document h

/-- One document is printed, or it has a text that is not UTF-8 and the exception leaves. -/
theorem print_run (hdump : Strict dump) {document : Json} {r : Except TypeError Unit}
    (h : (print dump document).run.Run t r) :
    (r = .ok () ∧ Printed dump [document] t) ∨
      ((∃ error, r = .error error) ∧ ¬ document.Valid ∧ t = []) := by
  rcases Prog.run_exceptT_bind_iff.mp h with ⟨error, ⟨rfl, herror⟩, rfl⟩ |
    ⟨text, _, v, ⟨rfl, htext⟩, hwrite, rfl⟩
  · -- the exception is thrown before anything is written
    refine .inr ⟨⟨error, rfl⟩, fun hvalid => ?_, rfl⟩
    obtain ⟨text, htext⟩ := hdump.ok hvalid
    rw [htext] at herror
    cases herror
  · obtain ⟨answer, hanswer, rfl⟩ := Prog.run_exceptT_lift_iff.mp hwrite
    obtain rfl := Prog.run_perform.mp hanswer
    refine .inl ⟨rfl, ?_, by simp [OnlyWrites, isWrite], ?_⟩
    · exact .cons ⟨text, htext.symm, rfl⟩ .nil
    · simpa using (hdump document).mp ⟨text, htext.symm⟩

theorem deliver_run (hdump : Strict dump) {reply : Reply} {outcome : Except TypeError Int}
    (h : (deliver dump reply).run.Run t outcome) :
    (outcome = .ok reply.code ∧ Printed dump [reply.document] t) ∨
      ((∃ error, outcome = .error error) ∧ ¬ reply.document.Valid ∧ t = []) := by
  rcases Prog.run_exceptT_bind_iff.mp h with ⟨error, hprint, rfl⟩ |
    ⟨_, v, _, hprint, ⟨rfl, rfl⟩, rfl⟩
  · rcases print_run hdump hprint with ⟨hcontra, -⟩ | ⟨-, hinvalid, rfl⟩
    · cases hcontra
    · exact .inr ⟨⟨error, rfl⟩, hinvalid, rfl⟩
  · rcases print_run hdump hprint with ⟨-, hprinted⟩ | ⟨⟨_, hcontra⟩, -⟩
    · exact .inl ⟨rfl, by simpa using hprinted⟩
    · cases hcontra

/-- The sink prints every entry, or stops at one it cannot print. -/
theorem sink_run (hdump : Strict dump) {entries : List (Observation JournalEntry)}
    {r : Except TypeError Unit} (h : (sink dump entries).run.Run t r) :
    (r = .ok () ∧ Printed dump (entries.map logEvent) t) ∨
      ((∃ error, r = .error error) ∧ (∃ entry ∈ entries, ¬ (logEvent entry).Valid)) := by
  induction entries generalizing t with
  | nil =>
    obtain ⟨rfl, rfl⟩ := h
    exact .inl ⟨rfl, printed_nil⟩
  | cons entry rest ih =>
    rcases Prog.run_exceptT_bind_iff.mp h with ⟨error, hprint, rfl⟩ |
      ⟨_, v, w, hprint, hrest, rfl⟩
    · rcases print_run hdump hprint with ⟨hcontra, -⟩ | ⟨-, hinvalid, -⟩
      · cases hcontra
      · exact .inr ⟨⟨error, rfl⟩, entry, by simp, hinvalid⟩
    · rcases print_run hdump hprint with ⟨-, hprinted⟩ | ⟨⟨_, hcontra⟩, -⟩
      · rcases ih hrest with ⟨rfl, hothers⟩ | ⟨herror, other, hmem, hinvalid⟩
        · exact .inl ⟨rfl, hprinted.append hothers⟩
        · exact .inr ⟨herror, other, by simp [hmem], hinvalid⟩
      · cases hcontra

/-! ## §5 Commands -/

/-- Either the promise is kept and all texts are UTF-8, or an exception leaves and some
    text is not. -/
def Conforms (dump : Json → Except TypeError Bytes) (command : Bytes) (rawCommand : Bool)
    (t : Trace Services) (outcome : Except TypeError Int) : Prop :=
  (Delivers dump command t outcome ∧ ShownUtf8 rawCommand t) ∨
    ((∃ error, outcome = .error error) ∧ ¬ ShownUtf8 rawCommand t)

theorem Conforms.iff {outcome : Except TypeError Int}
    (h : Conforms dump command rawCommand t outcome) :
    Delivers dump command t outcome ↔ ShownUtf8 rawCommand t := by
  rcases h with ⟨hdelivers, hshown⟩ | ⟨⟨error, rfl⟩, hnot⟩
  · exact iff_of_true hdelivers hshown
  · refine iff_of_false (fun hdelivers => ?_) hnot
    obtain ⟨code, hcode, -⟩ := hdelivers.exit
    cases hcode

/-- Answers that were not shown, before a part that conforms. -/
theorem Conforms.prepend {outcome : Except TypeError Int} (hquiet : Quiet t)
    (hshown : ShownUtf8 rawCommand t) (h : Conforms dump command rawCommand u outcome) :
    Conforms dump command rawCommand (t ++ u) outcome := by
  have hwritten : written (t ++ u) = written u := by simp [hquiet.written]
  have hcount : documentCount (t ++ u) = documentCount u := by
    simp [documentCount, hquiet.followed?]
  have hall : ShownUtf8 rawCommand (t ++ u) ↔ ShownUtf8 rawCommand u := by simp [hshown]
  rcases h with ⟨hdelivers, hu⟩ | ⟨herror, hu⟩
  · refine .inl ⟨⟨hdelivers.exit, ?_⟩, hall.mpr hu⟩
    rw [hcount, hwritten]
    exact hdelivers.documents
  · exact .inr ⟨herror, fun hcontra => hu (hall.mp hcontra)⟩

/-- A reply that is delivered. -/
theorem conforms_deliver (hdump : Strict dump) {reply : Reply} {outcome : Except TypeError Int}
    (hanswers : Answers command rawCommand t reply)
    (h : (deliver dump reply).run.Run u outcome) :
    Conforms dump command rawCommand (t ++ u) outcome := by
  rcases deliver_run hdump h with ⟨rfl, hprinted⟩ | ⟨herror, hinvalid, rfl⟩
  · have hshown : ShownUtf8 rawCommand t := hanswers.valid.mp (hprinted.valid _ (by simp))
    refine .inl ⟨⟨⟨reply.code, rfl, hanswers.code⟩, [reply.document], ?_, ?_, ?_⟩, ?_⟩
    · simp [documentCount, hanswers.quiet.followed?, hprinted.only.followed?]
    · simpa using hanswers.envelope
    · simpa [hanswers.quiet.written] using hprinted.lines
    · exact shownUtf8_append.mpr ⟨hshown, hprinted.only.shown⟩
  · refine .inr ⟨herror, fun hcontra => hinvalid ?_⟩
    exact hanswers.valid.mpr (by simpa using hcontra)

theorem finish_conforms (hdump : Strict dump) {branch : Prog Services Reply}
    {outcome : Except TypeError Int}
    (hbranch : ∀ {t reply}, branch.Run t reply → Answers command rawCommand t reply)
    (h : (finish dump branch).run.Run t outcome) :
    Conforms dump command rawCommand t outcome := by
  obtain ⟨reply, u, v, hreply, hdeliver, rfl⟩ := Prog.run_exceptT_lift_bind_iff.mp h
  exact conforms_deliver hdump (hbranch hreply) hdeliver

/-- The end of a follow prints its error if it failed, and nothing otherwise. -/
theorem followEnd_run (hdump : Strict dump) {followed : Followed} {outcome : Except TypeError Int}
    (h : (followEnd dump followed.result).run.Run t outcome) :
    (∃ code documents, outcome = .ok code ∧ code ∈ documentedExitCodes ∧
      Printed dump documents t ∧ documents.length = followed.failure?.toList.length ∧
      (∀ document ∈ documents, IsEnvelope (Bytes.ofString "log") document) ∧
      AllUtf8 (followed.failure?.toList.flatMap errorTexts)) ∨
    ((∃ error, outcome = .error error) ∧
      ¬ AllUtf8 (followed.failure?.toList.flatMap errorTexts)) := by
  obtain ⟨entries, result⟩ := followed
  cases result with
  | ok value =>
    obtain ⟨rfl, rfl⟩ := h
    exact .inl ⟨0, [], rfl, by decide, printed_nil, by simp [Followed.failure?]⟩
  | error error =>
    simp only [followEnd] at h
    split at h
    · -- SIGINT is how a follow is meant to end: no document, and exit code 130
      rename_i hinterrupted
      obtain ⟨rfl, rfl⟩ := h
      refine .inl ⟨130, [], rfl, by decide, printed_nil, ?_⟩
      simp [Followed.failure?, hinterrupted]
    · rename_i hfailed
      have hvalid : (Reply.failure (Bytes.ofString "log") (Bytes.ofString "follow") error).document.Valid ↔
          AllUtf8 (errorTexts error) := valid_error (by decide) (by decide)
      rcases deliver_run hdump h with ⟨rfl, hprinted⟩ | ⟨herror, hinvalid, rfl⟩
      · refine .inl ⟨_, _, rfl, exitCode_documented error.code, hprinted, ?_⟩
        have htexts := hvalid.mp (hprinted.valid _ (by simp))
        have henvelope := isEnvelope_error (Bytes.ofString "log") (Bytes.ofString "follow") error
        simpa [Followed.failure?, hfailed, htexts, Reply.failure] using henvelope
      · refine .inr ⟨herror, fun htexts => hinvalid (hvalid.mpr ?_)⟩
        simpa [Followed.failure?, hfailed] using htexts

/-- What `log --follow` does with the entries and the result of the provider. -/
theorem followed_conforms (hdump : Strict dump) {query : LogQuery} {followed : Followed}
    {outcome : Except TypeError Int}
    (h : (sink dump followed.entries >>= fun _ => followEnd dump followed.result).run.Run t outcome) :
    Conforms dump (Bytes.ofString "log") false (⟨.followLog query, followed⟩ :: t) outcome := by
  have hshown : ∀ {v : Trace Services}, ShownUtf8 false (⟨.followLog query, followed⟩ :: v) ↔
      (∀ entry ∈ followed.entries, (logEvent entry).Valid) ∧
        AllUtf8 (followed.failure?.toList.flatMap errorTexts) ∧ ShownUtf8 false v := by
    intro v
    rw [← List.singleton_append, shownUtf8_append, shownUtf8_singleton]
    simp only [shownTexts, Followed.texts, allUtf8_append, allUtf8_flatMap, valid_logEvent, and_assoc]
  rcases Prog.run_exceptT_bind_iff.mp h with ⟨error, hsink, rfl⟩ | ⟨_, v, w, hsink, hend, rfl⟩
  · -- the sink threw at an entry
    rcases sink_run hdump hsink with ⟨hcontra, -⟩ | ⟨-, entry, hmem, hinvalid⟩
    · cases hcontra
    · exact .inr ⟨⟨error, rfl⟩, fun hcontra => hinvalid ((hshown.mp hcontra).1 entry hmem)⟩
  · rcases sink_run hdump hsink with ⟨-, hentries⟩ | ⟨⟨_, hcontra⟩, -⟩
    · -- every entry was printed, so the end decides
      have hvalid : ∀ entry ∈ followed.entries, (logEvent entry).Valid :=
        fun entry hmem => hentries.valid _ (List.mem_map_of_mem hmem)
      rcases followEnd_run hdump hend with
        ⟨code, documents, rfl, hcode, hprinted, hlength, henvelopes, htexts⟩ | ⟨herror, hnot⟩
      · have hall := hentries.append hprinted
        refine .inl ⟨⟨⟨code, rfl, hcode⟩, followed.entries.map logEvent ++ documents, ?_, ?_, ?_⟩, ?_⟩
        · simp [documentCount, followed?, hlength]
        · intro document hmem
          rcases List.mem_append.mp hmem with hentry | hdocument
          · obtain ⟨entry, -, rfl⟩ := List.mem_map.mp hentry
            exact isEnvelope_envelope _ _ _ _
          · exact henvelopes document hdocument
        · exact hall.lines
        · exact hshown.mpr ⟨hvalid, htexts, hall.only.shown⟩
      · exact .inr ⟨herror, fun hcontra => hnot (hshown.mp hcontra).2.1⟩
    · cases hcontra

theorem followLog_conforms (hdump : Strict dump) {query : LogQuery} {outcome : Except TypeError Int}
    (h : (followLog dump query).run.Run t outcome) :
    Conforms dump (Bytes.ofString "log") false t outcome := by
  obtain ⟨installed, u, v, hinstall, hrest, rfl⟩ := Prog.run_exceptT_lift_bind_iff.mp h
  obtain rfl := Prog.run_perform.mp hinstall
  cases installed with
  | some failure =>
    apply conforms_deliver hdump _ hrest
    refine answers_failure (by simp [isQuiet]) (by decide) (by decide) ?_
    -- the handler could not be installed: the text of `strerror` goes into the message
    have hmessage : ValidUtf8 (Bytes.ofString "Unable to install SIGINT handler: " ++ failure.text) ↔
        ValidUtf8 failure.text := validUtf8_append_left (ascii_ofString (by decide))
    have hrest : AllUtf8 [Bytes.ofString "cli", Bytes.ofString "install SIGINT handler"] := by decide
    rw [shownUtf8_singleton]
    simp only [allUtf8_cons] at hrest
    simp [errorTexts, shownTexts, hmessage, hrest]
  | none =>
    obtain ⟨followed, u, w, hfollow, hentries, rfl⟩ := Prog.run_exceptT_lift_bind_iff.mp hrest
    obtain rfl := Prog.run_perform.mp hfollow
    apply Conforms.prepend (by simp [isQuiet]) (by simp [shownUtf8_singleton, shownTexts])
    exact followed_conforms hdump hentries

/-- Building the query asks at most for the time; a bad time is replied to. -/
theorem logQuery_run {options : LogOptions} {r : Except Reply LogQuery}
    (h : (logQuery options).Run t r) :
    (∃ reply, r = .error reply ∧ Answers (Bytes.ofString "log") false t reply) ∨
      (∃ query, r = .ok query ∧ Quiet t ∧ ShownUtf8 false t) := by
  unfold logQuery at h
  cases hsince : options.since with
  | none =>
    simp only [hsince] at h
    obtain ⟨rfl, rfl⟩ := h
    exact .inr ⟨_, rfl, quiet_nil, by simp [ShownUtf8]⟩
  | some value =>
    simp only [hsince] at h
    obtain ⟨answer, u, rfl, hk⟩ := ask_bind_run h
    cases answer with
    | error error =>
      obtain ⟨rfl, rfl⟩ := hk
      refine .inl ⟨_, rfl, answers_failure (by simp [isQuiet]) (by decide) (by decide) ?_⟩
      rw [shownUtf8_singleton]
      rfl
    | ok since =>
      obtain ⟨rfl, rfl⟩ := hk
      exact .inr ⟨_, rfl, by simp [isQuiet], by simp [shownUtf8_singleton, shownTexts, resultTexts]⟩

theorem log_conforms (hdump : Strict dump) {options : LogOptions} {outcome : Except TypeError Int}
    (h : (log dump options).run.Run t outcome) :
    Conforms dump (Bytes.ofString "log") false t outcome := by
  obtain ⟨r, u, v, hquery, hrest, rfl⟩ := Prog.run_exceptT_lift_bind_iff.mp h
  rcases logQuery_run hquery with ⟨reply, rfl, hanswers⟩ | ⟨query, rfl, hquiet, hshown⟩
  · exact conforms_deliver hdump hanswers hrest
  · apply Conforms.prepend hquiet hshown
    dsimp only at hrest
    split at hrest
    · exact followLog_conforms hdump hrest
    · exact finish_conforms hdump readLogReply_answers hrest

theorem run_conforms (hdump : Strict dump) {hasStatus : Bool} {request : Command}
    {outcome : Except TypeError Int} (h : (run hasStatus dump request).run.Run t outcome) :
    Conforms dump request.name request.rawCommand t outcome := by
  cases request with
  | process options => exact finish_conforms hdump processReply_answers h
  | port number => exact finish_conforms hdump portReply_answers h
  | service unit => exact finish_conforms hdump serviceReply_answers h
  | inspect expression => exact finish_conforms hdump inspectReply_answers h
  | find query => exact finish_conforms hdump findReply_answers h
  | log options => exact log_conforms hdump h

/-! ## §6 Commands come to an end -/

theorem measured_live {hasStatus : Bool} : (measured hasStatus).Live := by
  unfold measured
  split
  · exact Prog.live_perform.bind fun _ => trivial
  · trivial

theorem withCpu_live {α : Type} {hasStatus : Bool} {attach : MetricsView → α → α}
    {answer : Result (Observation α)} : (withCpu hasStatus attach answer).Live := by
  cases answer with
  | error error => trivial
  | ok observed =>
    refine measured_live.bind fun metrics => ?_
    cases metrics <;> trivial

theorem processReply_live {hasStatus : Bool} {options : ProcessOptions} :
    (processReply hasStatus options).Live := by
  unfold processReply
  split
  · split
    · trivial
    · exact (Prog.live_perform.bind fun _ => withCpu_live).bind fun _ => trivial
  · split
    · trivial
    · exact (Prog.live_perform.bind fun _ => withCpu_live).bind fun _ => trivial

theorem serviceReply_live {unit : Option Bytes} : (serviceReply unit).Live := by
  cases unit <;> exact Prog.live_perform.bind fun _ => trivial

theorem print_live {document : Json} : (print dump document).run.Live := by
  refine Prog.Live.exceptT_bind ?_ fun _ => Prog.live_perform.exceptT_lift
  trivial

theorem deliver_live {reply : Reply} : (deliver dump reply).run.Live :=
  print_live.exceptT_bind fun _ => trivial

theorem sink_live {entries : List (Observation JournalEntry)} : (sink dump entries).run.Live := by
  induction entries with
  | nil => trivial
  | cons entry rest ih => exact print_live.exceptT_bind fun _ => ih

theorem followEnd_live {result : Result Unit} : (followEnd dump result).run.Live := by
  cases result with
  | ok value => trivial
  | error error =>
    simp only [followEnd]
    split
    · trivial
    · exact deliver_live

theorem followLog_live {query : LogQuery} : (followLog dump query).run.Live := by
  refine Prog.live_perform.exceptT_lift.exceptT_bind fun installed => ?_
  cases installed with
  | some failure => exact deliver_live
  | none =>
    refine Prog.live_perform.exceptT_lift.exceptT_bind fun followed => ?_
    exact sink_live.exceptT_bind fun _ => followEnd_live

theorem finish_live {branch : Prog Services Reply} (h : branch.Live) :
    (finish dump branch).run.Live :=
  h.exceptT_lift.exceptT_bind fun _ => deliver_live

theorem logQuery_live {options : LogOptions} : (logQuery options).Live := by
  unfold logQuery
  split
  · trivial
  · refine Prog.live_perform.bind fun answer => ?_
    cases answer <;> trivial

theorem run_live {hasStatus : Bool} {request : Command} : (run hasStatus dump request).run.Live := by
  cases request with
  | process options => exact finish_live processReply_live
  | port number => exact finish_live (Prog.live_perform.bind fun _ => trivial)
  | service unit => exact finish_live serviceReply_live
  | inspect expression => exact finish_live (Prog.live_perform.bind fun _ => trivial)
  | find query => exact finish_live (Prog.live_perform.bind fun _ => trivial)
  | log options =>
    refine logQuery_live.exceptT_lift.exceptT_bind fun query => ?_
    cases query with
    | error reply => exact deliver_live
    | ok query =>
      dsimp only
      split
      · exact followLog_live
      · exact finish_live (Prog.live_perform.bind fun _ => trivial)

end

/-! ## §7 The promise, exactly -/

/-- **JSON mode keeps its promise exactly on UTF-8.** Whatever the services answer, a
    read-only command comes to an end; it writes its documents and returns a documented
    code if and only if every text handed to the serializer is UTF-8. -/
theorem json_documents_iff {dump : Json → Except TypeError Bytes} (hdump : Strict dump)
    (hasStatus : Bool) (request : Command)
    (env : Trace Services → (call : ServiceCall) → ServiceCall.Answer call) :
    ∃ outcome t, (run hasStatus dump request).run.exec env [] = some (outcome, t) ∧
      (Delivers dump request.name t outcome ↔ ShownUtf8 request.rawCommand t) := by
  obtain ⟨outcome, t, hexec⟩ := run_live.exec env []
  obtain ⟨u, hu, hrun⟩ := Prog.exec_run hexec
  rw [List.nil_append] at hu
  subst hu
  exact ⟨outcome, t, hexec, (run_conforms hdump hrun).iff⟩

/-- Services of a machine with one process and nothing else to show. -/
def machineWith (process : ProcessInfo) (_past : Trace Services) :
    (call : ServiceCall) → ServiceCall.Answer call
  | .listProcesses _ => .ok ⟨[process], []⟩
  | .inspectProcess _ => .ok ⟨process, []⟩
  | .measure => .error ⟨.unavailable, "No metrics", 0, "procfs", "sample"⟩
  | .inspectPorts _ => .ok ⟨[], []⟩
  | .listServices => .ok ⟨[], []⟩
  | .inspectService _ => .error ⟨.notFound, "No such unit", 0, "systemd", "get"⟩
  | .inspectResource _ => .ok { root := .process process.pid, processes := [process] }
  | .find _ => .ok { processes := [process] }
  | .parseSince _ => .ok 0
  | .readLog _ => .ok ⟨[], []⟩
  | .installInterrupt => none
  | .followLog _ => ⟨[], .ok ()⟩
  | .write _ => ()

/-- `lx process 42 --json` for an ordinary process. -/
theorem json_documents_sshd :
    ∃ outcome t, (run true (compact fun _ => []) (.process { pid := some 42 })).run.exec
        (machineWith
          { pid := 42, name := "sshd", argv := [Bytes.ofString "sshd", Bytes.ofString "-D"] }) [] =
          some (outcome, t) ∧
      ShownUtf8 false t ∧ Delivers (compact fun _ => []) (Bytes.ofString "process") t outcome := by
  obtain ⟨outcome, t, hexec, hiff⟩ := json_documents_iff (compact_strict fun _ => []) true
    (.process { pid := some 42 })
    (machineWith { pid := 42, name := "sshd", argv := [Bytes.ofString "sshd", Bytes.ofString "-D"] })
  have htest : ((run true (compact fun _ => []) (.process { pid := some 42 })).run.exec
      (machineWith { pid := 42, name := "sshd", argv := [Bytes.ofString "sshd", Bytes.ofString "-D"] })
      []).any (fun final => decide (ShownUtf8 false final.2)) = true := by decide +kernel
  rw [hexec] at htest
  have hshown : ShownUtf8 false t := by simpa using htest
  exact ⟨outcome, t, hexec, hshown, hiff.mpr hshown⟩

/-- The kernel cuts a command name after fifteen bytes, here inside `é`. -/
def cutName : Bytes := Bytes.ofString "lecteur-de-caf" ++ [0xC3]

/-- `lx process 42 --json` for that process: an exception leaves `run` and nothing is written. -/
theorem json_exception_on_cut_name :
    Strict (compact fun _ => []) ∧
    ∃ outcome t, (run true (compact fun _ => []) (.process { pid := some 42 })).run.exec
        (machineWith { pid := 42, name := cutName }) [] = some (outcome, t) ∧
      outcome = .error .invalidUtf8 ∧ written t = [] ∧
      ¬ Delivers (compact fun _ => []) (Bytes.ofString "process") t outcome := by
  refine ⟨compact_strict _, ?_⟩
  obtain ⟨outcome, t, hexec⟩ := run_live.exec (machineWith { pid := 42, name := cutName }) []
    (p := (run true (compact fun _ => []) (.process { pid := some 42 })).run)
  have htest : ((run true (compact fun _ => []) (.process { pid := some 42 })).run.exec
      (machineWith { pid := 42, name := cutName }) []).any (fun final =>
        (match final.1 with | .error .invalidUtf8 => true | .ok _ => false) &&
          (written final.2).isEmpty) = true := by decide +kernel
  rw [hexec] at htest
  cases outcome with
  | ok code => simp at htest
  | error error =>
    obtain ⟨⟩ := error
    have hwritten : written t = [] := by simpa using htest
    refine ⟨_, t, hexec, rfl, hwritten, fun hdelivers => ?_⟩
    obtain ⟨code, hcode, -⟩ := hdelivers.exit
    cases hcode

end Lx.Cli
