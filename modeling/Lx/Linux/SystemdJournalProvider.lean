import Lx.Linux.Sys

/-!
# SystemdJournalProvider

Reading and following the journal (`src/linux/systemd/SystemdJournalProvider.cpp`) over the
calls of libsystemd's `sd-journal`, with the field parser of `JournalFieldParser.cpp`.

The two `while (true)` loops take the number of iterations they may make as an argument and
block when it is used up: a statement for every such number is one about every finite run.
-/

namespace Lx.Journal

open Interaction

/-! ## §1 The calls -/

inductive JournalCall where
  /-- `sd_journal_open(…, SD_JOURNAL_LOCAL_ONLY)` -/
  | openLocal
  | setDataThreshold (size : Nat)
  | addMatch (text : Bytes)
  | seekTail
  | seekRealtimeUsec (usec : Nat)
  | seekCursor (cursor : Bytes)
  | next
  | previous
  | getRealtimeUsec
  | getCursor
  | getData (field : Bytes)
  | wait (usec : Nat)
  /-- The `stopRequested` predicate of the caller. -/
  | stopRequested
  /-- The `sink` of the caller. -/
  | sink (entry : Observation JournalEntry)
  deriving DecidableEq, Repr

/-- A negative status is an error number. `next` and `previous` tell whether they moved to an
    entry; strings may come back as null pointers. -/
def JournalCall.Answer : JournalCall → Type
  | .next | .previous => Except Errno Bool
  | .getRealtimeUsec => Except Errno Nat
  | .getCursor | .getData _ => Except Errno (Option Bytes)
  | .stopRequested => Bool
  | .sink _ => Result Unit
  | _ => Except Errno Unit

/-- The signature of the journal provider. -/
abbrev SdJournal : Signature := ⟨JournalCall, JournalCall.Answer⟩

/-- Make one call. -/
def sd (call : JournalCall) : Prog SdJournal call.Answer := perform (S := SdJournal) call

def stopRequested : Prog SdJournal Bool := sd .stopRequested

/-! ## §2 Fields -/

structure JournalFields where
  timestampUsec : Nat
  cursor : Bytes
  systemdUnit : Option Bytes
  pid : Option Bytes
  command : Option Bytes
  message : Option Bytes
  priority : Option Bytes
  deriving DecidableEq, Repr

/-- The value in `FIELD=value`. -/
def journalFieldValue (field : Bytes) : Option Bytes → Result Bytes
  | none => .error ⟨.protocolError, "Journal field has no data", 0, "sd-journal", "read field"⟩
  | some data =>
    if (field ++ [61]).isPrefixOf data then .ok (data.drop (field.length + 1))
    else .error ⟨.protocolError, "Journal field does not match the requested name", 0,
      "sd-journal", "read field"⟩

def parseWarning (message operation : Bytes) : Warning :=
  ⟨.parseError, message, 0, "sd-journal", operation⟩

/-- `_PID`: a positive `pid_t`. -/
def parsePid (text : Bytes) : Option Int :=
  ((Bytes.fromChars 64 text).filter fun value => 0 < value ∧ value < 2 ^ 31).map Int.ofNat

/-- `PRIORITY`: at most seven. -/
def parsePriority (text : Bytes) : Option Nat := (Bytes.fromChars 32 text).filter (· ≤ 7)

/-- A field that is present and does not parse is dropped with a warning. -/
def parseField {α : Type} (parse : Bytes → Option α) (warning : Warning) :
    Option Bytes → Option α × List Warning
  | none => (none, [])
  | some text =>
    match parse text with
    | some value => (some value, [])
    | none => (none, [warning])

def journalEntryFromFields (fields : JournalFields) : Observation JournalEntry :=
  let pid := parseField parsePid
    (parseWarning "Journal entry contains an invalid _PID" "parse PID") fields.pid
  let priority := parseField parsePriority
    (parseWarning "Journal entry contains an invalid PRIORITY" "parse priority") fields.priority
  { value :=
      { -- microseconds become 64-bit nanoseconds
        timestamp := (fields.timestampUsec * 1000 : Int).bmod (2 ^ 64)
        cursor := fields.cursor
        systemdUnit := fields.systemdUnit
        pid := pid.1
        command := fields.command
        message := fields.message.getD []
        priority := priority.1 }
    warnings := pid.2 ++ priority.2 }

section Provider

-- `std::system_category().message`
variable (systemMessage : Int → Bytes)

/-! ## §3 One entry -/

def journalError (number : Errno) (operation : Bytes) : Error where
  code :=
    if number = Errno.eacces ∨ number = Errno.eperm then .permissionDenied
    else if number = Errno.enoent then .unavailable
    else if number = Errno.eintr then .interrupted
    else if number = 110 then .timeout
    else .ioError
  message := Bytes.ofString "Journal operation failed: " ++ systemMessage number
  systemError := number
  component := "sd-journal"
  operation := operation

/-- `SdJournal::openLocal` -/
def openLocal : Prog SdJournal (Result Unit) := do
  match ← sd .openLocal with
  | .error number =>
    return .error
      { code := if number = Errno.eacces ∨ number = Errno.eperm then .permissionDenied else .unavailable
        message := Bytes.ofString "Unable to open the local journal: " ++ systemMessage number
        systemError := number
        component := "sd-journal"
        operation := "open local journal" }
  | .ok () => return .ok ()

/-- A call whose failure is reported under an operation name. -/
def attempt (call : Prog SdJournal (Except Errno Unit)) (operation : Bytes) :
    Prog SdJournal (Result Unit) := do
  match ← call with
  | .error number => return .error (journalError systemMessage number operation)
  | .ok () => return .ok ()

def addMatch (text : Bytes) : Prog SdJournal (Result Unit) :=
  attempt systemMessage (sd (.addMatch text)) "add match"

/-- `addMatch` for an optional part of the query. -/
def addMatchIf : Option Bytes → Prog SdJournal (Result Unit)
  | none => return .ok ()
  | some text => addMatch systemMessage text

def configureJournal (query : LogQuery) : Prog SdJournal (Result Unit) := do
  if query.limit = 0 then
    return .error ⟨.invalidArgument, "Journal limit must be greater than zero", 0,
      "sd-journal", "configure query"⟩
  else
    match ← attempt systemMessage (sd (.setDataThreshold (1024 * 1024))) "set data threshold" with
    | .error error => return .error error
    | .ok () =>
      match ← addMatchIf systemMessage (query.unit.map (Bytes.ofString "_SYSTEMD_UNIT=" ++ ·)) with
      | .error error => return .error error
      | .ok () =>
        addMatchIf systemMessage
          (query.pid.map fun pid => Bytes.ofString "_PID=" ++ Bytes.ofInt pid)

/-- What `readField` makes of the status and the data: a missing field is no error. -/
def fieldResult (field : Bytes) : Except Errno (Option Bytes) → Result (Option Bytes)
  | .error number =>
    if number = Errno.enoent then .ok none
    else .error (journalError systemMessage number "read field")
  | .ok data => (journalFieldValue field data).map some

def readField (field : Bytes) : Prog SdJournal (Result (Option Bytes)) := do
  return fieldResult systemMessage field (← sd (.getData field))

/-- The end of `readCurrentEntry`: the first field that could not be read is the error. -/
def assemble (timestampUsec : Nat) (cursor : Bytes)
    (unit pid command message priority : Result (Option Bytes)) :
    Result (Observation JournalEntry) := do
  -- all five fields have been read by now; the errors are looked at in this order
  let systemdUnit ← unit
  let pid ← pid
  let command ← command
  let message ← message
  let priority ← priority
  let observed := journalEntryFromFields
    { timestampUsec, cursor, systemdUnit, pid, command, message, priority }
  if observed.value.message.isEmpty then
    return { observed with warnings := observed.warnings ++
      [⟨.notFound, "Journal entry has no MESSAGE field", 0, "sd-journal", "read entry"⟩] }
  else return observed

/-- An entry is assembled only when all its fields were read. -/
theorem assemble_ok {usec : Nat} {cursor : Bytes}
    {unit pid command message priority : Result (Option Bytes)} {observed : Observation JournalEntry}
    (h : assemble usec cursor unit pid command message priority = .ok observed) :
    ∃ unit' pid' command' message' priority', unit = .ok unit' ∧ pid = .ok pid' ∧
      command = .ok command' ∧ message = .ok message' ∧ priority = .ok priority' ∧
      observed.value = (journalEntryFromFields
        ⟨usec, cursor, unit', pid', command', message', priority'⟩).value := by
  cases unit with
  | error error => cases h
  | ok unit' =>
  cases pid with
  | error error => cases h
  | ok pid' =>
  cases command with
  | error error => cases h
  | ok command' =>
  cases message with
  | error error => cases h
  | ok message' =>
  cases priority with
  | error error => cases h
  | ok priority' =>
  refine ⟨unit', pid', command', message', priority', rfl, rfl, rfl, rfl, rfl, ?_⟩
  -- the warning about a missing message does not touch the value
  have hwarning : ∀ base : Observation JournalEntry,
      (if base.value.message.isEmpty then
        (.ok { base with warnings := base.warnings ++
          [⟨.notFound, "Journal entry has no MESSAGE field", 0, "sd-journal", "read entry"⟩] } :
          Result (Observation JournalEntry))
      else .ok base) = .ok observed → observed.value = base.value := by
    intro base hbase
    split_ifs at hbase
    · rw [← Except.ok.inj hbase]
    · rw [← Except.ok.inj hbase]
  exact hwarning _ h

def readCurrentEntry : Prog SdJournal (Result (Observation JournalEntry)) := do
  match ← sd .getRealtimeUsec with
  | .error number => return .error (journalError systemMessage number "read timestamp")
  | .ok timestampUsec =>
    if timestampUsec > 2 ^ 63 - 1 then
      return .error ⟨.parseError, "Journal timestamp is out of range", 0,
        "sd-journal", "read timestamp"⟩
    else
      match ← sd .getCursor with
      | .error number => return .error (journalError systemMessage number "read cursor")
      | .ok cursor =>
        let unit ← readField systemMessage "_SYSTEMD_UNIT"
        let pid ← readField systemMessage "_PID"
        let command ← readField systemMessage "_COMM"
        let message ← readField systemMessage "MESSAGE"
        let priority ← readField systemMessage "PRIORITY"
        -- a null cursor is taken for the empty text
        return assemble timestampUsec (cursor.getD []) unit pid command message priority

/-! ## §4 The initial window -/

/-- `appendEntry` over a list: the entries, and all their warnings. -/
def collect (entries : List (Observation JournalEntry)) : Observation (List JournalEntry) :=
  ⟨entries.map (·.value), entries.flatMap (·.warnings)⟩

/-- The loop of `queryTail`: at most `remaining` further entries, newest first. -/
def readBackwards : Nat → List (Observation JournalEntry) →
    Prog SdJournal (Result (List (Observation JournalEntry)))
  | 0, reversed => return .ok reversed
  | remaining + 1, reversed => do
    match ← sd .previous with
    | .error number => return .error (journalError systemMessage number "read previous entry")
    | .ok false => return .ok reversed
    | .ok true =>
      match ← readCurrentEntry systemMessage with
      | .error error => return .error error
      | .ok entry => readBackwards remaining (reversed ++ [entry])

def queryTail (limit : Nat) : Prog SdJournal (Result (Observation (List JournalEntry))) := do
  match ← attempt systemMessage (sd .seekTail) "seek tail" with
  | .error error => return .error error
  | .ok () =>
    match ← readBackwards systemMessage limit [] with
    | .error error => return .error error
    -- read from the tail, shown in the order of the journal
    | .ok reversed => return .ok (collect reversed.reverse)

/-- `push_back`, then `pop_front` once the window is too long. -/
def pushWindow (limit : Nat) (window : List (Observation JournalEntry))
    (entry : Observation JournalEntry) : List (Observation JournalEntry) :=
  if window.length + 1 > limit then (window ++ [entry]).tail else window ++ [entry]

/-- The loop of `querySince`. -/
def readForwards (limit : Nat) : Nat → List (Observation JournalEntry) →
    Prog SdJournal (Result (List (Observation JournalEntry)))
  | 0, _ => .block
  | iterations + 1, window => do
    match ← sd .next with
    | .error number => return .error (journalError systemMessage number "read next entry")
    | .ok false => return .ok window
    | .ok true =>
      match ← readCurrentEntry systemMessage with
      | .error error => return .error error
      | .ok entry => readForwards limit iterations (pushWindow limit window entry)

/-- `since` in nanoseconds. -/
def querySince (iterations : Nat) (since : Int) (limit : Nat) :
    Prog SdJournal (Result (Observation (List JournalEntry))) := do
  -- `duration_cast` rounds toward zero
  let signedUsec := since.tdiv 1000
  if signedUsec < 0 then
    return .error ⟨.invalidArgument, "Journal since time must not precede the Unix epoch", 0,
      "sd-journal", "seek time"⟩
  else
    match ← attempt systemMessage (sd (.seekRealtimeUsec signedUsec.toNat)) "seek time" with
    | .error error => return .error error
    | .ok () =>
      match ← readForwards systemMessage limit iterations [] with
      | .error error => return .error error
      | .ok window => return .ok (collect window)

/-- The entries a query starts with. -/
def initialWindow (iterations : Nat) (query : LogQuery) :
    Prog SdJournal (Result (Observation (List JournalEntry))) :=
  match query.since with
  | some since => querySince systemMessage iterations since query.limit
  | none => queryTail systemMessage query.limit

/-- Open the journal, configure it and read the window: all of `query`, and what `follow`
    begins with. -/
def openWindow (iterations : Nat) (query : LogQuery) :
    Prog SdJournal (Result (Observation (List JournalEntry))) := do
  match ← openLocal systemMessage with
  | .error error => return .error error
  | .ok () =>
    match ← configureJournal systemMessage query with
    | .error error => return .error error
    | .ok () => initialWindow systemMessage iterations query

/-! ## §5 Following -/

def interrupted : Result Unit :=
  .error ⟨.interrupted, "Journal follow was interrupted", Errno.eintr, "sd-journal", "follow"⟩

def positionAfterInitial (entries : List JournalEntry) : Prog SdJournal (Result Unit) := do
  match entries.getLast? with
  -- an empty window has no cursor to go back to
  | none => attempt systemMessage (sd .seekTail) "seek tail"
  | some last =>
    match ← attempt systemMessage (sd (.seekCursor last.cursor)) "seek initial cursor" with
    | .error error => return .error error
    | .ok () =>
      match ← sd .next with
      | .error number =>
        return .error (journalError systemMessage number "position after initial cursor")
      | .ok false =>
        return .error ⟨.conflict, "Initial journal cursor disappeared before follow", 0,
          "sd-journal", "follow"⟩
      -- whichever entry this is, it is taken for the last one shown
      | .ok true => return .ok ()

/-- Give the window to the sink; the first entry carries the warnings of all. -/
def sinkInitial : List Warning → List JournalEntry → Prog SdJournal (Result Unit)
  | _, [] => return .ok ()
  | warnings, entry :: rest => do
    if ← stopRequested then return interrupted
    else
      match ← sd (.sink ⟨entry, warnings⟩) with
      | .error error => return .error error
      | .ok () => sinkInitial [] rest

/-- Where the loop of `follow` stands: at its head, or in the inner loop. -/
inductive Phase where
  | poll
  | drain
  deriving DecidableEq, Repr

/-- An interrupted call ends the follow quietly when a stop was requested. -/
def callFailed (number : Errno) (operation : Bytes) : Prog SdJournal (Result Unit) := do
  if number = Errno.eintr then
    if ← stopRequested then return interrupted
    else return .error (journalError systemMessage number operation)
  else return .error (journalError systemMessage number operation)

/-- The loop of `follow`. -/
def followLoop : Nat → Phase → Prog SdJournal (Result Unit)
  | 0, _ => .block
  | iterations + 1, .poll => do
    if ← stopRequested then return interrupted
    else followLoop iterations .drain
  | iterations + 1, .drain => do
    match ← sd .next with
    | .error number => callFailed systemMessage number "read followed entry"
    | .ok false =>
      -- nothing more to read: wait for a second at most
      match ← sd (.wait 1000000) with
      | .error number => callFailed systemMessage number "wait for journal entries"
      | .ok () => followLoop iterations .poll
    | .ok true =>
      match ← readCurrentEntry systemMessage with
      | .error error => return .error error
      | .ok entry =>
        match ← sd (.sink entry) with
        | .error error => return .error error
        | .ok () =>
          if ← stopRequested then return interrupted
          else followLoop iterations .drain

/-- What `follow` does once it has its window. -/
def followFrom (iterations : Nat) (initial : Observation (List JournalEntry)) :
    Prog SdJournal (Result Unit) := do
  match ← positionAfterInitial systemMessage initial.value with
  | .error error => return .error error
  | .ok () =>
    match ← sinkInitial initial.warnings initial.value with
    | .error error => return .error error
    | .ok () => followLoop systemMessage iterations .poll

/-- `SystemdJournalProvider::query` -/
def query (iterations : Nat) (query : LogQuery) :
    Prog SdJournal (Result (Observation (List JournalEntry))) :=
  openWindow systemMessage iterations query

/-- `SystemdJournalProvider::follow`, called with a sink and a stop predicate. -/
def follow (iterations : Nat) (query : LogQuery) : Prog SdJournal (Result Unit) := do
  match ← openWindow systemMessage iterations query with
  | .error error => return .error error
  | .ok initial => followFrom systemMessage iterations initial

end Provider

end Lx.Journal
