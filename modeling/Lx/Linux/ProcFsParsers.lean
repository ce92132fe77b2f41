import Lx.Domain.Basic

/-!
# Parsers of procfs records

`/proc/PID/stat`, `status` and `cmdline` as `src/linux/procfs/StatParser.cpp`,
`StatusParser.cpp` and `CmdlineParser.cpp` read them.
-/

namespace Lx.ProcFs

/-! ## §1 Process stat -/

structure StatRecord where
  pid : Int
  name : Bytes
  state : UInt8
  ppid : Int
  deriving DecidableEq, Repr

def statFailure {α : Type} (message : Bytes) : Result α :=
  .error ⟨.parseError, message, 0, "procfs-stat", "parse"⟩

/-- `std::from_chars` into a `pid_t` that has to consume the whole text and to be
    non-negative; a minus sign is read, so `-0` passes. -/
def parsePid (text : Bytes) : Option Int :=
  match text with
  | 45 :: digits => if Bytes.decimal digits = some 0 then some 0 else none
  | _ => (Bytes.fromChars 31 text).map Int.ofNat

/-- The position of the last `") "`. -/
def rfindClose (contents : Bytes) : Option Nat :=
  (List.range contents.length).reverse.find? fun i =>
    (Bytes.ofString ") ").isPrefixOf (contents.drop i)

/-- `contents.find(character, from)` -/
def findFrom (character : UInt8) (contents : Bytes) (start : Nat) : Option Nat :=
  ((contents.drop start).findIdx? (· == character)).map (start + ·)

/-- A text without its trailing blanks. -/
def dropTrailingBlanks (text : Bytes) : Bytes := (text.reverse.dropWhile (· == 32)).reverse

/-- Where the name of the record lies: its opening and closing parentheses, or nothing when
    the record is malformed. -/
def nameBounds (contents : Bytes) : Option (Nat × Nat) :=
  match contents.findIdx? (· == 40), rfindClose contents with
  | some opening, some close =>
    if opening = 0 ∨ close ≤ opening ∨ contents.length < close + 4 then none
    else some (opening, close)
  | _, _ => none

def parseStat (contents : Bytes) : Result StatRecord :=
  match nameBounds contents with
  | none => statFailure "Malformed process stat record"
  | some (opening, close) =>
    match parsePid (dropTrailingBlanks (contents.take opening)) with
    | none => statFailure "Invalid PID in process stat record"
    | some pid =>
      -- after the name come a blank, the state and a blank
      let ppidBegin := close + 4
      let ppidEnd := ((findFrom 32 contents ppidBegin).orElse fun _ =>
        findFrom 10 contents ppidBegin).getD contents.length
      match parsePid (Bytes.field contents ppidBegin (ppidEnd - ppidBegin)) with
      | none => statFailure "Invalid PPID in process stat record"
      | some ppid => .ok
        { pid
          name := Bytes.field contents (opening + 1) (close - opening - 1)
          state := contents.getD (close + 2) 0
          ppid }

/-- The characters that separate the fields of a stat record. -/
def isFieldBlank (c : UInt8) : Bool := c == 32 || c == 9 || c == 13 || c == 10

/-- The fields between blanks. -/
def fieldsOf (tail : Bytes) : List Bytes := (tail.splitOnP isFieldBlank).filter (· ≠ [])

def parseProcessCpuStat (contents : Bytes) : Result ProcessCpuSample :=
  match parseStat contents with
  | .error error => .error error
  | .ok basic =>
    -- a parsed record has its closing parenthesis
    let fields := fieldsOf (contents.drop ((rfindClose contents).getD 0 + 4))
    if fields.length ≤ 18 then statFailure "Incomplete process CPU stat record"
    else
      match Bytes.fromChars 64 (fields.getD 10 []), Bytes.fromChars 64 (fields.getD 11 []),
        Bytes.fromChars 64 (fields.getD 18 []) with
      | some user, some system, some start =>
        -- the sum would not fit into 64 bits
        if 2 ^ 64 - 1 - user < system then statFailure "Invalid process CPU stat counters"
        else .ok ⟨basic.pid, start, user + system⟩
      | _, _, _ => statFailure "Invalid process CPU stat counters"

/-! ## §2 Process status -/

structure StatusRecord where
  uid : Nat := 0
  gid : Nat := 0
  threads : Nat := 0
  rssBytes : Nat := 0
  deriving DecidableEq, Repr

/-- The variables of `parseStatus`. -/
structure StatusState where
  record : StatusRecord := {}
  hasUid : Bool := false
  hasGid : Bool := false
  hasThreads : Bool := false
  deriving DecidableEq, Repr

def statusFailure {α : Type} (message : Bytes) : Result α :=
  .error ⟨.parseError, message, 0, "procfs-status", "parse"⟩

/-- The first run of characters other than blank, tab and carriage return. -/
def firstToken (value : Bytes) : Bytes :=
  (value.dropWhile fun c => c == 32 || c == 9).takeWhile fun c => !(c == 32 || c == 9 || c == 13)

/-- One line of the file. -/
def parseStatusLine (state : StatusState) (line : Bytes) : Result StatusState :=
  match line.findIdx? (· == 58) with
  -- lines without a colon are skipped
  | none => .ok state
  | some colon =>
    let key := line.take colon
    let token := firstToken (line.drop (colon + 1))
    if key = Bytes.ofString "Uid" then
      match Bytes.fromChars 32 token with
      | none => statusFailure "Invalid Uid field"
      | some uid => .ok { state with record := { state.record with uid }, hasUid := true }
    else if key = Bytes.ofString "Gid" then
      match Bytes.fromChars 32 token with
      | none => statusFailure "Invalid Gid field"
      | some gid => .ok { state with record := { state.record with gid }, hasGid := true }
    else if key = Bytes.ofString "Threads" then
      match Bytes.fromChars 32 token with
      | none => statusFailure "Invalid Threads field"
      | some threads =>
        .ok { state with record := { state.record with threads }, hasThreads := true }
    else if key = Bytes.ofString "VmRSS" then
      match Bytes.fromChars 64 token with
      | none => statusFailure "Invalid VmRSS field"
      | some kib =>
        -- the file counts in KiB
        if (2 ^ 64 - 1) / 1024 < kib then statusFailure "Invalid VmRSS field"
        else .ok { state with record := { state.record with rssBytes := kib * 1024 } }
    else .ok state

/-- The lines of the file; an empty last line has no colon and changes nothing. -/
def parseStatus (contents : Bytes) : Result StatusRecord := do
  let state ← (contents.splitOn 10).foldlM parseStatusLine {}
  if !state.hasUid || !state.hasGid || !state.hasThreads then
    statusFailure "Required process status field is missing"
  else return state.record

/-! ## §3 Command line -/

/-- The arguments from `begin` on, when `argument` has been read since: each NUL ends one, and
    a last one without terminator counts if it is not empty. -/
def argumentsFrom : Bytes → Bytes → List Bytes
  | [], [] => []
  | [], argument => [argument]
  | c :: rest, argument =>
    if c = 0 then argument :: argumentsFrom rest [] else argumentsFrom rest (argument ++ [c])

def parseCmdline (contents : Bytes) : List Bytes := argumentsFrom contents []

/-- Searching never goes back. -/
theorem le_of_findFrom {character : UInt8} {contents : Bytes} {start stop : Nat}
    (h : findFrom character contents start = some stop) : start ≤ stop := by
  obtain ⟨i, -, rfl⟩ := Option.map_eq_some_iff.mp h
  exact Nat.le_add_right start i

/-- The loop of the source, which searches from `start` for the next NUL instead of reading
    byte by byte. -/
def cmdlineLoop (contents : Bytes) (start : Nat) (arguments : List Bytes) : List Bytes :=
  if start < contents.length then
    match _hstop : findFrom 0 contents start with
    | none => arguments ++ [contents.drop start]
    | some stop =>
      cmdlineLoop contents (stop + 1) (arguments ++ [Bytes.field contents start (stop - start)])
  else arguments
termination_by contents.length - start
decreasing_by
  have := le_of_findFrom _hstop
  omega

end Lx.ProcFs
