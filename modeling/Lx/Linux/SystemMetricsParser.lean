import Lx.Domain.Basic
import Lx.Lib.Tokens

/-!
# Parsers of system metrics

`/proc/stat` and `/proc/meminfo` as `src/linux/procfs/SystemMetricsParser.cpp` reads them,
through a `std::istringstream`.
-/

namespace Lx.ProcFs

open Tokens

def metricsFailure {α : Type} (message : Bytes) : Result α :=
  .error ⟨.parseError, message, 0, "procfs-metrics", "parse"⟩

/-- The sum, unless it does not fit into 64 bits. -/
def checkedAdd (sum value : Nat) : Option Nat :=
  if 2 ^ 64 - 1 - sum < value then none else some (sum + value)

/-! ## §1 The aggregate CPU row -/

/-- The variables of `parseCpuTimes`. -/
structure CpuState where
  result : CpuTimes := {}
  index : Nat := 0
  deriving DecidableEq, Repr

/-- One column of the row. -/
def addColumn (state : CpuState) (token : Bytes) : Result CpuState :=
  match (Bytes.fromChars 64 token).bind fun value =>
      (checkedAdd state.result.totalTicks value).map fun totalTicks => (value, totalTicks) with
  | none => metricsFailure "Invalid CPU counter in /proc/stat"
  | some (value, totalTicks) =>
    -- idle and I/O wait
    if state.index = 3 ∨ state.index = 4 then
      match checkedAdd state.result.idleTicks value with
      | none => metricsFailure "CPU idle counter overflow in /proc/stat"
      | some idleTicks => .ok ⟨⟨totalTicks, idleTicks⟩, state.index + 1⟩
    else .ok ⟨{ state.result with totalTicks }, state.index + 1⟩

def parseCpuTimes (contents : Bytes) : Result CpuTimes :=
  let line := contents.takeWhile (· ≠ 10)
  -- without a word the label stays empty
  let (label, columns) := (extract Bytes.isSpace line).getD ([], [])
  if label ≠ Bytes.ofString "cpu" then metricsFailure "Missing aggregate CPU row in /proc/stat"
  else do
    let state ← (words Bytes.isSpace columns).foldlM addColumn {}
    if state.index < 4 then metricsFailure "Incomplete aggregate CPU row in /proc/stat"
    else return state.result

/-! ## §2 Memory -/

structure MemoryRecord where
  totalBytes : Nat := 0
  availableBytes : Nat := 0
  deriving DecidableEq, Repr

/-- The variables of `parseMemoryInfo`. -/
structure MemoryState where
  result : MemoryRecord := {}
  hasTotal : Bool := false
  hasAvailable : Bool := false
  deriving DecidableEq, Repr

/-- What `input >> key >> valueText >> unit` extracts. -/
structure MemoryEntry where
  key : Bytes
  valueText : Bytes
  unit : Bytes
  deriving DecidableEq, Repr

/-- `input >> key >> valueText >> unit`, with the rest of the stream. -/
def extractEntry (input : Bytes) : Option (MemoryEntry × Bytes) := do
  let (key, input) ← extract Bytes.isSpace input
  let (valueText, input) ← extract Bytes.isSpace input
  let (unit, input) ← extract Bytes.isSpace input
  return (⟨key, valueText, unit⟩, input)

theorem length_lt_of_extractEntry {input rest : Bytes} {entry : MemoryEntry}
    (h : extractEntry input = some (entry, rest)) : rest.length < input.length := by
  unfold extractEntry at h
  obtain ⟨⟨key, input₁⟩, hkey, h⟩ := Option.bind_eq_some_iff.mp h
  obtain ⟨⟨value, input₂⟩, hvalue, h⟩ := Option.bind_eq_some_iff.mp h
  obtain ⟨⟨unit, input₃⟩, hunit, h⟩ := Option.bind_eq_some_iff.mp h
  obtain ⟨-, rfl⟩ := Prod.mk.inj (Option.some.inj h)
  have := length_lt_of_extract hkey
  have := length_lt_of_extract hvalue
  have := length_lt_of_extract hunit
  omega

def isMemoryKey (key : Bytes) : Bool :=
  key == Bytes.ofString "MemTotal:" || key == Bytes.ofString "MemAvailable:"

/-- An entry with one of the two keys. -/
def addEntry (state : MemoryState) (entry : MemoryEntry) : Result MemoryState :=
  if entry.unit ≠ Bytes.ofString "kB" then metricsFailure "Invalid memory value in /proc/meminfo"
  else
    match Bytes.fromChars 64 entry.valueText with
    | none => metricsFailure "Invalid memory value in /proc/meminfo"
    | some kibibytes =>
      if (2 ^ 64 - 1) / 1024 < kibibytes then metricsFailure "Invalid memory value in /proc/meminfo"
      else if entry.key = Bytes.ofString "MemTotal:" then
        .ok { state with
          result := { state.result with totalBytes := kibibytes * 1024 }, hasTotal := true }
      else
        .ok { state with
          result := { state.result with availableBytes := kibibytes * 1024 }, hasAvailable := true }

/-- The loop. The rest of the line is discarded for the keys that are skipped only, and what
    has been extracted as a unit need not come from the same line. -/
def readEntries (input : Bytes) (state : MemoryState) : Result MemoryState :=
  match _h : extractEntry input with
  | none => .ok state
  | some (entry, rest) =>
    if isMemoryKey entry.key then
      match addEntry state entry with
      | .error error => .error error
      | .ok state => readEntries rest state
    else readEntries (discardLine 10 rest) state
termination_by input.length
decreasing_by
  · exact length_lt_of_extractEntry _h
  · exact Nat.lt_of_le_of_lt (length_discardLine_le rest) (length_lt_of_extractEntry _h)

def parseMemoryInfo (contents : Bytes) : Result MemoryRecord := do
  let state ← readEntries contents {}
  if !state.hasTotal || !state.hasAvailable ||
      state.result.totalBytes < state.result.availableBytes then
    metricsFailure "Missing or inconsistent memory fields"
  else return state.result

end Lx.ProcFs
