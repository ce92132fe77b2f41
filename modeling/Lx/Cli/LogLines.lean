import Lx.Cli.Console
import Lx.Application.LogService

/-!
# Lines of the log

How `src/cli/CliApp.cpp` writes a journal entry to the terminal: one line with the time,
the priority, where the entry comes from, and the message. The fields of an entry are
bytes a process chose. The message goes through `safeLogText`, which writes control bytes
as escapes; the unit and the command go through `shortened`, which only cuts them.

## Layers

- The functions of the source (§1).
- Texts without control bytes, and what is left of them by cutting (§2).
- The line: it is one line exactly if what is shown of unit and command has no control
  bytes (§3).
-/

namespace Lx.Cli

open Interaction

/-! ## §1 The functions of the source -/

def shortened (value : Bytes) (width : Nat) : Bytes :=
  if value.length ≤ width then value
  else if 3 < width then value.take (width - 3) ++ Bytes.ofString "..."
  else value.take width

/-- `{:02x}` and `{:02}`: a text of digits filled up to two of them. -/
def twoDigits (digits : Bytes) : Bytes := List.replicate (2 - digits.length) 48 ++ digits

/-- What `safeLogText` appends for one character. -/
def safeCharacter (character : UInt8) : Bytes :=
  if character = 10 then Bytes.ofString "\\n"
  else if character = 13 then Bytes.ofString "\\r"
  else if character = 9 then Bytes.ofString "\\t"
  -- every other control character, as two hexadecimal digits
  else if character < 0x20 ∨ character = 0x7f then
    Bytes.ofString "\\x" ++ twoDigits (Bytes.ofNatHex character.toNat)
  else [character]

/-- The loop of `safeLogText`, with what it has written so far. -/
def safeLogTextFrom (limit : Nat) : Bytes → Bytes → Bytes
  | [], result => result
  | character :: rest, result =>
    -- what is measured is the text written, not the one read
    if limit ≤ result.length then result ++ Bytes.ofString "..."
    else safeLogTextFrom limit rest (result ++ safeCharacter character)

def safeLogText (value : Bytes) (limit : Nat) : Bytes := safeLogTextFrom limit value []

def priorityNames : List String :=
  ["emerg", "alert", "crit", "err", "warning", "notice", "info", "debug"]

def priorityText (priority : Option Nat) : Bytes :=
  match priority with
  | none => "unknown"
  | some priority => Bytes.ofString (priorityNames.getD priority "unknown")

/-- `std::put_time` with `%F %T`. -/
def putTime (tm : LogService.Tm) : Bytes :=
  Bytes.ofInt (tm.year + 1900) ++ Bytes.ofString "-" ++ twoDigits (Bytes.ofInt (tm.mon + 1)) ++
    Bytes.ofString "-" ++ twoDigits (Bytes.ofInt tm.mday) ++ Bytes.ofString " " ++
    twoDigits (Bytes.ofInt tm.hour) ++ Bytes.ofString ":" ++ twoDigits (Bytes.ofInt tm.min) ++
    Bytes.ofString ":" ++ twoDigits (Bytes.ofInt tm.sec)

/-- The local time of an instant in nanoseconds, to the second. -/
def logTimestamp (zone : LogService.LocalTime) (timestamp : Int) : Bytes :=
  match zone.localtime (timestamp.tdiv 1000000000) with
  | none => "-"
  | some tm => putTime tm

/-- The PID of an entry in brackets. -/
def pidText (entry : JournalEntry) : Bytes :=
  match entry.pid with
  | none => []
  | some pid => Bytes.ofString "[" ++ Bytes.ofInt pid ++ Bytes.ofString "]"

def unitText (entry : JournalEntry) : Bytes := entry.systemdUnit.getD "-"

/-- Where the entry comes from. -/
def sourceText (entry : JournalEntry) : Bytes :=
  unitText entry ++ pidText entry ++
    -- the command is cut to its own width, and not made safe
    match entry.command with
    | none => []
    | some command => 32 :: shortened command 24

def journalLine (zone : LogService.LocalTime) (entry : JournalEntry) : Bytes :=
  logTimestamp zone entry.timestamp ++ Bytes.ofString " " ++
    Bytes.padRight 7 (priorityText entry.priority) ++ Bytes.ofString " " ++
    shortened (sourceText entry) 56 ++ Bytes.ofString ": " ++ safeLogText entry.message 4096 ++ [10]

def printJournalEntry (zone : LogService.LocalTime) (observed : Observation JournalEntry) :
    App Unit := do
  write (journalLine zone observed.value)
  printWarnings false observed.warnings

/-! ## §2 Texts without control bytes -/

/-- The bytes a terminal acts on instead of showing them. -/
def isControlByte (b : UInt8) : Bool := b < 0x20 || b == 0x7f

def Clean (text : Bytes) : Prop := ∀ b ∈ text, isControlByte b = false

instance (text : Bytes) : Decidable (Clean text) := List.decidableBAll (isControlByte · = false) text

@[simp] theorem clean_nil : Clean [] := fun _ h => absurd h List.not_mem_nil

@[simp] theorem clean_append {left right : Bytes} :
    Clean (left ++ right) ↔ Clean left ∧ Clean right := by
  simp only [Clean, List.mem_append, or_imp, forall_and]

@[simp] theorem clean_cons {b : UInt8} {text : Bytes} :
    Clean (b :: text) ↔ isControlByte b = false ∧ Clean text := by
  simp [Clean]

theorem Clean.take {text : Bytes} (h : Clean text) (n : Nat) : Clean (text.take n) :=
  fun b hb => h b (List.mem_of_mem_take hb)

theorem clean_replicate {n : Nat} {b : UInt8} (h : isControlByte b = false) :
    Clean (List.replicate n b) := by
  intro c hc
  rw [List.eq_of_mem_replicate hc]
  exact h

/-- A cut through two texts. -/
theorem clean_take_append {left right : Bytes} {n : Nat} :
    Clean ((left ++ right).take n) ↔ Clean (left.take n) ∧ Clean (right.take (n - left.length)) := by
  rw [List.take_append, clean_append]

theorem not_isControlByte_of_isDigit {b : UInt8} (h : Bytes.isDigit b = true) :
    isControlByte b = false := by
  simp only [Bytes.isDigit, Bool.and_eq_true, decide_eq_true_eq, UInt8.le_iff_toNat_le] at h
  have hlow : ¬ b < 0x20 := by
    rw [UInt8.lt_iff_toNat_lt]
    exact Nat.not_lt.mpr (Nat.le_trans (by decide) h.1)
  have hdelete : b ≠ 0x7f := by
    rintro rfl
    exact absurd h.2 (by decide)
  simp [isControlByte, hlow, hdelete]

theorem clean_ofNat (n : Nat) : Clean (Bytes.ofNat n) := fun _ hb =>
  not_isControlByte_of_isDigit (Bytes.isDigit_of_mem_ofNat hb)

theorem clean_ofInt (n : Int) : Clean (Bytes.ofInt n) := by
  cases n with
  | ofNat n => exact clean_ofNat n
  | negSucc n =>
    have hminus : Bytes.ofInt (Int.negSucc n) = Bytes.ofString "-" ++ Bytes.ofNat (n + 1) := by
      have htext : toString (Int.negSucc n) = "-" ++ toString (n + 1) := rfl
      rw [Bytes.ofInt, htext, Bytes.ofString, String.toList_append, List.map_append]
      rfl
    rw [hminus, clean_append]
    exact ⟨by decide, clean_ofNat (n + 1)⟩

theorem clean_twoDigits {digits : Bytes} (h : Clean digits) : Clean (twoDigits digits) :=
  clean_append.mpr ⟨clean_replicate (by decide), h⟩

/-- Control bytes are written as escapes, the others as they are. -/
theorem clean_safeCharacter (character : UInt8) : Clean (safeCharacter character) := by
  -- the control characters and DEL are below 128
  have hhex : ∀ n < 128, Clean (Bytes.ofNatHex n) := by decide
  unfold safeCharacter
  split_ifs with hnewline hreturn htab hcontrol
  · decide
  · decide
  · decide
  · have hsmall : character.toNat < 128 := by
      rcases hcontrol with hlow | rfl
      · exact Nat.lt_trans (UInt8.lt_iff_toNat_lt.mp hlow) (by decide)
      · decide
    exact clean_append.mpr ⟨by decide, clean_twoDigits (hhex _ hsmall)⟩
  · rw [not_or] at hcontrol
    simp [isControlByte, hcontrol]

theorem clean_safeLogTextFrom {limit : Nat} {value result : Bytes} (h : Clean result) :
    Clean (safeLogTextFrom limit value result) := by
  induction value generalizing result with
  | nil => exact h
  | cons character rest ih =>
    -- the text written so far stays clean, cut or not
    unfold safeLogTextFrom
    split
    · exact clean_append.mpr ⟨h, by decide⟩
    · exact ih (clean_append.mpr ⟨h, clean_safeCharacter character⟩)

/-- **Messages are safe**, whatever their bytes. -/
theorem clean_safeLogText (value : Bytes) (limit : Nat) : Clean (safeLogText value limit) :=
  clean_safeLogTextFrom clean_nil

theorem clean_priorityText (priority : Option Nat) : Clean (priorityText priority) := by
  have hnames : ∀ name ∈ priorityNames ++ ["unknown"], Clean (Bytes.ofString name) := by decide
  cases priority with
  | none => decide
  | some priority =>
    unfold priorityText
    apply hnames
    rw [List.getD_eq_getElem?_getD]
    cases hname : priorityNames[priority]? with
    | none => simp
    | some name => exact List.mem_append_left _ (List.mem_of_getElem? hname)

theorem clean_logTimestamp (zone : LogService.LocalTime) (timestamp : Int) :
    Clean (logTimestamp zone timestamp) := by
  unfold logTimestamp
  split
  · decide
  · simp only [putTime, clean_append, clean_ofInt, clean_twoDigits, true_and, and_true]
    decide

theorem clean_pidText (entry : JournalEntry) : Clean (pidText entry) := by
  unfold pidText
  split
  · exact clean_nil
  · simp only [clean_append, clean_ofInt, and_true]
    decide

/-! ## §3 What is shown of an entry -/

/-- How many bytes of a text of this length a column of this width shows, the dots apart. -/
def cut (width length : Nat) : Nat := if length ≤ width then length else width - 3

/-- The length of the source before it is cut to its column. -/
def sourceLength (entry : JournalEntry) : Nat :=
  (unitText entry).length + (pidText entry).length +
    match entry.command with
    | none => 0
    | some command => 1 + min command.length 24

/-- The part of the unit's name that reaches the terminal. -/
def shownUnit (entry : JournalEntry) : Bytes :=
  (unitText entry).take (cut 56 (sourceLength entry))

/-- The part of the command that does: it is cut to its own column first, and the unit, the
    PID and a blank come before it. -/
def shownCommand (entry : JournalEntry) : Bytes :=
  match entry.command with
  | none => []
  | some command => command.take (min
      (cut 56 (sourceLength entry) - ((unitText entry).length + (pidText entry).length + 1))
      (cut 24 command.length))

/-- A cut text is its beginning, perhaps with dots. -/
theorem shortened_eq (value : Bytes) {width : Nat} (h : 3 < width) :
    ∃ dots, Clean dots ∧ shortened value width = value.take (cut width value.length) ++ dots := by
  unfold shortened cut
  split
  · exact ⟨[], clean_nil, by simp⟩
  · exact ⟨Bytes.ofString "...", by decide, rfl⟩

theorem length_shortened (value : Bytes) {width : Nat} (h : 3 < width) :
    (shortened value width).length = min value.length width := by
  have hdots : (Bytes.ofString "...").length = 3 := by decide
  unfold shortened
  split
  · omega
  · rw [List.length_append, List.length_take, hdots]
    omega

theorem length_sourceText (entry : JournalEntry) :
    (sourceText entry).length = sourceLength entry := by
  unfold sourceText sourceLength
  cases entry.command with
  | none => simp
  | some command =>
    have hcommand : (shortened command 24).length = min command.length 24 :=
      length_shortened command (by decide)
    simp only [List.length_append, List.length_cons, hcommand]
    omega

/-- The column of the source is clean if what it shows of the unit and the command is. -/
theorem clean_source_iff (entry : JournalEntry) :
    Clean (shortened (sourceText entry) 56) ↔ Clean (shownUnit entry) ∧ Clean (shownCommand entry) := by
  obtain ⟨dots, hdots, hsource⟩ := shortened_eq (sourceText entry) (by decide : 3 < 56)
  rw [hsource, clean_append, length_sourceText, and_iff_left hdots]
  unfold sourceText shownUnit shownCommand
  rw [List.append_assoc, clean_take_append, clean_take_append,
    and_iff_right ((clean_pidText entry).take _)]
  apply and_congr_right
  intro _
  cases entry.command with
  | none => simp
  | some command =>
    -- the command has been cut once before the column cuts it again
    obtain ⟨dots, hdots, hcommand⟩ := shortened_eq command (by decide : 3 < 24)
    have hblank : isControlByte 32 = false := by decide
    dsimp only
    rw [hcommand, Nat.add_assoc, ← Nat.sub_sub, ← Nat.sub_sub]
    -- the column may already be full before the blank
    cases cut 56 (sourceLength entry) - (unitText entry).length - (pidText entry).length with
    | zero => simp
    | succ left =>
      rw [List.take_succ_cons, clean_cons, and_iff_right hblank, clean_take_append,
        and_iff_left (hdots.take _), List.take_take, Nat.add_sub_cancel]

/-- One line: the newline at its end is the only control byte. -/
def OneLine (text : Bytes) : Prop := ∃ line, text = line ++ [10] ∧ Clean line

/-- The texts written to the output stream, one after the other. -/
def printed (t : Trace Contract) : Bytes :=
  t.flatMap fun
    | ⟨.write text, _⟩ => text
    | _ => []

/-- Warnings go to the error stream. -/
theorem printed_printWarnings {quiet : Bool} {warnings : List Warning} {t : Trace Contract}
    (h : (printWarnings quiet warnings).Run t ()) : printed t = [] := by
  induction warnings generalizing t with
  | nil =>
    obtain ⟨rfl, -⟩ := h
    rfl
  | cons warning rest ih =>
    cases quiet with
    | true => exact ih h
    | false =>
      obtain ⟨_, t₁, t₂, hfirst, hrest, rfl⟩ := Prog.run_bind_iff.mp h
      obtain rfl := Prog.run_perform.mp hfirst
      have hnone : printed t₂ = [] := ih hrest
      simpa [printed] using hnone

theorem printed_printJournalEntry {zone : LogService.LocalTime}
    {observed : Observation JournalEntry} {t : Trace Contract}
    (h : (printJournalEntry zone observed).Run t ()) : printed t = journalLine zone observed.value := by
  obtain ⟨_, t₁, t₂, hline, hwarnings, rfl⟩ := Prog.run_bind_iff.mp h
  obtain rfl := Prog.run_perform.mp hline
  have hnone := printed_printWarnings hwarnings
  simp only [printed, List.singleton_append, List.flatMap_cons] at hnone ⊢
  rw [hnone, List.append_nil]

/-- **One safe line per entry, or not.** The message, the priority and the time are safe for
    every entry. The unit and the command are written as they are, so the line is one line
    exactly if the parts of them that fit into the column have no control bytes. -/
theorem printJournalEntry_oneLine_iff (zone : LogService.LocalTime)
    (observed : Observation JournalEntry) (t : Trace Contract)
    (h : (printJournalEntry zone observed).Run t ()) :
    OneLine (printed t) ↔ Clean (shownUnit observed.value) ∧ Clean (shownCommand observed.value) := by
  rw [printed_printJournalEntry h, ← clean_source_iff]
  -- everything but the source is clean by itself
  have hpriority : Clean (Bytes.padRight 7 (priorityText observed.value.priority)) :=
    clean_append.mpr ⟨clean_priorityText _, clean_replicate (by decide)⟩
  have hblank : Clean (Bytes.ofString " ") := by decide
  have hcolon : Clean (Bytes.ofString ": ") := by decide
  constructor
  · rintro ⟨line, htext, hline⟩
    -- the text before the last byte is what was put together
    rw [← (List.append_inj_left' htext rfl)] at hline
    simp only [clean_append] at hline
    exact hline.1.1.2
  · intro hsource
    refine ⟨_, rfl, ?_⟩
    simp only [clean_append]
    exact ⟨⟨⟨⟨⟨⟨clean_logTimestamp zone _, hblank⟩, hpriority⟩, hblank⟩, hsource⟩, hcolon⟩,
      clean_safeLogText _ _⟩

/-- An entry of a well-behaved process. -/
def quietEntry : JournalEntry :=
  { systemdUnit := some (Bytes.ofString "demo.service")
    command := some (Bytes.ofString "demo")
    message := Bytes.ofString "first\nsecond" }

theorem printJournalEntry_oneLine_quiet :
    OneLine (printed [⟨.write (journalLine LogService.noAbsolute quietEntry), ()⟩]) := by
  have hrun : (printJournalEntry LogService.noAbsolute ⟨quietEntry, []⟩).Run
      [⟨.write (journalLine LogService.noAbsolute quietEntry), ()⟩] () :=
    ⟨(), [], rfl, rfl, rfl⟩
  exact (printJournalEntry_oneLine_iff _ _ _ hrun).mpr (by decide)

/-- An entry of a process that named itself after the sequence that clears the screen. -/
def escapingEntry : JournalEntry := { command := some (27 :: Bytes.ofString "[2J") }

/-- The escape character of a command reaches the terminal. -/
theorem command_escape_printed :
    ∃ t, (printJournalEntry LogService.noAbsolute ⟨escapingEntry, []⟩).Run t () ∧
      27 ∈ printed t ∧ ¬ OneLine (printed t) := by
  refine ⟨[⟨.write (journalLine LogService.noAbsolute escapingEntry), ()⟩],
    ⟨(), [], rfl, rfl, rfl⟩, by decide, ?_⟩
  rintro ⟨line, htext, hline⟩
  have htext' : journalLine LogService.noAbsolute escapingEntry = line ++ [10] := by
    simpa [printed] using htext
  -- the line is what stands before the newline, escape included
  have hdrop : line = (journalLine LogService.noAbsolute escapingEntry).dropLast := by
    rw [htext', List.dropLast_concat]
  rw [hdrop] at hline
  revert hline
  decide

end Lx.Cli
