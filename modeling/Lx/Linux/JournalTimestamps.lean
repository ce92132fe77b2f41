import Lx.Cli.JsonSerializer
import Lx.Lib.Overflow
import Lx.Linux.SystemdJournalProvider

/-!
# Journal timestamps

`readCurrentEntry` accepts every realtime value up to the largest signed 64-bit number of
microseconds. The entry keeps it in nanoseconds, which takes a thousand times the range,
and `journalValue` divides again. Values that the multiplication takes out of range come
out as others, and in another order.
-/

namespace Lx.Journal

open Interaction Overflow Cli

/-! ## §1 From the journal to the document -/

/-- The conversion of `std::chrono::microseconds` to the nanoseconds of `system_clock`. -/
def toNanoseconds (usec : Nat) : Computed Int := mul usec 1000

theorem timestamp_eq (fields : JournalFields) :
    (journalEntryFromFields fields).value.timestamp = (toNanoseconds fields.timestampUsec).value :=
  rfl

theorem assemble_timestamp {timestampUsec : Nat} {cursor : Bytes}
    {unit pid command message priority : Result (Option Bytes)} {observed : Observation JournalEntry}
    (h : assemble timestampUsec cursor unit pid command message priority = .ok observed) :
    observed.value.timestamp = (toNanoseconds timestampUsec).value := by
  obtain ⟨unit', pid', command', message', priority', -, -, -, -, -, hvalue⟩ := assemble_ok h
  rw [hvalue]
  exact timestamp_eq _

/-- An entry that was read has the time of the journal, which had to be in range. -/
theorem readCurrentEntry_timestamp {systemMessage : Int → Bytes} {t : Trace SdJournal}
    {observed : Observation JournalEntry}
    (h : (readCurrentEntry systemMessage).Run t (.ok observed)) :
    ∃ usec rest, t = ⟨.getRealtimeUsec, .ok usec⟩ :: rest ∧ usec ≤ 2 ^ 63 - 1 ∧
      observed.value.timestamp = (toNanoseconds usec).value := by
  obtain ⟨realtime, t₁, t₂, hread, hk, rfl⟩ := Prog.run_bind_iff.mp h
  obtain rfl := Prog.run_perform.mp hread
  cases realtime with
  | error number => cases hk.2
  | ok usec =>
    dsimp only at hk
    by_cases hrange : usec > 2 ^ 63 - 1
    · rw [if_pos hrange] at hk
      cases hk.2
    rw [if_neg hrange] at hk
    refine ⟨usec, t₂, rfl, by omega, ?_⟩
    obtain ⟨cursor, _, _, -, hk, -⟩ := Prog.run_bind_iff.mp hk
    cases cursor with
    | error number => cases hk.2
    | ok cursor =>
      obtain ⟨unit, _, _, -, hk, -⟩ := Prog.run_bind_iff.mp hk
      obtain ⟨pid, _, _, -, hk, -⟩ := Prog.run_bind_iff.mp hk
      obtain ⟨command, _, _, -, hk, -⟩ := Prog.run_bind_iff.mp hk
      obtain ⟨message, _, _, -, hk, -⟩ := Prog.run_bind_iff.mp hk
      obtain ⟨priority, _, _, -, hk, -⟩ := Prog.run_bind_iff.mp hk
      exact assemble_timestamp hk.2.symm

/-- The member of an object with this key. -/
def memberOf (key : String) : Json → Option Json
  | .object members => members.lookup (Bytes.ofString key)
  | _ => none

theorem memberOf_timestamp (entry : JournalEntry) :
    memberOf "timestamp_unix_usec" (JsonSerializer.journalValue entry) =
      some (.number (entry.timestamp.tdiv 1000)) := by
  simp [memberOf, JsonSerializer.journalValue, JsonSerializer.member]

/-- The document shows the time the journal gave, and the conversion did not overflow. -/
def Survives (fields : JournalFields) : Prop :=
  memberOf "timestamp_unix_usec"
      (JsonSerializer.journalValue (journalEntryFromFields fields).value) =
    some (.number fields.timestampUsec) ∧
  (toNanoseconds fields.timestampUsec).overflowed = false

/-! ## §2 Which times survive -/

/-- Nanoseconds reach to the year 2262. -/
theorem fits_microseconds_iff (usec : Nat) : Fits ((usec : Int) * 1000) ↔ usec ≤ 9223372036854775 := by
  unfold Fits
  omega

theorem toNanoseconds_of_le {usec : Nat} (h : usec ≤ 9223372036854775) :
    toNanoseconds usec = pure ((usec : Int) * 1000) :=
  result_of_fits ((fits_microseconds_iff usec).mpr h)

theorem survives_iff (fields : JournalFields) :
    Survives fields ↔ fields.timestampUsec ≤ 9223372036854775 := by
  constructor
  · rintro ⟨-, hfits⟩
    by_contra hlarge
    have hover : (toNanoseconds fields.timestampUsec).overflowed = true :=
      result_overflowed (mt (fits_microseconds_iff _).mp hlarge)
    rw [hover] at hfits
    cases hfits
  · intro h
    have hnanoseconds := toNanoseconds_of_le h
    refine ⟨?_, by rw [hnanoseconds]; rfl⟩
    rw [memberOf_timestamp, timestamp_eq, hnanoseconds]
    have hback : ((fields.timestampUsec : Int) * 1000).tdiv 1000 = fields.timestampUsec :=
      Int.mul_tdiv_cancel _ (by decide)
    exact congrArg (fun usec => some (Json.number usec)) hback

/-- **Timestamps survive exactly up to 9223372036854775 µs.** Up to there the document of
    an entry shows its time, and every earlier entry compares as earlier. -/
theorem timestamp_survives_iff (fields : JournalFields) :
    (Survives fields ∧ ∀ earlier : JournalFields, earlier.timestampUsec < fields.timestampUsec →
      (journalEntryFromFields earlier).value.timestamp <
        (journalEntryFromFields fields).value.timestamp) ↔
      fields.timestampUsec ≤ 9223372036854775 := by
  refine ⟨fun h => (survives_iff fields).mp h.1, fun h => ⟨(survives_iff fields).mpr h, ?_⟩⟩
  intro earlier hearlier
  have hsmall : earlier.timestampUsec ≤ 9223372036854775 := by omega
  rw [timestamp_eq, timestamp_eq, toNanoseconds_of_le h, toNanoseconds_of_le hsmall]
  show (earlier.timestampUsec : Int) * 1000 < fields.timestampUsec * 1000
  omega

/-- The fields of an entry with this time and nothing else. -/
def entryAt (timestampUsec : Nat) : JournalFields := ⟨timestampUsec, [], none, none, none, none, none⟩

/-- **The last accepted time becomes one before the epoch.** -/
theorem timestamp_wraps :
    memberOf "timestamp_unix_usec"
        (JsonSerializer.journalValue (journalEntryFromFields (entryAt (2 ^ 63 - 1))).value) =
      some (.number (-1)) ∧
    (journalEntryFromFields (entryAt (2 ^ 63 - 1))).value.timestamp <
      (journalEntryFromFields (entryAt 0)).value.timestamp ∧
    (toNanoseconds (2 ^ 63 - 1)).overflowed = true := by
  have htimestamp : (journalEntryFromFields (entryAt (2 ^ 63 - 1))).value.timestamp = -1000 := by
    decide
  refine ⟨?_, ?_, by decide⟩
  · rw [memberOf_timestamp, htimestamp]
    rfl
  · rw [htimestamp]
    decide

end Lx.Journal
