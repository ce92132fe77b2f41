import Lx.Application.ServiceService
import Lx.Lib.Overflow

/-!
# LogService

Checking log queries, and reading `--since` times (`src/application/LogService.cpp`).
Times are nanoseconds since the epoch in a signed 64-bit integer, as `system_clock` of
libstdc++ has them; the arithmetic on them is that of `Lx.Lib.Overflow`.
-/

namespace Lx

open Interaction Overflow

/-- The log layer; its only member is the journal provider it calls. -/
structure LogService where
  deriving DecidableEq, Repr

namespace LogService

def invalid (message operation : Bytes) : Error := ⟨.invalidArgument, message, 0, "log", operation⟩

/-! ## §1 Queries -/

/-- Check a query; the unit comes back normalised. -/
def normalize (query : LogQuery) : Result LogQuery :=
  if query.unit.isNone ∧ query.pid.isNone then
    .error (invalid "A service unit or PID is required for log queries" "validate query")
  else if query.pid.any (· ≤ 0) then
    .error (invalid "PID must be greater than zero" "validate query")
  else if query.limit = 0 ∨ query.limit > 10000 then
    .error (invalid "Log line limit must be between 1 and 10000" "validate query")
  else
    match query.unit with
    | none => .ok query
    | some unit =>
      (ServiceService.normalizeUnit unit).map fun normalized => { query with unit := some normalized }

def read (_self : LogService) (query : LogQuery) : App (Result (Observation (List JournalEntry))) :=
  match normalize query with
  | .error error => return .error error
  | .ok normalized => contract (.queryJournal normalized)

/-! ## §2 Relative times -/

/-- The seconds of one unit; nothing for another letter. -/
def multiplierOf (unit : UInt8) : Option Nat :=
  if unit = 115 then some 1
  else if unit = 109 then some 60
  else if unit = 104 then some (60 * 60)
  else if unit = 100 then some (24 * 60 * 60)
  else none

/-- `now - seconds`: the seconds are converted to nanoseconds first. -/
def before (now seconds : Int) : Computed Int := do
  let nanoseconds ← mul seconds 1000000000
  sub now nanoseconds

def parseRelative (value : Bytes) (now : Int) : Computed (Result Int) :=
  if value.length < 2 then
    return .error (invalid
      "Invalid relative time; use forms such as 30s, 10m, 2h, or 3d" "parse since")
  else
    match Bytes.fromChars 64 value.dropLast with
    | none => return .error (invalid
        "Invalid relative time; use forms such as 30s, 10m, 2h, or 3d" "parse since")
    | some amount =>
      match multiplierOf (value.getLastD 0) with
      | none => return .error (invalid
          "Invalid relative time unit; expected s, m, h, or d" "parse since")
      | some multiplier => do
        if amount > (2 ^ 63 - 1) / multiplier then
          return .error (invalid "Relative time is out of range" "parse since")
        else
          let since ← before now (amount * multiplier : Nat)
          if since < 0 then
            return .error (invalid "Relative time precedes the Unix epoch" "parse since")
          else return .ok since

/-! ## §3 Absolute times -/

/-- A broken-down local time. -/
structure Tm where
  year : Int
  mon : Int
  mday : Int
  hour : Int
  min : Int
  sec : Int
  deriving DecidableEq, Repr

/-- The parts of the C library that depend on the time zone and the locale. -/
structure LocalTime where
  /-- `std::get_time` with `%Y-%m-%d %H:%M:%S`: the time read and the text left over. -/
  getTime : Bytes → Option (Tm × Bytes)
  /-- `mktime`, with the daylight saving flag unknown; `-1` on failure. -/
  mktime : Tm → Int
  /-- `localtime_r` -/
  localtime : Int → Option Tm

/-- All six members agree. -/
def sameLocalTime (zone : LocalTime) (expected : Tm) (value : Int) : Bool :=
  zone.localtime value == some expected

def parseAbsolute (zone : LocalTime) (value : Bytes) : Computed (Result Int) :=
  match zone.getTime value with
  | none => return .error (invalid
      "Invalid absolute time; expected YYYY-MM-DD HH:MM:SS" "parse since")
  | some (expected, rest) =>
    if !rest.all Bytes.isSpace then
      return .error (invalid "Absolute time contains trailing characters" "parse since")
    else
      let converted := zone.mktime expected
      if converted < 0 ∨ !sameLocalTime zone expected converted then
        return .error (invalid "Absolute time is not a valid local date" "parse since")
      else return .ok (← mul converted 1000000000)

def parseSince (zone : LocalTime) (value : Bytes) (now : Int) : Computed (Result Int) :=
  match value.getLast? with
  | none => parseAbsolute zone value
  | some suffix =>
    if suffix = 115 ∨ suffix = 109 ∨ suffix = 104 ∨ suffix = 100 then parseRelative value now
    else parseAbsolute zone value

/-! ## §4 Exact or rejected -/

/-- What is asked of a relative time: it is subtracted exactly if `now` is that long after
    the epoch, it is rejected as an invalid argument otherwise, and nothing overflows. -/
def ExactOrRejected (zone : LocalTime) (value : Bytes) (now nanoseconds : Int) : Prop :=
  (parseSince zone value now).overflowed = false ∧
    if nanoseconds ≤ now then (parseSince zone value now).value = .ok (now - nanoseconds)
    else ∃ error, (parseSince zone value now).value = .error error ∧ error.code = .invalidArgument

section

variable {zone : LocalTime} {digits : Bytes} {unit : UInt8} {amount multiplier : Nat} {now : Int}

theorem multiplierOf_pos (h : multiplierOf unit = some multiplier) : 1 ≤ multiplier := by
  unfold multiplierOf at h
  split_ifs at h <;> cases h <;> decide

theorem decimal_ne_nil (h : Bytes.decimal digits = some amount) : digits ≠ [] := by
  rintro rfl
  cases h

/-- A text of digits and a unit is read as a relative time. -/
theorem parseSince_relative (hamount : Bytes.decimal digits = some amount)
    (hunit : multiplierOf unit = some multiplier) :
    parseSince zone (digits ++ [unit]) now =
      if amount < 2 ^ 64 ∧ amount ≤ (2 ^ 63 - 1) / multiplier then do
        let since ← before now (amount * multiplier : Nat)
        if since < 0 then
          return .error (invalid "Relative time precedes the Unix epoch" "parse since")
        else return .ok since
      else if amount < 2 ^ 64 then
        return .error (invalid "Relative time is out of range" "parse since")
      else return .error (invalid
        "Invalid relative time; use forms such as 30s, 10m, 2h, or 3d" "parse since") := by
  -- a text that ends in one of the letters is never taken for an absolute time
  have hletter : unit = 115 ∨ unit = 109 ∨ unit = 104 ∨ unit = 100 := by
    unfold multiplierOf at hunit
    split_ifs at hunit <;> simp_all
  have hlength : ¬(digits ++ [unit]).length < 2 := by
    have hpos := List.length_pos_iff.mpr (decimal_ne_nil hamount)
    simp only [List.length_append, List.length_singleton]
    omega
  have hlast : (digits ++ [unit]).getLastD 0 = unit := by simp
  rw [parseSince, List.getLast?_concat]
  dsimp only
  rw [if_pos hletter, parseRelative, if_neg hlength, List.dropLast_concat, hlast, hunit]
  -- `from_chars` refuses what does not fit into an unsigned 64-bit number
  by_cases hword : amount < 2 ^ 64
  · rw [Bytes.fromChars_of_lt hamount hword]
    dsimp only
    by_cases hrange : amount ≤ (2 ^ 63 - 1) / multiplier
    · rw [if_neg (Nat.not_lt.mpr hrange), if_pos ⟨hword, hrange⟩]
    · rw [if_pos (Nat.not_le.mp hrange), if_neg (fun h => hrange h.2), if_pos hword]
  · rw [Bytes.fromChars_of_ge hamount hword, if_neg (fun h => hword h.1), if_neg hword]

/-- Both operations of the subtraction fit as long as the first one does. -/
theorem before_of_fits {seconds : Int} (hnow : 0 ≤ now) (hfits : Fits now) (hseconds : 0 ≤ seconds)
    (h : Fits (seconds * 1000000000)) :
    before now seconds = pure (now - seconds * 1000000000) := by
  have hdifference : Fits (now - seconds * 1000000000) := by
    obtain ⟨-, hhigh⟩ := hfits
    obtain ⟨-, hlimit⟩ := h
    constructor
    · omega
    · omega
  have hproduct : mul seconds 1000000000 = pure (seconds * 1000000000) := result_of_fits h
  have hsub : sub now (seconds * 1000000000) = pure (now - seconds * 1000000000) :=
    result_of_fits hdifference
  rw [before, hproduct]
  exact hsub

theorem before_overflowed {seconds : Int} (h : ¬Fits (seconds * 1000000000)) :
    (before now seconds).overflowed = true := by
  have hproduct : (mul seconds 1000000000).overflowed = true := result_overflowed h
  rw [before, Computed.overflowed_bind, hproduct, Bool.true_or]

/-- The nanoseconds fit into 64 bits up to 9223372036 seconds, some 292 years. -/
theorem fits_nanoseconds_iff (seconds : Nat) :
    Fits ((seconds : Int) * 1000000000) ↔ seconds ≤ 9223372036 := by
  unfold Fits
  omega

/-- **Relative times are exact or rejected, except where only the seconds fit.** -/
theorem parseSince_exact_iff (hamount : Bytes.decimal digits = some amount)
    (hunit : multiplierOf unit = some multiplier) (hnow : 0 ≤ now) (hfits : Fits now) :
    ExactOrRejected zone (digits ++ [unit]) now ((amount * multiplier : Nat) * 1000000000) ↔
      amount * multiplier ≤ 9223372036 ∨ 9223372036854775807 < amount * multiplier := by
  have hpos := multiplierOf_pos hunit
  unfold ExactOrRejected
  rw [parseSince_relative hamount hunit]
  -- the guard of the source divides so as not to overflow itself
  have hguard : amount ≤ (2 ^ 63 - 1) / multiplier ↔ amount * multiplier ≤ 2 ^ 63 - 1 :=
    Nat.le_div_iff_mul_le hpos
  -- no clock is that long after the epoch
  have hnever : 9223372036854775807 < amount * multiplier →
      ¬((amount * multiplier : Nat) * 1000000000 : Int) ≤ now := by
    intro hlarge
    obtain ⟨-, hhigh⟩ := hfits
    omega
  have hamount_le : amount ≤ amount * multiplier := Nat.le_mul_of_pos_right amount hpos
  by_cases hrange : amount * multiplier ≤ 9223372036854775807
  · have hword : amount < 2 ^ 64 := by omega
    rw [if_pos ⟨hword, hguard.mpr (by omega)⟩]
    by_cases hexact : amount * multiplier ≤ 9223372036
    · -- nothing overflows, and the epoch check sees the exact difference
      rw [before_of_fits hnow hfits (by omega) ((fits_nanoseconds_iff _).mpr hexact)]
      refine iff_of_true ?_ (.inl hexact)
      rw [Computed.bind_pure]
      by_cases hepoch : ((amount * multiplier : Nat) * 1000000000 : Int) ≤ now
      · rw [if_neg (by omega), if_pos hepoch]
        exact ⟨rfl, rfl⟩
      · rw [if_pos (by omega), if_neg hepoch]
        exact ⟨rfl, _, rfl, rfl⟩
    · -- the conversion to nanoseconds overflows
      have hover : (before now (amount * multiplier : Nat)).overflowed = true :=
        before_overflowed (mt (fits_nanoseconds_iff _).mp hexact)
      refine iff_of_false (fun h => ?_) (by omega)
      rw [Computed.overflowed_bind, hover, Bool.true_or] at h
      cases h.1
  · -- the guard rejects it, and rightly so
    have hlarge : 9223372036854775807 < amount * multiplier := by omega
    have hrejected : ¬(amount < 2 ^ 64 ∧ amount ≤ (2 ^ 63 - 1) / multiplier) := by
      rw [hguard]
      omega
    rw [if_neg hrejected, if_neg (hnever hlarge)]
    refine iff_of_true ?_ (.inr hlarge)
    split_ifs
    · exact ⟨rfl, _, rfl, rfl⟩
    · exact ⟨rfl, _, rfl, rfl⟩

end

/-- A C library that reads no absolute time at all. -/
def noAbsolute : LocalTime := ⟨fun _ => none, fun _ => -1, fun _ => none⟩

/-- Two days before the second billennium. -/
theorem parseSince_two_days :
    ExactOrRejected noAbsolute (Bytes.ofString "2" ++ [100]) 2000000000000000000
      ((2 * 86400 : Nat) * 1000000000) := by
  have hamount : Bytes.decimal (Bytes.ofString "2") = some 2 := by decide
  have hunit : multiplierOf 100 = some 86400 := by decide
  exact (parseSince_exact_iff hamount hunit (by decide) (by decide)).mpr (.inl (by decide))

/-- **Some 585 years are taken for 0.29 seconds.** The seconds pass the guard, their
    nanoseconds do not fit, and what is left of them passes the epoch check. -/
theorem parseSince_wraps :
    parseSince noAbsolute (Bytes.ofString "18446744074s") 2000000000000000000 =
        ⟨.ok (2000000000000000000 - 290448384), true⟩ ∧
      ¬ExactOrRejected noAbsolute (Bytes.ofString "18446744074" ++ [115]) 2000000000000000000
        ((18446744074 * 1 : Nat) * 1000000000) := by
  have hwrapped : parseSince noAbsolute (Bytes.ofString "18446744074s") 2000000000000000000 =
      ⟨.ok (2000000000000000000 - 290448384), true⟩ := by decide
  refine ⟨hwrapped, fun h => ?_⟩
  have htext : Bytes.ofString "18446744074" ++ [115] = Bytes.ofString "18446744074s" := by decide
  have hover := h.1
  rw [htext, hwrapped] at hover
  cases hover

end LogService

end Lx
