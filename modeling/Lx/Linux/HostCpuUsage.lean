import Lx.Application.MetricsService
import Lx.Linux.ProcFsRecords
import Lx.Linux.SystemMetricsParser
import Mathlib.Algebra.Order.BigOperators.Group.List
import Mathlib.Tactic.Ring

/-!
# The usage of the host's CPUs

The aggregate row of `/proc/stat` has ten counters, and two of them overlap with others:
what a guest runs is accounted to `guest` and to `user`, or to `guest_nice` and to `nice`.
`parseCpuTimes` adds up all ten, so that the time of guests is in the total twice, and
`MetricsService.compare` divides by the difference of two such totals.

## Layers

- Rows, and the ticks in them with every tick counted once (§1).
- What `parseCpuTimes` makes of a row (§2).
- Two successive rows, and the usage reported between them (§3).
-/

namespace Lx.ProcFs

open Tokens

/-! ## §1 Rows -/

/-- The counters of the aggregate row, as the kernel accounts them. -/
structure CpuRow where
  user : Nat
  nice : Nat
  system : Nat
  idle : Nat
  iowait : Nat
  irq : Nat
  softirq : Nat
  steal : Nat
  guest : Nat
  guestNice : Nat
  /-- The time of guests is part of `user`, -/
  guest_le : guest ≤ user
  /-- and that of niced guests is part of `nice`. -/
  guestNice_le : guestNice ≤ nice

namespace CpuRow

variable (row : CpuRow)

/-- The counters in the order of the row. -/
def columns : List Nat :=
  [row.user, row.nice, row.system, row.idle, row.iowait, row.irq, row.softirq, row.steal,
    row.guest, row.guestNice]

def idleTicks : Nat := row.idle + row.iowait

def guestTicks : Nat := row.guest + row.guestNice

/-- Every tick in which a CPU was busy, with what it was busy with: the time of guests is
    taken out of the counters it is part of. -/
def busyTicks : Nat :=
  (row.user - row.guest) + row.guest + (row.nice - row.guestNice) + row.guestNice +
    row.system + row.irq + row.softirq + row.steal

def ticks : Nat := row.busyTicks + row.idleTicks

/-- The counters that guests are part of have all there is to count. -/
theorem busyTicks_eq :
    row.busyTicks = row.user + row.nice + row.system + row.irq + row.softirq + row.steal := by
  have hguest := row.guest_le
  have hnice := row.guestNice_le
  unfold busyTicks
  omega

/-- The time of guests is in the sum of the columns once more. -/
theorem sum_columns : row.columns.sum = row.ticks + row.guestTicks := by
  rw [ticks, busyTicks_eq]
  simp only [columns, idleTicks, guestTicks, List.sum_cons, List.sum_nil]
  omega

end CpuRow

/-- `/proc/stat` with a given row. What follows the first line is not read. -/
structure CpuText where
  row : CpuRow
  fields : List (Blanks × Numeral)
  values : fields.map (·.2.value) = row.columns
  rest : Bytes
  newline : rest = [] ∨ ∃ lines, rest = 10 :: lines

namespace CpuText

variable (stat : CpuText)

def columnsText : Bytes := stat.fields.flatMap fun field => field.1.val ++ field.2.digits

def text : Bytes := Bytes.ofString "cpu" ++ stat.columnsText ++ stat.rest

end CpuText

/-! ## §2 Reading a row -/

/-- What a column that is read adds to the variables. -/
def column (state : CpuState) (value : Nat) : CpuState where
  result :=
    { totalTicks := state.result.totalTicks + value
      idleTicks :=
        if state.index = 3 ∨ state.index = 4 then state.result.idleTicks + value
        else state.result.idleTicks }
  index := state.index + 1

theorem checkedAdd_of_lt {sum value : Nat} (h : sum + value < 2 ^ 64) :
    checkedAdd sum value = some (sum + value) := by
  rw [checkedAdd, if_neg (by omega)]

theorem addColumn_digits {state : CpuState} (number : Numeral)
    (hidle : state.result.idleTicks ≤ state.result.totalTicks)
    (hsum : state.result.totalTicks + number.value < 2 ^ 64) :
    addColumn state number.digits = .ok (column state number.value) := by
  have hvalue : Bytes.fromChars 64 number.digits = some number.value :=
    Bytes.fromChars_of_lt number.reads (by omega)
  have hadd : checkedAdd state.result.idleTicks number.value =
      some (state.result.idleTicks + number.value) := checkedAdd_of_lt (by omega)
  simp only [addColumn, hvalue, Option.bind_some, checkedAdd_of_lt hsum, Option.map_some, hadd,
    column]
  split <;> rfl

/-- Columns are added one after the other as long as their sum fits. -/
theorem foldlM_addColumn (numbers : List Numeral) (state : CpuState)
    (hidle : state.result.idleTicks ≤ state.result.totalTicks)
    (hsum : state.result.totalTicks + (numbers.map (·.value)).sum < 2 ^ 64) :
    (numbers.map (·.digits)).foldlM addColumn state =
      .ok ((numbers.map (·.value)).foldl column state) := by
  induction numbers generalizing state with
  | nil => rfl
  | cons number numbers ih =>
    rw [List.map_cons, List.sum_cons] at hsum
    have hstep := addColumn_digits number hidle (by omega)
    -- idle time is added to both sums or to the total alone
    have hidle' : (column state number.value).result.idleTicks ≤
        (column state number.value).result.totalTicks := by
      simp only [column]
      split <;> omega
    have hsum' : (column state number.value).result.totalTicks +
        (numbers.map (·.value)).sum < 2 ^ 64 := by
      simp only [column]
      omega
    rw [List.map_cons, List.foldlM_cons, hstep, List.map_cons, List.foldl_cons]
    exact ih _ hidle' hsum'

namespace CpuText

variable (stat : CpuText)

/-- Nothing of a row is a line end. -/
theorem newline_notMem : 10 ∉ Bytes.ofString "cpu" ++ stat.columnsText := by
  intro hmem
  rw [List.mem_append, columnsText, List.mem_flatMap] at hmem
  rcases hmem with hmem | ⟨field, -, hmem⟩
  · exact absurd hmem (by decide)
  · rcases List.mem_append.mp hmem with hgap | hdigits
    · exact newline_notMem_blanks field.1 hgap
    · exact field.2.notMem_of_not_isDigit (by decide) hdigits

/-- The first line is the row. -/
theorem takeWhile_text :
    stat.text.takeWhile (· ≠ 10) = Bytes.ofString "cpu" ++ stat.columnsText := by
  rw [text, List.takeWhile_append_of_pos (ne_newline_of_mem stat.newline_notMem)]
  rcases stat.newline with hrest | ⟨lines, hrest⟩ <;> simp [hrest]

/-- The columns as gaps and words. -/
def tokens : List (Bytes × Bytes) := stat.fields.map fun field => (field.1.val, field.2.digits)

theorem columnsText_eq : stat.columnsText = stat.tokens.flatMap fun token => token.1 ++ token.2 := by
  rw [tokens, List.flatMap_map]
  rfl

theorem isGap_isWord_tokens {token : Bytes × Bytes} (h : token ∈ stat.tokens) :
    IsGap Bytes.isSpace token.1 ∧ IsWord Bytes.isSpace token.2 := by
  obtain ⟨⟨gap, number⟩, -, rfl⟩ := List.mem_map.mp h
  exact ⟨isGap_blanks gap, isWord_digits number⟩

/-- Its first word is the label. -/
theorem extract_label :
    extract Bytes.isSpace (Bytes.ofString "cpu" ++ stat.columnsText) =
      some (Bytes.ofString "cpu", stat.columnsText) := by
  have hword : IsWord Bytes.isSpace (Bytes.ofString "cpu") := by decide
  -- what follows the label starts with a gap
  have hrest : stat.columnsText.takeWhile (!Bytes.isSpace ·) = [] := by
    rw [columnsText_eq]
    exact takeWhile_flatMap fun token htoken => (stat.isGap_isWord_tokens htoken).1
  exact extract_append (List.forall_mem_nil _) hword hrest

/-- The other words are its numerals. -/
theorem words_columnsText :
    words Bytes.isSpace stat.columnsText = (stat.fields.map Prod.snd).map (·.digits) := by
  rw [columnsText_eq, words_flatMap fun token htoken => stat.isGap_isWord_tokens htoken, tokens,
    List.map_map, List.map_map]
  rfl

/-- They add up to what the row says. -/
theorem foldlM_fields (h : stat.row.columns.sum < 2 ^ 64) :
    ((stat.fields.map Prod.snd).map (·.digits)).foldlM addColumn {} =
      .ok ⟨⟨stat.row.columns.sum, stat.row.idleTicks⟩, 10⟩ := by
  have hvalues : (stat.fields.map Prod.snd).map (·.value) = stat.row.columns := by
    rw [← stat.values, List.map_map]
    rfl
  have hsum : 0 + ((stat.fields.map Prod.snd).map (·.value)).sum < 2 ^ 64 := by
    rwa [hvalues, Nat.zero_add]
  rw [foldlM_addColumn _ _ (Nat.le_refl 0) hsum, hvalues]
  -- the columns with the indices 3 and 4 are those of the idle time
  simp [CpuRow.columns, CpuRow.idleTicks, column, Nat.add_assoc]

end CpuText

/-- **Reading a row** gives the sum of all its columns, and what was idle. -/
theorem parseCpuTimes_text (stat : CpuText) (h : stat.row.columns.sum < 2 ^ 64) :
    parseCpuTimes stat.text = .ok ⟨stat.row.columns.sum, stat.row.idleTicks⟩ := by
  simp only [parseCpuTimes, stat.takeWhile_text, stat.extract_label, Option.getD_some, ne_eq,
    not_true_eq_false, if_false, stat.words_columnsText, stat.foldlM_fields h]
  rfl

/-! ## §3 Usage between two rows -/

/-- Two successive rows: no counter runs backwards, the sums fit into 64 bits, and time has
    passed in between. -/
structure CpuInterval where
  before : CpuText
  after : CpuText
  monotone : List.Forall₂ (· ≤ ·) before.row.columns after.row.columns
  fits : after.row.columns.sum < 2 ^ 64
  elapsed : before.row.ticks < after.row.ticks

namespace CpuInterval

variable (interval : CpuInterval)

/-- Ticks that elapsed, each counted once. -/
def ticks : Nat := interval.after.row.ticks - interval.before.row.ticks

/-- The part of them that is neither idle nor I/O wait. -/
def busyTicks : Nat := interval.after.row.busyTicks - interval.before.row.busyTicks

def idleTicks : Nat := interval.after.row.idleTicks - interval.before.row.idleTicks

def guestTicks : Nat := interval.after.row.guestTicks - interval.before.row.guestTicks

theorem before_fits : interval.before.row.columns.sum < 2 ^ 64 :=
  Nat.lt_of_le_of_lt interval.monotone.sum_le_sum interval.fits

theorem busyTicks_le : interval.before.row.busyTicks ≤ interval.after.row.busyTicks := by
  have hmonotone := interval.monotone
  simp only [CpuRow.columns, List.forall₂_cons] at hmonotone
  rw [CpuRow.busyTicks_eq, CpuRow.busyTicks_eq]
  omega

theorem idleTicks_le : interval.before.row.idleTicks ≤ interval.after.row.idleTicks := by
  have hmonotone := interval.monotone
  simp only [CpuRow.columns, List.forall₂_cons] at hmonotone
  simp only [CpuRow.idleTicks]
  omega

theorem guestTicks_le : interval.before.row.guestTicks ≤ interval.after.row.guestTicks := by
  have hmonotone := interval.monotone
  simp only [CpuRow.columns, List.forall₂_cons] at hmonotone
  simp only [CpuRow.guestTicks]
  omega

/-- Every tick is a busy one or an idle one. -/
theorem ticks_eq : interval.ticks = interval.busyTicks + interval.idleTicks := by
  have hbusy := interval.busyTicks_le
  have hidle := interval.idleTicks_le
  simp only [ticks, busyTicks, idleTicks, CpuRow.ticks]
  omega

theorem ticks_pos : 0 < interval.ticks := Nat.sub_pos_of_lt interval.elapsed

/-- The totals of the two rows differ by the elapsed ticks, and by the time of guests again. -/
theorem sum_after : interval.after.row.columns.sum =
    interval.before.row.columns.sum + (interval.ticks + interval.guestTicks) := by
  have hticks := interval.elapsed
  have hguest := interval.guestTicks_le
  rw [CpuRow.sum_columns, CpuRow.sum_columns, ticks, guestTicks]
  omega

/-- **The usage that is reported**: guests are counted twice above and below. -/
theorem cpuPercent_compare {previous current : MetricsSnapshot}
    (hprevious : parseCpuTimes interval.before.text = .ok previous.system.cpu)
    (hcurrent : parseCpuTimes interval.after.text = .ok current.system.cpu) :
    (MetricsService.compare previous current).host.cpuPercent =
      some (100 * ((interval.busyTicks + interval.guestTicks : Nat) : Rat) /
        ((interval.ticks + interval.guestTicks : Nat) : Rat)) := by
  rw [parseCpuTimes_text _ interval.before_fits] at hprevious
  rw [parseCpuTimes_text _ interval.fits] at hcurrent
  have hbefore := Except.ok.inj hprevious
  have hafter := Except.ok.inj hcurrent
  have htotal : current.system.cpu.totalTicks =
      previous.system.cpu.totalTicks + (interval.ticks + interval.guestTicks) := by
    rw [← hbefore, ← hafter]
    exact interval.sum_after
  have hidle : current.system.cpu.idleTicks =
      previous.system.cpu.idleTicks + interval.idleTicks := by
    rw [← hbefore, ← hafter]
    exact (Nat.add_sub_cancel' interval.idleTicks_le).symm
  have hticks := interval.ticks_eq
  have hpos := interval.ticks_pos
  -- what is left without the idle time
  have hbusy : interval.ticks + interval.guestTicks - interval.idleTicks =
      interval.busyTicks + interval.guestTicks := by omega
  rw [MetricsService.compare, MetricsService.cpuPercent_hostStatus htotal hidle (by omega) (by omega),
    hbusy]

end CpuInterval

/-- Adding to a part and to the whole leaves the percentage alone only if nothing is added,
    or the part is the whole. -/
theorem percent_eq_iff {busy idle : Nat} (guest : Nat) (h : 0 < busy + idle) :
    100 * ((busy + guest : Nat) : Rat) / ((busy + idle + guest : Nat) : Rat) =
        100 * (busy : Rat) / ((busy + idle : Nat) : Rat) ↔ guest = 0 ∨ idle = 0 := by
  have hwhole : ((busy + idle : Nat) : Rat) ≠ 0 := Nat.cast_ne_zero.mpr (by omega)
  have hsum : ((busy + idle + guest : Nat) : Rat) ≠ 0 := Nat.cast_ne_zero.mpr (by omega)
  have hcross : 100 * (busy + guest) * (busy + idle) =
      100 * busy * (busy + idle + guest) + 100 * (guest * idle) := by ring
  rw [div_eq_div_iff hsum hwhole]
  norm_cast
  rw [hcross, Nat.add_eq_left, Nat.mul_eq_zero, Nat.mul_eq_zero]
  simp

/-- **When the usage of the host is right**: if no time of guests, or no idle time, elapsed.
    Otherwise the ticks of guests, which are part of the other counters, count twice. -/
theorem host_usage_iff (interval : CpuInterval) :
    ∃ before after : CpuTimes,
      parseCpuTimes interval.before.text = .ok before ∧
      parseCpuTimes interval.after.text = .ok after ∧
      ∀ previous current : MetricsSnapshot,
        previous.system.cpu = before → current.system.cpu = after →
        ((MetricsService.compare previous current).host.cpuPercent =
            some (100 * (interval.busyTicks : Rat) / (interval.ticks : Rat)) ↔
          interval.guestTicks = 0 ∨ interval.idleTicks = 0) := by
  have hbefore := parseCpuTimes_text interval.before interval.before_fits
  have hafter := parseCpuTimes_text interval.after interval.fits
  refine ⟨_, _, hbefore, hafter, fun previous current hprevious hcurrent => ?_⟩
  rw [← hprevious] at hbefore
  rw [← hcurrent] at hafter
  have hpos := interval.ticks_pos
  rw [interval.ticks_eq] at hpos
  rw [interval.cpuPercent_compare hbefore hafter, interval.ticks_eq, Option.some.injEq]
  exact percent_eq_iff interval.guestTicks hpos

/-! ## §4 A guest that runs half of the time -/

/-- What follows the label. -/
def wideBlank : Blanks := ⟨[32, 32], List.cons_ne_nil _ _,
  List.forall_mem_cons.mpr ⟨by decide, List.forall_mem_singleton.mpr (by decide)⟩⟩

/-- A row as the kernel writes it. -/
def writtenRow (row : CpuRow) : CpuText where
  row := row
  fields := (wideBlank, Numeral.ofNat row.user) ::
    row.columns.tail.map fun value => (blank, Numeral.ofNat value)
  values := rfl
  rest := [10]
  newline := .inr ⟨[], rfl⟩

/-- A guest runs for half of the 200 ticks, and the host is idle in the others. -/
def guestInterval : CpuInterval where
  before := writtenRow ⟨1000, 0, 0, 5000, 0, 0, 0, 0, 500, 0, by decide, by decide⟩
  after := writtenRow ⟨1100, 0, 0, 5100, 0, 0, 0, 0, 600, 0, by decide, by decide⟩
  monotone := by decide
  fits := by decide
  elapsed := by decide

/-- **Guests count twice**: two thirds are reported for one half. -/
theorem host_usage_of_guest :
    guestInterval.before.text = "cpu  1000 0 0 5000 0 0 0 0 500 0\n" ∧
    guestInterval.after.text = "cpu  1100 0 0 5100 0 0 0 0 600 0\n" ∧
    ∃ previous current : MetricsSnapshot,
      parseCpuTimes guestInterval.before.text = .ok previous.system.cpu ∧
      parseCpuTimes guestInterval.after.text = .ok current.system.cpu ∧
      (MetricsService.compare previous current).host.cpuPercent = some (200 / 3) ∧
      100 * (guestInterval.busyTicks : Rat) / (guestInterval.ticks : Rat) = 50 := by
  have hbefore := parseCpuTimes_text guestInterval.before guestInterval.before_fits
  have hafter := parseCpuTimes_text guestInterval.after guestInterval.fits
  have hbusy : guestInterval.busyTicks = 100 := by rfl
  have hticks : guestInterval.ticks = 200 := by rfl
  have hguest : guestInterval.guestTicks = 100 := by rfl
  refine ⟨by decide, by decide, ⟨{ cpu := _ }, []⟩, ⟨{ cpu := _ }, []⟩, hbefore, hafter, ?_, ?_⟩
  · rw [guestInterval.cpuPercent_compare hbefore hafter, hbusy, hticks, hguest]
    norm_num
  · rw [hbusy, hticks]
    norm_num

end Lx.ProcFs
