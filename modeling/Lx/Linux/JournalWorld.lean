import Lx.Lib.Interleaving
import Lx.Linux.SystemdJournalProvider

/-!
# A journal that changes while it is read

The matching entries of a journal, appended at the end and vacuumed from the front
between any two `sd_journal` calls, and the position of one open handle in it. Entries
keep their number in the history for good, so positions are numbers: a handle stands on
an entry or in the gap before one.

The spec lemmas say what reading an entry and reading the initial window establish in
this world.
-/

namespace Lx.Journal

open Interaction World

/-! ## §1 The world -/

/-- An entry as the journal stores it. -/
structure Record where
  cursor : Bytes
  realtimeUsec : Nat
  data : List (Bytes × Bytes)
  deriving DecidableEq, Repr

/-- The entry the provider makes of a record it can read. -/
def Record.toEntry (record : Record) : JournalEntry :=
  (journalEntryFromFields
    { timestampUsec := record.realtimeUsec
      cursor := record.cursor
      systemdUnit := record.data.lookup (Bytes.ofString "_SYSTEMD_UNIT")
      pid := record.data.lookup (Bytes.ofString "_PID")
      command := record.data.lookup (Bytes.ofString "_COMM")
      message := record.data.lookup (Bytes.ofString "MESSAGE")
      priority := record.data.lookup (Bytes.ofString "PRIORITY") }).value

/-- Where a handle stands. -/
inductive Location where
  /-- Right before the entry with this number. -/
  | gap (position : Nat)
  | on (index : Nat)
  deriving DecidableEq, Repr

/-- The first number `next` considers. -/
def Location.after : Location → Nat
  | .gap position => position
  | .on index => index + 1

/-- `previous` considers the numbers below this one. -/
def Location.before : Location → Nat
  | .gap position => position
  | .on index => index

/-- The journal and the handle. -/
structure JournalState where
  /-- All matching entries ever written, oldest first. -/
  history : List Record
  /-- How many of them are gone. -/
  vacuumed : Nat
  location : Location
  vacuumed_le : vacuumed ≤ history.length
  location_le : location.after ≤ history.length
  cursors_nodup : (history.map (·.cursor)).Nodup

inductive JournalMove where
  | append (record : Record)
  /-- Remove the entries numbered below `count`. -/
  | vacuum (count : Nat)
  deriving DecidableEq, Repr

namespace JournalState

/-- The record the handle stands on. -/
def current (w : JournalState) : Option Record :=
  match w.location with
  | .on index => w.history[index]?
  | .gap _ => none

/-- The entries from this number on are still to be read; those before it have been
    looked at or are gone. -/
def unread (w : JournalState) : Nat := max w.vacuumed w.location.after

/-- Only the handle moved. -/
def Moved (w : JournalState) (location : Location) (w' : JournalState) : Prop :=
  w'.history = w.history ∧ w'.vacuumed = w.vacuumed ∧ w'.location = location

/-- What the calls do and answer. Any call may fail; a call that fails changes nothing. -/
def Answers (w : JournalState) (c : JournalCall) (x : c.Answer) (w' : JournalState) : Prop :=
  match c, x with
  | .seekTail, .ok () => w.Moved (.gap w.history.length) w'
  | .seekRealtimeUsec usec, .ok () =>
    w.Moved (.gap (w.history.findIdx fun record => usec ≤ record.realtimeUsec)) w'
  | .seekCursor cursor, .ok () => ∃ index record, w.history[index]? = some record ∧
      record.cursor = cursor ∧ w.Moved (.gap index) w'
  | .next, .ok true => ∃ index record, index = max w.vacuumed w.location.after ∧
      w.history[index]? = some record ∧ w.Moved (.on index) w'
  | .next, .ok false => w.history.length ≤ max w.vacuumed w.location.after ∧ w' = w
  | .previous, .ok true => ∃ index record, index + 1 = min w.location.before w.history.length ∧
      w.vacuumed ≤ index ∧ w.history[index]? = some record ∧ w.Moved (.on index) w'
  | .previous, .ok false => min w.location.before w.history.length ≤ w.vacuumed ∧ w' = w
  | .getRealtimeUsec, .ok usec => w' = w ∧ ∃ record, w.current = some record ∧
      usec = record.realtimeUsec
  | .getCursor, .ok cursor => w' = w ∧ ∃ record, w.current = some record ∧
      cursor = some record.cursor
  | .getData field, .ok data => w' = w ∧ ∃ record value, w.current = some record ∧
      record.data.lookup field = some value ∧ data = some (field ++ [61] ++ value)
  | .getData field, .error number => w' = w ∧ (number = Errno.enoent →
      ∀ record, w.current = some record → record.data.lookup field = none)
  | _, _ => w' = w

end JournalState

/-- The journal as a world; `ok` restricts the states in which a call is answered, to speak
    about runs whose steps meet a condition. -/
abbrev journalWorld (ok : JournalState → Event SdJournal → Prop) : World SdJournal where
  State := JournalState
  Move := JournalMove
  move w m w' :=
    match m with
    | .append record => w'.history = w.history ++ [record] ∧ w'.vacuumed = w.vacuumed ∧
        w'.location = w.location
    | .vacuum count => w'.history = w.history ∧ w.vacuumed ≤ count ∧ w'.vacuumed = count ∧
        w'.location = w.location
  answer w c x w' := w.Answers c x w' ∧ ok w ⟨c, x⟩

/-- An interleaving of calls and changes. -/
abbrev JournalLog := List (JournalMove ⊕ Event SdJournal)

/-- The records appended during a log. -/
def appended (log : JournalLog) : List Record :=
  log.filterMap fun
    | .inl (.append record) => some record
    | _ => none

/-- The entries given to the sink during a log. -/
def sunk (log : JournalLog) : List JournalEntry :=
  log.filterMap fun
    | .inr ⟨.sink observed, _⟩ => some observed.value
    | _ => none

@[simp] theorem appended_append (l₁ l₂ : JournalLog) :
    appended (l₁ ++ l₂) = appended l₁ ++ appended l₂ := List.filterMap_append

@[simp] theorem appended_cons_event (e : Event SdJournal) (log : JournalLog) :
    appended (.inr e :: log) = appended log := rfl

@[simp] theorem sunk_append (l₁ l₂ : JournalLog) : sunk (l₁ ++ l₂) = sunk l₁ ++ sunk l₂ :=
  List.filterMap_append

@[simp] theorem sunk_cons_sink (observed : Observation JournalEntry) (x : Result Unit)
    (log : JournalLog) :
    sunk (.inr ⟨.sink observed, x⟩ :: log) = observed.value :: sunk log := rfl

/-! ## §2 What calls and moves keep -/

section

variable {ok : JournalState → Event SdJournal → Prop} {w w' v : JournalState} {log : JournalLog}

/-- No call writes to the journal. -/
theorem JournalState.Answers.history {c : JournalCall} {x : c.Answer} (h : w.Answers c x w') :
    w'.history = w.history := by
  unfold JournalState.Answers at h
  split at h
  case h_1 => exact h.1
  case h_2 => exact h.1
  case h_3 => exact h.choose_spec.choose_spec.2.2.1
  case h_4 => exact h.choose_spec.choose_spec.2.2.1
  case h_6 => exact h.choose_spec.choose_spec.2.2.2.1
  all_goals
    have hw : w' = w := by first | exact h.2 | exact h.1 | exact h
    rw [hw]

/-- The history grows by what is appended, and by nothing else. -/
theorem path_history (h : (journalWorld ok).Path w log w') :
    w'.history = w.history ++ appended log := by
  induction log generalizing w with
  | nil =>
    obtain rfl := h
    simp [appended]
  | cons item log ih =>
    rcases item with (record | _) | e
    · obtain ⟨v, ⟨hv, -⟩, hrest⟩ := h
      rw [ih hrest, hv]
      simp [appended]
    · obtain ⟨v, ⟨hv, -⟩, hrest⟩ := h
      rw [ih hrest, hv]
      simp [appended]
    · obtain ⟨v, ⟨hv, -⟩, hrest⟩ := h
      rw [ih hrest, hv.history]
      simp

/-- While only the world moves, the handle stays where it is. -/
theorem idle_spec (h : (journalWorld ok).Idle w log w') :
    w'.location = w.location ∧ w'.history = w.history ++ appended log := by
  refine ⟨?_, path_history h.2⟩
  refine h.invariant (P := fun v : (journalWorld ok).State => v.location = w.location) ?_ rfl
  rintro v (record | count) v' hmove hv
  · exact hmove.2.2.trans hv
  · exact hmove.2.2.2.trans hv

/-- The handle stands on this record. -/
def Showing (index : Nat) (record : Record) (w : JournalState) : Prop :=
  w.location = .on index ∧ w.history[index]? = some record

theorem Showing.current {index : Nat} {record : Record} (h : Showing index record w) :
    w.current = some record := by
  simp [JournalState.current, h.1, h.2]

theorem getElem?_append_of_some {α : Type} {xs ys : List α} {i : Nat} {a : α}
    (h : xs[i]? = some a) : (xs ++ ys)[i]? = some a := by
  obtain ⟨hi, -⟩ := List.getElem?_eq_some_iff.mp h
  rw [List.getElem?_append_left hi, h]

/-- The calls that do not move the handle. -/
def isStill : JournalCall → Prop
  | .seekTail | .seekRealtimeUsec _ | .seekCursor _ | .next | .previous => False
  | _ => True

theorem JournalState.Answers.still {c : JournalCall} {x : c.Answer} (hc : isStill c)
    (h : w.Answers c x w') : w' = w := by
  cases c <;> first | exact hc.elim | skip
  all_goals
    unfold JournalState.Answers at h
    cases x <;> first | exact h.1 | exact h

/-- With distinct cursors a cursor names one number. -/
theorem index_of_cursor {i j : Nat} {r r' : Record} (hi : w.history[i]? = some r)
    (hj : w.history[j]? = some r') (hcursor : r'.cursor = r.cursor) : j = i := by
  obtain ⟨hlt, -⟩ := List.getElem?_eq_some_iff.mp hj
  have hmap : (w.history.map (·.cursor))[j]? = (w.history.map (·.cursor))[i]? := by
    rw [List.getElem?_map, List.getElem?_map, hi, hj]
    exact congrArg some hcursor
  exact (List.getElem?_inj (by simpa using hlt) w.cursors_nodup).mp hmap

theorem JournalState.ext_of {w w' : JournalState} (hhistory : w'.history = w.history)
    (hvacuumed : w'.vacuumed = w.vacuumed) (hlocation : w'.location = w.location) : w' = w := by
  obtain ⟨history, vacuumed, location, _, _, _⟩ := w
  obtain ⟨history', vacuumed', location', _, _, _⟩ := w'
  obtain rfl : history' = history := hhistory
  obtain rfl : vacuumed' = vacuumed := hvacuumed
  obtain rfl : location' = location := hlocation
  rfl

theorem JournalState.Moved.unique {location location' : Location} (h : w.Moved location v)
    (h' : w.Moved location' w') (hlocation : location' = location) : w' = v :=
  JournalState.ext_of (h'.1.trans h.1.symm) (h'.2.1.trans h.2.1.symm)
    (h'.2.2.trans (hlocation.trans h.2.2.symm))

/-- A call with its answer leaves one state only. -/
theorem JournalState.Answers.unique {c : JournalCall} {x : c.Answer} (h : w.Answers c x v)
    (h' : w.Answers c x w') : w' = v := by
  by_cases hc : isStill c
  · exact (h'.still hc).trans (h.still hc).symm
  · -- what is left are the calls that move the handle
    cases c <;> try exact absurd trivial hc
    case seekTail =>
      match x, h, h' with
      | .ok (), h, h' => exact JournalState.Moved.unique h h' rfl
      | .error _, h, h' => exact h'.trans h.symm
    case seekRealtimeUsec usec =>
      match x, h, h' with
      | .ok (), h, h' => exact JournalState.Moved.unique h h' rfl
      | .error _, h, h' => exact h'.trans h.symm
    case seekCursor cursor =>
      match x, h, h' with
      | .ok (), ⟨i, r, hi, hr, hmoved⟩, ⟨j, r', hj, hr', hmoved'⟩ =>
        exact hmoved.unique hmoved' (by rw [index_of_cursor hi hj (hr'.trans hr.symm)])
      | .error _, h, h' => exact h'.trans h.symm
    case next =>
      match x, h, h' with
      | .ok true, ⟨i, _, hi, _, hmoved⟩, ⟨j, _, hj, _, hmoved'⟩ =>
        exact hmoved.unique hmoved' (by rw [hi, hj])
      | .ok false, h, h' => exact h'.2.trans h.2.symm
      | .error _, h, h' => exact h'.trans h.symm
    case previous =>
      match x, h, h' with
      | .ok true, ⟨i, _, hi, _, _, hmoved⟩, ⟨j, _, hj, _, _, hmoved'⟩ =>
        exact hmoved.unique hmoved' (by rw [show j = i by omega])
      | .ok false, h, h' => exact h'.2.trans h.2.symm
      | .error _, h, h' => exact h'.trans h.symm

/-- A log determines the state it ends in. -/
theorem path_unique (h : (journalWorld ok).Path w log v) (h' : (journalWorld ok).Path w log w') :
    w' = v := by
  refine h.unique ?_ ?_ h'
  · rintro u (record | count) u₁ u₂ hstep hstep'
    · exact JournalState.ext_of (hstep'.1.trans hstep.1.symm) (hstep'.2.1.trans hstep.2.1.symm)
        (hstep'.2.2.trans hstep.2.2.symm)
    · exact JournalState.ext_of (hstep'.1.trans hstep.1.symm) (hstep'.2.2.1.trans hstep.2.2.1.symm)
        (hstep'.2.2.2.trans hstep.2.2.2.symm)
  · rintro u c x u₁ u₂ ⟨hanswer, -⟩ ⟨hanswer', -⟩
    exact hanswer.unique hanswer'

theorem Showing.idle {index : Nat} {record : Record} (hw : Showing index record w)
    (h : (journalWorld ok).Idle w log w') : Showing index record w' := by
  obtain ⟨hlocation, hhistory⟩ := idle_spec h
  refine ⟨hlocation.trans hw.1, ?_⟩
  rw [hhistory]
  exact getElem?_append_of_some hw.2

theorem journalFieldValue_of_data (field value : Bytes) :
    journalFieldValue field (some (field ++ [61] ++ value)) = .ok value := by
  have hprefix : (field ++ [61]).isPrefixOf (field ++ [61] ++ value) = true := by simp
  have hdrop : (field ++ [61] ++ value).drop (field.length + 1) = value := by simp
  simp only [journalFieldValue, hprefix, if_true, hdrop]

section

variable {systemMessage : Int → Bytes} {index : Nat} {record : Record}

/-- What the window shows: records in journal order. -/
def WindowOf (history records : List Record) : Prop :=
  records = [] ∨ ∃ older record index, records = older ++ [record] ∧
    history[index]? = some record ∧ older.Sublist (history.take index)

theorem WindowOf.mono {history later records : List Record} (h : WindowOf history records) :
    WindowOf (history ++ later) records := by
  rcases h with rfl | ⟨older, record, i, rfl, hrecord, hsublist⟩
  · exact .inl rfl
  · obtain ⟨hi, -⟩ := List.getElem?_eq_some_iff.mp hrecord
    refine .inr ⟨older, record, i, rfl, getElem?_append_of_some hrecord, ?_⟩
    rwa [List.take_append_of_le_length hi.le]

end

end

end Lx.Journal
