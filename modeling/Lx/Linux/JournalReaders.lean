import Lx.Lib.Latest
import Lx.Linux.JournalWorld

/-!
# The two journal readers

`queryTail` walks backwards from the end of the journal and reverses what it read;
`querySince` walks forwards from a time and slides a window over what it reads. On a
journal that does not change both show the last entries of the same list.

## Layers

- A journal that does not change, as an environment of the provider (§1).
- What reading an entry makes of a record (§2).
- The two loops, as functions of the records on their way (§3).
- The readers (§4).
-/

namespace Lx.Journal

open Interaction Prog Latest

/-! ## §1 A journal that does not change -/

/-- The record a handle stands on. -/
def recordAt (journal : List Record) : Location → Option Record
  | .on index => journal[index]?
  | .gap _ => none

/-- `EADDRNOTAVAIL`: the handle is on no entry. -/
def noEntry : Errno := 99

/-- What the calls answer and where they leave the handle, for the matching entries of a
    journal. No call fails that has an answer. -/
def stillJournal (journal : List Record) (location : Location) :
    (call : JournalCall) → call.Answer × Location
  -- the matches are already applied: only matching entries are listed
  | .openLocal | .setDataThreshold _ | .addMatch _ | .wait _ => (.ok (), location)
  | .seekTail => (.ok (), .gap journal.length)
  | .seekRealtimeUsec usec =>
    (.ok (), .gap (journal.findIdx fun record => usec ≤ record.realtimeUsec))
  | .seekCursor cursor =>
    match journal.findIdx? fun record => record.cursor == cursor with
    | some index => (.ok (), .gap index)
    | none => (.error Errno.enoent, location)
  | .next =>
    -- at the end the handle stays where it is
    if location.after < journal.length then (.ok true, .on location.after) else (.ok false, location)
  | .previous =>
    match min location.before journal.length with
    | 0 => (.ok false, location)
    | index + 1 => (.ok true, .on index)
  | .getRealtimeUsec =>
    match recordAt journal location with
    | some record => (.ok record.realtimeUsec, location)
    | none => (.error noEntry, location)
  | .getCursor =>
    match recordAt journal location with
    | some record => (.ok (some record.cursor), location)
    | none => (.error noEntry, location)
  | .getData field =>
    match recordAt journal location with
    | some record =>
      match record.data.lookup field with
      | some value => (.ok (some (field ++ [61] ++ value)), location)
      -- an entry without the field
      | none => (.error Errno.enoent, location)
    | none => (.error noEntry, location)
  | .stopRequested => (false, location)
  | .sink _ => (.ok (), location)

section World

variable {w w' : JournalState}

theorem JournalState.Moved.eq_self (h : w.Moved w.location w') : w' = w := by
  obtain ⟨hhistory, hvacuumed, hlocation⟩ := h
  cases w
  cases w'
  cases hhistory
  cases hvacuumed
  cases hlocation
  rfl

theorem JournalState.current_eq_recordAt (w : JournalState) :
    w.current = recordAt w.history w.location := by
  unfold JournalState.current recordAt
  cases w.location <;> rfl

/-- Every answer of such a journal is one the journal world allows while nothing is vacuumed. -/
theorem stillJournal_answers (hwhole : w.vacuumed = 0) (call : JournalCall)
    (hmoved : w.Moved (stillJournal w.history w.location call).2 w') :
    w.Answers call (stillJournal w.history w.location call).1 w' := by
  cases call with
  | openLocal => exact hmoved.eq_self
  | setDataThreshold size => exact hmoved.eq_self
  | addMatch text => exact hmoved.eq_self
  | seekTail => exact hmoved
  | seekRealtimeUsec usec => exact hmoved
  | seekCursor cursor =>
    unfold stillJournal at hmoved ⊢
    dsimp only at hmoved ⊢
    cases hfound : w.history.findIdx? fun record => record.cursor == cursor with
    | none =>
      rw [hfound] at hmoved
      exact hmoved.eq_self
    | some index =>
      rw [hfound] at hmoved
      obtain ⟨hlt, hcursor, -⟩ := List.findIdx?_eq_some_iff_getElem.mp hfound
      exact ⟨index, w.history[index], List.getElem?_eq_getElem hlt, beq_iff_eq.mp hcursor, hmoved⟩
  | next =>
    unfold stillJournal at hmoved ⊢
    dsimp only at hmoved ⊢
    -- nothing is vacuumed, so `next` skips nothing
    have hindex : max w.vacuumed w.location.after = w.location.after := by
      rw [hwhole, Nat.zero_max]
    by_cases hlt : w.location.after < w.history.length
    · rw [if_pos hlt] at hmoved ⊢
      exact ⟨_, w.history[w.location.after], hindex.symm, List.getElem?_eq_getElem hlt, hmoved⟩
    · rw [if_neg hlt] at hmoved ⊢
      refine ⟨?_, hmoved.eq_self⟩
      rw [hindex]
      exact Nat.not_lt.mp hlt
  | previous =>
    unfold stillJournal at hmoved ⊢
    dsimp only at hmoved ⊢
    cases hbefore : min w.location.before w.history.length with
    | zero =>
      rw [hbefore] at hmoved
      exact ⟨by rw [hbefore]; exact Nat.zero_le _, hmoved.eq_self⟩
    | succ index =>
      rw [hbefore] at hmoved
      have hlt : index < w.history.length := by omega
      exact ⟨index, w.history[index], hbefore.symm, by omega, List.getElem?_eq_getElem hlt, hmoved⟩
  | getRealtimeUsec =>
    unfold stillJournal at hmoved ⊢
    dsimp only at hmoved ⊢
    cases hrecord : recordAt w.history w.location with
    | none =>
      rw [hrecord] at hmoved
      exact hmoved.eq_self
    | some record =>
      rw [hrecord] at hmoved
      exact ⟨hmoved.eq_self, record, w.current_eq_recordAt.trans hrecord, rfl⟩
  | getCursor =>
    unfold stillJournal at hmoved ⊢
    dsimp only at hmoved ⊢
    cases hrecord : recordAt w.history w.location with
    | none =>
      rw [hrecord] at hmoved
      exact hmoved.eq_self
    | some record =>
      rw [hrecord] at hmoved
      exact ⟨hmoved.eq_self, record, w.current_eq_recordAt.trans hrecord, rfl⟩
  | getData field =>
    unfold stillJournal at hmoved ⊢
    dsimp only at hmoved ⊢
    cases hrecord : recordAt w.history w.location with
    | none =>
      rw [hrecord] at hmoved
      -- on no entry the error is another one than for a missing field
      refine ⟨hmoved.eq_self, fun hnone => ?_⟩
      cases hnone
    | some record =>
      have hcurrent : w.current = some record := w.current_eq_recordAt.trans hrecord
      rw [hrecord] at hmoved
      dsimp only at hmoved ⊢
      cases hvalue : record.data.lookup field with
      | none =>
        rw [hvalue] at hmoved
        refine ⟨hmoved.eq_self, fun _ record' hrecord' => ?_⟩
        obtain rfl := Option.some.inj (hcurrent.symm.trans hrecord')
        exact hvalue
      | some value =>
        rw [hvalue] at hmoved
        exact ⟨hmoved.eq_self, record, value, hcurrent, hvalue, rfl⟩
  | wait usec => exact hmoved.eq_self
  | stopRequested => exact hmoved.eq_self
  | sink entry => exact hmoved.eq_self

/-- The handle never leaves the journal. -/
theorem stillJournal_location_le {journal : List Record} {location : Location}
    (h : location.after ≤ journal.length) (call : JournalCall) :
    (stillJournal journal location call).2.after ≤ journal.length := by
  cases call with
  | openLocal => exact h
  | setDataThreshold size => exact h
  | addMatch text => exact h
  | seekTail => exact Nat.le_refl _
  | seekRealtimeUsec usec => exact List.findIdx_le_length
  | seekCursor cursor =>
    simp only [stillJournal]
    split
    · rename_i index hfound
      obtain ⟨hlt, -⟩ := List.findIdx?_eq_some_iff_getElem.mp hfound
      exact hlt.le
    · exact h
  | next =>
    simp only [stillJournal]
    split
    · rename_i hlt
      exact hlt
    · exact h
  | previous =>
    simp only [stillJournal]
    split
    · exact h
    · rename_i index hmin
      show index + 1 ≤ journal.length
      omega
  | getRealtimeUsec =>
    simp only [stillJournal]
    split <;> exact h
  | getCursor =>
    simp only [stillJournal]
    split <;> exact h
  | getData field =>
    simp only [stillJournal]
    split
    · split <;> exact h
    · exact h
  | wait usec => exact h
  | stopRequested => exact h
  | sink entry => exact h

/-- What a program does on such a journal is a run of it in the journal world, with no move
    of the world in between. -/
theorem runs_of_handle {α : Type} {p : Prog SdJournal α} {a : α} {location : Location}
    (hwhole : w.vacuumed = 0)
    (h : p.handle (stillJournal w.history) w.location = some (a, location)) :
    ∃ (t : Trace SdJournal) (w' : JournalState), w'.location = location ∧
      (journalWorld fun _ _ => True).Runs p w (t.map .inr) a w' := by
  induction p generalizing w with
  | ret b =>
    obtain ⟨rfl, rfl⟩ := Prod.mk.inj (Option.some.inj h)
    exact ⟨[], w, rfl, ⟨rfl, rfl⟩, rfl⟩
  | call c k ih =>
    -- the state after the call: only the handle has moved
    let v : JournalState := { w with
      location := (stillJournal w.history w.location c).2
      location_le := stillJournal_location_le w.location_le c }
    have hanswer : w.Answers c (stillJournal w.history w.location c).1 v :=
      stillJournal_answers hwhole c ⟨rfl, rfl, rfl⟩
    obtain ⟨t, w', hlocation, hrun, hpath⟩ := ih _ (w := v) hwhole h
    refine ⟨⟨c, (stillJournal w.history w.location c).1⟩ :: t, w', hlocation, ?_, v, ⟨hanswer, trivial⟩,
      hpath⟩
    exact ⟨_, _, rfl, hrun⟩
  | block => cases h

/-- Where nobody writes to the journal meanwhile, the program returns this. -/
def Returns {α : Type} (p : Prog SdJournal α) (w : JournalState) (a : α) : Prop :=
  ∃ (t : Trace SdJournal) (w' : JournalState),
    (journalWorld fun _ _ => True).Runs p w (t.map .inr) a w'

theorem returns_of_handle {α : Type} {p : Prog SdJournal α} {a : α} (hwhole : w.vacuumed = 0)
    (h : (p.handle (stillJournal w.history) w.location).map Prod.fst = some a) : Returns p w a := by
  obtain ⟨⟨result, location⟩, hhandle, rfl⟩ := Option.map_eq_some_iff.mp h
  obtain ⟨t, w', -, hruns⟩ := runs_of_handle hwhole hhandle
  exact ⟨t, w', hruns⟩

end World

/-! ## §2 Reading one entry -/

def Record.fields (record : Record) : JournalFields where
  timestampUsec := record.realtimeUsec
  cursor := record.cursor
  systemdUnit := record.data.lookup (Bytes.ofString "_SYSTEMD_UNIT")
  pid := record.data.lookup (Bytes.ofString "_PID")
  command := record.data.lookup (Bytes.ofString "_COMM")
  message := record.data.lookup (Bytes.ofString "MESSAGE")
  priority := record.data.lookup (Bytes.ofString "PRIORITY")

/-- The warnings about the entry of a record. -/
def Record.warnings (record : Record) : List Warning :=
  (journalEntryFromFields record.fields).warnings ++
    if record.toEntry.message.isEmpty then
      [⟨.notFound, "Journal entry has no MESSAGE field", 0, "sd-journal", "read entry"⟩]
    else []

def Record.observed (record : Record) : Observation JournalEntry := ⟨record.toEntry, record.warnings⟩

/-- The provider takes the time of the record for one in range. -/
def Record.Readable (record : Record) : Prop := record.realtimeUsec ≤ 2 ^ 63 - 1

section Reading

variable {systemMessage : Int → Bytes} {journal : List Record} {record : Record} {index : Nat}

/-- A call, with the answer of the journal. -/
theorem handle_sd_bind {α : Type} {call : JournalCall} {answer : call.Answer}
    {location location' : Location}
    (h : stillJournal journal location call = (answer, location'))
    (f : call.Answer → Prog SdJournal α) :
    (sd call >>= f).handle (stillJournal journal) location =
      (f answer).handle (stillJournal journal) location' := by
  show (f (stillJournal journal location call).1).handle (stillJournal journal)
    (stillJournal journal location call).2 = _
  rw [h]

theorem assemble_fields (record : Record) :
    assemble record.fields.timestampUsec record.fields.cursor (.ok record.fields.systemdUnit)
      (.ok record.fields.pid) (.ok record.fields.command) (.ok record.fields.message)
      (.ok record.fields.priority) = .ok record.observed := by
  show (if record.toEntry.message.isEmpty then
      .ok { journalEntryFromFields record.fields with
        warnings := (journalEntryFromFields record.fields).warnings ++
          [⟨.notFound, "Journal entry has no MESSAGE field", 0, "sd-journal", "read entry"⟩] }
    else (.ok (journalEntryFromFields record.fields) : Result (Observation JournalEntry))) = _
  unfold Record.observed Record.warnings
  -- the missing message is the last warning
  by_cases hempty : record.toEntry.message.isEmpty = true
  · rw [if_pos hempty, if_pos hempty]
    rfl
  · rw [if_neg hempty, if_neg hempty, List.append_nil]
    rfl

theorem handle_readField (hrecord : journal[index]? = some record) (field : Bytes) :
    (readField systemMessage field).handle (stillJournal journal) (.on index) =
      some (.ok (record.data.lookup field), .on index) := by
  have hat : recordAt journal (.on index) = some record := hrecord
  have hanswer : (stillJournal journal (.on index) (.getData field)) =
      (match record.data.lookup field with
        | some value => .ok (some (field ++ [61] ++ value))
        | none => .error Errno.enoent, .on index) := by
    simp only [stillJournal, hat]
    cases record.data.lookup field <;> rfl
  unfold readField
  rw [handle_sd_bind hanswer]
  cases record.data.lookup field with
  | none => rfl
  | some value =>
    simp only [fieldResult, journalFieldValue_of_data]
    rfl

/-- A record that is readable is read. -/
theorem handle_readCurrentEntry (hrecord : journal[index]? = some record)
    (hreadable : record.Readable) :
    (readCurrentEntry systemMessage).handle (stillJournal journal) (.on index) =
      some (.ok record.observed, .on index) := by
  have hat : recordAt journal (.on index) = some record := hrecord
  have hrealtime : stillJournal journal (.on index) .getRealtimeUsec =
      (.ok record.realtimeUsec, .on index) := by
    simp only [stillJournal, hat]
  have hcursor : stillJournal journal (.on index) .getCursor =
      (.ok (some record.cursor), .on index) := by
    simp only [stillJournal, hat]
  unfold readCurrentEntry
  rw [handle_sd_bind hrealtime]
  dsimp only
  rw [if_neg (Nat.not_lt.mpr hreadable), handle_sd_bind hcursor]
  dsimp only
  -- the five fields, one after the other
  simp only [handle_bind, handle_readField hrecord, Option.bind_some]
  exact congrArg (fun entry => some (entry, Location.on index)) (assemble_fields record)

end Reading

/-! ## §3 The loops -/

section Loops

variable (systemMessage : Int → Bytes) {journal : List Record}

theorem still_previous_zero {location : Location} (h : location.before = 0) :
    stillJournal journal location .previous = (.ok false, location) := by
  simp only [stillJournal, h, Nat.zero_min]

theorem still_previous_succ {location : Location} {index : Nat} (h : location.before = index + 1)
    (hlt : index < journal.length) :
    stillJournal journal location .previous = (.ok true, .on index) := by
  have hmin : min location.before journal.length = index + 1 := by omega
  simp only [stillJournal, hmin]

/-- Backwards, the records before the handle are read from the last one. -/
theorem handle_readBackwards (hreadable : ∀ record ∈ journal, record.Readable) (remaining : Nat)
    (reversed : List (Observation JournalEntry)) (location : Location)
    (hlocation : location.before ≤ journal.length) :
    ∃ location', (readBackwards systemMessage remaining reversed).handle (stillJournal journal)
        location =
      some (.ok (reversed ++
        (((journal.take location.before).reverse).take remaining).map Record.observed),
        location') := by
  -- every step back shortens the part of the journal before the handle
  induction remaining generalizing reversed location with
  | zero => exact ⟨location, by simp [readBackwards, handle]⟩
  | succ remaining ih =>
    unfold readBackwards
    cases hbefore : location.before with
    | zero =>
      refine ⟨location, ?_⟩
      rw [handle_sd_bind (still_previous_zero hbefore)]
      simp [handle]
    | succ index =>
      have hlt : index < journal.length := by omega
      have hrecord : journal[index]? = some journal[index] := List.getElem?_eq_getElem hlt
      -- the record read now is the last of those before the handle
      have htake : (journal.take (index + 1)).reverse =
          journal[index] :: (journal.take index).reverse := by
        rw [List.take_add_one, hrecord]
        simp
      obtain ⟨location', hmore⟩ := ih (reversed ++ [journal[index].observed]) (.on index) hlt.le
      refine ⟨location', ?_⟩
      rw [handle_sd_bind (still_previous_succ hbefore hlt)]
      dsimp only
      rw [handle_bind, handle_readCurrentEntry hrecord (hreadable _ (List.getElem_mem hlt)),
        Option.bind_some]
      dsimp only
      rw [hmore, htake]
      simp [Location.before]

theorem still_next_lt {location : Location} (h : location.after < journal.length) :
    stillJournal journal location .next = (.ok true, .on location.after) := by
  simp only [stillJournal, if_pos h]

theorem still_next_end {location : Location} (h : journal.length ≤ location.after) :
    stillJournal journal location .next = (.ok false, location) := by
  simp only [stillJournal, if_neg (Nat.not_lt.mpr h)]

/-- Forwards, every record from the handle on goes through the window. -/
theorem handle_readForwards (hreadable : ∀ record ∈ journal, record.Readable) (limit : Nat)
    {iterations : Nat} (window : List (Observation JournalEntry)) (location : Location)
    (hiterations : journal.length - location.after < iterations) :
    ∃ location', (readForwards systemMessage limit iterations window).handle (stillJournal journal)
        location =
      some (.ok (((journal.drop location.after).map Record.observed).foldl (pushWindow limit) window),
        location') := by
  -- the iterations left bound the records left
  induction iterations generalizing window location with
  | zero => omega
  | succ iterations ih =>
    unfold readForwards
    by_cases hlt : location.after < journal.length
    · have hrecord : journal[location.after]? = some journal[location.after] :=
        List.getElem?_eq_getElem hlt
      have hleft : journal.length - (Location.on location.after).after < iterations := by
        show journal.length - (location.after + 1) < iterations
        omega
      obtain ⟨location', hmore⟩ :=
        ih (pushWindow limit window journal[location.after].observed) (.on location.after) hleft
      refine ⟨location', ?_⟩
      rw [handle_sd_bind (still_next_lt hlt)]
      dsimp only
      rw [handle_bind, handle_readCurrentEntry hrecord (hreadable _ (List.getElem_mem hlt)),
        Option.bind_some]
      dsimp only
      rw [hmore, List.drop_eq_getElem_cons hlt]
      rfl
    · refine ⟨location, ?_⟩
      rw [handle_sd_bind (still_next_end (Nat.not_lt.mp hlt)),
        List.drop_eq_nil_of_le (Nat.not_lt.mp hlt)]
      rfl

/-- The window shows the last entries that went through it. -/
theorem foldl_pushWindow (limit : Nat) (seen entries : List (Observation JournalEntry)) :
    entries.foldl (pushWindow limit) (latest limit seen) = latest limit (seen ++ entries) := by
  induction entries generalizing seen with
  | nil => rw [List.append_nil, List.foldl_nil]
  | cons entry rest ih =>
    -- `pop_front` drops the entry that is no longer among the last
    have hstep : pushWindow limit (latest limit seen) entry = latest limit (seen ++ [entry]) :=
      (latest_concat limit seen entry).symm
    rw [List.foldl_cons, hstep, ih, List.append_assoc, List.singleton_append]

end Loops

/-! ## §4 The readers -/

section Readers

variable (systemMessage : Int → Bytes) {journal : List Record}

theorem collect_observed (records : List Record) :
    collect (records.map Record.observed) =
      ⟨records.map Record.toEntry, records.flatMap Record.warnings⟩ := by
  unfold collect
  rw [List.map_map, List.flatMap_map]
  rfl

/-- From the tail: the last entries, as they stand in the journal. -/
theorem handle_queryTail (hreadable : ∀ record ∈ journal, record.Readable) (limit : Nat)
    (location : Location) :
    ∃ location', (queryTail systemMessage limit).handle (stillJournal journal) location =
      some (.ok (collect ((latest limit journal).map Record.observed)), location') := by
  obtain ⟨location', hread⟩ := handle_readBackwards systemMessage hreadable limit []
    (.gap journal.length) (Nat.le_refl _)
  refine ⟨location', ?_⟩
  show ((readBackwards systemMessage limit [] >>= _).handle (stillJournal journal)
    (.gap journal.length)) = _
  rw [handle_bind, hread, Option.bind_some]
  -- reading from the end and reversing is cutting the front off
  have hreverse : ((((journal.take journal.length).reverse).take limit).map Record.observed).reverse =
      (latest limit journal).map Record.observed := by
    rw [List.take_length, List.take_reverse, List.map_reverse, List.reverse_reverse]
    rfl
  rw [← hreverse]
  rfl

/-- From a time: the last of the entries that are not older. -/
theorem handle_querySince (hordered : journal.Pairwise fun left right =>
      left.realtimeUsec ≤ right.realtimeUsec)
    (hreadable : ∀ record ∈ journal, record.Readable) {iterations : Nat}
    (hiterations : journal.length < iterations) {since : Int} (hsince : 0 ≤ since) (limit : Nat)
    (location : Location) :
    ∃ location', (querySince systemMessage iterations since limit).handle (stillJournal journal)
        location =
      some (.ok (collect ((latest limit (journal.filter fun record =>
        since / 1000 ≤ record.realtimeUsec)).map Record.observed)), location') := by
  have husec : since.tdiv 1000 = since / 1000 := Int.tdiv_eq_ediv_of_nonneg hsince
  have hnonneg : 0 ≤ since / 1000 := Int.ediv_nonneg hsince (by decide)
  -- the place the journal is put to
  let start := journal.findIdx fun record => (since / 1000).toNat ≤ record.realtimeUsec
  have hmatching : journal.drop start =
      journal.filter fun record => since / 1000 ≤ record.realtimeUsec := by
    have hfilter := drop_findIdx_eq_filter hordered (since / 1000).toNat
    rw [hfilter]
    congr 1
    funext record
    have hcast : (since / 1000).toNat ≤ record.realtimeUsec ↔ since / 1000 ≤ record.realtimeUsec := by
      omega
    exact decide_eq_decide.mpr hcast
  obtain ⟨location', hread⟩ := handle_readForwards systemMessage hreadable limit []
    (.gap start) (show journal.length - start < iterations by omega)
  refine ⟨location', ?_⟩
  unfold querySince
  dsimp only
  -- a time that is not before the epoch is not refused
  rw [husec, if_neg (Int.not_lt.mpr hnonneg)]
  show ((readForwards systemMessage limit iterations [] >>= _).handle (stillJournal journal)
    (.gap start)) = _
  rw [handle_bind, hread, Option.bind_some]
  have hwindow : ((journal.drop start).map Record.observed).foldl (pushWindow limit) [] =
      (latest limit (journal.drop start)).map Record.observed := by
    have hfold := foldl_pushWindow limit [] ((journal.drop start).map Record.observed)
    rw [List.nil_append, ← map_latest, latest_eq_self (Nat.zero_le _)] at hfold
    exact hfold
  rw [← hmatching, ← hwindow]
  rfl

/-- **The two journal readers agree.** On a journal that does not change, whose matching
    entries are readable and ordered, `querySince` shows the last of the entries that are not
    older than its time in microseconds, with their warnings; `queryTail` shows what
    `querySince` shows from the epoch on. In the world of the journal, which nobody writes to
    meanwhile, both have such runs. -/
theorem readers_agree (systemMessage : Int → Bytes) {journal : List Record}
    (hordered : journal.Pairwise fun left right => left.realtimeUsec ≤ right.realtimeUsec)
    (hreadable : ∀ record ∈ journal, record.Readable) {iterations : Nat}
    (hiterations : journal.length < iterations) (limit : Nat) (location : Location) :
    (∀ since : Int, 0 ≤ since → ∃ shown,
      shown <:+ journal.filter (fun record => since / 1000 ≤ record.realtimeUsec) ∧
      shown.length = min limit
        (journal.filter fun record => since / 1000 ≤ record.realtimeUsec).length ∧
      ((querySince systemMessage iterations since limit).handle (stillJournal journal) location).map
          Prod.fst =
        some (.ok ⟨shown.map Record.toEntry, shown.flatMap Record.warnings⟩)) ∧
    ((queryTail systemMessage limit).handle (stillJournal journal) location).map Prod.fst =
      ((querySince systemMessage iterations 0 limit).handle (stillJournal journal) location).map
        Prod.fst ∧
    ∀ w : JournalState, w.history = journal → w.vacuumed = 0 → w.location = location →
      (∀ since : Int, 0 ≤ since → ∃ result,
        ((querySince systemMessage iterations since limit).handle (stillJournal journal) location).map
          Prod.fst = some result ∧
        Returns (querySince systemMessage iterations since limit) w result) ∧
      ∃ result,
        ((queryTail systemMessage limit).handle (stillJournal journal) location).map Prod.fst =
          some result ∧
        Returns (queryTail systemMessage limit) w result := by
  refine ⟨?_, ?_, ?_⟩
  · intro since hsince
    obtain ⟨location', hquery⟩ := handle_querySince systemMessage hordered hreadable
      hiterations hsince limit location
    refine ⟨latest limit _, List.drop_suffix _ _, length_latest limit _, ?_⟩
    rw [hquery, collect_observed]
    rfl
  · obtain ⟨location', hsince⟩ := handle_querySince systemMessage hordered hreadable
      hiterations (Int.le_refl 0) limit location
    obtain ⟨location'', htail⟩ := handle_queryTail systemMessage hreadable limit location
    -- no entry is older than the epoch
    have hall : journal.filter (fun record => (0 : Int) / 1000 ≤ record.realtimeUsec) = journal := by
      rw [List.filter_eq_self]
      intro record _
      simp
    rw [hsince, htail, hall]
    rfl
  · rintro w rfl hwhole rfl
    constructor
    · intro since hsince
      obtain ⟨location', hquery⟩ := handle_querySince systemMessage hordered hreadable
        hiterations hsince limit w.location
      have hresult := congrArg (Option.map Prod.fst) hquery
      exact ⟨_, hresult, returns_of_handle hwhole hresult⟩
    · obtain ⟨location', htail⟩ := handle_queryTail systemMessage hreadable limit w.location
      have hresult := congrArg (Option.map Prod.fst) htail
      exact ⟨_, hresult, returns_of_handle hwhole hresult⟩

end Readers

/-- Two entries a microsecond apart; the second has no message. -/
def twoRecords : List Record := [⟨[97], 1, [(Bytes.ofString "MESSAGE", [104, 105])]⟩, ⟨[98], 2, []⟩]

/-- The journal that holds them. -/
def twoRecordsState : JournalState where
  history := twoRecords
  vacuumed := 0
  location := .gap 0
  vacuumed_le := by decide
  location_le := by decide
  cursors_nodup := by decide

/-- Only the second entry is as new as 2500 ns, and only one entry is asked for. -/
theorem readers_agree_twoRecords :
    Returns (querySince (fun _ => []) 3 2500 1) twoRecordsState
        (.ok ⟨[Record.toEntry ⟨[98], 2, []⟩], Record.warnings ⟨[98], 2, []⟩⟩) ∧
      ∃ result, Returns (queryTail (fun _ => []) 1) twoRecordsState result ∧
        Returns (querySince (fun _ => []) 3 0 1) twoRecordsState result := by
  have hordered : twoRecords.Pairwise fun left right => left.realtimeUsec ≤ right.realtimeUsec := by
    decide
  have hreadable : ∀ record ∈ twoRecords, record.Readable := by
    unfold Record.Readable
    decide
  have hiterations : twoRecords.length < 3 := by decide
  obtain ⟨hshown, hagree, hreturns⟩ :=
    readers_agree (fun _ => []) hordered hreadable hiterations 1 (.gap 0)
  obtain ⟨hsince, tail, htail, hreturned⟩ := hreturns twoRecordsState rfl rfl rfl
  obtain ⟨shown, hsuffix, hlength, hquery⟩ := hshown 2500 (by decide)
  have hfiltered : twoRecords.filter (fun record => (2500 : Int) / 1000 ≤ record.realtimeUsec) =
      [⟨[98], 2, []⟩] := by decide
  rw [hfiltered] at hsuffix hlength
  obtain rfl := hsuffix.eq_of_length hlength
  obtain ⟨result, hresult, hruns⟩ := hsince 2500 (by decide)
  obtain rfl := Option.some.inj (hresult.symm.trans hquery)
  obtain ⟨result, hresult, hepoch⟩ := hsince 0 (Int.le_refl 0)
  obtain rfl := Option.some.inj (hresult.symm.trans (hagree.symm.trans htail))
  exact ⟨by simpa using hruns, result, hreturned, hepoch⟩

end Lx.Journal
