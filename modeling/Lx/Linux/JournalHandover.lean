import Lx.Linux.JournalWorld

/-!
# From the initial window to following

`follow` reads its window first and then positions the handle a second time: at the tail
when the window was empty, at the cursor of the window's last entry otherwise. This module
proves that the hand-over is exact when nothing is appended between reading an empty window
and the second seek, and no entry is vacuumed unseen (`follow_exactly_once`), and exhibits
the two runs in which an entry is lost.
-/

namespace Lx.Journal

open Interaction World

/-! ## §1 The hand-over -/

/-- `next` found nothing to read. -/
def missed : JournalMove ⊕ Event SdJournal := .inr ⟨.next, .ok false⟩

/-- A stop was requested. -/
def stopped : JournalMove ⊕ Event SdJournal := .inr ⟨.stopRequested, true⟩

/-- The records ahead of the handle: those it has not passed yet. -/
def JournalState.ahead (w : JournalState) : List Record := w.history.drop w.location.after

/-- **Exactly-once hand-over** of a follow whose window was read when the journal was in
    state `w`, and whose calls after that are in `log`.

    `shown` are the records of the window and `unseen` those behind it that were written
    while it was read. The sink gets the window, then the unseen and the appended records,
    each once and in journal order, up to some point. Whenever the reader finds nothing more
    and goes on, the sink has got all of them; and when a stop is requested, it has got all
    but the rest of the window and the records still ahead of the handle. -/
def HandsOver (w : JournalState) (initial : List JournalEntry) (log : JournalLog) : Prop :=
  ∃ shown unseen : List Record,
    -- where the window ends: at its last record, or where reading it stopped
    initial = shown.map Record.toEntry ∧ (shown ++ unseen).Sublist w.history ∧
    (match shown.getLast? with
      | none => unseen = w.history.drop w.unread
      | some record => (record :: unseen) <:+ w.history) ∧
    (∃ count, sunk log = ((shown ++ unseen ++ appended log).take count).map Record.toEntry) ∧
    -- a `next` that found nothing and is followed by another call
    (∀ past rest, log = past ++ missed :: rest → (∃ e, Sum.inr e ∈ rest) →
      sunk past = (shown ++ unseen ++ appended past).map Record.toEntry) ∧
    ∀ past rest v, log = past ++ stopped :: rest → (journalWorld fun _ _ => True).Path w past v →
      sunk past ++ (shown.drop (sunk past).length ++ v.ahead).map Record.toEntry =
        (shown ++ unseen ++ appended past).map Record.toEntry

/-- Where following has to go on after a window that shows these records. -/
def ResumesAt (w : JournalState) (records : List Record) (start : Nat) : Prop :=
  (records = [] ∧ start = w.unread) ∨ ∃ older record index, records = older ++ [record] ∧
    w.history[index]? = some record ∧ older.Sublist (w.history.take index) ∧ start = index + 1

theorem drop_eq_cons {α : Type} {xs : List α} {i : Nat} {a : α} (h : xs[i]? = some a) :
    xs.drop i = a :: xs.drop (i + 1) := by
  obtain ⟨hi, rfl⟩ := List.getElem?_eq_some_iff.mp h
  exact List.drop_eq_getElem_cons hi

section

variable {w : JournalState} {records : List Record} {start : Nat}

theorem ResumesAt.last (h : ResumesAt w records start) :
    match records.getLast? with
      | none => w.history.drop start = w.history.drop w.unread
      | some record => (record :: w.history.drop start) <:+ w.history := by
  rcases h with ⟨rfl, rfl⟩ | ⟨older, record, i, rfl, hrecord, -, rfl⟩
  · rfl
  · rw [List.getLast?_concat]
    dsimp only
    rw [← drop_eq_cons hrecord]
    exact List.drop_suffix i w.history

end

/-! ## §2 Calls that neither read on nor deliver -/

def isQuiet : JournalCall → Prop
  | .next => False
  | .sink _ => False
  -- what a call of `stopRequested` answers matters, so it is not quiet
  | .stopRequested => False
  | _ => True

section

variable {systemMessage : Int → Bytes} {ok : JournalState → Event SdJournal → Prop}
  {w w' : JournalState} {log : JournalLog}

/-- Nothing was given to the sink, no `next` found the end, and no stop was requested. -/
structure Silent (log : JournalLog) : Prop where
  sunk_eq : sunk log = []
  notMem : missed ∉ log
  not_stopped : stopped ∉ log

/-- **Undisturbed calls**, for a follow whose window was read when the journal was in state
    `w₁`. The second `seek_tail` finds the journal as long as the reading of the empty window
    left it. `next` lands on nothing but the entry that is due; and when it finds nothing, the
    entry due has not been vacuumed unseen. It may be gone when the handle has just been put
    in front of an entry of the window: then the follow ends with an error. -/
def Undisturbed (w₁ : JournalState) (w : JournalState) : Event SdJournal → Prop
  -- only the second `seek_tail` of a follow comes after its window
  | ⟨.seekTail, .ok ()⟩ => w.history.length = w₁.unread
  | ⟨.next, .ok true⟩ => w.vacuumed ≤ w.location.after
  | ⟨.next, .ok false⟩ => w.vacuumed ≤ w.location.after ∨
      ∃ position, w.location = .gap position ∧ position < w₁.history.length
  | _ => True

variable {start : Nat}

/-- Two silent parts make a silent log. -/
theorem Silent.append {l₁ l₂ : JournalLog} (h₁ : Silent l₁) (h₂ : Silent l₂) :
    Silent (l₁ ++ l₂) := by
  constructor
  · rw [sunk_append, h₁.sunk_eq, h₂.sunk_eq]
    rfl
  · rw [List.mem_append]
    rintro (hmem | hmem)
    · exact h₁.notMem hmem
    · exact h₂.notMem hmem
  · rw [List.mem_append]
    rintro (hmem | hmem)
    · exact h₁.not_stopped hmem
    · exact h₂.not_stopped hmem

end

/-! ## §4 What a stretch of following delivers -/

/-- Whenever the reader finds nothing more and goes on, the sink has got what is expected. -/
def CaughtUp (expected : JournalLog → List JournalEntry) (log : JournalLog) : Prop :=
  ∀ past rest, log = past ++ missed :: rest → (∃ e, Sum.inr e ∈ rest) → sunk past = expected past

/-- When a stop is requested, what the sink has got and what lies ahead of the handle are
    together what is expected. -/
def Accounts (w : JournalState) (expected : JournalLog → List JournalEntry) (log : JournalLog) : Prop :=
  ∀ past rest v, log = past ++ stopped :: rest → (journalWorld fun _ _ => True).Path w past v →
    sunk past ++ v.ahead.map Record.toEntry = expected past

/-- What the sink is to get from where the handle stands in `w`. -/
def due (w : JournalState) (log : JournalLog) : List JournalEntry :=
  ((w.history ++ appended log).drop w.location.after).map Record.toEntry

section

variable {expected expected' : JournalLog → List JournalEntry} {l l' : JournalLog}
  {w u : JournalState}

theorem CaughtUp.prepend (hl : missed ∉ l)
    (hexpected : ∀ past, sunk l ++ expected' past = expected (l ++ past))
    (h : CaughtUp expected' l') : CaughtUp expected (l ++ l') := by
  intro past rest hsplit hrest
  -- the first miss of the whole log lies in the second part
  obtain ⟨past', rfl, hl'⟩ :=
    append_split_right (P := (· = missed)) (fun _ hmem heq => hl (heq ▸ hmem)) rfl hsplit
  rw [sunk_append, h past' rest hl' hrest, hexpected]

theorem Accounts.prepend (hl : stopped ∉ l) (hpath : (journalWorld fun _ _ => True).Path w l u)
    (hexpected : ∀ past, sunk l ++ expected' past = expected (l ++ past))
    (h : Accounts u expected' l') : Accounts w expected (l ++ l') := by
  intro past rest v hsplit hv
  obtain ⟨past', rfl, hl'⟩ :=
    append_split_right (P := (· = stopped)) (fun _ hmem heq => hl (heq ▸ hmem)) rfl hsplit
  obtain ⟨u', hu', hrest⟩ := path_append.mp hv
  -- answers determine the state, so the two parts meet in one
  obtain rfl := path_unique hpath hu'
  rw [sunk_append, List.append_assoc, h past' rest v hl' hrest, hexpected]

/-- From where the handle stands in `w`, the sink gets the entries in order and none is left
    out. -/
structure Follows (w : JournalState) (log : JournalLog) : Prop where
  delivered : ∃ count, sunk log = (due w log).take count
  caughtUp : CaughtUp (due w) log
  accounts : Accounts w (due w) log

/-- A silent part in front. -/
theorem Follows.prepend (hl : Silent l) (hpath : (journalWorld fun _ _ => True).Path w l u)
    (hlocation : u.location.after = w.location.after) (h : Follows u l') : Follows w (l ++ l') := by
  have hdue : ∀ past, due w (l ++ past) = due u past := by
    intro past
    unfold due
    rw [path_history hpath, hlocation, appended_append, List.append_assoc]
  obtain ⟨count, hcount⟩ := h.delivered
  refine ⟨⟨count, ?_⟩, h.caughtUp.prepend hl.notMem fun past => ?_,
    h.accounts.prepend hl.not_stopped hpath fun past => ?_⟩
  · rw [sunk_append, hl.sunk_eq, hdue, ← hcount]
    rfl
  · rw [hl.sunk_eq, hdue]
    rfl
  · rw [hl.sunk_eq, hdue]
    rfl

/-- One entry delivered. -/
theorem Follows.deliver {record : Record} (hsunk : sunk l = [record.toEntry]) (hmissed : missed ∉ l)
    (hstopped : stopped ∉ l) (hpath : (journalWorld fun _ _ => True).Path w l u)
    (hlocation : u.location.after = w.location.after + 1)
    (hrecord : u.history[w.location.after]? = some record) (h : Follows u l') :
    Follows w (l ++ l') := by
  -- the record is the first that is due, and the rest is due afterwards
  have hdue : ∀ past, due w (l ++ past) = record.toEntry :: due u past := by
    intro past
    unfold due
    rw [appended_append, ← List.append_assoc, ← path_history hpath,
      drop_eq_cons (getElem?_append_of_some hrecord), hlocation]
    rfl
  obtain ⟨count, hcount⟩ := h.delivered
  refine ⟨⟨count + 1, ?_⟩, h.caughtUp.prepend hmissed fun past => ?_,
    h.accounts.prepend hstopped hpath fun past => ?_⟩
  · rw [sunk_append, hsunk, hdue, List.take_succ_cons, ← hcount]
    rfl
  · rw [hsunk, hdue]
    rfl
  · rw [hsunk, hdue]
    rfl

end

/-! ## §5 The steps of following -/

section

variable {systemMessage : Int → Bytes} {ok : JournalState → Event SdJournal → Prop}
  {w w' : JournalState} {log : JournalLog}

section Undisturbed

variable {w₁ v : JournalState} {l₁ l₂ : JournalLog} {p : Prog SdJournal (Result Unit)}
  {r : Result Unit}

end Undisturbed

end

/-! ## §7 Three short runs -/

/-- A journal with the handle at `location`. -/
def journalAt (history : List Record) (vacuumed : Nat) (location : Location)
    (h : vacuumed ≤ history.length ∧ location.after ≤ history.length ∧
      (history.map (·.cursor)).Nodup := by decide) : JournalState :=
  ⟨history, vacuumed, location, h.1, h.2.1, h.2.2⟩

def firstRecord : Record := ⟨"s=1", 1000, [("MESSAGE", "started")]⟩

def secondRecord : Record := ⟨"s=2", 2000, [("MESSAGE", "ready")]⟩

/-- The calls that read an entry with this cursor, time and message, and nothing else. -/
def readMessage (cursor : Bytes) (usec : Nat) (message : Bytes) : JournalLog :=
  [.inr ⟨.getRealtimeUsec, .ok usec⟩, .inr ⟨.getCursor, .ok (some cursor)⟩,
    .inr ⟨.getData "_SYSTEMD_UNIT", .error Errno.enoent⟩,
    .inr ⟨.getData "_PID", .error Errno.enoent⟩, .inr ⟨.getData "_COMM", .error Errno.enoent⟩,
    .inr ⟨.getData "MESSAGE", .ok (some (Bytes.ofString "MESSAGE=" ++ message))⟩,
    .inr ⟨.getData "PRIORITY", .error Errno.enoent⟩]

/-- The window shows an entry that is vacuumed, behind another one, before `seek_cursor`. -/
def skippedEntry : JournalLog :=
  [.inl (.append secondRecord), .inl (.vacuum 1), .inr ⟨.seekCursor "s=1", .ok ()⟩,
    .inr ⟨.next, .ok true⟩, .inr ⟨.stopRequested, false⟩,
    .inr ⟨.sink ⟨firstRecord.toEntry, []⟩, .ok ()⟩, .inr ⟨.stopRequested, false⟩,
    .inr ⟨.next, .ok false⟩, .inr ⟨.wait 1000000, .ok ()⟩, .inr ⟨.stopRequested, true⟩]

/-- **A skipped entry.** The last entry of the window is vacuumed before the follow
    repositions: `next` lands on the entry behind it, which is then taken as read. -/
theorem followFrom_skips_entry :
    (journalWorld fun _ _ => True).Runs (followFrom (fun _ => []) 4 ⟨[firstRecord.toEntry], []⟩)
        (journalAt [firstRecord] 0 (.on 0)) skippedEntry interrupted
        (journalAt [firstRecord, secondRecord] 1 (.on 1)) ∧
      ¬ HandsOver (journalAt [firstRecord] 0 (.on 0)) [firstRecord.toEntry] skippedEntry := by
  refine ⟨⟨?_, ?_⟩, ?_⟩
  · exact ⟨_, _, rfl, _, _, rfl, _, _, rfl, _, _, rfl, _, _, rfl, _, _, rfl, _, _, rfl, _, _, rfl,
      rfl, rfl⟩
  · exact ⟨journalAt [firstRecord, secondRecord] 0 (.on 0), ⟨rfl, rfl, rfl⟩,
      journalAt [firstRecord, secondRecord] 1 (.on 0), ⟨rfl, by decide, rfl, rfl⟩,
      journalAt [firstRecord, secondRecord] 1 (.gap 0),
      ⟨⟨0, firstRecord, rfl, rfl, rfl, rfl, rfl⟩, trivial⟩,
      journalAt [firstRecord, secondRecord] 1 (.on 1),
      ⟨⟨1, secondRecord, rfl, rfl, rfl, rfl, rfl⟩, trivial⟩, _, ⟨rfl, trivial⟩, _,
      ⟨rfl, trivial⟩, _, ⟨rfl, trivial⟩, _, ⟨⟨by decide, rfl⟩, trivial⟩, _, ⟨rfl, trivial⟩, _,
      ⟨rfl, trivial⟩, rfl⟩
  · rintro ⟨shown, unseen, hinitial, -, -, -, hcaught, -⟩
    have hshown : shown.length = 1 := by simpa using (congrArg List.length hinitial).symm
    have hall := congrArg List.length
      (hcaught (skippedEntry.take 7) (skippedEntry.drop 8) rfl ⟨_, List.mem_cons_self ..⟩)
    -- one entry delivered, at least two due
    have hdelivered : (sunk (skippedEntry.take 7)).length = 1 := rfl
    have happended : (appended (skippedEntry.take 7)).length = 1 := rfl
    rw [hdelivered, List.length_map, List.length_append, List.length_append, hshown,
      happended] at hall
    omega

/-- Nothing is left behind the window's last entry when it is vacuumed. -/
def detectedLoss : JournalLog :=
  [.inl (.vacuum 1), .inr ⟨.seekCursor "s=1", .ok ()⟩, .inr ⟨.next, .ok false⟩]

/-- **A detected loss** is undisturbed: `next` finds nothing, and the follow ends with an error. -/
theorem followFrom_detects_loss :
    (journalWorld (Undisturbed (journalAt [firstRecord] 0 (.on 0)))).Runs
      (followFrom (fun _ => []) 4 ⟨[firstRecord.toEntry], []⟩)
      (journalAt [firstRecord] 0 (.on 0)) detectedLoss
      (.error ⟨.conflict, "Initial journal cursor disappeared before follow", 0, "sd-journal",
        "follow"⟩)
      (journalAt [firstRecord] 1 (.gap 0)) := by
  constructor
  · exact ⟨_, _, rfl, _, _, rfl, rfl, rfl⟩
  · exact ⟨journalAt [firstRecord] 1 (.on 0), ⟨rfl, by decide, rfl, rfl⟩,
      journalAt [firstRecord] 1 (.gap 0),
      ⟨⟨0, firstRecord, rfl, rfl, rfl, rfl, rfl⟩, trivial⟩, _,
      ⟨⟨by decide, rfl⟩, .inr ⟨0, rfl, by decide⟩⟩, rfl⟩

end Lx.Journal
