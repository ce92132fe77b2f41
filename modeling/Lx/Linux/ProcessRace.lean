import Lx.Lib.Interleaving
import Lx.Linux.ProcFsProcessProvider
import Mathlib.Data.List.Perm.Subperm

/-!
# Processes that exit while they are listed

`list` and `sample` visit the processes of one directory listing one after the other,
while any of them may exit between any two system calls. A process that is gone when one
of its records is opened is skipped and counted. A process that exits between the open
and the read of one record takes the whole call down: the stream buffer throws.
-/

namespace Lx.ProcFs

open Interaction World

variable {strerror : Int → Bytes} {t : Trace Sys}

/-! ## §1 What makes the functions throw -/

/-- Reading an opened record failed. -/
def ReadFailed (t : Trace Sys) : Prop :=
  ∃ pid file errno, ⟨.readFile pid file, .error errno⟩ ∈ t

/-- Every read follows right after the successful open of the same record. -/
def OpenedBeforeRead (t : Trace Sys) : Prop :=
  Guarded (fun past e => ∀ pid file x, e = ⟨.readFile pid file, x⟩ →
    past.getLast? = some ⟨.openFile pid file, .ok ()⟩) t

/-- Programs whose only exceptions are those of failed reads. -/
def ThrowsOnReads {α : Type} (p : Throws α) : Prop :=
  ∀ t r, p.run.Run t r → ((∃ e, r = .error e) ↔ ReadFailed t) ∧ OpenedBeforeRead t

theorem readFailed_append {t u : Trace Sys} :
    ReadFailed (t ++ u) ↔ ReadFailed t ∨ ReadFailed u := by
  simp only [ReadFailed, List.mem_append]
  grind

theorem OpenedBeforeRead.append {t u : Trace Sys} (ht : OpenedBeforeRead t)
    (hu : OpenedBeforeRead u) : OpenedBeforeRead (t ++ u) := by
  refine guarded_append.mpr ⟨ht, hu.mono fun past e hread pid file x he => ?_⟩
  rw [List.getLast?_append, hread pid file x he]
  rfl

theorem ThrowsOnReads.pure {α : Type} (a : α) : ThrowsOnReads (pure a : Throws α) := by
  rintro t r ⟨rfl, rfl⟩
  exact ⟨iff_of_false (by rintro ⟨_, ⟨⟩⟩) (by simp [ReadFailed]), guarded_nil⟩

theorem ThrowsOnReads.bind {α β : Type} {p : Throws α} {f : α → Throws β} (hp : ThrowsOnReads p)
    (hf : ∀ a, ThrowsOnReads (f a)) : ThrowsOnReads (p >>= f) := by
  intro t r h
  rcases Prog.run_exceptT_bind_iff.mp h with ⟨e, hthrow, rfl⟩ | ⟨a, t₁, t₂, hfirst, hsecond, rfl⟩
  · obtain ⟨hiff, hopened⟩ := hp t _ hthrow
    exact ⟨iff_of_true ⟨e, rfl⟩ (hiff.mp ⟨e, rfl⟩), hopened⟩
  · obtain ⟨hiff₁, hopened₁⟩ := hp t₁ _ hfirst
    obtain ⟨hiff₂, hopened₂⟩ := hf a t₂ r hsecond
    refine ⟨?_, hopened₁.append hopened₂⟩
    rw [readFailed_append, hiff₂]
    have hnone : ¬ ReadFailed t₁ := fun hread => by
      obtain ⟨e, he⟩ := hiff₁.mpr hread
      cases he
    simp [hnone]

/-- Any call but a read. -/
theorem ThrowsOnReads.call {c : SysCall} (h : ∀ pid file, c ≠ .readFile pid file) :
    ThrowsOnReads (call c) := by
  intro t r hrun
  obtain ⟨x, _, rfl, rfl, rfl⟩ := hrun
  refine ⟨iff_of_false (by rintro ⟨_, ⟨⟩⟩) ?_, guarded_cons.mpr ⟨?_, guarded_nil⟩⟩
  · rintro ⟨pid, file, errno, hmem⟩
    exact h pid file (congrArg Sigma.fst (List.mem_singleton.mp hmem)).symm
  · intro pid file x he
    exact absurd (congrArg Sigma.fst he) (h pid file)

/-- The three ways to read a record. -/
theorem readFile_run {pid : Int} {file : ProcFile} {r : Except Exception (Result Bytes)}
    (h : (ProcFsReader.readFile strerror pid file).run.Run t r) :
    (∃ errno number, t = [⟨.openFile pid file, .error errno⟩] ∧
      number = (if errno = 0 then Errno.eio else errno) ∧
      r = .ok (.error (makeError strerror number (Bytes.ofString "read " ++ ProcFile.name file)))) ∨
    (∃ contents, t = [⟨.openFile pid file, .ok ()⟩, ⟨.readFile pid file, .ok contents⟩] ∧
      r = .ok (.ok contents)) ∨
    (∃ errno, t = [⟨.openFile pid file, .ok ()⟩, ⟨.readFile pid file, .error errno⟩] ∧
      r = .error (.iosFailure errno)) := by
  rcases Prog.run_exceptT_bind_iff.mp h with ⟨e, ⟨_, _, -, -, hbad⟩, -⟩ |
    ⟨opened, _, t₂, ⟨x, _, rfl, rfl, hx⟩, hk, rfl⟩
  · cases hbad
  · obtain rfl := Except.ok.inj hx
    cases opened with
    | error errno =>
      obtain ⟨rfl, rfl⟩ := hk
      exact .inl ⟨errno, _, rfl, rfl, rfl⟩
    | ok _ =>
      rcases Prog.run_exceptT_bind_iff.mp hk with ⟨e, ⟨_, _, -, -, hbad⟩, -⟩ |
        ⟨contents, _, t₃, ⟨x, _, rfl, rfl, hx⟩, hk₁, rfl⟩
      · cases hbad
      · obtain rfl := Except.ok.inj hx
        cases contents with
        | error errno =>
          obtain ⟨rfl, rfl⟩ := hk₁
          exact .inr (.inr ⟨errno, rfl, rfl⟩)
        | ok contents =>
          obtain ⟨rfl, rfl⟩ := hk₁
          exact .inr (.inl ⟨contents, rfl, rfl⟩)

theorem readFile_throws (pid : Int) (file : ProcFile) :
    ThrowsOnReads (ProcFsReader.readFile strerror pid file) := by
  intro t r h
  rcases readFile_run h with ⟨errno, _, rfl, -, rfl⟩ | ⟨contents, rfl, rfl⟩ | ⟨errno, rfl, rfl⟩
  · refine ⟨iff_of_false (by rintro ⟨_, ⟨⟩⟩) ?_, guarded_cons.mpr ⟨?_, guarded_nil⟩⟩
    · rintro ⟨_, _, _, hmem⟩
      cases List.mem_singleton.mp hmem
    · rintro _ _ _ ⟨⟩
  · refine ⟨iff_of_false (by rintro ⟨_, ⟨⟩⟩) ?_,
      guarded_cons.mpr ⟨?_, guarded_cons.mpr ⟨?_, guarded_nil⟩⟩⟩
    · rintro ⟨_, _, _, hmem⟩
      rcases List.mem_pair.mp hmem with heq | heq <;> cases heq
    · rintro _ _ _ ⟨⟩
    · rintro _ _ _ ⟨⟩
      rfl
  · refine ⟨iff_of_true ⟨_, rfl⟩ ⟨pid, file, errno, by simp⟩,
      guarded_cons.mpr ⟨?_, guarded_cons.mpr ⟨?_, guarded_nil⟩⟩⟩
    · rintro _ _ _ ⟨⟩
    · rintro _ _ _ ⟨⟩
      rfl

theorem readLink_throws (pid : Int) (link : ProcLink) :
    ThrowsOnReads (ProcFsReader.readLink strerror pid link) := by
  refine (ThrowsOnReads.call (by simp)).bind fun target => ?_
  cases target <;> exact .pure _

theorem nameWithBuffer_throws (uid size : Nat) (hsize : 0 < size) :
    ThrowsOnReads (nameWithBuffer uid size hsize) := by
  fun_induction nameWithBuffer uid size hsize with
  | case1 size hsize hle ih =>
    refine (ThrowsOnReads.call (by simp)).bind fun found => ?_
    split
    · exact .pure _
    · exact .pure _
    · split
      · exact .pure _
      · exact ih
  | case2 => exact .pure _

theorem nameForUid_throws (uid : Nat) : ThrowsOnReads (nameForUid uid) := by
  refine (ThrowsOnReads.call (by simp)).bind fun suggested => ?_
  split <;> exact nameWithBuffer_throws _ _ _

theorem requiredRecords_throws (pid : Int) : ThrowsOnReads (requiredRecords strerror pid) := by
  refine (readFile_throws pid .stat).bind fun statText => ?_
  split
  · exact .pure _
  · split
    · exact .pure _
    · split
      · exact .pure _
      · refine (readFile_throws pid .status).bind fun statusText => ?_
        split
        · exact .pure _
        · split <;> exact .pure _

theorem optionalDetails_throws (pid : Int) (info : ProcessInfo) :
    ThrowsOnReads (optionalDetails strerror pid info) := by
  refine (nameForUid_throws _).bind fun user => ?_
  refine (readFile_throws _ _).bind fun cmdline => ?_
  refine (readLink_throws _ _).bind fun executable => ?_
  exact (readLink_throws _ _).bind fun cwd => .pure _

theorem get_throws (pid : Int) : ThrowsOnReads (get strerror pid) := by
  refine (requiredRecords_throws pid).bind fun records => ?_
  split
  · exact .pure _
  · exact (optionalDetails_throws _ _).bind fun _ => .pure _

theorem listFrom_throws (ids : List Int) (state : ListState) :
    ThrowsOnReads (listFrom strerror ids state) := by
  induction ids generalizing state with
  | nil => exact .pure _
  | cons pid rest ih => exact (get_throws pid).bind fun _ => ih _

theorem sampleFrom_throws (ids : List Int) (samples : List ProcessCpuSample) :
    ThrowsOnReads (sampleFrom strerror ids samples) := by
  induction ids generalizing samples with
  | nil => exact .pure _
  | cons pid rest ih =>
    refine (readFile_throws pid .stat).bind fun text => ?_
    split
    · exact ih _
    · split
      · split
        · exact ih _
        · exact ih _
      · exact ih _

/-! ## §2 Visits -/

/-- The required records of `pid` were readable and well-formed whenever `t` touched them. -/
structure Readable (pid : Int) (t : Trace Sys) : Prop where
  opens : ∀ file errno, file ≠ .cmdline → ⟨.openFile pid file, .error errno⟩ ∉ t
  stat : ∀ contents, ⟨.readFile pid .stat, .ok contents⟩ ∈ t →
    ∃ record, parseStat contents = .ok record ∧ record.pid = pid
  status : ∀ contents, ⟨.readFile pid .status, .ok contents⟩ ∈ t →
    ∃ record, parseStatus contents = .ok record

/-- A required record of `pid` was gone when it was to be opened. -/
def OpenedTooLate (pid : Int) (t : Trace Sys) : Prop :=
  ∃ file, file ≠ .cmdline ∧ ⟨.openFile pid file, .error Errno.enoent⟩ ∈ t

theorem Readable.mono {pid : Int} {t u : Trace Sys} (h : Readable pid u) (hsub : t ⊆ u) :
    Readable pid t :=
  ⟨fun file errno hfile hmem => h.opens file errno hfile (hsub hmem),
    fun contents hmem => h.stat contents (hsub hmem),
    fun contents hmem => h.status contents (hsub hmem)⟩

/-- A record that was opened and read. -/
def recordRead (pid : Int) (file : ProcFile) (contents : Bytes) : Trace Sys :=
  [⟨.openFile pid file, .ok ()⟩, ⟨.readFile pid file, .ok contents⟩]

/-- A record opened and read adds nothing to what was opened too late. -/
theorem OpenedTooLate.of_read {pid other : Int} {file : ProcFile} {contents : Bytes} {t : Trace Sys}
    (h : OpenedTooLate pid (recordRead other file contents ++ t)) : OpenedTooLate pid t := by
  obtain ⟨file', hfile, hmem⟩ := h
  rcases List.mem_append.mp hmem with hmem | hmem
  · rcases List.mem_pair.mp hmem with heq | heq <;> cases heq
  · exact ⟨file', hfile, hmem⟩

/-- A failed open: nothing else happened, and a missing record is reported as `NotFound`. -/
theorem open_failed (strerror : Int → Bytes) (pid : Int) {file : ProcFile} (errno : Errno)
    (operation : Bytes) (hfile : file ≠ .cmdline) :
    ¬ Readable pid [⟨.openFile pid file, .error errno⟩] ∧
    (OpenedTooLate pid [⟨.openFile pid file, .error errno⟩] →
      (makeError strerror (if errno = 0 then Errno.eio else errno) operation).code = .notFound) := by
  refine ⟨fun hreadable => hreadable.opens file errno hfile (by simp), ?_⟩
  rintro ⟨file', -, hmem⟩
  cases List.mem_singleton.mp hmem
  rfl

/-- **What reading the required records can do.** The stat record comes first, and the status
    record is opened only if the stat record is one of `pid`. -/
theorem requiredRecords_cases {pid : Int} {r : Result (StatRecord × StatusRecord)}
    (h : (requiredRecords strerror pid).run.Run t (.ok r)) :
    (∃ errno, t = [⟨.openFile pid .stat, .error errno⟩] ∧
      r = .error (makeError strerror (if errno = 0 then Errno.eio else errno)
        (Bytes.ofString "read " ++ ProcFile.name .stat))) ∨
    ∃ stat rest, t = recordRead pid .stat stat ++ rest ∧
      (rest = [] ∧ (∀ record, parseStat stat = .ok record → record.pid ≠ pid) ∧
        (∃ error, r = .error error) ∨
      (∃ errno, rest = [⟨.openFile pid .status, .error errno⟩] ∧
        r = .error (makeError strerror (if errno = 0 then Errno.eio else errno)
          (Bytes.ofString "read " ++ ProcFile.name .status))) ∨
      ∃ status, rest = recordRead pid .status status ∧
        ((∃ error, parseStatus status = .error error ∧ r = .error error) ∨
          ∃ records, r = .ok records)) := by
  rcases Prog.run_exceptT_bind_iff.mp h with ⟨_, -, hbad⟩ | ⟨statText, t₁, t₂, hstat, hk, rfl⟩
  · cases hbad
  rcases readFile_run hstat with ⟨errno, _, rfl, rfl, hr⟩ | ⟨stat, rfl, hr⟩ | ⟨_, -, hr⟩
  · obtain rfl := Except.ok.inj hr
    obtain ⟨rfl, hr⟩ := hk
    exact .inl ⟨errno, rfl, Except.ok.inj hr⟩
  · obtain rfl := Except.ok.inj hr
    refine .inr ⟨stat, t₂, rfl, ?_⟩
    dsimp only at hk
    split at hk
    · -- the stat record is malformed
      rename_i error hparse
      obtain ⟨rfl, hr⟩ := hk
      refine .inl ⟨rfl, fun record hrecord => ?_, error, Except.ok.inj hr⟩
      rw [hparse] at hrecord
      cases hrecord
    rename_i record hparse
    split at hk
    · -- it is about another process
      rename_i hpid
      obtain ⟨rfl, hr⟩ := hk
      refine .inl ⟨rfl, fun record' hrecord => ?_, _, Except.ok.inj hr⟩
      rw [hparse] at hrecord
      obtain rfl := Except.ok.inj hrecord
      exact hpid
    rcases Prog.run_exceptT_bind_iff.mp hk with ⟨_, -, hbad⟩ |
      ⟨statusText, t₃, t₄, hstatus, hk₁, rfl⟩
    · cases hbad
    rcases readFile_run hstatus with ⟨errno, _, rfl, rfl, hr⟩ | ⟨status, rfl, hr⟩ | ⟨_, -, hr⟩
    · obtain rfl := Except.ok.inj hr
      obtain ⟨rfl, hr⟩ := hk₁
      exact .inr (.inl ⟨errno, rfl, Except.ok.inj hr⟩)
    · obtain rfl := Except.ok.inj hr
      dsimp only at hk₁
      split at hk₁
      · rename_i error hparse'
        obtain ⟨rfl, hr⟩ := hk₁
        exact .inr (.inr ⟨status, by simp [recordRead], .inl ⟨error, hparse', Except.ok.inj hr⟩⟩)
      · obtain ⟨rfl, hr⟩ := hk₁
        exact .inr (.inr ⟨status, by simp [recordRead], .inr ⟨_, Except.ok.inj hr⟩⟩)
    · cases hr
  · cases hr

/-- What the required records of a process come to. -/
theorem requiredRecords_run {pid : Int} {r : Result (StatRecord × StatusRecord)}
    (h : (requiredRecords strerror pid).run.Run t (.ok r)) :
    (Readable pid t → ∃ records, r = .ok records) ∧
    (OpenedTooLate pid t → ∃ error, r = .error error ∧ error.code = .notFound) := by
  rcases requiredRecords_cases h with ⟨errno, rfl, rfl⟩ | ⟨stat, rest, rfl, hrest⟩
  · obtain ⟨hunreadable, hcode⟩ := open_failed strerror pid errno
      (Bytes.ofString "read " ++ ProcFile.name .stat) (by simp : ProcFile.stat ≠ .cmdline)
    exact ⟨fun hreadable => absurd hreadable hunreadable, fun hlate => ⟨_, rfl, hcode hlate⟩⟩
  rcases hrest with ⟨rfl, hother, -⟩ | ⟨errno, rfl, rfl⟩ |
    ⟨status, rfl, ⟨error, hparse, rfl⟩ | ⟨records, rfl⟩⟩
  · -- a stat record that does not do: not readable, but nothing came too late
    constructor
    · intro hreadable
      obtain ⟨record, hrecord, hpid⟩ := hreadable.stat stat (by simp [recordRead])
      exact absurd hpid (hother record hrecord)
    · intro hlate
      obtain ⟨file, -, hmem⟩ := hlate.of_read
      cases hmem
  · obtain ⟨hunreadable, hcode⟩ := open_failed strerror pid errno
      (Bytes.ofString "read " ++ ProcFile.name .status) (by simp : ProcFile.status ≠ .cmdline)
    refine ⟨fun hreadable => ?_, fun hlate => ⟨_, rfl, hcode hlate.of_read⟩⟩
    exact absurd (hreadable.mono (List.subset_append_right _ _)) hunreadable
  · constructor
    · intro hreadable
      obtain ⟨record, hrecord⟩ := hreadable.status status (by simp [recordRead])
      rw [hparse] at hrecord
      cases hrecord
    · intro hlate
      rw [← List.append_nil (recordRead pid .status status)] at hlate
      obtain ⟨file, -, hmem⟩ := hlate.of_read.of_read
      cases hmem
  · refine ⟨fun _ => ⟨records, rfl⟩, fun hlate => ?_⟩
    rw [← List.append_nil (recordRead pid .status status)] at hlate
    obtain ⟨file, -, hmem⟩ := hlate.of_read.of_read
    cases hmem

section Within

variable {P : SysCall → Prop}

theorem call_within {c : SysCall} (h : P c) : (call c).run.Within (S := Sys) P :=
  ⟨h, fun _ => trivial⟩

theorem readFile_within {pid : Int} {file : ProcFile} (hopen : P (.openFile pid file))
    (hread : P (.readFile pid file)) :
    (ProcFsReader.readFile strerror pid file).run.Within (S := Sys) P := by
  refine (call_within hopen).exceptT_bind fun opened => ?_
  split
  · trivial
  · refine (call_within hread).exceptT_bind fun contents => ?_
    split <;> trivial

theorem readLink_within {pid : Int} {link : ProcLink} (h : P (.readLink pid link)) :
    (ProcFsReader.readLink strerror pid link).run.Within (S := Sys) P := by
  refine (call_within h).exceptT_bind fun target => ?_
  split <;> trivial

theorem nameForUid_within (hsysconf : P .sysconf) (hgetpwuid : ∀ uid size, P (.getpwuid uid size))
    (uid : Nat) : (nameForUid uid).run.Within (S := Sys) P := by
  have hbuffer : ∀ size hsize, (nameWithBuffer uid size hsize).run.Within (S := Sys) P := by
    intro size hsize
    fun_induction nameWithBuffer uid size hsize with
    | case1 size hsize hle ih =>
      refine (call_within (hgetpwuid uid size)).exceptT_bind fun found => ?_
      split
      · trivial
      · trivial
      · split
        · trivial
        · exact ih
    | case2 => trivial
  refine (call_within hsysconf).exceptT_bind fun suggested => ?_
  split <;> exact hbuffer _ _

theorem requiredRecords_within {pid : Int} (hopen : ∀ file, P (.openFile pid file))
    (hread : ∀ file, P (.readFile pid file)) :
    (requiredRecords strerror pid).run.Within (S := Sys) P := by
  refine (readFile_within (hopen .stat) (hread .stat)).exceptT_bind fun statText => ?_
  split
  · trivial
  · split
    · trivial
    · split
      · trivial
      · refine (readFile_within (hopen .status) (hread .status)).exceptT_bind fun statusText => ?_
        split
        · trivial
        · split <;> trivial

theorem optionalDetails_within {pid : Int} {info : ProcessInfo} (hsysconf : P .sysconf)
    (hgetpwuid : ∀ uid size, P (.getpwuid uid size)) (hopen : P (.openFile pid .cmdline))
    (hread : P (.readFile pid .cmdline)) (hlink : ∀ link, P (.readLink pid link)) :
    (optionalDetails strerror pid info).run.Within (S := Sys) P := by
  refine (nameForUid_within hsysconf hgetpwuid _).exceptT_bind fun user => ?_
  refine (readFile_within hopen hread).exceptT_bind fun cmdline => ?_
  refine (readLink_within (hlink .exe)).exceptT_bind fun executable => ?_
  exact (readLink_within (hlink .cwd)).exceptT_bind fun cwd => trivial

/-- All of `get` is about its process. -/
theorem get_within (pid : Int) : (get strerror pid).run.Within (S := Sys)
    (fun c => ∀ other file, c = .openFile other file → other = pid) := by
  refine (requiredRecords_within ?_ ?_).exceptT_bind fun records => ?_
  · rintro _ _ _ ⟨⟩
    rfl
  · rintro _ _ _ ⟨⟩
  · split
    · trivial
    · refine (optionalDetails_within ?_ ?_ ?_ ?_ ?_).exceptT_bind fun _ => trivial
      · rintro _ _ ⟨⟩
      · rintro _ _ _ _ ⟨⟩
      · rintro _ _ ⟨⟩
        rfl
      · rintro _ _ ⟨⟩
      · rintro _ _ _ ⟨⟩

end Within

theorem attach_keeps {α β : Type} {update : ProcessInfo → α → ProcessInfo}
    {observed : Observation ProcessInfo} {detail : Result α} (field : ProcessInfo → β)
    (hupdate : ∀ info detail, field (update info detail) = field info) :
    field (attach update observed detail).value = field observed.value := by
  cases detail with
  | error error => rfl
  | ok detail => exact hupdate _ _

/-- Details never change whose record it is, and leave its unit to the service layer. -/
theorem optionalDetails_keeps {pid : Int} {info : ProcessInfo} {observed : Observation ProcessInfo}
    (h : (optionalDetails strerror pid info).run.Run t (.ok observed)) :
    observed.value.pid = info.pid ∧ observed.value.systemdUnit = info.systemdUnit := by
  rcases Prog.run_exceptT_bind_iff.mp h with ⟨_, -, hbad⟩ | ⟨user, _, _, -, h₁, -⟩
  · cases hbad
  rcases Prog.run_exceptT_bind_iff.mp h₁ with ⟨_, -, hbad⟩ | ⟨cmdline, _, _, -, h₂, -⟩
  · cases hbad
  rcases Prog.run_exceptT_bind_iff.mp h₂ with ⟨_, -, hbad⟩ | ⟨executable, _, _, -, h₃, -⟩
  · cases hbad
  rcases Prog.run_exceptT_bind_iff.mp h₃ with ⟨_, -, hbad⟩ | ⟨cwd, _, _, -, ⟨-, hr⟩, -⟩
  · cases hbad
  obtain rfl := Except.ok.inj hr
  constructor
  · rw [attach_keeps ProcessInfo.pid, attach_keeps ProcessInfo.pid, attach_keeps ProcessInfo.pid,
      attachUser, attach_keeps ProcessInfo.pid]
    all_goals intros; rfl
  · rw [attach_keeps ProcessInfo.systemdUnit, attach_keeps ProcessInfo.systemdUnit,
      attach_keeps ProcessInfo.systemdUnit, attachUser, attach_keeps ProcessInfo.systemdUnit]
    all_goals intros; rfl

/-- **One process.** Readable records give an entry about the process; a record that was gone
    when it was to be opened gives `NotFound`. -/
theorem get_run {pid : Int} {r : Result (Observation ProcessInfo)}
    (h : (get strerror pid).run.Run t (.ok r)) :
    (Readable pid t → ∃ observed, r = .ok observed) ∧
    (OpenedTooLate pid t → ∃ error, r = .error error ∧ error.code = .notFound) ∧
    (∀ observed, r = .ok observed →
      observed.value.pid = pid ∧ observed.value.systemdUnit = none) := by
  rcases Prog.run_exceptT_bind_iff.mp h with ⟨_, -, hbad⟩ | ⟨records, t₁, t₂, hrecords, hk, rfl⟩
  · cases hbad
  obtain ⟨hreadable, hlate⟩ := requiredRecords_run hrecords
  cases records with
  | error error =>
    obtain ⟨rfl, hr⟩ := hk
    obtain rfl := Except.ok.inj hr
    rw [List.append_nil]
    -- the details are not looked at, so everything was said by the required records
    refine ⟨fun h => ?_, fun h => ?_, by rintro _ ⟨⟩⟩
    · obtain ⟨_, hbad⟩ := hreadable h
      cases hbad
    · obtain ⟨_, heq, hcode⟩ := hlate h
      obtain rfl := Except.error.inj heq
      exact ⟨error, rfl, hcode⟩
  | ok records =>
    obtain ⟨stat, status⟩ := records
    rcases Prog.run_exceptT_bind_iff.mp hk with ⟨_, -, hbad⟩ | ⟨observed, t₃, _, hd, ⟨rfl, hr⟩, rfl⟩
    · cases hbad
    obtain rfl := Except.ok.inj hr
    refine ⟨fun _ => ⟨observed, rfl⟩, ?_, ?_⟩
    · rintro ⟨file, hfile, hmem⟩
      rcases List.mem_append.mp hmem with hmem | hmem
      · obtain ⟨_, hbad, -⟩ := hlate ⟨file, hfile, hmem⟩
        cases hbad
      · -- the details open nothing but the command line
        have hwithin : (optionalDetails strerror pid (infoOf pid stat status)).run.Within (S := Sys)
            (fun c => ∀ other file, c = .openFile other file → file = .cmdline) := by
          refine optionalDetails_within ?_ ?_ ?_ ?_ ?_
          · rintro _ _ ⟨⟩
          · rintro _ _ _ _ ⟨⟩
          · rintro _ _ ⟨⟩
            rfl
          · rintro _ _ ⟨⟩
          · rintro _ _ _ ⟨⟩
        exact absurd (hwithin.run hd _ (by simpa using hmem) pid file rfl) hfile
    · rintro _ ⟨⟩
      exact optionalDetails_keeps hd

/-- What the release operations rely on: an answer of this provider is about the process asked
    for and names no unit. -/
theorem get_fromProcessProvider {pid : Int} {r : Result (Observation ProcessInfo)}
    (h : (get strerror pid).run.Run t (.ok r)) : FromProcessProvider [⟨.getProcess pid, r⟩] := by
  intro other observed hmem
  cases List.mem_singleton.mp hmem
  exact (get_run h).2.2 observed rfl

/-- A process of a listing, the calls its visit made, and what came of it. -/
structure Visit where
  pid : Int
  trace : Trace Sys
  outcome : Result (Observation ProcessInfo)

/-- The loop visits every process once, in order. -/
theorem listFrom_run {ids : List Int} {state final : ListState}
    (h : (listFrom strerror ids state).run.Run t (.ok final)) :
    ∃ visits : List Visit, visits.map (·.pid) = ids ∧ t = visits.flatMap (·.trace) ∧
      (∀ visit ∈ visits, (get strerror visit.pid).run.Run visit.trace (.ok visit.outcome)) ∧
      final = visits.foldl (fun state visit => state.record visit.outcome) state := by
  induction ids generalizing state t with
  | nil =>
    obtain ⟨rfl, hr⟩ := h
    obtain rfl := Except.ok.inj hr
    exact ⟨[], rfl, rfl, by simp, rfl⟩
  | cons pid rest ih =>
    rcases Prog.run_exceptT_bind_iff.mp h with ⟨_, -, hbad⟩ | ⟨process, t₁, t₂, hget, hk, rfl⟩
    · cases hbad
    obtain ⟨visits, hids, rfl, hvisits, rfl⟩ := ih hk
    refine ⟨⟨pid, t₁, process⟩ :: visits, by simp [hids], by simp, ?_, rfl⟩
    intro visit hvisit
    rcases List.mem_cons.mp hvisit with rfl | hvisit
    · exact hget
    · exact hvisits visit hvisit

theorem countWarning_spec (code : ErrorCode) (state : ListState) :
    (state.countWarning code).value = state.value ∧
    (state.countWarning code).disappearedWarnings =
      state.disappearedWarnings + if code = .notFound then 1 else 0 := by
  unfold ListState.countWarning
  split_ifs <;> simp_all

/-- Warnings leave the list alone, and the counter only grows. -/
theorem countWarnings_spec (warnings : List Warning) (state : ListState) :
    (warnings.foldl (fun state warning => state.countWarning warning.code) state).value =
      state.value ∧
    state.disappearedWarnings ≤
      (warnings.foldl (fun state warning => state.countWarning warning.code) state).disappearedWarnings := by
  induction warnings generalizing state with
  | nil => exact ⟨rfl, le_rfl⟩
  | cons warning rest ih =>
    obtain ⟨hvalue, hcount⟩ := ih (state.countWarning warning.code)
    obtain ⟨hstep, hgrows⟩ := countWarning_spec warning.code state
    refine ⟨hvalue.trans hstep, le_trans ?_ hcount⟩
    rw [hgrows]
    exact Nat.le_add_right _ _

/-- Visits that ended with `NotFound`. -/
def Visit.isMissing (visit : Visit) : Bool :=
  match visit.outcome with
  | .error error => error.code == .notFound
  | .ok _ => false

/-- The list holds the successful visits, and every missing process is counted. -/
theorem foldl_record_spec (visits : List Visit) (state : ListState) :
    let final := visits.foldl (fun state visit => state.record visit.outcome) state
    (∀ info, info ∈ final.value ↔ info ∈ state.value ∨
      ∃ visit ∈ visits, ∃ observed, visit.outcome = .ok observed ∧ observed.value = info) ∧
    state.disappearedWarnings + visits.countP Visit.isMissing ≤ final.disappearedWarnings := by
  induction visits generalizing state with
  | nil => simp
  | cons visit rest ih =>
    obtain ⟨hvalue, hcount⟩ := ih (state.record visit.outcome)
    obtain ⟨pid, trace, outcome⟩ := visit
    cases outcome with
    | error error =>
      obtain ⟨hkept, hgrows⟩ := countWarning_spec error.code state
      refine ⟨fun info => ?_, ?_⟩
      · rw [List.foldl_cons, hvalue info]
        simp [ListState.record, hkept]
      · rw [List.foldl_cons]
        refine le_trans ?_ hcount
        simp only [ListState.record, hgrows, List.countP_cons, Visit.isMissing, beq_iff_eq]
        omega
    | ok observed =>
      -- an entry may come with warnings of its own; they can only raise the counter,
      -- which is why the statement has ≤
      obtain ⟨hkept, hgrows⟩ := countWarnings_spec observed.warnings
        { state with value := state.value ++ [observed.value] }
      refine ⟨fun info => ?_, ?_⟩
      · rw [List.foldl_cons, hvalue info]
        simp only [ListState.record, hkept]
        simp [or_assoc, eq_comm]
      · rw [List.foldl_cons]
        refine le_trans ?_ hcount
        simp only [List.countP_cons, Visit.isMissing]
        exact Nat.add_le_add_right hgrows _

/-- What the stat record of a process contributes to a sample. -/
def sampleOf (pid : Int) : Result Bytes → Option ProcessCpuSample
  | .error _ => none
  | .ok text =>
    match parseProcessCpuStat text with
    | .ok parsed => if parsed.pid = pid then some parsed else none
    | .error _ => none

theorem sampleOf_pid {pid : Int} {text : Result Bytes} {parsed : ProcessCpuSample}
    (h : sampleOf pid text = some parsed) : parsed.pid = pid := by
  unfold sampleOf at h
  split at h
  · cases h
  · split at h
    · split at h
      · rename_i hpid
        obtain rfl := Option.some.inj h
        exact hpid
      · cases h
    · cases h

/-- A process of a sample, the calls its visit made, and the text it got. -/
structure SampleVisit where
  pid : Int
  trace : Trace Sys
  text : Result Bytes

theorem sampleFrom_run {ids : List Int} {samples final : List ProcessCpuSample}
    (h : (sampleFrom strerror ids samples).run.Run t (.ok final)) :
    ∃ visits : List SampleVisit, visits.map (·.pid) = ids ∧ t = visits.flatMap (·.trace) ∧
      (∀ visit ∈ visits,
        (ProcFsReader.readFile strerror visit.pid .stat).run.Run visit.trace (.ok visit.text)) ∧
      final = samples ++ visits.filterMap fun visit => sampleOf visit.pid visit.text := by
  induction ids generalizing samples t with
  | nil =>
    obtain ⟨rfl, hr⟩ := h
    obtain rfl := Except.ok.inj hr
    exact ⟨[], rfl, rfl, by simp, by simp⟩
  | cons pid rest ih =>
    rcases Prog.run_exceptT_bind_iff.mp h with ⟨_, -, hbad⟩ | ⟨text, t₁, t₂, hread, hk, rfl⟩
    · cases hbad
    -- whichever branch the loop takes, the rest runs on the samples so far
    have hrest : (sampleFrom strerror rest (samples ++ (sampleOf pid text).toList)).run.Run t₂
        (.ok final) := by
      cases text with
      | error error => simpa [sampleOf] using hk
      | ok text =>
        simp only [sampleOf]
        cases hparse : parseProcessCpuStat text with
        | error error =>
          simp only [hparse] at hk
          simpa using hk
        | ok parsed =>
          simp only [hparse] at hk
          by_cases hpid : parsed.pid = pid
          · rw [if_pos hpid] at hk
            simpa [hpid] using hk
          · rw [if_neg hpid] at hk
            simpa [hpid] using hk
    obtain ⟨visits, hids, rfl, hvisits, rfl⟩ := ih hrest
    refine ⟨⟨pid, t₁, text⟩ :: visits, by simp [hids], by simp, ?_, ?_⟩
    · intro visit hvisit
      rcases List.mem_cons.mp hvisit with rfl | hvisit
      · exact hread
      · exact hvisits visit hvisit
    · cases hsample : sampleOf pid text <;> simp [hsample]

/-! ## §3 The world of exiting processes -/

/-- What procfs shows. -/
structure ProcState where
  alive : Int → Bool
  /-- Why a record of a live process cannot be opened, if it cannot. -/
  openError : Int → ProcFile → Option Errno
  contents : Int → ProcFile → Bytes
  target : Int → ProcLink → Except Errno Bytes

/-- Between two calls a process may exit, and what procfs says about live ones may change. -/
inductive ProcMove where
  | exit (pid : Int)
  | change

/-- A state answers a call. The records of a process that is gone cannot be opened any more
    (`ENOENT`) and cannot be read through an open stream (`ESRCH`). The listing names every
    live process, each once, and does not fail. -/
def ProcState.Answers (w : ProcState) : (c : SysCall) → c.Answer → Prop
  | .openFile pid file, x =>
    x = if w.alive pid then
      match w.openError pid file with
      | none => .ok ()
      | some errno => .error errno
    else .error Errno.enoent
  | .readFile pid file, x =>
    x = if w.alive pid then .ok (w.contents pid file) else .error Errno.esrch
  | .readLink pid link, x => x = if w.alive pid then w.target pid link else .error Errno.enoent
  | .rootDirectory, x => ∃ entries, x = .ok ⟨entries, none⟩ ∧
      (entries.filterMap SocketInodeResolver.parsePid).Nodup ∧
      ∀ pid, w.alive pid = true → pid ∈ entries.filterMap SocketInodeResolver.parsePid
  | _, _ => True

def ProcState.exit (w : ProcState) (pid : Int) : ProcState :=
  { w with alive := fun p => if p = pid then false else w.alive p }

abbrev procWorld : World Sys where
  State := ProcState
  Move := ProcMove
  move w m w' :=
    match m with
    | .exit pid => w' = w.exit pid
    | .change => w'.alive = w.alive
  answer w c x w' := w' = w ∧ w.Answers c x

section Race

variable {w w' : ProcState} {log l₁ l₂ : procWorld.Log} {pid : Int}

theorem path_dead (h : procWorld.Path w log w') (hdead : w.alive pid = false) :
    w'.alive pid = false := by
  refine Path.invariant (P := fun w : procWorld.State => w.alive pid = false) ?_ ?_ h hdead
  · rintro w (other | _) w' hmove hw
    · obtain rfl := hmove
      simp only [ProcState.exit]
      split <;> simp_all
    · exact (congrFun hmove pid).trans hw
  · rintro w c x _ ⟨rfl, -⟩ hw
    exact hw

/-- A process that exits during a log is dead at its end. -/
theorem path_exited (h : procWorld.Path w log w') (hexit : .inl (.exit pid) ∈ log) :
    w'.alive pid = false := by
  obtain ⟨l₁, l₂, rfl⟩ := List.append_of_mem hexit
  obtain ⟨v, -, v', rfl, hrest⟩ := path_append.mp h
  exact path_dead hrest (by simp [ProcState.exit])

/-- A process dies only by exiting. -/
theorem path_alive (h : procWorld.Path w log w') (hstays : .inl (.exit pid) ∉ log)
    (halive : w.alive pid = true) : w'.alive pid = true := by
  induction log generalizing w with
  | nil =>
    obtain rfl := h
    exact halive
  | cons item log ih =>
    have hstays' : .inl (.exit pid) ∉ log := fun hmem => hstays (List.mem_cons_of_mem _ hmem)
    rcases item with (other | _) | e
    · obtain ⟨v, rfl, hrest⟩ := h
      refine ih hrest hstays' ?_
      have hne : pid ≠ other := by
        rintro rfl
        exact hstays (List.mem_cons_self ..)
      simp [ProcState.exit, hne, halive]
    · obtain ⟨v, hmove, hrest⟩ := h
      exact ih hrest hstays' ((congrFun hmove pid).trans halive)
    · obtain ⟨v, ⟨rfl, -⟩, hrest⟩ := h
      exact ih hrest hstays' halive

/-- A process exits after one of its records was opened and before that record is read. -/
def ExitWhileOpen (log : procWorld.Log) : Prop :=
  ∃ (pid : Int) (file : ProcFile) (l₁ l₂ l₃ : procWorld.Log) (x : Except Errno Bytes),
    log = l₁ ++ .inr ⟨.openFile pid file, .ok ()⟩ :: (l₂ ++ .inr ⟨.readFile pid file, x⟩ :: l₃) ∧
    events l₂ = [] ∧ .inl (.exit pid) ∈ l₂

/-- A process exits before one of its required records is to be opened. -/
def Vanished (pid : Int) (log : procWorld.Log) : Prop :=
  ∃ file x l₁ l₂, log = l₁ ++ .inl (.exit pid) :: l₂ ∧ file ≠ .cmdline ∧
    .inr ⟨.openFile pid file, x⟩ ∈ l₂

/-- In this world a read fails exactly when its process has just exited. -/
theorem readFailed_iff (hpath : procWorld.Path w log w') (hopened : OpenedBeforeRead (events log)) :
    ReadFailed (events log) ↔ ExitWhileOpen log := by
  constructor
  · rintro ⟨pid, file, errno, hmem⟩
    obtain ⟨past, rest, hsplit⟩ := List.append_of_mem hmem
    obtain ⟨past', rfl⟩ := List.getLast?_eq_some_iff.mp (hopened past _ rest hsplit pid file _ rfl)
    rw [List.append_assoc] at hsplit
    obtain ⟨l₁, l, rfl, -, hl⟩ := split_of_events_append hsplit
    obtain ⟨m₁, l', rfl, hm₁, hl'⟩ := split_of_events_cons hl
    obtain ⟨l₂, l₃, rfl, hl₂, -⟩ := split_of_events_cons hl'
    refine ⟨pid, file, l₁ ++ m₁, l₂, l₃, .error errno, by simp, hl₂, ?_⟩
    obtain ⟨v, -, hv⟩ := path_append.mp hpath
    obtain ⟨v₁, -, v₂, ⟨rfl, hopen⟩, hv₂⟩ := path_append.mp hv
    obtain ⟨v₃, hbetween, v₄, ⟨rfl, hread⟩, -⟩ := path_append.mp hv₂
    -- alive when opened, dead when read
    have halive : v₂.alive pid = true := by
      by_contra hdead
      simp [ProcState.Answers, hdead] at hopen
    have hdead : v₄.alive pid ≠ true := by
      intro halive'
      simp [ProcState.Answers, halive'] at hread
    by_contra hstays
    exact hdead (path_alive hbetween hstays halive)
  · rintro ⟨pid, file, l₁, l₂, l₃, x, rfl, -, hexit⟩
    obtain ⟨v, -, v₁, ⟨rfl, -⟩, hv⟩ := path_append.mp hpath
    obtain ⟨v₂, hbetween, v₃, ⟨rfl, hread⟩, -⟩ := path_append.mp hv
    have hdead : v₃.alive pid = false := path_exited hbetween hexit
    refine ⟨pid, file, Errno.esrch, ?_⟩
    simp only [ProcState.Answers, hdead] at hread
    obtain rfl := hread
    simp

/-- What has vanished is opened too late. -/
theorem Vanished.openedTooLate (hpath : procWorld.Path w log w') (h : Vanished pid log) :
    OpenedTooLate pid (events log) := by
  obtain ⟨file, x, l₁, l₂, rfl, hfile, hmem⟩ := h
  obtain ⟨m₁, m₂, rfl⟩ := List.append_of_mem hmem
  obtain ⟨v, -, v₁, rfl, hv⟩ := path_append.mp hpath
  obtain ⟨v₂, hbetween, v₃, ⟨rfl, hopen⟩, -⟩ := path_append.mp hv
  have hdead : v₃.alive pid = false := path_dead hbetween (by simp [ProcState.exit])
  refine ⟨file, hfile, ?_⟩
  simp only [ProcState.Answers, hdead] at hopen
  obtain rfl := hopen
  simp

/-! ## §4 Listings and samples under exits -/

/-- The listing a call of `processIds` starts from: in this world it never fails. -/
theorem processIds_run {r : Except Exception (Result (List Int))}
    (h : (ProcFsReader.processIds strerror).run.Run t r) :
    ∃ listing, t = [⟨.rootDirectory, listing⟩] ∧ ∀ entries, listing = .ok ⟨entries, none⟩ →
      r = .ok (.ok ((entries.filterMap SocketInodeResolver.parsePid).insertionSort (· ≤ ·))) := by
  rcases Prog.run_exceptT_bind_iff.mp h with ⟨e, ⟨_, _, -, -, hbad⟩, -⟩ |
    ⟨listing, _, t₂, ⟨x, _, rfl, rfl, hx⟩, hk, rfl⟩
  · cases hbad
  obtain rfl := Except.ok.inj hx
  refine ⟨listing, ?_, ?_⟩
  · cases listing with
    | error errno =>
      obtain ⟨rfl, -⟩ := hk
      rfl
    | ok listing =>
      obtain ⟨entries, failure⟩ := listing
      cases failure <;> (obtain ⟨rfl, -⟩ := hk; rfl)
  · rintro entries rfl
    obtain ⟨-, rfl⟩ := hk
    rfl

/-- A call that starts from the listing: which processes it visits, and the log of the visits. -/
theorem after_processIds {α : Type} {f : Result (List Int) → Throws α} {outcome : Except Exception α}
    (h : (ProcFsReader.processIds strerror >>= f).run.Run (events log) outcome)
    (hpath : procWorld.Path w log w') :
    ∃ ids visitLog v, ids.Nodup ∧ (∀ pid, v.alive pid = true → pid ∈ ids) ∧
      (f (.ok ids)).run.Run (events visitLog) outcome ∧ procWorld.Path v visitLog w' ∧
      (∃ earlier, log = earlier ++ visitLog ∧ procWorld.Path w earlier v ∧
        ∃ listing, events earlier = [⟨.rootDirectory, listing⟩]) := by
  rcases Prog.run_exceptT_bind_iff.mp h with ⟨e, hthrow, rfl⟩ | ⟨ids, t₁, t₂, hids, hk, hsplit⟩
  · -- enumeration does not throw here
    obtain ⟨listing, ht, hlisting⟩ := processIds_run hthrow
    obtain ⟨l₁, l₂, rfl, -, -⟩ := split_of_events_cons ht
    obtain ⟨v, -, v', ⟨rfl, entries, hentries, -⟩, -⟩ := path_append.mp hpath
    cases hlisting entries hentries
  · obtain ⟨l₁, l₂, rfl, hl₁, rfl⟩ := split_of_events_append hsplit
    obtain ⟨listing, rfl, hlisting⟩ := processIds_run hids
    obtain ⟨v, hv, hv'⟩ := path_append.mp hpath
    obtain ⟨m₁, m₂, rfl, hm₁, hm₂⟩ := split_of_events_cons hl₁
    obtain ⟨u, -, u', ⟨rfl, entries, hentries, hnodup, hall⟩, hrest⟩ := path_append.mp hv
    obtain rfl := Except.ok.inj (hlisting entries hentries)
    refine ⟨_, l₂, v, (List.perm_insertionSort _ _).nodup_iff.mpr hnodup, fun pid halive => ?_, hk,
      hv', m₁ ++ .inr ⟨.rootDirectory, listing⟩ :: m₂, rfl, hv, listing, hl₁⟩
    rw [List.mem_insertionSort]
    refine hall pid (Classical.byContradiction fun hdead => ?_)
    have hgone : v.alive pid = false := path_dead hrest (by simpa using hdead)
    rw [hgone] at halive
    cases halive

/-- A call that starts from the listing throws exactly when a process exits while one of its
    records is open. -/
theorem throws_iff_exitWhileOpen {α : Type} {p : Throws α} {earlier visitLog : procWorld.Log}
    {listing : Except Errno Listing} {outcome : Except Exception α} (hthrows : ThrowsOnReads p)
    (h : p.run.Run (events visitLog) outcome) (hpath : procWorld.Path w (earlier ++ visitLog) w')
    (hearlier : events earlier = [⟨.rootDirectory, listing⟩]) :
    (∃ e, outcome = .error e) ↔ ExitWhileOpen (earlier ++ visitLog) := by
  obtain ⟨hiff, hopened⟩ := hthrows _ _ h
  have hroot : OpenedBeforeRead [⟨.rootDirectory, listing⟩] ∧
      ¬ ReadFailed [⟨.rootDirectory, listing⟩] := by
    refine ⟨guarded_cons.mpr ⟨?_, guarded_nil⟩, ?_⟩
    · rintro _ _ _ ⟨⟩
    · rintro ⟨_, _, _, hmem⟩
      cases List.mem_singleton.mp hmem
  have hevents : events (earlier ++ visitLog) = [⟨.rootDirectory, listing⟩] ++ events visitLog := by
    rw [events_append, hearlier]
  rw [hiff, ← readFailed_iff hpath (hevents ▸ hroot.1.append hopened), hevents, readFailed_append]
  simp [hroot.2]

/-- What a listing owes its caller: success, an entry for every readable process that stays,
    none for a process that has vanished, and a warning that counts at least those. -/
def ListSound (w : ProcState) (log : procWorld.Log)
    (outcome : Except Exception (Result (Observation (List ProcessInfo)))) : Prop :=
  ∃ observed, outcome = .ok (.ok observed) ∧
    (∀ pid, w.alive pid = true → .inl (.exit pid) ∉ log → Readable pid (events log) →
      ∃ info ∈ observed.value, info.pid = pid) ∧
    (∀ pid, Vanished pid log → ∀ info ∈ observed.value, info.pid ≠ pid) ∧
    ∃ count, (count ≠ 0 → disappearedWarning count ∈ observed.warnings) ∧
      ∀ vanished : List Int, vanished.Nodup → (∀ pid ∈ vanished, Vanished pid log) →
        vanished.length ≤ count

theorem list_sound_iff {outcome : Except Exception (Result (Observation (List ProcessInfo)))}
    (h : (list strerror).run.Run (events log) outcome) (hpath : procWorld.Path w log w') :
    ListSound w log outcome ↔ ¬ ExitWhileOpen log := by
  obtain ⟨ids, visitLog, v, hnodup, hall, hk, -, earlier, rfl, hearlier, listing, hlisting⟩ :=
    after_processIds h hpath
  rw [← throws_iff_exitWhileOpen ((listFrom_throws ids {}).bind fun _ => .pure _) hk hpath hlisting]
  constructor
  · rintro ⟨observed, rfl, -⟩ ⟨e, he⟩
    cases he
  intro hreturns
  rcases Prog.run_exceptT_bind_iff.mp hk with ⟨e, -, rfl⟩ | ⟨state, t₁, _, hlist, ⟨rfl, rfl⟩, ht⟩
  · exact absurd ⟨e, rfl⟩ hreturns
  rw [List.append_nil] at ht
  obtain ⟨visits, hids, rfl, hvisits, rfl⟩ := listFrom_run hlist
  obtain ⟨hvalue, hcount⟩ := foldl_record_spec visits {}
  have htrace : ∀ visit ∈ visits, visit.trace ⊆ events (earlier ++ visitLog) := by
    intro visit hvisit e he
    rw [events_append, ht]
    exact List.mem_append_right _ (List.mem_flatMap.mpr ⟨visit, hvisit, he⟩)
  -- the visit of a process that has vanished ends with `NotFound`
  have hmissing : ∀ pid, Vanished pid (earlier ++ visitLog) →
      ∃ visit ∈ visits, visit.pid = pid ∧ visit.isMissing = true := by
    intro pid hvanished
    obtain ⟨file, hfile, hmem⟩ := hvanished.openedTooLate hpath
    rw [events_append, hlisting, ht] at hmem
    rcases List.mem_append.mp hmem with hmem | hmem
    · cases List.mem_singleton.mp hmem
    · obtain ⟨visit, hvisit, hmem⟩ := List.mem_flatMap.mp hmem
      obtain rfl := (get_within visit.pid).run (hvisits visit hvisit) _ hmem pid file rfl
      obtain ⟨-, hlate, -⟩ := get_run (hvisits visit hvisit)
      obtain ⟨error, herror, hcode⟩ := hlate ⟨file, hfile, hmem⟩
      exact ⟨visit, hvisit, rfl, by simp [Visit.isMissing, herror, hcode]⟩
  refine ⟨_, rfl, fun pid halive hstays hreadable => ?_, fun pid hvanished info hinfo heq => ?_,
    _, fun hcount => ?_, fun vanished hdistinct hvanished => le_trans ?_ hcount⟩
  · have hstays' : .inl (.exit pid) ∉ earlier := fun hmem => hstays (List.mem_append_left _ hmem)
    have hmem := hall pid (path_alive hearlier hstays' halive)
    rw [← hids] at hmem
    obtain ⟨visit, hvisit, rfl⟩ := List.mem_map.mp hmem
    obtain ⟨hok, -, hpid⟩ := get_run (hvisits visit hvisit)
    obtain ⟨observed, hobserved⟩ := hok (hreadable.mono (htrace visit hvisit))
    exact ⟨observed.value, (hvalue _).mpr (.inr ⟨visit, hvisit, observed, hobserved, rfl⟩),
      (hpid observed hobserved).1⟩
  · obtain ⟨visit, hvisit, rfl, hmiss⟩ := hmissing pid hvanished
    rcases (hvalue info).mp hinfo with hold | ⟨visit', hvisit', observed, hobserved, rfl⟩
    · cases hold
    · obtain ⟨-, -, hpid⟩ := get_run (hvisits visit' hvisit')
      have hsame : visit' = visit := List.inj_on_of_nodup_map (hids ▸ hnodup) hvisit' hvisit
        ((hpid observed hobserved).1.symm.trans heq)
      rw [← hsame, Visit.isMissing, hobserved] at hmiss
      cases hmiss
  · simp [ListState.warnings, hcount]
  · have hsub : vanished ⊆ (visits.filter Visit.isMissing).map (·.pid) := by
      intro pid hpid
      obtain ⟨visit, hvisit, rfl, hmiss⟩ := hmissing pid (hvanished pid hpid)
      exact List.mem_map.mpr ⟨visit, List.mem_filter.mpr ⟨hvisit, hmiss⟩, rfl⟩
    have hlength := (hdistinct.subperm hsub).length_le
    rw [List.length_map, ← List.countP_eq_length_filter] at hlength
    exact le_trans hlength (Nat.le_add_left _ _)

/-- The stat record of `pid` was readable and complete whenever `t` touched it. -/
structure Sampleable (pid : Int) (t : Trace Sys) : Prop where
  opens : ∀ errno, ⟨.openFile pid .stat, .error errno⟩ ∉ t
  stat : ∀ contents, ⟨.readFile pid .stat, .ok contents⟩ ∈ t →
    ∃ parsed, parseProcessCpuStat contents = .ok parsed ∧ parsed.pid = pid

/-- What a sample owes its caller. -/
def SampleSound (w : ProcState) (log : procWorld.Log)
    (outcome : Except Exception (Result (List ProcessCpuSample))) : Prop :=
  ∃ samples, outcome = .ok (.ok samples) ∧
    (∀ pid, w.alive pid = true → .inl (.exit pid) ∉ log → Sampleable pid (events log) →
      ∃ sample ∈ samples, sample.pid = pid) ∧
    (∀ pid, Vanished pid log → ∀ sample ∈ samples, sample.pid ≠ pid)

theorem sample_sound_iff {outcome : Except Exception (Result (List ProcessCpuSample))}
    (h : (sample strerror).run.Run (events log) outcome) (hpath : procWorld.Path w log w') :
    SampleSound w log outcome ↔ ¬ ExitWhileOpen log := by
  obtain ⟨ids, visitLog, v, hnodup, hall, hk, -, earlier, rfl, hearlier, listing, hlisting⟩ :=
    after_processIds h hpath
  rw [← throws_iff_exitWhileOpen ((sampleFrom_throws ids []).bind fun _ => .pure _) hk hpath hlisting]
  constructor
  · rintro ⟨observed, rfl, -⟩ ⟨e, he⟩
    cases he
  intro hreturns
  rcases Prog.run_exceptT_bind_iff.mp hk with ⟨e, -, rfl⟩ | ⟨samples, t₁, _, hsample, ⟨rfl, rfl⟩, ht⟩
  · exact absurd ⟨e, rfl⟩ hreturns
  rw [List.append_nil] at ht
  obtain ⟨visits, hids, rfl, hvisits, rfl⟩ := sampleFrom_run hsample
  refine ⟨_, rfl, fun pid halive hstays hreadable => ?_, fun pid hvanished sample hmem heq => ?_⟩
  · have hstays' : .inl (.exit pid) ∉ earlier := fun hmem => hstays (List.mem_append_left _ hmem)
    have hmem := hall pid (path_alive hearlier hstays' halive)
    rw [← hids] at hmem
    obtain ⟨visit, hvisit, rfl⟩ := List.mem_map.mp hmem
    have htrace : ∀ e ∈ visit.trace, e ∈ events (earlier ++ visitLog) := by
      intro e he
      rw [events_append, ht]
      exact List.mem_append_right _ (List.mem_flatMap.mpr ⟨visit, hvisit, he⟩)
    rcases readFile_run (hvisits visit hvisit) with ⟨errno, _, htr, -, -⟩ | ⟨contents, htr, hr⟩ |
      ⟨_, -, hr⟩
    · exact absurd (htrace _ (by simp [htr])) (hreadable.opens errno)
    · obtain ⟨parsed, hparsed, hpid⟩ := hreadable.stat contents (htrace _ (by simp [htr]))
      refine ⟨parsed, ?_, hpid⟩
      rw [List.nil_append, List.mem_filterMap]
      refine ⟨visit, hvisit, ?_⟩
      rw [Except.ok.inj hr]
      simp [sampleOf, hparsed, hpid]
    · cases hr
  · obtain ⟨file, hfile, hlate⟩ := hvanished.openedTooLate hpath
    rw [events_append, hlisting, ht] at hlate
    rcases List.mem_append.mp hlate with hlate | hlate
    · cases List.mem_singleton.mp hlate
    · obtain ⟨visit, hvisit, hlate⟩ := List.mem_flatMap.mp hlate
      rw [List.nil_append, List.mem_filterMap] at hmem
      obtain ⟨visit', hvisit', hsampled⟩ := hmem
      rcases readFile_run (hvisits visit hvisit) with ⟨errno, _, htr, -, hr⟩ | ⟨contents, htr, -⟩ |
        ⟨_, -, hr⟩
      · -- the visit of the process itself got no text, and there is no other
        rw [htr] at hlate
        cases List.mem_singleton.mp hlate
        have hsame : visit' = visit := List.inj_on_of_nodup_map (hids ▸ hnodup) hvisit' hvisit
          ((sampleOf_pid hsampled).symm.trans heq)
        rw [hsame, Except.ok.inj hr] at hsampled
        cases hsampled
      · rw [htr] at hlate
        rcases List.mem_pair.mp hlate with hbad | hbad <;> cases hbad
      · cases hr

/-- **Vanishing processes.** Whatever exits during a listing or a sample, the call keeps its
    promises exactly when no process exits between the open and the read of one record. -/
theorem vanishing_processes_iff (hpath : procWorld.Path w log w') :
    (∀ outcome, (list strerror).run.Run (events log) outcome →
      (ListSound w log outcome ↔ ¬ ExitWhileOpen log)) ∧
    (∀ outcome, (sample strerror).run.Run (events log) outcome →
      (SampleSound w log outcome ↔ ¬ ExitWhileOpen log)) :=
  ⟨fun _ h => list_sound_iff h hpath, fun _ h => sample_sound_iff h hpath⟩

end Race

/-- A system with one process. -/
def loneProcess : ProcState where
  alive pid := pid == 42
  openError _ _ := none
  contents _ file := match file with
    | .stat => Bytes.ofString "42 (server) S 1 42 42 0 -1 0 0 0 0 0 7 3 0 0 20 0 1 0 500 0"
    | .status => Bytes.ofString "Uid:\t0\nGid:\t0\nThreads:\t1\n"
    | .cmdline => Bytes.ofString "server"
  target _ _ := .ok (Bytes.ofString "/")

def loneListing : Except Errno Listing := .ok ⟨[Bytes.ofString "42"], none⟩

theorem loneProcess_listing {w : ProcState} (h : ∀ pid, w.alive pid = true → pid = 42) :
    w.Answers .rootDirectory loneListing := by
  refine ⟨_, rfl, by decide, fun pid halive => ?_⟩
  rw [h pid halive]
  decide

/-- The process exits after its stat record was opened: the listing throws. -/
theorem list_throws_on_exit : ∃ (log : procWorld.Log) (w' : ProcState)
    (outcome : Except Exception (Result (Observation (List ProcessInfo)))),
    procWorld.Path loneProcess log w' ∧ (list fun _ => []).run.Run (events log) outcome ∧
    ¬ ListSound loneProcess log outcome := by
  let log : procWorld.Log := [.inr ⟨.rootDirectory, loneListing⟩,
    .inr ⟨.openFile 42 .stat, .ok ()⟩, .inl (.exit 42), .inr ⟨.readFile 42 .stat, .error Errno.esrch⟩]
  have hrun : (list fun _ => []).run.Run (events log) (.error (.iosFailure Errno.esrch)) :=
    ⟨_, _, rfl, _, _, rfl, _, _, rfl, rfl, rfl⟩
  refine ⟨log, loneProcess.exit 42, _, ?_, hrun, ?_⟩
  · exact ⟨_, ⟨rfl, loneProcess_listing (by simp [loneProcess])⟩, _, ⟨rfl, rfl⟩, _, rfl, _,
      ⟨rfl, rfl⟩, rfl⟩
  · rintro ⟨observed, hbad, -⟩
    cases hbad

/-- The process exits before its stat record is opened: the listing and the sample are empty,
    and sound. -/
theorem vanishing_processes_early_exit : ∃ (log : procWorld.Log) (w' : ProcState),
    procWorld.Path loneProcess log w' ∧ Vanished 42 log ∧
    ListSound loneProcess log (.ok (.ok ⟨[], [disappearedWarning 1]⟩)) ∧
    SampleSound loneProcess log (.ok (.ok [])) := by
  let log : procWorld.Log := [.inr ⟨.rootDirectory, loneListing⟩, .inl (.exit 42),
    .inr ⟨.openFile 42 .stat, .error Errno.enoent⟩]
  have hpath : procWorld.Path loneProcess log (loneProcess.exit 42) :=
    ⟨_, ⟨rfl, loneProcess_listing (by simp [loneProcess])⟩, _, rfl, _, ⟨rfl, rfl⟩, rfl⟩
  have hlist : (list fun _ => []).run.Run (events log) (.ok (.ok ⟨[], [disappearedWarning 1]⟩)) :=
    ⟨_, _, rfl, _, _, rfl, rfl, rfl⟩
  have hsample : (sample fun _ => []).run.Run (events log) (.ok (.ok [])) :=
    ⟨_, _, rfl, _, _, rfl, rfl, rfl⟩
  have hquiet : ¬ ExitWhileOpen log := by
    rintro ⟨pid, file, l₁, l₂, l₃, x, heq, -, -⟩
    have hmem : Sum.inr ⟨.openFile pid file, .ok ()⟩ ∈ log := by simp [heq]
    simp only [log, List.mem_cons, List.not_mem_nil, or_false] at hmem
    rcases hmem with hbad | hbad | hbad <;> cases hbad
  obtain ⟨hlistSound, hsampleSound⟩ := vanishing_processes_iff hpath
  exact ⟨log, _, hpath, ⟨.stat, _, [_], _, rfl, by simp, List.mem_singleton.mpr rfl⟩,
    (hlistSound _ hlist).mpr hquiet, (hsampleSound _ hsample).mpr hquiet⟩

end Lx.ProcFs
