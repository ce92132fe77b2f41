import Lx.Lib.Simulation
import Lx.Linux.ProcFsRecords
import Lx.Linux.ProcessRace

/-!
# What is shown of the processes

A process is shown as its records in procfs say. Here the kernel writes these records: the
stat record with the name between parentheses, the status record with the name on its first
line, the arguments each with a NUL. What `get` and `list` return is then compared with what
the kernel has, not with the texts in between.

## Layers

- `KernelProcess`: a process and its records, and what the parsers make of them (§1).
- `ProcTable`: what procfs and the passwd database answer while nothing changes (§2).
- What the parts of `get` come to on such a table (§3), and what is listed (§4).
-/

namespace Lx.ProcFs

open Interaction World

/-! ## §1 Processes -/

/-- A process as the kernel has it, with the records that say so. -/
structure KernelProcess where
  stat : StatLine
  /-- The value of the status line `Name`. -/
  title : Bytes
  /-- The lines of the status record below. -/
  status : List Bytes
  arguments : List Bytes
  /-- The targets of the two links, or why they cannot be read. -/
  link : ProcLink → Except Errno Bytes
  uid : Nat
  gid : Nat
  threads : Nat
  /-- Resident memory in KiB; a kernel thread has none. -/
  memory : Option Nat
  title_line : 10 ∉ title
  status_lines : ∀ line ∈ status, 10 ∉ line
  numbers : NumbersInRange status
  uid_eq : lastNumber .uid status = some uid
  gid_eq : lastNumber .gid status = some gid
  threads_eq : lastNumber .threads status = some threads
  memory_eq : lastNumber .vmRss status = memory
  arguments_text : ∀ argument ∈ arguments, 0 ∉ argument

namespace KernelProcess

variable (process : KernelProcess)

/-- The contents of a record. -/
def text : ProcFile → Bytes
  | .stat => process.stat.text
  | .status => unlines (nameLine process.title :: process.status)
  | .cmdline => terminated process.arguments

/-- What the stat record says. -/
def statRecord : StatRecord :=
  ⟨process.stat.pid.value, process.stat.comm, process.stat.state, process.stat.ppid.value⟩

/-- What the status record says. -/
def statusRecord : StatusRecord :=
  ⟨process.uid, process.gid, process.threads, process.memory.getD 0 * 1024⟩

theorem tokens_title (key : StatusKey) :
    tokens key (nameLine process.title :: process.status) = tokens key process.status :=
  List.filterMap_cons_none (tokenOf_nameLine key process.title)

theorem lastNumber_title (key : StatusKey) :
    lastNumber key (nameLine process.title :: process.status) = lastNumber key process.status := by
  unfold lastNumber
  rw [tokens_title]

theorem tokens_ne_nil {key : StatusKey} {n : Nat} {lines : List Bytes}
    (h : lastNumber key lines = some n) : tokens key lines ≠ [] := by
  intro hnil
  rw [lastNumber, hnil] at h
  cases h

theorem parseStatus_text : parseStatus (process.text .status) = .ok process.statusRecord := by
  have hbelow : ∀ line ∈ [] ++ process.status, 10 ∉ line := process.status_lines
  have hlines : (process.text .status).splitOn 10 = nameLine process.title :: process.status :=
    splitOn_unlines hbelow process.title_line
  apply (parseStatus_ok_iff hlines).mpr
  -- the title is read for nothing
  simp only [tokens_title, NumbersInRange, summary, lastNumber_title]
  refine ⟨process.numbers, tokens_ne_nil process.uid_eq, tokens_ne_nil process.gid_eq,
    tokens_ne_nil process.threads_eq, ?_⟩
  rw [process.uid_eq, process.gid_eq, process.threads_eq, process.memory_eq]
  rfl

theorem parseCmdline_text : parseCmdline (process.text .cmdline) = process.arguments := by
  have harguments := argumentsFrom_terminated process.arguments_text []
  rw [List.append_nil] at harguments
  exact harguments.trans (List.append_nil _)

end KernelProcess

/-! ## §2 Tables -/

/-- What procfs shows and the passwd database knows, while nothing changes. -/
structure ProcTable where
  process : Int → Option KernelProcess
  named : ∀ pid found, process pid = some found → (found.stat.pid.value : Int) = pid
  /-- The names in the root of procfs. -/
  entries : List Bytes
  nodup : (entries.filterMap SocketInodeResolver.parsePid).Nodup
  listed : ∀ pid, pid ∈ entries.filterMap SocketInodeResolver.parsePid ↔ (process pid).isSome
  users : Nat → Option Bytes
  /-- The buffer a passwd entry needs. -/
  entrySize : Nat → Nat
  /-- `sysconf(_SC_GETPW_R_SIZE_MAX)` -/
  suggested : Int

/-- A buffer that starts with this size and is doubled gets large enough in time. -/
def Reaches (size needed : Nat) : Prop := ∃ n, needed ≤ size * 2 ^ n ∧ size * 2 ^ n ≤ maximumBuffer

namespace ProcTable

variable (table : ProcTable)

/-- The first buffer that is tried. -/
def firstBuffer : Nat := if 0 < table.suggested.toNat then table.suggested.toNat else 1024

/-- The user has this name, and the name can be found. -/
def Named (uid : Nat) (name : Bytes) : Prop :=
  table.users uid = some name ∧ Reaches table.firstBuffer (table.entrySize uid)

/-- What the calls answer. -/
def Answers (c : SysCall) (x : c.Answer) : Prop :=
  match c, x with
  | .rootDirectory, listing => listing = .ok ⟨table.entries, none⟩
  | .openFile pid _, opened =>
    opened = if (table.process pid).isSome then .ok () else .error Errno.enoent
  | .readFile pid file, contents => ∀ process, table.process pid = some process →
      contents = .ok (process.text file)
  | .readLink pid link, target => ∀ process, table.process pid = some process →
      target = process.link link
  | .sysconf, suggested => suggested = table.suggested
  | .getpwuid uid size, found =>
    found = if table.entrySize uid ≤ size then (0, table.users uid) else (erange, none)
  | _, _ => True

end ProcTable

/-! ## §3 The parts of `get` -/

section Parts

variable {table : ProcTable} {strerror : Int → Bytes} {t : Trace Sys} {pid : Int}

theorem readFile_table {file : ProcFile} {r : Except Exception (Result Bytes)}
    (h : (ProcFsReader.readFile strerror pid file).run.Run t r)
    (hanswers : ∀ e ∈ t, table.Answers e.1 e.2) :
    (∀ process, table.process pid = some process → r = .ok (.ok (process.text file))) ∧
      (table.process pid = none → r = .ok (.error (makeError strerror Errno.enoent
        (Bytes.ofString "read " ++ ProcFile.name file)))) := by
  rcases readFile_run h with ⟨errno, number, rfl, hnumber, rfl⟩ | ⟨contents, rfl, rfl⟩ |
    ⟨errno, rfl, rfl⟩
  · -- the record could not be opened
    have hopen : (Except.error errno : Except Errno Unit) =
        if (table.process pid).isSome then .ok () else .error Errno.enoent :=
      hanswers ⟨.openFile pid file, .error errno⟩ (by simp)
    constructor
    · intro process hprocess
      rw [hprocess] at hopen
      cases hopen
    · intro hnone
      rw [hnone] at hopen
      obtain rfl : errno = Errno.enoent := Except.error.inj hopen
      rw [hnumber]
      rfl
  all_goals
    have hopen : (Except.ok () : Except Errno Unit) =
        if (table.process pid).isSome then .ok () else .error Errno.enoent :=
      hanswers ⟨.openFile pid file, .ok ()⟩ (by simp)
  · constructor
    · intro process hprocess
      have hread : (Except.ok contents : Except Errno Bytes) = .ok (process.text file) :=
        hanswers ⟨.readFile pid file, .ok contents⟩ (by simp) process hprocess
      obtain rfl := Except.ok.inj hread
      rfl
    · intro hnone
      rw [hnone] at hopen
      cases hopen
  · constructor
    · intro process hprocess
      have hread : (Except.error errno : Except Errno Bytes) = .ok (process.text file) :=
        hanswers ⟨.readFile pid file, .error errno⟩ (by simp) process hprocess
      cases hread
    · intro hnone
      rw [hnone] at hopen
      cases hopen

/-- Both required records, or no process. -/
theorem requiredRecords_table {r : Except Exception (Result (StatRecord × StatusRecord))}
    (h : (requiredRecords strerror pid).run.Run t r) (hanswers : ∀ e ∈ t, table.Answers e.1 e.2) :
    (∀ process, table.process pid = some process →
      r = .ok (.ok (process.statRecord, process.statusRecord))) ∧
      (table.process pid = none → ∃ error, r = .ok (.error error) ∧ error.code = .notFound) := by
  rcases Prog.run_exceptT_bind_iff.mp h with ⟨e, hthrow, rfl⟩ | ⟨statText, t₁, t₂, hstat, hk, rfl⟩
  · -- reading throws on no table
    obtain ⟨hsome, hnone⟩ := readFile_table hthrow hanswers
    cases hprocess : table.process pid with
    | none => cases hnone hprocess
    | some process => cases hsome process hprocess
  obtain ⟨hsome, hnone⟩ := readFile_table hstat fun e he => hanswers e (List.mem_append_left _ he)
  constructor
  · intro process hprocess
    obtain rfl := Except.ok.inj (hsome process hprocess)
    have hparsed : parseStat (process.text .stat) = .ok process.statRecord :=
      process.stat.parseStat_text
    have hpid : process.statRecord.pid = pid := table.named pid process hprocess
    dsimp only at hk
    rw [hparsed] at hk
    dsimp only at hk
    rw [if_neg (not_not_intro hpid)] at hk
    rcases Prog.run_exceptT_bind_iff.mp hk with ⟨e, hthrow, rfl⟩ |
      ⟨statusText, t₃, t₄, hstatus, hk₁, rfl⟩
    · cases (readFile_table hthrow fun e he => hanswers e (List.mem_append_right _ he)).1 process hprocess
    · obtain rfl := Except.ok.inj ((readFile_table hstatus fun e he =>
        hanswers e (List.mem_append_right _ (List.mem_append_left _ he))).1 process hprocess)
      dsimp only at hk₁
      rw [process.parseStatus_text] at hk₁
      exact hk₁.2
  · intro hprocess
    obtain rfl := Except.ok.inj (hnone hprocess)
    exact ⟨_, hk.2, rfl⟩

theorem reaches_double {size needed : Nat} (h : ¬ needed ≤ size) :
    Reaches size needed ↔ Reaches (size * 2) needed := by
  constructor
  · rintro ⟨n, hfits, hsmall⟩
    cases n with
    | zero => exact absurd (by simpa using hfits) h
    | succ n =>
      rw [Nat.pow_succ', ← Nat.mul_assoc] at hfits hsmall
      exact ⟨n, hfits, hsmall⟩
  · rintro ⟨n, hfits, hsmall⟩
    refine ⟨n + 1, ?_, ?_⟩
    · rwa [Nat.pow_succ', ← Nat.mul_assoc]
    · rwa [Nat.pow_succ', ← Nat.mul_assoc]

theorem not_reaches {size needed : Nat} (h : ¬ size ≤ maximumBuffer) : ¬ Reaches size needed := by
  rintro ⟨n, -, hsmall⟩
  exact h (Nat.le_trans (Nat.le_mul_of_pos_right size (Nat.two_pow_pos n)) hsmall)

/-- The loop over growing buffers. -/
theorem nameWithBuffer_table {uid size : Nat} {hsize : 0 < size} {r : Except Exception (Result Bytes)}
    (h : (nameWithBuffer uid size hsize).run.Run t r) (hanswers : ∀ e ∈ t, table.Answers e.1 e.2) :
    ∃ found, r = .ok found ∧ ∀ name, found = .ok name ↔
      table.users uid = some name ∧ Reaches size (table.entrySize uid) := by
  fun_induction nameWithBuffer uid size hsize generalizing t r with
  | case1 size hsize hle ih =>
    obtain ⟨found, t₁, t₂, hcall, hk, rfl⟩ := Prog.run_exceptT_lift_bind_iff.mp h
    obtain rfl := Prog.run_perform.mp hcall
    have hfound : found = if table.entrySize uid ≤ size then (0, table.users uid) else (erange, none) :=
      hanswers ⟨.getpwuid uid size, found⟩ (by simp)
    by_cases hfits : table.entrySize uid ≤ size
    · -- the entry fits into this buffer
      rw [if_pos hfits] at hfound
      have hreaches : Reaches size (table.entrySize uid) := ⟨0, by simpa using hfits, by simpa using hle⟩
      cases huser : table.users uid with
      | none =>
        rw [huser] at hfound
        subst hfound
        exact ⟨_, hk.2, fun name => by simp⟩
      | some user =>
        rw [huser] at hfound
        subst hfound
        refine ⟨_, hk.2, fun name => ?_⟩
        simp [hreaches]
    · rw [if_neg hfits] at hfound
      subst hfound
      change (if erange ≠ erange then _ else nameWithBuffer uid (size * 2) _ : Throws _).run.Run _ _ at hk
      rw [if_neg (not_not_intro rfl)] at hk
      obtain ⟨found, rfl, hfound⟩ := ih hk fun e he => hanswers e (by simp [he])
      refine ⟨found, rfl, fun name => ?_⟩
      rw [hfound, reaches_double hfits]
  | case2 size hsize hgreater =>
    refine ⟨_, h.2, fun name => ?_⟩
    simp [not_reaches hgreater]

theorem nameForUid_table {uid : Nat} {r : Except Exception (Result Bytes)}
    (h : (nameForUid uid).run.Run t r) (hanswers : ∀ e ∈ t, table.Answers e.1 e.2) :
    ∃ found, r = .ok found ∧ ∀ name, found = .ok name ↔ table.Named uid name := by
  obtain ⟨suggested, t₁, t₂, hcall, hk, rfl⟩ := Prog.run_exceptT_lift_bind_iff.mp h
  obtain rfl := Prog.run_perform.mp hcall
  obtain rfl : suggested = table.suggested := hanswers ⟨.sysconf, suggested⟩ (by simp)
  have hrest : ∀ e ∈ t₂, table.Answers e.1 e.2 := fun e he => hanswers e (List.mem_append_right _ he)
  unfold ProcTable.Named ProcTable.firstBuffer
  split at hk
  · rename_i hpositive
    rw [if_pos hpositive]
    exact nameWithBuffer_table hk hrest
  · rename_i hpositive
    rw [if_neg hpositive]
    exact nameWithBuffer_table hk hrest

theorem readLink_table {link : ProcLink} {process : KernelProcess} {r : Except Exception (Result Bytes)}
    (hprocess : table.process pid = some process)
    (h : (ProcFsReader.readLink strerror pid link).run.Run t r)
    (hanswers : ∀ e ∈ t, table.Answers e.1 e.2) :
    ∃ found, r = .ok found ∧ ∀ target, found = .ok target ↔ process.link link = .ok target := by
  obtain ⟨target, t₁, t₂, hcall, hk, rfl⟩ := Prog.run_exceptT_lift_bind_iff.mp h
  obtain rfl := Prog.run_perform.mp hcall
  obtain rfl : target = process.link link :=
    hanswers ⟨.readLink pid link, target⟩ (by simp) process hprocess
  cases hlink : process.link link with
  | error errno =>
    rw [hlink] at hk
    exact ⟨_, hk.2, fun target => by simp⟩
  | ok target =>
    rw [hlink] at hk
    exact ⟨_, hk.2, fun target' => by simp⟩

/-- The state letters of procfs. -/
def stateWords : List (UInt8 × Bytes) :=
  [(82, "running"), (83, "sleeping"), (68, "disk sleep"), (90, "zombie"), (84, "stopped"),
    (116, "tracing stop"), (88, "dead"), (120, "dead"), (73, "idle")]

/-- A row shows the process: everything the kernel has of it, and what cannot be found out
    is left out or, for the user, replaced by the number. -/
structure Shows (table : ProcTable) (process : KernelProcess) (row : ProcessInfo) : Prop where
  pid : row.pid = process.stat.pid.value
  ppid : row.ppid = process.stat.ppid.value
  name : row.name = process.stat.comm
  -- an unknown state is shown by its letter
  state : row.state = (stateWords.lookup process.stat.state).getD [process.stat.state]
  uid : row.uid = process.uid
  gid : row.gid = process.gid
  user : ∀ name, table.Named process.uid name → row.user = name
  number : (∀ name, ¬ table.Named process.uid name) → row.user = Bytes.ofNat process.uid
  executable : row.executable = (process.link .exe).toOption
  cwd : row.cwd = (process.link .cwd).toOption
  argv : row.argv = process.arguments
  memory : row.rssBytes = process.memory.getD 0 * 1024
  threads : row.threads = process.threads
  cpuPercent : row.cpuPercent = none
  systemdUnit : row.systemdUnit = none

theorem stateName_eq (state : UInt8) : stateName state = (stateWords.lookup state).getD [state] := by
  unfold stateName stateWords
  split_ifs with h₁ h₂ h₃ h₄ h₅ h₆ h₇ h₈
  · rw [h₁]; rfl
  · rw [h₂]; rfl
  · rw [h₃]; rfl
  · rw [h₄]; rfl
  · rw [h₅]; rfl
  · rw [h₆]; rfl
  · rcases h₇ with rfl | rfl <;> rfl
  · rw [h₈]; rfl
  · -- an unknown letter
    rw [not_or] at h₇
    simp [List.lookup_cons, beq_false_of_ne, *]

/-- Everything that comes from the records and links. -/
theorem shows_of_records {process : KernelProcess} {row : ProcessInfo}
    (h : row = { infoOf process.stat.pid.value process.statRecord process.statusRecord with
      user := row.user
      argv := process.arguments
      executable := (process.link .exe).toOption
      cwd := (process.link .cwd).toOption })
    (huser : ∀ name, table.Named process.uid name → row.user = name)
    (hnumber : (∀ name, ¬ table.Named process.uid name) → row.user = Bytes.ofNat process.uid) :
    Shows table process row := by
  have hstate := stateName_eq process.stat.state
  rw [h]
  rw [h] at huser hnumber
  exact ⟨rfl, rfl, rfl, hstate, rfl, rfl, huser, hnumber, rfl, rfl, rfl, rfl, rfl, rfl, rfl⟩

/-- Nothing is left out. -/
structure Complete (table : ProcTable) (process : KernelProcess) : Prop where
  user : ∃ name, table.Named process.uid name
  links : ∀ link, ∃ target, process.link link = .ok target

theorem toOption_eq {found : Result Bytes} {target : Except Errno Bytes}
    (h : ∀ x, found = .ok x ↔ target = .ok x) : found.toOption = target.toOption := by
  cases target with
  | error errno =>
    cases found with
    | error error => rfl
    | ok x => cases (h x).mp rfl
  | ok x => rw [(h x).mpr rfl]; rfl

theorem optionalDetails_table {process : KernelProcess}
    {r : Except Exception (Observation ProcessInfo)} (hprocess : table.process pid = some process)
    (h : (optionalDetails strerror pid
      (infoOf pid process.statRecord process.statusRecord)).run.Run t r)
    (hanswers : ∀ e ∈ t, table.Answers e.1 e.2) :
    ∃ observed, r = .ok observed ∧ Shows table process observed.value ∧
      (observed.warnings = [] ↔ Complete table process) := by
  have hpid := table.named pid process hprocess
  rcases Prog.run_exceptT_bind_iff.mp h with ⟨e, hthrow, -⟩ | ⟨user, t₁, u₁, hname, h₁, rfl⟩
  · obtain ⟨_, hbad, -⟩ := nameForUid_table hthrow hanswers
    cases hbad
  obtain ⟨_, hr, huser⟩ := nameForUid_table hname fun e he => hanswers e (by simp [he])
  obtain rfl := Except.ok.inj hr
  rcases Prog.run_exceptT_bind_iff.mp h₁ with ⟨e, hthrow, -⟩ | ⟨cmdline, t₂, u₂, hread, h₂, rfl⟩
  · cases (readFile_table hthrow fun e he => hanswers e (by simp [he])).1 process hprocess
  obtain rfl := Except.ok.inj
    ((readFile_table hread fun e he => hanswers e (by simp [he])).1 process hprocess)
  rcases Prog.run_exceptT_bind_iff.mp h₂ with ⟨e, hthrow, -⟩ | ⟨executable, t₃, u₃, hexe, h₃, rfl⟩
  · obtain ⟨_, hbad, -⟩ := readLink_table hprocess hthrow fun e he => hanswers e (by simp [he])
    cases hbad
  obtain ⟨_, hr, hexecutable⟩ := readLink_table hprocess hexe fun e he => hanswers e (by simp [he])
  obtain rfl := Except.ok.inj hr
  rcases Prog.run_exceptT_bind_iff.mp h₃ with ⟨e, hthrow, -⟩ | ⟨cwd, t₄, u₄, hdirectory, h₄, rfl⟩
  · obtain ⟨_, hbad, -⟩ := readLink_table hprocess hthrow fun e he => hanswers e (by simp [he])
    cases hbad
  obtain ⟨_, hr, hcwd⟩ := readLink_table hprocess hdirectory fun e he => hanswers e (by simp [he])
  obtain rfl := Except.ok.inj hr
  refine ⟨_, h₄.2, shows_of_records ?_ (fun name hnamed => ?_) (fun hnone => ?_), ?_⟩
  · rw [← process.parseCmdline_text, ← toOption_eq hexecutable, ← toOption_eq hcwd, ← hpid]
    cases user <;> cases executable <;> cases cwd <;> rfl
  · rw [(huser name).mpr hnamed]
    cases executable <;> cases cwd <;> rfl
  · cases user with
    | ok name => exact absurd ((huser name).mp rfl) (hnone name)
    | error error => cases executable <;> cases cwd <;> rfl
  · apply Iff.trans (b := (∃ x, user = .ok x) ∧ (∃ x, executable = .ok x) ∧ ∃ x, cwd = .ok x)
    · cases user <;> cases executable <;> cases cwd <;> simp [attach, attachUser]
    · simp only [huser, hexecutable, hcwd]
      constructor
      · rintro ⟨hnamed, hexe, hdirectory⟩
        refine ⟨hnamed, fun link => ?_⟩
        cases link with
        | exe => exact hexe
        | cwd => exact hdirectory
      · rintro ⟨hnamed, hlinks⟩
        exact ⟨hnamed, hlinks .exe, hlinks .cwd⟩

/-- **One process, read back from its records.** -/
theorem get_table {r : Except Exception (Result (Observation ProcessInfo))}
    (h : (get strerror pid).run.Run t r) (hanswers : ∀ e ∈ t, table.Answers e.1 e.2) :
    (∀ process, table.process pid = some process → ∃ observed, r = .ok (.ok observed) ∧
      Shows table process observed.value ∧ (observed.warnings = [] ↔ Complete table process)) ∧
      (table.process pid = none → ∃ error, r = .ok (.error error) ∧ error.code = .notFound) := by
  rcases Prog.run_exceptT_bind_iff.mp h with ⟨e, hthrow, -⟩ | ⟨records, t₁, t₂, hrecords, hk, rfl⟩
  · obtain ⟨hsome, hnone⟩ := requiredRecords_table hthrow hanswers
    cases hprocess : table.process pid with
    | none =>
      obtain ⟨_, hbad, -⟩ := hnone hprocess
      cases hbad
    | some process => cases hsome process hprocess
  obtain ⟨hsome, hnone⟩ := requiredRecords_table hrecords fun e he => hanswers e (by simp [he])
  constructor
  · intro process hprocess
    obtain rfl := Except.ok.inj (hsome process hprocess)
    rcases Prog.run_exceptT_bind_iff.mp hk with ⟨e, hthrow, -⟩ | ⟨observed, t₃, t₄, hdetails, hk₁, rfl⟩
    · obtain ⟨_, hbad, -⟩ := optionalDetails_table hprocess hthrow fun e he => hanswers e (by simp [he])
      cases hbad
    · obtain ⟨_, hr, hshows, hcomplete⟩ :=
        optionalDetails_table hprocess hdetails fun e he => hanswers e (by simp [he])
      obtain rfl := Except.ok.inj hr
      exact ⟨observed, hk₁.2, hshows, hcomplete⟩
  · intro hprocess
    obtain ⟨error, hr, hcode⟩ := hnone hprocess
    obtain rfl := Except.ok.inj hr
    exact ⟨error, hk.2, hcode⟩

/-! ## §4 The listing -/

/-- Nothing has been counted. -/
def ListState.Silent (state : ListState) : Prop :=
  state.permissionWarnings = 0 ∧ state.disappearedWarnings = 0 ∧ state.detailWarnings = 0

variable {state : ListState}

theorem silent_iff : state.warnings = [] ↔ state.Silent := by
  simp [ListState.warnings, ListState.Silent]

theorem not_silent_countWarning (code : ErrorCode) : ¬ (state.countWarning code).Silent := by
  unfold ListState.countWarning ListState.Silent
  split
  · simp
  · split <;> simp

theorem silent_countWarnings (warnings : List Warning) :
    (warnings.foldl (fun state warning => state.countWarning warning.code) state).Silent ↔
      state.Silent ∧ warnings = [] := by
  induction warnings generalizing state with
  | nil => simp
  | cons warning rest ih =>
    rw [List.foldl_cons, ih]
    simp [not_silent_countWarning]

theorem record_ok (state : ListState) (observed : Observation ProcessInfo) :
    (state.record (.ok observed)).value = state.value ++ [observed.value] ∧
      ((state.record (.ok observed)).Silent ↔ state.Silent ∧ observed.warnings = []) :=
  ⟨(countWarnings_spec _ _).1, silent_countWarnings _⟩

/-- Every process of the loop gets its row. -/
theorem listFrom_table {ids : List Int} {r : Except Exception ListState}
    (hids : ∀ pid ∈ ids, (table.process pid).isSome)
    (h : (listFrom strerror ids state).run.Run t r) (hanswers : ∀ e ∈ t, table.Answers e.1 e.2) :
    ∃ final rows, r = .ok final ∧ final.value = state.value ++ rows ∧ rows.map (·.pid) = ids ∧
      (∀ row ∈ rows, ∃ process, table.process row.pid = some process ∧ Shows table process row) ∧
      (final.Silent ↔ state.Silent ∧
        ∀ pid ∈ ids, ∀ process, table.process pid = some process → Complete table process) := by
  induction ids generalizing state t with
  | nil => exact ⟨state, [], h.2, by simp, rfl, by simp, by simp⟩
  | cons pid rest ih =>
    obtain ⟨process, hprocess⟩ := Option.isSome_iff_exists.mp (hids pid List.mem_cons_self)
    rcases Prog.run_exceptT_bind_iff.mp h with ⟨e, hthrow, -⟩ | ⟨outcome, t₁, t₂, hget, hk, rfl⟩
    · obtain ⟨_, hbad, -⟩ := (get_table hthrow hanswers).1 process hprocess
      cases hbad
    obtain ⟨observed, hr, hshows, hcomplete⟩ :=
      (get_table hget fun e he => hanswers e (by simp [he])).1 process hprocess
    obtain rfl := Except.ok.inj hr
    obtain ⟨hvalue, hsilent⟩ := record_ok state observed
    obtain ⟨final, rows, rfl, hfinal, hpids, hrows, hwarned⟩ :=
      ih (fun other hother => hids other (List.mem_cons_of_mem _ hother)) hk
        fun e he => hanswers e (by simp [he])
    have hpid : observed.value.pid = pid := hshows.pid.trans (table.named pid process hprocess)
    refine ⟨final, observed.value :: rows, rfl, ?_, ?_, ?_, ?_⟩
    · rw [hfinal, hvalue, List.append_assoc, List.singleton_append]
    · rw [List.map_cons, hpid, hpids]
    · intro row hrow
      rcases List.mem_cons.mp hrow with rfl | hrow
      · exact ⟨process, hpid ▸ hprocess, hshows⟩
      · exact hrows row hrow
    · rw [hwarned, hsilent, hcomplete, List.forall_mem_cons, and_assoc, and_congr_right_iff]
      refine fun _ => and_congr_left fun _ =>
        ⟨fun hall other hother => ?_, fun hall => hall process hprocess⟩
      obtain rfl := Option.some.inj (hprocess.symm.trans hother)
      exact hall

/-- The rows are the processes, by ascending PID. -/
structure ListsAll (table : ProcTable) (rows : List ProcessInfo) : Prop where
  ascending : rows.Pairwise (fun a b => a.pid < b.pid)
  row : ∀ row ∈ rows, ∃ process, table.process row.pid = some process ∧ Shows table process row
  every : ∀ pid process, table.process pid = some process → ∃ row ∈ rows, row.pid = pid

theorem list_table {r : Except Exception (Result (Observation (List ProcessInfo)))}
    (h : (list strerror).run.Run t r) (hanswers : ∀ e ∈ t, table.Answers e.1 e.2) :
    ∃ observed, r = .ok (.ok observed) ∧ ListsAll table observed.value ∧
      (observed.warnings = [] ↔
        ∀ pid process, table.process pid = some process → Complete table process) := by
  have hroot : ∀ {listing : Except Errno Listing}, ⟨.rootDirectory, listing⟩ ∈ t →
      listing = .ok ⟨table.entries, none⟩ := fun hmem => hanswers _ hmem
  rcases Prog.run_exceptT_bind_iff.mp h with ⟨e, hthrow, -⟩ | ⟨found, t₁, t₂, hids, hk, rfl⟩
  · obtain ⟨listing, rfl, hlisting⟩ := processIds_run hthrow
    cases hlisting table.entries (hroot (by simp))
  obtain ⟨listing, rfl, hlisting⟩ := processIds_run hids
  obtain rfl := Except.ok.inj (hlisting table.entries (hroot (by simp)))
  have hmem : ∀ pid, pid ∈ (table.entries.filterMap SocketInodeResolver.parsePid).insertionSort (· ≤ ·) ↔
      (table.process pid).isSome := by
    intro pid
    rw [List.mem_insertionSort]
    exact table.listed pid
  rcases Prog.run_exceptT_bind_iff.mp hk with ⟨e, hthrow, -⟩ | ⟨final, t₃, t₄, hloop, hk₁, rfl⟩
  · obtain ⟨_, _, hbad, -⟩ := listFrom_table (fun pid hpid => (hmem pid).mp hpid) hthrow
      fun e he => hanswers e (by simp [he])
    cases hbad
  obtain ⟨_, rows, hr, hvalue, hpids, hrows, hsilent⟩ :=
    listFrom_table (fun pid hpid => (hmem pid).mp hpid) hloop fun e he => hanswers e (by simp [he])
  obtain rfl := Except.ok.inj hr
  rw [List.nil_append] at hvalue
  refine ⟨_, hk₁.2, ⟨?_, ?_, fun pid process hprocess => ?_⟩, ?_⟩
  · -- the listing is sorted, and names nobody twice
    have hsorted : ((table.entries.filterMap SocketInodeResolver.parsePid).insertionSort
        (· ≤ ·)).Pairwise (· < ·) := by
      have hnodup := (List.perm_insertionSort (· ≤ ·) _).nodup_iff.mpr table.nodup
      exact (List.pairwise_insertionSort (· ≤ ·) _).imp₂
        (fun _ _ hle hne => lt_of_le_of_ne hle hne) hnodup
    rw [← hpids] at hsorted
    rw [hvalue]
    exact List.pairwise_map.mp hsorted
  · rw [hvalue]
    exact hrows
  · have hlisted := (hmem pid).mpr (by rw [hprocess]; rfl)
    rw [← hpids] at hlisted
    rw [hvalue]
    obtain ⟨row, hrow, hpid⟩ := List.mem_map.mp hlisted
    exact ⟨row, hrow, hpid⟩
  · rw [silent_iff, hsilent]
    constructor
    · intro hall pid process hprocess
      exact hall.2 pid ((hmem pid).mpr (by rw [hprocess]; rfl)) process hprocess
    · intro hall
      exact ⟨⟨rfl, rfl, rfl⟩, fun pid _ => hall pid⟩

/-- What a row shows is fixed. -/
theorem Shows.unique {process : KernelProcess} {row row' : ProcessInfo} (h : Shows table process row)
    (h' : Shows table process row') : row = row' := by
  have huser : row.user = row'.user := by
    by_cases hnamed : ∃ name, table.Named process.uid name
    · obtain ⟨name, hname⟩ := hnamed
      rw [h.user name hname, h'.user name hname]
    · have hnone : ∀ name, ¬ table.Named process.uid name := fun name hname => hnamed ⟨name, hname⟩
      rw [h.number hnone, h'.number hnone]
  cases row
  cases row'
  simp only [ProcessInfo.mk.injEq]
  exact ⟨h.pid.trans h'.pid.symm, h.ppid.trans h'.ppid.symm, h.name.trans h'.name.symm,
    h.state.trans h'.state.symm, h.uid.trans h'.uid.symm, h.gid.trans h'.gid.symm, huser,
    h.executable.trans h'.executable.symm, h.cwd.trans h'.cwd.symm, h.argv.trans h'.argv.symm,
    h.memory.trans h'.memory.symm, h.threads.trans h'.threads.symm,
    h.cpuPercent.trans h'.cpuPercent.symm, h.systemdUnit.trans h'.systemdUnit.symm⟩

/-- A table is listed in one way only. -/
theorem ListsAll.unique {rows rows' : List ProcessInfo} (h : ListsAll table rows)
    (h' : ListsAll table rows') : rows = rows' := by
  have hsub : ∀ {rows rows'}, ListsAll table rows → ListsAll table rows' →
      ∀ row ∈ rows, row ∈ rows' := by
    intro rows rows' h h' row hrow
    obtain ⟨process, hprocess, hshows⟩ := h.row row hrow
    obtain ⟨row', hrow', hpid⟩ := h'.every _ _ hprocess
    obtain ⟨process', hprocess', hshows'⟩ := h'.row row' hrow'
    rw [hpid] at hprocess'
    obtain rfl := Option.some.inj (hprocess.symm.trans hprocess')
    exact hshows.unique hshows' ▸ hrow'
  have hnodup : ∀ {rows}, ListsAll table rows → rows.Nodup := fun h =>
    h.ascending.imp fun hlt heq => absurd (heq ▸ hlt) (lt_irrefl _)
  have hperm := (List.perm_ext_iff_of_nodup (hnodup h) (hnodup h')).mpr fun row =>
    ⟨hsub h h' row, hsub h' h row⟩
  exact hperm.eq_of_pairwise (fun a b _ _ hab hba => absurd hab hba.asymm) h.ascending h'.ascending

/-! ## §5 Listings exist -/

/-- The calls of a listing. -/
def IsProcessCall : SysCall → Prop
  | .rootDirectory | .openFile _ _ | .readFile _ _ | .readLink _ _ | .sysconf | .getpwuid _ _ => True
  | _ => False

theorem call_responsive {c : SysCall} (h : IsProcessCall c) :
    Responsive (S := Sys) IsProcessCall (call c).run :=
  ⟨h, fun _ => trivial⟩

theorem readFile_responsive (file : ProcFile) :
    Responsive (S := Sys) IsProcessCall (ProcFsReader.readFile strerror pid file).run := by
  apply (call_responsive (c := .openFile pid file) trivial).exceptT_bind
  intro opened
  cases opened with
  | error errno => trivial
  | ok done =>
    apply (call_responsive (c := .readFile pid file) trivial).exceptT_bind
    intro contents
    cases contents <;> trivial

theorem readLink_responsive (link : ProcLink) :
    Responsive (S := Sys) IsProcessCall (ProcFsReader.readLink strerror pid link).run := by
  apply (call_responsive (c := .readLink pid link) trivial).exceptT_bind
  intro target
  cases target <;> trivial

theorem nameWithBuffer_responsive {uid size : Nat} {hsize : 0 < size} :
    Responsive (S := Sys) IsProcessCall (nameWithBuffer uid size hsize).run := by
  fun_induction nameWithBuffer uid size hsize with
  | case1 size hsize hle ih =>
    apply (call_responsive (c := .getpwuid uid size) trivial).exceptT_bind
    intro found
    split
    · trivial
    · trivial
    · split
      · trivial
      · exact ih
  | case2 size hsize hgreater => trivial

theorem nameForUid_responsive (uid : Nat) :
    Responsive (S := Sys) IsProcessCall (nameForUid uid).run := by
  apply (call_responsive (c := .sysconf) trivial).exceptT_bind
  intro suggested
  split
  · exact nameWithBuffer_responsive
  · exact nameWithBuffer_responsive

theorem requiredRecords_responsive :
    Responsive (S := Sys) IsProcessCall (requiredRecords strerror pid).run := by
  apply (readFile_responsive .stat).exceptT_bind
  intro statText
  split
  · trivial
  · split
    · trivial
    · split
      · trivial
      · apply (readFile_responsive .status).exceptT_bind
        intro statusText
        split
        · trivial
        · split <;> trivial

theorem get_responsive (pid : Int) : Responsive (S := Sys) IsProcessCall (get strerror pid).run := by
  apply requiredRecords_responsive.exceptT_bind
  intro records
  cases records with
  | error error => trivial
  | ok found =>
    apply Responsive.exceptT_bind (p := optionalDetails strerror pid (infoOf pid found.1 found.2))
    · apply (nameForUid_responsive _).exceptT_bind
      intro user
      apply (readFile_responsive .cmdline).exceptT_bind
      intro cmdline
      apply (readLink_responsive .exe).exceptT_bind
      intro executable
      apply (readLink_responsive .cwd).exceptT_bind
      exact fun _ => trivial
    · exact fun _ => trivial

theorem list_responsive : Responsive (S := Sys) IsProcessCall (list strerror).run := by
  have hloop : ∀ ids state, Responsive (S := Sys) IsProcessCall (listFrom strerror ids state).run := by
    intro ids
    induction ids with
    | nil => exact fun _ => trivial
    | cons pid rest ih => exact fun state => (get_responsive pid).exceptT_bind fun _ => ih _
  have hids : Responsive (S := Sys) IsProcessCall (ProcFsReader.processIds strerror).run := by
    apply (call_responsive (c := .rootDirectory) trivial).exceptT_bind
    intro listing
    cases listing with
    | error errno => trivial
    | ok listing =>
      dsimp only
      split <;> trivial
  apply hids.exceptT_bind
  intro found
  cases found with
  | error error => trivial
  | ok ids => exact (hloop ids {}).exceptT_bind fun _ => trivial

/-- Every such call has an answer. -/
theorem exists_answer (table : ProcTable) (c : SysCall) (h : IsProcessCall c) :
    ∃ x, table.Answers c x := by
  cases c with
  | rootDirectory => exact ⟨_, rfl⟩
  | openFile pid file => exact ⟨_, rfl⟩
  | readFile pid file =>
    cases hprocess : table.process pid with
    | none => exact ⟨.ok [], fun process hsome => by rw [hprocess] at hsome; cases hsome⟩
    | some process =>
      refine ⟨.ok (process.text file), fun other hsome => ?_⟩
      rw [Option.some.inj (hprocess.symm.trans hsome)]
  | readLink pid link =>
    cases hprocess : table.process pid with
    | none => exact ⟨.ok [], fun process hsome => by rw [hprocess] at hsome; cases hsome⟩
    | some process =>
      refine ⟨process.link link, fun other hsome => ?_⟩
      rw [Option.some.inj (hprocess.symm.trans hsome)]
  | sysconf => exact ⟨_, rfl⟩
  | getpwuid uid size => exact ⟨_, rfl⟩
  | _ => exact h.elim

end Parts

/-- **What is shown of the processes.** On every table `list` shows exactly the processes, by
    ascending PID, each with what the kernel has of it, and it warns exactly if something of
    some process is left out. `get` shows the same row of each, and there is such a listing. -/
theorem processes_shown (table : ProcTable) (strerror : Int → Bytes) :
    (∀ t r, (list strerror).run.Run t r → (∀ e ∈ t, table.Answers e.1 e.2) →
      ∃ observed, r = .ok (.ok observed) ∧ ListsAll table observed.value ∧
        (observed.warnings = [] ↔
          ∀ pid process, table.process pid = some process → Complete table process) ∧
        ∀ pid u s, (get strerror pid).run.Run u s → (∀ e ∈ u, table.Answers e.1 e.2) →
          (∀ row ∈ observed.value, row.pid = pid → ∃ warnings, s = .ok (.ok ⟨row, warnings⟩)) ∧
          ((∀ row ∈ observed.value, row.pid ≠ pid) →
            ∃ error, s = .ok (.error error) ∧ error.code = .notFound)) ∧
    ∃ t r, (list strerror).run.Run t r ∧ ∀ e ∈ t, table.Answers e.1 e.2 := by
  constructor
  · intro t r h hanswers
    obtain ⟨observed, rfl, hlists, hwarned⟩ := list_table h hanswers
    refine ⟨observed, rfl, hlists, hwarned, fun pid u s hget hanswered => ?_⟩
    obtain ⟨hsome, hnone⟩ := get_table hget hanswered
    constructor
    · rintro row hrow rfl
      obtain ⟨process, hprocess, hshows⟩ := hlists.row row hrow
      obtain ⟨⟨row', warnings⟩, rfl, hshows', -⟩ := hsome process hprocess
      obtain rfl : row' = row := hshows'.unique hshows
      exact ⟨warnings, rfl⟩
    · intro hmissing
      cases hprocess : table.process pid with
      | none => exact hnone hprocess
      | some process =>
        obtain ⟨row, hrow, hpid⟩ := hlists.every pid process hprocess
        exact absurd hpid (hmissing row hrow)
  · exact list_responsive.exists_run (exists_answer table)

/-! ### A small machine -/

theorem small_number (n : Fin 100) : (Numeral.ofNat n).value < 2 ^ 31 :=
  n.isLt.trans (by decide)

theorem sleeping_ne : (83 : UInt8) ≠ 41 := by decide

/-- The stat record of a sleeping process. -/
def sleepingStat (pid ppid : Fin 100) (comm : Bytes) : StatLine :=
  ⟨.ofNat pid, comm, 83, .ofNat ppid, [], small_number pid, small_number ppid, sleeping_ne⟩

/-- The first process: there is nothing that cannot be found out about it. -/
def initProcess : KernelProcess where
  stat := sleepingStat 1 0 "init"
  title := "\tinit"
  status := ["Uid:\t0\t0\t0\t0", "Gid:\t0\t0\t0\t0", "VmRSS:\t     100 kB", "Threads:\t1", []]
  arguments := ["/sbin/init"]
  link
    | .exe => .ok "/sbin/init"
    | .cwd => .ok "/"
  uid := 0
  gid := 0
  threads := 1
  memory := some 100
  title_line := by decide
  status_lines := by decide
  numbers key := by cases key <;> decide
  uid_eq := by decide
  gid_eq := by decide
  threads_eq := by decide
  memory_eq := by decide
  arguments_text := by decide

/-- A kernel thread: no memory of its own, no arguments and no executable. -/
def kernelThread : KernelProcess where
  stat := sleepingStat 7 1 "kworker/0:1 (x)"
  title := "\tkworker/0:1 (x)"
  status := ["Uid:\t0\t0\t0\t0", "Gid:\t0\t0\t0\t0", "Threads:\t1", []]
  arguments := []
  link
    | .exe => .error Errno.enoent
    | .cwd => .ok "/"
  uid := 0
  gid := 0
  threads := 1
  memory := none
  title_line := by decide
  status_lines := by decide
  numbers key := by cases key <;> decide
  uid_eq := by decide
  gid_eq := by decide
  threads_eq := by decide
  memory_eq := by decide
  arguments_text := by decide

/-- The shell of a user that is in no database. -/
def shell : KernelProcess where
  stat := sleepingStat 42 1 "sh"
  title := "\tsh"
  status := ["Uid:\t1000\t0\t1000\t1000", "Gid:\t100\t100\t100\t100", "VmRSS:\t    2048 kB",
    "Threads:\t3", []]
  arguments := ["sh", "-l"]
  link
    | .exe => .error Errno.eacces
    | .cwd => .ok "/home"
  uid := 1000
  gid := 100
  threads := 3
  memory := some 2048
  title_line := by decide
  status_lines := by decide
  numbers key := by cases key <;> decide
  uid_eq := by decide
  gid_eq := by decide
  threads_eq := by decide
  memory_eq := by decide
  arguments_text := by decide

theorem filterMap_small : [Bytes.ofString "42", Bytes.ofString "self", Bytes.ofString "7",
    Bytes.ofString "1"].filterMap SocketInodeResolver.parsePid = [42, 7, 1] := by
  decide

/-- A machine with these three. -/
def smallTable : ProcTable where
  process pid :=
    if pid = 1 then some initProcess else if pid = 7 then some kernelThread
    else if pid = 42 then some shell else none
  named pid found h := by
    split_ifs at h with h₁ h₂ h₃
    · obtain rfl := Option.some.inj h
      exact h₁.symm
    · obtain rfl := Option.some.inj h
      exact h₂.symm
    · obtain rfl := Option.some.inj h
      exact h₃.symm
  entries := ["42", "self", "7", "1"]
  nodup := by
    rw [filterMap_small]
    decide
  listed pid := by
    rw [filterMap_small]
    split_ifs with h₁ h₂ h₃ <;> simp [*]
  users uid := if uid = 0 then some "root" else none
  entrySize _ := 0
  suggested := -1

/-- Three rows in one order, although procfs has another one. -/
def smallRows : List ProcessInfo :=
  [{ pid := 1, ppid := 0, name := "init", state := "sleeping", user := "root",
      executable := some "/sbin/init", cwd := some "/", argv := ["/sbin/init"],
      rssBytes := 102400, threads := 1 },
    { pid := 7, ppid := 1, name := "kworker/0:1 (x)", state := "sleeping", user := "root",
      cwd := some "/", threads := 1 },
    { pid := 42, ppid := 1, name := "sh", state := "sleeping", uid := 1000, gid := 100,
      user := "1000", cwd := some "/home", argv := ["sh", "-l"], rssBytes := 2097152, threads := 3 }]

theorem named_root (name : Bytes) : smallTable.Named 0 name ↔ name = Bytes.ofString "root" := by
  have hreaches : Reaches smallTable.firstBuffer (smallTable.entrySize 0) := ⟨0, by decide, by decide⟩
  constructor
  · rintro ⟨huser, -⟩
    exact (Option.some.inj huser).symm
  · rintro rfl
    exact ⟨rfl, hreaches⟩

theorem not_named_user (name : Bytes) : ¬ smallTable.Named 1000 name := by
  rintro ⟨huser, -⟩
  cases huser

theorem smallRows_listed : ListsAll smallTable smallRows where
  ascending := by decide
  row row hrow := by
    simp only [smallRows, List.mem_cons, List.not_mem_nil, or_false] at hrow
    rcases hrow with rfl | rfl | rfl
    · exact ⟨initProcess, rfl, rfl, rfl, rfl, by decide, rfl, rfl,
        fun name hname => ((named_root name).mp hname).symm,
        fun hnone => absurd ((named_root _).mpr rfl) (hnone _), rfl, rfl, rfl, rfl, rfl, rfl, rfl⟩
    · exact ⟨kernelThread, rfl, rfl, rfl, rfl, by decide, rfl, rfl,
        fun name hname => ((named_root name).mp hname).symm,
        fun hnone => absurd ((named_root _).mpr rfl) (hnone _), rfl, rfl, rfl, rfl, rfl, rfl, rfl⟩
    · exact ⟨shell, rfl, rfl, rfl, rfl, by decide, rfl, rfl,
        fun name hname => absurd hname (not_named_user name),
        fun _ => rfl, rfl, rfl, rfl, rfl, rfl, rfl, rfl⟩
  every pid process hprocess := by
    have hpid : ((process.stat.pid.value : Nat) : Int) = pid := smallTable.named pid process hprocess
    change (if pid = 1 then _ else if pid = 7 then _ else if pid = 42 then _ else _) = _ at hprocess
    split_ifs at hprocess with h₁ h₂ h₃
    · exact ⟨_, List.mem_cons_self, h₁.symm⟩
    · exact ⟨_, List.mem_cons_of_mem _ List.mem_cons_self, h₂.symm⟩
    · exact ⟨_, List.mem_cons_of_mem _ (List.mem_cons_of_mem _ List.mem_cons_self), h₃.symm⟩

/-- The three processes are listed, with a warning for the links that cannot be read. -/
theorem processes_shown_shell : ∃ t warnings,
    (list fun _ => []).run.Run t (.ok (.ok ⟨smallRows, warnings⟩)) ∧ warnings ≠ [] := by
  obtain ⟨hshown, t, r, hrun, hanswers⟩ := processes_shown smallTable fun _ => []
  obtain ⟨⟨rows, warnings⟩, rfl, hlists, hwarned, -⟩ := hshown t r hrun hanswers
  obtain rfl : rows = smallRows := hlists.unique smallRows_listed
  refine ⟨t, warnings, hrun, fun hnone => ?_⟩
  obtain ⟨target, hlink⟩ := (hwarned.mp hnone 42 shell rfl).links .exe
  cases hlink

end Lx.ProcFs
