import Lx.Application.PortRelease
import Mathlib.Data.List.Dedup

/-!
# What an inspection of ports returns

`PortService::inspect` joins three sources: sockets, the owners of their inodes, and the
records of these owners. The join goes through a hash set of PIDs and a hash map of
records. Here it is compared with the join one would write down: for every socket, the
owners of its inode and the record of each of them (`joined`). Plans are then read off
the joined rows.

## Layers

- The inspections of the owners as a list of visits, one per PID (§1).
- The rows and warnings of `inspect` in terms of the visits (§2).
- The plans of `prepareRelease`: which owners they list and which unit they recommend (§3).
-/

namespace Lx

open Interaction

/-! ## §1 Visits -/

/-- One inspection of an owner: what it exchanged and what it showed. -/
structure Visit where
  pid : Int
  trace : Trace Contract
  outcome : Result (Observation ProcessInfo)

namespace Visit

/-- The process that was seen, if it was readable. -/
def process (visit : Visit) : Option ProcessInfo :=
  match visit.outcome with
  | .ok observed => some observed.value
  | .error _ => none

/-- A readable process adds the warnings of its observation, an unreadable one adds the
    reason. -/
def warnings (visit : Visit) : List Warning :=
  match visit.outcome with
  | .ok observed => observed.warnings
  | .error error => [warningFrom error]

theorem process_eq_some {visit : Visit} {process : ProcessInfo} (h : visit.process = some process) :
    ∃ observed, visit.outcome = .ok observed ∧ observed.value = process := by
  unfold Visit.process at h
  split at h
  · rename_i observed houtcome
    exact ⟨observed, houtcome, Option.some.inj h⟩
  · cases h

end Visit

/-- What the visits have shown of a PID. -/
def shown (visits : List Visit) (pid : Int) : Option ProcessInfo :=
  (visits.find? (·.pid == pid)).bind Visit.process

theorem shown_of_notMem {visits : List Visit} {pid : Int} (h : pid ∉ visits.map (·.pid)) :
    shown visits pid = none := by
  have hnone : visits.find? (·.pid == pid) = none := by
    apply List.find?_eq_none.mpr
    intro visit hvisit heq
    exact h (List.mem_map.mpr ⟨visit, hvisit, by simpa using heq⟩)
  rw [shown, hnone]
  rfl

theorem shown_of_mem {visits : List Visit} (honce : (visits.map (·.pid)).Nodup) {visit : Visit}
    (hvisit : visit ∈ visits) : shown visits visit.pid = visit.process := by
  induction visits with
  | nil => cases hvisit
  | cons first visits ih =>
    obtain ⟨hfresh, honce'⟩ := List.nodup_cons.mp honce
    rcases List.mem_cons.mp hvisit with rfl | hvisit
    · simp [shown]
    · have hne : first.pid ≠ visit.pid := fun heq =>
        hfresh (List.mem_map.mpr ⟨visit, hvisit, heq.symm⟩)
      rw [← ih honce' hvisit]
      simp [shown, hne]

theorem exists_of_shown {visits : List Visit} {pid : Int} {process : ProcessInfo}
    (h : shown visits pid = some process) :
    ∃ visit ∈ visits, visit.pid = pid ∧ visit.process = some process := by
  obtain ⟨visit, hfind, hprocess⟩ := Option.bind_eq_some_iff.mp h
  have hpid := List.find?_some hfind
  exact ⟨visit, List.mem_of_find?_eq_some hfind, by simpa using hpid, hprocess⟩

/-- The map of records: a readable process is entered under its PID. -/
def entries (visits : List Visit) : List (Int × ProcessInfo) :=
  visits.filterMap fun visit => visit.process.map (visit.pid, ·)

theorem entries_unreadable {visit : Visit} (visits : List Visit) (h : visit.process = none) :
    entries (visit :: visits) = entries visits := by
  simp [entries, h]

theorem entries_readable {visit : Visit} {process : ProcessInfo} (visits : List Visit)
    (h : visit.process = some process) :
    entries (visit :: visits) = (visit.pid, process) :: entries visits := by
  simp [entries, h]

/-- The map of records has exactly what the visits have shown. -/
theorem lookup_entries {visits : List Visit} (honce : (visits.map (·.pid)).Nodup) (pid : Int) :
    (entries visits).lookup pid = shown visits pid := by
  induction visits with
  | nil => rfl
  | cons visit visits ih =>
    obtain ⟨hfresh, honce'⟩ := List.nodup_cons.mp honce
    by_cases hpid : visit.pid = pid
    · subst hpid
      have hshown : shown (visit :: visits) visit.pid = visit.process := by simp [shown]
      rw [hshown]
      cases hprocess : visit.process with
      | none =>
        -- later visits are to other processes
        rw [entries_unreadable _ hprocess, ih honce', shown_of_notMem hfresh]
      | some process => simp [entries_readable _ hprocess]
    · have hshown : shown (visit :: visits) pid = shown visits pid := by simp [shown, hpid]
      rw [hshown, ← ih honce']
      cases hprocess : visit.process with
      | none => rw [entries_unreadable _ hprocess]
      | some process =>
        have hne : (pid == visit.pid) = false := by simpa using Ne.symm hpid
        rw [entries_readable _ hprocess, List.lookup_cons, hne]

namespace PortService

variable {self : PortService} {t : Trace Contract}

/-- **The loop over the owners** is one visit to each, in the order of the set. -/
theorem inspectOwners_run {pids : List Int} {processes : List (Int × ProcessInfo)}
    {warnings : List Warning} {r : List (Int × ProcessInfo) × List Warning}
    (h : (self.inspectOwners pids processes warnings).Run t r) :
    ∃ visits : List Visit, visits.map (·.pid) = pids ∧
      (∀ visit ∈ visits, (self.processService_.inspect visit.pid).Run visit.trace visit.outcome) ∧
      t = visits.flatMap (·.trace) ∧
      r = (processes ++ entries visits, warnings ++ visits.flatMap Visit.warnings) := by
  induction pids generalizing processes warnings t with
  | nil =>
    obtain ⟨rfl, rfl⟩ := h
    exact ⟨[], rfl, by simp, rfl, by simp [entries]⟩
  | cons pid rest ih =>
    obtain ⟨got, t₁, t₂, hi, hk, rfl⟩ := Prog.run_bind_iff.mp h
    cases got with
    | error error =>
      -- an unreadable process leaves a warning and no record
      obtain ⟨visits, rfl, hvisits, rfl, rfl⟩ := ih hk
      refine ⟨⟨pid, t₁, .error error⟩ :: visits, rfl, ?_, rfl, ?_⟩
      · simpa using ⟨hi, hvisits⟩
      · rw [entries_unreadable _ rfl]
        simp [Visit.warnings]
    | ok observed =>
      obtain ⟨visits, rfl, hvisits, rfl, rfl⟩ := ih hk
      refine ⟨⟨pid, t₁, .ok observed⟩ :: visits, rfl, ?_, rfl, ?_⟩
      · simpa using ⟨hi, hvisits⟩
      · rw [entries_readable _ rfl]
        simp [Visit.warnings]

/-! ## §2 Joined rows -/

/-- The owners the resolver has found for a socket. -/
def ownersOf (ownership : SocketOwnership) (socket : SocketInfo) : List Int :=
  (ownership.lookup socket.inode).getD []

/-- The row of a socket: its owners, and the records of those that were readable. -/
def joined (ownership : SocketOwnership) (visits : List Visit) (socket : SocketInfo) : PortInfo :=
  ⟨{ socket with ownerPids := ownersOf ownership socket },
    (ownersOf ownership socket).filterMap (shown visits)⟩

/-- Every owner of some socket is visited once, and nobody else. -/
structure Visited (service : PortService) (sockets : List SocketInfo) (ownership : SocketOwnership)
    (t : Trace Contract) (visits : List Visit) : Prop where
  exchange : ∃ order, t = ⟨.hashOrder (resolvedPids ownership sockets), order⟩ ::
    visits.flatMap (·.trace)
  inspected : ∀ visit ∈ visits,
    (service.processService_.inspect visit.pid).Run visit.trace visit.outcome
  once : (visits.map (·.pid)).Nodup
  owners : ∀ pid, pid ∈ visits.map (·.pid) ↔ ∃ socket ∈ sockets, pid ∈ ownersOf ownership socket

/-- The calls behind an inspection that got its sockets and their owners. -/
theorem inspect_visits {query : SocketQuery} {sockets : Observation (List SocketInfo)}
    {ownership : Observation SocketOwnership} {r : Result (Observation (List PortInfo))}
    (h : (self.inspect query).Run (⟨.querySockets query, .ok sockets⟩ ::
      ⟨.resolveOwners (requestedInodes sockets.value), .ok ownership⟩ :: t) r) :
    ∃ visits, Visited self sockets.value ownership.value t visits ∧
      r = .ok ⟨(sockets.value.map (withOwners ownership.value)).map (toPortInfo (entries visits)),
        sockets.warnings ++ ownership.warnings ++ visits.flatMap Visit.warnings⟩ := by
  rcases inspect_run h with ⟨_, ht, -⟩ | ⟨_, _, ht, -⟩ |
    ⟨sockets', ownership', order, t', processes, warnings, ht, howners, rfl⟩
  · cases ht
  · cases ht
  · cases ht
    obtain ⟨visits, hpids, hvisits, rfl, hr⟩ := inspectOwners_run howners
    obtain ⟨rfl, rfl⟩ := Prod.mk.inj hr
    refine ⟨visits, ⟨⟨order, rfl⟩, hvisits, ?_, fun pid => ?_⟩, by simp⟩
    · rw [hpids]
      exact order.property.nodup_iff.mpr (List.nodup_dedup _)
    · rw [hpids, order.property.mem_iff, resolvedPids, List.mem_dedup, List.mem_flatMap]
      rfl

/-- The rows are the joined rows when the sockets come without owners. -/
theorem rows_joined {sockets : List SocketInfo} {ownership : SocketOwnership} {visits : List Visit}
    (hunowned : ∀ socket ∈ sockets, socket.ownerPids = []) (honce : (visits.map (·.pid)).Nodup) :
    (sockets.map (withOwners ownership)).map (toPortInfo (entries visits)) =
      sockets.map (joined ownership visits) := by
  rw [List.map_map]
  apply List.map_congr_left
  intro socket hsocket
  have howners : withOwners ownership socket =
      { socket with ownerPids := ownersOf ownership socket } := by
    unfold withOwners ownersOf
    cases ownership.lookup socket.inode with
    | none =>
      -- a socket the resolver does not know keeps the empty list it came with
      have hnone := hunowned socket hsocket
      simp [← hnone]
    | some owners => rfl
  have hlookup : (fun pid => (entries visits).lookup pid) = shown visits :=
    funext (lookup_entries honce)
  rw [Function.comp_apply, howners, toPortInfo, joined, hlookup]

/-- The provider gives its sockets without owners. -/
def Unowned (t : Trace Contract) : Prop :=
  ∀ query sockets, ⟨.querySockets query, .ok sockets⟩ ∈ t →
    ∀ socket ∈ sockets.value, socket.ownerPids = []

/-- The sockets or their owners could not be found out, and that is what is reported. -/
def Refused (query : SocketQuery) (t : Trace Contract)
    (r : Result (Observation (List PortInfo))) : Prop :=
  ∃ error, r = .error error ∧ (t = [⟨.querySockets query, .error error⟩] ∨
    ∃ sockets inodes, t = [⟨.querySockets query, .ok sockets⟩, ⟨.resolveOwners inodes, .error error⟩])

/-- The sockets and their owners were found out, every owner was visited, and the result has
    the joined rows with the warnings of the query, of the resolver and of the visits. -/
def Joins (service : PortService) (query : SocketQuery) (t : Trace Contract)
    (r : Result (Observation (List PortInfo))) : Prop :=
  ∃ sockets ownership rest visits,
    t = ⟨.querySockets query, .ok sockets⟩ ::
      ⟨.resolveOwners (requestedInodes sockets.value), .ok ownership⟩ :: rest ∧
    Visited service sockets.value ownership.value rest visits ∧
    r = .ok ⟨sockets.value.map (joined ownership.value visits),
      sockets.warnings ++ ownership.warnings ++ visits.flatMap Visit.warnings⟩

/-- The loop goes through whatever the inspections of the owners exchange. -/
theorem inspectOwners_exists {inspections : Int → Trace Contract × Result (Observation ProcessInfo)}
    (hinspections : ∀ pid,
      (self.processService_.inspect pid).Run (inspections pid).1 (inspections pid).2)
    (pids : List Int) (processes : List (Int × ProcessInfo)) (warnings : List Warning) :
    ∃ r, (self.inspectOwners pids processes warnings).Run
      (pids.flatMap fun pid => (inspections pid).1) r := by
  induction pids generalizing processes warnings with
  | nil => exact ⟨_, rfl, rfl⟩
  | cons pid rest ih =>
    have hrun := hinspections pid
    cases houtcome : (inspections pid).2 with
    | error error =>
      rw [houtcome] at hrun
      obtain ⟨r, hrest⟩ := ih processes (warnings ++ [warningFrom error])
      exact ⟨r, Prog.run_bind_iff.mpr ⟨_, _, _, hrun, hrest, rfl⟩⟩
    | ok observed =>
      rw [houtcome] at hrun
      obtain ⟨r, hrest⟩ := ih (processes ++ [(pid, observed.value)]) (warnings ++ observed.warnings)
      exact ⟨r, Prog.run_bind_iff.mpr ⟨_, _, _, hrun, hrest, rfl⟩⟩

/-- **Nothing is lost.** Sockets come from the provider without owners. In every run that gets
    the sockets and their owners, each socket has its row, in its place; a PID keeps its place
    among the owners whether or not it was readable; and the warnings are those of the query,
    of the resolver and of the visits. Such a run exists for all sockets, all owners, all
    outcomes of the inspections and every order of the visits. -/
theorem inspect_joins (self : PortService) (query : SocketQuery) :
    (∀ t r, (self.inspect query).Run t r → Unowned t → Refused query t r ∨ Joins self query t r) ∧
    ∀ (sockets : Observation (List SocketInfo)) (ownership : Observation SocketOwnership)
      (order : { order : List Int // order.Perm (resolvedPids ownership.value sockets.value) })
      (inspections : Int → Trace Contract × Result (Observation ProcessInfo)),
      (∀ pid, (self.processService_.inspect pid).Run (inspections pid).1 (inspections pid).2) →
      ∃ r, (self.inspect query).Run (⟨.querySockets query, .ok sockets⟩ ::
        ⟨.resolveOwners (requestedInodes sockets.value), .ok ownership⟩ ::
        ⟨.hashOrder (resolvedPids ownership.value sockets.value), order⟩ ::
        order.val.flatMap fun pid => (inspections pid).1) r := by
  refine ⟨fun t r h hunowned => ?_, fun sockets ownership order inspections hinspections => ?_⟩
  · rcases inspect_run h with ⟨error, rfl, rfl⟩ | ⟨sockets, error, rfl, rfl⟩ |
      ⟨sockets, ownership, order, t', processes, warnings, rfl, -, -⟩
    · exact .inl ⟨error, rfl, .inl rfl⟩
    · exact .inl ⟨error, rfl, .inr ⟨sockets, _, rfl⟩⟩
    · obtain ⟨visits, hvisited, hr⟩ := inspect_visits h
      have hsockets := hunowned query sockets (by simp)
      rw [rows_joined hsockets hvisited.once] at hr
      exact .inr ⟨sockets, ownership, _, visits, rfl, hvisited, hr⟩
  · obtain ⟨⟨processes, warnings⟩, howners⟩ :=
      inspectOwners_exists hinspections order.val [] (sockets.warnings ++ ownership.warnings)
    have hresult := (Prog.run_bind_iff (S := Contract)
      (p := self.inspectOwners order.val [] (sockets.warnings ++ ownership.warnings))
      (f := fun found => .ret (.ok ⟨(sockets.value.map (withOwners ownership.value)).map
        (toPortInfo found.1), found.2⟩ : Result (Observation (List PortInfo))))).mpr
      ⟨(processes, warnings), _, [], howners, ⟨rfl, rfl⟩, (List.append_nil _).symm⟩
    exact ⟨_, _, _, rfl, _, _, rfl, order, _, rfl, hresult⟩

end PortService

/-- A socket that a server with PID 20 shares with its worker, PID 30. -/
def sharedSocket : SocketInfo := { localEnd := ⟨"0.0.0.0", 8080⟩, inode := 7 }

def sharedPorts : PortService := ⟨⟨900, none⟩, none, 0⟩

/-- An observation that finds both owners. -/
def sharedObservation : Trace Contract :=
  [⟨.querySockets { localPort := some 8080 }, .ok ⟨[sharedSocket], []⟩⟩,
    ⟨.resolveOwners [7], .ok ⟨[(7, [20, 30])], []⟩⟩, ⟨.hashOrder [20, 30], ⟨[20, 30], .refl _⟩⟩,
    ⟨.getProcess 20, .ok ⟨{ pid := 20 }, []⟩⟩, ⟨.getProcess 30, .ok ⟨{ pid := 30 }, []⟩⟩]

def sharedRow : PortInfo :=
  ⟨{ sharedSocket with ownerPids := [20, 30] }, [{ pid := 20 }, { pid := 30 }]⟩

/-- The same port with a second socket of the server and one nobody holds. -/
def vanishingSockets : List SocketInfo :=
  [sharedSocket, { sharedSocket with inode := 8 }, { sharedSocket with inode := 9 }]

def vanished : Error := ⟨.notFound, "No such process", 2, "procfs", "read process"⟩

/-- The worker is visited first, and is gone. -/
def vanishingObservation : Trace Contract :=
  [⟨.querySockets { localPort := some 8080 }, .ok ⟨vanishingSockets, []⟩⟩,
    ⟨.resolveOwners [7, 8, 9], .ok ⟨[(7, [20, 30]), (8, [20])], []⟩⟩,
    ⟨.hashOrder [30, 20], ⟨[30, 20], .refl _⟩⟩, ⟨.getProcess 30, .error vanished⟩,
    ⟨.getProcess 20, .ok ⟨{ pid := 20 }, []⟩⟩]

def vanishingRows : List PortInfo :=
  [⟨{ sharedSocket with ownerPids := [20, 30] }, [{ pid := 20 }]⟩,
    ⟨{ sharedSocket with inode := 8, ownerPids := [20] }, [{ pid := 20 }]⟩,
    ⟨{ sharedSocket with inode := 9 }, []⟩]

/-- Three sockets, two owners, two visits, one of them in vain. -/
theorem vanishingObservation_joined :
    (sharedPorts.inspect { localPort := some 8080 }).Run vanishingObservation
        (.ok ⟨vanishingRows, [warningFrom vanished]⟩) ∧
      PortService.Joins sharedPorts { localPort := some 8080 } vanishingObservation
        (.ok ⟨vanishingRows, [warningFrom vanished]⟩) := by
  have hrun : (sharedPorts.inspect { localPort := some 8080 }).Run vanishingObservation
      (.ok ⟨vanishingRows, [warningFrom vanished]⟩) :=
    ⟨_, _, rfl, _, _, rfl, _, _, rfl, _, _, rfl, _, _, rfl, rfl, rfl⟩
  have hunowned : PortService.Unowned vanishingObservation := by
    intro query sockets hmem
    simp only [vanishingObservation, List.mem_cons, List.not_mem_nil, or_false] at hmem
    rcases hmem with h | h | h | h | h <;> cases h
    decide
  rcases (PortService.inspect_joins sharedPorts _).1 _ _ hrun hunowned with ⟨_, hr, -⟩ | hjoins
  · cases hr
  · exact ⟨hrun, hjoins⟩

namespace PortService

variable {self : PortService} {t : Trace Contract}

/-! ## §3 Plans -/

/-- Records are about the process that was asked for. -/
def RecordsNamed (t : Trace Contract) : Prop :=
  ∀ pid observed, ⟨.getProcess pid, .ok observed⟩ ∈ t → observed.value.pid = pid

/-- A plan that can be executed. The visits are those of the inspection it was made from. -/
structure WellFormed (service : PortService) (plan : PortReleasePlan) (visits : List Visit) :
    Prop where
  occupied : plan.ports ≠ []
  owned : ∀ port ∈ plan.ports, port.socket.ownerPids ≠ []
  ascending : plan.ownerPids.Pairwise (· < ·)
  union : ∀ pid, pid ∈ plan.ownerPids ↔ ∃ port ∈ plan.ports, pid ∈ port.socket.ownerPids
  signalable : ∀ pid ∈ plan.ownerPids, 1 < pid ∧ pid ≠ service.processService_.selfPid_
  /-- One unit is recommended exactly if every owner was readable and belongs to it. -/
  unit : ∀ unit, plan.recommendedUnit = some unit ↔ ∀ pid ∈ plan.ownerPids,
    ∃ process, shown visits pid = some process ∧ process.systemdUnit = some unit

/-- `std::unique` leaves a sorted range strictly ascending. -/
theorem unique_ascending {pids : List Int} (h : pids.Pairwise (· ≤ ·)) :
    (unique pids).Pairwise (· < ·) := by
  induction pids using unique.induct with
  | case1 => simp [unique]
  | case2 pid => simp [unique]
  | case3 pid rest ih =>
    rw [unique, if_pos rfl]
    exact ih (List.pairwise_cons.mp h).2
  | case4 pid next rest hne ih =>
    rw [unique, if_neg hne]
    obtain ⟨hpid, hrest⟩ := List.pairwise_cons.mp h
    refine List.pairwise_cons.mpr ⟨fun other hother => ?_, ih hrest⟩
    -- everything that follows is at least the next element, which is larger
    have hnext : next ≤ other := by
      rcases List.mem_cons.mp ((mem_unique _).mp hother) with rfl | hother
      · exact le_rfl
      · exact (List.pairwise_cons.mp hrest).1 other hother
    have hfirst : pid ≤ next := hpid next (List.mem_cons_self ..)
    omega

theorem ownerPidsOf_ascending (ports : List PortInfo) : (ownerPidsOf ports).Pairwise (· < ·) :=
  unique_ascending (List.pairwise_insertionSort _ _)

/-- The unit search with a unit found already. -/
theorem commonUnitOf_some_iff {ports : List PortInfo} {pids : List Int} {common unit : Bytes} :
    commonUnitOf ports pids (some common) = some unit ↔ common = unit ∧
      ∀ pid ∈ pids, (findOwner ports pid).bind (·.systemdUnit) = some unit := by
  induction pids with
  | nil => simp [commonUnitOf]
  | cons pid rest ih =>
    unfold commonUnitOf
    cases hunit : (findOwner ports pid).bind (·.systemdUnit) with
    | none => simp [hunit]
    | some found =>
      dsimp only
      by_cases hsame : common = found
      · rw [if_neg (not_not.mpr hsame), ih]
        subst hsame
        simp only [List.mem_cons, forall_eq_or_imp, hunit, Option.some.injEq]
        tauto
      · rw [if_pos hsame]
        simp only [List.mem_cons, forall_eq_or_imp, hunit, Option.some.injEq, reduceCtorEq,
          false_iff]
        rintro ⟨rfl, rfl, -⟩
        exact hsame rfl

theorem commonUnitOf_none_iff {ports : List PortInfo} {pids : List Int} {unit : Bytes}
    (hne : pids ≠ []) : commonUnitOf ports pids none = some unit ↔
      ∀ pid ∈ pids, (findOwner ports pid).bind (·.systemdUnit) = some unit := by
  cases pids with
  | nil => exact absurd rfl hne
  | cons pid rest =>
    unfold commonUnitOf
    cases hunit : (findOwner ports pid).bind (·.systemdUnit) with
    | none => simp [hunit]
    | some found =>
      dsimp only
      rw [commonUnitOf_some_iff]
      simp only [List.mem_cons, forall_eq_or_imp, hunit, Option.some.injEq]

/-- A record that is about the process asked for shows it under its own PID. -/
theorem Visited.named {sockets : List SocketInfo} {ownership : SocketOwnership}
    {visits : List Visit} (h : Visited self sockets ownership t visits) (hnamed : RecordsNamed t)
    {pid : Int} {process : ProcessInfo} (hshown : shown visits pid = some process) :
    process.pid = pid := by
  obtain ⟨visit, hvisit, rfl, hprocess⟩ := exists_of_shown hshown
  have hrun := h.inspected visit hvisit
  obtain ⟨observed, houtcome, rfl⟩ := Visit.process_eq_some hprocess
  rw [houtcome] at hrun
  obtain ⟨record, rest, htrace, -, systemdUnit, hvalue⟩ := ProcessService.inspect_run_ok hrun
  rw [hvalue]
  refine hnamed visit.pid record ?_
  obtain ⟨order, rfl⟩ := h.exchange
  refine List.mem_cons_of_mem _ (List.mem_flatMap.mpr ⟨visit, hvisit, ?_⟩)
  rw [htrace]
  exact List.mem_cons_self ..

/-- The search through the rows finds what the visits have shown. -/
theorem findOwner_eq_shown {sockets : List SocketInfo} {visits : List Visit} {pid : Int}
    (honce : (visits.map (·.pid)).Nodup)
    (hnamed : ∀ pid process, shown visits pid = some process → process.pid = pid)
    (howner : ∃ socket ∈ sockets, pid ∈ socket.ownerPids) :
    findOwner (sockets.map (toPortInfo (entries visits))) pid = shown visits pid := by
  -- a record with this PID was shown by the visit to this PID
  have hfound : ∀ process, findOwner (sockets.map (toPortInfo (entries visits))) pid = some process →
      shown visits pid = some process := by
    intro process hprocess
    obtain ⟨port, hport, hfind⟩ := List.exists_of_findSome?_eq_some hprocess
    obtain ⟨socket, -, rfl⟩ := List.mem_map.mp hport
    obtain ⟨key, -, hlookup⟩ := List.mem_filterMap.mp (List.mem_of_find?_eq_some hfind)
    rw [lookup_entries honce] at hlookup
    have hkey : process.pid = key := hnamed key process hlookup
    have hpid : process.pid = pid := by simpa using List.find?_some hfind
    rwa [← hpid, hkey]
  cases hshown : shown visits pid with
  | none =>
    apply Option.eq_none_iff_forall_not_mem.mpr
    intro process hprocess
    rw [hfound process hprocess] at hshown
    cases hshown
  | some process =>
    obtain ⟨socket, hsocket, hpid⟩ := howner
    have hsome : (findOwner (sockets.map (toPortInfo (entries visits))) pid).isSome := by
      rw [findOwner, List.findSome?_isSome_iff]
      refine ⟨_, List.mem_map.mpr ⟨socket, hsocket, rfl⟩, ?_⟩
      rw [List.find?_isSome]
      refine ⟨process, List.mem_filterMap.mpr ⟨pid, hpid, ?_⟩, ?_⟩
      · rw [lookup_entries honce, hshown]
      · simpa using hnamed pid process hshown
    obtain ⟨other, hother⟩ := Option.isSome_iff_exists.mp hsome
    rw [hother, ← hfound other hother, hshown]

theorem ownerPidsOf_ne_nil {ports : List PortInfo} (hports : ports ≠ [])
    (howned : ∀ port ∈ ports, port.socket.ownerPids ≠ []) : ownerPidsOf ports ≠ [] := by
  obtain ⟨port, hport⟩ := List.exists_mem_of_ne_nil ports hports
  obtain ⟨pid, hpid⟩ := List.exists_mem_of_ne_nil _ (howned port hport)
  exact List.ne_nil_of_mem (mem_ownerPidsOf.mpr ⟨port, hport, hpid⟩)

/-- The calls behind an inspection that succeeded. -/
theorem inspect_ok_run {query : SocketQuery} {observed : Observation (List PortInfo)}
    (h : (self.inspect query).Run t (.ok observed)) : ∃ sockets ownership rest visits,
      t = ⟨.querySockets query, .ok sockets⟩ ::
        ⟨.resolveOwners (requestedInodes sockets.value), .ok ownership⟩ :: rest ∧
      Visited self sockets.value ownership.value rest visits ∧
      observed.value = (sockets.value.map (withOwners ownership.value)).map
        (toPortInfo (entries visits)) := by
  rcases inspect_run h with ⟨_, -, hr⟩ | ⟨_, _, -, hr⟩ | ⟨sockets, ownership, _, _, _, _, rfl, -, -⟩
  · cases hr
  · cases hr
  · obtain ⟨visits, hvisited, hr⟩ := inspect_visits h
    exact ⟨sockets, ownership, _, visits, rfl, hvisited,
      congrArg Observation.value (Except.ok.inj hr)⟩

/-- **The recommended unit**: the one every owner was shown with. -/
theorem recommendedUnit_iff {localPort : Nat} {observed : Observation PortReleasePlan}
    (hnamed : RecordsNamed t) (h : (self.prepareRelease localPort).Run t (.ok observed)) :
    ∃ sockets ownership rest visits,
      t = ⟨.querySockets { localPort := some localPort }, .ok sockets⟩ ::
        ⟨.resolveOwners (requestedInodes sockets.value), .ok ownership⟩ :: rest ∧
      Visited self sockets.value ownership.value rest visits ∧
      ∀ unit, observed.value.recommendedUnit = some unit ↔ ∀ pid ∈ observed.value.ownerPids,
        ∃ process, shown visits pid = some process ∧ process.systemdUnit = some unit := by
  obtain ⟨ports, hinspect, hports, hplan⟩ := prepareRelease_ok h
  obtain ⟨hvalue, howned, -⟩ := planOf_ok hplan
  obtain ⟨sockets, ownership, rest, visits, rfl, hvisited, hrows⟩ := inspect_ok_run hinspect
  refine ⟨sockets, ownership, rest, visits, rfl, hvisited, fun unit => ?_⟩
  have hrest : RecordsNamed rest := fun pid record hmem =>
    hnamed pid record (List.mem_cons_of_mem _ (List.mem_cons_of_mem _ hmem))
  rw [hvalue, commonUnitOf_none_iff (ownerPidsOf_ne_nil hports howned)]
  refine forall₂_congr fun pid hpid => ?_
  -- the record the search finds is the one the visit has shown
  have hshown : findOwner ports pid = shown visits pid := by
    obtain ⟨port, hport, howner⟩ := mem_ownerPidsOf.mp hpid
    rw [show ports = _ from hrows] at hport ⊢
    obtain ⟨socket, hsocket, rfl⟩ := List.mem_map.mp hport
    exact findOwner_eq_shown hvisited.once (fun _ _ => hvisited.named hrest)
      ⟨socket, hsocket, howner⟩
  rw [hshown, Option.bind_eq_some_iff]

/-- **Plans are well formed**, whatever the providers answer. -/
theorem prepareRelease_wellFormed {localPort : Nat} {observed : Observation PortReleasePlan}
    (hnamed : RecordsNamed t) (h : (self.prepareRelease localPort).Run t (.ok observed)) :
    ∃ sockets ownership rest visits,
      t = ⟨.querySockets { localPort := some localPort }, .ok sockets⟩ ::
        ⟨.resolveOwners (requestedInodes sockets.value), .ok ownership⟩ :: rest ∧
      Visited self sockets.value ownership.value rest visits ∧
      WellFormed self observed.value visits := by
  obtain ⟨ports, -, hports, hplan⟩ := prepareRelease_ok h
  obtain ⟨hvalue, howned, hsignalable⟩ := planOf_ok hplan
  obtain ⟨sockets, ownership, rest, visits, ht, hvisited, hunit⟩ := recommendedUnit_iff hnamed h
  refine ⟨sockets, ownership, rest, visits, ht, hvisited, ?_⟩
  rw [hvalue] at hunit ⊢
  exact ⟨hports, howned, ownerPidsOf_ascending ports, fun pid => mem_ownerPidsOf, hsignalable, hunit⟩

end PortService

def sharedPlan : PortReleasePlan := ⟨8080, [sharedRow], [20, 30], none⟩

theorem sharedObservation_run :
    (sharedPorts.prepareRelease sharedPlan.localPort).Run sharedObservation (.ok ⟨sharedPlan, []⟩) :=
  ⟨_, _, rfl, _, _, rfl, _, _, rfl, _, _, rfl, _, _, rfl, rfl, rfl⟩

theorem sharedPlan_wellFormed : ∃ sockets ownership rest visits,
    sharedObservation = ⟨.querySockets { localPort := some 8080 }, .ok sockets⟩ ::
      ⟨.resolveOwners (PortService.requestedInodes sockets.value), .ok ownership⟩ :: rest ∧
    PortService.Visited sharedPorts sockets.value ownership.value rest visits ∧
    PortService.WellFormed sharedPorts sharedPlan visits := by
  refine PortService.prepareRelease_wellFormed ?_ sharedObservation_run
  intro pid observed hmem
  simp only [sharedObservation, List.mem_cons, List.not_mem_nil, or_false] at hmem
  rcases hmem with h | h | h | h | h <;> cases h
  · rfl
  · rfl

end Lx
