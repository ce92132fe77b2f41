import Lx.Linux.Machine

/-!
# What `lx port` shows of a machine

The application layer on the machine of `Machine.lean`, from its system calls to its rows.
`ports_shown`: an inspection lists exactly the sockets the query asks for, each with the
processes that hold it and what is known of them. `release_planned`: `prepareRelease`
returns a plan for these rows exactly where it may, and otherwise says why not.

Both come from one fact about the application layer alone: `inspect_lists`, for providers
that tell the truth about a machine.
-/

namespace Lx

open Interaction World Netlink

/-! ## §1 Processes -/

/-- What the inspection of a process ends with. -/
def Machine.inspected (m : Machine) (processes : ProcessService) (pid : Int) :
    Result (Observation ProcessInfo) :=
  match m.process pid, processes.serviceService_ with
  | .error error, _ => .error error
  | .ok observed, none => .ok observed
  | .ok observed, some _ => .ok (ProcessService.attachUnit observed (m.unit pid))

/-- What is shown of a process, if it is readable. -/
def Machine.record (m : Machine) (processes : ProcessService) (pid : Int) : Option ProcessInfo :=
  match m.inspected processes pid with
  | .ok observed => some observed.value
  | .error _ => none

theorem inspected_run {m : Machine} {processes : ProcessService} {pid : Int} {t : Trace Contract}
    {r : Result (Observation ProcessInfo)} (hpositive : 0 < pid)
    (h : (processes.inspect pid).Run t r) (hobserves : ∀ e ∈ t, m.Observes e) :
    r = m.inspected processes pid := by
  unfold ProcessService.inspect at h
  rw [if_neg (by omega)] at h
  obtain ⟨got, t₁, t₂, hgot, hrest, rfl⟩ := Prog.run_bind_iff.mp h
  obtain rfl := Prog.run_perform.mp hgot
  obtain rfl : got = m.process pid := hobserves ⟨.getProcess pid, got⟩ (by simp)
  unfold Machine.inspected
  cases hprocess : m.process pid with
  | error error =>
    simp only [hprocess] at hrest ⊢
    exact hrest.2
  | ok observed =>
    cases hservices : processes.serviceService_ with
    | none =>
      simp only [hprocess, hservices] at hrest ⊢
      exact hrest.2
    | some services =>
      simp only [hprocess, hservices] at hrest ⊢
      obtain ⟨unit, t₃, t₄, hunit, hreturn, rfl⟩ := Prog.run_bind_iff.mp hrest
      unfold ServiceService.unitByPid at hunit
      rw [if_neg (by omega)] at hunit
      obtain rfl := Prog.run_perform.mp hunit
      obtain rfl : unit = m.unit pid := hobserves ⟨.unitByPid pid, unit⟩ (by simp)
      exact hreturn.2

/-! ## §2 Rows -/

/-- A row without its owners. -/
def unowned (row : PortInfo) : SocketInfo := { row.socket with ownerPids := [] }

/-- The row says of its socket what is true of the machine. -/
structure Machine.Row (m : Machine) (processes : ProcessService) (row : PortInfo) : Prop where
  ascending : row.socket.ownerPids.Pairwise (· < ·)
  owners : ∀ pid, pid ∈ row.socket.ownerPids ↔
    row.socket.inode ≠ 0 ∧ m.tree.Holds pid row.socket.inode
  records : row.owners = row.socket.ownerPids.filterMap (m.record processes)

/-- The rows are those of the sockets a query asks for. -/
structure Machine.Lists (m : Machine) (processes : ProcessService) (query : SocketQuery)
    (rows : List PortInfo) : Prop where
  exact : (rows.map unowned).Perm (m.wanted query)
  sorted : rows.Pairwise fun a b => socketKey a.socket ≤ socketKey b.socket
  row : ∀ row ∈ rows, m.Row processes row

section Rows

variable {m : Machine} {query : SocketQuery} {sockets : List SocketInfo}

theorem mem_wanted {socket : SocketInfo} (h : socket ∈ m.wanted query) :
    ∃ protocol, ∃ record ∈ m.sockets protocol, Wanted query protocol record ∧
      socket = record.toSocketInfo protocol := by
  have hof : ∀ protocol, socket ∈ m.wantedOf query protocol →
      ∃ record ∈ m.sockets protocol, Wanted query protocol record ∧
        socket = record.toSocketInfo protocol := by
    intro protocol hmem
    obtain ⟨record, hrecord, rfl⟩ := List.mem_map.mp hmem
    obtain ⟨hrecord, hwanted⟩ := List.mem_filter.mp hrecord
    exact ⟨record, hrecord, of_decide_eq_true hwanted, rfl⟩
  rcases List.mem_append.mp h with htcp | hudp
  · exact ⟨.tcp, hof .tcp htcp⟩
  · exact ⟨.udp, hof .udp hudp⟩

/-- Sockets come from the kernel without owners. -/
theorem ownerPids_wanted (hwanted : sockets.Perm (m.wanted query)) :
    ∀ socket ∈ sockets, socket.ownerPids = [] := by
  intro socket hsocket
  obtain ⟨protocol, record, -, -, rfl⟩ := mem_wanted (hwanted.mem_iff.mp hsocket)
  rfl

/-- The kernel's inodes have 32 bits. -/
theorem inode_wanted (hwanted : sockets.Perm (m.wanted query)) :
    ∀ inode ∈ PortService.requestedInodes sockets, inode < 2 ^ 64 := by
  intro inode hinode
  obtain ⟨socket, hsocket, rfl⟩ := List.mem_map.mp (List.mem_of_mem_filter hinode)
  obtain ⟨protocol, record, -, -, rfl⟩ := mem_wanted (hwanted.mem_iff.mp hsocket)
  exact record.inode.toNat_lt.trans (by decide)

/-- Only processes with a positive PID hold anything. -/
theorem pos_of_holds {pid : Int} {inode : Nat} (h : m.tree.Holds pid inode) : 0 < pid := by
  obtain ⟨-, -, -, -, ⟨n, -, hn, -, rfl⟩, -⟩ := h
  omega

/-- A row that joins what was found is a row of the machine. -/
theorem row_machine {processes : ProcessService} {ownership : SocketOwnership} {visits : List Visit}
    (hresolves : m.Resolves (PortService.requestedInodes sockets) ownership)
    (hunowned : ∀ socket ∈ sockets, socket.ownerPids = [])
    (hshown : ∀ socket ∈ sockets, ∀ pid ∈ PortService.ownersOf ownership socket,
      shown visits pid = m.record processes pid)
    (honce : (visits.map (·.pid)).Nodup) {socket : SocketInfo} (hsocket : socket ∈ sockets) :
    m.Row processes (PortService.toPortInfo (entries visits) (PortService.withOwners ownership socket)) ∧
      unowned (PortService.toPortInfo (entries visits) (PortService.withOwners ownership socket)) =
        socket := by
  have howned : PortService.withOwners ownership socket =
      { socket with ownerPids := PortService.ownersOf ownership socket } := by
    unfold PortService.withOwners PortService.ownersOf
    cases ownership.lookup socket.inode with
    | none => simp [← hunowned socket hsocket]
    | some owners => rfl
  obtain ⟨hascending, howners⟩ := hresolves socket.inode
  rw [howned]
  refine ⟨⟨hascending, fun pid => ?_, ?_⟩, ?_⟩
  · -- an inode that is not zero was asked for
    have hasked : socket.inode ≠ 0 → socket.inode ∈ PortService.requestedInodes sockets :=
      fun hne => List.mem_filter.mpr ⟨List.mem_map.mpr ⟨socket, hsocket, rfl⟩, by simpa using hne⟩
    show pid ∈ PortService.ownersOf ownership socket ↔ _
    rw [PortService.ownersOf, howners]
    exact and_congr_left fun _ => ⟨fun h => h.1, fun h => ⟨h, hasked h⟩⟩
  · apply List.filterMap_congr
    intro pid hpid
    rw [lookup_entries honce]
    exact hshown socket hsocket pid hpid
  · simp [unowned, PortService.toPortInfo, ← hunowned socket hsocket]

end Rows

/-- **An inspection lists what the machine has**, for providers that tell the truth. -/
theorem inspect_lists {m : Machine} {self : PortService} {query : SocketQuery} {u : Trace Contract}
    {r : Result (Observation (List PortInfo))} (h : (self.inspect query).Run u r)
    (hobserves : ∀ e ∈ u, m.Observes e) :
    ∃ observed, r = .ok observed ∧ m.Lists self.processService_ query observed.value := by
  rcases PortService.inspect_run h with ⟨error, rfl, -⟩ | ⟨sockets, error, rfl, -⟩ |
    ⟨sockets, ownership, order, t, processes, warnings, rfl, howners, rfl⟩
  · -- the query does not fail
    obtain ⟨_, hcontra, -⟩ := hobserves ⟨.querySockets query, .error error⟩ (by simp)
    cases hcontra
  · obtain ⟨_, heq, hwanted, -⟩ := hobserves ⟨.querySockets query, .ok sockets⟩ (by simp)
    obtain rfl := Except.ok.inj heq
    -- nor does the resolver
    obtain ⟨_, hcontra, -⟩ := hobserves ⟨.resolveOwners _, .error error⟩ (by simp)
      (inode_wanted hwanted)
    cases hcontra
  · obtain ⟨values, heq, hwanted, hsorted⟩ := hobserves ⟨.querySockets query, .ok sockets⟩ (by simp)
    obtain rfl := Except.ok.inj heq
    obtain ⟨_, heq, hresolves⟩ := hobserves ⟨.resolveOwners _, .ok ownership⟩ (by simp)
      (inode_wanted hwanted)
    obtain rfl := Except.ok.inj heq
    obtain ⟨visits, hpids, hvisits, rfl, hr⟩ := PortService.inspectOwners_run howners
    obtain ⟨rfl, rfl⟩ := Prod.mk.inj hr
    have honce : (visits.map (·.pid)).Nodup := by
      rw [hpids]
      exact order.property.nodup_iff.mpr (List.nodup_dedup _)
    -- every owner was visited, and the visit has shown what there is
    have hshown : ∀ socket ∈ values, ∀ pid ∈ PortService.ownersOf ownership.value socket,
        shown visits pid = m.record self.processService_ pid := by
      intro socket hsocket pid hpid
      have hvisited : pid ∈ visits.map (·.pid) := by
        rw [hpids, order.property.mem_iff, PortService.resolvedPids, List.mem_dedup]
        exact List.mem_flatMap.mpr ⟨socket, hsocket, hpid⟩
      obtain ⟨visit, hvisit, rfl⟩ := List.mem_map.mp hvisited
      have hpositive : 0 < visit.pid :=
        pos_of_holds (((hresolves socket.inode).2 visit.pid).mp hpid).2
      have houtcome := inspected_run hpositive (hvisits visit hvisit) fun e he =>
        hobserves e (by
          simp only [List.mem_cons, List.mem_flatMap]
          exact .inr (.inr (.inr ⟨visit, hvisit, he⟩)))
      rw [shown_of_mem honce hvisit, Visit.process, houtcome]
      rfl
    have hrows : ∀ socket ∈ values, _ ∧ _ := fun socket hsocket =>
      row_machine hresolves (ownerPids_wanted hwanted) hshown honce hsocket
    -- a list of such rows is in the order of its sockets
    have hlists : ∀ rows : List PortInfo, rows.map unowned = values →
        (∀ row ∈ rows, m.Row self.processService_ row) → m.Lists self.processService_ query rows := by
      intro rows hunowned hrow
      rw [← hunowned] at hwanted hsorted
      have hkeys : rows.Pairwise fun a b => socketKey (unowned a) ≤ socketKey (unowned b) := by
        simpa only [List.pairwise_map] using hsorted
      exact ⟨hwanted, hkeys, hrow⟩
    refine ⟨_, rfl, hlists _ ?_ ?_⟩
    · have hsame : ∀ socket ∈ values, unowned (PortService.toPortInfo (entries visits)
          (PortService.withOwners ownership.value socket)) = id socket :=
        fun socket hsocket => (hrows socket hsocket).2
      rw [List.nil_append, List.map_map, List.map_map]
      exact (List.map_congr_left hsame).trans (List.map_id values)
    · intro row hrow
      rw [List.nil_append, List.map_map] at hrow
      obtain ⟨socket, hsocket, rfl⟩ := List.mem_map.mp hrow
      exact (hrows socket hsocket).1

/-! ## §3 Plans -/

/-- The process holds the socket. -/
def Machine.HeldBy (m : Machine) (socket : SocketInfo) (pid : Int) : Prop :=
  socket.inode ≠ 0 ∧ m.tree.Holds pid socket.inode

/-- The port can be released: it is occupied, every socket on it is held by somebody, and all
holders may be signalled. -/
structure Machine.Releasable (m : Machine) (service : PortService) (localPort : Nat) : Prop where
  port : localPort ≠ 0
  occupied : m.wanted (portQuery localPort) ≠ []
  held : ∀ socket ∈ m.wanted (portQuery localPort), ∃ pid, m.HeldBy socket pid
  signalable : ∀ socket ∈ m.wanted (portQuery localPort), ∀ pid, m.HeldBy socket pid →
    service.processService_.Signalable pid

/-- The plan is about the holders of the port. -/
structure Machine.Plans (m : Machine) (service : PortService) (localPort : Nat)
    (plan : PortReleasePlan) : Prop where
  port : plan.localPort = localPort
  ports : m.Lists service.processService_ (portQuery localPort) plan.ports
  ascending : plan.ownerPids.Pairwise (· < ·)
  owners : ∀ pid, pid ∈ plan.ownerPids ↔
    ∃ socket ∈ m.wanted (portQuery localPort), m.HeldBy socket pid
  unit : ∀ unit, plan.recommendedUnit = some unit ↔ ∀ pid ∈ plan.ownerPids,
    ∃ process, m.record service.processService_ pid = some process ∧ process.systemdUnit = some unit

section Plans

variable {m : Machine} {processes : ProcessService} {query : SocketQuery} {rows : List PortInfo}

/-- What can be said of the rows can be said of the sockets. -/
theorem Machine.Lists.forall_iff (h : m.Lists processes query rows) {P : SocketInfo → Prop} :
    (∀ socket ∈ m.wanted query, P socket) ↔ ∀ row ∈ rows, P (unowned row) := by
  constructor
  · intro hall row hrow
    exact hall _ (h.exact.mem_iff.mp (List.mem_map.mpr ⟨row, hrow, rfl⟩))
  · intro hall socket hsocket
    obtain ⟨row, hrow, rfl⟩ := List.mem_map.mp (h.exact.mem_iff.mpr hsocket)
    exact hall row hrow

theorem Machine.Lists.eq_nil_iff (h : m.Lists processes query rows) :
    m.wanted query = [] ↔ rows = [] := by
  constructor
  · intro hnil
    have hrows := h.exact
    rw [hnil] at hrows
    exact List.map_eq_nil_iff.mp hrows.eq_nil
  · rintro rfl
    exact h.exact.nil_eq.symm

theorem Machine.Row.mem_iff {row : PortInfo} (h : m.Row processes row) (pid : Int) :
    pid ∈ row.socket.ownerPids ↔ m.HeldBy (unowned row) pid := h.owners pid

theorem Machine.Lists.mem_owners (h : m.Lists processes query rows) (pid : Int) :
    pid ∈ PortService.ownerPidsOf rows ↔ ∃ socket ∈ m.wanted query, m.HeldBy socket pid := by
  rw [PortService.mem_ownerPidsOf]
  constructor
  · rintro ⟨row, hrow, hpid⟩
    exact ⟨unowned row, h.exact.mem_iff.mp (List.mem_map.mpr ⟨row, hrow, rfl⟩),
      ((h.row row hrow).mem_iff pid).mp hpid⟩
  · rintro ⟨socket, hsocket, hheld⟩
    obtain ⟨row, hrow, rfl⟩ := List.mem_map.mp (h.exact.mem_iff.mpr hsocket)
    exact ⟨row, hrow, ((h.row row hrow).mem_iff pid).mpr hheld⟩

theorem record_pid {pid : Int} {process : ProcessInfo} (h : m.record processes pid = some process) :
    process.pid = pid := by
  unfold Machine.record Machine.inspected at h
  cases hprocess : m.process pid with
  | error error => simp [hprocess] at h
  | ok observed =>
    have hnamed : observed.value.pid = pid := m.named pid observed hprocess
    cases hservices : processes.serviceService_ with
    | none =>
      simp only [hprocess, hservices, Option.some.injEq] at h
      rw [← h]
      exact hnamed
    | some services =>
      obtain ⟨systemdUnit, hvalue⟩ := ProcessService.attachUnit_value observed (m.unit pid)
      simp only [hprocess, hservices, Option.some.injEq, hvalue] at h
      rw [← h]
      exact hnamed

/-- The search through the rows finds the record of an owner. -/
theorem Machine.Lists.findOwner_eq (h : m.Lists processes query rows) {pid : Int}
    (howner : pid ∈ PortService.ownerPidsOf rows) :
    PortService.findOwner rows pid = m.record processes pid := by
  -- a record with this PID is that of this process
  have hfound : ∀ process, PortService.findOwner rows pid = some process →
      m.record processes pid = some process := by
    intro process hprocess
    obtain ⟨row, hrow, hfind⟩ := List.exists_of_findSome?_eq_some hprocess
    have hmem := List.mem_of_find?_eq_some hfind
    rw [(h.row row hrow).records] at hmem
    obtain ⟨key, -, hrecord⟩ := List.mem_filterMap.mp hmem
    have hpid : process.pid = pid := by simpa using List.find?_some hfind
    rw [← hpid, record_pid hrecord]
    exact hrecord
  cases hrecord : m.record processes pid with
  | none =>
    apply Option.eq_none_iff_forall_not_mem.mpr
    intro process hprocess
    rw [hfound process hprocess] at hrecord
    cases hrecord
  | some process =>
    obtain ⟨row, hrow, hpid⟩ := PortService.mem_ownerPidsOf.mp howner
    have hmem : process ∈ row.owners := by
      rw [(h.row row hrow).records]
      exact List.mem_filterMap.mpr ⟨pid, hpid, hrecord⟩
    have hsome : (PortService.findOwner rows pid).isSome := by
      rw [PortService.findOwner, List.findSome?_isSome_iff]
      refine ⟨row, hrow, ?_⟩
      rw [List.find?_isSome]
      exact ⟨process, hmem, by simpa using record_pid hrecord⟩
    obtain ⟨other, hother⟩ := Option.isSome_iff_exists.mp hsome
    rw [hother, ← hfound other hother, hrecord]

theorem Machine.Lists.held_iff {localPort : Nat}
    (h : m.Lists processes (portQuery localPort) rows) :
    (∀ socket ∈ m.wanted (portQuery localPort), ∃ pid, m.HeldBy socket pid) ↔
      ∀ row ∈ rows, row.socket.ownerPids ≠ [] := by
  rw [h.forall_iff]
  refine forall₂_congr fun row hrow => ?_
  constructor
  · rintro ⟨pid, hheld⟩
    exact List.ne_nil_of_mem (((h.row row hrow).mem_iff pid).mpr hheld)
  · intro hne
    obtain ⟨pid, hpid⟩ := List.exists_mem_of_ne_nil _ hne
    exact ⟨pid, ((h.row row hrow).mem_iff pid).mp hpid⟩

/-- A plan made from the rows of a port is about its holders. -/
theorem plans_rows {self : PortService} {localPort : Nat} {plan : PortReleasePlan}
    (h : m.Lists self.processService_ (portQuery localPort) rows) (hrows : rows ≠ [])
    (hplan : self.planOf localPort rows = .ok plan) : m.Plans self localPort plan := by
  obtain ⟨rfl, howned, -⟩ := PortService.planOf_ok hplan
  refine ⟨rfl, h, PortService.ownerPidsOf_ascending rows, h.mem_owners, fun unit => ?_⟩
  rw [PortService.commonUnitOf_none_iff (PortService.ownerPidsOf_ne_nil hrows howned)]
  refine forall₂_congr fun pid hpid => ?_
  rw [h.findOwner_eq hpid, Option.bind_eq_some_iff]

/-- The rows of a releasable port make a plan, and no others do. -/
theorem planOf_ok_iff {self : PortService} {localPort : Nat} (hport : localPort ≠ 0)
    (h : m.Lists self.processService_ (portQuery localPort) rows) (hrows : rows ≠ []) :
    (∃ plan, self.planOf localPort rows = .ok plan) ↔ m.Releasable self localPort := by
  constructor
  · rintro ⟨plan, hplan⟩
    obtain ⟨-, howned, hsignalable⟩ := PortService.planOf_ok hplan
    exact ⟨hport, fun hnil => hrows (h.eq_nil_iff.mp hnil), h.held_iff.mpr howned,
      fun socket hsocket pid hheld => hsignalable pid ((h.mem_owners pid).mpr ⟨socket, hsocket, hheld⟩)⟩
  · intro hreleasable
    refine PortService.exists_planOf (h.held_iff.mp hreleasable.held) fun pid hpid => ?_
    obtain ⟨socket, hsocket, hheld⟩ := (h.mem_owners pid).mp hpid
    exact hreleasable.signalable socket hsocket pid hheld

end Plans

/-- **A port is prepared for release** exactly if it can be released, for providers that tell
the truth; a free port is reported as such. -/
theorem prepareRelease_plans {m : Machine} {self : PortService} {localPort : Nat}
    {u : Trace Contract} {r : Result (Observation PortReleasePlan)}
    (h : (self.prepareRelease localPort).Run u r) (hobserves : ∀ e ∈ u, m.Observes e) :
    ((∃ observed, r = .ok observed) ↔ m.Releasable self localPort) ∧
    (∀ observed, r = .ok observed → m.Plans self localPort observed.value) ∧
    ((∃ error, r = .error error ∧ error.code = .notFound) ↔
      localPort ≠ 0 ∧ m.wanted (portQuery localPort) = []) := by
  unfold PortService.prepareRelease at h
  by_cases hport : localPort = 0
  · rw [if_pos hport] at h
    obtain ⟨-, rfl⟩ := h
    refine ⟨iff_of_false ?_ fun hreleasable => hreleasable.port hport, ?_,
      iff_of_false ?_ (by simp [hport])⟩
    · rintro ⟨observed, hcontra⟩
      cases hcontra
    · rintro observed ⟨⟩
    · rintro ⟨error, herror, hcode⟩
      obtain rfl := Except.error.inj herror
      cases hcode
  · rw [if_neg hport] at h
    obtain ⟨inspected, t₁, t₂, hinspect, hrest, rfl⟩ := Prog.run_bind_iff.mp h
    obtain ⟨observed, rfl, hlists⟩ := inspect_lists hinspect fun e he =>
      hobserves e (List.mem_append_left _ he)
    have hfree : m.wanted (portQuery localPort) = [] ↔ observed.value = [] := hlists.eq_nil_iff
    change (if observed.value.isEmpty = true then _ else _ : App _).Run t₂ r at hrest
    by_cases hempty : observed.value = []
    · -- nothing listens on the port
      rw [if_pos (List.isEmpty_iff.mpr hempty)] at hrest
      obtain ⟨-, rfl⟩ := hrest
      refine ⟨iff_of_false ?_ fun hreleasable => hreleasable.occupied (hfree.mpr hempty), ?_,
        iff_of_true ⟨_, rfl, rfl⟩ ⟨hport, hfree.mpr hempty⟩⟩
      · rintro ⟨plan, hcontra⟩
        cases hcontra
      · rintro plan ⟨⟩
    · rw [if_neg (by simpa using hempty)] at hrest
      have hiff := planOf_ok_iff hport hlists hempty
      cases hplan : self.planOf localPort observed.value with
      | error error =>
        rw [hplan] at hrest hiff
        obtain ⟨-, rfl⟩ := hrest
        have hcode : error.code ≠ .notFound := PortService.planOf_error hplan
        refine ⟨by simpa using hiff, ?_, iff_of_false ?_ fun h => hempty (hfree.mp h.2)⟩
        · rintro plan ⟨⟩
        · rintro ⟨other, hother, hcontra⟩
          obtain rfl := Except.error.inj hother
          exact hcode hcontra
      | ok plan =>
        rw [hplan] at hrest hiff
        obtain ⟨-, rfl⟩ := hrest
        refine ⟨by simpa using hiff, ?_, iff_of_false ?_ fun h => hempty (hfree.mp h.2)⟩
        · rintro prepared ⟨⟩
          exact plans_rows hlists hempty hplan
        · rintro ⟨error, hcontra, -⟩
          cases hcontra

/-! ## §4 The commands on the machine -/

section Commands

variable (m : Machine) (ports : PortService) (strerror : Int → Bytes)

theorem inspectProcess_responsive {query : SocketQuery} (processes : ProcessService) (pid : Int) :
    Responsive (IsInspection query) (processes.inspect pid) := by
  unfold ProcessService.inspect
  split
  · trivial
  · refine ⟨trivial, fun got => ?_⟩
    cases got with
    | error error => trivial
    | ok observed =>
      cases processes.serviceService_ with
      | none => trivial
      | some services =>
        refine Responsive.bind (p := services.unitByPid pid) ?_ fun _ => trivial
        unfold ServiceService.unitByPid
        split
        · trivial
        · exact responsive_perform trivial

theorem inspectOwners_responsive {query : SocketQuery} (pids : List Int)
    (processes : List (Int × ProcessInfo)) (warnings : List Warning) :
    Responsive (IsInspection query) (ports.inspectOwners pids processes warnings) := by
  induction pids generalizing processes warnings with
  | nil => trivial
  | cons pid rest ih =>
    refine (inspectProcess_responsive ports.processService_ pid).bind fun outcome => ?_
    cases outcome with
    | error error => exact ih _ _
    | ok observed => exact ih _ _

theorem inspect_responsive (query : SocketQuery) :
    Responsive (IsInspection query) (ports.inspect query) := by
  refine ⟨rfl, fun queried => ?_⟩
  cases queried with
  | error error => trivial
  | ok sockets =>
    refine ⟨trivial, fun resolved => ?_⟩
    cases resolved with
    | error error => trivial
    | ok ownership =>
      exact ⟨trivial, fun order => (inspectOwners_responsive ports _ _ _).bind fun _ => trivial⟩

theorem prepareRelease_responsive (localPort : Nat) :
    Responsive (IsInspection (portQuery localPort)) (ports.prepareRelease localPort) := by
  unfold PortService.prepareRelease
  split
  · trivial
  · refine (inspect_responsive ports (portQuery localPort)).bind fun inspected => ?_
    cases inspected with
    | error error => trivial
    | ok observed =>
      show Responsive _ (if observed.value.isEmpty = true then _ else _ : App _)
      split
      · trivial
      · split <;> trivial

/-- Whatever an inspection of the machine asks for, it gets a true answer, and it gets one. -/
theorem runs_machine {α : Type} {p : App α} {query : SocketQuery} {P : α → Prop}
    (hp : Responsive (IsInspection query) p)
    (hP : ∀ u x, p.Run u x → (∀ e ∈ u, m.Observes e) → P x) :
    (∀ datagrams queue log x queue', (machineWorld m).Runs
      (p.interpret (implement strerror datagrams)) queue log x queue' → P x) ∧
    ∃ enough, ∀ datagrams ≥ enough, ∀ queue, ∃ log x queue', (machineWorld m).Runs
      (p.interpret (implement strerror datagrams)) queue log x queue' := by
  constructor
  · intro datagrams queue log x queue' hruns
    obtain ⟨u, hu, hcalls⟩ := runs_interpret hruns
    refine hP u x hu fun e he => ?_
    obtain ⟨_, _, _, hcall⟩ := hcalls e he
    exact backend_observes hcall
  · obtain ⟨enough, hanswers⟩ := backend_answers m strerror query
    exact ⟨enough, fun datagrams hle queue =>
      hp.exists_runs_interpret (fun queue call hcall => hanswers datagrams hle queue call hcall) queue⟩

/-- **`lx port` shows the machine**: every run of an inspection, from its system calls on, ends
with exactly the sockets the query asks for, their holders and what is known of these; and
there is such a run. -/
theorem ports_shown (query : SocketQuery) :
    (∀ datagrams queue log r queue', (machineWorld m).Runs
      ((ports.inspect query).interpret (implement strerror datagrams)) queue log r queue' →
      ∃ observed, r = .ok observed ∧ m.Lists ports.processService_ query observed.value) ∧
    ∃ enough, ∀ datagrams ≥ enough, ∀ queue, ∃ log r queue', (machineWorld m).Runs
      ((ports.inspect query).interpret (implement strerror datagrams)) queue log r queue' :=
  runs_machine m strerror (inspect_responsive ports query) fun _ _ hu => inspect_lists hu

/-- **A release is planned** exactly if it can be carried out, and the plan is about all holders
of the port and nobody else. -/
theorem release_planned (localPort : Nat) :
    (∀ datagrams queue log r queue', (machineWorld m).Runs
      ((ports.prepareRelease localPort).interpret (implement strerror datagrams)) queue log r queue' →
      ((∃ observed, r = .ok observed) ↔ m.Releasable ports localPort) ∧
      (∀ observed, r = .ok observed → m.Plans ports localPort observed.value) ∧
      ((∃ error, r = .error error ∧ error.code = .notFound) ↔
        localPort ≠ 0 ∧ m.wanted (portQuery localPort) = [])) ∧
    ∃ enough, ∀ datagrams ≥ enough, ∀ queue, ∃ log r queue', (machineWorld m).Runs
      ((ports.prepareRelease localPort).interpret (implement strerror datagrams)) queue log r queue' :=
  runs_machine m strerror (prepareRelease_responsive ports localPort) fun _ _ hu =>
    prepareRelease_plans hu

end Commands

/-- A machine with one listener, which a server shares with its worker. -/
def exampleMachine : Machine where
  sockets
    | .tcp => [exampleRecord]
    | .udp => []
  tree := SocketInodeResolver.sharedTree
  process pid := .ok ⟨{ pid }, []⟩
  unit _ := .ok none
  packing request := Packing.separate (by
    intro record hrecord
    have hlength : Fitting (.socket exampleRecord) := by
      simp [Fitting, Body.payload, length_encode_record, headerSize, diagSize, exampleRecord]
    obtain ⟨hrecord, -⟩ := List.mem_filter.mp hrecord
    cases hprotocol : request.protocol with
    | tcp =>
      rw [hprotocol] at hrecord
      obtain rfl := List.mem_singleton.mp hrecord
      exact hlength
    | udp =>
      rw [hprotocol] at hrecord
      cases hrecord)
  state_lt protocol record hrecord := by
    cases protocol with
    | tcp =>
      obtain rfl := List.mem_singleton.mp hrecord
      decide
    | udp => cases hrecord
  mounted := ⟨_, rfl⟩
  named pid observed hprocess := by
    cases hprocess
    rfl

theorem ports_shown_example : ∃ datagrams log observed queue',
    (machineWorld exampleMachine).Runs
      ((sharedPorts.inspect { localPort := some 8080 }).interpret (implement (fun _ => []) datagrams))
      [] log (.ok observed) queue' ∧ observed.value.map unowned = [exampleRecord.toSocketInfo .tcp] := by
  obtain ⟨hshown, enough, hruns⟩ :=
    ports_shown exampleMachine sharedPorts (fun _ => []) { localPort := some 8080 }
  obtain ⟨log, r, queue', hrun⟩ := hruns enough le_rfl []
  obtain ⟨observed, rfl, hlists⟩ := hshown _ _ _ _ _ hrun
  have hwanted : exampleMachine.wanted { localPort := some 8080 } = [exampleRecord.toSocketInfo .tcp] := by
    decide
  rw [← hwanted]
  refine ⟨enough, log, observed, queue', hrun, ?_⟩
  have hexact := hlists.exact
  rw [hwanted] at hexact ⊢
  exact List.perm_singleton.mp hexact

end Lx
