import Lx.Application.DashboardService

/-!
# What the panels of the dashboard show

A history of refreshes determines what every panel has to show: the data of the last
successful fetch of its source, marked stale if the last attempt failed.
`dashboard_panels` says that the dashboard shows exactly that after every refresh of every
run, whatever the sources do and however the refreshes are spaced.

The services are not fetched every time. Their flag is nevertheless never without its
warning: once a fetch has failed, every later refresh tries again (`Reflects.due`).
-/

namespace Lx

open Interaction

namespace DashboardService

/-! ## §1 Histories -/

/-- A refresh: when it took place, and what the sources answered. -/
structure Refresh where
  now : Int
  fetched : Fetched

section History

variable {α β : Type}

/-- The last value `f` finds in a history. -/
def last (f : α → Option β) (history : List α) : Option β := (history.filterMap f).getLast?

@[simp] theorem last_nil (f : α → Option β) : last f [] = none := rfl

@[simp] theorem last_append_singleton (f : α → Option β) (history : List α) (a : α) :
    last f (history ++ [a]) = (f a).or (last f history) := by
  cases h : f a with
  | none => simp [last, List.filterMap_append, h]
  | some b => simp [last, List.filterMap_append, h]

end History

/-- The time and value of a successful fetch of the services. -/
def Refresh.servicesAt (refresh : Refresh) : Option Int :=
  match refresh.fetched.services with
  | some (.ok _) => some refresh.now
  | _ => none

/-- The successful captures of a history. -/
def captures (history : List Refresh) : List MetricsSnapshot :=
  history.filterMap (·.fetched.metrics.toOption)

/-- The view computed at the last successful capture, against the capture before it. -/
def hostAt (history : List Refresh) : HostStatus :=
  match (captures history).getLast? with
  | none => {}
  | some current =>
    (MetricsService.compare ((captures history).dropLast.getLast?.getD current) current).host

/-- A record without the usage attached to it. -/
def withoutCpu (process : ProcessInfo) : ProcessInfo := { process with cpuPercent := none }

/-- The last answer of a source, and its last successful one. -/
def lastAttempt {α : Type} (source : Fetched → Option (Result α)) (history : List Refresh) :
    Option (Result α) :=
  last (fun refresh => source refresh.fetched) history

def lastSuccess {α : Type} (source : Fetched → Option (Result α)) (history : List Refresh) :
    Option α :=
  last (fun refresh => (source refresh.fetched).bind Except.toOption) history

/-! The sources of the panels. -/

def metricsSource (fetched : Fetched) : Option (Result MetricsSnapshot) := some fetched.metrics

def processSource (fetched : Fetched) : Option (Result (Observation (List ProcessInfo))) :=
  some fetched.processes

def portSource (fetched : Fetched) : Option (Result (Observation (List PortInfo))) :=
  some fetched.ports

/-- The services are not asked every time. -/
def serviceSource (fetched : Fetched) : Option (Result (Observation (List ServiceInfo))) :=
  fetched.services

/-! ## §2 What is right -/

/-- A stale flag says that the last attempt failed, and the failure is among the warnings. -/
def Flagged {α : Type} (flag : Bool) (attempt : Option (Result α)) (warnings : List Warning) : Prop :=
  (flag = true ↔ ∃ error, attempt = some (.error error)) ∧
    ∀ error, attempt = some (.error error) →
      ∃ warning ∈ warnings, warning.code = error.code ∧ warning.message = error.message

/-- The panels hold the data of the last successful fetches. -/
structure ShowsData (history : List Refresh) (snapshot : DashboardSnapshot) : Prop where
  host : snapshot.host = hostAt history
  processes : snapshot.processes.map withoutCpu =
    ((lastSuccess processSource history).map (·.value.map withoutCpu)).getD []
  ports : snapshot.ports = ((lastSuccess portSource history).map (·.value)).getD []
  services : snapshot.services = ((lastSuccess serviceSource history).map (·.value)).getD []

/-- A snapshot shows what the history up to its refresh says. -/
structure Shows (history : List Refresh) (snapshot : DashboardSnapshot) : Prop
    extends ShowsData history snapshot where
  hostStale : Flagged snapshot.hostStale (lastAttempt metricsSource history) snapshot.warnings
  processesStale :
    Flagged snapshot.processesStale (lastAttempt processSource history) snapshot.warnings
  portsStale : Flagged snapshot.portsStale (lastAttempt portSource history) snapshot.warnings
  servicesStale :
    Flagged snapshot.servicesStale (lastAttempt serviceSource history) snapshot.warnings

/-- The services are fetched if they never were, or not for three seconds. -/
def ServicesDue (past : List Refresh) (now : Int) : Prop :=
  last Refresh.servicesAt past = none ∨
    ∃ fetchedAt, last Refresh.servicesAt past = some fetchedAt ∧ fetchedAt + serviceInterval ≤ now

/-! ## §3 One refresh -/

/-- The members of the service hold what the history says. -/
structure Reflects (service : DashboardService) (history : List Refresh) : Prop where
  previousMetrics : service.previousMetrics_ = (captures history).getLast?
  servicesRefreshedAt : service.servicesRefreshedAt_ = last Refresh.servicesAt history
  data : ShowsData history (service.previous_.getD {})
  servicesStale : (service.previous_.getD {}).servicesStale = true ↔
    ∃ error, lastAttempt serviceSource history = some (.error error)
  /-- After a failed fetch the services are tried again at every refresh. -/
  due : ∀ error, lastAttempt serviceSource history = some (.error error) →
    ∀ now, (∀ refresh ∈ history, refresh.now ≤ now) → service.refreshServices now = true

section Step

variable {service : DashboardService} {history : List Refresh} {now : Int} {fetched : Fetched}

theorem refreshServices_iff (h : Reflects service history) :
    service.refreshServices now = true ↔ ServicesDue history now := by
  unfold refreshServices ServicesDue
  rw [h.servicesRefreshedAt]
  cases last Refresh.servicesAt history with
  | none => simp
  | some fetchedAt =>
    simp only [decide_eq_true_eq, reduceCtorEq, Option.some.injEq, exists_eq_left', false_or]
    omega

/-- A source that is asked at every refresh is flagged by its own outcome. -/
theorem flagged_of_asked {α : Type} {result : Result α} {warnings : List Warning}
    (hwarning : ∀ error, result = .error error → warningFrom error ∈ warnings) :
    Flagged (failed result) (some result) warnings := by
  constructor
  · cases result with
    | error error => simp [failed]
    | ok value => simp [failed]
  · intro error herror
    exact ⟨warningFrom error, hwarning error (Option.some.inj herror), rfl, rfl⟩

theorem mem_warningsOf {α : Type} {result : Result (Observation α)} {error : Error}
    (h : result = .error error) : warningFrom error ∈ warningsOf result := by
  rw [h]
  exact List.mem_singleton.mpr rfl

theorem lastSuccess_append {α : Type} (source : Fetched → Option (Result α)) (refresh : Refresh) :
    lastSuccess source (history ++ [refresh]) =
      ((source refresh.fetched).bind Except.toOption).or (lastSuccess source history) :=
  last_append_singleton _ _ _

theorem lastAttempt_append {α : Type} (source : Fetched → Option (Result α)) (refresh : Refresh) :
    lastAttempt source (history ++ [refresh]) =
      (source refresh.fetched).or (lastAttempt source history) :=
  last_append_singleton _ _ _

theorem captures_append (refresh : Refresh) :
    captures (history ++ [refresh]) = captures history ++ refresh.fetched.metrics.toOption.toList := by
  unfold captures
  rw [List.filterMap_append]
  cases h : refresh.fetched.metrics <;> simp [h, Except.toOption]

theorem map_withoutCpu_attachCpu (metrics : MetricsView) (processes : List ProcessInfo) :
    (processes.map (attachCpu metrics)).map withoutCpu = processes.map withoutCpu := by
  rw [List.map_map]
  rfl

/-- Every panel takes over what its source delivered and keeps the rest. -/
theorem showsData_snapshot (h : Reflects service history) :
    ShowsData (history ++ [⟨now, fetched⟩]) (service.snapshot fetched) where
  host := by
    rw [snapshot_host, h.previousMetrics, h.data.host]
    unfold hostAt
    rw [captures_append]
    cases fetched.metrics with
    | error error => simp [Except.toOption]
    | ok current => simp [Except.toOption]
  processes := by
    rw [snapshot_processes, lastSuccess_append]
    cases hprocesses : fetched.processes with
    | error error => simpa [processSource, hprocesses, Except.toOption] using h.data.processes
    | ok listed =>
      -- with or without metrics, only the CPU usage differs
      cases service.viewOf fetched.metrics with
      | none => simp [processSource, hprocesses, Except.toOption]
      | some metrics =>
        simp [processSource, hprocesses, Except.toOption, ← map_withoutCpu_attachCpu metrics listed.value]
  ports := by
    rw [snapshot_ports, lastSuccess_append]
    cases hports : fetched.ports with
    | error error => simpa [portSource, hports, Except.toOption] using h.data.ports
    | ok ports => simp [portSource, hports, Except.toOption]
  services := by
    rw [snapshot_services, lastSuccess_append]
    rcases hservices : fetched.services with _ | (error | services)
    · simpa [serviceSource, hservices] using h.data.services
    · simpa [serviceSource, hservices, Except.toOption] using h.data.services
    · simp [serviceSource, hservices, Except.toOption]

/-- **The snapshot of a refresh** shows what the history with this refresh says. -/
theorem shows_snapshot (h : Reflects service history)
    (htimes : ∀ refresh ∈ history, refresh.now ≤ now)
    (hasked : fetched.services.isSome = service.refreshServices now) :
    Shows (history ++ [⟨now, fetched⟩]) (service.snapshot fetched) := by
  obtain ⟨hhost, hprocesses, hports, hservices⟩ := snapshot_stale service fetched
  have hwarnings := snapshot_warnings service fetched
  refine ⟨showsData_snapshot h, ?_, ?_, ?_, ?_⟩
  · rw [hhost, hwarnings, lastAttempt_append]
    change Flagged _ (some fetched.metrics) _
    refine flagged_of_asked fun error herror => ?_
    simp [herror]
  · rw [hprocesses, hwarnings, lastAttempt_append]
    change Flagged _ (some fetched.processes) _
    refine flagged_of_asked fun error herror => ?_
    simp [mem_warningsOf herror]
  · rw [hports, hwarnings, lastAttempt_append]
    change Flagged _ (some fetched.ports) _
    refine flagged_of_asked fun error herror => ?_
    simp [mem_warningsOf herror]
  · rw [hservices, hwarnings, lastAttempt_append]
    cases hfetched : fetched.services with
    | some result =>
      simp only [serviceSource, hfetched, Option.map_some, Option.getD_some, Option.some_or]
      refine flagged_of_asked fun error herror => ?_
      simp [mem_warningsOf herror]
    | none =>
      simp only [serviceSource, hfetched, Option.map_none, Option.getD_none, Option.none_or]
      refine ⟨h.servicesStale, fun error herror => ?_⟩
      -- a failed fetch would have been tried again
      rw [hfetched, h.due error herror now htimes] at hasked
      cases hasked

theorem refreshServices_mono {later : Int} (hlater : now ≤ later)
    (h : service.refreshServices now = true) : service.refreshServices later = true := by
  unfold refreshServices at h ⊢
  cases hrefreshed : service.servicesRefreshedAt_ with
  | none => rfl
  | some refreshedAt =>
    simp only [hrefreshed, decide_eq_true_eq] at h ⊢
    omega

/-- Only a successful fetch of the services changes when they are due. -/
theorem refreshServices_advance {later : Int}
    (h : ∀ services, fetched.services ≠ some (.ok services)) :
    (service.advance now fetched).refreshServices later = service.refreshServices later := by
  unfold refreshServices advance
  rcases hfetched : fetched.services with _ | (error | services)
  · rfl
  · rfl
  · exact absurd hfetched (h services)

/-- The members after a refresh reflect the history with it. -/
theorem reflects_advance (h : Reflects service history)
    (htimes : ∀ refresh ∈ history, refresh.now ≤ now)
    (hasked : fetched.services.isSome = service.refreshServices now) :
    Reflects (service.advance now fetched) (history ++ [⟨now, fetched⟩]) where
  previousMetrics := by
    rw [captures_append]
    unfold advance
    cases fetched.metrics with
    | error error => simpa [Except.toOption] using h.previousMetrics
    | ok current => simp [Except.toOption]
  servicesRefreshedAt := by
    rw [last_append_singleton, ← h.servicesRefreshedAt]
    rcases hfetched : fetched.services with _ | (error | services) <;>
      simp [advance, Refresh.servicesAt, hfetched]
  data := showsData_snapshot h
  servicesStale := (shows_snapshot h htimes hasked).servicesStale.1
  due := by
    intro error herror later hlater
    have hnow : now ≤ later := hlater ⟨now, fetched⟩ (by simp)
    rw [lastAttempt_append] at herror
    cases hfetched : fetched.services with
    -- not asked: due at every later refresh, as before
    | none =>
      simp only [serviceSource, hfetched, Option.none_or] at herror
      rw [refreshServices_advance (by simp [hfetched])]
      exact h.due error herror later fun refresh hrefresh => hlater refresh (by simp [hrefresh])
    -- asked and failed: it was due now, and nothing has changed that
    | some result =>
      simp only [serviceSource, hfetched, Option.some_or, Option.some.injEq] at herror
      rw [refreshServices_advance (by simp [hfetched, herror])]
      refine refreshServices_mono hnow ?_
      rw [← hasked, hfetched, Option.isSome_some]

end Step

/-! ## §4 Runs -/

/-- A call of `refreshAt`: its argument, what it exchanged and what it returned. -/
structure RefreshCall where
  now : Int
  trace : Trace Contract
  snapshot : DashboardSnapshot

/-- Calls one after the other, on the members the call before left. -/
def Refreshes : DashboardService → List RefreshCall → Prop
  | _, [] => True
  | self, call :: rest => ∃ next,
      (self.refreshAt call.now).Run call.trace (call.snapshot, next) ∧ Refreshes next rest

/-- The sources answered like this in a trace. -/
def Answered (processes : ProcessService) (ports : PortService) (call : RefreshCall)
    (fetched : Fetched) : Prop :=
  ∃ tm tp tq ts, call.trace = ⟨.systemNow, fetched.capturedAt⟩ :: (tm ++ tp ++ tq ++ ts) ∧
    MetricsService.capture.Run tm fetched.metrics ∧
    (processes.list {}).Run tp fetched.processes ∧ (ports.inspect {}).Run tq fetched.ports ∧
    ts = fetched.services.toList.map fun services => ⟨.listServices, services⟩

/-- The history some calls leave. -/
def historyOf (calls : List (RefreshCall × Fetched)) : List Refresh :=
  calls.map fun call => ⟨call.1.now, call.2⟩

/-- Along a run the members reflect the history, and every snapshot shows it. -/
theorem refreshes_run {service : DashboardService} {history : List Refresh} {calls : List RefreshCall}
    (h : Refreshes service calls) (hreflects : Reflects service history)
    (hsorted : (calls.map (·.now)).Pairwise (· ≤ ·))
    (htimes : ∀ refresh ∈ history, ∀ call ∈ calls, refresh.now ≤ call.now) :
    ∃ fetches, List.Forall₂ (Answered service.processes_ service.ports_) calls fetches ∧
      ∀ past call rest, calls.zip fetches = past ++ call :: rest →
        Shows (history ++ historyOf past ++ [⟨call.1.now, call.2⟩]) call.1.snapshot ∧
        (call.2.services.isSome ↔ ServicesDue (history ++ historyOf past) call.1.now) := by
  induction calls generalizing service history with
  | nil => exact ⟨[], .nil, by simp⟩
  | cons call calls ih =>
    obtain ⟨next, hrun, hrest⟩ := h
    obtain ⟨fetched, tm, tp, tq, ts, hasked, hsnapshot, rfl⟩ := refreshAt_run hrun
    have hservices : fetched.services.isSome = service.refreshServices call.now := by
      rcases hasked.services with ⟨hnone, -, hnot⟩ | ⟨services, hsome, -, hdue⟩
      · rw [hnone, hnot, Option.isSome_none]
      · rw [hsome, hdue, Option.isSome_some]
    have hpast := fun refresh hrefresh => htimes refresh hrefresh call (List.mem_cons_self ..)
    rw [List.map_cons, List.pairwise_cons] at hsorted
    -- the calls that follow see the history with this refresh
    have hlater : ∀ refresh ∈ history ++ [⟨call.now, fetched⟩], ∀ later ∈ calls,
        refresh.now ≤ later.now := by
      intro refresh hrefresh later hmem
      rcases List.mem_append.mp hrefresh with hrefresh | hrefresh
      · exact htimes refresh hrefresh later (List.mem_cons_of_mem _ hmem)
      · rw [List.mem_singleton.mp hrefresh]
        exact hsorted.1 later.now (List.mem_map_of_mem hmem)
    obtain ⟨fetches, hanswered, hshows⟩ :=
      ih hrest (reflects_advance hreflects hpast hservices) hsorted.2 hlater
    refine ⟨fetched :: fetches, .cons ⟨tm, tp, tq, ts, hasked.trace, hasked.metrics, hasked.processes,
      hasked.ports, ?_⟩ hanswered, ?_⟩
    · rcases hasked.services with ⟨hnone, rfl, -⟩ | ⟨services, hsome, rfl, -⟩
      · simp [hnone]
      · simp [hsome]
    · intro past current rest heq
      cases past with
      | nil =>
        obtain ⟨rfl, -⟩ := List.cons.inj heq
        have hshown := shows_snapshot hreflects hpast hservices
        rw [← hsnapshot] at hshown
        refine ⟨by simpa [historyOf] using hshown, ?_⟩
        rw [hservices, refreshServices_iff hreflects]
        simp [historyOf]
      | cons first past =>
        obtain ⟨rfl, hrest⟩ := List.cons.inj heq
        have htail := hshows past current rest hrest
        simpa [historyOf] using htail

theorem reflects_fresh (processes : ProcessService) (ports : PortService) :
    Reflects (fresh processes ports) [] where
  previousMetrics := rfl
  servicesRefreshedAt := rfl
  data := ⟨rfl, rfl, rfl, rfl⟩
  servicesStale := by simp [fresh, lastAttempt]
  due := by simp [lastAttempt]

/-- **The panels of the dashboard.** In every run with non-decreasing times, whatever the
    sources answer, every snapshot shows the data of the last successful fetch of each
    source, flags exactly the sources whose last attempt failed, with a warning for each, and
    the services are fetched when they never were or not for three seconds. -/
theorem dashboard_panels {processes : ProcessService} {ports : PortService}
    {calls : List RefreshCall} (h : Refreshes (fresh processes ports) calls)
    (htimes : (calls.map (·.now)).Pairwise (· ≤ ·)) :
    ∃ fetches, List.Forall₂ (Answered processes ports) calls fetches ∧
      ∀ past call rest, calls.zip fetches = past ++ call :: rest →
        Shows (historyOf past ++ [⟨call.1.now, call.2⟩]) call.1.snapshot ∧
        (call.2.services.isSome ↔ ServicesDue (historyOf past) call.1.now) := by
  have hrun := refreshes_run h (reflects_fresh processes ports) htimes (by simp)
  simpa only [List.nil_append, fresh] using hrun

/-! Four refreshes around the three seconds: every source fails at some point and answers at
another one. -/

def unreachable : Error := ⟨.unavailable, "unavailable", 0, "example", "fetch"⟩

def shell : ProcessInfo := { pid := 42, name := "sh" }

def server : ProcessInfo := { pid := 43, name := "server" }

def listener : SocketInfo := { localEnd := ⟨"0.0.0.0", 8080⟩ }

def ssh : ServiceInfo := { unitName := "ssh.service", activeState := "active" }

/-- A capture of the counters in which no process is sampled. -/
def counters (total idle : Nat) : MetricsSnapshot := ⟨{ cpu := ⟨total, idle⟩, hostname := "host" }, []⟩

def firstFetch : Fetched :=
  ⟨1, .error unreachable, .ok ⟨[shell], []⟩, .error unreachable, some (.ok ⟨[ssh], []⟩)⟩

def secondFetch : Fetched :=
  ⟨2, .ok (counters 100 80), .error unreachable, .ok ⟨[⟨listener, []⟩], []⟩, none⟩

def thirdFetch : Fetched :=
  ⟨3, .error unreachable, .ok ⟨[shell, server], []⟩, .error unreachable, some (.error unreachable)⟩

def fourthFetch : Fetched :=
  ⟨4, .ok (counters 300 180), .ok ⟨[server], []⟩, .ok ⟨[], []⟩, some (.ok ⟨[], []⟩)⟩

def examplePorts : PortService := ⟨⟨900, none⟩, none, 2000⟩

def exampleDashboard : DashboardService := fresh ⟨900, none⟩ examplePorts

/-- The second refresh comes a nanosecond before the services are due again, and the fourth a
    nanosecond after the fetch that failed. -/
def exampleCalls : List RefreshCall :=
  let second := exampleDashboard.advance 0 firstFetch
  let third := second.advance 2999999999 secondFetch
  let fourth := third.advance 3000000000 thirdFetch
  [⟨0, [⟨.systemNow, (1 : Int)⟩, ⟨.sampleSystem, .error unreachable⟩,
      ⟨.listProcesses, .ok ⟨[shell], []⟩⟩, ⟨.querySockets {}, .error unreachable⟩,
      ⟨.listServices, .ok ⟨[ssh], []⟩⟩],
    exampleDashboard.snapshot firstFetch⟩,
   ⟨2999999999, [⟨.systemNow, (2 : Int)⟩, ⟨.sampleSystem, .ok (counters 100 80).system⟩,
      ⟨.sampleProcesses, .ok []⟩, ⟨.listProcesses, .error unreachable⟩,
      ⟨.querySockets {}, .ok ⟨[listener], []⟩⟩, ⟨.resolveOwners [], .ok ⟨[], []⟩⟩,
      ⟨.hashOrder [], ⟨[], .nil⟩⟩],
    second.snapshot secondFetch⟩,
   ⟨3000000000, [⟨.systemNow, (3 : Int)⟩, ⟨.sampleSystem, .error unreachable⟩,
      ⟨.listProcesses, .ok ⟨[shell, server], []⟩⟩, ⟨.querySockets {}, .error unreachable⟩,
      ⟨.listServices, .error unreachable⟩],
    third.snapshot thirdFetch⟩,
   ⟨3000000001, [⟨.systemNow, (4 : Int)⟩, ⟨.sampleSystem, .ok (counters 300 180).system⟩,
      ⟨.sampleProcesses, .ok []⟩, ⟨.listProcesses, .ok ⟨[server], []⟩⟩,
      ⟨.querySockets {}, .ok ⟨[], []⟩⟩, ⟨.resolveOwners [], .ok ⟨[], []⟩⟩,
      ⟨.hashOrder [], ⟨[], .nil⟩⟩, ⟨.listServices, .ok ⟨[], []⟩⟩],
    fourth.snapshot fourthFetch⟩]

theorem exampleCalls_run : Refreshes exampleDashboard exampleCalls :=
  ⟨_, ⟨_, _, rfl, _, _, rfl, _, _, rfl, _, _, rfl, _, _, rfl, rfl, rfl⟩,
   _, ⟨_, _, rfl, _, _, rfl, _, _, rfl, _, _, rfl, _, _, rfl, _, _, rfl, _, _, rfl, rfl, rfl⟩,
   _, ⟨_, _, rfl, _, _, rfl, _, _, rfl, _, _, rfl, _, _, rfl, rfl, rfl⟩,
   _, ⟨_, _, rfl, _, _, rfl, _, _, rfl, _, _, rfl, _, _, rfl, _, _, rfl, _, _, rfl, _, _, rfl, rfl, rfl⟩,
   trivial⟩

/-- Every panel keeps what it had while its source fails, and the services also while they
    are not asked for. -/
theorem dashboard_panels_outage : Refreshes exampleDashboard exampleCalls ∧
    exampleCalls.map (·.snapshot.host.hostname) = ["", "host", "host", "host"] ∧
    exampleCalls.map (·.snapshot.hostStale) = [true, false, true, false] ∧
    exampleCalls.map (·.snapshot.processes) = [[shell], [shell], [shell, server], [server]] ∧
    exampleCalls.map (·.snapshot.processesStale) = [false, true, false, false] ∧
    exampleCalls.map (·.snapshot.ports) = [[], [⟨listener, []⟩], [⟨listener, []⟩], []] ∧
    exampleCalls.map (·.snapshot.portsStale) = [true, false, true, false] ∧
    exampleCalls.map (·.snapshot.services) = [[ssh], [ssh], [ssh], []] ∧
    exampleCalls.map (·.snapshot.servicesStale) = [false, false, true, false] ∧
    ∃ fetches, List.Forall₂ (Answered ⟨900, none⟩ examplePorts) exampleCalls fetches ∧
      ∀ past call rest, exampleCalls.zip fetches = past ++ call :: rest →
        Shows (historyOf past ++ [⟨call.1.now, call.2⟩]) call.1.snapshot ∧
        (call.2.services.isSome ↔ ServicesDue (historyOf past) call.1.now) := by
  refine ⟨exampleCalls_run, rfl, rfl, rfl, rfl, rfl, rfl, rfl, rfl, ?_⟩
  exact dashboard_panels exampleCalls_run (by decide)

end DashboardService

end Lx
