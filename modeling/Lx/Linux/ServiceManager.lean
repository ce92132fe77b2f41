import Lx.Lib.Simulation
import Lx.Linux.SystemdServiceProvider
import Mathlib.Data.List.TakeWhile

/-!
# A manager whose units change while they are listed

The system manager behind the bus: the units it has loaded, the states of the unit files and
the jobs it was given. All of this but the jobs changes as it likes between any two calls of
the provider; a reply that was received does not.

## Layers

- `manager`: the world, with the documented behaviour of the methods and of the cursor over a
  reply (§1).
- The reader of a `ListUnits` reply accepts what is such a reply, and nothing else (§2).
- What the provider returns was true at some moment of the call (§3), and an action that is
  reported as done has left one job behind, one that failed at most one (§4).
-/

namespace Lx.Systemd

open Interaction World

/-! ## §1 The world -/

/-- Object paths have no null bytes. -/
abbrev ObjectPath := { path : Bytes // 0 ∉ path }

structure ManagedUnit where
  name : Bytes
  description : Bytes := []
  loadState : Bytes := []
  activeState : Bytes := []
  subState : Bytes := []
  following : Bytes := []
  jobId : Nat := 0
  jobType : Bytes := []
  jobPath : Bytes := []
  mainPid : Fin (2 ^ 32) := 0
  activeEnterTimestamp : Fin (2 ^ 64) := 0
  /-- The processes in the control group of the unit. -/
  pids : List Nat := []
  clean : 0 ∉ name

/-- The name of a service: it ends in `.service`, with something in front. -/
def NamesService (name : Bytes) : Prop := ∃ stem, stem ≠ [] ∧ name = stem ++ Bytes.ofString ".service"

theorem isService_iff {name : Bytes} : isService name = true ↔ NamesService name := by
  rw [isService, Bool.and_eq_true, decide_eq_true_iff, List.isSuffixOf_iff_suffix]
  constructor
  · rintro ⟨hlonger, stem, rfl⟩
    refine ⟨stem, ?_, rfl⟩
    rintro rfl
    exact absurd hlonger (Nat.lt_irrefl _)
  · rintro ⟨stem, hstem, rfl⟩
    refine ⟨?_, stem, rfl⟩
    have hpositive := List.length_pos_of_ne_nil hstem
    rw [List.length_append, ServiceService.suffix]
    omega

instance (name : Bytes) : Decidable (NamesService name) := decidable_of_iff _ isService_iff

/-- What `ListUnits` tells of a unit, if it is a service. -/
def ManagedUnit.service (unit : ManagedUnit) : Option ServiceInfo :=
  -- the state of the unit file and the main process are asked for separately
  if NamesService unit.name then
    some
      { unitName := unit.name
        description := unit.description
        loadState := unit.loadState
        activeState := unit.activeState
        subState := unit.subState }
  else none

/-- An action the manager accepted, with the arguments it came with. -/
structure Job where
  action : ServiceAction
  unit : Bytes
  mode : Bytes
  deriving DecidableEq, Repr

structure ManagerState where
  units : List ManagedUnit
  /-- Unit files and their states. -/
  files : List (Bytes × Bytes)
  jobs : List Job
  /-- The reply that is read. -/
  reply : DBus.Cursor

/-- The units and the unit files change. -/
structure ManagerMove where
  units : List ManagedUnit
  files : List (Bytes × Bytes)

section

variable (pathOf : Bytes → ObjectPath)

def ManagedUnit.value (unit : ManagedUnit) : DBus.Value :=
  .struct [.string unit.name, .string unit.description, .string unit.loadState,
    .string unit.activeState, .string unit.subState, .string unit.following,
    -- the rest is not used by the parser, but has to be there
    .objectPath (pathOf unit.name).val, .uint32 unit.jobId, .string unit.jobType,
    .objectPath unit.jobPath]

/-- The type of a `ListUnits` record. -/
def recordType : DBus.Sig := .openStruct :: (unitTypes ++ [.closeStruct])

/-- The body of the reply to a method, and the jobs that come of it. An action is accepted with
    one job; what the reply to it has in its body is not relied on. -/
def ManagerState.Replies (w : ManagerState) :
    Method → List DBus.Value → List Job → Prop
  | .listUnits, body, jobs => body = [.array recordType (w.units.map (·.value pathOf))] ∧ jobs = []
  | .getUnit name, body, jobs => (∃ unit ∈ w.units, unit.name = name) ∧
      body = [.objectPath (pathOf name).val] ∧ jobs = []
  | .getUnitFileState name, body, jobs => ∃ state, (name, state) ∈ w.files ∧
      body = [.string state] ∧ jobs = []
  -- which unit a process is in is decided by its control group
  | .getUnitByPid pid, body, jobs => ∃ unit ∈ w.units, pid ∈ unit.pids ∧
      body = [.objectPath (pathOf unit.name).val] ∧ jobs = []
  | .control action unit mode, body, jobs => (∀ value ∈ body, DBus.WellFormed value) ∧
      jobs = [⟨action, unit, mode⟩]

def ManagedUnit.text (unit : ManagedUnit) : TextProperty → Bytes
  | .id => unit.name
  | .description => unit.description
  | .loadState => unit.loadState
  | .activeState => unit.activeState
  | .subState => unit.subState

/-- The unit at an object path. -/
def ManagerState.At (w : ManagerState) (path : Bytes) (unit : ManagedUnit) : Prop :=
  unit ∈ w.units ∧ (pathOf unit.name).val = path

/-- What the calls do and answer. A call over the bus may fail at any time, before the manager
    has received it or, when the reply is late or lost, after the manager has carried it out;
    reading a reply fails exactly if the reply is another one. -/
def ManagerState.Answers (w : ManagerState) (c : BusCall) (x : c.Answer) (w' : ManagerState) :
    Prop :=
  match c, x with
  | .callMethod method, .ok stored => stored = true ∧ ∃ body jobs, w.Replies pathOf method body jobs ∧
      w' = { w with jobs := w.jobs ++ jobs, reply := DBus.start body }
  -- lost before or after it was carried out: the caller cannot tell
  | .callMethod method, .error _ => ∃ jobs, (jobs = [] ∨ ∃ body, w.Replies pathOf method body jobs) ∧
      w' = { w with jobs := w.jobs ++ jobs }
  | .getText path property, .ok value => w' = w ∧ ∃ unit, w.At pathOf path unit ∧
      value = some (unit.text property)
  | .getMainPid path, .ok value => w' = w ∧ ∃ unit, w.At pathOf path unit ∧ value = unit.mainPid
  | .getActiveEnterTimestamp path, .ok value => w' = w ∧ ∃ unit, w.At pathOf path unit ∧
      value = unit.activeEnterTimestamp
  -- `1` means entered, `0` that the container the cursor is in has ended
  | .enterContainer container contents, .ok entered => ∃ reply,
      DBus.enter container contents w.reply = some (entered, reply) ∧ w' = { w with reply := reply }
  | .enterContainer container contents, .error _ =>
      DBus.enter container contents w.reply = none ∧ w' = w
  | .read types, .ok stored => ∃ reply,
      DBus.read types w.reply = some (stored.map Subtype.val, reply) ∧ w' = { w with reply := reply }
  | .read types, .error _ => DBus.read types w.reply = none ∧ w' = w
  | .exitContainer, .ok () => ∃ reply,
      DBus.exit w.reply = some reply ∧ w' = { w with reply := reply }
  | .exitContainer, .error _ => DBus.exit w.reply = none ∧ w' = w
  -- opening the bus, asking for its version and the contracts of other providers
  | _, _ => w' = w

abbrev manager : World SdBus where
  State := ManagerState
  Move := ManagerMove
  -- units come and go, but jobs are only queued by calls
  move w m w' := w' = { w with units := m.units, files := m.files }
  answer w c x w' := w.Answers pathOf c x w'

end

section

variable {pathOf : Bytes → ObjectPath} {w w' : ManagerState} {log : (manager pathOf).Log}

/-! ## §2 Reading a reply -/

/-- The manager does not change a reply, and queues no jobs on its own. -/
theorem idle_kept (h : (manager pathOf).Idle w log w') : w'.reply = w.reply ∧ w'.jobs = w.jobs := by
  -- the invariant is that both are what they were; no move touches them
  refine h.invariant (P := fun v : ManagerState => v.reply = w.reply ∧ v.jobs = w.jobs) ?_ ⟨rfl, rfl⟩
  rintro v m v' rfl hv
  exact hv

/-- One call, as the reply and the jobs see it. -/
theorem bus_runs {c : BusCall} {x : c.Answer} (h : (manager pathOf).Runs (bus c) w log x w') :
    ∃ v v' : ManagerState, v.Answers pathOf c x v' ∧ v.reply = w.reply ∧ v.jobs = w.jobs ∧
      w'.reply = v'.reply ∧ w'.jobs = v'.jobs := by
  -- nothing happens to the reply before the call or after it
  obtain ⟨l₁, l₂, v, v', -, h₁, hanswer, h₂⟩ := runs_perform_iff.mp h
  exact ⟨v, v', hanswer, (idle_kept h₁).1, (idle_kept h₁).2, (idle_kept h₂).1, (idle_kept h₂).2⟩

theorem enter_runs {container : DBus.Container} {contents : DBus.Sig} {x : Except Errno Bool}
    (entered : Bool) (reply : DBus.Cursor)
    (h : (manager pathOf).Runs (bus (.enterContainer container contents)) w log x w')
    (henter : DBus.enter container contents w.reply = some (entered, reply)) :
    x = .ok entered ∧ w'.reply = reply := by
  obtain ⟨v, v', hanswer, hreply, -, hreply', -⟩ := bus_runs h
  rw [← hreply] at henter
  rw [hreply']
  cases x with
  | error number =>
    -- entering is decided by the reply, so a failure contradicts it
    obtain ⟨hnone, -⟩ := hanswer
    rw [henter] at hnone
    cases hnone
  | ok y =>
    obtain ⟨reply', henter', rfl⟩ := hanswer
    rw [henter] at henter'
    obtain ⟨rfl, rfl⟩ := Prod.mk.inj (Option.some.inj henter')
    exact ⟨rfl, rfl⟩

theorem enter_fails {container : DBus.Container} {contents : DBus.Sig} {x : Except Errno Bool}
    (h : (manager pathOf).Runs (bus (.enterContainer container contents)) w log x w')
    (henter : DBus.enter container contents w.reply = none) :
    ∃ number, x = .error number := by
  obtain ⟨v, v', hanswer, hreply, -⟩ := bus_runs h
  rw [← hreply] at henter
  cases x with
  | error number => exact ⟨number, rfl⟩
  | ok y =>
    obtain ⟨reply', henter', -⟩ := hanswer
    rw [henter] at henter'
    cases henter'

theorem read_runs {types : DBus.Sig}
    {x : Except Errno (Option { values : List DBus.Value // DBus.signatures values = types })}
    {values : Option (List DBus.Value)} {reply : DBus.Cursor}
    (h : (manager pathOf).Runs (bus (.read types)) w log x w')
    (hread : DBus.read types w.reply = some (values, reply)) :
    ∃ stored, x = .ok stored ∧ stored.map Subtype.val = values ∧ w'.reply = reply := by
  obtain ⟨v, v', hanswer, hreply, -, hreply', -⟩ := bus_runs h
  rw [← hreply] at hread
  rw [hreply']
  cases x with
  | error number =>
    obtain ⟨hnone, -⟩ := hanswer
    rw [hread] at hnone
    cases hnone
  | ok stored =>
    -- the fields are those at the cursor, whatever types the caller stores them in
    obtain ⟨reply', hread', rfl⟩ := hanswer
    rw [hread] at hread'
    obtain ⟨rfl, rfl⟩ := Prod.mk.inj (Option.some.inj hread')
    exact ⟨stored, rfl, rfl, rfl⟩

theorem exit_runs {x : Except Errno Unit} (reply : DBus.Cursor)
    (h : (manager pathOf).Runs (bus .exitContainer) w log x w')
    (hexit : DBus.exit w.reply = some reply) :
    x = .ok () ∧ w'.reply = reply := by
  obtain ⟨v, v', hanswer, hreply, -, hreply', -⟩ := bus_runs h
  rw [← hreply] at hexit
  rw [hreply']
  cases x with
  | error number =>
    obtain ⟨hnone, -⟩ := hanswer
    rw [hexit] at hnone
    cases hnone
  | ok y =>
    obtain ⟨reply', hexit', rfl⟩ := hanswer
    rw [hexit] at hexit'
    obtain rfl := Option.some.inj hexit'
    exact ⟨rfl, rfl⟩

theorem unitTypes_basic : ∀ code ∈ unitTypes, code.Basic := by
  simp [unitTypes, DBus.TypeCode.Basic]

/-- The service a record of a reply tells of: name, description and states come first. -/
def serviceOf : DBus.Value → Option ServiceInfo
  | .struct (.string name :: .string description :: .string loadState :: .string activeState ::
      .string subState :: _) =>
    if NamesService name then
      some
        { unitName := name
          description := description
          loadState := loadState
          activeState := activeState
          subState := subState }
    else none
  | _ => none

/-- What a `ListUnits` reply says. -/
def parsedUnits : List DBus.Value → Result (List ServiceInfo)
  | .array contents items :: _ =>
    if contents = recordType then .ok (items.filterMap serviceOf)
    else parseFailure "ListUnits response is not an array of units"
  | _ => parseFailure "ListUnits response is not an array of units"

/-- A value with the type of a record is one. -/
theorem record_of_signature {item : DBus.Value} (h : item.signature = recordType) :
    ∃ fields, item = .struct fields ∧ DBus.signatures fields = unitTypes := by
  -- the other constructors start with another type code
  cases item with
  | struct fields =>
    refine ⟨fields, rfl, ?_⟩
    have hinner : DBus.signatures fields ++ [.closeStruct] = unitTypes ++ [.closeStruct] :=
      (List.cons.inj h).2
    exact List.append_cancel_right hinner
  | _ => simp [DBus.Value.signature, recordType] at h

/-- A list of fields that starts with a text. -/
theorem string_first {fields : List DBus.Value} {types : DBus.Sig}
    (h : DBus.signatures fields = .string :: types) :
    ∃ text rest, fields = .string text :: rest ∧ DBus.signatures rest = types := by
  obtain ⟨value, rest, rfl, hvalue, hrest⟩ := DBus.signatures_cons (.inl rfl) h
  cases value with
  | string text => exact ⟨text, rest, rfl, hrest⟩
  | _ => simp [DBus.Value.signature] at hvalue

/-- The parser takes the service from a record. -/
theorem serviceFromUnitRecord_eq {fields : List DBus.Value}
    (h : DBus.signatures fields = unitTypes) :
    serviceFromUnitRecord ⟨textAt fields 0, textAt fields 1, textAt fields 2, textAt fields 3,
      textAt fields 4⟩ = serviceOf (.struct fields) := by
  -- five texts, and then fields that are not looked at
  obtain ⟨name, fields, rfl, h₁⟩ := string_first h
  obtain ⟨description, fields, rfl, h₂⟩ := string_first h₁
  obtain ⟨loadState, fields, rfl, h₃⟩ := string_first h₂
  obtain ⟨activeState, fields, rfl, h₄⟩ := string_first h₃
  obtain ⟨subState, fields, rfl, -⟩ := string_first h₄
  simp only [serviceOf, serviceFromUnitRecord, isService_iff]
  rfl

/-- One round of the loop: it takes the next record, and ends where there is none. -/
theorem parseUnit_runs {services : List ServiceInfo} {items : List DBus.Value} {frame : DBus.Frame}
    {frames : DBus.Cursor} {out : Result (List ServiceInfo) ⊕ List ServiceInfo}
    (hreply : w.reply = ⟨.array, items⟩ :: frame :: frames)
    (hitems : ∀ item ∈ items, item.signature = recordType)
    (h : (manager pathOf).Runs (parseUnit services) w log out w') :
    -- at the end the array is left, otherwise one record is consumed
    (items = [] ∧ out = .inl (.ok services)) ∨
      ∃ item rest, items = item :: rest ∧ out = .inr (services ++ (serviceOf item).toList) ∧
        w'.reply = ⟨.array, rest⟩ :: frame :: frames := by
  obtain ⟨entered, l₁, l₂, v, -, henter, hrest⟩ := runs_bind_iff.mp h
  cases items with
  | nil =>
    left
    -- there is nothing to enter, so `0` is returned and the array is left
    obtain ⟨rfl, hv⟩ := enter_runs false _ henter (by rw [hreply]; rfl)
    obtain ⟨left, l₃, l₄, v₁, -, hexit, hreturn⟩ := runs_bind_iff.mp hrest
    obtain ⟨rfl, -⟩ := exit_runs (frame :: frames) hexit (by rw [hv]; rfl)
    obtain ⟨rfl, -⟩ := runs_ret_iff.mp hreturn
    exact ⟨rfl, rfl⟩
  | cons item rest =>
    right
    -- into the record, its ten fields, and out again
    obtain ⟨fields, rfl, hfields⟩ := record_of_signature (hitems item (by simp))
    obtain ⟨rfl, hv⟩ := enter_runs true
      (⟨.struct, fields⟩ :: ⟨.array, rest⟩ :: frame :: frames) henter
      (by simp [hreply, DBus.enter, DBus.atEnd, DBus.contentsOf, hfields])
    obtain ⟨stored, l₃, l₄, v₁, -, hread, hrest⟩ := runs_bind_iff.mp hrest
    obtain ⟨stored, rfl, hstored, hv₁⟩ := read_runs hread
      (by rw [hv]; exact DBus.read_fields unitTypes_basic hfields)
    obtain ⟨⟨values, hvalues⟩, rfl, rfl⟩ := Option.map_eq_some_iff.mp hstored
    obtain ⟨left, l₅, l₆, v₂, -, hexit, hreturn⟩ := runs_bind_iff.mp hrest
    obtain ⟨rfl, hv₂⟩ := exit_runs _ hexit (by rw [hv₁]; rfl)
    obtain ⟨rfl, hidle⟩ := runs_ret_iff.mp hreturn
    refine ⟨_, rest, rfl, ?_, by rw [(idle_kept hidle).1, hv₂]⟩
    -- the parser and the specification name the same service
    rw [← serviceFromUnitRecord_eq hfields]
    rfl

/-- The loop collects the services of the records that are left. -/
theorem parseUnits_runs {rounds : Nat} {services : List ServiceInfo} {items : List DBus.Value}
    {frame : DBus.Frame} {frames : DBus.Cursor} {r : Result (List ServiceInfo)}
    (hreply : w.reply = ⟨.array, items⟩ :: frame :: frames)
    (hitems : ∀ item ∈ items, item.signature = recordType)
    (h : (manager pathOf).Runs (loop parseUnit rounds services) w log r w') :
    r = .ok (services ++ items.filterMap serviceOf) := by
  -- the induction is on the rounds: each has one record less to read
  induction rounds generalizing w log services items with
  | zero => exact (runs_block h).elim
  | succ rounds ih =>
    obtain ⟨out, l₁, l₂, v, -, hround, hrest⟩ := runs_bind_iff.mp h
    rcases parseUnit_runs hreply hitems hround with ⟨rfl, rfl⟩ | ⟨item, rest, rfl, rfl, hv⟩
    · obtain ⟨rfl, -⟩ := runs_ret_iff.mp hrest
      simp
    · rw [ih hv (fun item hmem => hitems item (by simp [hmem])) hrest]
      cases hservice : serviceOf item <;> simp [hservice]

/-- Entering the array succeeds exactly on such a reply. -/
theorem parseListUnitsMessage_runs {rounds : Nat} {body : List DBus.Value}
    {r : Result (List ServiceInfo)} (hreply : w.reply = DBus.start body)
    (hbody : ∀ value ∈ body, DBus.WellFormed value)
    (h : (manager pathOf).Runs (parseListUnitsMessage rounds true) w log r w') :
    r = parsedUnits body := by
  obtain ⟨entered, l₁, l₂, v, -, henter, hrest⟩ := runs_bind_iff.mp h
  -- with any other body the very first call fails, and the message says so
  have hfails : DBus.enter .array recordType w.reply = none →
      r = parseFailure "ListUnits response is not an array of units" := by
    intro hnone
    obtain ⟨number, rfl⟩ := enter_fails henter hnone
    obtain ⟨rfl, -⟩ := runs_ret_iff.mp hrest
    rfl
  cases body with
  | nil => exact hfails (by rw [hreply]; rfl)
  | cons value body =>
    cases value with
    | array contents items =>
      by_cases hcontents : contents = recordType
      · subst hcontents
        -- every item of an array has the array's type, since the reply is well-formed
        cases hbody (.array recordType items) (by simp) with
        | array hitems =>
          obtain ⟨rfl, hv⟩ := enter_runs true [⟨.array, items⟩, ⟨.struct, body⟩] henter
            (by simp [hreply, DBus.start, DBus.enter, DBus.atEnd, DBus.contentsOf, recordType])
          rw [parseUnits_runs hv hitems hrest, parsedUnits, if_pos rfl, List.nil_append]
      · rw [parsedUnits, if_neg hcontents]
        exact hfails (by
          simp [hreply, DBus.start, DBus.enter, DBus.atEnd, DBus.contentsOf, hcontents])
    | _ => exact hfails (by rw [hreply]; rfl)

/-- A call that is answered at once. -/
theorem bus_step {α : Type} {c : BusCall} {x : c.Answer} {f : c.Answer → Prog SdBus α} {r : α}
    {v : ManagerState} (hanswer : w.Answers pathOf c x v)
    (hrest : (manager pathOf).Runs (f x) v log r w') :
    (manager pathOf).Runs (bus c >>= f) w (.inr ⟨c, x⟩ :: log) r w' :=
  runs_bind_iff.mpr ⟨x, [.inr ⟨c, x⟩], log, v, rfl,
    runs_perform_iff.mpr ⟨[], [], w, v, rfl, idle_nil, hanswer, idle_nil⟩, hrest⟩

theorem ret_runs {α : Type} {r : α} : (manager pathOf).Runs (pure r) w [] r w :=
  runs_ret_iff.mpr ⟨rfl, idle_nil⟩

/-- A round for every record, and one for the end. -/
theorem parseUnits_exists {rounds : Nat} (services : List ServiceInfo) {items : List DBus.Value}
    {frame : DBus.Frame} {frames : DBus.Cursor}
    (hreply : w.reply = ⟨.array, items⟩ :: frame :: frames)
    (hitems : ∀ item ∈ items, item.signature = recordType) (hrounds : items.length < rounds) :
    ∃ log r w', (manager pathOf).Runs (loop parseUnit rounds services) w log r w' := by
  -- a round for each record, so more rounds than records are enough
  induction rounds generalizing w services items with
  | zero => omega
  | succ rounds ih =>
    cases items with
    | nil =>
      have hround : (manager pathOf).Runs (parseUnit services) w
          [.inr ⟨.enterContainer .struct unitTypes, .ok false⟩, .inr ⟨.exitContainer, .ok ()⟩]
          (.inl (.ok services)) { w with reply := frame :: frames } := by
        refine bus_step (v := { w with reply := w.reply }) ⟨w.reply, by rw [hreply]; rfl, rfl⟩ ?_
        exact bus_step ⟨frame :: frames, by rw [hreply]; rfl, rfl⟩ ret_runs
      exact ⟨_, _, _, runs_bind_iff.mpr ⟨_, _, [], _, rfl, hround, ret_runs⟩⟩
    | cons item rest =>
      obtain ⟨fields, rfl, hfields⟩ := record_of_signature (hitems item (by simp))
      let v : ManagerState := { w with reply := ⟨.array, rest⟩ :: frame :: frames }
      obtain ⟨log, r, w', hrest⟩ := ih (w := v) (services ++ (serviceOf (.struct fields)).toList)
        rfl (fun item hmem => hitems item (by simp [hmem])) (by simpa using hrounds)
      have hround : (manager pathOf).Runs (parseUnit services) w
          [.inr ⟨.enterContainer .struct unitTypes, .ok true⟩,
            .inr ⟨.read unitTypes, .ok (some ⟨fields, hfields⟩)⟩, .inr ⟨.exitContainer, .ok ()⟩]
          (.inr (services ++ (serviceOf (.struct fields)).toList)) v := by
        rw [← serviceFromUnitRecord_eq hfields]
        -- entered, read and left: three calls for one record
        refine bus_step (v := { w with reply := ⟨.struct, fields⟩ :: v.reply }) ⟨_, ?_, rfl⟩ ?_
        · simp [v, hreply, DBus.enter, DBus.atEnd, DBus.contentsOf, hfields]
        · refine bus_step ⟨_, DBus.read_fields unitTypes_basic hfields, rfl⟩ ?_
          exact bus_step ⟨v.reply, rfl, rfl⟩ ret_runs
      exact ⟨_, r, w', runs_bind_iff.mpr ⟨_, _, log, v, rfl, hround, hrest⟩⟩

/-- How many records a reply has. -/
def recordCount : List DBus.Value → Nat
  | .array _ items :: _ => items.length
  | _ => 0

/-- **A reply is accepted exactly if it is an array of unit records**, and what is returned is
    the services among them, in order. Whatever the reply is, reading it comes to an end. -/
theorem parseListUnitsMessage_accepts {rounds : Nat} {body : List DBus.Value}
    (hreply : w.reply = DBus.start body) (hbody : ∀ value ∈ body, DBus.WellFormed value) :
    (∀ log r w', (manager pathOf).Runs (parseListUnitsMessage rounds true) w log r w' →
      r = parsedUnits body) ∧
    (recordCount body < rounds →
      ∃ log r w', (manager pathOf).Runs (parseListUnitsMessage rounds true) w log r w') := by
  refine ⟨fun log r w' h => parseListUnitsMessage_runs hreply hbody h, fun hrounds => ?_⟩
  have hfails : DBus.enter .array recordType w.reply = none →
      ∃ log r w', (manager pathOf).Runs (parseListUnitsMessage rounds true) w log r w' :=
    fun hnone => ⟨[.inr ⟨.enterContainer .array recordType, .error 6⟩], _, w,
      bus_step ⟨hnone, rfl⟩ ret_runs⟩
  cases body with
  | nil => exact hfails (by rw [hreply]; rfl)
  | cons value body =>
    cases value with
    | array contents items =>
      by_cases hcontents : contents = recordType
      · subst hcontents
        cases hbody (.array recordType items) (by simp) with
        | array hitems =>
          let v : ManagerState := { w with reply := [⟨.array, items⟩, ⟨.struct, body⟩] }
          have hloop : ∃ log r w', (manager pathOf).Runs (loop parseUnit rounds []) v log r w' :=
            parseUnits_exists [] rfl hitems hrounds
          obtain ⟨log, r, w', hrest⟩ := hloop
          refine ⟨.inr ⟨.enterContainer .array recordType, .ok true⟩ :: log, r, w',
            bus_step (v := v) ⟨v.reply, ?_, rfl⟩ hrest⟩
          simp [v, hreply, DBus.start, DBus.enter, DBus.atEnd, DBus.contentsOf, recordType]
      · exact hfails (by
          simp [hreply, DBus.start, DBus.enter, DBus.atEnd, DBus.contentsOf, hcontents])
    | _ => exact hfails (by rw [hreply]; rfl)

/-- A unit as `ListUnits` sends it. -/
def exampleRecord (name description : String) : DBus.Value :=
  .struct [.string (Bytes.ofString name), .string (Bytes.ofString description),
    .string (Bytes.ofString "loaded"), .string (Bytes.ofString "active"),
    .string (Bytes.ofString "running"), .string [],
    .objectPath (Bytes.ofString "/org/freedesktop/systemd1/unit"), .uint32 0, .string [],
    .objectPath (Bytes.ofString "/")]

def exampleRecords : List DBus.Value :=
  [exampleRecord "ssh.service" "OpenSSH", exampleRecord "dbus.socket" "D-Bus",
    exampleRecord ".service" "No name", exampleRecord "cron.service" "Cron"]

def exampleService (name description : String) : ServiceInfo where
  unitName := Bytes.ofString name
  description := Bytes.ofString description
  loadState := Bytes.ofString "loaded"
  activeState := Bytes.ofString "active"
  subState := Bytes.ofString "running"

theorem exampleRecords_wellFormed :
    ∀ value ∈ [DBus.Value.array recordType exampleRecords], DBus.WellFormed value := by
  have hrecord : ∀ name description, DBus.WellFormed (exampleRecord name description) := by
    intro name description
    refine .struct ?_
    simp only [List.forall_mem_cons, List.not_mem_nil, false_imp_iff, implies_true, and_true]
    exact ⟨.string, .string, .string, .string, .string, .string, .objectPath, .uint32, .string,
      .objectPath⟩
  refine List.forall_mem_singleton.mpr (.array ?_ ?_)
  · simp only [exampleRecords, List.forall_mem_cons, List.not_mem_nil, false_imp_iff, implies_true,
      and_true]
    exact ⟨rfl, rfl, rfl, rfl⟩
  · simp only [exampleRecords, List.forall_mem_cons, List.not_mem_nil, false_imp_iff, implies_true,
      and_true]
    exact ⟨hrecord _ _, hrecord _ _, hrecord _ _, hrecord _ _⟩

/-- Of four units two are services: a socket is none, and a bare suffix is no name. -/
theorem parseListUnitsMessage_fourUnits : ∃ log w',
    (manager fun _ => ⟨[], List.not_mem_nil⟩).Runs (parseListUnitsMessage 5 true)
      ⟨[], [], [], DBus.start [.array recordType exampleRecords]⟩ log
      (.ok [exampleService "ssh.service" "OpenSSH", exampleService "cron.service" "Cron"]) w' := by
  obtain ⟨log, r, w', hruns⟩ : ∃ log r w',
      (manager fun _ => ⟨[], List.not_mem_nil⟩).Runs (parseListUnitsMessage 5 true)
        ⟨[], [], [], DBus.start [.array recordType exampleRecords]⟩ log r w' :=
    (parseListUnitsMessage_accepts rfl exampleRecords_wellFormed).2 (by decide)
  have hresult := (parseListUnitsMessage_accepts rfl exampleRecords_wellFormed).1 log r w' hruns
  have hparsed : parsedUnits [.array recordType exampleRecords] =
      .ok [exampleService "ssh.service" "OpenSSH", exampleService "cron.service" "Cron"] := by
    rfl
  rw [hresult, hparsed] at hruns
  exact ⟨log, w', hruns⟩

/-! ## §3 What the provider returns -/

variable {strerror systemMessage : Int → Bytes}

/-- A method call fails, perhaps after it was carried out, or is answered from the state of one
    moment. -/
theorem callMethod_runs {method : Method} {x : Except BusFailure Bool}
    (h : (manager pathOf).Runs (bus (.callMethod method)) w log x w') :
    (∃ failure, x = .error failure ∧ .inr ⟨.callMethod method, .error failure⟩ ∈ log ∧
      ∃ jobs, (jobs = [] ∨ ∃ v body, ManagerState.Replies pathOf v method body jobs) ∧
        w'.jobs = w.jobs ++ jobs) ∨
    x = .ok true ∧ ∃ body jobs, (manager pathOf).During w log (·.Replies pathOf method body jobs) ∧
      w'.reply = DBus.start body ∧ w'.jobs = w.jobs ++ jobs := by
  -- the call is one moment; the manager changes before and after it
  obtain ⟨l₁, l₂, v, v', rfl, h₁, hanswer, h₂⟩ := runs_perform_iff.mp h
  cases x with
  | error failure =>
    obtain ⟨jobs, hjobs, rfl⟩ := hanswer
    refine .inl ⟨failure, rfl, by simp, jobs, hjobs.imp_right fun hreplies => ⟨v, hreplies⟩, ?_⟩
    rw [(idle_kept h₂).2, ← (idle_kept h₁).2]
  | ok stored =>
    obtain ⟨rfl, body, jobs, hreplies, rfl⟩ := hanswer
    refine .inr ⟨rfl, body, jobs, ⟨l₁, _, v, rfl, h₁.2, hreplies⟩, (idle_kept h₂).1, ?_⟩
    rw [(idle_kept h₂).2, ← (idle_kept h₁).2]

/-- The text of a value that is one. -/
def textOf : DBus.Value → Option Bytes
  | .string text => some text
  | .objectPath path => some path
  | _ => none

theorem replyText_runs {code : DBus.TypeCode} {value : DBus.Value} {x : Option Bytes}
    (hcode : code.Basic) (hreply : w.reply = DBus.start [value]) (hvalue : value.signature = [code])
    (h : (manager pathOf).Runs (replyText code) w log x w') : x = textOf value := by
  obtain ⟨stored, l₁, l₂, v, -, hread, hrest⟩ := runs_bind_iff.mp h
  -- one argument of a basic type, which a single read takes whole
  have hbasic : ∀ code' ∈ [code], code'.Basic := by simpa using hcode
  have hsignatures : DBus.signatures [value] = [code] := by
    simp [DBus.signatures, hvalue]
  obtain ⟨stored, rfl, hstored, -⟩ := read_runs hread
    (by rw [hreply]; exact DBus.read_fields hbasic hsignatures)
  obtain ⟨⟨values, hvalues⟩, rfl, rfl⟩ := Option.map_eq_some_iff.mp hstored
  cases value with
  | string text =>
    obtain ⟨rfl, -⟩ := runs_ret_iff.mp hrest
    rfl
  | objectPath path =>
    obtain ⟨rfl, -⟩ := runs_ret_iff.mp hrest
    rfl
  | uint32 number =>
    obtain ⟨rfl, -⟩ := runs_ret_iff.mp hrest
    rfl
  | array contents items =>
    obtain ⟨rfl, -⟩ := runs_ret_iff.mp hrest
    rfl
  | struct fields =>
    obtain ⟨rfl, -⟩ := runs_ret_iff.mp hrest
    rfl

/-- The path is that of the unit asked for. -/
theorem getUnitPath_runs {unit path : Bytes}
    (h : (manager pathOf).Runs (getUnitPath strerror unit) w log (.ok path) w') :
    path = (pathOf (cString unit)).val := by
  obtain ⟨x, l₁, l₂, v, -, hcall, hrest⟩ := runs_bind_iff.mp h
  rcases callMethod_runs hcall with ⟨failure, rfl, -⟩ | ⟨rfl, body, jobs, hduring, hreply, -⟩
  · obtain ⟨hcontra, -⟩ := runs_ret_iff.mp hrest
    cases hcontra
  -- which unit was asked for is in the question, so the path is known
  · obtain ⟨-, -, -, -, -, -, rfl, -⟩ := hduring
    obtain ⟨text, l₃, l₄, v₁, -, htext, hreturn⟩ := runs_bind_iff.mp hrest
    obtain rfl := replyText_runs (.inr (.inl rfl)) hreply rfl htext
    obtain ⟨hpath, -⟩ := runs_ret_iff.mp hreturn
    exact Except.ok.inj hpath

theorem unitFileState_runs {unit state : Bytes}
    (h : (manager pathOf).Runs (unitFileState strerror unit) w log (.ok state) w') :
    (manager pathOf).During w log fun v => (cString unit, state) ∈ v.files := by
  obtain ⟨x, l₁, l₂, v, rfl, hcall, hrest⟩ := runs_bind_iff.mp h
  rcases callMethod_runs hcall with ⟨failure, rfl, -⟩ | ⟨rfl, body, jobs, hduring, hreply, -⟩
  · obtain ⟨hcontra, -⟩ := runs_ret_iff.mp hrest
    cases hcontra
  -- the state was that of the file when it was asked for
  · refine (hduring.mono fun u hreplies => ?_).append l₂
    obtain ⟨state', hmem, rfl, -⟩ := hreplies
    obtain ⟨text, l₃, l₄, v₁, -, htext, hreturn⟩ := runs_bind_iff.mp hrest
    obtain rfl := replyText_runs (.inl rfl) hreply rfl htext
    obtain ⟨hstate, -⟩ := runs_ret_iff.mp hreturn
    rw [Except.ok.inj hstate]
    exact hmem

theorem cString_of_clean {text : Bytes} (h : 0 ∉ text) : cString text = text := by
  refine List.takeWhile_eq_self_iff.mpr fun byte hmem => ?_
  rw [bne_iff_ne]
  rintro rfl
  exact h hmem

theorem mainPidProperty_runs {path : Bytes} {value : Fin (2 ^ 32)}
    (h : (manager pathOf).Runs (mainPidProperty strerror path) w log (.ok value) w') :
    (manager pathOf).During w log fun v =>
      ∃ unit, v.At pathOf (cString path) unit ∧ unit.mainPid = value := by
  obtain ⟨x, l₁, l₂, v, rfl, hcall, hrest⟩ := runs_bind_iff.mp h
  obtain ⟨hvalue, -⟩ := runs_ret_iff.mp hrest
  -- a property is read at the moment of the call, which may be later than the path
  obtain ⟨l₃, l₄, u, u', rfl, h₃, hanswer, -⟩ := runs_perform_iff.mp hcall
  cases x with
  | error failure => cases hvalue
  | ok value' =>
    obtain ⟨-, unit, hat, rfl⟩ := hanswer
    exact ⟨l₃, _, u, List.append_assoc .., h₃.2, unit, hat, (Except.ok.inj hvalue).symm⟩

theorem stringProperty_runs {path text : Bytes} {property : TextProperty}
    (h : (manager pathOf).Runs (stringProperty strerror path property) w log (.ok text) w') :
    (manager pathOf).During w log fun v =>
      ∃ unit, v.At pathOf (cString path) unit ∧ unit.text property = text := by
  obtain ⟨x, l₁, l₂, v, rfl, hcall, hrest⟩ := runs_bind_iff.mp h
  obtain ⟨hvalue, -⟩ := runs_ret_iff.mp hrest
  obtain ⟨l₃, l₄, u, u', rfl, h₃, hanswer, -⟩ := runs_perform_iff.mp hcall
  cases x with
  | error failure => cases hvalue
  | ok value =>
    obtain ⟨-, unit, hat, rfl⟩ := hanswer
    exact ⟨l₃, _, u, List.append_assoc .., h₃.2, unit, hat, (Except.ok.inj hvalue).symm⟩

/-- A service as `ListUnits` tells it. -/
def bare (service : ServiceInfo) : ServiceInfo :=
  { service with unitFileState := [], mainPid := none }

variable (pathOf) in
/-- What was found out about a service was so at some moment. -/
structure Observed (w : ManagerState) (log : (manager pathOf).Log) (service : ServiceInfo) : Prop where
  fileState : service.unitFileState = [] ∨
    (manager pathOf).During w log fun v => (service.unitName, service.unitFileState) ∈ v.files
  mainPid : ∀ pid, service.mainPid = some pid → (manager pathOf).During w log fun v =>
    ∃ unit, v.At pathOf (pathOf service.unitName).val unit ∧ mainPidOf unit.mainPid = some pid

theorem Observed.append {service : ServiceInfo} {l₁ : (manager pathOf).Log}
    (h : Observed pathOf w l₁ service) (l₂ : (manager pathOf).Log) :
    Observed pathOf w (l₁ ++ l₂) service :=
  ⟨h.fileState.imp_right (·.append l₂), fun pid hpid => (h.mainPid pid hpid).append l₂⟩

theorem Observed.after {service : ServiceInfo} {l₁ l₂ : (manager pathOf).Log} {v : ManagerState}
    (hpath : (manager pathOf).Path w l₁ v) (h : Observed pathOf v l₂ service) :
    Observed pathOf w (l₁ ++ l₂) service :=
  ⟨h.fileState.imp_right (.after hpath), fun pid hpid => (h.mainPid pid hpid).after hpath⟩

/-- What the unit file adds. -/
theorem withFileState_observed {service : ServiceInfo} {fileState : Result Bytes}
    {l₁ : (manager pathOf).Log} {v : ManagerState} (hbare : bare service = service)
    (hclean : 0 ∉ service.unitName)
    (h : (manager pathOf).Runs (unitFileState strerror service.unitName) w l₁ fileState v)
    (l₂ : (manager pathOf).Log) :
    bare (withFileState service fileState) = service ∧
      (withFileState service fileState).unitName = service.unitName ∧
      Observed pathOf w (l₁ ++ l₂) (withFileState service fileState) := by
  -- from `ListUnits` there are neither of these
  obtain ⟨hnoState, hnoPid⟩ : service.unitFileState = [] ∧ service.mainPid = none := by
    rw [← hbare]
    exact ⟨rfl, rfl⟩
  have hpid : ∀ pid, service.mainPid ≠ some pid := by simp [hnoPid]
  cases fileState with
  | error error => exact ⟨hbare, rfl, .inl hnoState, fun pid h => absurd h (hpid pid)⟩
  | ok state =>
    have hduring := unitFileState_runs h
    rw [cString_of_clean hclean] at hduring
    exact ⟨hbare, rfl, .inr (hduring.append l₂), fun pid h => absurd h (hpid pid)⟩

/-- One service of the listing. -/
theorem completeService_runs {service : ServiceInfo} {out : ServiceInfo × List Warning}
    (hbare : bare service = service) (hclean : 0 ∉ service.unitName)
    (h : (manager pathOf).Runs (completeService strerror service) w log out w') :
    bare out.1 = service ∧ Observed pathOf w log out.1 := by
  -- the unit file first, then the path, then the main process
  obtain ⟨fileState, l₁, l₂, v, rfl, hfile, hrest⟩ := runs_bind_iff.mp h
  obtain ⟨path, l₃, l₄, v₁, rfl, hpath, hrest⟩ := runs_bind_iff.mp hrest
  obtain ⟨hsame, hname, hobserved⟩ := withFileState_observed hbare hclean hfile (l₃ ++ l₄)
  cases path with
  | error error =>
    obtain ⟨rfl, -⟩ := runs_ret_iff.mp hrest
    exact ⟨hsame, hobserved⟩
  | ok path =>
    obtain rfl := getUnitPath_runs hpath
    obtain ⟨mainPid, l₅, l₆, v₂, rfl, hpid, hreturn⟩ := runs_bind_iff.mp hrest
    cases mainPid with
    | error error =>
      obtain ⟨rfl, -⟩ := runs_ret_iff.mp hreturn
      exact ⟨hsame, hobserved⟩
    | ok value =>
      obtain ⟨rfl, -⟩ := runs_ret_iff.mp hreturn
      -- the object may have changed hands since; what is returned was so at that path
      refine ⟨hsame, hobserved.fileState, fun pid hmain => ?_⟩
      have hduring := mainPidProperty_runs hpid
      rw [cString_of_clean hclean, cString_of_clean (pathOf service.unitName).2] at hduring
      refine During.after hfile.2 (During.after hpath.2 ((hduring.append l₆).mono ?_))
      rintro u ⟨unit, hat, rfl⟩
      rw [← hname] at hat
      exact ⟨unit, hat, hmain⟩

/-- The listing has every service it was given, in order. -/
theorem completeServices_runs {services : List ServiceInfo}
    {observation : Lx.Observation (List ServiceInfo)}
    (hservices : ∀ service ∈ services, bare service = service ∧ 0 ∉ service.unitName)
    (h : (manager pathOf).Runs (completeServices strerror services) w log observation w') :
    observation.value.map bare = services ∧
      ∀ service ∈ observation.value, Observed pathOf w log service := by
  -- the induction is on the services: each is completed before the next one
  induction services generalizing w w' log observation with
  | nil =>
    obtain ⟨rfl, -⟩ := runs_ret_iff.mp h
    exact ⟨rfl, by simp⟩
  | cons service rest ih =>
    obtain ⟨⟨first, warnings⟩, l₁, l₂, v, rfl, hfirst, hrest⟩ := runs_bind_iff.mp h
    obtain ⟨others, l₃, l₄, v₁, rfl, hothers, hreturn⟩ := runs_bind_iff.mp hrest
    obtain ⟨rfl, -⟩ := runs_ret_iff.mp hreturn
    obtain ⟨hbare, hclean⟩ := hservices service (by simp)
    obtain ⟨hsame, hobserved⟩ := completeService_runs hbare hclean hfirst
    obtain ⟨hlater, hobserved'⟩ := ih (fun s hs => hservices s (by simp [hs])) hothers
    refine ⟨by rw [List.map_cons, hsame, hlater], fun s hs => ?_⟩
    rcases List.mem_cons.mp hs with rfl | hs
    · exact hobserved.append _
    · exact .after hfirst.2 ((hobserved' s hs).append l₄)

theorem signature_value (unit : ManagedUnit) : (unit.value pathOf).signature = recordType := rfl

theorem wellFormed_value (unit : ManagedUnit) : DBus.WellFormed (unit.value pathOf) := by
  refine .struct ?_
  simp only [List.forall_mem_cons, List.not_mem_nil, false_imp_iff, implies_true, and_true]
  exact ⟨.string, .string, .string, .string, .string, .string, .objectPath, .uint32, .string,
    .objectPath⟩

theorem wellFormed_units (units : List ManagedUnit) :
    DBus.WellFormed (.array recordType (units.map (·.value pathOf))) := by
  refine .array ?_ ?_
  · intro item hitem
    obtain ⟨unit, -, rfl⟩ := List.mem_map.mp hitem
    exact signature_value unit
  · intro item hitem
    obtain ⟨unit, -, rfl⟩ := List.mem_map.mp hitem
    exact wellFormed_value unit

/-- The services among the units of a manager. -/
def ManagerState.services (w : ManagerState) : List ServiceInfo :=
  w.units.filterMap ManagedUnit.service

theorem parsedUnits_reply (w : ManagerState) :
    parsedUnits [.array recordType (w.units.map (·.value pathOf))] = .ok w.services := by
  rw [parsedUnits, if_pos rfl, List.filterMap_map]
  rfl

theorem services_bare {service : ServiceInfo} (h : service ∈ w.services) :
    bare service = service ∧ 0 ∉ service.unitName := by
  -- the names of units have no null bytes, so C strings carry them whole
  obtain ⟨unit, -, hservice⟩ := List.mem_filterMap.mp h
  unfold ManagedUnit.service at hservice
  split_ifs at hservice
  obtain rfl := Option.some.inj hservice
  exact ⟨rfl, unit.clean⟩

theorem openSystem_runs {r : Result Unit}
    (h : (manager pathOf).Runs (openSystem systemMessage) w log r w') :
    r = .ok () ∨ ∃ error number, r = .error error ∧ .inr ⟨.openSystem, .error number⟩ ∈ log := by
  obtain ⟨x, l₁, l₂, v, rfl, hopen, hrest⟩ := runs_bind_iff.mp h
  obtain ⟨l₃, l₄, u, u', rfl, -⟩ := runs_perform_iff.mp hopen
  cases x with
  | error number =>
    obtain ⟨rfl, -⟩ := runs_ret_iff.mp hrest
    exact .inr ⟨_, number, rfl, by simp⟩
  | ok y =>
    obtain ⟨rfl, -⟩ := runs_ret_iff.mp hrest
    exact .inl rfl

/-- **A listing is the services of one moment.** However the units change meanwhile, `list`
    returns every service the manager had when it was asked, in its order, and nothing else;
    the states of unit files and the main processes it adds were so at some moment of the call.
    It fails only if the bus cannot be opened or `ListUnits` fails. -/
theorem list_snapshot {rounds : Nat} {r : Result (Lx.Observation (List ServiceInfo))}
    (h : (manager pathOf).Runs (list strerror systemMessage rounds) w log r w') :
    (∃ error, r = .error error ∧ ((∃ number, .inr ⟨.openSystem, .error number⟩ ∈ log) ∨
      ∃ failure, .inr ⟨.callMethod .listUnits, .error failure⟩ ∈ log)) ∨
    ∃ observation, r = .ok observation ∧
      (manager pathOf).During w log (fun v => observation.value.map bare = v.services) ∧
      ∀ service ∈ observation.value, Observed pathOf w log service := by
  obtain ⟨opened, l₁, l₂, v₁, rfl, hopen, hopened⟩ := runs_bind_iff.mp h
  -- either the bus is not opened, or `ListUnits` is the next call
  rcases openSystem_runs hopen with rfl | ⟨error, number, rfl, hfailed⟩
  · obtain ⟨x, l₃, l₄, v₂, rfl, hcall, hcalled⟩ := runs_bind_iff.mp hopened
    rcases callMethod_runs hcall with ⟨failure, rfl, hfailed, -⟩ | ⟨rfl, body, jobs, hduring, hreply, -⟩
    · obtain ⟨rfl, -⟩ := runs_ret_iff.mp hcalled
      exact .inl ⟨_, rfl, .inr ⟨failure, by simp [hfailed]⟩⟩
    · -- the reply is the listing of the moment of the call
      obtain ⟨before, after, u, hlog, hpath, rfl, -⟩ := hduring
      obtain ⟨parsed, l₅, l₆, v₃, rfl, hparse, hparsed⟩ := runs_bind_iff.mp hcalled
      have hbody : ∀ value ∈ [DBus.Value.array recordType (u.units.map (·.value pathOf))],
          DBus.WellFormed value := by
        rw [List.forall_mem_singleton]
        exact wellFormed_units u.units
      obtain rfl := parseListUnitsMessage_runs hreply hbody hparse
      rw [parsedUnits_reply] at hparsed
      obtain ⟨observation, l₇, l₈, v₄, rfl, hcomplete, hreturn⟩ := runs_bind_iff.mp hparsed
      obtain ⟨rfl, -⟩ := runs_ret_iff.mp hreturn
      obtain ⟨hvalue, hobserved⟩ := completeServices_runs (fun _ => services_bare) hcomplete
      have hmoment : (manager pathOf).During v₁ l₃ fun v => observation.value.map bare = v.services :=
        ⟨before, after, u, hlog, hpath, hvalue⟩
      refine .inr ⟨observation, rfl, .after hopen.2 (hmoment.append _), fun service hservice => ?_⟩
      exact .after hopen.2 (.after hcall.2 (.after hparse.2 ((hobserved service hservice).append _)))
  · obtain ⟨rfl, -⟩ := runs_ret_iff.mp hopened
    exact .inl ⟨error, rfl, .inl ⟨number, by simp [hfailed]⟩⟩

/-- A manager with one service. -/
def exampleUnit : ManagedUnit :=
  { name := Bytes.ofString "a.service", pids := [7], clean := by decide }

def exampleManager : ManagerState := ⟨[exampleUnit], [], [], []⟩

def examplePath : Bytes → ObjectPath := fun _ =>
  ⟨Bytes.ofString "/org/freedesktop/systemd1/unit/a_2eservice", by decide⟩

def exampleFields : List DBus.Value :=
  [.string (Bytes.ofString "a.service"), .string [], .string [], .string [], .string [], .string [],
    .objectPath (Bytes.ofString "/org/freedesktop/systemd1/unit/a_2eservice"), .uint32 0, .string [],
    .objectPath []]

/-- The unit is gone before its details are read. -/
def exampleListing : (manager examplePath).Log :=
  [.inr ⟨.openSystem, .ok ()⟩, .inr ⟨.callMethod .listUnits, .ok true⟩,
    .inr ⟨.enterContainer .array recordType, .ok true⟩,
    .inr ⟨.enterContainer .struct unitTypes, .ok true⟩,
    .inr ⟨.read unitTypes, .ok (some ⟨exampleFields, rfl⟩)⟩, .inr ⟨.exitContainer, .ok ()⟩,
    .inr ⟨.enterContainer .struct unitTypes, .ok false⟩, .inr ⟨.exitContainer, .ok ()⟩,
    .inl ⟨[], []⟩,
    .inr ⟨.callMethod (.getUnitFileState (Bytes.ofString "a.service")), .error ⟨2, none, none⟩⟩,
    .inr ⟨.callMethod (.getUnit (Bytes.ofString "a.service")), .error ⟨2, none, none⟩⟩]

theorem exampleListing_runs : ∃ observation,
    (manager examplePath).Runs (list (fun _ => []) (fun _ => []) 2) exampleManager exampleListing
      (.ok observation) ⟨[], [], [], [⟨.struct, []⟩]⟩ := by
  -- the log is split call by call first, and then each answer is justified
  refine ⟨_, ⟨_, _, rfl, _, _, rfl, _, _, rfl, _, _, rfl, _, _, rfl, _, _, rfl, _, _, rfl, _, _, rfl,
    _, _, rfl, _, _, rfl, rfl, rfl⟩, ?_⟩
  exact ⟨_, rfl, _, ⟨rfl, _, _, ⟨rfl, rfl⟩, rfl⟩, _, ⟨_, rfl, rfl⟩, _, ⟨_, rfl, rfl⟩, _,
    ⟨_, rfl, rfl⟩, _, ⟨_, rfl, rfl⟩, _, ⟨_, rfl, rfl⟩, _, ⟨_, rfl, rfl⟩, _, rfl, _,
    ⟨[], .inl rfl, rfl⟩, _, ⟨[], .inl rfl, rfl⟩, rfl⟩

theorem exampleListing_snapshot : ∃ observation : Lx.Observation (List ServiceInfo),
    (manager examplePath).Runs (list (fun _ => []) (fun _ => []) 2) exampleManager exampleListing
        (.ok observation) ⟨[], [], [], [⟨.struct, []⟩]⟩ ∧
      (manager examplePath).During exampleManager exampleListing
        (fun v => observation.value.map bare = v.services) := by
  obtain ⟨observation, hruns⟩ := exampleListing_runs
  rcases list_snapshot hruns with ⟨error, hcontra, -⟩ | ⟨observation', hsame, hduring, -⟩
  · cases hcontra
  · obtain rfl := Except.ok.inj hsame
    exact ⟨observation, hruns, hduring⟩

/-- **The unit of a process** is a service: the process was in a unit of the manager, and a unit
    at the same path had the name that is returned. -/
theorem unitByPid_sound {pid : Int} {name : Bytes}
    (h : (manager pathOf).Runs (unitByPid strerror systemMessage pid) w log (.ok (some name)) w') :
    isService name = true ∧ ∃ path,
      ((manager pathOf).During w log fun v => ∃ unit, v.At pathOf path unit ∧ pid.toNat ∈ unit.pids) ∧
      ((manager pathOf).During w log fun v => ∃ unit, v.At pathOf path unit ∧ unit.name = name) := by
  unfold unitByPid at h
  split_ifs at h
  · obtain ⟨hcontra, -⟩ := runs_ret_iff.mp h
    cases hcontra
  -- the bus, the path of the unit, and its name, with changes in between
  obtain ⟨opened, l₁, l₂, v₁, rfl, hopen, hopened⟩ := runs_bind_iff.mp h
  rcases openSystem_runs hopen with rfl | ⟨error, number, rfl, -⟩
  · obtain ⟨x, l₃, l₄, v₂, rfl, hcall, hcalled⟩ := runs_bind_iff.mp hopened
    rcases callMethod_runs hcall with ⟨failure, rfl, -⟩ | ⟨rfl, body, jobs, hduring, hreply, -⟩
    · obtain ⟨hcontra, -⟩ := runs_ret_iff.mp hcalled
      split_ifs at hcontra
      cases hcontra
    · obtain ⟨before, after, u, hlog, hpath, unit, hunit, howns, rfl, -⟩ := hduring
      obtain ⟨text, l₅, l₆, v₃, rfl, htext, hread⟩ := runs_bind_iff.mp hcalled
      obtain rfl := replyText_runs (.inr (.inl rfl)) hreply rfl htext
      obtain ⟨id, l₇, l₈, v₄, rfl, hid, hreturn⟩ := runs_bind_iff.mp hread
      cases id with
      | error error =>
        obtain ⟨hcontra, -⟩ := runs_ret_iff.mp hreturn
        split_ifs at hcontra
        cases hcontra
      | ok id =>
        obtain ⟨hname, -⟩ := runs_ret_iff.mp hreturn
        -- a scope or a slice is not returned, only a service
        split_ifs at hname with hservice
        · obtain rfl := Option.some.inj (Except.ok.inj hname)
          have hnamed := stringProperty_runs hid
          rw [cString_of_clean (pathOf unit.name).2] at hnamed
          have howned : (manager pathOf).During v₁ l₃ fun v =>
              ∃ owner, v.At pathOf (pathOf unit.name).val owner ∧ pid.toNat ∈ owner.pids :=
            ⟨before, after, u, hlog, hpath, unit, ⟨hunit, rfl⟩, howns⟩
          exact ⟨hservice, (pathOf unit.name).val, .after hopen.2 (howned.append _),
            .after hopen.2 (.after hcall.2 (.after htext.2 (hnamed.append _)))⟩
        · cases Except.ok.inj hname
  · obtain ⟨hcontra, -⟩ := runs_ret_iff.mp hopened
    cases hcontra

/-- The unit after its process has exited. -/
def exampleIdleUnit : ManagedUnit := { exampleUnit with pids := [] }

/-- The process exits, and a unit file is added, between the two questions. -/
def exampleLookup : (manager examplePath).Log :=
  [.inr ⟨.openSystem, .ok ()⟩, .inr ⟨.callMethod (.getUnitByPid 7), .ok true⟩,
    .inr ⟨.read [.objectPath], .ok (some ⟨[.objectPath (examplePath []).val], rfl⟩)⟩,
    .inl ⟨[exampleIdleUnit], [(Bytes.ofString "a.service", Bytes.ofString "enabled")]⟩,
    .inr ⟨.getText (examplePath []).val .id, .ok (some (Bytes.ofString "a.service"))⟩]

theorem exampleLookup_sound : ∃ w',
    (manager examplePath).Runs (unitByPid (fun _ => []) (fun _ => []) 7) exampleManager
        exampleLookup (.ok (some (Bytes.ofString "a.service"))) w' ∧
      ∃ path,
        ((manager examplePath).During exampleManager exampleLookup fun v =>
          ∃ unit, v.At examplePath path unit ∧ 7 ∈ unit.pids) ∧
        (manager examplePath).During exampleManager exampleLookup fun v =>
          ∃ unit, v.At examplePath path unit ∧ unit.name = Bytes.ofString "a.service" := by
  have hruns : (manager examplePath).Runs (unitByPid (fun _ => []) (fun _ => []) 7) exampleManager
      exampleLookup (.ok (some (Bytes.ofString "a.service")))
      ⟨[exampleIdleUnit], [(Bytes.ofString "a.service", Bytes.ofString "enabled")], [],
        [⟨.struct, []⟩]⟩ := by
    refine ⟨⟨_, _, rfl, _, _, rfl, _, _, rfl, _, _, rfl, rfl, rfl⟩, ?_⟩
    exact ⟨_, rfl, _, ⟨rfl, _, _, ⟨exampleUnit, List.mem_singleton_self _, by simp [exampleUnit], rfl,
      rfl⟩, rfl⟩, _, ⟨_, rfl, rfl⟩, _, rfl, _,
      ⟨rfl, exampleIdleUnit, ⟨List.mem_singleton_self _, rfl⟩, rfl⟩, rfl⟩
  obtain ⟨-, path, howned, hnamed⟩ := unitByPid_sound hruns
  exact ⟨_, hruns, path, howned, hnamed⟩

/-! ## §4 Jobs -/

/-- The calls that ask the manager for a job. -/
def BusCall.asksForJob : BusCall → Prop
  | .callMethod (.control _ _ _) => True
  | _ => False

/-- Only an action comes with jobs. -/
theorem Replies.jobs_eq {method : Method} {body : List DBus.Value} {jobs : List Job}
    (hc : ¬ (BusCall.callMethod method).asksForJob) (h : w.Replies pathOf method body jobs) :
    jobs = [] := by
  -- only `control` has jobs in its replies
  cases method with
  | listUnits => exact h.2
  | getUnit name => exact h.2.2
  | getUnitFileState name =>
    obtain ⟨state, -, -, hnone⟩ := h
    exact hnone
  | getUnitByPid pid =>
    obtain ⟨unit, -, -, -, hnone⟩ := h
    exact hnone
  | control action unit mode => exact absurd trivial hc

theorem answer_jobs {c : BusCall} {x : c.Answer} (hc : ¬ c.asksForJob)
    (h : w.Answers pathOf c x w') : w'.jobs = w.jobs := by
  -- calls other than methods leave the jobs alone, so only a method is interesting
  cases c with
  | callMethod method =>
    cases x with
    | error failure =>
      obtain ⟨jobs, hjobs, rfl⟩ := h
      have hnone : jobs = [] := hjobs.elim id fun hreplies => Replies.jobs_eq hc hreplies.choose_spec
      rw [hnone, List.append_nil]
    | ok stored =>
      obtain ⟨-, body, jobs, hreplies, rfl⟩ := h
      rw [Replies.jobs_eq hc hreplies, List.append_nil]
  | getText path property =>
    cases x with
    | error failure => rw [show w' = w from h]
    | ok value => rw [h.1]
  | getMainPid path =>
    cases x with
    | error failure => rw [show w' = w from h]
    | ok value => rw [h.1]
  | getActiveEnterTimestamp path =>
    cases x with
    | error failure => rw [show w' = w from h]
    | ok value => rw [h.1]
  | enterContainer container contents =>
    cases x with
    | error number => rw [h.2]
    | ok entered =>
      obtain ⟨reply, -, rfl⟩ := h
      rfl
  | read types =>
    cases x with
    | error number => rw [h.2]
    | ok stored =>
      obtain ⟨reply, -, rfl⟩ := h
      rfl
  | exitContainer =>
    cases x with
    | error number => rw [h.2]
    | ok done =>
      obtain ⟨reply, -, rfl⟩ := h
      rfl
  | openSystem => rw [show w' = w from h]
  | getVersion => rw [show w' = w from h]
  | contract call => rw [show w' = w from h]

/-- No path through `p` asks for a job. -/
abbrev QueuesNothing {α : Type} (p : Prog SdBus α) : Prop :=
  p.Within (S := SdBus) fun c => ¬ BusCall.asksForJob c

theorem QueuesNothing.jobs {α : Type} {p : Prog SdBus α} {a : α} (hp : QueuesNothing p)
    (h : (manager pathOf).Runs p w log a w') : w'.jobs = w.jobs :=
  -- no call on the way asks for a job, and no move adds one
  h.invariant_within (P := fun v : ManagerState => v.jobs = w.jobs) hp
    (fun v m v' hmove hv => by rw [show v' = _ from hmove]; exact hv)
    (fun v c x v' hc hanswer hv => (answer_jobs hc hanswer).trans hv) rfl

theorem bus_queuesNothing {c : BusCall} (hc : ¬ c.asksForJob) : QueuesNothing (bus c) :=
  Prog.within_perform (S := SdBus) hc

theorem openSystem_queuesNothing : QueuesNothing (openSystem systemMessage) :=
  (bus_queuesNothing id).bind fun x => by cases x <;> trivial

theorem replyText_queuesNothing {code : DBus.TypeCode} : QueuesNothing (replyText code) :=
  (bus_queuesNothing id).bind fun x => by split <;> trivial

theorem getUnitPath_queuesNothing {unit : Bytes} : QueuesNothing (getUnitPath strerror unit) := by
  refine (bus_queuesNothing id).bind fun x => ?_
  cases x with
  | error failure => trivial
  | ok stored => exact replyText_queuesNothing.bind fun text => by cases text <;> trivial

theorem unitFileState_queuesNothing {unit : Bytes} : QueuesNothing (unitFileState strerror unit) := by
  refine (bus_queuesNothing id).bind fun x => ?_
  cases x with
  | error failure => trivial
  | ok stored => exact replyText_queuesNothing.bind fun text => by cases text <;> trivial

theorem stringProperty_queuesNothing {path : Bytes} {property : TextProperty} :
    QueuesNothing (stringProperty strerror path property) :=
  (bus_queuesNothing id).bind fun _ => trivial

theorem mainPidProperty_queuesNothing {path : Bytes} : QueuesNothing (mainPidProperty strerror path) :=
  (bus_queuesNothing id).bind fun _ => trivial

theorem timestampProperty_queuesNothing {path : Bytes} :
    QueuesNothing (timestampProperty strerror path) :=
  (bus_queuesNothing id).bind fun _ => trivial

theorem parseUnit_queuesNothing {services : List ServiceInfo} : QueuesNothing (parseUnit services) := by
  refine (bus_queuesNothing id).bind fun entered => ?_
  match entered with
  | .error _ => trivial
  | .ok false => exact (bus_queuesNothing id).bind fun x => by cases x <;> trivial
  | .ok true =>
    refine (bus_queuesNothing id).bind fun x => ?_
    cases x with
    | error number => trivial
    | ok stored => exact (bus_queuesNothing id).bind fun x => by cases x <;> trivial

theorem parseUnits_queuesNothing {rounds : Nat} {services : List ServiceInfo} :
    QueuesNothing (loop parseUnit rounds services) := by
  -- the induction is on the rounds
  induction rounds generalizing services with
  | zero => trivial
  | succ rounds ih =>
    refine parseUnit_queuesNothing.bind fun out => ?_
    cases out with
    | inl r => trivial
    | inr services => exact ih

theorem parseListUnitsMessage_queuesNothing {rounds : Nat} {message : Bool} :
    QueuesNothing (parseListUnitsMessage rounds message) := by
  cases message with
  | false => trivial
  | true =>
    refine (bus_queuesNothing id).bind fun x => ?_
    cases x with
    | error number => trivial
    | ok entered => exact parseUnits_queuesNothing

theorem completeService_queuesNothing {service : ServiceInfo} :
    QueuesNothing (completeService strerror service) := by
  refine unitFileState_queuesNothing.bind fun fileState => ?_
  refine getUnitPath_queuesNothing.bind fun path => ?_
  cases path with
  | error error => trivial
  | ok path => exact mainPidProperty_queuesNothing.bind fun x => by cases x <;> trivial

theorem completeServices_queuesNothing {services : List ServiceInfo} :
    QueuesNothing (completeServices strerror services) := by
  induction services with
  | nil => trivial
  | cons service rest ih =>
    exact completeService_queuesNothing.bind fun out => ih.bind fun _ => trivial

theorem list_queuesNothing {rounds : Nat} :
    QueuesNothing (list strerror systemMessage rounds) := by
  refine openSystem_queuesNothing.bind fun opened => ?_
  cases opened with
  | error error => trivial
  | ok done =>
    refine (bus_queuesNothing id).bind fun x => ?_
    cases x with
    | error failure => trivial
    | ok reply =>
      refine parseListUnitsMessage_queuesNothing.bind fun parsed => ?_
      cases parsed with
      | error error => trivial
      | ok services => exact completeServices_queuesNothing.bind fun _ => trivial

theorem get_queuesNothing {unit : Bytes} : QueuesNothing (get strerror systemMessage unit) := by
  refine openSystem_queuesNothing.bind fun opened => ?_
  cases opened with
  | error error => trivial
  | ok done =>
    refine getUnitPath_queuesNothing.bind fun path => ?_
    cases path with
    | error error => trivial
    | ok path =>
      refine stringProperty_queuesNothing.bind fun description => ?_
      refine stringProperty_queuesNothing.bind fun loadState => ?_
      refine stringProperty_queuesNothing.bind fun activeState => ?_
      refine stringProperty_queuesNothing.bind fun subState => ?_
      -- any of the four properties may be missing
      split
      · trivial
      · trivial
      · trivial
      · trivial
      · refine unitFileState_queuesNothing.bind fun fileState => ?_
        refine mainPidProperty_queuesNothing.bind fun mainPid => ?_
        exact timestampProperty_queuesNothing.bind fun timestamp => trivial

theorem unitByPid_queuesNothing {pid : Int} :
    QueuesNothing (unitByPid strerror systemMessage pid) := by
  unfold unitByPid
  -- PIDs that are not positive are refused before the bus is opened
  split_ifs
  · trivial
  refine openSystem_queuesNothing.bind fun opened => ?_
  cases opened with
  | error error => trivial
  | ok done =>
    refine (bus_queuesNothing id).bind fun x => ?_
    cases x with
    | error failure => trivial
    | ok stored =>
      refine replyText_queuesNothing.bind fun path => ?_
      cases path with
      | none => trivial
      | some path => exact stringProperty_queuesNothing.bind fun id => by cases id <;> trivial

/-- The job of an action. -/
def jobOf (action : ServiceAction) (unit : Bytes) : Job :=
  ⟨action, cString unit, Bytes.ofString "replace"⟩

/-- The jobs that a call of the application layer may leave behind. An action that was reported
    as done leaves one. One that failed leaves none where the bus was not opened, one where the
    reply names no job, and none or one where the call failed: the reply may have been lost. -/
def Leaves : Event Contract → List Job → Prop
  | ⟨.controlService action unit, .ok ()⟩, jobs => jobs = [jobOf action unit]
  | ⟨.controlService action unit, .error error⟩, jobs =>
    -- the bus could not be opened, so nothing was sent
    if error.component = Bytes.ofString "sd-bus" then jobs = []
    -- the reply could not be read, but there was one
    else if error.code = .protocolError then jobs = [jobOf action unit]
    else jobs = [] ∨ jobs = [jobOf action unit]
  | _, jobs => jobs = []

/-- What makes a call over the bus fail is not its reply. -/
theorem busErrorCode_ne {failure : BusFailure} : busErrorCode failure ≠ .protocolError := by
  unfold busErrorCode
  split_ifs <;> exact ErrorCode.noConfusion

/-- A call over the bus that failed leaves none or one. -/
theorem leaves_busError {action : ServiceAction} {unit operation : Bytes} {failure : BusFailure}
    {jobs : List Job} (h : jobs = [] ∨ jobs = [jobOf action unit]) :
    Leaves ⟨.controlService action unit, .error (busError strerror failure operation)⟩ jobs := by
  have hcomponent : (busError strerror failure operation).component ≠ Bytes.ofString "sd-bus" := by
    change Bytes.ofString "systemd" ≠ Bytes.ofString "sd-bus"
    decide
  have hcode : (busError strerror failure operation).code ≠ .protocolError := busErrorCode_ne
  rw [Leaves, if_neg hcomponent, if_neg hcode]
  exact h

/-- A bus that cannot be opened is an error of `sd-bus`. -/
theorem openSystem_component {error : Error}
    (h : (manager pathOf).Runs (openSystem systemMessage) w log (.error error) w') :
    error.component = Bytes.ofString "sd-bus" := by
  obtain ⟨x, l₁, l₂, v, -, -, hrest⟩ := runs_bind_iff.mp h
  -- the constructor of the error names the library, not the manager
  cases x with
  | error number =>
    obtain ⟨heq, -⟩ := runs_ret_iff.mp hrest
    rw [Except.error.inj heq]
  | ok done =>
    obtain ⟨heq, -⟩ := runs_ret_iff.mp hrest
    cases heq

/-- One action. -/
theorem control_jobs {action : ServiceAction} {unit : Bytes} {r : Result Unit}
    (h : (manager pathOf).Runs (control strerror systemMessage action unit) w log r w') :
    ∃ jobs, Leaves ⟨.controlService action unit, r⟩ jobs ∧ w'.jobs = w.jobs ++ jobs := by
  have hcomponent : Bytes.ofString "systemd" ≠ Bytes.ofString "sd-bus" := by decide
  obtain ⟨opened, l₁, l₂, v₁, -, hopen, hopened⟩ := runs_bind_iff.mp h
  have hjobs₁ := openSystem_queuesNothing.jobs hopen
  cases opened with
  | error error =>
    obtain ⟨rfl, hidle⟩ := runs_ret_iff.mp hopened
    refine ⟨[], ?_, by rw [(idle_kept hidle).2, hjobs₁, List.append_nil]⟩
    rw [Leaves, if_pos (openSystem_component hopen)]
  | ok done =>
    obtain ⟨x, l₃, l₄, v₂, -, hcall, hcalled⟩ := runs_bind_iff.mp hopened
    rcases callMethod_runs hcall with
      ⟨failure, rfl, -, jobs, hjobs, hjobs₂⟩ | ⟨rfl, body, jobs, hduring, -, hjobs₂⟩
    · -- the manager may have received the call all the same
      obtain ⟨rfl, hidle⟩ := runs_ret_iff.mp hcalled
      refine ⟨jobs, ?_, by rw [(idle_kept hidle).2, hjobs₂, hjobs₁]⟩
      have hother : jobs = [] ∨ jobs = [jobOf action unit] :=
        hjobs.imp_right fun ⟨u, body, hreplies⟩ => hreplies.2
      exact leaves_busError hother
    · -- the job is queued, whatever the reply says
      obtain ⟨before, after, u, -, -, -, rfl⟩ := hduring
      obtain ⟨text, l₅, l₆, v₃, -, htext, hreturn⟩ := runs_bind_iff.mp hcalled
      have hjobs₃ := replyText_queuesNothing.jobs htext
      refine ⟨[jobOf action unit], ?_, ?_⟩
      · cases text with
        | some path =>
          obtain ⟨rfl, -⟩ := runs_ret_iff.mp hreturn
          rfl
        | none =>
          obtain ⟨rfl, -⟩ := runs_ret_iff.mp hreturn
          rw [Leaves, if_neg hcomponent]
          exact rfl
      -- returning changes nothing either
      · have hjobs₄ : w'.jobs = v₃.jobs := by
          cases text with
          | some path => exact (idle_kept (runs_ret_iff.mp hreturn).2).2
          | none => exact (idle_kept (runs_ret_iff.mp hreturn).2).2
        rw [hjobs₄, hjobs₃, hjobs₂, hjobs₁]
        rfl

theorem implement_jobs {rounds : Nat} {c : Call} {x : c.Answer}
    (h : (manager pathOf).Runs (implement strerror systemMessage rounds c) w log x w') :
    ∃ jobs, Leaves ⟨c, x⟩ jobs ∧ w'.jobs = w.jobs ++ jobs := by
  have hnone : QueuesNothing (implement strerror systemMessage rounds c) → Leaves ⟨c, x⟩ [] →
      ∃ jobs, Leaves ⟨c, x⟩ jobs ∧ w'.jobs = w.jobs ++ jobs := by
    -- calls that queue nothing leave no jobs, whatever they answer
    intro hp hleaves
    exact ⟨[], hleaves, by rw [hp.jobs h, List.append_nil]⟩
  cases c with
  | controlService action unit => exact control_jobs h
  | listServices => exact hnone list_queuesNothing rfl
  | getService unit => exact hnone get_queuesNothing rfl
  | unitByPid pid => exact hnone unitByPid_queuesNothing rfl
  | _ => exact hnone (bus_queuesNothing id) rfl

/-- **Every job is one of an action of the program.** Whatever program of the application layer
    runs over systemd, and whichever replies are lost or unreadable, the jobs the manager was
    given are those of the program's actions, in order and at most one for each: exactly one
    for an action reported as done, none for one that could not be sent. -/
theorem jobs_exactly_once {α : Type} {p : App α} {x : α} {rounds : Nat}
    (h : (manager pathOf).Runs (p.interpret (implement strerror systemMessage rounds)) w log x w') :
    ∃ u queued, p.Run u x ∧ List.Forall₂ Leaves u queued ∧ w'.jobs = w.jobs ++ queued.flatten := by
  -- the induction is on the program: the jobs of the first call come before those of the rest
  induction p generalizing w log with
  | ret a =>
    obtain ⟨rfl, hidle⟩ := runs_ret_iff.mp h
    exact ⟨[], [], ⟨rfl, rfl⟩, .nil, by rw [(idle_kept hidle).2]; exact (List.append_nil _).symm⟩
  | call c k ih =>
    obtain ⟨y, l₁, l₂, v, -, hcall, hrest⟩ := runs_bind_iff.mp h
    obtain ⟨jobs, hleaves, hjobs⟩ := implement_jobs hcall
    obtain ⟨u, queued, hrun, hall, hlater⟩ := ih y hrest
    refine ⟨⟨c, y⟩ :: u, jobs :: queued, ⟨y, u, rfl, hrun⟩, .cons hleaves hall, ?_⟩
    rw [hlater, hjobs, List.flatten_cons, List.append_assoc]
  | block => exact (runs_block h).elim

/-- One unit is stopped and another one started, whatever becomes of the first. -/
def exampleActions : App (Result Unit) := do
  let _ ← ServiceService.stop {} (Bytes.ofString "a")
  ServiceService.start {} (Bytes.ofString "b")

/-- The reply to the first action comes too late: both leave their jobs behind. -/
theorem exampleActions_jobs : ∃ u queued, exampleActions.Run u (.ok ()) ∧
    List.Forall₂ Leaves u queued ∧ queued.flatten =
      [⟨.stop, Bytes.ofString "a.service", Bytes.ofString "replace"⟩,
        ⟨.start, Bytes.ofString "b.service", Bytes.ofString "replace"⟩] := by
  have hruns : (manager examplePath).Runs
      (exampleActions.interpret (implement (fun _ => []) (fun _ => []) 1)) exampleManager
      [.inr ⟨.openSystem, .ok ()⟩,
        .inr ⟨.callMethod (.control .stop (Bytes.ofString "a.service") (Bytes.ofString "replace")),
          .error ⟨110, none, none⟩⟩,
        .inr ⟨.openSystem, .ok ()⟩,
        .inr ⟨.callMethod (.control .start (Bytes.ofString "b.service") (Bytes.ofString "replace")),
          .ok true⟩,
        .inr ⟨.read [.objectPath], .ok (some ⟨[.objectPath [47]], rfl⟩)⟩] (.ok ())
      { exampleManager with
        jobs := [⟨.stop, Bytes.ofString "a.service", Bytes.ofString "replace"⟩,
          ⟨.start, Bytes.ofString "b.service", Bytes.ofString "replace"⟩]
        reply := [⟨.struct, []⟩] } := by
    refine ⟨⟨_, _, rfl, _, _, rfl, _, _, rfl, _, _, rfl, _, _, rfl, rfl, rfl⟩, ?_⟩
    have hbody : ∀ value ∈ [DBus.Value.objectPath [47]], DBus.WellFormed value := by
      rw [List.forall_mem_singleton]
      exact .objectPath
    exact ⟨_, rfl, _, ⟨_, .inr ⟨[], List.forall_mem_nil _, rfl⟩, rfl⟩, _, rfl, _,
      ⟨rfl, _, _, ⟨hbody, rfl⟩, rfl⟩, _, ⟨_, rfl, rfl⟩, rfl⟩
  obtain ⟨u, queued, hrun, hleaves, hjobs⟩ := jobs_exactly_once hruns
  exact ⟨u, queued, hrun, hleaves, hjobs.symm⟩

end

end Lx.Systemd
