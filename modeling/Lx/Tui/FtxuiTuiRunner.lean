import Lx.Domain.Basic
import Lx.Lib.Interaction
import Mathlib.Data.Fin.Basic

/-!
# FtxuiTuiRunner

The terminal UI (`src/tui/FtxuiTuiRunner.cpp`): its variables, the event handler, what is
drawn, and the tasks handed to the background worker. The UI thread is a program over the
calls it makes to the two workers and to FTXUI; its variables are passed along.

The texts of the rows of a panel are left out: a drawn row is the resource it shows.
-/

namespace Lx.Tui

open Interaction

/-! ## §1 Variables of the UI thread -/

/-- An event FTXUI delivers. -/
inductive UiEvent where
  | character (input : Bytes)
  | ret
  | escape
  | tab
  | arrowLeft
  | arrowRight
  | arrowUp
  | arrowDown
  | f1
  /-- Any other event: mouse, other keys, redraw requests. -/
  | other (code : Nat)
  deriving DecidableEq, Repr

/-- `Event::Character(c)` -/
def UiEvent.char (c : Char) : UiEvent := .character [UInt8.ofNat c.toNat]

def UiEvent.isCharacter : UiEvent → Bool
  | .character _ => true
  | _ => false

inductive PendingAction where
  | none
  | stopService
  | restartService
  | terminateProcess
  | killProcess
  deriving DecidableEq, Repr

/-- A selected row: a non-negative `int` that can be incremented. -/
abbrev Selection := { row : Int // 0 ≤ row ∧ row < 2 ^ 31 - 1 }

/-- There is a tab. -/
instance instNeZeroTabs : @NeZero Nat Zero.ofOfNat0 3 := ⟨by decide⟩

structure Ui where
  /-- Services, ports or processes. -/
  tab : Fin 3 := 0
  selected : Fin 3 → Selection := fun _ => ⟨0, by decide⟩
  searching : Bool := false
  help : Bool := false
  pendingAction : PendingAction := .none
  confirmationStep : Nat := 0
  actionTarget : Bytes := []
  actionPid : Int := -1
  searchQuery : Bytes := []

/-- `static_cast<int>` of a size. -/
def toInt (size : Nat) : Int := (size : Int).bmod (2 ^ 32)

def itemCount (snapshot : DashboardSnapshot) (tab : Fin 3) : Int :=
  if tab = 0 then toInt snapshot.services.length
  else if tab = 1 then toInt snapshot.ports.length
  else toInt snapshot.processes.length

/-! ## §2 Tasks -/

/-- What a closure given to the worker captured. -/
inductive Task where
  | find (query : Bytes)
  | act (action : PendingAction) (unit : Bytes) (pid : Int)
  | inspect (resource : Bytes)
  | logs (query : LogQuery)
  /-- The text that asks to select something. -/
  | hint
  deriving DecidableEq, Repr

/-- The service calls tasks make. -/
inductive TaskCall where
  | find (query : Bytes)
  | inspect (resource : Bytes)
  | readLogs (query : LogQuery)
  /-- `ServiceService::stop` -/
  | stopService (unit : Bytes)
  /-- `ServiceService::restart` -/
  | restartService (unit : Bytes)
  /-- `ProcessService::stop` -/
  | stopProcess (pid : Int)
  /-- `ProcessService::kill` -/
  | killProcess (pid : Int)
  deriving DecidableEq, Repr

def TaskCall.Answer : TaskCall → Type
  | .find _ => Result FindResult
  | .inspect _ => Result ResourceGraph
  | .readLogs _ => Result (Observation (List JournalEntry))
  | .stopService _ | .restartService _ => Result Unit
  | .stopProcess _ | .killProcess _ => Result SignalDelivery

abbrev Tasks : Signature := ⟨TaskCall, TaskCall.Answer⟩

/-- The calls that change a service or signal a process. -/
def TaskCall.mutates : TaskCall → Bool
  | .stopService _ | .restartService _ | .stopProcess _ | .killProcess _ => true
  | _ => false

/-- Text lines put below a first one. -/
def below (lines : List Bytes) : Bytes := lines.flatMap (Bytes.ofString "\n" ++ ·)

def inspectText : Result ResourceGraph → Bytes
  | .error error => Bytes.ofString "Inspect failed: " ++ error.message
  | .ok graph =>
    Bytes.ofString "Inspect result\nProcesses: " ++ Bytes.ofNat graph.processes.length ++
    Bytes.ofString "\nPorts: " ++ Bytes.ofNat graph.ports.length ++
    Bytes.ofString "\nServices: " ++ Bytes.ofNat graph.services.length ++
    Bytes.ofString "\nRecent logs: " ++ Bytes.ofNat graph.recentLogs.length ++
    below (graph.processes.map fun process =>
      Bytes.ofString "PID " ++ Bytes.ofInt process.pid ++ Bytes.ofString "  " ++ process.name) ++
    below (graph.services.map fun service =>
      service.unitName ++ Bytes.ofString "  " ++ service.activeState)

def findText : Result FindResult → Bytes
  | .error error => Bytes.ofString "Find failed: " ++ error.message
  | .ok found =>
    Bytes.ofString "Find results\nServices: " ++ Bytes.ofNat found.services.length ++
    Bytes.ofString "  Processes: " ++ Bytes.ofNat found.processes.length ++
    Bytes.ofString "  Ports: " ++ Bytes.ofNat found.ports.length ++
    below (found.services.map fun service => Bytes.ofString "service  " ++ service.unitName) ++
    below (found.processes.map fun process =>
      Bytes.ofString "process  " ++ Bytes.ofInt process.pid ++ Bytes.ofString " " ++ process.name) ++
    below (found.ports.map fun port =>
      Bytes.ofString "port     " ++ Bytes.ofNat port.socket.localEnd.port) ++
    below (found.executables.map fun executable => Bytes.ofString "exe      " ++ executable)

def logsText : Result (Observation (List JournalEntry)) → Bytes
  | .error error => Bytes.ofString "Logs failed: " ++ error.message
  | .ok logs =>
    Bytes.ofString "Recent logs (" ++ Bytes.ofNat logs.value.length ++ Bytes.ofString ")" ++
      below (logs.value.map (·.message))

def serviceText (unit : Bytes) : Result Unit → Bytes
  | .error error => Bytes.ofString "Service action failed: " ++ error.message
  | .ok () => Bytes.ofString "Service action submitted for " ++ unit

def signalText (pid : Int) : Result SignalDelivery → Bytes
  | .error error => Bytes.ofString "Signal failed: " ++ error.message
  | .ok _ => Bytes.ofString "Signal sent to PID " ++ Bytes.ofInt pid

/-- The body of a task. An action that is no service action signals a process: SIGTERM for
    `TerminateProcess`, SIGKILL otherwise. -/
def Task.program : Task → Prog Tasks Bytes
  | .find query => do return findText (← perform (S := Tasks) (.find query))
  | .inspect resource => do return inspectText (← perform (S := Tasks) (.inspect resource))
  | .logs query => do return logsText (← perform (S := Tasks) (.readLogs query))
  | .hint => return Bytes.ofString "Select a service or process to view logs"
  | .act .stopService unit _ => do
    return serviceText unit (← perform (S := Tasks) (.stopService unit))
  | .act .restartService unit _ => do
    return serviceText unit (← perform (S := Tasks) (.restartService unit))
  | .act .terminateProcess _ pid => do
    return signalText pid (← perform (S := Tasks) (.stopProcess pid))
  | .act _ _ pid => do return signalText pid (← perform (S := Tasks) (.killProcess pid))

/-! ## §3 The calls of the UI thread -/

inductive TuiCall where
  /-- `DashboardWorker::snapshot` -/
  | snapshot
  /-- `TaskWorker::submit` -/
  | submit (task : Task)
  /-- `TaskWorker::result` -/
  | result
  /-- `TaskWorker::clear` -/
  | clear
  /-- `ScreenInteractive::ExitLoopClosure` -/
  | exitLoop
  /-- FTXUI's input component handles an event and leaves a query. -/
  | editSearch (event : UiEvent) (query : Bytes)
  /-- An index outside a list, which is undefined. -/
  | outOfBounds
  deriving DecidableEq, Repr

def TuiCall.Answer : TuiCall → Type
  | .snapshot => Option DashboardSnapshot
  | .submit _ => Bool
  | .result => Bytes
  | .editSearch _ _ => Bytes
  | _ => Unit

abbrev UiThread : Signature := ⟨TuiCall, TuiCall.Answer⟩

def tui (call : TuiCall) : Prog UiThread call.Answer := perform (S := UiThread) call

/-- `values[static_cast<std::size_t>(index)]` -/
def element {α : Type} (values : List α) (index : Int) : Prog UiThread α :=
  match if index < 0 then none else values[index.toNat]? with
  | some value => return value
  | none => do
    tui .outOfBounds
    .block

/-! ## §4 The event handler -/

def selectedResource (snapshot : DashboardSnapshot) (tab : Fin 3) (selected : Int) :
    Prog UiThread Bytes :=
  if selected < 0 ∨ selected ≥ itemCount snapshot tab then return []
  else if tab = 0 then do
    let service ← element snapshot.services selected
    return Bytes.ofString "service:" ++ service.unitName
  else if tab = 1 then do
    let port ← element snapshot.ports selected
    return Bytes.ofString "port:" ++ Bytes.ofNat port.socket.localEnd.port
  else do
    let process ← element snapshot.processes selected
    return Bytes.ofString "pid:" ++ Bytes.ofInt process.pid

def Ui.row (ui : Ui) : Int := ui.selected ui.tab

/-- The dialog is left. -/
def Ui.closeDialog (ui : Ui) : Ui := { ui with pendingAction := .none, confirmationStep := 0 }

def processTarget (process : ProcessInfo) : Bytes :=
  Bytes.ofString "PID " ++ Bytes.ofInt process.pid ++ Bytes.ofString " (" ++ process.name ++
    Bytes.ofString ")"

/-- `y` in a dialog: SIGKILL asks a second time. The answer of `submit` is not looked at. -/
def confirmAction (ui : Ui) : Prog UiThread (Ui × Bool) :=
  if ui.pendingAction = .killProcess ∧ ui.confirmationStep = 1 then
    return ({ ui with confirmationStep := 2 }, true)
  else do
    let _ ← tui (.submit (.act ui.pendingAction ui.actionTarget ui.actionPid))
    return (ui.closeDialog, true)

/-- Another row of the current panel. -/
def Ui.select (ui : Ui) (row : Selection) : Ui :=
  { ui with selected := Function.update ui.selected ui.tab row }

def Ui.up (ui : Ui) : Ui :=
  ui.select ⟨max 0 (ui.row - 1), by
    have := (ui.selected ui.tab).2
    unfold Ui.row
    omega⟩

theorem toInt_lt (size : Nat) : toInt size < 2 ^ 31 := by
  have := Int.bmod_lt (x := size) (m := 2 ^ 32) (by decide)
  unfold toInt
  omega

theorem itemCount_lt (snapshot : DashboardSnapshot) (tab : Fin 3) :
    itemCount snapshot tab < 2 ^ 31 := by
  unfold itemCount
  split_ifs
  · exact toInt_lt _
  · exact toInt_lt _
  · exact toInt_lt _

def Ui.down (ui : Ui) (snapshot : DashboardSnapshot) : Ui :=
  ui.select ⟨min (max 0 (itemCount snapshot ui.tab - 1)) (ui.row + 1), by
    have := (ui.selected ui.tab).2
    have := itemCount_lt snapshot ui.tab
    unfold Ui.row
    omega⟩

/-- `s` and `r` on the services panel. -/
def openServiceDialog (ui : Ui) (action : PendingAction) (snapshot : DashboardSnapshot) :
    Prog UiThread (Ui × Bool) := do
  let service ← element snapshot.services ui.row
  tui .clear
  return ({ ui with
    pendingAction := action
    actionTarget := service.unitName
    confirmationStep := 1 }, true)

/-- `k` and `K` on the processes panel. -/
def openProcessDialog (ui : Ui) (action : PendingAction) (snapshot : DashboardSnapshot) :
    Prog UiThread (Ui × Bool) := do
  let process ← element snapshot.processes ui.row
  tui .clear
  return ({ ui with
    pendingAction := action
    actionPid := process.pid
    actionTarget := processTarget process
    confirmationStep := 1 }, true)

/-- `l`: logs of the selected service or process. -/
def showLogs (ui : Ui) (snapshot : DashboardSnapshot) : Prog UiThread (Ui × Bool) := do
  if ui.tab = 0 ∧ ui.row < itemCount snapshot ui.tab then
    let service ← element snapshot.services ui.row
    let _ ← tui (.submit (.logs { limit := 20, unit := some service.unitName }))
    return (ui, true)
  else if ui.tab = 2 ∧ ui.row < itemCount snapshot ui.tab then
    let process ← element snapshot.processes ui.row
    let _ ← tui (.submit (.logs { limit := 20, pid := some process.pid }))
    return (ui, true)
  else
    let _ ← tui (.submit .hint)
    return (ui, true)

def showResource (ui : Ui) (snapshot : DashboardSnapshot) : Prog UiThread (Ui × Bool) := do
  let resource ← selectedResource snapshot ui.tab ui.row
  if resource ≠ [] then
    let _ ← tui (.submit (.inspect resource))
    return (ui, true)
  else return (ui, true)

/-- The end of the handler: the branches that look at a snapshot. -/
def handleResource (ui : Ui) (event : UiEvent) : Option DashboardSnapshot → Prog UiThread (Ui × Bool)
  | none => return (ui, !ui.searching && event.isCharacter)
  | some snapshot =>
    if ¬ ui.searching ∧ ui.tab = 0 ∧ (event = .char 's' ∨ event = .char 'r') ∧
        ui.row < itemCount snapshot ui.tab then
      openServiceDialog ui (if event = .char 's' then .stopService else .restartService) snapshot
    else if ¬ ui.searching ∧ ui.tab = 2 ∧ (event = .char 'k' ∨ event = .char 'K') ∧
        ui.row < itemCount snapshot ui.tab then
      openProcessDialog ui (if event = .char 'k' then .terminateProcess else .killProcess) snapshot
    else if ¬ ui.searching ∧ event = .ret then showResource ui snapshot
    else if ¬ ui.searching ∧ event = .char 'l' then showLogs ui snapshot
    else if event = .arrowUp then return (ui.up, true)
    else if event = .arrowDown then return (ui.down snapshot, true)
    -- characters that mean nothing are swallowed, unless they belong to the search field
    else return (ui, !ui.searching && event.isCharacter)

/-- Whether Esc closes a view; the result is looked at only when nothing else decides. -/
def escapeCloses (ui : Ui) (event : UiEvent) : Prog UiThread Bool :=
  if event ≠ .escape then return false
  else if ui.searching ∨ ui.help then return true
  else do return !(← tui .result).isEmpty

def Ui.switchTab (ui : Ui) (step : Nat) : Ui :=
  { ui with tab := ⟨(ui.tab + step) % 3, Nat.mod_lt _ (by decide)⟩ }

/-- The handler while no dialog is open. -/
def handleView (ui : Ui) (event : UiEvent) : Prog UiThread (Ui × Bool) := do
  if ← escapeCloses ui event then
    tui .clear
    return ({ ui with searching := false, help := false }, true)
  else if ¬ ui.searching ∧ (event = .char 'q' ∨ event = .escape) then
    tui .exitLoop
    return (ui, true)
  else if ¬ ui.searching ∧ event = .f1 then
    tui .clear
    return ({ ui with help := !ui.help }, true)
  else if ¬ ui.searching ∧ event = .char '/' then
    return ({ ui with searching := true, searchQuery := [], help := false }, true)
  else if event = .tab then return (ui.switchTab 1, true)
  -- arrows and Tab switch panels even while searching
  else if event = .arrowLeft then return (ui.switchTab 2, true)
  else if event = .arrowRight then return (ui.switchTab 1, true)
  else
    let snapshot ← tui .snapshot
    handleResource ui event snapshot

/-- The `CatchEvent` handler. -/
def handle (ui : Ui) (event : UiEvent) : Prog UiThread (Ui × Bool) :=
  if ui.searching ∧ event = .ret then do
    -- an empty query only leaves the search field
    if ui.searchQuery ≠ [] then
      let _ ← tui (.submit (.find ui.searchQuery))
      return ({ ui with searching := false }, true)
    else return ({ ui with searching := false }, true)
  else if ui.pendingAction ≠ .none ∧ (event = .char 'n' ∨ event = .escape) then
    return (ui.closeDialog, true)
  else if ui.pendingAction ≠ .none ∧ event = .char 'y' then confirmAction ui
  -- a dialog swallows every other event
  else if ui.pendingAction ≠ .none then return (ui, true)
  else handleView ui event

/-- An event that is not handled goes to the input component behind the handler. -/
def dispatch (ui : Ui) (event : UiEvent) : Prog UiThread Ui := do
  let (ui, handled) ← handle ui event
  if handled then return ui
  else
    let query ← tui (.editSearch event ui.searchQuery)
    return { ui with searchQuery := query }

/-! ## §5 Drawing -/

/-- A row of a panel. -/
inductive Row where
  | service (info : ServiceInfo)
  | port (info : PortInfo)
  | process (info : ProcessInfo)
  deriving DecidableEq, Repr

/-- The rows from `index` on, with the selected one marked. -/
def drawRows (values : List Row) (selected : Int) : Nat → Int → Prog UiThread (List (Row × Bool))
  | 0, _ => return []
  | count + 1, index => do
    let row ← element values index
    let rest ← drawRows values selected count (index + 1)
    return (row, decide (index = selected)) :: rest

/-- The part of a panel that is visible around the selected row. -/
def resourcePanel (snapshot : DashboardSnapshot) (tab : Fin 3) (selected : Int) :
    Prog UiThread (List (Row × Bool)) :=
  let values :=
    if tab = 0 then snapshot.services.map Row.service
    else if tab = 1 then snapshot.ports.map Row.port
    else snapshot.processes.map Row.process
  -- ten rows above the selected one, twenty-two in all
  let first := max 0 (selected - 10)
  let last := min (toInt values.length) (first + 22)
  drawRows values selected (last - first).toNat first

/-- The dialog that asks for a confirmation. -/
structure DialogView where
  action : Bytes
  target : Bytes
  warning : Bytes
  deriving DecidableEq, Repr

def actionLabel : PendingAction → Bytes
  | .stopService => "Stop service"
  | .restartService => "Restart service"
  | .terminateProcess => "Send SIGTERM to process"
  | _ => "Send SIGKILL to process"

def confirmWarning (action : PendingAction) (confirmationStep : Nat) : Bytes :=
  if action = .killProcess ∧ confirmationStep = 2 then "FINAL CONFIRMATION: this cannot be undone"
  else "Confirm the selected action"

/-- The dialog these variables stand for. -/
def Ui.dialog (ui : Ui) : Option DialogView :=
  if ui.pendingAction = .none then none
  else some ⟨actionLabel ui.pendingAction, ui.actionTarget,
    confirmWarning ui.pendingAction ui.confirmationStep⟩

/-- What the middle of the screen shows. -/
inductive Body where
  | loading
  | dialog (view : DialogView)
  | help
  | result (text : Bytes)
  | panel (rows : List (Row × Bool))
  deriving DecidableEq, Repr

structure Screen where
  body : Body
  warning : Option Bytes
  search : Option Bytes
  deriving DecidableEq, Repr

def drawBody (ui : Ui) (snapshot : DashboardSnapshot) : Prog UiThread Body := do
  -- read once, before it is known whether it is shown
  let taskResult : Bytes ← tui .result
  match ui.dialog with
  | some view => return .dialog view
  | none =>
    if ui.help then return .help
    else if taskResult ≠ [] then return .result taskResult
    else return .panel (← resourcePanel snapshot ui.tab ui.row)

/-- The renderer. -/
def draw (ui : Ui) : Prog UiThread Screen := do
  let search := if ui.searching then some ui.searchQuery else none
  match ← tui .snapshot with
  | none => return ⟨.loading, none, search⟩
  | some snapshot =>
    let body ← drawBody ui snapshot
    return ⟨body, snapshot.warnings.head?.map (Bytes.ofString "Warning: " ++ ·.message), search⟩

end Lx.Tui
