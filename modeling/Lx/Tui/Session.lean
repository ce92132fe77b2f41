import Lx.Tui.Confirmations

/-!
# Sessions of the terminal UI

A session is a sequence of events handled by the UI thread while the dashboard is replaced
and the worker takes, runs and finishes tasks. The mutating calls of the worker are
confirmed actions, each used once (`session_authorised`). A confirmed action is lost
exactly where `submit` finds the worker busy; without such an event none is
(`session_none_lost`).
-/

namespace Lx.Tui

open Interaction World

/-! ## §1 Sessions -/

/-- The UI thread handles one event after the other. -/
def Session (ok : TuiState → Event UiThread → Prop) :
    TuiState → Ui → List Stroke → Ui → TuiState → Prop
  | w, ui, [], ui', w' => ui' = ui ∧ w' = w
  | w, ui, stroke :: rest, ui', w' => stroke.ui = ui ∧ ∃ next v,
      (tuiWorld ok).Runs (dispatch ui stroke.event) w stroke.log next v ∧
        Session ok v next rest ui' w'

/-- All that happened in a session. -/
def logOf (strokes : List Stroke) : TuiLog := strokes.flatMap (·.log)

variable {ok : TuiState → Event UiThread → Prop} {w w' : TuiState} {ui ui' : Ui}
  {strokes : List Stroke} {dialog : Option Dialog}

theorem session_path (h : Session ok w ui strokes ui' w') :
    (tuiWorld ok).Path w (logOf strokes) w' := by
  induction strokes generalizing w ui with
  | nil => exact h.2
  | cons stroke rest ih =>
    obtain ⟨-, next, v, hruns, hrest⟩ := h
    exact path_append.mpr ⟨v, hruns.2, ih hrest⟩

/-- Along a session the variables stand for the open dialog, and what is confirmed is
    submitted in the same stroke. -/
theorem session_matches (hmatches : Matches ui dialog) (h : Session ok w ui strokes ui' w') :
    Matches ui' (openDialog dialog strokes) ∧
      strokes.map (submitted ·.trace) = confirmations dialog strokes := by
  induction strokes generalizing w ui dialog with
  | nil =>
    obtain ⟨rfl, -⟩ := h
    exact ⟨hmatches, rfl⟩
  | cons stroke rest ih =>
    obtain ⟨hui, next, v, hruns, hrest⟩ := h
    subst hui
    obtain ⟨hnext, hsubmitted⟩ := dispatch_run hmatches hruns.1
    obtain ⟨hlast, hlater⟩ := ih hnext hrest
    refine ⟨hlast, ?_⟩
    rw [List.map_cons, hlater]
    exact congrArg (· :: _) hsubmitted

theorem submitted_logOf (ok : TuiState → Event UiThread → Prop) :
    submitted (events (W := tuiWorld ok) (logOf strokes)) =
      (strokes.map (submitted ·.trace)).flatten := by
  induction strokes with
  | nil => rfl
  | cons stroke rest ih =>
    rw [logOf, List.flatMap_cons, events_append, submitted_append, List.map_cons, List.flatten_cons,
      ← ih]
    rfl

/-- The dialog a screen shows. -/
def Screen.shown (screen : Screen) : Option DialogView :=
  match screen.body with
  | .dialog view => some view
  | _ => none

/-- A screen with a snapshot shows the dialog of the variables. -/
theorem draw_run {t : Trace UiThread} {screen : Screen} (h : (draw ui).Run t screen) :
    screen.body = .loading ∨ screen.shown = ui.dialog := by
  obtain ⟨snapshot, t₁, t₂, -, hrest, rfl⟩ := Prog.run_bind_iff.mp h
  cases snapshot with
  | none =>
    obtain ⟨-, rfl⟩ := hrest
    exact .inl rfl
  | some snapshot =>
    right
    obtain ⟨body, t₃, t₄, hbody, ⟨-, rfl⟩, rfl⟩ := Prog.run_bind_iff.mp hrest
    obtain ⟨text, t₅, t₆, -, hshown, rfl⟩ := Prog.run_bind_iff.mp hbody
    cases hdialog : ui.dialog with
    | some view =>
      rw [hdialog] at hshown
      obtain ⟨-, rfl⟩ := hshown
      rfl
    | none =>
      rw [hdialog] at hshown
      dsimp only at hshown
      split_ifs at hshown
      · obtain ⟨-, rfl⟩ := hshown
        rfl
      · obtain ⟨-, rfl⟩ := hshown
        rfl
      · obtain ⟨rows, t₇, t₈, -, ⟨-, rfl⟩, -⟩ := Prog.run_bind_iff.mp hshown
        rfl

theorem Matches.dialog_eq (h : Matches ui dialog) : ui.dialog = dialog.map Dialog.view := by
  cases dialog with
  | none => exact if_pos h
  | some dialog => exact h.2.2.2.1

/-! ## §2 Authorised mutations only -/

/-- **Authorised mutations only.** In every session the mutating calls of the worker are
    confirmed actions, in order and each used once; every screen drawn shows the dialog
    that is open; and neither handling an event nor drawing indexes a list outside its
    bounds. -/
theorem session_authorised (hw : w.Idle) (h : Session (fun _ _ => True) w {} strokes ui w') :
    (made (logOf strokes)).Sublist (confirmations none strokes).flatten ∧
      (∀ log screen w'', (tuiWorld fun _ _ => True).Runs (draw ui) w' log screen w'' →
        screen.body = .loading ∨ screen.shown = (openDialog none strokes).map Dialog.view) ∧
      InBounds (draw ui) ∧ ∀ event, InBounds (dispatch ui event) := by
  have hinitial : Matches {} none := rfl
  obtain ⟨hmatches, hsubmitted⟩ := session_matches hinitial h
  have hpath := session_path h
  refine ⟨?_, ?_, draw_inBounds ui, dispatch_inBounds ui⟩
  · have hrunning : RunningOwes w.running [] := by
      rw [hw.2]
      rfl
    obtain ⟨calls, -, hmade⟩ := made_accepted hrunning hpath
    have hwaiting : w.waiting = [] := by
      rw [TuiState.waiting, hw.1]
      rfl
    rw [hwaiting] at hmade
    rw [← hsubmitted, ← submitted_logOf fun _ _ => True]
    exact ((List.sublist_append_left _ _).trans hmade).trans (accepted_sublist hpath)
  · intro log screen w'' hdraw
    rw [← hmatches.dialog_eq]
    exact draw_run hdraw.1

def worker : ProcessInfo := { pid := 42, name := "worker" }

/-- A dashboard with one service and one process. -/
def smallSnapshot : DashboardSnapshot where
  services := [{ unitName := "nginx.service" }]
  processes := [worker]

def smallDashboard : TuiState := { snapshot := some smallSnapshot }

/-- The processes panel, and the dialog for its first row. -/
def processesPanel : Ui := ({} : Ui).switchTab 2

def killDialog : Ui :=
  { processesPanel with
    pendingAction := .killProcess
    actionPid := 42
    actionTarget := processTarget worker
    confirmationStep := 1 }

def killTask : Task := .act .killProcess (processTarget worker) 42

/-- SIGKILL for the process, confirmed twice and carried out. -/
def killStrokes : List Stroke :=
  [⟨{}, .arrowLeft, []⟩,
    ⟨processesPanel, .char 'K', [.inr ⟨.snapshot, some smallSnapshot⟩, .inr ⟨.clear, ()⟩]⟩,
    ⟨killDialog, .char 'y', []⟩,
    ⟨{ killDialog with confirmationStep := 2 }, .char 'y',
      [.inr ⟨.submit killTask, true⟩, .inl (.take killTask),
        .inl (.exchange ⟨.killProcess 42, .ok ⟨42, .kill, .pidFd⟩⟩),
        .inl (.finish (signalText 42 (.ok ⟨42, .kill, .pidFd⟩)))]⟩]

theorem killStrokes_session : Session (fun _ _ => True) smallDashboard {} killStrokes
    killDialog.closeDialog
    { smallDashboard with result := signalText 42 (.ok ⟨42, .kill, .pidFd⟩) } := by
  refine ⟨rfl, processesPanel, smallDashboard, ⟨⟨rfl, rfl⟩, rfl⟩, ?_⟩
  refine ⟨rfl, killDialog, smallDashboard, ⟨⟨_, _, rfl, _, _, rfl, rfl, rfl⟩, ?_⟩, ?_⟩
  · exact ⟨_, ⟨⟨rfl, rfl⟩, trivial⟩, _, ⟨rfl, trivial⟩, rfl⟩
  refine ⟨rfl, { killDialog with confirmationStep := 2 }, smallDashboard, ⟨⟨rfl, rfl⟩, rfl⟩, ?_⟩
  refine ⟨rfl, killDialog.closeDialog, _, ⟨⟨_, _, rfl, rfl, rfl⟩, ?_⟩, rfl, rfl⟩
  exact ⟨_, ⟨⟨⟨rfl, rfl⟩, rfl⟩, trivial⟩, _, ⟨rfl, rfl, rfl, rfl⟩, _, ⟨_, rfl, rfl⟩, _,
    ⟨rfl, rfl⟩, rfl⟩

/-- The call of this session is the one confirmed in it. -/
theorem kill_session_authorised :
    made (logOf killStrokes) = [.killProcess 42] ∧
      (made (logOf killStrokes)).Sublist (confirmations none killStrokes).flatten ∧
      (∀ log screen w'', (tuiWorld fun _ _ => True).Runs (draw killDialog.closeDialog)
        { smallDashboard with result := signalText 42 (.ok ⟨42, .kill, .pidFd⟩) } log screen w'' →
        screen.body = .loading ∨ screen.shown = (openDialog none killStrokes).map Dialog.view) ∧
      InBounds (draw killDialog.closeDialog) ∧
      ∀ event, InBounds (dispatch killDialog.closeDialog event) :=
  ⟨rfl, session_authorised ⟨rfl, rfl⟩ killStrokes_session⟩

/-! ## §3 No action is lost -/

theorem session_accepted (h : Session IdleSubmit w ui strokes ui' w') :
    strokes.map (accepted ·.log) = strokes.map (submitted ·.trace) := by
  induction strokes generalizing w ui with
  | nil => rfl
  | cons stroke rest ih =>
    obtain ⟨-, next, v, hruns, hrest⟩ := h
    rw [List.map_cons, List.map_cons, ih hrest]
    exact congrArg (· :: _) (accepted_eq hruns.2)

theorem accepted_logOf : accepted (logOf strokes) = (strokes.map (accepted ·.log)).flatten := by
  induction strokes with
  | nil => rfl
  | cons stroke rest ih =>
    rw [logOf, List.flatMap_cons, accepted_append, List.map_cons, List.flatten_cons, ← ih]
    rfl

/-- **No confirmed action is lost** in a session whose confirmations are completed while the
    worker is idle: each is accepted in the stroke that completes it, and it waits until
    the worker takes it. -/
theorem session_none_lost (hw : w.Idle) (h : Session IdleSubmit w {} strokes ui w') :
    strokes.map (accepted ·.log) = confirmations none strokes ∧
      taken (logOf strokes) ++ w'.waiting = (confirmations none strokes).flatten := by
  have hinitial : Matches {} none := rfl
  obtain ⟨-, hsubmitted⟩ := session_matches hinitial h
  have haccepted := (session_accepted h).trans hsubmitted
  refine ⟨haccepted, ?_⟩
  have hwaiting : w.waiting = [] := by
    rw [TuiState.waiting, hw.1]
    rfl
  rw [taken_waiting (session_path h), hwaiting, List.nil_append, accepted_logOf, haccepted]

/-- The dialog that offers to stop the service. -/
def stopDialog : Ui :=
  { pendingAction := .stopService
    actionTarget := "nginx.service"
    confirmationStep := 1 }

def stopTask : Task := .act .stopService "nginx.service" (-1)

/-- The service is stopped while the worker is idle. -/
def idleStrokes : List Stroke :=
  [⟨{}, .char 's', [.inr ⟨.snapshot, some smallSnapshot⟩, .inr ⟨.clear, ()⟩]⟩,
    ⟨stopDialog, .char 'y', [.inr ⟨.submit stopTask, true⟩]⟩]

theorem idle_session_none_lost :
    confirmations none idleStrokes = [[], [.stopService "nginx.service"]] ∧
      idleStrokes.map (accepted ·.log) = confirmations none idleStrokes ∧
      taken (logOf idleStrokes) ++ [.stopService "nginx.service"] =
        (confirmations none idleStrokes).flatten := by
  have hsession : Session IdleSubmit smallDashboard {} idleStrokes stopDialog.closeDialog
      { smallDashboard with pending := some stopTask, result := "Loading..." } := by
    refine ⟨rfl, stopDialog, smallDashboard, ⟨⟨_, _, rfl, _, _, rfl, rfl, rfl⟩, ?_⟩, ?_⟩
    · exact ⟨_, ⟨⟨rfl, rfl⟩, fun h => by cases h⟩, _, ⟨rfl, fun h => by cases h⟩, rfl⟩
    refine ⟨rfl, stopDialog.closeDialog, _, ⟨⟨_, _, rfl, rfl, rfl⟩, ?_⟩, rfl, rfl⟩
    exact ⟨_, ⟨⟨⟨rfl, rfl⟩, rfl⟩, fun _ => ⟨rfl, rfl⟩⟩, rfl⟩
  exact ⟨by decide, session_none_lost ⟨rfl, rfl⟩ hsession⟩

/-- The same while the worker inspects the service. -/
def busyStrokes : List Stroke :=
  [⟨{}, .ret, [.inr ⟨.snapshot, some smallSnapshot⟩,
      .inr ⟨.submit (.inspect "service:nginx.service"), true⟩,
      .inl (.take (.inspect "service:nginx.service"))]⟩,
    ⟨{}, .char 's', [.inr ⟨.snapshot, some smallSnapshot⟩, .inr ⟨.clear, ()⟩]⟩,
    ⟨stopDialog, .char 'y', [.inr ⟨.submit stopTask, false⟩]⟩]

/-- **A lost action.** The stop is confirmed while the worker is busy: it is not accepted,
    the dialog is gone and no text is left. -/
theorem busy_session_loses_stop :
    ∃ w', Session (fun _ _ => True) smallDashboard {} busyStrokes stopDialog.closeDialog w' ∧
      confirmations none busyStrokes = [[], [], [.stopService "nginx.service"]] ∧
      accepted (logOf busyStrokes) = [] ∧ w'.waiting = [] ∧ w'.result = [] ∧
      stopDialog.closeDialog.dialog = none := by
  let loading : TuiState :=
    { smallDashboard with
      running := some (Task.program (.inspect "service:nginx.service"))
      result := "Loading..." }
  refine ⟨{ loading with result := [] }, ?_, by decide, rfl, rfl, rfl, rfl⟩
  refine ⟨rfl, {}, loading, ⟨⟨_, _, rfl, _, _, rfl, rfl, rfl⟩, ?_⟩, ?_⟩
  · exact ⟨_, ⟨⟨rfl, rfl⟩, trivial⟩, _, ⟨⟨⟨rfl, rfl⟩, rfl⟩, trivial⟩, _,
      ⟨rfl, rfl, rfl, rfl⟩, rfl⟩
  refine ⟨rfl, stopDialog, { loading with result := [] }, ⟨⟨_, _, rfl, _, _, rfl, rfl, rfl⟩, ?_⟩, ?_⟩
  · exact ⟨_, ⟨⟨rfl, rfl⟩, trivial⟩, _, ⟨rfl, trivial⟩, rfl⟩
  refine ⟨rfl, stopDialog.closeDialog, _, ⟨⟨_, _, rfl, rfl, rfl⟩, ?_⟩, rfl, rfl⟩
  refine ⟨_, ⟨⟨fun hidle => ?_, rfl⟩, trivial⟩, rfl⟩
  cases hidle.2

end Lx.Tui
