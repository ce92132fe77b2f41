import Lx.Tui.TaskWorker

/-!
# Confirmations in the terminal UI

What a confirmation is, said without the variables of the event handler: a key opens a
dialog on the selected row of the snapshot the handler sees, `n` and Esc close it, `y`
confirms it, twice for SIGKILL, and all other keys leave it alone. The handler follows this
description on every event (`dispatch_run`), so along every session, whatever the other
threads do, the mutating calls of the worker are confirmed ones
(`session_authorised`), and all confirmed ones if the worker is idle whenever a
confirmation is completed (`session_none_lost`).
-/

namespace Lx.Tui

open Interaction World

/-! ## §1 What a confirmation is -/

/-- An open dialog: what it offers to do, what it shows, and how many `y` it takes. -/
structure Dialog where
  call : TaskCall
  action : Bytes
  target : Bytes
  remaining : Nat
  deriving DecidableEq, Repr

/-- What is drawn for it; only the last step of SIGKILL is announced as final. -/
def Dialog.view (dialog : Dialog) : DialogView where
  action := dialog.action
  target := dialog.target
  warning :=
    match dialog.call with
    | .killProcess _ =>
      if dialog.remaining = 1 then "FINAL CONFIRMATION: this cannot be undone"
      else "Confirm the selected action"
    | _ => "Confirm the selected action"

def serviceDialog (event : UiEvent) (service : ServiceInfo) : Option Dialog :=
  if event = .char 's' then
    some ⟨.stopService service.unitName, "Stop service", service.unitName, 1⟩
  else if event = .char 'r' then
    some ⟨.restartService service.unitName, "Restart service", service.unitName, 1⟩
  else none

/-- How a dialog names a process: `PID 42 (server)`. -/
def namedProcess (process : ProcessInfo) : Bytes :=
  [Bytes.ofString "PID ", Bytes.ofInt process.pid, Bytes.ofString " (", process.name,
    Bytes.ofString ")"].flatten

def processDialog (event : UiEvent) (process : ProcessInfo) : Option Dialog :=
  if event = .char 'k' then
    some ⟨.stopProcess process.pid, "Send SIGTERM to process", namedProcess process, 1⟩
  else if event = .char 'K' then
    some ⟨.killProcess process.pid, "Send SIGKILL to process", namedProcess process, 2⟩
  else none

/-- The dialog is drawn with the PID and the name of the process. -/
theorem processTarget_eq (process : ProcessInfo) : processTarget process = namedProcess process := by
  simp [processTarget, namedProcess, List.append_assoc]

/-- The dialog an event opens: it is about the selected row of the panel. -/
def opened (ui : Ui) (event : UiEvent) (snapshot : DashboardSnapshot) : Option Dialog :=
  if ui.searching ∨ itemCount snapshot ui.tab ≤ ui.row then none
  else if ui.tab = 0 then (snapshot.services[ui.row.toNat]?).bind (serviceDialog event)
  else if ui.tab = 2 then (snapshot.processes[ui.row.toNat]?).bind (processDialog event)
  else none

/-- A look at the dashboard. -/
def snapshotOf : Event UiThread → Option (Option DashboardSnapshot)
  | ⟨.snapshot, snapshot⟩ => some snapshot
  | _ => none

/-- The snapshot the handler looked at. -/
def snapshotRead (t : Trace UiThread) : Option DashboardSnapshot := (t.findSome? snapshotOf).join

/-- One event with the variables before it and what the UI thread exchanged. -/
structure Stroke where
  ui : Ui
  event : UiEvent
  log : TuiLog

def Stroke.trace (stroke : Stroke) : Trace UiThread := stroke.log.filterMap Sum.getRight?

/-- What an event does to the open dialog, and the action it confirms. -/
def confirmStep (dialog : Option Dialog) (ui : Ui) (event : UiEvent) (t : Trace UiThread) :
    Option Dialog × List TaskCall :=
  match dialog with
  | none => ((snapshotRead t).bind (opened ui event), [])
  | some dialog =>
    if event = .char 'n' ∨ event = .escape then (none, [])
    else if event = .char 'y' then
      if dialog.remaining = 1 then (none, [dialog.call])
      else (some { dialog with remaining := 1 }, [])
    else (some dialog, [])

/-- The dialog that is open after a session. -/
def openDialog : Option Dialog → List Stroke → Option Dialog
  | dialog, [] => dialog
  | dialog, stroke :: rest =>
    openDialog (confirmStep dialog stroke.ui stroke.event stroke.trace).1 rest

/-- The actions confirmed in a session, stroke by stroke. -/
def confirmations : Option Dialog → List Stroke → List (List TaskCall)
  | _, [] => []
  | dialog, stroke :: rest =>
    let step := confirmStep dialog stroke.ui stroke.event stroke.trace
    step.2 :: confirmations step.1 rest

/-! ## §2 The handler follows it -/

/-- The variables stand for this dialog. -/
def Matches (ui : Ui) : Option Dialog → Prop
  | none => ui.pendingAction = .none
  | some dialog => ui.pendingAction ≠ .none ∧ ui.searching = false ∧
      (Task.act ui.pendingAction ui.actionTarget ui.actionPid).call = some dialog.call ∧
      ui.dialog = some dialog.view ∧
      ((ui.pendingAction = .killProcess ∧ ui.confirmationStep = 1) ↔ dialog.remaining ≠ 1)

section

variable {ui ui' : Ui} {event : UiEvent} {t : Trace UiThread} {handled : Bool}

/-- No snapshot was looked at and no action submitted. -/
def Uneventful (t : Trace UiThread) : Prop :=
  ∀ e ∈ t, snapshotOf e = none ∧ submittedBy e = none

theorem Uneventful.submitted (h : Uneventful t) : submitted t = [] :=
  List.filterMap_eq_nil_iff.mpr fun e he => (h e he).2

theorem Uneventful.snapshotRead_append {u : Trace UiThread} (h : Uneventful t) :
    snapshotRead (t ++ u) = snapshotRead u := by
  have hnone : t.findSome? snapshotOf = none :=
    List.findSome?_eq_none_iff.mpr fun e he => (h e he).1
  simp [Tui.snapshotRead, List.findSome?_append, hnone]

theorem Uneventful.snapshotRead (h : Uneventful t) : snapshotRead t = none := by
  have := h.snapshotRead_append (u := [])
  rwa [List.append_nil] at this

theorem uneventful_nil : Uneventful [] := by
  intro e he
  cases he

theorem uneventful_singleton {e : Event UiThread} (hsnapshot : snapshotOf e = none)
    (hsubmit : submittedBy e = none) : Uneventful [e] := by
  intro e' he'
  obtain rfl := List.mem_singleton.mp he'
  exact ⟨hsnapshot, hsubmit⟩

/-- An index that is in bounds. -/
theorem element_run {α : Type} {values : List α} {index : Int} {value : α}
    (h : (element values index).Run t value) : t = [] ∧ values[index.toNat]? = some value := by
  unfold element at h
  split at h
  · rename_i found hfound
    split_ifs at hfound
    obtain ⟨rfl, rfl⟩ := h
    exact ⟨rfl, hfound⟩
  · obtain ⟨x, t', -, hblock⟩ := h
    exact hblock.elim

/-- The row is not offered for anything by this event. -/
theorem opened_eq_none {snapshot : DashboardSnapshot}
    (hservice : ¬ (¬ ui.searching ∧ ui.tab = 0 ∧ (event = .char 's' ∨ event = .char 'r') ∧
      ui.row < itemCount snapshot ui.tab))
    (hprocess : ¬ (¬ ui.searching ∧ ui.tab = 2 ∧ (event = .char 'k' ∨ event = .char 'K') ∧
      ui.row < itemCount snapshot ui.tab)) : opened ui event snapshot = none := by
  unfold opened
  split_ifs with hclosed htab₀ htab₂
  · rfl
  · rw [not_or, not_le] at hclosed
    have hevent : ¬ (event = .char 's' ∨ event = .char 'r') := fun hevent =>
      hservice ⟨hclosed.1, htab₀, hevent, hclosed.2⟩
    rw [not_or] at hevent
    cases snapshot.services[ui.row.toNat]? <;> simp [serviceDialog, hevent.1, hevent.2]
  · rw [not_or, not_le] at hclosed
    have hevent : ¬ (event = .char 'k' ∨ event = .char 'K') := fun hevent =>
      hprocess ⟨hclosed.1, htab₂, hevent, hclosed.2⟩
    rw [not_or] at hevent
    cases snapshot.processes[ui.row.toNat]? <;> simp [processDialog, hevent.1, hevent.2]
  · rfl

theorem openServiceDialog_run {action : PendingAction} {snapshot : DashboardSnapshot}
    (h : (openServiceDialog ui action snapshot).Run t (ui', handled)) :
    ∃ service, snapshot.services[ui.row.toNat]? = some service ∧ Uneventful t ∧
      ui' = { ui with
        pendingAction := action
        actionTarget := service.unitName
        confirmationStep := 1 } := by
  obtain ⟨service, t₁, t₂, helement, hrest, rfl⟩ := Prog.run_bind_iff.mp h
  obtain ⟨rfl, hservice⟩ := element_run helement
  obtain ⟨_, t₃, t₄, hclear, hend, rfl⟩ := Prog.run_bind_iff.mp hrest
  obtain rfl := Prog.run_perform.mp hclear
  obtain ⟨rfl, hui⟩ := hend
  cases hui
  exact ⟨service, hservice, uneventful_singleton rfl rfl, rfl⟩

theorem openProcessDialog_run {action : PendingAction} {snapshot : DashboardSnapshot}
    (h : (openProcessDialog ui action snapshot).Run t (ui', handled)) :
    ∃ process, snapshot.processes[ui.row.toNat]? = some process ∧ Uneventful t ∧
      ui' = { ui with
        pendingAction := action
        actionPid := process.pid
        actionTarget := processTarget process
        confirmationStep := 1 } := by
  obtain ⟨process, t₁, t₂, helement, hrest, rfl⟩ := Prog.run_bind_iff.mp h
  obtain ⟨rfl, hprocess⟩ := element_run helement
  obtain ⟨_, t₃, t₄, hclear, hend, rfl⟩ := Prog.run_bind_iff.mp hrest
  obtain rfl := Prog.run_perform.mp hclear
  obtain ⟨rfl, hui⟩ := hend
  cases hui
  exact ⟨process, hprocess, uneventful_singleton rfl rfl, rfl⟩

/-- Submitting a task that is no action, and nothing more. -/
theorem submit_run {task : Task} (htask : task.call = none)
    (h : (tui (.submit task) >>= fun _ => pure (ui, true)).Run t (ui', handled)) :
    Uneventful t ∧ ui' = ui := by
  obtain ⟨x, t₁, t₂, hsubmit, hend, rfl⟩ := Prog.run_bind_iff.mp h
  obtain rfl := Prog.run_perform.mp hsubmit
  obtain ⟨rfl, hui⟩ := hend
  cases hui
  exact ⟨uneventful_singleton rfl htask, rfl⟩

theorem showLogs_run {snapshot : DashboardSnapshot}
    (h : (showLogs ui snapshot).Run t (ui', handled)) : Uneventful t ∧ ui' = ui := by
  unfold showLogs at h
  split_ifs at h
  · obtain ⟨service, t₁, t₂, helement, hrest, rfl⟩ := Prog.run_bind_iff.mp h
    obtain ⟨rfl, -⟩ := element_run helement
    exact submit_run rfl hrest
  · obtain ⟨process, t₁, t₂, helement, hrest, rfl⟩ := Prog.run_bind_iff.mp h
    obtain ⟨rfl, -⟩ := element_run helement
    exact submit_run rfl hrest
  · exact submit_run rfl h

theorem selectedResource_run {snapshot : DashboardSnapshot} {tab : Fin 3} {selected : Int}
    {resource : Bytes} (h : (selectedResource snapshot tab selected).Run t resource) : t = [] := by
  unfold selectedResource at h
  split_ifs at h
  · exact h.1
  all_goals
    obtain ⟨value, t₁, t₂, helement, ⟨rfl, -⟩, rfl⟩ := Prog.run_bind_iff.mp h
    obtain ⟨rfl, -⟩ := element_run helement
    rfl

theorem showResource_run {snapshot : DashboardSnapshot}
    (h : (showResource ui snapshot).Run t (ui', handled)) : Uneventful t ∧ ui' = ui := by
  obtain ⟨resource, t₁, t₂, hselected, hrest, rfl⟩ := Prog.run_bind_iff.mp h
  obtain rfl := selectedResource_run hselected
  split_ifs at hrest
  · exact submit_run rfl hrest
  · obtain ⟨rfl, hui⟩ := hrest
    cases hui
    exact ⟨uneventful_nil, rfl⟩

/-- The branches that look at a snapshot open the dialog of the selected row, or none. -/
theorem handleResource_run {snapshot : Option DashboardSnapshot}
    (hnone : ui.pendingAction = .none)
    (h : (handleResource ui event snapshot).Run t (ui', handled)) :
    Matches ui' (snapshot.bind (opened ui event)) ∧ Uneventful t := by
  cases snapshot with
  | none =>
    obtain ⟨rfl, hui⟩ := h
    cases hui
    exact ⟨hnone, uneventful_nil⟩
  | some snapshot =>
    simp only [handleResource] at h
    rw [Option.bind_some]
    by_cases hservice : ¬ ui.searching ∧ ui.tab = 0 ∧ (event = .char 's' ∨ event = .char 'r') ∧
        ui.row < itemCount snapshot ui.tab
    · rw [if_pos hservice] at h
      obtain ⟨service, hrow, huneventful, rfl⟩ := openServiceDialog_run h
      obtain ⟨hsearching, htab, hevent, hbound⟩ := hservice
      have hopened : opened ui event snapshot = serviceDialog event service := by
        rw [opened, if_neg (by simp [hsearching, hbound]), if_pos htab, hrow]
        rfl
      rw [hopened]
      refine ⟨?_, huneventful⟩
      rcases hevent with rfl | rfl
      · exact ⟨by simp, by simpa using hsearching, rfl, rfl, by simp⟩
      · exact ⟨by simp [UiEvent.char], by simpa using hsearching, rfl, rfl, by simp [UiEvent.char]⟩
    rw [if_neg hservice] at h
    by_cases hprocess : ¬ ui.searching ∧ ui.tab = 2 ∧ (event = .char 'k' ∨ event = .char 'K') ∧
        ui.row < itemCount snapshot ui.tab
    · rw [if_pos hprocess] at h
      obtain ⟨process, hrow, huneventful, rfl⟩ := openProcessDialog_run h
      obtain ⟨hsearching, htab, hevent, hbound⟩ := hprocess
      have hopened : opened ui event snapshot = processDialog event process := by
        rw [opened, if_neg (by simp [hsearching, hbound]), if_neg (by simp [htab]), if_pos htab, hrow]
        rfl
      rw [hopened, processTarget_eq]
      refine ⟨?_, huneventful⟩
      rcases hevent with rfl | rfl
      · exact ⟨by simp, by simpa using hsearching, rfl, rfl, by simp⟩
      · exact ⟨by simp [UiEvent.char], by simpa using hsearching, rfl, rfl, by simp [UiEvent.char]⟩
    rw [if_neg hprocess] at h
    rw [opened_eq_none hservice hprocess]
    -- no dialog is opened
    split_ifs at h
    · obtain ⟨huneventful, rfl⟩ := showResource_run h
      exact ⟨hnone, huneventful⟩
    · obtain ⟨huneventful, rfl⟩ := showLogs_run h
      exact ⟨hnone, huneventful⟩
    all_goals
      obtain ⟨rfl, hui⟩ := h
      cases hui
      exact ⟨hnone, uneventful_nil⟩

theorem escapeCloses_run {closes : Bool} (h : (escapeCloses ui event).Run t closes) :
    Uneventful t := by
  unfold escapeCloses at h
  split_ifs at h
  · rw [h.1]
    exact uneventful_nil
  · rw [h.1]
    exact uneventful_nil
  · obtain ⟨x, t₁, t₂, hresult, ⟨rfl, -⟩, rfl⟩ := Prog.run_bind_iff.mp h
    obtain rfl := Prog.run_perform.mp hresult
    exact uneventful_singleton rfl rfl

/-- One call without consequences for dialogs, and new variables. -/
theorem call_run {c : TuiCall} {next : Ui} (hsnapshot : ∀ x, snapshotOf ⟨c, x⟩ = none)
    (hsubmit : ∀ x, submittedBy ⟨c, x⟩ = none)
    (h : (tui c >>= fun _ => pure (next, true)).Run t (ui', handled)) :
    Uneventful t ∧ ui' = next := by
  obtain ⟨x, t₁, t₂, hcall, hend, rfl⟩ := Prog.run_bind_iff.mp h
  obtain rfl := Prog.run_perform.mp hcall
  obtain ⟨rfl, hui⟩ := hend
  cases hui
  exact ⟨uneventful_singleton (hsnapshot x) (hsubmit x), rfl⟩

/-- While no dialog is open, one may be opened and nothing is confirmed. -/
theorem handleView_run (hnone : ui.pendingAction = .none)
    (h : (handleView ui event).Run t (ui', handled)) :
    Matches ui' ((snapshotRead t).bind (opened ui event)) ∧ submitted t = [] := by
  obtain ⟨closes, t₁, t₂, hescape, hrest, rfl⟩ := Prog.run_bind_iff.mp h
  have huneventful := escapeCloses_run hescape
  rw [huneventful.snapshotRead_append, submitted_append, huneventful.submitted]
  have hquiet : Uneventful t₂ ∧ ui'.pendingAction = .none →
      Matches ui' ((snapshotRead t₂).bind (opened ui event)) ∧ [] ++ submitted t₂ = [] := by
    rintro ⟨ht₂, hui⟩
    rw [ht₂.snapshotRead, ht₂.submitted]
    exact ⟨hui, rfl⟩
  cases closes with
  | true =>
    obtain ⟨ht₂, rfl⟩ := call_run (fun _ => rfl) (fun _ => rfl) hrest
    exact hquiet ⟨ht₂, hnone⟩
  | false =>
    rw [if_neg (by decide)] at hrest
    split_ifs at hrest
    · obtain ⟨ht₂, rfl⟩ := call_run (fun _ => rfl) (fun _ => rfl) hrest
      exact hquiet ⟨ht₂, hnone⟩
    · obtain ⟨ht₂, rfl⟩ := call_run (fun _ => rfl) (fun _ => rfl) hrest
      exact hquiet ⟨ht₂, hnone⟩
    iterate 4
      · obtain ⟨rfl, hui⟩ := hrest
        cases hui
        exact hquiet ⟨uneventful_nil, hnone⟩
    · -- the only branch that reads a snapshot
      obtain ⟨snapshot, t₃, t₄, hsnapshot, hresource, rfl⟩ := Prog.run_bind_iff.mp hrest
      obtain rfl := Prog.run_perform.mp hsnapshot
      obtain ⟨hmatches, ht₄⟩ := handleResource_run hnone hresource
      refine ⟨?_, ?_⟩
      · exact hmatches
      · exact ht₄.submitted

/-- `y` in a dialog asks again or submits what the dialog shows. -/
theorem confirmAction_run {dialog : Dialog} (hmatches : Matches ui (some dialog))
    (h : (confirmAction ui).Run t (ui', handled)) :
    (dialog.remaining = 1 ∧ Matches ui' none ∧ submitted t = [dialog.call]) ∨
      (dialog.remaining ≠ 1 ∧ Matches ui' (some { dialog with remaining := 1 }) ∧
        submitted t = []) := by
  obtain ⟨hpending, hsearching, hcall, hview, hstep⟩ := hmatches
  unfold confirmAction at h
  split_ifs at h with hfirst
  · obtain ⟨rfl, hui⟩ := h
    cases hui
    refine .inr ⟨hstep.mp hfirst, ⟨hpending, hsearching, hcall, ?_, by simp⟩, rfl⟩
    -- only the warning of the dialog changes
    obtain ⟨hkill, -⟩ := hfirst
    unfold Ui.dialog at hview ⊢
    rw [if_neg hpending] at hview
    rw [if_neg hpending]
    have hshown := Option.some.inj hview
    have haction : actionLabel ui.pendingAction = dialog.action := congrArg DialogView.action hshown
    have htarget : ui.actionTarget = dialog.target := congrArg DialogView.target hshown
    have hkilled : dialog.call = .killProcess ui.actionPid := by
      rw [hkill] at hcall
      exact (Option.some.inj hcall).symm
    dsimp only
    rw [haction, htarget, hkill, Dialog.view]
    simp [hkilled, confirmWarning]
  · have hlast : dialog.remaining = 1 := by
      by_contra hne
      exact hfirst (hstep.mpr hne)
    obtain ⟨x, t₁, t₂, hsubmit, hend, rfl⟩ := Prog.run_bind_iff.mp h
    obtain rfl := Prog.run_perform.mp hsubmit
    obtain ⟨rfl, hui⟩ := hend
    cases hui
    refine .inl ⟨hlast, rfl, ?_⟩
    have hsubmitted : submittedBy ⟨.submit (.act ui.pendingAction ui.actionTarget ui.actionPid), x⟩ =
        some dialog.call := hcall
    rw [List.append_nil, submitted_cons, hsubmitted]
    rfl

/-- **The handler follows the description** on every event. -/
theorem handle_run {dialog : Option Dialog} (hmatches : Matches ui dialog)
    (h : (handle ui event).Run t (ui', handled)) :
    Matches ui' (confirmStep dialog ui event t).1 ∧
      submitted t = (confirmStep dialog ui event t).2 := by
  cases dialog with
  | none =>
    -- no dialog: `n`, `y` and every other key mean what they mean in the view
    have hnone : ui.pendingAction = .none := hmatches
    unfold handle at h
    rw [if_neg (c := ui.pendingAction ≠ .none ∧ (event = .char 'n' ∨ event = .escape))
        (by simp [hnone]),
      if_neg (c := ui.pendingAction ≠ .none ∧ event = .char 'y') (by simp [hnone]),
      if_neg (c := ui.pendingAction ≠ .none) (by simp [hnone])] at h
    split_ifs at h
    · obtain ⟨ht, rfl⟩ := call_run (fun _ => rfl) (fun _ => rfl) h
      refine ⟨?_, ht.submitted⟩
      show Matches _ ((snapshotRead t).bind (opened ui event))
      rw [ht.snapshotRead]
      exact hnone
    · obtain ⟨rfl, hui⟩ := h
      cases hui
      exact ⟨hnone, rfl⟩
    · exact handleView_run hnone h
  | some dialog =>
    have hpending := hmatches.1
    have hsearching := hmatches.2.1
    unfold handle at h
    rw [if_neg (by simp [hsearching])] at h
    -- an open dialog: the keys of the handler in its own order
    by_cases hcancel : event = .char 'n' ∨ event = .escape
    · rw [if_pos ⟨hpending, hcancel⟩] at h
      obtain ⟨rfl, hui⟩ := h
      cases hui
      rw [confirmStep, if_pos hcancel]
      exact ⟨rfl, rfl⟩
    rw [if_neg (by simp [hcancel])] at h
    by_cases hyes : event = .char 'y'
    · rw [if_pos ⟨hpending, hyes⟩] at h
      rw [confirmStep, if_neg hcancel, if_pos hyes]
      rcases confirmAction_run hmatches h with ⟨hlast, hnone, hsubmitted⟩ | ⟨hfirst, hagain, hsubmitted⟩
      · rw [if_pos hlast]
        exact ⟨hnone, hsubmitted⟩
      · rw [if_neg hfirst]
        exact ⟨hagain, hsubmitted⟩
    · -- any other key leaves the dialog open
      rw [if_neg (by simp [hyes]), if_pos hpending] at h
      obtain ⟨rfl, hui⟩ := h
      cases hui
      rw [confirmStep, if_neg hcancel, if_neg hyes]
      exact ⟨hmatches, rfl⟩

/-- The query of the search field is no part of a dialog. -/
theorem Matches.searchQuery {dialog : Option Dialog} {query : Bytes} (h : Matches ui dialog) :
    Matches { ui with searchQuery := query } dialog := by
  cases dialog with
  | none => exact h
  | some dialog => exact h

theorem snapshotRead_append_of_uneventful {u : Trace UiThread} (hu : Uneventful u) :
    snapshotRead (t ++ u) = snapshotRead t := by
  have hnone : u.findSome? snapshotOf = none :=
    List.findSome?_eq_none_iff.mpr fun e he => (hu e he).1
  simp [snapshotRead, List.findSome?_append, hnone]

theorem dispatch_run {dialog : Option Dialog} (hmatches : Matches ui dialog)
    (h : (dispatch ui event).Run t ui') :
    Matches ui' (confirmStep dialog ui event t).1 ∧
      submitted t = (confirmStep dialog ui event t).2 := by
  obtain ⟨⟨next, handled⟩, t₁, t₂, hhandle, hrest, rfl⟩ := Prog.run_bind_iff.mp h
  obtain ⟨hnext, hsubmitted⟩ := handle_run hmatches hhandle
  -- an event nobody handles goes to the search field, which no dialog looks at
  have hsame : Uneventful t₂ →
      confirmStep dialog ui event (t₁ ++ t₂) = confirmStep dialog ui event t₁ := by
    intro ht₂
    cases dialog with
    | none => simp only [confirmStep, snapshotRead_append_of_uneventful ht₂]
    | some dialog => rfl
  cases handled with
  | true =>
    obtain ⟨rfl, rfl⟩ := hrest
    rw [hsame uneventful_nil, List.append_nil]
    exact ⟨hnext, hsubmitted⟩
  | false =>
    obtain ⟨query, t₃, t₄, hedit, ⟨rfl, rfl⟩, rfl⟩ := Prog.run_bind_iff.mp hrest
    obtain rfl := Prog.run_perform.mp hedit
    have ht₂ : Uneventful ([⟨.editSearch event next.searchQuery, query⟩] ++ []) :=
      uneventful_singleton rfl rfl
    rw [hsame ht₂, submitted_append, ht₂.submitted, List.append_nil]
    exact ⟨hnext.searchQuery, hsubmitted⟩

end

/-! ## §3 Bounds -/

/-- No list is indexed outside its bounds, whatever the calls are answered. -/
abbrev InBounds {α : Type} (p : Prog UiThread α) : Prop :=
  p.Within (S := UiThread) (· ≠ TuiCall.outOfBounds)

theorem inBounds_call {c : TuiCall} (h : c ≠ .outOfBounds) : InBounds (tui c) :=
  Prog.within_perform h

theorem inBounds_ite {α : Type} {c : Prop} [Decidable c] {p q : Prog UiThread α}
    (hp : c → InBounds p) (hq : InBounds q) : InBounds (if c then p else q) := by
  split_ifs with hc
  · exact hp hc
  · exact hq

/-- Converting a size to `int` does not make it larger. -/
theorem toInt_le (size : Nat) : toInt size ≤ size := by
  unfold toInt
  rw [Int.bmod_def]
  split_ifs <;> omega

theorem element_inBounds {α : Type} {values : List α} {index : Int} (hnonneg : 0 ≤ index)
    (hbound : index < toInt values.length) : InBounds (element values index) := by
  have hle := toInt_le values.length
  have hlt : index.toNat < values.length := by omega
  unfold element
  rw [if_neg (by omega), List.getElem?_eq_getElem hlt]
  trivial

section

variable {snapshot : DashboardSnapshot} {tab : Fin 3} {index : Int}

theorem itemCount_services (htab : tab = 0) :
    itemCount snapshot tab = toInt snapshot.services.length := if_pos htab

theorem itemCount_ports (htab : tab = 1) : itemCount snapshot tab = toInt snapshot.ports.length := by
  rw [itemCount, if_neg (by simp [htab]), if_pos htab]

theorem itemCount_processes (htab₀ : tab ≠ 0) (htab₁ : tab ≠ 1) :
    itemCount snapshot tab = toInt snapshot.processes.length := by
  rw [itemCount, if_neg htab₀, if_neg htab₁]

theorem selectedResource_inBounds : InBounds (selectedResource snapshot tab index) := by
  unfold selectedResource
  split_ifs with hout htab₀ htab₁
  · trivial
  · rw [not_or, not_lt, not_le, itemCount_services htab₀] at hout
    exact (element_inBounds hout.1 hout.2).bind fun _ => trivial
  · rw [not_or, not_lt, not_le, itemCount_ports htab₁] at hout
    exact (element_inBounds hout.1 hout.2).bind fun _ => trivial
  · rw [not_or, not_lt, not_le, itemCount_processes htab₀ htab₁] at hout
    exact (element_inBounds hout.1 hout.2).bind fun _ => trivial

theorem drawRows_inBounds {values : List Row} {selected : Int} {count : Nat} (hnonneg : 0 ≤ index)
    (hbound : index + count ≤ toInt values.length) :
    InBounds (drawRows values selected count index) := by
  induction count generalizing index with
  | zero => trivial
  | succ count ih =>
    refine (element_inBounds hnonneg (by push_cast at hbound; omega)).bind fun row => ?_
    refine (ih (by omega) (by push_cast at hbound; omega)).bind fun rest => ?_
    trivial

theorem resourcePanel_inBounds : InBounds (resourcePanel snapshot tab index) := by
  unfold resourcePanel
  dsimp only
  generalize hvalues : (if tab = 0 then snapshot.services.map Row.service
    else if tab = 1 then snapshot.ports.map Row.port
    else snapshot.processes.map Row.process) = values
  by_cases hempty : min (toInt values.length) (max 0 (index - 10) + 22) ≤ max 0 (index - 10)
  · rw [Int.toNat_of_nonpos (by omega)]
    trivial
  · exact drawRows_inBounds (le_max_left _ _) (by omega)

end

variable {ui : Ui}

theorem row_nonneg (ui : Ui) : 0 ≤ ui.row := (ui.selected ui.tab).2.1

theorem submit_inBounds {task : Task} :
    InBounds (tui (.submit task) >>= fun _ => pure (ui, true)) :=
  (inBounds_call (by simp)).bind fun _ => trivial

theorem showLogs_inBounds {snapshot : DashboardSnapshot} : InBounds (showLogs ui snapshot) := by
  unfold showLogs
  split_ifs with hservice hprocess
  · rw [itemCount_services hservice.1] at hservice
    exact (element_inBounds (row_nonneg ui) hservice.2).bind fun _ => submit_inBounds
  · rw [itemCount_processes (by simp [hprocess.1]) (by simp [hprocess.1])] at hprocess
    exact (element_inBounds (row_nonneg ui) hprocess.2).bind fun _ => submit_inBounds
  · exact submit_inBounds

theorem handleResource_inBounds {event : UiEvent} {snapshot : Option DashboardSnapshot} :
    InBounds (handleResource ui event snapshot) := by
  cases snapshot with
  | none => trivial
  | some snapshot =>
    have hclear : ∀ next : Ui, InBounds (tui .clear >>= fun _ => pure (next, true)) :=
      fun next => (inBounds_call (by simp)).bind fun _ => trivial
    simp only [handleResource]
    refine inBounds_ite (fun hservice => ?_) ?_
    · obtain ⟨-, htab, -, hbound⟩ := hservice
      rw [itemCount_services htab] at hbound
      exact (element_inBounds (row_nonneg ui) hbound).bind fun _ => hclear _
    refine inBounds_ite (fun hprocess => ?_) ?_
    · obtain ⟨-, htab, -, hbound⟩ := hprocess
      rw [itemCount_processes (by simp [htab]) (by simp [htab])] at hbound
      exact (element_inBounds (row_nonneg ui) hbound).bind fun _ => hclear _
    refine inBounds_ite (fun _ => ?_) ?_
    · refine selectedResource_inBounds.bind fun resource => ?_
      split_ifs
      · exact submit_inBounds
      · trivial
    refine inBounds_ite (fun _ => showLogs_inBounds) ?_
    split_ifs <;> trivial

theorem handleView_inBounds {event : UiEvent} : InBounds (handleView ui event) := by
  have hcall : ∀ (c : TuiCall) (next : Ui), c ≠ .outOfBounds →
      InBounds (tui c >>= fun _ => pure (next, true)) :=
    fun c next hc => (inBounds_call hc).bind fun _ => trivial
  have hescape : InBounds (escapeCloses ui event) := by
    unfold escapeCloses
    split_ifs
    · trivial
    · trivial
    · exact (inBounds_call (by simp)).bind fun _ => trivial
  refine hescape.bind fun closes => ?_
  split_ifs
  · exact hcall _ _ (by simp)
  · exact hcall _ _ (by simp)
  · exact hcall _ _ (by simp)
  · trivial
  · trivial
  · trivial
  · trivial
  · exact (inBounds_call (by simp)).bind fun _ => handleResource_inBounds

/-- **The handler stays in bounds.** -/
theorem dispatch_inBounds (ui : Ui) (event : UiEvent) : InBounds (dispatch ui event) := by
  have hhandle : InBounds (handle ui event) := by
    unfold handle
    split_ifs
    · exact (inBounds_call (by simp)).bind fun _ => trivial
    · trivial
    · trivial
    · unfold confirmAction
      split_ifs
      · trivial
      · exact (inBounds_call (by simp)).bind fun _ => trivial
    · trivial
    · exact handleView_inBounds
  refine hhandle.bind fun next => ?_
  dsimp only
  split_ifs
  · trivial
  · exact (inBounds_call (by simp)).bind fun _ => trivial

/-- **Drawing stays in bounds.** -/
theorem draw_inBounds (ui : Ui) : InBounds (draw ui) := by
  refine (inBounds_call (by simp)).bind fun snapshot => ?_
  cases snapshot with
  | none => trivial
  | some snapshot =>
    refine Prog.Within.bind ?_ fun body => trivial
    refine (inBounds_call (by simp)).bind fun taskResult => ?_
    split
    · trivial
    · split_ifs
      · trivial
      · trivial
      · exact resourcePanel_inBounds.bind fun _ => trivial

end Lx.Tui
