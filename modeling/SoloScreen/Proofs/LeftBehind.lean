import SoloScreen.Proofs.Agreement
import SoloScreen.Proofs.DesktopMinimizer

/-!
# Which windows are left behind

On an emulated desktop without faults, follow one window through a run, together with the list of
hidden windows.

* `Stage.Adds`, `Stage.Brings`: what minimizing windows, and bringing them back, does to one window
  and the list. A command does one of the two, or forgets the list first (`Service.Effect`).
* `Service.Account`: what is known of the window, kept by every input (`Service.run_account`).
* `Service.minimized_after_shutdown_iff`: a window that the service minimized is left behind if and
  only if an episode began while it was on the list.
* `Service.restarted_session_leaves_window_behind`: this happens when a session is stopped and
  started while the same window stays full screen.

The account has two facts about the past as parameters, that the service minimized the window and
that it forgot it. All else in it is about the present stage, so each input is treated once and for
all histories, and the run lemma is an induction from the end of the run.
-/

namespace SoloScreen

open SoloScreen.Action

/-! ## One window and the list -/

/-- The list of hidden windows, and the desktop. -/
abbrev Stage := List WindowHandle × Desktop

/-- What the minimizer sees of its stage. -/
def Minimizer.stage (p : Minimizer × Workspace Desktop) : Stage := (p.1.hidden, p.2.system)

/-- The stage of a service. -/
def Service.stage (p : Service × Workspace Desktop) : Stage := (p.1.minimizer.hidden, p.2.system)

namespace Stage

/-- What minimizing windows does to one window: nothing, or it is minimized and on the list. -/
inductive Adds (window : WindowHandle) (s t : Stage) : Prop
  /-- The window is shown as before, and is on the list just if it was. -/
  | same : t.2.find? window = s.2.find? window → (window ∈ t.1 ↔ window ∈ s.1) → Adds window s t
  /-- The window was shown; now it is minimized and on the list. -/
  | hid (w : DesktopWindow) : s.2.find? window = some w → w.visible = true →
    w.state ≠ .minimized → t.2.find? window = some { w with state := .minimized } →
      window ∈ t.1 → Adds window s t

/-- Asking about the desktop, with the list left alone, adds nothing. -/
theorem Adds.of_alike {window : WindowHandle} {s t : Stage} (hlist : t.1 = s.1)
    (h : Desktop.Alike s.2 t.2) : Adds window s t :=
  .same (h.find? window) (by rw [hlist])

/-- Adding is reflexive and transitive. A window is hidden once at most: the second time it would
have to be shown. -/
theorem Adds.isPath (window : WindowHandle) : IsPath (Adds window) where
  refl _ := .same rfl Iff.rfl
  trans {s t u} h₁ h₂ := by
    cases h₁ with
    | same hfind₁ hmem₁ =>
      cases h₂ with
      | same hfind₂ hmem₂ => exact .same (hfind₂.trans hfind₁) (hmem₂.trans hmem₁)
      | hid w hw hvisible hstate hfind hmem =>
        exact .hid w (hfind₁ ▸ hw) hvisible hstate hfind hmem
    | hid w hw hvisible hstate hfind₁ hmem₁ =>
      cases h₂ with
      | same hfind₂ hmem₂ =>
        exact .hid w hw hvisible hstate (hfind₂.trans hfind₁) (hmem₂.mpr hmem₁)
      | hid w' hw' _ hstate' _ _ =>
        -- it is minimized, so it cannot be minimized again
        rw [hfind₁] at hw'
        exact absurd (Option.some.inj hw' ▸ rfl) hstate'

/-- Asking a window to minimize, with the window put on the list if it yields. To yield is to pass
the live checks and to obey, so the window that is hidden was shown before. -/
theorem Adds.of_asked {window other : WindowHandle} {s t : Stage} (hdesk : t.2 = s.2.asked other)
    (hmem : window ∈ t.1 ↔ window ∈ s.1 ∨ (window = other ∧ s.2.yields other)) :
    Adds window s t := by
  by_cases h : window = other ∧ s.2.yields other
  · obtain ⟨rfl, hyields⟩ := h
    have heligible : s.2.isEligible window = true := by
      simp only [Desktop.yields, Bool.and_eq_true] at hyields
      exact hyields.1
    obtain ⟨w, hw, hvisible, -, hstate⟩ := Desktop.exists_of_isEligible heligible
    have hfind := (Desktop.find?_of_window hw).1
    refine .hid w hfind hvisible hstate ?_ (hmem.mpr (.inr ⟨rfl, hyields⟩))
    simp [hdesk, Desktop.find?_asked, hyields, hfind]
  · refine .same ?_ (by simpa [h] using hmem)
    rw [hdesk, Desktop.find?_asked, if_neg h]

/-- What bringing the windows of the list back does to one window: nothing, or it was on the list
and is shown again. A window on the list that answers and obeys is shown again. -/
inductive Brings (window : WindowHandle) (s t : Stage) : Prop
  /-- The window is shown as before; if it was on the list, it did not answer or did not obey. -/
  | same : t.2.find? window = s.2.find? window → (window ∈ s.1 → s.2.returns window = false) →
    Brings window s t
  /-- The window was on the list and is shown again, in some state other than minimized. -/
  | back (w : DesktopWindow) (state : ShowState) : window ∈ s.1 → s.2.find? window = some w →
    state ≠ .minimized → t.2.find? window = some { w with state } → Brings window s t

/-- Questions that are asked before the windows are brought back make no difference. -/
theorem Brings.of_alike {window : WindowHandle} {r s t : Stage} (hlist : s.1 = r.1)
    (hdesk : Desktop.Alike r.2 s.2) (h : Brings window s t) : Brings window r t := by
  have hfind := hdesk.find? window
  cases h with
  | same hsame hreturns =>
    refine .same (hsame.trans hfind) fun hmem => ?_
    rw [← Desktop.returns_congr hfind hdesk.failing hdesk.refusing]
    exact hreturns (hlist ▸ hmem)
  | back w state hmem hw hstate hback =>
    exact .back w state (hlist ▸ hmem) (hfind ▸ hw) hstate hback

/-- How far the windows of the list have been called back when `rest` is still to be called: nothing
has happened to the window yet, and it is still to come if it returns; or it has come back. -/
inductive Recalling (window : WindowHandle) (s : Stage) (rest : List WindowHandle) (D : Desktop) :
    Prop
  /-- Nothing happened to the window yet; on the list it is still to be called, or it does not
  return. -/
  | waiting : D.find? window = s.2.find? window → Desktop.Framed s.2 D →
    (window ∈ s.1 → window ∈ rest ∨ s.2.returns window = false) → Recalling window s rest D
  /-- The window was called and came back. -/
  | back (w : DesktopWindow) (state : ShowState) : window ∈ s.1 → s.2.find? window = some w →
    state ≠ .minimized → D.find? window = some { w with state } → Recalling window s rest D

/-- One window is called back. That what is remembered of a window is a state in which it is shown
is an invariant of the desktop, and it makes the window that is called come back as not
minimized. -/
theorem Recalling.step {window other : WindowHandle} {s : Stage} {rest : List WindowHandle}
    {D : Desktop} (h : Recalling window s (other :: rest) D) (hother : other ∈ s.1)
    (hsound : D.Sound) : Recalling window s rest (D.recalled other) := by
  have hfind := Desktop.find?_recalled other window D
  by_cases hcalled : window = other ∧ D.returns other
  · -- it comes back now, as it is remembered
    obtain ⟨rfl, hreturns⟩ := hcalled
    rw [if_pos ⟨rfl, hreturns⟩] at hfind
    have hstate : (D.remembered.find? window).getD .normal ≠ .minimized := by
      have hshown := hsound.shown window
      rcases hremembered : D.remembered.find? window with _ | state
      · simp
      · simpa [hremembered] using hshown
    cases h with
    | waiting hsame _ _ =>
      obtain ⟨w, hw⟩ := Desktop.exists_of_returns hreturns
      rw [hw] at hfind
      exact .back w _ hother (hsame ▸ hw) hstate hfind
    | back w state hmem hw _ hback =>
      rw [hback] at hfind
      exact .back w _ hmem hw hstate hfind
  · rw [if_neg hcalled] at hfind
    cases h with
    | back w state hmem hw hstate hback => exact .back w state hmem hw hstate (hfind.trans hback)
    | waiting hsame hframed hlist =>
      refine .waiting (hfind.trans hsame) (hframed.trans (Desktop.recalled_of_calls
        (fun call => Desktop.answer_framed D call) (.refl D) other)) fun hmem => ?_
      rcases hlist hmem with hrest | hreturns
      · rcases List.mem_cons.mp hrest with rfl | hrest
        · rw [← Desktop.returns_congr hsame hframed.failing hframed.refusing]
          exact .inr (by simpa using hcalled)
        · exact .inl hrest
      · exact .inr hreturns

/-- With nobody left to be called, the windows of the list have been brought back. -/
theorem Recalling.brings {window : WindowHandle} {s t : Stage} (h : Recalling window s [] t.2) :
    Brings window s t := by
  cases h with
  | waiting hsame hframed hlist => exact .same hsame fun hmem => by simpa using hlist hmem
  | back w state hmem hw hstate hback => exact .back w state hmem hw hstate hback

end Stage

/-! ## What the minimizer does to it -/

namespace Minimizer

open Stage

variable (window : WindowHandle)

/-- The relation between the stages of a minimizer. -/
abbrev AddsTo (p q : Minimizer × Workspace Desktop) : Prop := Adds window (stage p) (stage q)

/-- What the steps of the minimizer add, they add together. -/
theorem AddsTo.isPath : IsPath (AddsTo window) := (Adds.isPath window).comap stage

/-- A question put to the desktop adds nothing. -/
theorem native_adds (call : NativeCall) (h : call.isQuery) :
    Follows (AddsTo window) (WindowSystem.call call : Action (Minimizer × Workspace Desktop) _) :=
  fun p => .of_exec_snd (.of_alike rfl (Desktop.answer_alike p.2.system h))

/-- Looking up the windows on a monitor adds nothing, be it with a refresh of the snapshot or
without. -/
theorem windowsOn_adds (monitor : MonitorHandle) (exclude : Option WindowHandle) :
    Follows (AddsTo window) (Workspace.windowsOn (σ := Desktop) monitor exclude).onSecond :=
  fun p => ensures_onSecond.mpr ((Workspace.queriesConform_alike.windowsOn monitor exclude p.2).mono
    (fun _ _ h => .of_alike rfl h) fun _ h => .of_alike rfl h)

/-- Hiding a window adds that window if it yields. -/
theorem hide_adds (other : WindowHandle) : Follows (AddsTo window) (hide (σ := Desktop) other) := by
  intro p
  rw [ensures_of_ok (hide_exec other p)]
  refine Adds.of_asked rfl ?_
  rcases hyields : p.2.system.yields other
  · simp [stage, hyields]
  · simp [stage, hyields]

/-- Hiding a window during an episode adds it too. It may be on the list already, and then it is not
put there a second time. -/
theorem hideAgain_adds (spared : Option ProcessId) (record : WindowRecord) :
    Follows (AddsTo window) (hideAgain (σ := Desktop) spared record) := by
  intro p
  have hexec := hideAgain_exec spared record p
  by_cases hspared : some record.process = spared
  · rw [if_pos hspared] at hexec
    rw [ensures_of_ok hexec]
    exact (AddsTo.isPath window).refl p
  · rw [if_neg hspared] at hexec
    rw [ensures_of_ok hexec]
    refine Adds.of_asked rfl ?_
    by_cases hmem : record.handle ∈ p.1.hidden
    · have hlisted : window = record.handle → window ∈ p.1.hidden := fun h => h ▸ hmem
      simpa [stage, hmem] using fun h _ => hlisted h
    · by_cases hyields : p.2.system.yields record.handle
      · simp [stage, hmem, hyields]
      · simp [stage, hmem, hyields]

/-- Beginning an episode forgets the list and then adds to it. -/
theorem minimizeOnMonitor_adds (monitor : MonitorHandle) (exclude : Option WindowHandle)
    (p : Minimizer × Workspace Desktop) :
    (minimizeOnMonitor monitor exclude).run.Ensures p
      (fun _ q => Adds window ([], p.2.system) (stage q))
      fun q => Adds window ([], p.2.system) (stage q) := by
  have hpath := AddsTo.isPath window
  rw [ensures_minimizeOnMonitor]
  rcases p.2.system.monitor? monitor with _ | info
  · exact hpath.refl (⟨[]⟩, p.2)
  have hasked := ensures_onSecond.mp (windowsOn_adds window monitor exclude (⟨[]⟩, p.2))
  refine hasked.mono (fun records work hwork => ?_) fun _ hwork => hwork
  have hhidden := Follows.each hpath records (hide_adds window ·.handle) (⟨[]⟩, work)
  exact hhidden.mono (fun _ _ hq => hpath.trans hwork hq) fun _ hq => hpath.trans hwork hq

/-- What happens on a focus event during an episode only adds to the list. -/
theorem minimizeBeside_adds (target : WindowHandle) (monitor : MonitorHandle) :
    Follows (AddsTo window) (minimizeBeside (σ := Desktop) target monitor).run := by
  have hpath := AddsTo.isPath window
  unfold minimizeBeside
  refine .run_bind hpath (native_adds window (.monitorInfo monitor) rfl) fun _ => ?_
  refine .run_lift (.bind hpath (native_adds window (.process target) rfl) fun owner => ?_)
  refine .bind hpath (windowsOn_adds window monitor (some target)) fun records => ?_
  exact .count hpath records fun record => hideAgain_adds window owner.toOption record

/-- Ending an episode empties the list and calls its windows back. The list is emptied first, so the
induction is on the list as it was, in the order in which the windows are called. -/
theorem restore_brings {p : Minimizer × Workspace Desktop} (hsound : p.2.system.Sound) :
    restore.Ensures p (fun _ q => q.1.hidden = [] ∧ Brings window (stage p) (stage q))
      fun _ => False := by
  unfold restore
  simp only [ensures_bind, hiddenWindows, ensures_get, ensures_pure, setHidden, ensures_modify]
  refine (Ensures.count (n := 0) (I := fun _ rest q => q.1.hidden = [] ∧ q.2.system.Sound ∧
    Recalling window (stage p) rest q.2.system) (fun _ other rest q hmem hq => ?_) ?_).mono
    (fun _ q hq => ⟨hq.1, hq.2.2.brings⟩) fun _ => id
  · obtain ⟨hempty, hsound, hrecalling⟩ := hq
    rw [ensures_of_ok (unhide_exec other q)]
    exact ⟨hempty, Desktop.recalled_of_calls (fun call => hsound.answer call) hsound other,
      hrecalling.step hmem hsound⟩
  · exact ⟨rfl, hsound, .waiting rfl (.refl _) .inl⟩

end Minimizer

/-! ## What the service does to it -/

namespace Service

open Stage

variable (window : WindowHandle)

/-- What a command does to one window and the list, where `enters` says whether an episode begins:
the command adds to the list, or forgets it first, or brings back what is on it. -/
inductive Effect (enters : Prop) (s t : Stage) : Prop
  /-- No episode begins, and windows are added or nothing happens. -/
  | adds : ¬ enters → Adds window s t → Effect enters s t
  /-- An episode begins: the list is forgotten, and windows are added to the empty one. -/
  | anew : enters → Adds window ([], s.2) t → Effect enters s t
  /-- No episode begins, and the windows of the list are brought back. -/
  | back : ¬ enters → t.1 = [] → Brings window s t → Effect enters s t

/-- A focus event adds to the list; without a window or a monitor nothing happens. -/
theorem handle_focus_adds (sighting : Sighting) :
    Follows (fun p q => Adds window (stage p) (stage q)) (handle (.targetFocused sighting)) := by
  obtain ⟨fullScreen, target, monitor, process, title⟩ := sighting
  refine fun p => ensures_handle.mpr ?_
  rcases target with _ | target
  · exact (Adds.isPath window).refl (stage p)
  rcases monitor with _ | monitor
  · exact (Adds.isPath window).refl (stage p)
  · exact Minimizer.minimizeBeside_adds window target monitor (p.1.minimizer, p.2)

/-- The begin of an episode forgets the list and adds to it. -/
theorem handle_enter_adds (record : WindowRecord) (p : Service × Workspace Desktop) :
    (handle (Detector.enterEvent record)).Ensures p
      (fun _ q => Adds window ([], p.2.system) (stage q))
      fun q => Adds window ([], p.2.system) (stage q) :=
  ensures_handle.mpr
    (Minimizer.minimizeOnMonitor_adds window record.monitor (some record.handle)
      (p.1.minimizer, p.2))

/-- Bringing the windows back as the service does it, whoever asked for it. -/
theorem restoreWindows_brings {p : Service × Workspace Desktop} (hsound : p.2.system.Sound) :
    restoreWindows.Ensures p
      (fun _ q => (stage q).1 = [] ∧ Brings window (stage p) (stage q)) fun _ => False :=
  ensures_restoreWindows.mpr (Minimizer.restore_brings window hsound)

/-- The end of an episode brings the windows back, unless the settings forbid it. -/
theorem handle_exit_effect {p : Service × Workspace Desktop} (hsound : p.2.system.Sound) :
    (handle (.fullScreenChanged .exited)).Ensures p
      (fun _ q => Effect window False (stage p) (stage q)) fun _ => False := by
  rw [ensures_handle]
  show (if p.1.settings.restoreOnFullScreenExit then ExceptT.lift Minimizer.restore
    else pure 0 : Fallible (Minimizer × Workspace Desktop) Nat).run.Ensures _ _ _
  split
  · exact ensures_run_lift.mpr ((Minimizer.restore_brings window hsound).mono
      (fun _ _ hq => .back id hq.1 hq.2) fun _ => id)
  · exact .adds id ((Adds.isPath window).refl _)

/-- Focus events only add to the list. -/
theorem handle_focus_each (focus : Option DetectorEvent)
    (hfocus : ∀ event ∈ focus, ∃ sighting, event = .targetFocused sighting) :
    Follows (fun p q => Adds window (stage p) (stage q)) (Action.each handle focus.toList) := by
  have hpath := (Adds.isPath window).comap stage
  rcases focus with _ | event
  · exact .pure hpath _
  · obtain ⟨sighting, rfl⟩ := hfocus event rfl
    exact .bind hpath (handle_focus_adds window sighting) fun _ => .pure hpath _

/-- The events of a tick are handled in one of three ways: a focus event alone, the begin of an
episode and then perhaps a focus event, or the end of an episode. -/
theorem handleAll_effect {p q : Service × Workspace Desktop} {d d' : Detector}
    {events : List DetectorEvent} (hticked : Detector.Ticked d events d')
    (hlist : q.1.minimizer = p.1.minimizer) (hdesk : Desktop.Alike p.2.system q.2.system)
    (hsound : p.2.system.Sound) :
    (Action.each handle events).Ensures q
      (fun _ r => Effect window (∃ event ∈ events, event.isEnter) (stage p) (stage r))
      fun r => Effect window (∃ event ∈ events, event.isEnter) (stage p) (stage r) := by
  have hquiet : Adds window (stage p) (stage q) := .of_alike (by simp [stage, hlist]) hdesk
  obtain ⟨focus, hfocus, hcases⟩ := hticked.events_cases
  have hnot : ∀ event ∈ focus.toList, event.isEnter = false := by
    intro event hmem
    obtain ⟨sighting, rfl⟩ := hfocus event (by simpa using hmem)
    rfl
  rcases hcases with rfl | ⟨-, record, rfl⟩ | rfl
  · have hno : ¬ ∃ event ∈ focus.toList, event.isEnter = true := by
      rintro ⟨event, hmem, henter⟩
      simp [hnot event hmem] at henter
    exact (handle_focus_each window focus hfocus q).mono
      (fun _ _ h => .adds hno ((Adds.isPath window).trans hquiet h))
      fun _ h => .adds hno ((Adds.isPath window).trans hquiet h)
  · have henter : ∃ event ∈ Detector.enterEvent record :: focus.toList, event.isEnter = true :=
      ⟨_, List.mem_cons_self, rfl⟩
    have hforget : Adds window ([], p.2.system) ([], q.2.system) := .of_alike rfl hdesk
    unfold Action.each
    rw [ensures_bind]
    refine (handle_enter_adds window record q).mono (fun _ r hr => ?_)
      fun _ hr => .anew henter ((Adds.isPath window).trans hforget hr)
    have hr := (Adds.isPath window).trans hforget hr
    exact (handle_focus_each window focus hfocus r).mono
      (fun _ _ h => .anew henter ((Adds.isPath window).trans hr h))
      fun _ h => .anew henter ((Adds.isPath window).trans hr h)
  · have hno : ¬ ∃ event ∈ [DetectorEvent.fullScreenChanged .exited], event.isEnter = true := by
      simp [DetectorEvent.isEnter, Sighting.exited]
    have hsound' : q.2.system.Sound :=
      hsound.of_eq (by rw [hdesk.windows]) hdesk.nextHandle hdesk.remembered
    unfold Action.each
    rw [ensures_bind]
    refine (handle_exit_effect window hsound').mono (fun _ r hr => ?_) fun _ => False.elim
    cases hr with
    | adds _ hadds => exact .adds hno ((Adds.isPath window).trans hquiet hadds)
    | anew henter _ => exact henter.elim
    | back _ hempty hbrings =>
      exact .back hno hempty
        (hbrings.of_alike (r := stage p) (s := stage q) (by simp [stage, hlist]) hdesk)

/-- An episode begins in a tick if and only if an event that the service handles begins one. -/
theorem exists_enter_iff {p q : Service × Workspace Desktop} {d : Detector}
    {events : List DetectorEvent} (hd : p.1.detector = some d)
    (hexec : (onDetector d Detector.tick).exec p = (.ok events, q)) :
    (∃ x ∈ tickHandlings p, x.1.isEnter = true) ↔ ∃ event ∈ events, event.isEnter = true := by
  obtain ⟨d', hticked, -⟩ := ticked_of_exec hexec
  constructor
  · rintro ⟨x, hx, henter⟩
    rw [tickHandlings_of_exec hd hexec] at hx
    obtain ⟨before, after, hevents, -⟩ := exists_of_mem_handlings hx
    exact ⟨x.1, by simp [hevents], henter⟩
  · rintro ⟨event, hmem, henter⟩
    obtain ⟨before, after, hevents⟩ := List.append_of_mem hmem
    -- the begin comes first among the events, so it is handled for certain
    obtain ⟨rfl, -⟩ := hticked.enter_first hevents henter
    refine ⟨(event, q), ?_, henter⟩
    rw [tickHandlings_of_exec hd hexec, hevents]
    exact head_mem_handlings event after q

/-- What a tick does to one window and the list. -/
theorem poll_effect {p : Service × Workspace Desktop} (hsound : p.2.system.Sound) :
    poll.Ensures p
      (fun _ q => Effect window (∃ x ∈ tickHandlings p, x.1.isEnter) (stage p) (stage q))
      fun _ => False := by
  refine poll_ensures (I := fun q =>
    Effect window (∃ x ∈ tickHandlings p, x.1.isEnter) (stage p) (stage q)) ?_
    fun q d loop clock hq _ => hq
  unfold round
  rw [ensures_bind, ensures_read]
  rcases hd : p.1.detector with _ | d
  · exact .adds (by simp [tickHandlings, hd]) ((Adds.isPath window).refl _)
  dsimp only
  rw [ensures_bind]
  have hquiet : (onDetector d Detector.tick).Ensures p
      (fun _ q => q.1.minimizer = p.1.minimizer ∧ Desktop.Alike p.2.system q.2.system)
      fun q => q.1.minimizer = p.1.minimizer ∧ Desktop.Alike p.2.system q.2.system :=
    ensures_onDetector.mpr ((Detector.tick_conforms Workspace.queriesConform_alike (d, p.2)).mono
      (fun _ _ h => ⟨rfl, h⟩) fun _ h => ⟨rfl, h⟩)
  rcases hexec : (onDetector d Detector.tick).exec p with ⟨e | events, q⟩
  · rw [ensures_of_error hexec] at hquiet ⊢
    refine .adds (by simp [tickHandlings, hd, hexec]) (.of_alike ?_ hquiet.2)
    simp [stage, hquiet.1]
  · rw [ensures_of_ok hexec] at hquiet ⊢
    rw [exists_enter_iff hd hexec]
    obtain ⟨d', hticked, -⟩ := ticked_of_exec hexec
    exact handleAll_effect window hticked hquiet.1 hquiet.2 hsound

/-- What a command does to one window and the list. Only a tick can begin an episode; of the others,
those that bring windows back do so from a stage that is still untouched. -/
theorem act_effect {p : Service × Workspace Desktop} (hsound : p.2.system.Sound)
    (command : Command) :
    command.act.Ensures p
      (fun _ q => Effect window
        (∃ x ∈ (Input.command command : Input Desktop.Event).handlings p, x.1.isEnter)
        (stage p) (stage q)) fun _ => False := by
  have hsame : ∀ q : Service × Workspace Desktop, Untouched p q → stage q = stage p := by
    intro q hq
    unfold stage
    rw [hq.minimizer, hq.desk.1]
  have hquiet : ∀ q : Service × Workspace Desktop, Untouched p q →
      Effect window False (stage p) (stage q) := fun q hq => by
    rw [hsame q hq]
    exact .adds id ((Adds.isPath window).refl _)
  by_cases htick : command = .tick
  · subst htick
    exact poll_effect window hsound
  have hno : ¬ ∃ x ∈ (Input.command command : Input Desktop.Event).handlings p, x.1.isEnter := by
    cases command <;> simp_all [Input.handlings]
  rw [eq_false hno]
  have hrestore : ∀ q : Service × Workspace Desktop, Untouched p q →
      restoreWindows.Ensures q (fun _ r => Effect window False (stage p) (stage r))
        fun _ => False := fun q hq => by
    rw [← hsame q hq]
    refine (restoreWindows_brings window ?_).mono (fun _ r hr => .back id hr.1 hr.2) fun _ => id
    rw [hq.desk.1]
    exact hsound
  cases command with
  | tick => exact absurd rfl htick
  | start => exact (startWith_untouched none p).mono (fun _ q => hquiet q) fun _ => id
  | stop => exact (stop_ensures p).mono (fun _ q hq => hquiet q hq.toUntouched) fun _ => id
  | update settings =>
    exact ensures_bind.mpr ((updateSettings_ensures settings p).mono
      (fun _ q hq => hquiet q ⟨hq.2.minimizer, hq.1⟩) fun _ => id)
  | restoreManually => exact ensures_bind.mpr (hrestore p ⟨rfl, rfl, rfl⟩)
  | settingsClosed =>
    unfold Command.act Service.settingsClosed
    rw [ensures_bind, ensures_bind, ensures_read]
    split
    · exact hrestore p ⟨rfl, rfl, rfl⟩
    · exact hquiet p ⟨rfl, rfl, rfl⟩
  | shutdown =>
    unfold Command.act Service.shutdown
    rw [ensures_bind, ensures_bind]
    refine (stop_ensures p).mono (fun _ q hq => ?_) fun _ => id
    rw [ensures_bind, ensures_read]
    split
    · exact hrestore q hq.toUntouched
    · exact hquiet q hq.toUntouched

/-! ## The account of one window -/

/-- What is known of a window. It may have been minimized by the service (`moved`) and forgotten,
when an episode began while it was on the list (`forgotten`). -/
structure Account (moved forgotten : Prop) (s : Stage) : Prop where
  /-- A window of which there is something to say was opened. -/
  opened : moved ∨ forgotten ∨ window ∈ s.1 → window.raw < s.2.nextHandle
  /-- A window on the list is minimized and visible. -/
  listed : window ∈ s.1 → ∀ w, s.2.find? window = some w → w.state = .minimized ∧ w.visible = true
  /-- A window that was minimized and not forgotten is on the list as long as it is minimized. -/
  held : moved → ¬ forgotten → s.2.isMinimized window → window ∈ s.1
  /-- A forgotten window stays minimized, and the service does not find it again. -/
  lost : forgotten → ∀ w, s.2.find? window = some w → w.state = .minimized ∧ window ∉ s.1

variable {window}

/-- Something happened to the desktop, but the window is shown as before, or gone. -/
theorem Account.of_find? {moved forgotten : Prop} {s t : Stage}
    (h : Account window moved forgotten s) (hlist : t.1 = s.1)
    (hnext : s.2.nextHandle ≤ t.2.nextHandle)
    (hfind : t.2.find? window = none ∨ t.2.find? window = s.2.find? window) :
    Account window moved forgotten t where
  opened hsome := by
    have := h.opened (hlist ▸ hsome)
    omega
  listed hmem w hw := by
    rcases hfind with hnone | hsame
    · simp [hnone] at hw
    · exact h.listed (hlist ▸ hmem) w (hsame ▸ hw)
  held hmoved hnot hmin := by
    obtain ⟨w, hw, hstate⟩ := Desktop.isMinimized_iff.mp hmin
    rcases hfind with hnone | hsame
    · simp [hnone] at hw
    · rw [hlist]
      exact h.held hmoved hnot (Desktop.isMinimized_iff.mpr ⟨w, hsame ▸ hw, hstate⟩)
  lost hforgotten w hw := by
    rcases hfind with hnone | hsame
    · simp [hnone] at hw
    · rw [hlist]
      exact h.lost hforgotten w (hsame ▸ hw)

/-- A window that is not opened yet has no account: its handle is still to be given out, and the
service never minimized, listed or forgot it. -/
theorem Account.of_unopened {moved forgotten : Prop} {s t : Stage}
    (h : Account window moved forgotten s) (hlist : t.1 = s.1)
    (hnew : ¬ window.raw < s.2.nextHandle) : Account window moved forgotten t where
  opened hsome := absurd (h.opened (hlist ▸ hsome)) hnew
  listed hmem := absurd (h.opened (.inr (.inr (hlist ▸ hmem)))) hnew
  held hmoved := absurd (h.opened (.inl hmoved)) hnew
  lost hforgotten := absurd (h.opened (.inr (.inl hforgotten))) hnew

/-- The account after something happened outside, if the user does not change how the window is
shown. -/
theorem Account.event {moved forgotten : Prop} {s : Stage} (h : Account window moved forgotten s)
    (event : Desktop.Event) (hevent : ∀ state, event ≠ .setShowState window state) :
    Account window moved forgotten (s.1, event.apply s.2) := by
  cases event with
  | openWindow w =>
    by_cases hnew : window.raw < s.2.nextHandle
    · refine h.of_find? rfl ?_ (.inr ?_)
      · show s.2.nextHandle ≤ s.2.nextHandle + 0x10
        omega
      · show ((s.2.openWindow w).2).find? window = _
        rw [Desktop.find?_openWindow, if_neg]
        rintro rfl
        simp at hnew
    · exact h.of_unopened rfl hnew
  | closeWindow other =>
    refine h.of_find? rfl (Int.le_refl _) ?_
    show (s.2.closeWindow other).find? window = none ∨ (s.2.closeWindow other).find? window = _
    rw [Desktop.find?_closeWindow]
    split
    · exact .inl rfl
    · exact .inr rfl
  | setShowState other state =>
    refine h.of_find? rfl (Int.le_refl _) (.inr ?_)
    show (s.2.setShowState other state).find? window = _
    rw [Desktop.find?_setShowState, if_neg]
    rintro rfl
    exact hevent state rfl
  | _ => exact h.of_find? rfl (Int.le_refl _) (.inr rfl)

/-- Forgetting the list forgets the window if it is on it. This is where a window is lost: it is
minimized, and nothing remembers that it is to be brought back. -/
theorem Account.forget {moved forgotten : Prop} {s : Stage} (h : Account window moved forgotten s) :
    Account window moved (forgotten ∨ window ∈ s.1) ([], s.2) where
  opened hsome := by
    rcases hsome with hmoved | (hforgotten | hmem) | hmem
    · exact h.opened (.inl hmoved)
    · exact h.opened (.inr (.inl hforgotten))
    · exact h.opened (.inr (.inr hmem))
    · simp at hmem
  listed hmem := by simp at hmem
  held hmoved hnot hmin :=
    absurd (.inr (h.held hmoved (fun hforgotten => hnot (.inl hforgotten)) hmin)) hnot
  lost hforgotten w hw := by
    rcases hforgotten with hforgotten | hmem
    · exact ⟨(h.lost hforgotten w hw).1, List.not_mem_nil⟩
    · exact ⟨(h.listed hmem w hw).1, List.not_mem_nil⟩

/-- The window was not minimized and is minimized now. -/
def Flips (window : WindowHandle) (s t : Stage) : Prop :=
  s.2.isMinimized window = false ∧ t.2.isMinimized window = true

/-- The account after windows were added. If this window was, it is new on the list, and it cannot
have been forgotten, for a forgotten window is minimized already. -/
theorem Account.adds {moved forgotten : Prop} {s t : Stage} (h : Account window moved forgotten s)
    (hadds : Adds window s t) (hsound : s.2.Sound) (hnext : t.2.nextHandle = s.2.nextHandle) :
    Account window (moved ∨ Flips window s t) forgotten t := by
  cases hadds with
  | same hfind hmem =>
    have hflips : ¬ Flips window s t := fun ⟨hbefore, hafter⟩ => by
      rw [Desktop.isMinimized, hfind] at hafter
      exact absurd (hbefore.symm.trans hafter) (by simp)
    simp only [hflips, or_false]
    refine ⟨fun hsome => ?_, fun hmem' => ?_, fun hmoved hnot hmin => ?_, fun hforgotten w hw => ?_⟩
    · rw [hnext]
      exact h.opened (by rwa [hmem] at hsome)
    · rw [hfind]
      exact h.listed (hmem.mp hmem')
    · rw [Desktop.isMinimized, hfind] at hmin
      exact hmem.mpr (h.held hmoved hnot hmin)
    · rw [hmem]
      exact h.lost hforgotten w (hfind ▸ hw)
  | hid w hw hvisible hstate hfind hmem =>
    -- a window that was not minimized is not forgotten
    have hnot : ¬ forgotten := fun hforgotten => hstate (h.lost hforgotten w hw).1
    refine ⟨fun _ => ?_, fun _ w' hw' => ?_, fun _ _ _ => hmem,
      fun hforgotten => absurd hforgotten hnot⟩
    · rw [hnext]
      exact hsound.lt_nextHandle hw
    · rw [hfind] at hw'
      exact Option.some.inj hw' ▸ ⟨rfl, hvisible⟩

/-- The account after the windows of the list were brought back. A window that was held is on the
list, and on a desktop without faults all of these return. -/
theorem Account.brings {moved forgotten : Prop} {s t : Stage} (h : Account window moved forgotten s)
    (hempty : t.1 = []) (hbrings : Brings window s t) (hfaultless : s.2.Faultless)
    (hnext : t.2.nextHandle = s.2.nextHandle) :
    Account window (moved ∨ Flips window s t) forgotten t := by
  have hnil : window ∉ t.1 := by simp [hempty]
  have hflips : ¬ Flips window s t := by
    rintro ⟨hbefore, hafter⟩
    cases hbrings with
    | same hfind _ =>
      rw [Desktop.isMinimized, hfind] at hafter
      exact absurd (hbefore.symm.trans hafter) (by simp)
    | back w state _ _ hstate hback =>
      simp [Desktop.isMinimized, hback, hstate] at hafter
  simp only [hflips, or_false]
  refine ⟨fun hsome => ?_, fun hmem => absurd hmem hnil, fun hmoved hnot hmin => ?_,
    fun hforgotten w' hw' => ⟨?_, hnil⟩⟩
  · rw [hnext]
    exact h.opened (hsome.imp_right (Or.imp_right fun hmem => absurd hmem hnil))
  · -- it was on the list, so it has come back
    obtain ⟨w, hw, hstate⟩ := Desktop.isMinimized_iff.mp hmin
    cases hbrings with
    | same hfind hreturns =>
      have hmem := h.held hmoved hnot (Desktop.isMinimized_iff.mpr ⟨w, hfind ▸ hw, hstate⟩)
      have hvisible := (h.listed hmem w (hfind ▸ hw)).2
      have := hreturns hmem
      rw [Desktop.returns_of_isShown hfaultless, Desktop.isShown, hfaultless.window,
        show s.2.find? window = some w from hfind ▸ hw] at this
      simp [hvisible] at this
    | back w' state _ _ hstate' hback =>
      simp [Desktop.isMinimized, hback, hstate'] at hmin
  · cases hbrings with
    | same hfind _ => exact (h.lost hforgotten w' (hfind ▸ hw')).1
    | back w _ hmem hw _ _ => exact absurd hmem (h.lost hforgotten w hw).2

/-- The account after a command: the window may have been minimized in it, and it has been forgotten
if an episode began while it was on the list. -/
theorem Account.effect {moved forgotten enters : Prop} {s t : Stage}
    (h : Account window moved forgotten s) (heffect : Effect window enters s t)
    (hsound : s.2.Sound) (hfaultless : s.2.Faultless) (hnext : t.2.nextHandle = s.2.nextHandle) :
    Account window (moved ∨ Flips window s t) (forgotten ∨ (enters ∧ window ∈ s.1)) t := by
  cases heffect with
  | adds hno hadds => simpa [hno] using h.adds hadds hsound hnext
  | anew henters hadds => simpa [henters, Flips] using h.forget.adds hadds hsound hnext
  | back hno hempty hbrings => simpa [hno] using h.brings hempty hbrings hfaultless hnext

/-! ## Along a run -/

variable (window)

/-- The service minimized the window: a command found it shown and left it minimized. -/
def MinimizedIn (inputs : List (Input Desktop.Event)) (p : Service × Workspace Desktop) : Prop :=
  ∃ before command after, inputs = before ++ .command command :: after ∧
    Flips window (stage (run Desktop.Event.apply before p))
      (stage (run Desktop.Event.apply (before ++ [.command command]) p))

/-- An episode began while the window was on the list. -/
def ForgottenIn (inputs : List (Input Desktop.Event)) (p : Service × Workspace Desktop) : Prop :=
  ∃ x ∈ runHandlings Desktop.Event.apply inputs p,
    x.1.isEnter ∧ window ∈ x.2.1.minimizer.hidden

variable {window} {inputs : List (Input Desktop.Event)} {p : Service × Workspace Desktop}

/-- The service minimized the window in a longer run if it did so before or in the last input. -/
theorem minimizedIn_append (input : Input Desktop.Event) :
    MinimizedIn window (inputs ++ [input]) p ↔
      MinimizedIn window inputs p ∨ (∃ command, input = .command command) ∧
        Flips window (stage (run Desktop.Event.apply inputs p))
          (stage (run Desktop.Event.apply (inputs ++ [input]) p)) := by
  constructor
  · rintro ⟨before, command, after, hinputs, hflips⟩
    rcases List.eq_nil_or_concat after with rfl | ⟨rest, last, rfl⟩
    · obtain ⟨rfl, hlast⟩ := List.append_inj' hinputs rfl
      obtain rfl := (List.cons.inj hlast).1
      exact .inr ⟨⟨command, rfl⟩, hflips⟩
    · refine .inl ⟨before, command, rest, ?_, hflips⟩
      rw [List.concat_eq_append, ← List.cons_append, ← List.append_assoc] at hinputs
      exact (List.append_inj' hinputs rfl).1
  · rintro (⟨before, command, after, rfl, hflips⟩ | ⟨⟨command, rfl⟩, hflips⟩)
    · exact ⟨before, command, after ++ [input], by simp, hflips⟩
    · exact ⟨inputs, command, [], rfl, hflips⟩

/-- The window was forgotten in a longer run if it was before, or if the last input began an episode
while it was on the list. The list at the begin is the one before the input, as the begin is the
first event that is handled. -/
theorem forgottenIn_append (input : Input Desktop.Event) :
    ForgottenIn window (inputs ++ [input]) p ↔ ForgottenIn window inputs p ∨
      (∃ x ∈ input.handlings (run Desktop.Event.apply inputs p), x.1.isEnter) ∧
        window ∈ (stage (run Desktop.Event.apply inputs p)).1 := by
  have hlist : ∀ x ∈ input.handlings (run Desktop.Event.apply inputs p), x.1.isEnter →
      x.2.1.minimizer = (run Desktop.Event.apply inputs p).1.minimizer := by
    intro x hx henter
    unfold Input.handlings at hx
    split at hx
    · obtain ⟨d, d', -, -, hs⟩ := enter_of_mem_tickHandlings hx henter
      rw [hs]
    · simp at hx
  unfold ForgottenIn
  rw [runHandlings_append]
  simp only [runHandlings, List.append_nil, List.mem_append]
  constructor
  · rintro ⟨x, hx | hx, henter, hmem⟩
    · exact .inl ⟨x, hx, henter, hmem⟩
    · exact .inr ⟨⟨x, hx, henter⟩, by rwa [hlist x hx henter] at hmem⟩
  · rintro (⟨x, hx, henter, hmem⟩ | ⟨⟨x, hx, henter⟩, hmem⟩)
    · exact ⟨x, .inl hx, henter, hmem⟩
    · exact ⟨x, .inr hx, henter, by rwa [hlist x hx henter]⟩

/-- A run without faults stays on a desktop without faults. -/
theorem run_faultless (hfaultless : p.2.system.Faultless)
    (hfaults : ∀ event, .outside event ∈ inputs → event.isFault = false) :
    (run Desktop.Event.apply inputs p).2.system.Faultless := by
  induction inputs generalizing p with
  | nil => exact hfaultless
  | cons input rest ih =>
    refine ih ?_ fun event hmem => hfaults event (List.mem_cons_of_mem _ hmem)
    cases input with
    | outside event => exact hfaultless.apply (hfaults event List.mem_cons_self)
    | command command =>
      exact hfaultless.of_framed ((act_calls Desktop.callsConform_framed command).exec_snd p)

/-- Every run stays on a sound desktop. -/
theorem run_sound (hsound : p.2.system.Sound) :
    (run Desktop.Event.apply inputs p).2.system.Sound := by
  induction inputs generalizing p with
  | nil => exact hsound
  | cons input rest ih =>
    refine ih ?_
    cases input with
    | outside event => exact hsound.apply event
    | command command => exact (act_calls Desktop.callsConform_sound command).exec_snd p hsound

/-- The account is kept along a run without faults in which the user does not change how the window
is shown. -/
theorem run_account (hsound : p.2.system.Sound) (hfaultless : p.2.system.Faultless)
    (hempty : p.1.minimizer.hidden = [])
    (hfaults : ∀ event, .outside event ∈ inputs → event.isFault = false)
    (huser : ∀ state, .outside (.setShowState window state) ∉ inputs) :
    Account window (MinimizedIn window inputs p) (ForgottenIn window inputs p)
      (stage (run Desktop.Event.apply inputs p)) := by
  induction inputs using List.reverseRecOn with
  | nil =>
    have hmoved : ¬ MinimizedIn window [] p := by
      rintro ⟨before, command, after, hinputs, -⟩
      simp at hinputs
    have hforgotten : ¬ ForgottenIn window [] p := by
      rintro ⟨x, hx, -⟩
      simp [runHandlings] at hx
    have hnot : window ∉ (stage p).1 := by simp [stage, hempty]
    exact ⟨fun h => by simp [hmoved, hforgotten, hnot] at h, fun h => absurd h hnot,
      fun h => absurd h hmoved, fun h => absurd h hforgotten⟩
  | append_singleton inputs input ih =>
    have hfaults' : ∀ event, .outside event ∈ inputs → event.isFault = false :=
      fun event hmem => hfaults event (List.mem_append_left _ hmem)
    have haccount := ih hfaults' fun state hmem => huser state (List.mem_append_left _ hmem)
    have hsound' : (run Desktop.Event.apply inputs p).2.system.Sound := run_sound hsound
    have hfaultless' := run_faultless hfaultless hfaults'
    rw [minimizedIn_append, forgottenIn_append, run_append, run_cons, run_nil]
    generalize run Desktop.Event.apply inputs p = q at hsound' hfaultless' haccount ⊢
    cases input with
    | outside event =>
      have hno : ¬ ∃ command, Input.outside event = .command command := by simp
      have hquiet : ¬ ∃ x ∈ (Input.outside event).handlings q, x.1.isEnter := by
        simp [Input.handlings]
      simp only [hno, hquiet, false_and, or_false]
      exact haccount.event event fun state h => huser state (by simp [h])
    | command command =>
      have hframed : q.2.system.Framed (step Desktop.Event.apply q (.command command)).2.system :=
        (act_calls Desktop.callsConform_framed command).exec_snd q
      have heffect := (act_effect window hsound' command).of_uncut.exec_snd
      have hyes : ∃ other, Input.command command = (.command other : Input Desktop.Event) :=
        ⟨command, rfl⟩
      simp only [hyes, true_and]
      exact haccount.effect heffect hsound' hfaultless' hframed.nextHandle

/-- A restoring shutdown leaves the list empty. -/
theorem shutdown_hidden (hflag : p.1.settings.restoreOnAppExit = true) :
    (step Desktop.Event.apply p (.command .shutdown)).1.minimizer.hidden = [] := by
  have h : (Command.act .shutdown).Ensures p (fun _ q => q.1.minimizer.hidden = [])
      fun q => q.1.minimizer.hidden = [] := by
    unfold Command.act Service.shutdown
    rw [ensures_bind, ensures_bind]
    refine (stop_ensures p).mono (fun _ q hq => ?_) fun _ => False.elim
    rw [ensures_bind, ensures_read, if_pos (by rw [hq.settings, hflag])]
    exact (restoreWindows_hides q).mono (fun _ _ h => h.hidden) fun _ h => h.hidden
  exact h.exec_snd

/-- Which windows stay minimized when the program ends. Take a run on a desktop without faults, and
a window that the service minimized at some point of the run, whose show state the user never
changed and which is still open when the service, permitted to bring windows back, is shut down. The
window is minimized after that if and only if an episode began while it was on the list; and in an
orderly run of a service that brings windows back when full screen ends, it never is. -/
theorem minimized_after_shutdown_iff {desktop : Desktop} (hreachable : desktop.Reachable)
    (hfaultless : desktop.Faultless) (settings : Settings) {work : Workspace Desktop}
    (hwork : work.system = desktop) (window : WindowHandle) (inputs : List (Input Desktop.Event))
    (hfaults : ∀ event, .outside event ∈ inputs → event.isFault = false)
    (huser : ∀ state, .outside (.setShowState window state) ∉ inputs)
    (hminimized : MinimizedIn window inputs (withSettings settings, work))
    (hpermitted : (run Desktop.Event.apply inputs
      (withSettings settings, work)).1.settings.restoreOnAppExit = true) :
    let final := (run Desktop.Event.apply (inputs ++ [.command .shutdown])
      (withSettings settings, work)).2.system
    (final.find? window).isSome →
      ((final.isMinimized window ↔ ForgottenIn window inputs (withSettings settings, work)) ∧
        (settings.restoreOnFullScreenExit = true →
          Orderly Desktop.Event.apply inputs (withSettings settings, work) →
            final.isMinimized window = false)) := by
  intro final hopen
  obtain ⟨w, hw⟩ := Option.isSome_iff_exists.mp hopen
  set p := (withSettings settings, work) with hp
  have hfaults' : ∀ event, .outside event ∈ inputs ++ [Input.command .shutdown] →
      event.isFault = false := fun event hmem => hfaults event (by simpa using hmem)
  have huser' : ∀ state, .outside (.setShowState window state) ∉
      inputs ++ [Input.command .shutdown] := fun state hmem => huser state (by simpa using hmem)
  have haccount := run_account (p := p) (hwork ▸ hreachable.sound) (hwork ▸ hfaultless) rfl
    hfaults' huser'
  have hforgotten : ForgottenIn window (inputs ++ [.command .shutdown]) p ↔
      ForgottenIn window inputs p := by
    rw [forgottenIn_append]
    simp [Input.handlings]
  rw [hforgotten] at haccount
  -- the shutdown leaves nothing on the list, so a minimized window must be a forgotten one
  have hempty :
      window ∉ (stage (run Desktop.Event.apply (inputs ++ [.command .shutdown]) p)).1 := by
    rw [run_append, run_cons, run_nil]
    simp [stage, shutdown_hidden hpermitted]
  have hmoved : MinimizedIn window (inputs ++ [.command .shutdown]) p :=
    (minimizedIn_append _).mpr (.inl hminimized)
  have hiff : final.isMinimized window ↔ ForgottenIn window inputs p := by
    constructor
    · intro hmin
      by_contra hnot
      exact hempty (haccount.held hmoved hnot hmin)
    · intro h
      exact Desktop.isMinimized_iff.mpr ⟨w, hw, (haccount.lost h w hw).1⟩
  refine ⟨hiff, fun hflag horderly => ?_⟩
  by_contra hmin
  obtain ⟨x, hx, henter, hmem⟩ := hiff.mp (by simpa using hmin)
  rw [horderly.enter_hidden Desktop.Event.apply hflag hx henter] at hmem
  simp at hmem

/-- The demonstration desktop: the service minimizes two windows and is shut down. -/
theorem minimized_after_shutdown_iff_demo :
    let full := (DesktopWindow.titled 300 "Video").maximizedOver ⟨0, 0, 1920, 1040⟩
    let inputs : List (Input Desktop.Event) :=
      [.command .start, .outside (.openWindow full), .command .tick]
    let final := (run Desktop.Event.apply (inputs ++ [.command .shutdown])
      (withSettings {}, .unseen 0 Desktop.demo)).2.system
    MinimizedIn ⟨0x1010⟩ inputs (withSettings {}, .unseen 0 Desktop.demo) ∧
      ((final.isMinimized ⟨0x1010⟩ ↔
          ForgottenIn ⟨0x1010⟩ inputs (withSettings {}, .unseen 0 Desktop.demo)) ∧
        (({} : Settings).restoreOnFullScreenExit = true →
          Orderly Desktop.Event.apply inputs (withSettings {}, .unseen 0 Desktop.demo) →
            final.isMinimized ⟨0x1010⟩ = false)) := by
  intro full inputs final
  have hrun : Flips ⟨0x1010⟩
        (stage (run Desktop.Event.apply (inputs.take 2) (withSettings {}, .unseen 0 Desktop.demo)))
        (stage (run Desktop.Event.apply inputs (withSettings {}, .unseen 0 Desktop.demo))) ∧
      (run Desktop.Event.apply inputs
        (withSettings {}, .unseen 0 Desktop.demo)).1.settings.restoreOnAppExit = true ∧
      (final.find? ⟨0x1010⟩).isSome := by
    unfold Flips
    decide +kernel
  have hminimized : MinimizedIn ⟨0x1010⟩ inputs (withSettings {}, .unseen 0 Desktop.demo) :=
    ⟨inputs.take 2, .tick, [], rfl, hrun.1⟩
  have hfaults : ∀ event, Input.outside event ∈ inputs → event.isFault = false := by
    simp [inputs, Desktop.Event.isFault]
  have huser : ∀ state, Input.outside (.setShowState ⟨0x1010⟩ state) ∉ inputs := by
    simp [inputs]
  exact ⟨hminimized, minimized_after_shutdown_iff Desktop.reachable_demo Desktop.faultless_demo {}
    rfl ⟨0x1010⟩ inputs hfaults huser hminimized hrun.2.1 hrun.2.2⟩

/-- A session that is stopped and started while a window stays full screen leaves a window behind:
the service minimized it, nobody else touched it, and it is minimized after the shutdown. -/
theorem restarted_session_leaves_window_behind :
    let full := (DesktopWindow.titled 300 "Video").maximizedOver ⟨0, 0, 1920, 1040⟩
    let inputs : List (Input Desktop.Event) :=
      [.command .start, .outside (.openWindow full), .command .tick, .command .stop,
        .command .start, .command .tick]
    let p := (withSettings {}, Workspace.unseen 0 Desktop.demo)
    let final := (run Desktop.Event.apply (inputs ++ [.command .shutdown]) p).2.system
    Desktop.demo.Faultless ∧ (run Desktop.Event.apply inputs p).1.settings.restoreOnAppExit = true ∧
      MinimizedIn ⟨0x1010⟩ inputs p ∧ final.isMinimized ⟨0x1010⟩ = true := by
  intro full inputs p final
  have hrun : (run Desktop.Event.apply inputs p).1.settings.restoreOnAppExit = true ∧
      Flips ⟨0x1010⟩ (stage (run Desktop.Event.apply (inputs.take 2) p))
        (stage (run Desktop.Event.apply (inputs.take 3) p)) ∧
      final.isMinimized ⟨0x1010⟩ = true := by
    unfold Flips
    decide +kernel
  exact ⟨Desktop.faultless_demo, hrun.1, ⟨_, .tick, _, rfl, hrun.2.1⟩, hrun.2.2⟩

end Service

end SoloScreen
