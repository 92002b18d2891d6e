import Mathlib.Data.List.Basic
import SoloScreen.Proofs.Bounds
import SoloScreen.Proofs.DetectorRun

/-!
# A focus that is not reported

The look at the focus remembers the foreground window before it asks for the owner and the title of
it. If the title cannot be read, then nothing is reported, and the window passes for one that was
already looked at.

* `Detector.FocusMoves`: in a tick the focus goes to a window of a target while full screen lasts.
* `Detector.FocusMoves.tick_ensures`: the tick remembers the window, and reports it if the title is
  read.
* `Detector.focus_reported_iff`: if it is not read, then the focus on this window is not reported by
  a later tick either, until another window is seen in the foreground or full screen ends.

A failure in a tick is meant to leave the state as it was, so that the next tick can make up for it.
Here the one thing that the next tick would go by has been changed already.
-/

namespace SoloScreen

open SoloScreen.Action

namespace Detector

variable {σ ε : Type} [WindowSystem σ]

/-! ## The focus moves -/

/-- The workspace after the search of a tick. -/
def searched (p : Detector × Workspace σ) : Workspace σ :=
  ((Workspace.findFullScreen p.1.targets).exec p.2).2

/-- The workspace after the tick has asked for the foreground window. -/
def glanced (p : Detector × Workspace σ) : Workspace σ :=
  ((WindowSystem.call .foreground : Action (Workspace σ) _).exec (searched p)).2

/-- The workspace after the tick has asked for the owner of the foreground window. -/
def identified (window : WindowHandle) (p : Detector × Workspace σ) : Workspace σ :=
  ((Workspace.ownerName? window).exec (glanced p)).2

/-- A tick finds a full-screen window and, in the foreground, a window of a target that is not the
one looked at last. The question for its title gets the `answer`. -/
structure FocusMoves (window : WindowHandle) (answer : Except Failure String)
    (p : Detector × Workspace σ) : Prop where
  /-- The search of the tick finds a window. -/
  found : ∃ record, search p = .ok (some record)
  /-- The window is in the foreground. -/
  foreground : ((WindowSystem.call .foreground : Action (Workspace σ) _).exec (searched p)).1 =
    .ok (some window)
  /-- It is not the one looked at last. -/
  new : p.1.lastForeground ≠ some window
  /-- It belongs to a process that is watched. -/
  owner : ∃ process ∈ p.1.targets,
    ((Workspace.ownerName? window).exec (glanced p)).1 = .ok (some process)
  /-- The question for its title, which is the last one, gets the answer. -/
  title : ((WindowSystem.call (.title window) : Action (Workspace σ) _).exec
    (identified window p)).1 = .ok answer

/-- The window is remembered in any case, and reported if and only if its title is read. -/
theorem FocusMoves.tick_ensures {window : WindowHandle} {answer : Except Failure String}
    {p : Detector × Workspace σ} (h : FocusMoves window answer p) (hp : p.1.Coherent) :
    tick.Ensures p (fun produced q => q.1.lastForeground = some window ∧
      ((∃ event ∈ produced, event.focused? = some window) ↔ ∃ title, answer = .ok title))
      fun _ => False := by
  obtain ⟨record, hrecord⟩ := h.found
  obtain ⟨process, hprocess, howner⟩ := h.owner
  obtain ⟨monitor, hmonitor⟩ := Option.isSome_iff_exists.mp (hp.monitor_isSome record)
  have hfound : (Workspace.findFullScreen p.1.targets).exec p.2 = (.ok (some record), searched p) :=
    Prod.ext hrecord rfl
  have hforeground : (WindowSystem.call .foreground : Action (Workspace σ) _).exec (searched p) =
      (.ok (some window), glanced p) := Prod.ext h.foreground rfl
  have howner : (Workspace.ownerName? window).exec (glanced p) =
      (.ok (some process), identified window p) := Prod.ext howner rfl
  have hempty : ¬ p.1.targets.isEmpty = true := by
    intro hnil
    rw [List.isEmpty_iff.mp hnil] at hprocess
    cases hprocess
  have hnew : ¬ (observe (some record) p.1).2.lastForeground = some window := by
    rw [observe_lastForeground rfl]
    exact h.new
  -- the tick, call by call: the search, the foreground, the owner, and last the title
  unfold tick checkFocus
  rw [ensures_bind, ensures_get]
  dsimp only
  rw [if_neg hempty, ensures_bind, ensures_onSecond, ensures_of_ok hfound, ensures_bind,
    ensures_modifyGet, Option.isSome_some, if_pos rfl, ensures_bind, ensures_run_lift_bind]
  refine ensures_onSecond.mpr ((ensures_of_ok hforeground).mpr ?_)
  dsimp only
  rw [ensures_run_lift_bind, ensures_get, if_neg hnew, ensures_run_lift_bind, setLastForeground,
    ensures_modify, ensures_run_lift_bind, ensures_onSecond, ensures_of_ok howner]
  dsimp only
  rw [if_pos (List.contains_iff_mem.mpr hprocess), ensures_run_lift_bind, ensures_get]
  dsimp only
  rw [hmonitor]
  dsimp only
  rw [ensures_run_bind]
  refine ensures_onSecond.mpr ?_
  have hchanges : ¬ ∃ event ∈ (observe (some record) p.1).1, event.focused? = some window := by
    rintro ⟨event, hmem, hfocused⟩
    rw [focused?_of_mem_observe hmem] at hfocused
    cases hfocused
  rcases answer with failure | title
  · have htitle : (WindowSystem.call (.title window) : Action (Workspace σ) _).exec
        (identified window p) = (.ok (.error failure), _) := Prod.ext h.title rfl
    rw [ensures_of_ok htitle]
    exact ⟨rfl, iff_of_false hchanges (by simp)⟩
  · have htitle : (WindowSystem.call (.title window) : Action (Workspace σ) _).exec
        (identified window p) = (.ok (.ok title), _) := Prod.ext h.title rfl
    rw [ensures_of_ok htitle]
    refine ⟨rfl, iff_of_true ⟨_, List.mem_append_right _ (Option.mem_toList.mpr rfl), rfl⟩
      ⟨title, rfl⟩⟩

/-! ## The focus is lost -/

/-- When the focus moves to a window, the tick remembers the window, also if its title cannot be
read. So as long as nothing comes between, neither this tick nor a later one reports the focus on
it, unless the title was read the first time. -/
theorem focus_reported_iff (targets : List String) (interval : Nat)
    (episode : Option (WindowHandle × MonitorHandle)) (work : Workspace (Journaled σ))
    (apply : ε → Workspace (Journaled σ) → Workspace (Journaled σ)) (before later : List (Input ε))
    {window : WindowHandle} {answer : Except Failure String}
    (hmoves : FocusMoves window answer (run apply before (fresh targets interval episode, work)))
    (hlater : ∀ q ∈ ticks apply later
      (step apply (run apply before (fresh targets interval episode, work)) .tick),
        Undisturbed window q) :
    let p := run apply before (fresh targets interval episode, work)
    Finishes p ∧ (after p).lastForeground = some window ∧
      ((∃ q ∈ ticks apply (.tick :: later) p, ReportsFocus window q) ↔
        ∃ title, answer = .ok title) := by
  intro p
  have hcoherent : p.1.Coherent :=
    run_coherent apply before (fresh_coherent targets interval episode)
  obtain ⟨produced, q, hexec, hremembered, hreports⟩ :=
    (hmoves.tick_ensures hcoherent).exists_exec
  have hevents : events p = produced := by
    unfold events
    rw [hexec]
    rfl
  have hstep : step apply p .tick = q := congrArg Prod.snd hexec
  refine ⟨by rw [Finishes, hexec]; rfl, by rw [after, hexec]; exact hremembered, ?_⟩
  rw [← hreports, ← hevents]
  constructor
  · rintro ⟨r, hr, hfocus⟩
    rcases List.mem_cons.mp hr with rfl | hr
    · exact hfocus
    · -- a later tick finds the window remembered
      obtain ⟨between, rest, hsplit⟩ := List.append_of_mem hr
      have hbetween : ∀ s ∈ between, Undisturbed window s := by
        intro s hs
        refine hlater s ?_
        rw [hsplit]
        exact List.mem_append_left _ hs
      rw [hstep] at hsplit
      exact absurd (remembered_until hremembered hsplit hbetween) hfocus.remembered.1
  · rintro ⟨event, hmem, hfocused⟩
    exact ⟨p, List.mem_cons_self, event, hmem, hfocused⟩

/-- The title of the game cannot be read in the tick in which the focus goes to it, and only then.
The game stays in the foreground, and the next tick could read the title. -/
theorem unreadable_title_loses_focus :
    let area : Rect := ⟨0, 0, 1920, 1040⟩
    let game := (DesktopWindow.titled 1 "Game").maximizedOver area
    let window : WindowHandle := ⟨0x1000⟩
    let inputs : List (Input FaultyDesktop.Event) :=
      [.outside (.onDesktop (.addMonitor ⟨⟨0, 0, 1920, 1080⟩, area⟩)),
        .outside (.onDesktop (.addProcess 1 "game.exe")), .outside (.onDesktop (.openWindow game)),
        .tick, .outside (.onDesktop (.setForeground (some window))),
        .outside (.addRule { method := .title, subject := some 0x1000, skip := 4, times := some 1,
                             answer := .error (.platform "no title") })]
    let p := run (Workspace.outside FaultyDesktop.Event.apply) inputs
      (fresh ["game"] 500 none, Workspace.unseen 0 {})
    let q := (tick.exec p).2
    p.1.fullScreen = true ∧ p.1.lastForeground = none ∧
      ((WindowSystem.call (.title window) : Action (Workspace FaultyDesktop) _).exec
        (identified window p)).1 = .ok (.error (.platform "no title")) ∧
      q.1.lastForeground = some window ∧ events p = [] ∧
      ((WindowSystem.call .foreground : Action (Workspace FaultyDesktop) _).exec (searched q)).1 =
        .ok (some window) ∧
      ((WindowSystem.call (.title window) : Action (Workspace FaultyDesktop) _).exec
        (identified window q)).1 = .ok (.ok "Game") ∧ events q = [] := by
  decide +kernel

/-- The same game, whose title can be read, and a second tick. -/
theorem focus_reported_iff_demo :
    let area : Rect := ⟨0, 0, 1920, 1040⟩
    let game := (DesktopWindow.titled 1 "Game").maximizedOver area
    let window : WindowHandle := ⟨0x1000⟩
    let inputs : List (Input Desktop.Event) :=
      [.outside (.addMonitor ⟨⟨0, 0, 1920, 1080⟩, area⟩), .outside (.addProcess 1 "game.exe"),
        .outside (.openWindow game), .outside (.setForeground (some window))]
    let apply := Workspace.outside (Journaled.apply Desktop.Event.apply)
    let p := run apply inputs (fresh ["game"] 500 none, Workspace.unseen 0 { system := {} })
    FocusMoves window (.ok "Game") p ∧
      (∀ q ∈ ticks apply [.tick] (step apply p .tick), Undisturbed window q) ∧
        ∃ q ∈ ticks apply [.tick, .tick] p, ReportsFocus window q := by
  intro area game window inputs apply p
  have hmoves : FocusMoves window (.ok "Game") p := by
    refine ⟨⟨{ handle := window, process := 1, processName := "game", title := "Game",
               state := .maximized, monitor := ⟨0x10⟩, bounds := area, visible := true,
               system := false, capturedAt := 0 }, ?_⟩, ?_, ?_, ⟨"game", ?_, ?_⟩, ?_⟩
    all_goals decide +kernel
  have hlater : ∀ q ∈ ticks apply [.tick] (step apply p .tick), Undisturbed window q := by
    decide +kernel
  obtain ⟨-, -, hreports⟩ := focus_reported_iff ["game"] 500 none
    (Workspace.unseen 0 { system := ({} : Desktop) }) apply inputs [.tick] hmoves hlater
  exact ⟨hmoves, hlater, hreports.mpr ⟨"Game", rfl⟩⟩

end Detector

end SoloScreen
