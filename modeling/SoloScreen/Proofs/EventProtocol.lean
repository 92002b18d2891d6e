import Mathlib.Data.List.Chain
import SoloScreen.Proofs.DesktopEvents
import SoloScreen.Proofs.DetectorRun

/-!
# The event protocol of the detector

What a handler can rely on when it is given the events of a detector, whatever the window system
answers and whatever happens between the ticks, as long as no tick is cut short.

* `Detector.changes_events`: a tick announces a change of full screen exactly when there is one.
  `Detector.isChain_changes`: so the changes of a run alternate.
* `Detector.ReportsFocus.separated`: the focus is reported on a window again only after another
  window was seen in the foreground, or after full screen ended.
* `Detector.checkFocus_failure`: the look at the focus fails only where a title cannot be read.
* `Detector.event_protocol`: the whole protocol (`Detector.Protocol`), with what the service makes
  of the events.

A tick that is cut short may have changed the state of the detector and has reported nothing, so a
change can go unannounced there; the protocol is not claimed of runs with such a tick.
-/

namespace SoloScreen

open SoloScreen.Action

/-- The state that the event announces, if it announces a change of full screen. -/
def DetectorEvent.change? : DetectorEvent → Option Bool
  | .fullScreenChanged sighting => some sighting.fullScreen
  | .targetFocused _ => none

/-- The sighting names a window and a monitor. -/
def Sighting.IsLocated (sighting : Sighting) : Prop :=
  sighting.window.isSome ∧ sighting.monitor.isSome

namespace Detector

/-! ## The events of a tick -/

/-- What a begin is announced with is taken from a record, which has a window and a monitor. -/
theorem sightingOf_isLocated {found : Option WindowRecord}
    (h : (sightingOf found).fullScreen = true) : (sightingOf found).IsLocated := by
  rcases found with _ | record
  · cases h
  · exact ⟨rfl, rfl⟩

/-- A report of the focus is located too: the window is the one in the foreground, and the monitor
that of the episode. -/
theorem IsFocusOn.exists_located {d : Detector} {window : WindowHandle} {event : DetectorEvent}
    (h : d.IsFocusOn window event) :
    ∃ sighting : Sighting, event = .targetFocused sighting ∧ sighting.IsLocated := by
  obtain ⟨monitor, process, title, -, rfl⟩ := h
  exact ⟨_, rfl, rfl, rfl⟩

variable {σ ε : Type} [WindowSystem σ]

/-- The events of a tick: a change of full screen, if there is one, and then perhaps the focus. -/
theorem exists_events {p : Detector × Workspace σ} (hfinishes : Finishes p) :
    ∃ change focus : Option Sighting,
      events p = (change.map .fullScreenChanged).toList ++ (focus.map .targetFocused).toList ∧
      change.map (·.fullScreen) =
        (if (after p).fullScreen = p.1.fullScreen then none else some (after p).fullScreen) ∧
      (∀ sighting ∈ change, sighting.fullScreen = true → sighting.IsLocated) ∧
      ∀ sighting ∈ focus, sighting.IsLocated := by
  rcases finished_cases Workspace.queriesConform_true hfinishes with
    ⟨-, hevents, hafter⟩ | ⟨found, seen, focus, hlooked, hevents, hnews⟩
  · exact ⟨none, none, hevents, by simp [hafter], by simp, by simp⟩
  have hfull : (after p).fullScreen = found.isSome := hlooked.fullScreen
  obtain ⟨focused, hfocused, hlocated⟩ : ∃ focused : Option Sighting,
      focus = focused.map .targetFocused ∧ ∀ sighting ∈ focused, sighting.IsLocated := by
    rcases focus with _ | event
    · exact ⟨none, rfl, by simp⟩
    · obtain ⟨window, -, -, hfocus⟩ := hnews event rfl
      obtain ⟨sighting, rfl, hlocated⟩ := hfocus.exists_located
      exact ⟨some sighting, rfl, by simpa using hlocated⟩
  rw [hfull, hevents, observe_events, hfocused]
  by_cases hsame : found.isSome = p.1.fullScreen
  · simp only [if_pos hsame]
    exact ⟨none, focused, rfl, rfl, by simp, hlocated⟩
  · simp only [if_neg hsame]
    refine ⟨some (sightingOf found), focused, rfl, by simp, ?_, hlocated⟩
    simpa using sightingOf_isLocated

/-! ## Changes of full screen -/

/-- The changes that ticks announce, in order. -/
def changes (ticks : List (Detector × Workspace σ)) : List Bool :=
  (ticks.flatMap events).filterMap DetectorEvent.change?

/-- The changes of the first tick, and of those after it. -/
@[simp] theorem changes_cons (p : Detector × Workspace σ) (rest : List (Detector × Workspace σ)) :
    changes (p :: rest) = (events p).filterMap DetectorEvent.change? ++ changes rest := by
  simp [changes]

/-- A tick announces a change of full screen exactly when there is one. -/
theorem changes_events {p : Detector × Workspace σ} (hfinishes : Finishes p) :
    (events p).filterMap DetectorEvent.change? =
      if (after p).fullScreen = p.1.fullScreen then [] else [(after p).fullScreen] := by
  obtain ⟨change, focus, hevents, hchange, -, -⟩ := exists_events hfinishes
  have hfocus : (focus.map DetectorEvent.targetFocused).toList.filterMap DetectorEvent.change? =
      [] := by
    rcases focus with _ | sighting <;> rfl
  have hchanges : (change.map DetectorEvent.fullScreenChanged).toList.filterMap
      DetectorEvent.change? = (change.map (·.fullScreen)).toList := by
    rcases change with _ | sighting <;> rfl
  rw [hevents, List.filterMap_append, hfocus, hchanges, hchange, List.append_nil]
  split <;> rfl

/-- The changes that a run announces alternate, beginning with one from the state at its start. By
induction on the run: a tick without a change leaves the state and thereby the chain, and one with a
change puts the state after it before the others. -/
theorem isChain_changes {apply : ε → Workspace σ → Workspace σ} {inputs : List (Input ε)}
    {p : Detector × Workspace σ} (h : ∀ q ∈ ticks apply inputs p, Finishes q) :
    (p.1.fullScreen :: changes (ticks apply inputs p)).IsChain (· ≠ ·) := by
  induction inputs generalizing p with
  | nil => exact .singleton _
  | cons input rest ih =>
    cases input with
    | tick =>
      have hrest := ih (p := step apply p .tick) fun q hq => h q (List.mem_cons_of_mem _ hq)
      have hafter : (step apply p .tick).1 = after p := rfl
      rw [ticks, changes_cons, changes_events (h p List.mem_cons_self)]
      rw [hafter] at hrest
      split
      · rename_i hsame
        rwa [hsame] at hrest
      · rename_i hchange
        exact List.isChain_cons_cons.mpr ⟨Ne.symm hchange, hrest⟩
    | retarget targets => exact ih (p := step apply p (.retarget targets)) h
    | outside event => exact ih (p := step apply p (.outside event)) h

/-! ## Focus -/

/-- Between two reports of the focus on the same window another window is seen, if full screen does
not end. -/
theorem ReportsFocus.separated {apply : ε → Workspace (Journaled σ) → Workspace (Journaled σ)}
    {inputs : List (Input ε)} {start p q : Detector × Workspace (Journaled σ)}
    {window : WindowHandle} {before between later : List (Detector × Workspace (Journaled σ))}
    (hp : ReportsFocus window p) (hq : ReportsFocus window q)
    (hticks : ticks apply inputs start = before ++ p :: (between ++ q :: later))
    (hstays : ∀ r ∈ between, ¬ ReportsExit r) :
    ∃ r ∈ between, ∃ other, other ≠ window ∧ Sees other r := by
  obtain ⟨rest, hrest⟩ := exists_rest_of_ticks apply hticks
  by_contra hnone
  -- if no other window is seen in between, the window is still remembered at the second report
  have hbetween : ∀ r ∈ between, Undisturbed window r := by
    refine fun r hr => ⟨hstays r hr, fun other hsees => ?_⟩
    by_contra hother
    exact hnone ⟨r, hr, other, hother, hsees⟩
  have hremembered : (step apply p .tick).1.lastForeground = some window := hp.remembered.2.1
  exact hq.remembered.1 (remembered_until hremembered hrest.symm hbetween)

/-- With a monitor at hand, the look at the focus fails only where a title cannot be read, and with
the failure of that call. -/
theorem checkFocus_failure {targets : List String} {d : Detector}
    {work : Workspace (Journaled σ)} (hd : d.monitor.isSome) {failure : Failure}
    {q : Detector × Workspace (Journaled σ)}
    (h : (checkFocus targets).run.exec (d, work) = (.ok (.error failure), q)) :
    ∃ window, ⟨.title window, .ok (.error failure)⟩ ∈ work.since q.2 := by
  have hcourse := checkFocus_course Workspace.queriesConform_goesOn targets d work
  rw [ensures_of_ok h] at hcourse
  obtain ⟨-, -, -, -, hfailure⟩ := hcourse
  rcases hfailure failure rfl with hnone | ⟨window, hread⟩
  · rw [hnone] at hd
    cases hd
  · exact ⟨window, hread.mem_since⟩

/-! ## The protocol -/

/-- An event that begins or continues full screen carries a window and a monitor, so that the
service gets to minimizing. -/
def Carries (σ : Type) [WindowSystem σ] : DetectorEvent → Prop
  | .fullScreenChanged sighting => sighting.fullScreen = true →
    ∃ window monitor, sighting.window = some window ∧ sighting.monitor = some monitor ∧
      (Service.respondToChange sighting : Fallible (Service × Workspace σ) Unit) =
        Service.announce (Minimizer.minimizeOnMonitor monitor (some window))
  | .targetFocused sighting =>
    ∃ window monitor, sighting.window = some window ∧ sighting.monitor = some monitor ∧
      (Service.respondToFocus sighting : Fallible (Service × Workspace σ) Unit) =
        Service.announce (Minimizer.minimizeBeside window monitor)

/-- A located begin has the service minimize the windows on the monitor. -/
theorem carries_fullScreenChanged {sighting : Sighting}
    (h : sighting.fullScreen = true → sighting.IsLocated) :
    Carries σ (.fullScreenChanged sighting) := by
  intro hfull
  obtain ⟨window, hwindow⟩ := Option.isSome_iff_exists.mp (h hfull).1
  obtain ⟨monitor, hmonitor⟩ := Option.isSome_iff_exists.mp (h hfull).2
  refine ⟨window, monitor, hwindow, hmonitor, ?_⟩
  simp [Service.respondToChange, hfull, hwindow, hmonitor]

/-- A located report of the focus has it minimize those beside the window. -/
theorem carries_targetFocused {sighting : Sighting} (h : sighting.IsLocated) :
    Carries σ (.targetFocused sighting) := by
  obtain ⟨window, hwindow⟩ := Option.isSome_iff_exists.mp h.1
  obtain ⟨monitor, hmonitor⟩ := Option.isSome_iff_exists.mp h.2
  refine ⟨window, monitor, hwindow, hmonitor, ?_⟩
  simp [Service.respondToFocus, hwindow, hmonitor]

/-- The protocol of the ticks of a detector, which goes on with an episode if it is `resumed`. -/
structure Protocol (resumed : Bool) (ticks : List (Detector × Workspace (Journaled σ))) : Prop where
  /-- After a tick the detector is full screen exactly when it has both a window and a monitor. -/
  located : ∀ p ∈ ticks,
    (after p).fullScreen = true ↔ (after p).window.isSome ∧ (after p).monitor.isSome
  /-- Without full screen no foreground window is remembered. -/
  forgets : ∀ p ∈ ticks, (after p).fullScreen = false → (after p).lastForeground = none
  /-- Begin and end alternate; the first change of a resumed detector is an end. -/
  alternate : (resumed :: changes ticks).IsChain (· ≠ ·)
  /-- A tick yields at most one change and then at most one focus. -/
  ordered : ∀ p ∈ ticks, ∃ change focus : Option Sighting,
    events p = (change.map .fullScreenChanged).toList ++ (focus.map .targetFocused).toList
  /-- The focus is reported only in a tick that ends in full screen. -/
  focused : ∀ p ∈ ticks, ∀ sighting, .targetFocused sighting ∈ events p →
    (after p).fullScreen = true
  /-- Two reports of the focus on a window in one episode have another window between them. -/
  separated : ∀ before p between q later window,
    ticks = before ++ p :: (between ++ q :: later) → ReportsFocus window p →
      ReportsFocus window q → (∀ r ∈ between, ¬ ReportsExit r) →
        ∃ r ∈ between, ∃ other, other ≠ window ∧ Sees other r
  /-- Begins and reports of the focus carry what the service needs. -/
  carried : ∀ p ∈ ticks, ∀ event ∈ events p, Carries (Journaled σ) event
  /-- The look at the focus that follows a search fails only where a title cannot be read. -/
  unfailing : ∀ p ∈ ticks, ∀ record work,
    (Workspace.findFullScreen p.1.targets).exec p.2 = (.ok (some record), work) →
      ∀ failure q, (checkFocus p.1.targets).run.exec ((observe (some record) p.1).2, work) =
        (.ok (.error failure), q) →
          ∃ window, ⟨.title window, .ok (.error failure)⟩ ∈ work.since q.2

/-- The protocol is kept in every run without a cut tick, whatever the window system answers. -/
theorem event_protocol (targets : List String) (interval : Nat)
    (episode : Option (WindowHandle × MonitorHandle)) (work : Workspace (Journaled σ))
    (apply : ε → Workspace (Journaled σ) → Workspace (Journaled σ)) (inputs : List (Input ε))
    (h : ∀ p ∈ ticks apply inputs (fresh targets interval episode, work), Finishes p) :
    Protocol episode.isSome (ticks apply inputs (fresh targets interval episode, work)) := by
  have hcoherent : ∀ p ∈ ticks apply inputs (fresh targets interval episode, work),
      p.1.Coherent := by
    intro p hp
    obtain ⟨before, rfl⟩ := exists_run_of_mem_ticks hp
    exact run_coherent apply before (fresh_coherent targets interval episode)
  constructor
  case located =>
    intro p hp
    have hknows := (after_coherent (hcoherent p hp)).knows
    rw [Knows, current?_isSome] at hknows
    rw [hknows, Bool.and_eq_true]
  case forgets => exact fun p hp => (after_coherent (hcoherent p hp)).forgets
  case alternate =>
    have hchain := isChain_changes h
    rwa [fresh_fullScreen] at hchain
  case ordered =>
    intro p hp
    obtain ⟨change, focus, hevents, -⟩ := exists_events (h p hp)
    exact ⟨change, focus, hevents⟩
  case focused =>
    intro p hp sighting hmem
    obtain ⟨change, focus, hevents, -, -, hlocated⟩ := exists_events (h p hp)
    have hfocus : focus = some sighting := by
      rw [hevents] at hmem
      simpa using hmem
    obtain ⟨window, hwindow⟩ := Option.isSome_iff_exists.mp (hlocated sighting hfocus).1
    have hreports : ReportsFocus window p := ⟨.targetFocused sighting, hmem, hwindow⟩
    exact hreports.remembered.2.2
  case separated =>
    intro before p between q later window hticks hp hq hstays
    exact hp.separated hq hticks hstays
  case carried =>
    intro p hp event hmem
    obtain ⟨change, focus, hevents, -, hbegins, hlocated⟩ := exists_events (h p hp)
    rw [hevents] at hmem
    rcases List.mem_append.mp hmem with hmem | hmem
    · obtain ⟨sighting, hsighting, rfl⟩ := Option.map_eq_some_iff.mp (Option.mem_toList.mp hmem)
      exact carries_fullScreenChanged (hbegins sighting hsighting)
    · obtain ⟨sighting, hsighting, rfl⟩ := Option.map_eq_some_iff.mp (Option.mem_toList.mp hmem)
      exact carries_targetFocused (hlocated sighting hsighting)
  case unfailing =>
    intro p hp record work' hfound failure q hexec
    exact checkFocus_failure ((hcoherent p hp).monitor_isSome record) hexec

/-- A game fills the screen. The user looks at another window, comes back and closes the game. -/
theorem event_protocol_demo :
    let area : Rect := ⟨0, 0, 1920, 1040⟩
    let game := (DesktopWindow.titled 1 "Game").maximizedOver area
    let inputs : List (Input Desktop.Event) :=
      [.outside (.addMonitor ⟨⟨0, 0, 1920, 1080⟩, area⟩), .outside (.addProcess 1 "game.exe"),
        .outside (.addProcess 2 "notepad.exe"), .outside (.openWindow game),
        .outside (.openWindow (.titled 2 "Notes")), .outside (.setForeground (some ⟨0x1000⟩)),
        .tick,
        .outside (.setForeground (some ⟨0x1010⟩)), .tick, .retarget ["game", "player"],
        .outside (.setForeground (some ⟨0x1000⟩)), .tick, .outside (.closeWindow ⟨0x1000⟩), .tick]
    let seen := ticks (Workspace.outside (Journaled.apply Desktop.Event.apply)) inputs
      (fresh ["game"] 500 none, Workspace.unseen 0 { system := {} })
    (∀ p ∈ seen, Finishes p) ∧ Protocol false seen ∧ changes seen = [true, false] ∧
      seen.map (fun p => (events p).filterMap DetectorEvent.focused?) =
        [[⟨0x1000⟩], [], [⟨0x1000⟩], []] := by
  intro area game inputs seen
  have hfinishes : ∀ p ∈ seen, Finishes p := by decide +kernel
  have hprotocol : Protocol false seen := event_protocol ["game"] 500 none
    (Workspace.unseen 0 { system := ({} : Desktop) })
    (Workspace.outside (Journaled.apply Desktop.Event.apply)) inputs hfinishes
  exact ⟨hfinishes, hprotocol, by decide +kernel, by decide +kernel⟩

end Detector

end SoloScreen
