import SoloScreen.Proofs.Journal
import SoloScreen.Proofs.Session

/-!
# Runs of a detector

What can happen to a detector on its own: ticks, other targets, and anything at all that changes the
workspace between them. `Detector.run` plays a list of such inputs and `Detector.ticks` lists the
states in which its ticks begin.

* `Detector.finished_cases`, `Detector.after_cases`: what a tick does, if it is not cut short and in
  any case.
* `Detector.Coherent`: a detector is full screen if and only if it knows where, and else it
  remembers no foreground window. `Detector.run_coherent`: this holds in every run, ticks that are
  cut short included.
* `Detector.Sees`, `Detector.remembered_until`: what a tick sees in the foreground, and how long
  that is remembered.
-/

namespace SoloScreen

open SoloScreen.Action

/-- The window that the focus went to. -/
def DetectorEvent.focused? : DetectorEvent → Option WindowHandle
  | .fullScreenChanged _ => none
  | .targetFocused sighting => sighting.window

/-- No change of full screen is about the focus. -/
theorem Detector.focused?_of_mem_observe {found : Option WindowRecord} {d : Detector}
    {event : DetectorEvent} (h : event ∈ (observe found d).1) : event.focused? = none := by
  rw [observe_events] at h
  split at h
  · cases h
  · rw [List.mem_singleton.mp h]
    rfl

/-- The window that the window system said is in the foreground. -/
def Exchange.foreground? : Exchange → Option WindowHandle
  | ⟨.foreground, .ok window⟩ => window
  | _ => none

/-- Along a journal that goes on, an answer is written down. -/
theorem Detector.Answered.mem_since {σ : Type} [WindowSystem σ] {call : NativeCall}
    {answer : call.Answer} {work work' : Workspace (Journaled σ)}
    (h : Answered Workspace.GoesOn call answer work work') :
    ⟨call, .ok answer⟩ ∈ work.since work' := by
  obtain ⟨before, asked, hbefore, hasked, hafter⟩ := h
  have hmade := Workspace.call_made call before
  rw [ensures_of_ok hasked] at hmade
  have hgoes : before.GoesOn asked := ⟨_, hmade.journal.symm⟩
  rw [Workspace.since_trans hbefore (Workspace.GoesOn.isPath.trans hgoes hafter),
    Workspace.since_trans hgoes hafter, Workspace.since_eq hmade.journal]
  simp

namespace Detector

variable {σ ε : Type}

/-- A new detector, which may go on with an episode that another one began. -/
def fresh (targets : List String) (interval : Nat)
    (episode : Option (WindowHandle × MonitorHandle)) : Detector :=
  match episode with
  | some (window, monitor) => (watching targets interval).resume window monitor
  | none => watching targets interval

/-- A new detector counts as full screen if it goes on with an episode. -/
@[simp] theorem fresh_fullScreen (targets : List String) (interval : Nat)
    (episode : Option (WindowHandle × MonitorHandle)) :
    (fresh targets interval episode).fullScreen = episode.isSome := by
  rcases episode with _ | ⟨window, monitor⟩ <;> rfl

/-- A new detector knows the window of the episode that it goes on with. -/
@[simp] theorem fresh_current? (targets : List String) (interval : Nat)
    (episode : Option (WindowHandle × MonitorHandle)) :
    (fresh targets interval episode).current? = episode := by
  rcases episode with _ | ⟨window, monitor⟩ <;> rfl

/-- The full-screen window counts only together with its monitor. -/
theorem current?_isSome (d : Detector) :
    d.current?.isSome = (d.window.isSome && d.monitor.isSome) := by
  unfold current?
  rcases d.window with _ | window <;> rcases d.monitor with _ | monitor <;> rfl

/-! ## Playing inputs -/

/-- Something that happens: a tick, other targets, or an event outside. -/
inductive Input (ε : Type) where
  /-- The polling loop is due, or a tick is made by hand. -/
  | tick
  /-- Other processes are watched from now on. -/
  | retarget (targets : List String)
  /-- Something else happens to the workspace. -/
  | outside (event : ε)
  deriving DecidableEq, Repr

variable [WindowSystem σ]

/-- The state after an input; `apply` says what events outside do to the workspace. -/
def step (apply : ε → Workspace σ → Workspace σ) (p : Detector × Workspace σ) :
    Input ε → Detector × Workspace σ
  | .tick => (tick.exec p).2
  | .retarget targets => (p.1.retarget targets, p.2)
  | .outside event => (p.1, apply event p.2)

/-- The state after a list of inputs. -/
def run (apply : ε → Workspace σ → Workspace σ) (inputs : List (Input ε))
    (p : Detector × Workspace σ) : Detector × Workspace σ := inputs.foldl (step apply) p

/-- The states in which the ticks of a run begin. -/
def ticks (apply : ε → Workspace σ → Workspace σ) :
    List (Input ε) → Detector × Workspace σ → List (Detector × Workspace σ)
  | [], _ => []
  | .tick :: rest, p => p :: ticks apply rest (step apply p .tick)
  | .retarget targets :: rest, p => ticks apply rest (step apply p (.retarget targets))
  | .outside event :: rest, p => ticks apply rest (step apply p (.outside event))

/-- One input more, at the end. -/
theorem run_concat (apply : ε → Workspace σ → Workspace σ) (inputs : List (Input ε))
    (input : Input ε) (p : Detector × Workspace σ) :
    run apply (inputs ++ [input]) p = step apply (run apply inputs p) input := by
  simp [run]

/-- The ticks of two runs, one after the other. -/
theorem ticks_append (apply : ε → Workspace σ → Workspace σ) (before after : List (Input ε))
    (p : Detector × Workspace σ) :
    ticks apply (before ++ after) p = ticks apply before p ++ ticks apply after (run apply before p)
      := by
  induction before generalizing p with
  | nil => rfl
  | cons input rest ih => cases input <;> simp [ticks, ih, run]

/-- A tick of a run begins in the state after some inputs. -/
theorem exists_run_of_mem_ticks {apply : ε → Workspace σ → Workspace σ} {inputs : List (Input ε)}
    {p q : Detector × Workspace σ} (h : q ∈ ticks apply inputs p) :
    ∃ before, q = run apply before p := by
  induction inputs generalizing p with
  | nil => simp [ticks] at h
  | cons input rest ih =>
    have hlater : q ∈ ticks apply rest (step apply p input) → ∃ before, q = run apply before p := by
      intro hrest
      obtain ⟨before, hbefore⟩ := ih hrest
      exact ⟨input :: before, hbefore⟩
    cases input with
    | tick =>
      rcases List.mem_cons.mp h with rfl | hrest
      · exact ⟨[], rfl⟩
      · exact hlater hrest
    | retarget targets => exact hlater h
    | outside event => exact hlater h

/-- What follows a tick of a run are the ticks of the rest of the run. -/
theorem exists_rest_of_ticks (apply : ε → Workspace σ → Workspace σ) {inputs : List (Input ε)}
    {p q : Detector × Workspace σ} {before after : List (Detector × Workspace σ)}
    (h : ticks apply inputs p = before ++ q :: after) :
    ∃ rest, after = ticks apply rest (step apply q .tick) := by
  -- Induction on the inputs. What comes before the tick varies: it loses its first member with each
  -- tick that is passed.
  induction inputs generalizing p before with
  | nil => simp [ticks] at h
  | cons input rest ih =>
    cases input with
    | tick =>
      rcases before with _ | ⟨first, before⟩
      · obtain ⟨rfl, rfl⟩ := List.cons.inj h
        exact ⟨rest, rfl⟩
      · exact ih (List.cons.inj h).2
    | retarget targets => exact ih h
    | outside event => exact ih h

/-! ## One tick of a run -/

/-- The events that a tick hands over; one that is cut short hands over none. -/
def events (p : Detector × Workspace σ) : List DetectorEvent := (tick.exec p).1.toOption.getD []

/-- The detector after a tick. -/
def after (p : Detector × Workspace σ) : Detector := (tick.exec p).2.1

/-- The tick is not cut short. -/
def Finishes (p : Detector × Workspace σ) : Prop := (tick.exec p).1.toOption.isSome = true

instance (p : Detector × Workspace σ) : Decidable (Finishes p) :=
  inferInstanceAs (Decidable (_ = true))

/-- A tick that yields an event was not cut short. -/
theorem finishes_of_mem {event : DetectorEvent} {p : Detector × Workspace σ}
    (h : event ∈ events p) : Finishes p := by
  unfold events at h
  unfold Finishes
  rcases hresult : (tick.exec p).1.toOption with _ | produced
  · simp [hresult] at h
  · rfl

variable {R : Workspace σ → Workspace σ → Prop}

/-- The course of a tick, read off its result. -/
theorem exec_course (h : Workspace.QueriesConform R R) (p : Detector × Workspace σ) :
    Course R p (tick.exec p).1.toOption (tick.exec p).2 := by
  have hcourse := tick_course h p
  rcases hexec : tick.exec p with ⟨e | produced, q⟩
  · rwa [ensures_of_error hexec] at hcourse
  · rwa [ensures_of_ok hexec] at hcourse

/-- Without a full-screen window the foreground is not looked at. -/
theorem Looked.seen_eq_none {p q : Detector × Workspace σ} {seen : Option WindowHandle}
    (h : Looked R p none seen q) : seen = none :=
  Option.eq_none_iff_forall_ne_some.mpr fun window hseen => by simpa using (h.seen window hseen).1

/-- After the look the detector is full screen exactly if a window was found. -/
theorem Looked.fullScreen {p q : Detector × Workspace σ} {found : Option WindowRecord}
    {seen : Option WindowHandle} (h : Looked R p found seen q) : q.1.fullScreen = found.isSome := by
  obtain ⟨last, hlast⟩ := glance_sameSight seen (observe found p.1).2
  rw [h.noted, hlast]
  exact observe_fullScreen found p.1

/-- A tick that is not cut short has nothing to look for, or it takes note of what it finds and
perhaps reports the focus. -/
theorem finished_cases (h : Workspace.QueriesConform R R) {p : Detector × Workspace σ}
    (hfinishes : Finishes p) :
    (p.1.targets = [] ∧ events p = [] ∧ after p = p.1) ∨
      ∃ found seen, ∃ focus : Option DetectorEvent, Looked R p found seen (tick.exec p).2 ∧
        events p = (observe found p.1).1 ++ focus.toList ∧
        ∀ event ∈ focus, ∃ window, seen = some window ∧ p.1.lastForeground ≠ some window ∧
          (observe found p.1).2.IsFocusOn window event := by
  have hcourse := exec_course h p
  unfold Finishes at hfinishes
  unfold events after
  generalize (tick.exec p).1.toOption = yield at *
  generalize (tick.exec p).2 = q at *
  cases hcourse with
  | blind hempty => exact .inl ⟨hempty, rfl, rfl⟩
  | lost work hlost => cases hfinishes
  | looked focus hlooked hnews => exact .inr ⟨_, _, focus, hlooked, rfl, hnews⟩
  | distracted hlooked => cases hfinishes

/-- Whether it is cut short or not, a tick leaves the detector as it is, or it takes note of what
the search finds. If that is no window, then the tick is not cut short. -/
theorem after_cases (h : Workspace.QueriesConform R R) (p : Detector × Workspace σ) :
    (after p = p.1 ∧ events p = [] ∧ (p.1.targets = [] ∨ ∀ found, search p ≠ .ok found)) ∨
      ∃ found seen, Looked R p found seen (tick.exec p).2 ∧
        (found = none → events p = (observe found p.1).1) := by
  have hcourse := exec_course h p
  unfold events after
  generalize (tick.exec p).1.toOption = yield at *
  generalize (tick.exec p).2 = q at *
  cases hcourse with
  | blind hempty => exact .inl ⟨rfl, rfl, .inl hempty⟩
  | lost work hlost => exact .inl ⟨rfl, rfl, .inr hlost⟩
  | looked focus hlooked hnews =>
    refine .inr ⟨_, _, hlooked, ?_⟩
    rintro rfl
    obtain rfl : focus = none := Option.eq_none_iff_forall_not_mem.mpr fun event he => by
      obtain ⟨window, hseen, -⟩ := hnews event he
      cases hseen.symm.trans hlooked.seen_eq_none
    exact List.append_nil _
  | distracted hlooked => exact .inr ⟨_, _, hlooked, by simp⟩

/-! ## What holds in every run -/

/-- A detector is full screen if and only if it knows where, and else it remembers no foreground
window. -/
structure Coherent (d : Detector) : Prop where
  /-- It is full screen if and only if it knows the window and its monitor. -/
  knows : d.Knows
  /-- Without full screen no foreground window is remembered. -/
  forgets : d.fullScreen = false → d.lastForeground = none

/-- A coherent detector that has found a window knows a monitor. -/
theorem Coherent.monitor_isSome {d : Detector} (h : d.Coherent) (record : WindowRecord) :
    (observe (some record) d).2.monitor.isSome := by
  have hknows : (observe (some record) d).2.Knows :=
    (Noticed.saw (some record) _ (.refl _)).knows h.knows
  rw [Knows, observe_fullScreen, current?_isSome] at hknows
  simp only [Option.isSome_some, Bool.true_eq, Bool.and_eq_true] at hknows
  exact hknows.2

/-- A new detector is coherent, within an episode or not. -/
theorem fresh_coherent (targets : List String) (interval : Nat)
    (episode : Option (WindowHandle × MonitorHandle)) :
    (fresh targets interval episode).Coherent := by
  refine ⟨by rw [Knows, fresh_fullScreen, fresh_current?], fun _ => ?_⟩
  rcases episode with _ | ⟨window, monitor⟩ <;> rfl

/-- Taking note of what was found keeps a detector coherent, whatever was found. -/
theorem Looked.coherent {p q : Detector × Workspace σ} {found : Option WindowRecord}
    {seen : Option WindowHandle} (h : Looked R p found seen q) (hp : p.1.Coherent) :
    q.1.Coherent := by
  have hsame := glance_sameSight seen (observe found p.1).2
  refine ⟨(Noticed.saw found q.1 (h.noted ▸ hsame)).knows hp.knows, fun hfull => ?_⟩
  -- Only when no window was found can the detector not be full screen afterwards. Then it either
  -- lost one and forgot the foreground, or it had forgotten it before.
  rcases found with _ | record
  · rw [h.noted, h.seen_eq_none]
    show (observe none p.1).2.lastForeground = none
    unfold observe
    split
    · rename_i hsame
      exact hp.forgets hsame.symm
    · rfl
  · cases hfull.symm.trans h.fullScreen

/-- A tick keeps a detector coherent, also if it is cut short. -/
theorem after_coherent {p : Detector × Workspace σ} (hp : p.1.Coherent) :
    (after p).Coherent := by
  rcases after_cases Workspace.queriesConform_true p with ⟨hsame, -, -⟩ | ⟨found, seen, hlooked, -⟩
  · rwa [hsame]
  · exact hlooked.coherent hp

/-- Every input keeps a detector coherent; other targets and outside events do not touch what it
knows. -/
theorem step_coherent (apply : ε → Workspace σ → Workspace σ) {p : Detector × Workspace σ}
    (hp : p.1.Coherent) (input : Input ε) : (step apply p input).1.Coherent := by
  cases input with
  | tick => exact after_coherent hp
  | retarget targets => exact ⟨hp.knows, hp.forgets⟩
  | outside event => exact hp

/-- A detector stays coherent, also when ticks are cut short. -/
theorem run_coherent (apply : ε → Workspace σ → Workspace σ) (inputs : List (Input ε))
    {p : Detector × Workspace σ} (hp : p.1.Coherent) : (run apply inputs p).1.Coherent := by
  induction inputs generalizing p with
  | nil => exact hp
  | cons input rest ih => exact ih (step_coherent apply hp input)

/-! ## What is seen in the foreground -/

/-- The tick finds the window in the foreground. -/
def Sees (window : WindowHandle) (p : Detector × Workspace (Journaled σ)) : Prop :=
  ∃ exchange ∈ p.2.since (tick.exec p).2.2, exchange.foreground? = some window

/-- The tick reports the focus on the window. -/
def ReportsFocus (window : WindowHandle) (p : Detector × Workspace σ) : Prop :=
  ∃ event ∈ events p, event.focused? = some window

/-- The tick reports that full screen ended. -/
def ReportsExit (p : Detector × Workspace σ) : Prop := ∃ event ∈ events p, event.isExit

/-- Nothing comes between a focus on the window and the next: no end of full screen is reported and
no other window seen. -/
structure Undisturbed (window : WindowHandle) (p : Detector × Workspace (Journaled σ)) : Prop where
  /-- Full screen does not end. -/
  stays : ¬ ReportsExit p
  /-- No other window is seen in the foreground. -/
  only : ∀ other, Sees other p → other = window

instance (window : WindowHandle) (p : Detector × Workspace (Journaled σ)) :
    Decidable (Undisturbed window p) :=
  decidable_of_iff ((∀ event ∈ events p, event.isExit = false) ∧
      ∀ exchange ∈ p.2.since (tick.exec p).2.2, exchange.foreground?.all (· = window))
    ⟨fun ⟨hstays, honly⟩ => ⟨fun ⟨event, hmem, hexit⟩ => by simp [hstays event hmem] at hexit,
        fun other ⟨exchange, hmem, hother⟩ => by simpa [hother] using honly exchange hmem⟩,
      fun h => ⟨fun event hmem => by simpa using fun hexit => h.stays ⟨event, hmem, hexit⟩,
        fun exchange hmem => by
          rw [Option.all_eq_true]
          intro other hother
          simpa using h.only other ⟨exchange, hmem, hother⟩⟩⟩

/-- A focus is reported in a full-screen state, and the window was not the one looked at last, but
now it is. -/
theorem ReportsFocus.remembered {window : WindowHandle} {p : Detector × Workspace σ}
    (h : ReportsFocus window p) :
    p.1.lastForeground ≠ some window ∧ (after p).lastForeground = some window ∧
      (after p).fullScreen = true := by
  obtain ⟨event, hmem, hfocused⟩ := h
  rcases finished_cases Workspace.queriesConform_true (finishes_of_mem hmem) with
    ⟨-, hnone, -⟩ | ⟨found, seen, focus, hlooked, hevents, hnews⟩
  · simp [hnone] at hmem
  rw [hevents] at hmem
  rcases List.mem_append.mp hmem with hmem | hmem
  · rw [focused?_of_mem_observe hmem] at hfocused
    cases hfocused
  obtain ⟨other, hseen, hnew, monitor, process, title, -, rfl⟩ :=
    hnews event (Option.mem_toList.mp hmem)
  obtain rfl := Option.some.inj hfocused
  have hafter : after p = (observe found p.1).2.glance (some other) := hseen ▸ hlooked.noted
  exact ⟨hnew, by rw [hafter]; rfl, hlooked.fullScreen.trans (hlooked.seen other hseen).1⟩

/-- What is remembered stays remembered while nothing comes between. -/
theorem Undisturbed.remembered {window : WindowHandle} {p : Detector × Workspace (Journaled σ)}
    (h : Undisturbed window p) (hp : p.1.lastForeground = some window) :
    (after p).lastForeground = some window := by
  rcases after_cases Workspace.queriesConform_goesOn p with
    ⟨hsame, -, -⟩ | ⟨found, seen, hlooked, hevents⟩
  · rwa [hsame]
  rcases found with _ | record
  · have hafter : after p = (observe none p.1).2 := by
      have hnoted := hlooked.noted
      rwa [hlooked.seen_eq_none] at hnoted
    rw [hafter]
    rcases hfull : p.1.fullScreen
    · simpa [observe, hfull] using hp
    · refine absurd ⟨.fullScreenChanged .exited, ?_, rfl⟩ h.stays
      simp [hevents rfl, observe, hfull]
  · have hafter : after p = (observe (some record) p.1).2.glance seen := hlooked.noted
    rw [hafter]
    rcases seen with _ | other
    · exact (observe_lastForeground rfl p.1).trans hp
    · obtain rfl := h.only other ⟨_, (hlooked.seen other rfl).2.mem_since, rfl⟩
      rfl

/-- A window that is remembered when a run begins is still remembered in a later tick, if nothing
comes between. -/
theorem remembered_until {apply : ε → Workspace (Journaled σ) → Workspace (Journaled σ)}
    {inputs : List (Input ε)} {p q : Detector × Workspace (Journaled σ)} {window : WindowHandle}
    {between later : List (Detector × Workspace (Journaled σ))}
    (hp : p.1.lastForeground = some window)
    (hticks : ticks apply inputs p = between ++ q :: later)
    (hbetween : ∀ r ∈ between, Undisturbed window r) : q.1.lastForeground = some window := by
  induction inputs generalizing p between with
  | nil => simp [ticks] at hticks
  | cons input rest ih =>
    cases input with
    | tick =>
      rcases between with _ | ⟨first, between⟩
      · obtain ⟨rfl, -⟩ := List.cons.inj hticks
        exact hp
      · obtain ⟨rfl, hrest⟩ := List.cons.inj hticks
        exact ih (p := step apply p .tick) ((hbetween p List.mem_cons_self).remembered hp) hrest
          fun r hr => hbetween r (List.mem_cons_of_mem _ hr)
    | retarget targets => exact ih (p := step apply p (.retarget targets)) hp hticks hbetween
    | outside event => exact ih (p := step apply p (.outside event)) hp hticks hbetween

end Detector

end SoloScreen
