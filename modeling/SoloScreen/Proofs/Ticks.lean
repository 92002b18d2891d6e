import SoloScreen.Proofs.Queries

/-!
# What a tick of the detector does

A tick searches for a full-screen window, takes note of what it found, and while there is one it
looks at the foreground window. Whatever the window system answers, that is all it can do.

* `Detector.search`: what a tick finds. `Detector.glance`: what its look at the foreground leaves.
* `Detector.tick_course`: the course of a tick, finished or cut short, with what the search found,
  which window was seen in the foreground and which events came of it (`Detector.Course`).
* `Detector.tick_ensures`: the same without the window system. `Detector.Ticked.events_cases` lists
  the events that a finished tick can yield.
-/

namespace SoloScreen

open SoloScreen.Action

/-- Full screen began. -/
def DetectorEvent.isEnter : DetectorEvent → Bool
  | .fullScreenChanged sighting => sighting.fullScreen
  | .targetFocused _ => false

/-- Full screen ended. -/
def DetectorEvent.isExit : DetectorEvent → Bool
  | .fullScreenChanged sighting => !sighting.fullScreen
  | .targetFocused _ => false

namespace Detector

/-! ## Taking note -/

/-- Nothing but the remembered foreground window differs. -/
def SameSight (d d' : Detector) : Prop := ∃ last, d' = { d with lastForeground := last }

/-- A detector sees what it sees. -/
theorem SameSight.refl (d : Detector) : SameSight d d := ⟨d.lastForeground, rfl⟩

/-- Taking note of what was found does not change for what is looked. -/
@[simp] theorem observe_targets (found : Option WindowRecord) (d : Detector) :
    (observe found d).2.targets = d.targets := by
  unfold observe
  split
  · rfl
  · rcases found with _ | record <;> rfl

/-- Afterwards the detector is full screen exactly if a window was found. If it was so before,
nothing was noted, and that is the same. -/
@[simp] theorem observe_fullScreen (found : Option WindowRecord) (d : Detector) :
    (observe found d).2.fullScreen = found.isSome := by
  unfold observe
  split
  · rename_i hsame
    exact hsame.symm
  · rcases found with _ | record <;> rfl

/-- What is reported of what was found. -/
def sightingOf : Option WindowRecord → Sighting
  | some record => .entered record.handle record.monitor record.processName record.title
  | none => .exited

/-- What is reported is an entry exactly if a window was found. -/
@[simp] theorem sightingOf_fullScreen (found : Option WindowRecord) :
    (sightingOf found).fullScreen = found.isSome := by
  rcases found with _ | record <;> rfl

/-- An event is reported only when the state changes, and then it says what was found. -/
theorem observe_events (found : Option WindowRecord) (d : Detector) :
    (observe found d).1 =
      if found.isSome = d.fullScreen then [] else [.fullScreenChanged (sightingOf found)] := by
  unfold observe
  split
  · rfl
  · rcases found with _ | record <;> rfl

/-- Only losing sight of the window forgets the foreground. -/
theorem observe_lastForeground {found : Option WindowRecord} (h : found.isSome) (d : Detector) :
    (observe found d).2.lastForeground = d.lastForeground := by
  unfold observe
  split
  · rfl
  · rcases found with _ | record
    · simp at h
    · rfl

/-! ## The look at the focus -/

/-- The look at the focus remembers the foreground window. -/
def glance (foreground : Option WindowHandle) (d : Detector) : Detector :=
  match foreground with
  | none => d
  | some window => { d with lastForeground := some window }

/-- The foreground window, if there is one, is the one looked at last. -/
def Remembers (foreground : Option WindowHandle) (d : Detector) : Prop :=
  ∀ window, foreground = some window → d.lastForeground = some window

/-- After the look, the window that was seen is the one looked at last. -/
theorem glance_remembers (foreground : Option WindowHandle) (d : Detector) :
    (d.glance foreground).Remembers foreground := by
  rintro window rfl
  rfl

/-- The look at the foreground leaves everything else as it is. -/
theorem glance_sameSight (foreground : Option WindowHandle) (d : Detector) :
    SameSight d (d.glance foreground) := by
  rcases foreground with _ | window
  · exact .refl d
  · exact ⟨some window, rfl⟩

/-- Looking at the window that is remembered changes nothing. -/
theorem Remembers.glance_eq {d : Detector} {foreground : Option WindowHandle}
    (h : d.Remembers foreground) :
    d.glance foreground = d := by
  rcases foreground with _ | window
  · rfl
  · show { d with lastForeground := some window } = d
    rw [← h window rfl]

/-- A focus event about a window on the monitor of the detector's full-screen window. -/
def IsFocusOf (d : Detector) (event : DetectorEvent) : Prop :=
  ∃ window monitor process title,
    event = .targetFocused (.entered window monitor process title) ∧ d.monitor = some monitor

/-- A focus event about the window, on the monitor of the detector's full-screen window. -/
def IsFocusOn (d : Detector) (window : WindowHandle) (event : DetectorEvent) : Prop :=
  ∃ monitor process title, d.monitor = some monitor ∧
    event = .targetFocused (.entered window monitor process title)

/-- A focus on some window is a focus. -/
theorem IsFocusOn.isFocusOf {d : Detector} {window : WindowHandle} {event : DetectorEvent}
    (h : d.IsFocusOn window event) : d.IsFocusOf event := by
  obtain ⟨monitor, process, title, hmonitor, rfl⟩ := h
  exact ⟨window, monitor, process, title, rfl, hmonitor⟩

variable {σ : Type} [WindowSystem σ]

/-- Along the relation the call was made, and this was the answer. -/
def Answered (R : Workspace σ → Workspace σ → Prop) (call : NativeCall) (answer : call.Answer)
    (work work' : Workspace σ) : Prop :=
  ∃ before asked, R work before ∧
    (WindowSystem.call call : Action (Workspace σ) _).exec before = (.ok answer, asked) ∧
      R asked work'

variable {R : Workspace σ → Workspace σ → Prop}

/-- An answer that came later along the relation came along it. -/
theorem Answered.trans (hR : IsPath R) {call : NativeCall} {answer : call.Answer}
    {work work' work'' : Workspace σ} (hwork : R work work')
    (h : Answered R call answer work' work'') : Answered R call answer work work'' := by
  obtain ⟨before, asked, hbefore, hasked, hafter⟩ := h
  exact ⟨before, asked, hR.trans hwork hbefore, hasked, hafter⟩

/-- The look at the focus remembers the window that it sees, whatever comes of it, and reports it
only if it is not the one looked at last. It fails only if there is no monitor or the title cannot
be read. -/
theorem checkFocus_course (h : Workspace.QueriesConform R R) (targets : List String) (d : Detector)
    (work : Workspace σ) :
    (checkFocus targets).run.Ensures (d, work)
      (fun r q => ∃ seen, q.1 = d.glance seen ∧
        (∀ window, seen = some window → Answered R .foreground (some window) work q.2) ∧
        (∀ event, r = .ok (some event) → ∃ window, seen = some window ∧
          d.lastForeground ≠ some window ∧ d.IsFocusOn window event) ∧
        ∀ failure, r = .error failure → d.monitor = none ∨
          ∃ window, Answered R (.title window) (.error failure) work q.2)
      fun q => ∃ seen, q.1 = d.glance seen ∧
        ∀ window, seen = some window → Answered R .foreground (some window) work q.2 := by
  unfold checkFocus
  rw [ensures_run_lift_bind]
  refine ensures_onSecond.mpr ?_
  have hforeground := h.call .foreground rfl work
  rcases hasked : (WindowSystem.call .foreground : Action (Workspace σ) _).exec work with
    ⟨e | seen, asked⟩
  · rw [ensures_of_error hasked]
    exact ⟨none, rfl, by simp⟩
  rw [ensures_of_ok hasked] at hforeground ⊢
  rcases seen with _ | window
  · exact ⟨none, rfl, by simp, by simp, by simp⟩
  have hsaw : ∀ work', R asked work' → ∀ other, some window = some other →
      Answered R .foreground (some other) work work' :=
    fun work' hR other hother => ⟨work, asked, h.path.refl work, hother ▸ hasked, hR⟩
  dsimp only
  rw [ensures_run_lift_bind, ensures_get]
  split
  · rename_i hsame
    have hglance : d = d.glance (some window) :=
      (Remembers.glance_eq fun other hother => hother ▸ hsame).symm
    exact ⟨some window, hglance, hsaw asked (h.path.refl asked), by simp, by simp⟩
  rename_i hnew
  simp only [ensures_run_lift_bind, setLastForeground, ensures_modify, ensures_onSecond]
  refine (h.ownerName? window asked).mono (fun owner work' hwork' => ?_)
    fun work' hwork' => ⟨some window, rfl, hsaw work' hwork'⟩
  rcases owner with _ | process
  · exact ⟨some window, rfl, hsaw work' hwork', by simp, by simp⟩
  dsimp only
  split
  · simp only [ensures_run_lift_bind, ensures_get]
    split
    · rename_i hmonitor
      exact ⟨some window, rfl, hsaw work' hwork', by simp, fun failure _ => .inl hmonitor⟩
    rename_i monitor hmonitor
    rw [ensures_run_bind]
    refine ensures_onSecond.mpr ?_
    have htitle := h.call (.title window) rfl work'
    rcases hread : (WindowSystem.call (.title window) : Action (Workspace σ) _).exec work' with
      ⟨e | title, work''⟩
    · rw [ensures_of_error hread] at htitle ⊢
      exact ⟨some window, rfl, hsaw work'' (h.path.trans hwork' htitle)⟩
    rw [ensures_of_ok hread] at htitle ⊢
    have hR := h.path.trans hwork' htitle
    rcases title with failure | title
    · -- The title cannot be read. The window stays remembered all the same, so it will not be asked
      -- for again.
      refine ⟨some window, rfl, hsaw work'' hR, by simp, fun failure' hfailure => .inr ⟨window, ?_⟩⟩
      obtain rfl := Except.error.inj hfailure
      exact ⟨work', work'', h.path.trans hforeground hwork', hread, h.path.refl work''⟩
    · refine ⟨some window, rfl, hsaw work'' hR, fun event he => ⟨window, rfl, hnew, ?_⟩, by simp⟩
      simp only [Except.ok.injEq, Option.some.injEq] at he
      exact ⟨monitor, process, title, hmonitor, he.symm⟩
  · exact ⟨some window, rfl, hsaw work' hwork', by simp, by simp⟩

/-! ## The course of a tick -/

/-- What the search of a tick finds, unless it is cut short. -/
def search (p : Detector × Workspace σ) : Except Overflow (Option WindowRecord) :=
  ((Workspace.findFullScreen p.1.targets).exec p.2).1

/-- A tick from `p` that came to `q` found `found` and took note of it; the foreground window was
looked at only if that is a window, and `seen` is what was seen then. -/
structure Looked (R : Workspace σ → Workspace σ → Prop) (p : Detector × Workspace σ)
    (found : Option WindowRecord) (seen : Option WindowHandle) (q : Detector × Workspace σ) :
    Prop where
  /-- The detector has something to look for. -/
  targets : p.1.targets ≠ []
  /-- This is what the search yields. -/
  search : search p = .ok found
  /-- The detector took note of it, and then remembered what was in the foreground. -/
  noted : q.1 = (observe found p.1).2.glance seen
  /-- The foreground was looked at only while some window is full screen. -/
  seen : ∀ window, seen = some window →
    found.isSome ∧ Answered R .foreground (some window) p.2 q.2

/-- The course of a tick from `p` to `q` with its events, if it was not cut short. -/
inductive Course (R : Workspace σ → Workspace σ → Prop) (p : Detector × Workspace σ) :
    Option (List DetectorEvent) → Detector × Workspace σ → Prop
  /-- Without targets the detector does not look. -/
  | blind : p.1.targets = [] → Course R p (some []) p
  /-- The search was cut short. -/
  | lost (work : Workspace σ) : (∀ found, search p ≠ .ok found) → Course R p none (p.1, work)
  /-- The search ended, and perhaps the focus was reported. -/
  | looked {found : Option WindowRecord} {seen : Option WindowHandle}
    (focus : Option DetectorEvent) {q : Detector × Workspace σ} : Looked R p found seen q →
      (∀ event ∈ focus, ∃ window, seen = some window ∧ p.1.lastForeground ≠ some window ∧
        (observe found p.1).2.IsFocusOn window event) →
        Course R p (some ((observe found p.1).1 ++ focus.toList)) q
  /-- A window was found, and the look at the focus was cut short. -/
  | distracted {record : WindowRecord} {seen : Option WindowHandle} {q : Detector × Workspace σ} :
    Looked R p (some record) seen q → Course R p none q

/-- All that a tick can do, whatever the window system answers. -/
theorem tick_course (h : Workspace.QueriesConform R R) (p : Detector × Workspace σ) :
    tick.Ensures p (fun events => Course R p (some events)) (Course R p none) := by
  unfold tick
  rw [ensures_bind, ensures_get]
  dsimp only
  split
  · rename_i hempty
    exact .blind (List.isEmpty_iff.mp hempty)
  rename_i hsome
  have htargets : p.1.targets ≠ [] := fun hnil => hsome (List.isEmpty_iff.mpr hnil)
  rw [ensures_bind, ensures_onSecond]
  have hsearched := h.findFullScreen p.1.targets p.2
  rcases hexec : (Workspace.findFullScreen p.1.targets).exec p.2 with ⟨e | found, work⟩
  · rw [ensures_of_error hexec]
    exact .lost work fun found => by simp [search, hexec]
  have hsearch : search p = .ok found := by rw [search, hexec]
  rw [ensures_of_ok hexec] at hsearched ⊢
  rw [ensures_bind, ensures_modifyGet]
  rcases found with _ | record
  · have hlooked : Looked R p none none ((observe none p.1).2, work) :=
      ⟨htargets, hsearch, rfl, by simp⟩
    simpa using Course.looked none hlooked (by simp)
  simp only [Option.isSome_some, if_true, ensures_bind]
  have hlooked : ∀ {seen : Option WindowHandle} {q : Detector × Workspace σ},
      q.1 = (observe (some record) p.1).2.glance seen →
        (∀ window, seen = some window → Answered R .foreground (some window) work q.2) →
          Looked R p (some record) seen q := by
    intro seen q hnoted hsaw
    exact ⟨htargets, hsearch, hnoted, fun window hseen =>
      ⟨rfl, (hsaw window hseen).trans h.path.toIsPath hsearched⟩⟩
  refine (checkFocus_course h p.1.targets (observe (some record) p.1).2 work).mono
    (fun r q hq => ?_) fun q ⟨seen, hnoted, hsaw⟩ => .distracted (hlooked hnoted hsaw)
  obtain ⟨seen, hnoted, hsaw, hnews, -⟩ := hq
  rw [observe_lastForeground rfl] at hnews
  rcases r with failure | focus
  · simpa using Course.looked none (hlooked hnoted hsaw) (by simp)
  · exact .looked focus (hlooked hnoted hsaw) fun event he => hnews event (by
      rw [Option.mem_def.mp he])

/-- What a finished tick makes of a detector, and the events it yields. -/
inductive Ticked (d : Detector) : List DetectorEvent → Detector → Prop
  /-- Without targets the detector does not look. -/
  | blind : d.targets = [] → Ticked d [] d
  /-- The search found a window or none, and then perhaps the focus was reported. -/
  | saw (found : Option WindowRecord) (focus : Option DetectorEvent) (d' : Detector) :
    SameSight (observe found d).2 d' →
      (∀ event ∈ focus, found.isSome ∧ IsFocusOf (observe found d).2 event) →
        Ticked d ((observe found d).1 ++ focus.toList) d'

/-- A tick that is cut short has either seen nothing, or it was looking at the focus of a window it
had found. -/
inductive TickCut (d : Detector) : Detector → Prop
  /-- Nothing was noted yet. -/
  | searching : TickCut d d
  /-- A window was noted, and the look at the focus was under way. -/
  | focusing (record : WindowRecord) (d' : Detector) :
    SameSight (observe (some record) d).2 d' → TickCut d d'

/-- All that a tick can do to a detector, whatever the window system answers. -/
theorem tick_ensures (d : Detector) (work : Workspace σ) :
    tick.Ensures (d, work) (fun events q => Ticked d events q.1) fun q => TickCut d q.1 := by
  refine (tick_course Workspace.queriesConform_true (d, work)).mono (fun events q hq => ?_)
    fun q hq => ?_
  · cases hq with
    | blind hempty => exact .blind hempty
    | looked focus hlooked hnews =>
      refine .saw _ focus q.1 (hlooked.noted ▸ glance_sameSight _ _) fun event he => ?_
      obtain ⟨window, hseen, -, hfocus⟩ := hnews event he
      exact ⟨(hlooked.seen window hseen).1, hfocus.isFocusOf⟩
  · cases hq with
    | lost work hlost => exact .searching
    | distracted hlooked => exact .focusing _ q.1 (hlooked.noted ▸ glance_sameSight _ _)

/-- No focus is reported if no window was found. -/
theorem Ticked.focus_eq_none {found : Option WindowRecord} {focus : Option DetectorEvent}
    {d : Detector} (hfound : found = none)
    (hfocus : ∀ event ∈ focus, found.isSome ∧ IsFocusOf (observe found d).2 event) : focus = none :=
  Option.eq_none_iff_forall_not_mem.mpr fun event he => by simpa [hfound] using (hfocus event he).1

/-- The event that full screen began with a window. -/
def enterEvent (record : WindowRecord) : DetectorEvent :=
  .fullScreenChanged (.entered record.handle record.monitor record.processName record.title)

/-- The events of a tick: a begin or nothing, and then perhaps the focus; or an end alone. -/
theorem Ticked.events_cases {d d' : Detector} {events : List DetectorEvent}
    (h : Ticked d events d') :
    ∃ focus : Option DetectorEvent,
      (∀ event ∈ focus, ∃ sighting, event = .targetFocused sighting) ∧
        (events = focus.toList ∨
          (d.fullScreen = false ∧ ∃ record, events = enterEvent record :: focus.toList) ∨
          events = [.fullScreenChanged .exited]) := by
  cases h with
  | blind hempty => exact ⟨none, by simp, .inl rfl⟩
  | saw found focus _ hsame hfocus =>
    have hfocused : ∀ event ∈ focus, ∃ sighting, event = .targetFocused sighting := by
      intro event he
      obtain ⟨-, window, monitor, process, title, rfl, -⟩ := hfocus event he
      exact ⟨_, rfl⟩
    refine ⟨focus, hfocused, ?_⟩
    -- four cases: whether a window was found, and whether the detector was full screen before
    rcases found with _ | record
    · obtain rfl := focus_eq_none rfl hfocus
      rcases hfull : d.fullScreen
      · exact .inl (by simp [observe, hfull])
      · exact .inr (.inr (by simp [observe, hfull]))
    · rcases hfull : d.fullScreen
      · exact .inr (.inl ⟨rfl, record, by simp [observe, hfull, enterEvent]⟩)
      · exact .inl (by simp [observe, hfull])

/-- After a tick the detector is full screen and knows where, or it is not, and then the tick found
it so or reported an exit and nothing else. -/
theorem Ticked.episode {d d' : Detector} {events : List DetectorEvent} (h : Ticked d events d')
    (hseen : d.fullScreen → d.current?.isSome) :
    (d'.fullScreen = true ∧ d'.current?.isSome) ∨
      (d'.fullScreen = false ∧ ((events = [] ∧ d.fullScreen = false) ∨
        ∃ sighting, sighting.fullScreen = false ∧ events = [.fullScreenChanged sighting])) := by
  cases h with
  | blind hempty =>
    rcases hfull : d.fullScreen
    · exact .inr ⟨rfl, .inl ⟨rfl, rfl⟩⟩
    · exact .inl ⟨rfl, hseen hfull⟩
  | saw found focus _ hsame hfocus =>
    obtain ⟨last, rfl⟩ := hsame
    rcases found with _ | record
    · obtain rfl := focus_eq_none rfl hfocus
      rcases hfull : d.fullScreen
      · exact .inr (by simp [observe, hfull])
      · exact .inr ⟨by simp [observe, hfull], .inr ⟨.exited, rfl, by simp [observe, hfull]⟩⟩
    · left
      rcases hfull : d.fullScreen
      · simp [observe, hfull, current?]
      · simpa [observe, hfull, current?] using hseen hfull

/-- A tick that is cut short leaves the detector as it was, or full screen and knowing where. -/
theorem TickCut.episode {d d' : Detector} (h : TickCut d d')
    (hseen : d.fullScreen → d.current?.isSome) :
    d' = d ∨ (d'.fullScreen = true ∧ d'.current?.isSome) := by
  cases h with
  | searching => exact .inl rfl
  | focusing record _ hsame =>
    obtain ⟨last, rfl⟩ := hsame
    right
    rcases hfull : d.fullScreen
    · simp [observe, hfull, current?]
    · simpa [observe, hfull, current?] using hseen hfull

/-- An exit is the only event of its tick. -/
theorem Ticked.exit_alone {d d' : Detector} {events : List DetectorEvent} (h : Ticked d events d')
    {event : DetectorEvent} (hmem : event ∈ events) (hexit : event.isExit) : events = [event] := by
  obtain ⟨focus, hfocus, hevents⟩ := h.events_cases
  have hnot : event ∉ focus.toList := fun he => by
    obtain ⟨sighting, rfl⟩ := hfocus event (by simpa using he)
    simp [DetectorEvent.isExit] at hexit
  rcases hevents with rfl | ⟨-, record, rfl⟩ | rfl
  · exact absurd hmem hnot
  · rcases List.mem_cons.mp hmem with rfl | hmem
    · simp [enterEvent, DetectorEvent.isExit, Sighting.entered] at hexit
    · exact absurd hmem hnot
  · rw [List.mem_singleton.mp hmem]

/-- An enter is the first event of its tick, and the detector was not full screen before. -/
theorem Ticked.enter_first {d d' : Detector} {events before after : List DetectorEvent}
    {event : DetectorEvent} (h : Ticked d events d') (hevents : events = before ++ event :: after)
    (henter : event.isEnter) : before = [] ∧ d.fullScreen = false := by
  obtain ⟨focus, hfocus, hcases⟩ := h.events_cases
  have hnot : event ∉ focus.toList := fun he => by
    obtain ⟨sighting, rfl⟩ := hfocus event (by simpa using he)
    simp [DetectorEvent.isEnter] at henter
  rcases hcases with hcase | ⟨hfull, record, hcase⟩ | hcase
  · rw [hcase] at hevents
    exact absurd (hevents ▸ by simp) hnot
  · refine ⟨?_, hfull⟩
    rcases before with _ | ⟨first, before⟩
    · rfl
    · -- what follows the first event is the focus
      have htail : focus.toList = before ++ event :: after :=
        (List.cons.inj (hcase.symm.trans hevents)).2
      exact absurd (htail ▸ by simp) hnot
  · -- the only event is an exit
    have hmem : event ∈ [DetectorEvent.fullScreenChanged .exited] := by
      rw [← hcase, hevents]
      simp
    rw [List.mem_singleton.mp hmem] at henter
    simp [DetectorEvent.isEnter, Sighting.exited] at henter

end Detector

end SoloScreen
