import SoloScreen.Desktop

/-!
# What happens on a desktop

The emulated desktop changes from outside, through what the user and other programs do to it
(`Desktop.Event`), and through the native calls it answers. Desktops that come about in this way are
`Reachable`, and they are `Sound`: handles are never given out twice, and no window is remembered as
minimized, so that restoring it always shows it.

A desktop is `Faultless` if enumeration works and every window answers and obeys.
-/

namespace SoloScreen

/-- The window, whatever it is shown like. -/
def DesktopWindow.unshown (window : DesktopWindow) : DesktopWindow :=
  { window with state := .normal }

namespace Desktop

/-! ## Events -/

/-- Something that is done to a desktop from outside. -/
inductive Event where
  /-- A program opens a window, which comes to stand uppermost. -/
  | openWindow (window : DesktopWindow)
  /-- A window is closed. -/
  | closeWindow (window : WindowHandle)
  /-- The focus goes to another window, or to none. -/
  | setForeground (window : Option WindowHandle)
  /-- The user shows a window in another way. -/
  | setShowState (window : WindowHandle) (state : ShowState)
  /-- A monitor is connected. -/
  | addMonitor (info : MonitorInfo)
  /-- A process is started. -/
  | addProcess (process : ProcessId) (path : String)
  /-- Enumerations fail from now on, or work again. -/
  | failEnumeration (fails : Bool)
  /-- Questions about a window fail from now on. -/
  | failWindow (window : WindowHandle)
  /-- A window refuses to be shown in another way from now on. -/
  | refuse (window : WindowHandle)
  /-- Time passes. -/
  | wait (time : Nat)
  deriving DecidableEq, Repr

/-- The desktop after an event. -/
def Event.apply : Event → Desktop → Desktop
  | .openWindow window, desktop => (desktop.openWindow window).2
  | .closeWindow window, desktop => desktop.closeWindow window
  | .setForeground window, desktop => desktop.setForeground window
  | .setShowState window state, desktop => desktop.setShowState window state
  | .addMonitor info, desktop => (desktop.addMonitor info).2
  | .addProcess process path, desktop => desktop.addProcess process path
  | .failEnumeration fails, desktop => desktop.failEnumeration fails
  | .failWindow window, desktop => desktop.failWindow window
  | .refuse window, desktop => desktop.refuse window
  | .wait time, desktop => { desktop with time := desktop.time + time }

/-- The event makes the desktop misbehave. -/
def Event.isFault : Event → Bool
  | .failEnumeration fails => fails
  | .failWindow _ => true
  | .refuse _ => true
  | _ => false

/-- The desktops that come about, from an empty one, through events and native calls. -/
inductive Reachable : Desktop → Prop
  /-- Nothing was done yet. -/
  | empty : Reachable {}
  /-- Something was done from outside. -/
  | event (event : Event) {desktop : Desktop} : Reachable desktop → Reachable (event.apply desktop)
  /-- A native call was answered. -/
  | call (call : NativeCall) {desktop : Desktop} :
    Reachable desktop → Reachable (desktop.answer call).2
  /-- The clock was read, which takes time. -/
  | readClock {desktop : Desktop} :
    Reachable desktop → Reachable ((WindowSystem.readClock : Action Desktop Nat).exec desktop).2

/-! ## Looking up a window -/

/-- A window that is shown in another way is the one found under its handle; the others are found as
before. -/
theorem find?_withState (window other : WindowHandle) (state : ShowState)
    (windows : List (WindowHandle × DesktopWindow)) :
    Table.find? other (withState window state windows) =
      if other = window then (Table.find? other windows).map ({ · with state })
      else Table.find? other windows := by
  induction windows with
  | nil => simp [withState]
  | cons entry rest ih =>
    obtain ⟨handle, w⟩ := entry
    unfold withState
    by_cases hwindow : handle = window
    · subst hwindow
      by_cases hother : handle = other
      · simp [Table.find?, hother]
      · have hne : ¬ other = handle := fun h => hother h.symm
        simp [Table.find?, hother, hne]
    · simp only [hwindow, if_false, Table.find?, ih]
      by_cases hother : handle = other
      · subst hother
        simp [hwindow]
      · simp [hother]

/-- Showing a window in another way moves none in the order. -/
theorem map_fst_withState (window : WindowHandle) (state : ShowState)
    (windows : List (WindowHandle × DesktopWindow)) :
    (withState window state windows).map Prod.fst = windows.map Prod.fst := by
  induction windows with
  | nil => rfl
  | cons entry rest ih =>
    obtain ⟨handle, w⟩ := entry
    unfold withState
    split
    · rfl
    · simp [ih]

/-- Up to how windows are shown, nothing has changed. -/
theorem map_unshown_withState (window : WindowHandle) (state : ShowState)
    (windows : List (WindowHandle × DesktopWindow)) :
    (withState window state windows).map (Prod.map id DesktopWindow.unshown) =
      windows.map (Prod.map id DesktopWindow.unshown) := by
  induction windows with
  | nil => rfl
  | cons entry rest ih =>
    obtain ⟨handle, w⟩ := entry
    unfold withState
    split
    · rfl
    · rw [List.map_cons, List.map_cons, ih]

/-- A window that is found is one of the windows. -/
theorem mem_of_find? {window : WindowHandle} {desktop : Desktop} {w : DesktopWindow}
    (h : desktop.find? window = some w) : window ∈ desktop.windows.map Prod.fst :=
  List.mem_map_of_mem (f := Prod.fst) (Table.mem_of_find? h)

/-- A window that answers is open. -/
theorem find?_of_window {window : WindowHandle} {desktop : Desktop} {w : DesktopWindow}
    (h : desktop.window window = .ok w) :
    desktop.find? window = some w ∧ window ∉ desktop.failing := by
  unfold Desktop.window at h
  split at h
  · simp at h
  · rename_i hfailing
    split at h
    · rename_i w' hw
      exact ⟨by rw [hw, Except.ok.inj h], by simpa using hfailing⟩
    · simp at h

/-- A window that was opened is found under the handle given out for it. -/
theorem find?_openWindow (window : DesktopWindow) (other : WindowHandle) (desktop : Desktop) :
    (desktop.openWindow window).2.find? other =
      if ⟨desktop.nextHandle⟩ = other then some window else desktop.find? other := rfl

/-- A window that was closed is not found any more. -/
theorem find?_closeWindow (window other : WindowHandle) (desktop : Desktop) :
    (desktop.closeWindow window).find? other =
      if other = window then none else desktop.find? other :=
  Table.find?_erase window other desktop.windows

/-- A window is found as it is shown now. -/
theorem find?_setShowState (window other : WindowHandle) (state : ShowState) (desktop : Desktop) :
    (desktop.setShowState window state).find? other =
      if other = window then (desktop.find? other).map ({ · with state })
      else desktop.find? other :=
  find?_withState window other state desktop.windows

/-- The window is open and minimized. -/
def isMinimized (window : WindowHandle) (desktop : Desktop) : Bool :=
  (desktop.find? window).any (·.state == .minimized)

/-- A window counts as minimized only if it is open. -/
theorem isMinimized_iff {window : WindowHandle} {desktop : Desktop} :
    desktop.isMinimized window = true ↔
      ∃ w, desktop.find? window = some w ∧ w.state = .minimized := by
  unfold isMinimized
  rcases desktop.find? window with _ | w <;> simp

/-! ## Soundness -/

/-- What is true of every desktop that comes about. -/
structure Sound (desktop : Desktop) : Prop where
  /-- A handle that is still to be given out names no window. -/
  fresh : ∀ window ∈ desktop.windows.map Prod.fst, window.raw < desktop.nextHandle
  /-- Handles name one window each. -/
  distinct : (desktop.windows.map Prod.fst).Nodup
  /-- No handle that is given out is null. -/
  positive : 0 < desktop.nextHandle
  /-- No window is remembered as minimized. -/
  shown : ∀ window, desktop.remembered.find? window ≠ some .minimized

/-- The handle of an open window was given out. -/
theorem Sound.lt_nextHandle {desktop : Desktop} (h : desktop.Sound) {window : WindowHandle}
    {w : DesktopWindow} (hw : desktop.find? window = some w) : window.raw < desktop.nextHandle :=
  h.fresh window (mem_of_find? hw)

/-- A change that touches neither handles nor memory keeps a desktop sound. -/
theorem Sound.of_eq {desktop desktop' : Desktop} (h : desktop.Sound)
    (hwindows : desktop'.windows.map Prod.fst = desktop.windows.map Prod.fst)
    (hnext : desktop'.nextHandle = desktop.nextHandle)
    (hremembered : desktop'.remembered = desktop.remembered) : desktop'.Sound where
  fresh := by rw [hwindows, hnext]; exact h.fresh
  distinct := by rw [hwindows]; exact h.distinct
  positive := by rw [hnext]; exact h.positive
  shown := by rw [hremembered]; exact h.shown

/-- Whatever is done from outside keeps a desktop sound. -/
theorem Sound.apply {desktop : Desktop} (h : desktop.Sound) (event : Event) :
    (event.apply desktop).Sound := by
  cases event with
  | openWindow window =>
    refine ⟨fun other hother => ?_, ?_, ?_, h.shown⟩
    · show other.raw < desktop.nextHandle + 0x10
      rcases List.mem_cons.mp hother with rfl | hold
      · exact Int.lt_add_of_pos_right _ (by decide)
      · have := h.fresh other hold
        omega
    · refine List.nodup_cons.mpr ⟨fun hmem => ?_, h.distinct⟩
      exact absurd (h.fresh _ hmem) (Int.lt_irrefl _)
    · have := h.positive
      show 0 < desktop.nextHandle + 0x10
      omega
  | closeWindow window =>
    have hsublist : ((desktop.closeWindow window).windows.map Prod.fst).Sublist
        (desktop.windows.map Prod.fst) := List.filter_sublist.map _
    refine ⟨fun other hother => h.fresh other (hsublist.subset hother),
      hsublist.nodup h.distinct, h.positive, fun other => ?_⟩
    show Table.find? other (desktop.remembered.erase window) ≠ _
    rw [Table.find?_erase]
    split
    · simp
    · exact h.shown other
  | setShowState window state => exact h.of_eq (map_fst_withState ..) rfl rfl
  | setForeground window => exact h.of_eq rfl rfl rfl
  | addMonitor info => exact h.of_eq rfl rfl rfl
  | addProcess process path => exact h.of_eq rfl rfl rfl
  | failEnumeration fails => exact h.of_eq rfl rfl rfl
  | failWindow window => exact h.of_eq rfl rfl rfl
  | refuse window => exact h.of_eq rfl rfl rfl
  | wait time => exact h.of_eq rfl rfl rfl

/-- What a request for a change of state makes of a desktop. -/
theorem requestState_cases (window : WindowHandle) (command : WindowCommand) (desktop : Desktop) :
    (∃ answer, answer ≠ .ok true ∧ desktop.requestState window command =
      (answer, { desktop with stateRequests := desktop.stateRequests + 1 })) ∨
    ∃ w, desktop.window window = .ok w ∧ window ∉ desktop.refusing ∧
      desktop.requestState window command = (.ok true, match command with
        | .minimize => { desktop with
            stateRequests := desktop.stateRequests + 1
            windows := withState window .minimized desktop.windows
            remembered := if w.state = .minimized then desktop.remembered
              else desktop.remembered.insert window w.state }
        | .restore => { desktop with
            stateRequests := desktop.stateRequests + 1
            windows := withState window ((desktop.remembered.find? window).getD .normal)
              desktop.windows
            remembered := desktop.remembered.erase window }) := by
  unfold requestState
  rcases hw : desktop.window window with failure | w
  · exact .inl ⟨_, by simp, rfl⟩
  by_cases hrefusing : window ∈ desktop.refusing
  · exact .inl ⟨.ok false, by simp, by simp [hrefusing]⟩
  · refine .inr ⟨w, rfl, hrefusing, ?_⟩
    cases command <;> simp [hrefusing]

/-- A request takes no time. -/
theorem time_requestState (window : WindowHandle) (command : WindowCommand) (desktop : Desktop) :
    (desktop.requestState window command).2.time = desktop.time := by
  rcases requestState_cases window command desktop with ⟨answer, -, hr⟩ | ⟨w, -, -, hr⟩
  · rw [hr]
  · rw [hr]
    cases command <;> rfl

/-- Native calls take no time. -/
theorem time_answer (desktop : Desktop) (call : NativeCall) :
    (desktop.answer call).2.time = desktop.time := by
  cases call with
  | enumerate =>
    unfold Desktop.answer
    split <;> rfl
  | setState window command => exact time_requestState window command desktop
  | _ => rfl

/-- The desktops differ at most in how windows are shown, in what is remembered of that, in their
counters and in their clocks. -/
structure Framed (desktop desktop' : Desktop) : Prop where
  /-- The monitors are the same. -/
  monitors : desktop'.monitors = desktop.monitors
  /-- The processes are the same. -/
  processes : desktop'.processes = desktop.processes
  /-- The windows are the same and stand in the same order. -/
  handles : desktop'.windows.map Prod.fst = desktop.windows.map Prod.fst
  /-- The focus is where it was. -/
  foreground : desktop'.foreground = desktop.foreground
  /-- No handle was given out. -/
  nextHandle : desktop'.nextHandle = desktop.nextHandle
  /-- Enumerations work as before. -/
  enumerationFails : desktop'.enumerationFails = desktop.enumerationFails
  /-- The same windows fail to answer. -/
  failing : desktop'.failing = desktop.failing
  /-- The same windows refuse. -/
  refusing : desktop'.refusing = desktop.refusing

/-- A desktop differs in nothing from itself. -/
theorem Framed.refl (desktop : Desktop) : Framed desktop desktop :=
  ⟨rfl, rfl, rfl, rfl, rfl, rfl, rfl, rfl⟩

/-- Differences of this kind can be put together. -/
theorem Framed.trans {D E F : Desktop} (h₁ : Framed D E) (h₂ : Framed E F) : Framed D F where
  monitors := h₂.monitors.trans h₁.monitors
  processes := h₂.processes.trans h₁.processes
  handles := h₂.handles.trans h₁.handles
  foreground := h₂.foreground.trans h₁.foreground
  nextHandle := h₂.nextHandle.trans h₁.nextHandle
  enumerationFails := h₂.enumerationFails.trans h₁.enumerationFails
  failing := h₂.failing.trans h₁.failing
  refusing := h₂.refusing.trans h₁.refusing

/-- No native call does more than change how a window is shown. -/
theorem answer_framed (desktop : Desktop) (call : NativeCall) :
    Framed desktop (desktop.answer call).2 := by
  cases call with
  | enumerate =>
    unfold Desktop.answer
    split <;> exact ⟨rfl, rfl, rfl, rfl, rfl, rfl, rfl, rfl⟩
  | setState window command =>
    show Framed desktop (desktop.requestState window command).2
    rcases requestState_cases window command desktop with ⟨answer, -, hr⟩ | ⟨w, -, -, hr⟩
    · rw [hr]
      exact ⟨rfl, rfl, rfl, rfl, rfl, rfl, rfl, rfl⟩
    · rw [hr]
      cases command <;> exact ⟨rfl, rfl, map_fst_withState .., rfl, rfl, rfl, rfl, rfl⟩
  | _ => exact ⟨rfl, rfl, rfl, rfl, rfl, rfl, rfl, rfl⟩

/-- A desktop that differs in how windows are shown is sound if none is remembered as minimized. -/
theorem Sound.of_framed {desktop desktop' : Desktop} (h : desktop.Sound)
    (hframed : Framed desktop desktop')
    (hshown : ∀ window, desktop'.remembered.find? window ≠ some .minimized) : desktop'.Sound where
  fresh := by rw [hframed.handles, hframed.nextHandle]; exact h.fresh
  distinct := by rw [hframed.handles]; exact h.distinct
  positive := by rw [hframed.nextHandle]; exact h.positive
  shown := hshown

/-- The desktops are framed, and each window is the same up to how it is shown. -/
structure Reshown (desktop desktop' : Desktop) : Prop extends Framed desktop desktop' where
  /-- Up to how they are shown the windows are the same. -/
  windows : desktop'.windows.map (Prod.map id DesktopWindow.unshown) =
    desktop.windows.map (Prod.map id DesktopWindow.unshown)

/-- Every desktop is the same as itself. -/
theorem Reshown.refl (desktop : Desktop) : Reshown desktop desktop := ⟨.refl desktop, rfl⟩

/-- Being the same up to how windows are shown, twice. -/
theorem Reshown.trans {D E F : Desktop} (h₁ : Reshown D E) (h₂ : Reshown E F) : Reshown D F :=
  ⟨h₁.toFramed.trans h₂.toFramed, h₂.windows.trans h₁.windows⟩

/-- A window that is found on one desktop is found on the other, the same up to how it is shown. -/
theorem Reshown.find? {D E : Desktop} (h : Reshown D E) (window : WindowHandle) :
    (E.find? window).map DesktopWindow.unshown = (D.find? window).map DesktopWindow.unshown := by
  unfold Desktop.find?
  rw [← Table.find?_map, ← Table.find?_map, h.windows]

/-- What a window answers is the same up to how it is shown. -/
theorem Reshown.window {D E : Desktop} (h : Reshown D E) (window : WindowHandle) :
    (E.window window).map DesktopWindow.unshown = (D.window window).map DesktopWindow.unshown := by
  have hfind := h.find? window
  unfold Desktop.window
  rw [h.failing]
  split
  · rfl
  · rcases hD : D.find? window with _ | v <;> rcases hE : E.find? window with _ | w
    · rfl
    · simp [hD, hE] at hfind
    · simp [hD, hE] at hfind
    · simpa [hD, hE, Except.map] using hfind

/-- A window that answers answers on both desktops, the same up to how it is shown. -/
theorem Reshown.exists_window {D E : Desktop} (h : Reshown D E) {window : WindowHandle}
    {w : DesktopWindow} (hw : E.window window = .ok w) :
    ∃ v, D.window window = .ok v ∧ w.unshown = v.unshown := by
  have hsame := h.window window
  rw [hw] at hsame
  rcases hv : D.window window with failure | v
  · simp [hv, Except.map] at hsame
  · exact ⟨v, rfl, by simpa [hv, Except.map] using hsame⟩

/-- How windows are shown does not matter to whom they belong. -/
theorem Reshown.process {D E : Desktop} (h : Reshown D E) (window : WindowHandle) :
    (E.window window).map (·.process) = (D.window window).map (·.process) := by
  have hsame := h.window window
  rcases hE : E.window window with failure | w
  · rcases hD : D.window window with failure' | v
    · simpa [hE, hD, Except.map] using hsame
    · simp [hE, hD, Except.map] at hsame
  · obtain ⟨v, hv, hunshown⟩ := h.exists_window hE
    have hprocess : w.process = v.process := congrArg (·.process) hunshown
    rw [hv, Except.map, Except.map, hprocess]

/-- No native call changes anything else of a window. -/
theorem answer_reshown (desktop : Desktop) (call : NativeCall) :
    Reshown desktop (desktop.answer call).2 := by
  refine ⟨answer_framed desktop call, ?_⟩
  cases call with
  | enumerate =>
    unfold Desktop.answer
    split <;> rfl
  | setState window command =>
    show (desktop.requestState window command).2.windows.map _ = _
    rcases requestState_cases window command desktop with ⟨answer, -, hr⟩ | ⟨w, -, -, hr⟩
    · rw [hr]
    · rw [hr]
      cases command <;> exact map_unshown_withState ..
  | _ => rfl

/-- A native call keeps a desktop sound: what it comes to remember is not minimized. -/
theorem Sound.answer {desktop : Desktop} (h : desktop.Sound) (call : NativeCall) :
    (desktop.answer call).2.Sound := by
  refine h.of_framed (answer_framed desktop call) ?_
  cases call with
  | enumerate =>
    unfold Desktop.answer
    split <;> exact h.shown
  | setState window command =>
    show ∀ other, (desktop.requestState window command).2.remembered.find? other ≠ _
    intro other
    rcases requestState_cases window command desktop with ⟨answer, -, hr⟩ | ⟨w, -, -, hr⟩
    · rw [hr]
      exact h.shown other
    · rw [hr]
      cases command with
      | minimize =>
        dsimp only
        split
        · exact h.shown other
        · rename_i hstate
          rw [Table.find?_insert]
          split
          · simpa using hstate
          · exact h.shown other
      | restore =>
        dsimp only
        rw [Table.find?_erase]
        split
        · simp
        · exact h.shown other
  | _ => exact h.shown

/-- Every desktop that comes about is sound. -/
theorem Reachable.sound {desktop : Desktop} (h : desktop.Reachable) : desktop.Sound := by
  induction h with
  | empty => exact ⟨by simp, by simp, by decide, by simp⟩
  | event event _ ih => exact ih.apply event
  | call call _ ih => exact ih.answer call
  | readClock _ ih => exact ih.of_eq rfl rfl rfl

/-- A list of events leads from a reachable desktop to a reachable one. -/
theorem Reachable.events {desktop : Desktop} (h : desktop.Reachable) (events : List Event) :
    (events.foldl (fun desktop event => event.apply desktop) desktop).Reachable := by
  induction events generalizing desktop with
  | nil => exact h
  | cons event rest ih => exact ih (.event event h)

/-- The demonstration desktop comes about through events. -/
theorem reachable_demo : demo.Reachable :=
  Reachable.empty.events
    [.addMonitor ⟨⟨0, 0, 1920, 1080⟩, ⟨0, 0, 1920, 1040⟩⟩,
      .addProcess 100 "C:\\Windows\\explorer.exe",
      .addProcess 200 "C:\\Windows\\System32\\notepad.exe",
      .addProcess 300 "C:\\Program Files\\Mozilla Firefox\\firefox.exe",
      .openWindow { DesktopWindow.titled 100 "" with
        className := "Shell_TrayWnd", bounds := ⟨0, 1040, 1920, 1080⟩ },
      .openWindow (DesktopWindow.titled 200 "notes.txt - Notepad"),
      .openWindow { DesktopWindow.titled 300 "Mozilla Firefox" with
        bounds := ⟨200, 80, 1400, 880⟩ }]

/-! ## Faults -/

/-- Enumeration works, and every window answers and obeys. -/
structure Faultless (desktop : Desktop) : Prop where
  /-- Enumerations work. -/
  enumerates : desktop.enumerationFails = false
  /-- No window fails to answer. -/
  answers : desktop.failing = []
  /-- No window refuses. -/
  obeys : desktop.refusing = []

/-- The demonstration desktop is faultless. -/
theorem faultless_demo : demo.Faultless := ⟨rfl, rfl, rfl⟩

/-- On a faultless desktop every open window answers. -/
theorem Faultless.window {desktop : Desktop} (h : desktop.Faultless) (window : WindowHandle) :
    desktop.window window =
      match desktop.find? window with
      | some w => .ok w
      | none => .error (.windowNotFound window) := by
  unfold Desktop.window
  rw [h.answers]
  rfl

/-- What is no fault keeps a desktop faultless. -/
theorem Faultless.apply {desktop : Desktop} (h : desktop.Faultless) {event : Event}
    (hevent : event.isFault = false) : (event.apply desktop).Faultless := by
  cases event with
  | failEnumeration fails => exact ⟨hevent, h.answers, h.obeys⟩
  | failWindow window => simp [Event.isFault] at hevent
  | refuse window => simp [Event.isFault] at hevent
  | _ => exact ⟨h.enumerates, h.answers, h.obeys⟩

/-- So does everything that only changes how windows are shown. -/
theorem Faultless.of_framed {desktop desktop' : Desktop} (h : desktop.Faultless)
    (hframed : Framed desktop desktop') : desktop'.Faultless where
  enumerates := hframed.enumerationFails.trans h.enumerates
  answers := hframed.failing.trans h.answers
  obeys := hframed.refusing.trans h.obeys

end Desktop

end SoloScreen
