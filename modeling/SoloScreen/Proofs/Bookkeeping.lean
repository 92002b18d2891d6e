import Mathlib.Data.List.Induction
import Mathlib.Data.List.Nodup
import SoloScreen.Proofs.DesktopEvents

/-!
# The books of a desktop

A desktop keeps three books: which handles it has given out, in which order the windows stand, and
how minimized windows were shown before. Whatever is done to a desktop, they stay in order
(`Desktop.Orderly`): handles ascend in the order in which they are given out, the windows are those
given out and not closed, the newest uppermost, and only open windows are remembered.

* `Desktop.run_orderly`: this is so after any run that starts with an empty desktop.
* `Desktop.requestState_told`: what a request for a change of state does, and what its answer says.
* `Desktop.bookkeeping_sound`: both together, in terms of handles and windows.
-/

namespace SoloScreen.Desktop

/-! ## Runs -/

/-- Something that is done with a desktop: an event from outside, or a native call. -/
inductive Input where
  /-- Something happens to the desktop by itself. -/
  | outside (event : Event)
  /-- The program asks or requests something. -/
  | call (call : NativeCall)
  deriving DecidableEq, Repr

/-- The desktop after an input. -/
def step (desktop : Desktop) : Input → Desktop
  | .outside event => event.apply desktop
  | .call call => (desktop.answer call).2

/-- The handle that is given out: opening a window gives one. -/
def opened? (desktop : Desktop) : Input → Option WindowHandle
  | .outside (.openWindow window) => some (desktop.openWindow window).1
  | _ => none

/-- The desktop after a list of inputs. -/
def run (inputs : List Input) (desktop : Desktop) : Desktop := inputs.foldl step desktop

/-- The handles given out in the course of a list of inputs, the oldest first. -/
def opened : List Input → Desktop → List WindowHandle
  | [], _ => []
  | input :: rest, desktop => (desktop.opened? input).toList ++ opened rest (desktop.step input)

/-- One input more, at the end. -/
theorem run_concat (inputs : List Input) (input : Input) (desktop : Desktop) :
    run (inputs ++ [input]) desktop = (run inputs desktop).step input := by
  simp [run]

/-- One input more gives out its handle last, if it gives out one. -/
theorem opened_concat (inputs : List Input) (input : Input) (desktop : Desktop) :
    opened (inputs ++ [input]) desktop =
      opened inputs desktop ++ ((run inputs desktop).opened? input).toList := by
  induction inputs generalizing desktop with
  | nil => simp [opened, run]
  | cons first rest ih =>
    rw [List.cons_append, opened, ih, opened, List.append_assoc]
    rfl

/-- Every run that starts with an empty desktop leads to a reachable one, so what is known of
reachable desktops is known of runs. -/
theorem run_reachable (inputs : List Input) : (run inputs {}).Reachable := by
  induction inputs using List.reverseRecOn with
  | nil => exact .empty
  | append_singleton inputs input ih =>
    rw [run_concat]
    cases input with
    | outside event => exact .event event ih
    | call call => exact .call call ih

/-! ## Order in the books -/

/-- The handles of the open windows, from top to bottom. -/
def handles (desktop : Desktop) : List WindowHandle := desktop.windows.map Prod.fst

/-- The books are in order, where `given` are the handles given out so far. -/
structure Orderly (given : List WindowHandle) (desktop : Desktop) : Prop where
  /-- Each handle is larger than those given out before. -/
  ascending : given.Pairwise fun older newer => older.raw < newer.raw
  /-- The next handle is larger than all of them. -/
  below : ∀ window ∈ given, window.raw < desktop.nextHandle
  /-- The windows are some of those given out, the newest uppermost. -/
  stacked : desktop.handles.Sublist given.reverse
  /-- Monitors are numbered in the order in which they are added. -/
  numbered : desktop.monitors.map Prod.fst =
    (List.range desktop.monitors.length).map fun n => ⟨0x10 + n⟩
  /-- Only open windows are remembered. -/
  recalled : ∀ window, (desktop.remembered.find? window).isSome → window ∈ desktop.handles

/-- The books of an empty desktop are in order. -/
theorem empty_orderly : Orderly [] {} :=
  ⟨.nil, by simp, by simp [handles], rfl, by simp⟩

namespace Orderly

variable {given : List WindowHandle} {desktop desktop' : Desktop}

/-- A change that gives out no handle keeps the books in order if it remembers no other window than
those open. -/
theorem of_eq (h : Orderly given desktop) (hhandles : desktop'.handles = desktop.handles)
    (hnext : desktop'.nextHandle = desktop.nextHandle)
    (hmonitors : desktop'.monitors = desktop.monitors)
    (hrecalled : ∀ window, (desktop'.remembered.find? window).isSome → window ∈ desktop.handles) :
    Orderly given desktop' where
  ascending := h.ascending
  below := by rw [hnext]; exact h.below
  stacked := by rw [hhandles]; exact h.stacked
  numbered := by rw [hmonitors]; exact h.numbered
  recalled := by rw [hhandles]; exact hrecalled

/-- A window that is opened gets a handle larger than all before it, and comes to stand
uppermost. -/
theorem openWindow (h : Orderly given desktop) (window : DesktopWindow) :
    Orderly (given ++ [⟨desktop.nextHandle⟩]) (desktop.openWindow window).2 where
  ascending := by
    rw [List.pairwise_append]
    refine ⟨h.ascending, List.pairwise_singleton _ _, fun older holder newer hnewer => ?_⟩
    rw [List.mem_singleton.mp hnewer]
    exact h.below older holder
  below := by
    intro other hother
    show other.raw < desktop.nextHandle + 0x10
    rcases List.mem_append.mp hother with hold | hnew
    · have := h.below other hold
      omega
    · rw [List.mem_singleton.mp hnew]
      exact Int.lt_add_of_pos_right _ (by decide)
  stacked := by
    rw [List.reverse_append]
    exact h.stacked.cons_cons _
  numbered := h.numbered
  recalled other hother := List.mem_cons_of_mem _ (h.recalled other hother)

/-- A window that is closed disappears from the order and is not remembered any more. Its handle
stays given out. -/
theorem closeWindow (h : Orderly given desktop) (window : WindowHandle) :
    Orderly given (desktop.closeWindow window) where
  ascending := h.ascending
  below := h.below
  stacked := (List.filter_sublist.map _).trans h.stacked
  numbered := h.numbered
  recalled := by
    intro other hother
    have hfind : (Table.find? other (desktop.remembered.erase window)).isSome = true := hother
    rw [Table.find?_erase] at hfind
    split at hfind
    · cases hfind
    · rename_i hne
      obtain ⟨entry, hentry, rfl⟩ := List.mem_map.mp (h.recalled other hfind)
      exact List.mem_map_of_mem (List.mem_filter.mpr ⟨hentry, by simpa using hne⟩)

/-- A monitor that is added gets the next number. -/
theorem addMonitor (h : Orderly given desktop) (info : MonitorInfo) :
    Orderly given (desktop.addMonitor info).2 where
  ascending := h.ascending
  below := h.below
  stacked := h.stacked
  numbered := by
    unfold Desktop.addMonitor
    simp only [List.map_append, List.length_append, List.length_cons, List.length_nil,
      List.range_succ, h.numbered]
    rfl
  recalled := h.recalled

/-- Nothing is given out. -/
theorem quiet (h : Orderly given desktop) : Orderly (given ++ []) desktop := by
  rwa [List.append_nil]

/-- Whatever happens outside, the books stay in order. -/
theorem outside (h : Orderly given desktop) (event : Event) :
    Orderly (given ++ (desktop.opened? (.outside event)).toList) (event.apply desktop) := by
  cases event with
  | openWindow window => exact h.openWindow window
  | closeWindow window => exact (h.closeWindow window).quiet
  | addMonitor info => exact (h.addMonitor info).quiet
  | setShowState window state =>
    have hhandles : (desktop.setShowState window state).handles = desktop.handles :=
      map_fst_withState ..
    exact (h.of_eq hhandles rfl rfl h.recalled).quiet
  | _ => exact quiet (h.of_eq rfl rfl rfl h.recalled)

/-- A window that is remembered newly has answered, so it is open. -/
theorem requestState (h : Orderly given desktop) (window : WindowHandle) (command : WindowCommand) :
    ∀ other, ((desktop.requestState window command).2.remembered.find? other).isSome →
      other ∈ desktop.handles := by
  intro other
  rcases requestState_cases window command desktop with ⟨answer, -, hr⟩ | ⟨w, hw, -, hr⟩
  · rw [hr]
    exact h.recalled other
  · rw [hr]
    cases command with
    | minimize =>
      dsimp only
      split
      · exact h.recalled other
      · rw [Table.find?_insert]
        split
        · rename_i hsame
          rw [← hsame]
          exact fun _ => mem_of_find? (find?_of_window hw).1
        · exact h.recalled other
    | restore =>
      dsimp only
      rw [Table.find?_erase]
      split
      · simp
      · exact h.recalled other

/-- No native call puts the books out of order; it gives out no handle and moves no window in the
order. -/
theorem call (h : Orderly given desktop) (call : NativeCall) :
    Orderly given (desktop.answer call).2 := by
  have hframed := answer_framed desktop call
  refine h.of_eq hframed.handles hframed.nextHandle hframed.monitors ?_
  cases call with
  | enumerate =>
    unfold Desktop.answer
    split <;> exact h.recalled
  | setState window command => exact h.requestState window command
  | _ => exact h.recalled

/-- Whatever is done, the books stay in order. -/
theorem step (h : Orderly given desktop) (input : Input) :
    Orderly (given ++ (desktop.opened? input).toList) (desktop.step input) := by
  cases input with
  | outside event => exact h.outside event
  | call call => exact (h.call call).quiet

/-- The windows stand in the reverse order of their handles. -/
theorem descending (h : Orderly given desktop) :
    desktop.handles.Pairwise fun upper lower => lower.raw < upper.raw :=
  (List.pairwise_reverse.mpr h.ascending).sublist h.stacked

/-- No handle is given out twice. -/
theorem nodup (h : Orderly given desktop) : given.Nodup :=
  h.ascending.imp fun hlt hsame => absurd (congrArg WindowHandle.raw hsame) (Int.ne_of_lt hlt)

/-- No two monitors have the same handle. -/
theorem monitors_nodup (h : Orderly given desktop) : (desktop.monitors.map Prod.fst).Nodup := by
  rw [h.numbered]
  refine List.Nodup.map ?_ List.nodup_range
  intro m n hsame
  have hraw := congrArg MonitorHandle.raw hsame
  dsimp only at hraw
  omega

end Orderly

/-! ## Requests -/

/-- A request is confirmed exactly if the window answers and does not refuse. -/
theorem requestState_confirms_iff (window : WindowHandle) (command : WindowCommand)
    (desktop : Desktop) : (desktop.requestState window command).1 = .ok true ↔
      (desktop.find? window).isSome ∧ window ∉ desktop.failing ∧ window ∉ desktop.refusing := by
  unfold requestState Desktop.window
  by_cases hfailing : window ∈ desktop.failing
  · simp [hfailing]
  · rcases hfind : desktop.find? window with _ | w
    · simp [hfailing]
    · by_cases hrefusing : window ∈ desktop.refusing
      · simp [hfailing, hrefusing]
      · cases command <;> simp [hfailing, hrefusing]

/-- A confirmed request changes how the window is shown, and what is remembered of it alone. -/
theorem requestState_shows {desktop after : Desktop} (h : desktop.Sound)
    {window : WindowHandle} {command : WindowCommand}
    (hr : desktop.requestState window command = (.ok true, after)) :
    ∃ state, (state = .minimized ↔ command = .minimize) ∧
      after.windows = withState window state desktop.windows ∧
        ∀ other, other ≠ window →
          after.remembered.find? other = desktop.remembered.find? other := by
  rcases requestState_cases window command desktop with ⟨answer, hne, hr'⟩ | ⟨w, -, -, hr'⟩
  · rw [hr'] at hr
    exact absurd (Prod.mk.inj hr).1 hne
  · rw [hr'] at hr
    obtain rfl := (Prod.mk.inj hr).2
    cases command with
    | minimize =>
      refine ⟨.minimized, by simp, rfl, fun other hne => ?_⟩
      dsimp only
      split
      · rfl
      · rw [Table.find?_insert, if_neg hne.symm]
    | restore =>
      refine ⟨(desktop.remembered.find? window).getD .normal, iff_of_false ?_ (by simp), rfl,
        fun other hne => ?_⟩
      · have hshown := h.shown window
        rcases hremembered : desktop.remembered.find? window with _ | state
        · simp
        · simpa [hremembered] using hshown
      · dsimp only
        rw [Table.find?_erase, if_neg hne]

/-- What the answer to a request says. If it is a confirmation, the window is shown as asked, and
other windows and what is remembered of them are as before. If it is not, all windows and all that
is remembered are as before. -/
theorem requestState_told {desktop after : Desktop} (h : desktop.Sound) {window : WindowHandle}
    {command : WindowCommand} {answer : Except Failure Bool}
    (hr : desktop.requestState window command = (answer, after)) :
    (answer = .ok true →
      (∃ w, after.find? window = some w ∧ (w.state = .minimized ↔ command = .minimize)) ∧
        ∀ other, other ≠ window → after.find? other = desktop.find? other ∧
          after.remembered.find? other = desktop.remembered.find? other) ∧
    (answer ≠ .ok true →
      after.windows = desktop.windows ∧ after.remembered = desktop.remembered) := by
  constructor
  · rintro rfl
    obtain ⟨state, hstate, hwindows, hothers⟩ := requestState_shows h hr
    have hfind : ∀ other, after.find? other =
        if other = window then (desktop.find? other).map ({ · with state })
        else desktop.find? other := by
      intro other
      unfold Desktop.find?
      rw [hwindows, find?_withState]
    obtain ⟨w, hw⟩ : ∃ w, desktop.find? window = some w := by
      have hconfirms := (requestState_confirms_iff window command desktop).mp (by rw [hr])
      exact Option.isSome_iff_exists.mp hconfirms.1
    refine ⟨⟨{ w with state }, ?_, hstate⟩, fun other hne => ⟨?_, hothers other hne⟩⟩
    · rw [hfind, if_pos rfl, hw]
      rfl
    · rw [hfind, if_neg hne]
  · intro hne
    rcases requestState_cases window command desktop with ⟨other, -, hr'⟩ | ⟨w, -, -, hr'⟩
    · rw [hr'] at hr
      obtain rfl := (Prod.mk.inj hr).2
      exact ⟨rfl, rfl⟩
    · rw [hr'] at hr
      exact absurd (Prod.mk.inj hr).1.symm hne

/-! ## All books -/

/-- After any run that starts with an empty desktop the books are in order. -/
theorem run_orderly (inputs : List Input) : Orderly (opened inputs {}) (run inputs {}) := by
  induction inputs using List.reverseRecOn with
  | nil => exact empty_orderly
  | append_singleton inputs input ih =>
    rw [run_concat, opened_concat]
    exact ih.step input

/-- The books of a desktop, after any run that starts with an empty one. The handles of the windows
are distinct, smaller than the next handle, and descend from top to bottom; no handle is given out
twice; the handles of monitors are distinct; what is remembered is remembered of open windows, and
none of them as minimized.

So a request for a change of state always has an answer. It is a confirmation exactly if the window
is open, answers and does not refuse; then the window is minimized if that was asked for and not
minimized if it was to be restored, and every other window is as before. If the answer is anything
else, all windows and all that is remembered are as before. -/
theorem bookkeeping_sound (inputs : List Input) :
    let desktop := run inputs {}
    (desktop.handles.Nodup ∧ (∀ window ∈ desktop.handles, window.raw < desktop.nextHandle) ∧
      desktop.handles.Pairwise fun upper lower => lower.raw < upper.raw) ∧
    ((opened inputs {}).Nodup ∧ (desktop.monitors.map Prod.fst).Nodup) ∧
    (∀ window state, desktop.remembered.find? window = some state →
      (desktop.find? window).isSome ∧ state ≠ .minimized) ∧
    ∀ window command, ∃ answer after,
      desktop.answer (.setState window command) = (.ok answer, after) ∧
      (answer = .ok true ↔
        (desktop.find? window).isSome ∧ window ∉ desktop.failing ∧ window ∉ desktop.refusing) ∧
      (answer = .ok true →
        (∃ w, after.find? window = some w ∧ (w.state = .minimized ↔ command = .minimize)) ∧
          ∀ other, other ≠ window → after.find? other = desktop.find? other ∧
            after.remembered.find? other = desktop.remembered.find? other) ∧
      (answer ≠ .ok true →
        after.windows = desktop.windows ∧ after.remembered = desktop.remembered) := by
  intro desktop
  have hbooks : Orderly (opened inputs {}) desktop := run_orderly inputs
  have hsound : desktop.Sound := (run_reachable inputs).sound
  refine ⟨⟨hsound.distinct, hsound.fresh, hbooks.descending⟩,
    ⟨hbooks.nodup, hbooks.monitors_nodup⟩, fun window state hstate => ⟨?_, ?_⟩,
    fun window command => ?_⟩
  · exact Table.isSome_find?_iff.mpr (hbooks.recalled window (by rw [hstate]; rfl))
  · rintro rfl
    exact hsound.shown window hstate
  · rcases hr : desktop.requestState window command with ⟨answer, after⟩
    have hconfirms := requestState_confirms_iff window command desktop
    rw [hr] at hconfirms
    refine ⟨answer, after, ?_, hconfirms, requestState_told hsound hr⟩
    show (Except.ok (desktop.requestState window command).1,
      (desktop.requestState window command).2) = _
    rw [hr]

/-- A window is minimized, another one is closed while it is minimized, and a third is opened. The
handle of the closed one is not given out again, nothing is remembered of it, and a request to
restore it is not confirmed; a request to restore the first one is. -/
theorem bookkeeping_sound_demo :
    let inputs : List Input :=
      [.outside (.openWindow (DesktopWindow.titled 1 "Notes")),
        .outside (.openWindow (DesktopWindow.titled 2 "Mail")),
        .call (.setState ⟨0x1000⟩ .minimize), .call (.setState ⟨0x1010⟩ .minimize),
        .outside (.closeWindow ⟨0x1010⟩),
        .outside (.openWindow (DesktopWindow.titled 3 "Game"))]
    let desktop := run inputs {}
    (opened inputs {}).Nodup ∧ opened inputs {} = [⟨0x1000⟩, ⟨0x1010⟩, ⟨0x1020⟩] ∧
      desktop.handles = [⟨0x1020⟩, ⟨0x1000⟩] ∧ desktop.remembered = [(⟨0x1000⟩, .normal)] ∧
      (∃ w, (desktop.answer (.setState ⟨0x1000⟩ .restore)).2.find? ⟨0x1000⟩ = some w ∧
        w.state ≠ .minimized) ∧
      (desktop.answer (.setState ⟨0x1010⟩ .restore)).2.windows = desktop.windows := by
  intro inputs desktop
  obtain ⟨-, ⟨hnodup, -⟩, -, hrequests⟩ := bookkeeping_sound inputs
  refine ⟨hnodup, by decide, by decide, by decide, ?_, ?_⟩
  · obtain ⟨answer, after, hanswer, hconfirmed, hdone, -⟩ := hrequests ⟨0x1000⟩ .restore
    obtain ⟨⟨w, hw, hstate⟩, -⟩ := hdone (hconfirmed.mpr (by decide))
    rw [hanswer]
    exact ⟨w, hw, fun hminimized => absurd (hstate.mp hminimized) (by decide)⟩
  · obtain ⟨answer, after, hanswer, hconfirmed, -, hkept⟩ := hrequests ⟨0x1010⟩ .restore
    rw [hanswer]
    exact (hkept fun hok => absurd (hconfirmed.mp hok) (by decide)).1

end SoloScreen.Desktop
