import Mathlib.Data.List.DropRight
import Mathlib.Data.List.ReduceOption
import SoloScreen.Proofs.DesktopEvents
import SoloScreen.Proofs.DetectorRun

/-!
# The window that a detector goes by

A detector notes a window when it comes into sight and forgets it when none is in sight. While it
sees one, it goes by the window noted first, also if full screen passes to another window or monitor
in between.

* `Detector.observe_current?`: what is noted of what a tick finds.
* `Detector.beganAt`: the window and the monitor with which an unbroken series of sightings began.
  `Detector.run_current?`: the detector goes by these in every run.
* `Detector.current_is_first_sighting`: so it goes by the window that a tick has found if and only
  if the series began with it, and its events name the monitor where the series began.

The law is stated over the whole past, as a function of what the searches found, so that the state
of the detector does not occur in it. A search that is cut short finds out nothing and does not
break a series.
-/

namespace SoloScreen

open SoloScreen.Action

/-- The window of a record and its monitor. -/
def WindowRecord.place (record : WindowRecord) : WindowHandle × MonitorHandle :=
  (record.handle, record.monitor)

namespace Detector

/-! ## Sightings -/

/-- The windows seen since none was in sight. -/
def series (sightings : List (Option WindowRecord)) : List WindowRecord :=
  (sightings.rtakeWhile (·.isSome)).reduceOption

/-- The window and the monitor with which the series of sightings began. If one was in sight all the
time, then they are those of the `episode` that the detector goes on with, if there is one. -/
def beganAt (episode : Option (WindowHandle × MonitorHandle))
    (sightings : List (Option WindowRecord)) : Option (WindowHandle × MonitorHandle) :=
  (if none ∈ sightings then none else episode).or ((series sightings).head?.map WindowRecord.place)

/-- A tick that finds nothing ends the series. -/
@[simp] theorem series_concat_none (sightings : List (Option WindowRecord)) :
    series (sightings ++ [none]) = [] := by
  unfold series
  rw [List.rtakeWhile_concat_neg _ _ _ (by simp)]
  rfl

/-- A tick that finds a window goes on with it. -/
@[simp] theorem series_concat_some (sightings : List (Option WindowRecord))
    (record : WindowRecord) :
    series (sightings ++ [some record]) = series sightings ++ [record] := by
  unfold series
  rw [List.rtakeWhile_concat_pos _ _ _ rfl, List.reduceOption_append]
  rfl

/-- One more sighting goes on with the series, or begins it; without one there is none. -/
theorem beganAt_concat (episode : Option (WindowHandle × MonitorHandle))
    (sightings : List (Option WindowRecord)) (found : Option WindowRecord) :
    beganAt episode (sightings ++ [found]) =
      found.map fun record => (beganAt episode sightings).getD record.place := by
  unfold beganAt
  rcases found with _ | record
  · simp
  · have hmem : none ∈ sightings ++ [some record] ↔ none ∈ sightings := by simp
    rw [series_concat_some, if_congr hmem rfl rfl]
    rcases (if none ∈ sightings then none else episode) with _ | place
    · rcases series sightings with _ | ⟨first, rest⟩ <;> rfl
    · rfl

/-! ## What a detector goes by -/

variable {σ ε : Type} [WindowSystem σ]

omit [WindowSystem σ] in
/-- The look at the focus leaves the window and the monitor. -/
theorem glance_current? (foreground : Option WindowHandle) (d : Detector) :
    (d.glance foreground).current? = d.current? := by
  obtain ⟨last, hlast⟩ := glance_sameSight foreground d
  rw [hlast]
  rfl

/-- A window that was noted stays noted while one is in sight. -/
theorem observe_current? {d : Detector} (hd : d.Knows) (found : Option WindowRecord) :
    (observe found d).2.current? = found.map fun record => d.current?.getD record.place := by
  unfold Knows at hd
  unfold observe
  split
  · rename_i hsame
    rcases found with _ | record
    · rw [hd] at hsame
      exact Option.not_isSome_iff_eq_none.mp (by simp [← hsame])
    · rw [hd] at hsame
      obtain ⟨place, hplace⟩ := Option.isSome_iff_exists.mp hsame.symm
      rw [hplace]
      rfl
  · rename_i hchange
    rcases found with _ | record
    · rfl
    · have hnone : d.current? = none := by
        rw [hd] at hchange
        exact Option.not_isSome_iff_eq_none.mp fun h => hchange h.symm
      rw [hnone]
      rfl

/-- A tick that looks for a window and is not cut short at that. -/
theorem after_current?_of_ok {p : Detector × Workspace σ} (hp : p.1.Knows)
    (htargets : p.1.targets ≠ []) {found : Option WindowRecord} (hsearch : search p = .ok found) :
    (after p).current? = found.map fun record => p.1.current?.getD record.place := by
  rcases after_cases Workspace.queriesConform_true p with
    ⟨-, -, hempty | hlost⟩ | ⟨found', seen, hlooked, -⟩
  · exact absurd hempty htargets
  · exact absurd hsearch (hlost found)
  · obtain rfl : found = found' := Except.ok.inj (hsearch.symm.trans hlooked.search)
    have hafter : after p = (observe found p.1).2.glance seen := hlooked.noted
    rw [hafter, glance_current?, observe_current? hp]

/-- A search that is cut short changes nothing. -/
theorem after_of_error {p : Detector × Workspace σ} {e : Overflow} (hsearch : search p = .error e) :
    after p = p.1 := by
  rcases after_cases Workspace.queriesConform_true p with ⟨hsame, -, -⟩ | ⟨found, seen, hlooked, -⟩
  · exact hsame
  · cases hsearch.symm.trans hlooked.search

/-- What the searches of ticks found; one that is cut short finds out nothing. -/
def sightings (ticks : List (Detector × Workspace σ)) : List (Option WindowRecord) :=
  ticks.filterMap fun p => (search p).toOption

/-- One more tick that finds out something. -/
theorem sightings_concat_of_ok (ticks : List (Detector × Workspace σ))
    {p : Detector × Workspace σ} {found : Option WindowRecord} (hsearch : search p = .ok found) :
    sightings (ticks ++ [p]) = sightings ticks ++ [found] := by
  unfold sightings
  rw [List.filterMap_append, List.filterMap_cons_some (by rw [hsearch]; rfl)]
  rfl

/-- One more tick that does not. -/
theorem sightings_concat_of_error (ticks : List (Detector × Workspace σ))
    {p : Detector × Workspace σ} {e : Overflow} (hsearch : search p = .error e) :
    sightings (ticks ++ [p]) = sightings ticks := by
  unfold sightings
  rw [List.filterMap_append, List.filterMap_cons_none (by rw [hsearch]; rfl)]
  exact List.append_nil _

/-- A detector with targets goes by the window and the monitor with which the series began, also
when ticks are cut short. The induction is from the end of the run: one more tick changes the series
and the detector by the same law. -/
theorem run_current? (targets : List String) (interval : Nat)
    (episode : Option (WindowHandle × MonitorHandle)) (work : Workspace σ)
    (apply : ε → Workspace σ → Workspace σ) {inputs : List (Input ε)}
    (htargets : ∀ q ∈ ticks apply inputs (fresh targets interval episode, work), q.1.targets ≠ []) :
    (run apply inputs (fresh targets interval episode, work)).1.current? =
      beganAt episode (sightings (ticks apply inputs (fresh targets interval episode, work))) := by
  induction inputs using List.reverseRecOn with
  | nil =>
    show (fresh targets interval episode).current? = beganAt episode []
    rw [fresh_current?]
    rcases episode with _ | place <;> rfl
  | append_singleton inputs input ih =>
    rw [ticks_append] at htargets ⊢
    have hbefore := ih fun q hq => htargets q (List.mem_append_left _ hq)
    rw [run_concat]
    cases input with
    | retarget others =>
      rw [ticks, ticks, List.append_nil]
      exact hbefore
    | outside event =>
      rw [ticks, ticks, List.append_nil]
      exact hbefore
    | tick =>
      have hcoherent := run_coherent apply inputs (fresh_coherent targets interval episode)
        (p := (fresh targets interval episode, work))
      have hlast := htargets _ (List.mem_append_right _ List.mem_cons_self)
      rcases hsearch : search (run apply inputs (fresh targets interval episode, work))
        with e | found
      · rw [ticks, ticks, sightings_concat_of_error _ hsearch, ← hbefore]
        exact congrArg current? (after_of_error hsearch)
      · rw [ticks, ticks, sightings_concat_of_ok _ hsearch, beganAt_concat, ← hbefore]
        exact after_current?_of_ok hcoherent.knows hlast hsearch

/-- The events of a tick name the monitor that the detector goes by after it. -/
theorem monitor_of_mem_events {p : Detector × Workspace σ} {event : DetectorEvent}
    (h : event ∈ events p) : event.sighting.monitor = (after p).monitor := by
  rcases finished_cases Workspace.queriesConform_true (finishes_of_mem h) with
    ⟨-, hnone, -⟩ | ⟨found, seen, focus, hlooked, hevents, hnews⟩
  · rw [hnone] at h
    cases h
  have hmonitor : (after p).monitor = (observe found p.1).2.monitor := by
    have hafter : after p = (observe found p.1).2.glance seen := hlooked.noted
    obtain ⟨last, hlast⟩ := glance_sameSight seen (observe found p.1).2
    rw [hafter, hlast]
  rw [hmonitor]
  rw [hevents] at h
  rcases List.mem_append.mp h with hchange | hfocus
  · unfold observe at hchange ⊢
    split at hchange
    · cases hchange
    · rename_i hnew
      rw [if_neg hnew]
      rcases found with _ | record <;> rw [List.mem_singleton.mp hchange] <;> rfl
  · obtain ⟨window, -, -, monitor, process, title, hnoted, rfl⟩ :=
      hnews event (Option.mem_toList.mp hfocus)
    exact hnoted.symm

/-- After a tick with targets that is not cut short, a detector is full screen if and only if the
tick found a window. It goes by the window and the monitor with which the unbroken series of
sightings began, so by what was found if and only if the series began with that; and the events name
the monitor that the detector goes by. -/
theorem current_is_first_sighting (targets : List String) (interval : Nat)
    (episode : Option (WindowHandle × MonitorHandle)) (work : Workspace σ)
    (apply : ε → Workspace σ → Workspace σ) (inputs : List (Input ε))
    (htargets : ∀ q ∈ ticks apply (inputs ++ [.tick]) (fresh targets interval episode, work),
      q.1.targets ≠ [])
    (hfinishes : Finishes (run apply inputs (fresh targets interval episode, work))) :
    let start := (fresh targets interval episode, work)
    let p := run apply inputs start
    let began := beganAt episode (sightings (ticks apply (inputs ++ [.tick]) start))
    ∃ found, search p = .ok found ∧ (after p).fullScreen = found.isSome ∧
      (after p).current? = began ∧
        ((after p).current? = found.map WindowRecord.place ↔
          ∀ record ∈ found, began = some record.place) ∧
          ∀ event ∈ events p, event.sighting.monitor = (after p).monitor := by
  intro start p began
  have hcurrent : (after p).current? = began := by
    have hrun := run_current? targets interval episode work apply htargets
    rwa [run_concat] at hrun
  have hlast : p.1.targets ≠ [] := by
    refine htargets p ?_
    rw [ticks_append]
    exact List.mem_append_right _ List.mem_cons_self
  rcases finished_cases Workspace.queriesConform_true hfinishes with
    ⟨hempty, -⟩ | ⟨found, seen, focus, hlooked, -⟩
  · exact absurd hempty hlast
  refine ⟨found, hlooked.search, hlooked.fullScreen, hcurrent, ?_, fun event =>
    monitor_of_mem_events⟩
  rw [hcurrent]
  rcases found with _ | record
  · have hbegan : began = none := by
      have hticks : ticks apply (inputs ++ [.tick]) start = ticks apply inputs start ++ [p] := by
        rw [ticks_append, ticks, ticks]
      show beganAt episode (sightings (ticks apply (inputs ++ [.tick]) start)) = none
      rw [hticks, sightings_concat_of_ok _ hlooked.search, beganAt_concat]
      rfl
    exact iff_of_true hbegan (by simp)
  · simp

/-- A game is closed, and its next window opens on another monitor before the next tick. The
detector goes on with the old window and reports the focus on the new one on the old monitor. -/
theorem passed_window_stays_current :
    let area : Rect := ⟨0, 0, 1920, 1040⟩
    let other : Rect := ⟨1920, 0, 3840, 1040⟩
    let inputs : List (Input Desktop.Event) :=
      [.outside (.addMonitor ⟨⟨0, 0, 1920, 1080⟩, area⟩),
        .outside (.addMonitor ⟨⟨1920, 0, 3840, 1080⟩, other⟩), .outside (.addProcess 1 "game.exe"),
        .outside (.openWindow ((DesktopWindow.titled 1 "Game").maximizedOver area)), .tick,
        .outside (.closeWindow ⟨0x1000⟩),
        .outside (.openWindow ((DesktopWindow.titled 1 "Level 2").maximizedOver other)),
        .outside (.setForeground (some ⟨0x1010⟩))]
    let p := run (Workspace.outside Desktop.Event.apply) inputs
      (fresh ["game"] 500 none, Workspace.unseen 0 {})
    ((search p).map fun found => found.map WindowRecord.place) = .ok (some (⟨0x1010⟩, ⟨0x11⟩)) ∧
      (after p).current? = some (⟨0x1000⟩, ⟨0x10⟩) ∧
        events p = [.targetFocused (.entered ⟨0x1010⟩ ⟨0x10⟩ "game" "Level 2")] := by
  decide +kernel

/-- The same game, with a tick in between. -/
theorem current_is_first_sighting_demo :
    let area : Rect := ⟨0, 0, 1920, 1040⟩
    let other : Rect := ⟨1920, 0, 3840, 1040⟩
    let inputs : List (Input Desktop.Event) :=
      [.outside (.addMonitor ⟨⟨0, 0, 1920, 1080⟩, area⟩),
        .outside (.addMonitor ⟨⟨1920, 0, 3840, 1080⟩, other⟩), .outside (.addProcess 1 "game.exe"),
        .outside (.openWindow ((DesktopWindow.titled 1 "Game").maximizedOver area)), .tick,
        .outside (.closeWindow ⟨0x1000⟩), .tick,
        .outside (.openWindow ((DesktopWindow.titled 1 "Level 2").maximizedOver other))]
    let apply := Workspace.outside Desktop.Event.apply
    let start := (fresh ["game"] 500 none, Workspace.unseen 0 {})
    (∀ q ∈ ticks apply (inputs ++ [.tick]) start, q.1.targets ≠ []) ∧
      Finishes (run apply inputs start) ∧
        (after (run apply inputs start)).current? = some (⟨0x1010⟩, ⟨0x11⟩) := by
  intro area other inputs apply start
  have htargets : ∀ q ∈ ticks apply (inputs ++ [.tick]) start, q.1.targets ≠ [] := by
    decide +kernel
  have hfinishes : Finishes (run apply inputs start) := by decide +kernel
  obtain ⟨found, -, -, hcurrent, -⟩ := current_is_first_sighting ["game"] 500 none
    (Workspace.unseen 0 ({} : Desktop)) apply inputs htargets hfinishes
  have hbegan : beganAt none (sightings (ticks apply (inputs ++ [.tick]) start)) =
      some (⟨0x1010⟩, ⟨0x11⟩) := by decide +kernel
  exact ⟨htargets, hfinishes, hcurrent.trans hbegan⟩

end Detector

end SoloScreen
