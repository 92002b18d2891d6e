import SoloScreen.Proofs.Ticks
import SoloScreen.Service

/-!
# Runs of the service

What can happen to a monitoring service, one thing after the other: commands, ticks of the polling
loop, and changes of the window system from outside. `Service.run` plays a list of such inputs; what
a run keeps is an induction over this list.

* `Service.handlings` takes a tick apart: the events of the tick, each with the state in which the
  service begins to handle it. The minimizer is asked to minimize nowhere else.
* `Service.Restores` says which inputs make the minimizer bring windows back.
* `Service.ticked_of_exec` hands on what a tick can do to the session's detector.
-/

namespace SoloScreen

open SoloScreen.Action

/-- A workspace that has not looked at its window system yet. -/
def Workspace.unseen {σ : Type} (staleness : Nat) (system : σ) : Workspace σ where
  system := system
  cache := { staleness }

/-- What is published about an event for which a number of windows was moved. -/
def DetectorEvent.notice (n : Nat) : DetectorEvent → Notification
  | .fullScreenChanged sighting =>
    if sighting.fullScreen then .windowsMinimized n else .windowsRestored n
  | .targetFocused _ => .windowsMinimized n

namespace Service

variable {σ ε : Type}

/-! ## Inputs -/

/-- What is asked of a service. -/
inductive Command where
  /-- Start monitoring. -/
  | start
  /-- Stop monitoring. -/
  | stop
  /-- Replace the settings. -/
  | update (settings : Settings)
  /-- The polling loop is due. -/
  | tick
  /-- The user asks for the windows. -/
  | restoreManually
  /-- The settings window was closed. -/
  | settingsClosed
  /-- The program ends. -/
  | shutdown
  deriving DecidableEq, Repr

/-- The command ends the session, if there is one, and leaves the windows as they are. -/
def Command.abandons (settings : Settings) : Command → Bool
  | .stop => true
  | .shutdown => !settings.restoreOnAppExit
  | _ => false

/-- Something that happens: a command, or an event outside. -/
inductive Input (ε : Type) where
  /-- The service is asked for something. -/
  | command (command : Command)
  /-- The desktop changes by itself. -/
  | outside (event : ε)
  deriving DecidableEq, Repr

/-! ## Playing inputs -/

/-- An action of the minimizer, run from a state of the service: only the minimizer and the
workspace may change. -/
@[simp] theorem ensures_onMinimizer {α : Type} {act : Action (Minimizer × Workspace σ) α}
    {p : Service × Workspace σ} {good : α → Service × Workspace σ → Prop}
    {cut : Service × Workspace σ → Prop} :
    (onMinimizer act).Ensures p good cut ↔
      act.Ensures (p.1.minimizer, p.2)
        (fun a q => good a ({ p.1 with minimizer := q.1 }, q.2))
        fun q => cut ({ p.1 with minimizer := q.1 }, q.2) :=
  ensures_within

/-- An action of the detector, run from a state of the service: only the detector and the workspace
may change, and the detector is the one of the session afterwards. -/
@[simp] theorem ensures_onDetector {α : Type} {detector : Detector}
    {act : Action (Detector × Workspace σ) α} {p : Service × Workspace σ}
    {good : α → Service × Workspace σ → Prop} {cut : Service × Workspace σ → Prop} :
    (onDetector detector act).Ensures p good cut ↔
      act.Ensures (detector, p.2)
        (fun a q => good a ({ p.1 with detector := some q.1 }, q.2))
        fun q => cut ({ p.1 with detector := some q.1 }, q.2) :=
  ensures_within

/-- Reading the service changes nothing. -/
@[simp] theorem exec_read {α : Type} (f : Service → α) (p : Service × Workspace σ) :
    (read f).exec p = (.ok (f p.1), p) := rfl

/-- Reading a part of the service that is known. With it the operations that first look whether
there is a session are opened. -/
theorem exec_read_of_eq {α : Type} {f : Service → α} {p : Service × Workspace σ} {a : α}
    (h : f p.1 = a) : (read f).exec p = (.ok a, p) := by
  rw [exec_read, h]

/-- Changing the service leaves the workspace alone. -/
@[simp] theorem ensures_update {f : Service → Service} {p : Service × Workspace σ}
    {good : Unit → Service × Workspace σ → Prop} {cut : Service × Workspace σ → Prop} :
    (update f).Ensures p good cut ↔ good () (f p.1, p.2) := Iff.rfl

/-- What is ensured of reading the service. -/
@[simp] theorem ensures_read {α : Type} {f : Service → α} {p : Service × Workspace σ}
    {good : α → Service × Workspace σ → Prop} {cut : Service × Workspace σ → Prop} :
    (read f).Ensures p good cut ↔ good (f p.1) p := Iff.rfl

variable [WindowSystem σ]

/-- What the service does on a command; answers are dropped. -/
def Command.act : Command → Action (Service × Workspace σ) Unit
  | .start => Service.start
  | .stop => Service.stop
  | .update settings => do
    let _ ← (updateSettings settings).run
  | .tick => poll
  | .restoreManually => do
    let _ ← Service.restoreManually
  | .settingsClosed => do
    let _ ← Service.settingsClosed
  | .shutdown => do
    let _ ← Service.shutdown

/-- The state after an input; `apply` says what events outside do to the window system. -/
def step (apply : ε → σ → σ) (p : Service × Workspace σ) : Input ε → Service × Workspace σ
  | .command command => (command.act.exec p).2
  | .outside event => (p.1, { p.2 with system := apply event p.2.system })

/-- The state after a list of inputs. -/
def run (apply : ε → σ → σ) (inputs : List (Input ε)) (p : Service × Workspace σ) :
    Service × Workspace σ := inputs.foldl (step apply) p

/-- Without inputs nothing happens. -/
@[simp] theorem run_nil (apply : ε → σ → σ) (p : Service × Workspace σ) : run apply [] p = p := rfl

/-- A run can be cut into two: what comes after starts from where the first part ended. -/
@[simp] theorem run_append (apply : ε → σ → σ) (before after : List (Input ε))
    (p : Service × Workspace σ) :
    run apply (before ++ after) p = run apply after (run apply before p) :=
  List.foldl_append

/-- The first input, and then the rest. -/
@[simp] theorem run_cons (apply : ε → σ → σ) (input : Input ε) (rest : List (Input ε))
    (p : Service × Workspace σ) :
    run apply (input :: rest) p = run apply rest (step apply p input) :=
  rfl

/-! ## Handling one event -/

/-- What the minimizer is asked to do about an event. -/
def task (settings : Settings) : DetectorEvent → Fallible (Minimizer × Workspace σ) Nat
  | .fullScreenChanged sighting =>
    if sighting.fullScreen then
      match sighting.monitor with
      | none => throw (.monitoring "событие полноэкранного режима без монитора")
      | some monitor => Minimizer.minimizeOnMonitor monitor sighting.window
    else if settings.restoreOnFullScreenExit then ExceptT.lift Minimizer.restore
    else pure 0
  | .targetFocused sighting =>
    match sighting.window, sighting.monitor with
    | some window, some monitor => Minimizer.minimizeBeside window monitor
    | _, _ => throw (.monitoring "событие фокуса без окна или монитора")

/-- The service after the minimizer has answered. -/
def conclude (event : DetectorEvent) (answer : Except Failure Nat) (s : Service) : Service :=
  { s with
    checked := true
    channel := match answer with
      | .ok n => if 0 < n then s.channel.send (event.notice n) else s.channel
      | .error failure =>
        s.channel.send (.errorOccurred ("[" ++ failure.code ++ "] " ++ failure.message)) }

omit [WindowSystem σ] in
/-- An operation of the minimizer whose count is published. Nothing is published if no window was
moved, or if the operation failed. -/
theorem ensures_announce {act : Fallible (Minimizer × Workspace σ) Nat}
    {p : Service × Workspace σ} {good : Except Failure Unit → Service × Workspace σ → Prop}
    {cut : Service × Workspace σ → Prop} :
    (announce act).run.Ensures p good cut ↔
      act.run.Ensures (p.1.minimizer, p.2)
        (fun answer q => match answer with
          | .ok n => good (.ok ()) ({ p.1 with
              minimizer := q.1
              channel := if 0 < n then p.1.channel.send (.windowsMinimized n) else p.1.channel },
              q.2)
          | .error failure => good (.error failure) ({ p.1 with minimizer := q.1 }, q.2))
        fun q => cut ({ p.1 with minimizer := q.1 }, q.2) := by
  unfold announce
  rw [ensures_run_bind]
  show (onMinimizer act.run).Ensures p _ _ ↔ _
  rw [ensures_onMinimizer]
  refine ensures_congr (fun answer q => ?_) fun _ => Iff.rfl
  rcases answer with failure | n
  · rfl
  · by_cases hn : 0 < n
    · simp [hn, publish]
    · simp [hn]

/-- Bringing the windows back, with the count published unless it is zero. -/
theorem ensures_restoreWindows {p : Service × Workspace σ}
    {good : Nat → Service × Workspace σ → Prop} {cut : Service × Workspace σ → Prop} :
    restoreWindows.Ensures p good cut ↔
      Minimizer.restore.Ensures (p.1.minimizer, p.2)
        (fun n q => good n ({ p.1 with
          minimizer := q.1
          channel := if 0 < n then p.1.channel.send (.windowsRestored n) else p.1.channel }, q.2))
        fun q => cut ({ p.1 with minimizer := q.1 }, q.2) := by
  unfold restoreWindows
  rw [ensures_bind, ensures_onMinimizer]
  refine ensures_congr (fun n q => ?_) fun _ => Iff.rfl
  by_cases hn : 0 < n
  · simp [hn, publish]
  · simp [hn]

/-- Handling an event is the minimizer's task, with the answer published. -/
theorem ensures_handle {event : DetectorEvent} {p : Service × Workspace σ}
    {good : Unit → Service × Workspace σ → Prop} {cut : Service × Workspace σ → Prop} :
    (handle event).Ensures p good cut ↔
      (task p.1.settings event).run.Ensures (p.1.minimizer, p.2)
        (fun answer q => good () ({ conclude event answer p.1 with minimizer := q.1 }, q.2))
        fun q => cut ({ p.1 with checked := true, minimizer := q.1 }, q.2) := by
  unfold handle
  rw [ensures_bind, ensures_update, ensures_bind]
  -- The events in the order of the definition: the end of full screen, its beginning, and a focus.
  -- Where the data for the handling is missing, both sides fail in the same way.
  rcases event with ⟨fullScreen, window, monitor, process, title⟩ |
    ⟨fullScreen, window, monitor, process, title⟩
  · rcases fullScreen
    · show (respondToChange ⟨false, window, monitor, process, title⟩).run.Ensures _ _ _ ↔
        (if p.1.settings.restoreOnFullScreenExit then ExceptT.lift Minimizer.restore
          else pure 0 : Fallible _ _).run.Ensures _ _ _
      simp only [respondToChange, Bool.false_eq_true, if_false, ensures_run_lift_bind, ensures_read]
      split
      · simp only [ensures_run_lift_bind, ensures_run_lift, ensures_restoreWindows,
          ensures_run_pure]
        rfl
      · rfl
    · rcases monitor with _ | monitor
      · rfl
      · exact ensures_announce.trans (ensures_congr (fun answer _ => by cases answer <;> rfl)
          fun _ => Iff.rfl)
  · rcases window with _ | window
    · rfl
    rcases monitor with _ | monitor
    · rfl
    · exact ensures_announce.trans (ensures_congr (fun answer _ => by cases answer <;> rfl)
        fun _ => Iff.rfl)

/-! ## Handling the events of a tick -/

/-- The events that the service gets to handle, each with the state in which it begins. -/
def handlings : List DetectorEvent → Service × Workspace σ →
    List (DetectorEvent × (Service × Workspace σ))
  | [], _ => []
  | event :: rest, p =>
    (event, p) :: match (handle event).exec p with
      | (.ok (), q) => handlings rest q
      | (.error _, _) => []

/-- The events that the service handles in a tick from a state. -/
def tickHandlings (p : Service × Workspace σ) : List (DetectorEvent × (Service × Workspace σ)) :=
  match p.1.detector with
  | none => []
  | some detector =>
    match (onDetector detector Detector.tick).exec p with
    | (.ok events, q) => handlings events q
    | (.error _, _) => []

/-- The events that the service handles on an input. -/
def Input.handlings (input : Input ε) (p : Service × Workspace σ) :
    List (DetectorEvent × (Service × Workspace σ)) :=
  if let .command .tick := input then tickHandlings p else []

/-- The events that the service handles in a run. -/
def runHandlings (apply : ε → σ → σ) : List (Input ε) → Service × Workspace σ →
    List (DetectorEvent × (Service × Workspace σ))
  | [], _ => []
  | input :: rest, p => input.handlings p ++ runHandlings apply rest (step apply p input)

/-- What is handled in two runs, one after the other. -/
theorem runHandlings_append (apply : ε → σ → σ) (before after : List (Input ε))
    (p : Service × Workspace σ) :
    runHandlings apply (before ++ after) p =
      runHandlings apply before p ++ runHandlings apply after (run apply before p) := by
  induction before generalizing p with
  | nil => rfl
  | cons input rest ih => simp [runHandlings, ih]

/-- An event that is handled is one of the events, and those before it were handled first. -/
theorem exists_of_mem_handlings {events : List DetectorEvent} {p : Service × Workspace σ}
    {x : DetectorEvent × (Service × Workspace σ)} (h : x ∈ handlings events p) :
    ∃ before after, events = before ++ x.1 :: after ∧
      (Action.each handle before).exec p = (.ok (), x.2) := by
  -- induction on the events: the state varies, because each handling leaves another one for the
  -- next
  induction events generalizing p with
  | nil => simp [handlings] at h
  | cons event rest ih =>
    rcases List.mem_cons.mp h with rfl | hrest
    · exact ⟨[], rest, rfl, rfl⟩
    · rcases he : (handle event).exec p with ⟨e | ⟨⟩, q⟩
      · simp [he] at hrest
      · obtain ⟨before, after, hevents, hexec⟩ := ih (by simpa [he] using hrest)
        refine ⟨event :: before, after, by rw [hevents]; rfl, ?_⟩
        unfold Action.each
        rw [exec_bind_of_ok he, hexec]

/-- The first event of a tick is handled in the state the tick leaves. -/
theorem head_mem_handlings (event : DetectorEvent) (rest : List DetectorEvent)
    (p : Service × Workspace σ) : (event, p) ∈ handlings (event :: rest) p :=
  List.mem_cons_self

/-- A tick keeps what its round keeps, if it does not depend on when the loop ticks next. -/
theorem poll_ensures {I : Service × Workspace σ → Prop} {p : Service × Workspace σ}
    (hround : round.Ensures p (fun _ => I) I)
    (hloop : ∀ (q : Service × Workspace σ) d loop clock, I q → q.1.detector = some d →
      I ({ q.1 with detector := some { d with loop } }, { q.2 with clock })) :
    poll.Ensures p (fun _ => I) fun _ => False := by
  unfold poll
  rw [ensures_bind, ensures_outcome, ensures_bind, ensures_read]
  have hI := hround.exec_snd
  generalize (round.exec p).2 = q at hI
  rcases hd : q.1.detector with _ | d
  · exact hI
  · dsimp only
    rw [ensures_onDetector]
    unfold Detector.proceed
    rcases (round.exec p).1 with e | ⟨⟩
    · exact hloop q d none q.2.clock hI hd
    · exact hloop q d (some (q.2.clock.arm d.interval).1) (q.2.clock.arm d.interval).2 hI hd

/-- The input makes the minimizer bring the windows of its list back: on request, where the settings
permit it, and when a tick reports that full screen ended. -/
def Restores (p : Service × Workspace σ) : Input ε → Prop
  | .command .restoreManually => True
  | .command .settingsClosed => p.1.settings.restoreOnSettingsClosed
  | .command .shutdown => p.1.settings.restoreOnAppExit
  | .command .tick =>
    ∃ x ∈ tickHandlings p, x.1.isExit ∧ x.2.1.settings.restoreOnFullScreenExit
  | _ => False

end Service

/-! ## What a tick does to the service -/

namespace Service

variable {σ : Type} [WindowSystem σ]

/-- A finished tick of the session's detector hands its events to the service and changes nothing
else of it. -/
theorem ticked_of_exec {p q : Service × Workspace σ} {d : Detector} {events : List DetectorEvent}
    (h : (onDetector d Detector.tick).exec p = (.ok events, q)) :
    ∃ d', Detector.Ticked d events d' ∧ q.1 = { p.1 with detector := some d' } := by
  have htick := Detector.tick_ensures d p.2
  unfold onDetector at h
  rw [exec_within] at h
  obtain ⟨hevents, rfl⟩ := Prod.mk.inj h
  rcases he : Detector.tick.exec (d, p.2) with ⟨_ | events', d', work⟩
  · simp [he] at hevents
  · rw [ensures_of_ok he] at htick
    simp only [he, Except.ok.injEq] at hevents
    exact ⟨d', hevents ▸ htick, rfl⟩

/-- The events of a finished tick are handled from the state that the tick leaves. -/
theorem tickHandlings_of_exec {p q : Service × Workspace σ} {d : Detector}
    {events : List DetectorEvent} (hd : p.1.detector = some d)
    (h : (onDetector d Detector.tick).exec p = (.ok events, q)) :
    tickHandlings p = handlings events q := by
  unfold tickHandlings
  rw [hd]
  simp only [h]

/-- An event handled in a tick comes from a finished tick of the session's detector. -/
theorem exists_of_mem_tickHandlings {p : Service × Workspace σ}
    {x : DetectorEvent × (Service × Workspace σ)} (h : x ∈ tickHandlings p) :
    ∃ d events q, p.1.detector = some d ∧
      (onDetector d Detector.tick).exec p = (.ok events, q) ∧ x ∈ handlings events q := by
  unfold tickHandlings at h
  rcases hd : p.1.detector with _ | d
  · simp [hd] at h
  · rcases he : (onDetector d Detector.tick).exec p with ⟨_ | events, q⟩
    · simp [hd, he] at h
    · exact ⟨d, events, q, rfl, he, by simpa [hd, he] using h⟩

/-- An episode begins with the first event of a tick, from a detector that was not full screen. -/
theorem enter_of_mem_tickHandlings {p : Service × Workspace σ}
    {x : DetectorEvent × (Service × Workspace σ)} (h : x ∈ tickHandlings p) (henter : x.1.isEnter) :
    ∃ d d', p.1.detector = some d ∧ d.fullScreen = false ∧
      x.2.1 = { p.1 with detector := some d' } := by
  obtain ⟨d, events, q, hd, hexec, hx⟩ := exists_of_mem_tickHandlings h
  obtain ⟨d', hticked, hq⟩ := ticked_of_exec hexec
  obtain ⟨before, after, hevents, hbefore⟩ := exists_of_mem_handlings hx
  obtain ⟨rfl, hfull⟩ := hticked.enter_first hevents henter
  obtain rfl : q = x.2 := (Prod.mk.inj hbefore).2
  exact ⟨d, d', hd, hfull, hq⟩

end Service

end SoloScreen
