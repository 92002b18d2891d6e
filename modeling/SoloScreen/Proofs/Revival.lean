import Mathlib.Data.List.Induction
import SoloScreen.Proofs.DesktopEvents
import SoloScreen.Proofs.Session

/-!
# Whether a start brings the polling back

An overflow in a tick ends the polling loop, but not the session. A start that finds a session
leaves it alone, whether its loop runs or not, so it does not bring the polling back.

* `Service.isStalled`: there is a session, but its loop has ended.
* `Service.Timely`: the runs in which a tick happens only while a loop runs.
* `Service.step_isStalled`: one input stalls a session only by a tick that is cut short, and the
  session stays stalled until it is renewed (`Service.Command.Renews`).
* `Service.start_polls_iff`: a start brings the polling back unless a tick of the session was cut
  short; a stop before it always helps.

That ticks are timely is no restriction on the program, whose ticks come from the loop. It excludes
runs in which a tick is ordered by hand: a tick of a stalled session that goes well would have its
loop go on.
-/

namespace SoloScreen

open SoloScreen.Action

namespace Service

variable {σ ε : Type}

/-! ## Stalled sessions -/

/-- There is a session, and its polling loop runs. -/
def isPolling (s : Service) : Bool := s.detector.any (·.isRunning)

/-- There is a session, but its polling loop has ended. -/
def isStalled (s : Service) : Bool := s.detector.any (!·.isRunning)

/-- With a session it is its loop that decides. -/
theorem isStalled_of_detector {s : Service} {d : Detector} (h : s.detector = some d) :
    s.isStalled = !d.isRunning := by
  simp [isStalled, h]

/-- Without a session nothing is stalled. -/
theorem isStalled_of_none {s : Service} (h : s.detector = none) : s.isStalled = false := by
  simp [isStalled, h]

/-- A session that stays the same stays stalled, or not. -/
theorem SameSession.isStalled {s s' : Service} (h : SameSession s s') :
    s'.isStalled = s.isStalled := by
  unfold Service.isStalled
  rw [h.detector]

/-- A session is not stalled while its loop runs. -/
theorem isStalled_of_isPolling {s : Service} (h : s.isPolling = true) : s.isStalled = false := by
  rcases hd : s.detector with _ | d
  · exact isStalled_of_none hd
  · rw [isStalled_of_detector hd]
    simpa [isPolling, hd] using h

/-- After the command there is no session, or a new one. -/
def Command.Renews (settings : Settings) : Command → Prop
  | .stop => True
  | .shutdown => True
  | .update new => new.normalize.check = .ok () ∧ (settings.diff new.normalize).restart = true
  | _ => False

/-- A start leaves a stalled session as it is and brings the polling about in any other case. -/
theorem start_isPolling (p : Service × Workspace σ) :
    (Service.start.exec p).1 = .ok () ∧
      (Service.start.exec p).2.1.isPolling = !p.1.isStalled ∧
      (p.1.isStalled = true → Service.start.exec p = (.ok (), p)) := by
  unfold Service.start
  rcases hd : p.1.detector with _ | d
  · rw [startWith_exec_of_none hd none, isStalled_of_none hd]
    refine ⟨rfl, rfl, ?_⟩
    simp
  · rw [startWith_exec_of_some hd none, isStalled_of_detector hd]
    refine ⟨rfl, ?_, fun _ => rfl⟩
    simp [isPolling, hd]

/-- A start neither stalls a session nor helps a stalled one. -/
theorem start_isStalled (p : Service × Workspace σ) :
    (Service.start.exec p).2.1.isStalled = p.1.isStalled := by
  obtain ⟨-, hpolling, hsame⟩ := start_isPolling p
  rcases hstalled : p.1.isStalled
  · rw [hstalled] at hpolling
    exact isStalled_of_isPolling hpolling
  · rw [hsame hstalled, hstalled]

/-- After a stop there is no session that could be. -/
theorem stop_isStalled (p : Service × Workspace σ) :
    (Service.stop.exec p).2.1.isStalled = false :=
  ((stop_ensures p).mono (fun _ _ hq => isStalled_of_none hq.detector) fun _ =>
    False.elim).exec_snd

/-- After a stop every start brings the polling about. -/
theorem stop_start_isPolling (p : Service × Workspace σ) :
    (do Service.stop; Service.start : Action (Service × Workspace σ) Unit).Ensures p
      (fun _ q => q.1.isPolling = true) fun _ => False := by
  rw [ensures_bind]
  refine (stop_ensures p).mono (fun _ q hq => ?_) fun _ => id
  rw [show Service.start = startWith (σ := σ) none from rfl,
    ensures_of_ok (startWith_exec_of_none hq.detector none)]
  rfl

/-- New settings stall no session, and they renew a stalled one if they need a restart. -/
theorem Updated.isStalled {settings : Settings} {s s' : Service} {r : Except Failure Unit}
    (h : Updated settings s s' r) :
    s'.isStalled = true ↔ s.isStalled = true ∧ ¬ (Command.update settings).Renews s.settings := by
  cases h with
  | rejected failure text hcheck hs =>
    have hnot : ¬ (Command.update settings).Renews s.settings := by
      rintro ⟨hok, -⟩
      simp [hcheck] at hok
    rw [hs]
    exact (and_iff_left hnot).symm
  | accepted hcheck hnone hsome =>
    rcases hd : s.detector with _ | d
    · rw [hnone hd, isStalled_of_none (s := { s with settings := settings.normalize }) hd,
        isStalled_of_none hd]
      simp
    have hrenews : (Command.update settings).Renews s.settings ↔
        (s.settings.diff settings.normalize).restart = true := and_iff_right hcheck
    rw [hrenews, isStalled_of_detector hd]
    cases hsome d hd with
    | inPlace timer hrestart hs =>
      have hrunning : (d.adjusted (s.settings.diff settings.normalize) settings.normalize
          timer).isRunning = d.isRunning := by
        unfold Detector.isRunning Detector.adjusted
        dsimp only
        split
        · exact Option.isSome_map
        · rfl
      rw [isStalled_of_detector (congrArg Service.detector hs), hrunning, hrestart]
      simp
    | restarted timer hrestart hs =>
      rw [isStalled_of_detector (congrArg Service.detector hs), hrestart]
      simp [Detector.isRunning]

variable [WindowSystem σ]

/-- The session is stalled after a tick that was cut short, and only then. -/
theorem poll_isStalled {p : Service × Workspace σ} (h : p.1.isPolling = true) :
    (poll.exec p).2.1.isStalled = true ↔ (round.exec p).1 ≠ .ok () := by
  rcases hd : p.1.detector with _ | d
  · simp [isPolling, hd] at h
  obtain ⟨d', -, htick⟩ := exists_noticed d p
  have hsame := round_same hd
  rw [htick] at hsame
  have hpoll : poll.Ensures p
      (fun _ q => q.1.isStalled = true ↔ (round.exec p).1 ≠ .ok ()) fun _ => False := by
    unfold poll
    rw [ensures_bind, ensures_outcome, ensures_bind, ensures_read, hsame.detector]
    dsimp only
    rw [ensures_onDetector]
    unfold Detector.proceed
    rcases (round.exec p).1 with e | ⟨⟩
    · exact iff_of_true rfl (by simp)
    · exact iff_of_false (Bool.false_ne_true) (by simp)
  exact hpoll.of_uncut.exec_snd

/-! ## Runs -/

/-- The input is a tick. -/
def Input.isTick : Input ε → Bool
  | .command .tick => true
  | _ => false

/-- Ticks happen only while the polling loop of a session runs. By recursion on the run, so that the
condition can be evaluated along it. -/
def Timely (apply : ε → σ → σ) : List (Input ε) → Service × Workspace σ → Prop
  | [], _ => True
  | input :: rest, p =>
    (input.isTick = true → p.1.isPolling = true) ∧ Timely apply rest (step apply p input)

instance Timely.decidable (apply : ε → σ → σ) :
    ∀ (inputs : List (Input ε)) (p : Service × Workspace σ), Decidable (Timely apply inputs p)
  | [], _ => .isTrue trivial
  | input :: rest, p =>
    have := Timely.decidable apply rest (step apply p input)
    inferInstanceAs (Decidable ((input.isTick = true → p.1.isPolling = true) ∧
      Timely apply rest (step apply p input)))

/-- A run is timely if its beginning is, and its rest from there on. -/
theorem timely_append {apply : ε → σ → σ} {before after : List (Input ε)}
    {p : Service × Workspace σ} : Timely apply (before ++ after) p ↔
      Timely apply before p ∧ Timely apply after (run apply before p) := by
  induction before generalizing p with
  | nil => exact (and_iff_right trivial).symm
  | cons input rest ih =>
    rw [List.cons_append, Timely, ih, Timely, run_cons]
    exact and_assoc.symm

/-- The input does not renew a session. -/
def Input.Persists (settings : Settings) (input : Input ε) : Prop :=
  ∀ command, input = .command command → ¬ command.Renews settings

/-- Bringing windows back is no matter of the session. -/
theorem restoreWindows_isStalled (p : Service × Workspace σ) :
    restoreWindows.Ensures p (fun _ q => q.1.isStalled = p.1.isStalled)
      fun q => q.1.isStalled = p.1.isStalled :=
  (restoreWindows_same p).mono (fun _ _ h => h.isStalled) fun _ h => h.isStalled

/-- New settings leave a session stalled unless they renew it. -/
theorem update_isStalled (settings : Settings) (p : Service × Workspace σ) :
    ((Command.update settings).act.exec p).2.1.isStalled = true ↔
      p.1.isStalled = true ∧ ¬ (Command.update settings).Renews p.1.settings := by
  have hupdate : (Command.update settings).act.Ensures p
      (fun _ q => q.1.isStalled = true ↔
        p.1.isStalled = true ∧ ¬ (Command.update settings).Renews p.1.settings)
      fun _ => False :=
    ensures_bind.mpr ((updateSettings_ensures settings p).mono
      (fun _ _ hq => hq.2.isStalled) fun _ => False.elim)
  exact hupdate.of_uncut.exec_snd

/-- Closing the settings window brings windows back at most. -/
theorem settingsClosed_isStalled (p : Service × Workspace σ) :
    (Command.settingsClosed.act.exec p).2.1.isStalled = p.1.isStalled := by
  have hclosed : Command.settingsClosed.act.Ensures p (fun _ q => q.1.isStalled = p.1.isStalled)
      fun q => q.1.isStalled = p.1.isStalled := by
    unfold Command.act Service.settingsClosed
    rw [ensures_bind, ensures_bind, ensures_read]
    split
    · exact restoreWindows_isStalled p
    · exact rfl
  exact hclosed.exec_snd

/-- What follows the stop in a shutdown leaves the session as it is. -/
theorem shutdown_isStalled (p : Service × Workspace σ) :
    (Command.shutdown.act.exec p).2.1.isStalled = false := by
  have hshutdown : Command.shutdown.act.Ensures p (fun _ q => q.1.isStalled = false)
      fun q => q.1.isStalled = false := by
    unfold Command.act Service.shutdown
    rw [ensures_bind, ensures_bind]
    refine (stop_ensures p).mono (fun _ q hq => ?_) fun _ => False.elim
    have hnone := isStalled_of_none hq.detector
    rw [ensures_bind, ensures_read]
    split
    · exact (restoreWindows_isStalled q).mono (fun _ _ h => h.trans hnone) fun _ h => h.trans hnone
    · exact hnone
  exact hshutdown.exec_snd

/-- A session is stalled by a tick that is cut short, and stays stalled until it is renewed. This is
the step lemma, with one case for each command; it says both what stalls and what does not. -/
theorem step_isStalled (apply : ε → σ → σ) {p : Service × Workspace σ} {input : Input ε}
    (htimely : input.isTick = true → p.1.isPolling = true) :
    (step apply p input).1.isStalled = true ↔
      (p.1.isStalled = true ∧ input.Persists p.1.settings) ∨
        (input = .command .tick ∧ (round.exec p).1 ≠ .ok ()) := by
  have hpersists : ∀ command : Command,
      (Input.command (ε := ε) command).Persists p.1.settings ↔ ¬ command.Renews p.1.settings :=
    fun command => ⟨fun h => h command rfl, fun h other heq => Input.command.inj heq ▸ h⟩
  cases input with
  | outside event =>
    have houtside : (Input.outside event).Persists p.1.settings := fun _ h => by cases h
    simp [step, houtside]
  | command command =>
    rw [hpersists]
    show (command.act.exec p).2.1.isStalled = true ↔ _
    cases command with
    | start => simp [Command.act, Command.Renews, start_isStalled]
    | stop => simp [Command.act, Command.Renews, stop_isStalled]
    | update settings => simpa using update_isStalled settings p
    | tick =>
      have hpolling : p.1.isPolling = true := htimely rfl
      simpa [isStalled_of_isPolling hpolling, Command.act] using poll_isStalled hpolling
    | restoreManually =>
      have hmanually : Command.restoreManually.act.Ensures p
          (fun _ q => q.1.isStalled = p.1.isStalled) fun q => q.1.isStalled = p.1.isStalled :=
        ensures_bind.mpr (restoreWindows_isStalled p)
      simp [Command.Renews, hmanually.exec_snd]
    | settingsClosed => simp [Command.Renews, settingsClosed_isStalled]
    | shutdown => simp [Command.Renews, shutdown_isStalled]

/-- A tick of the current session was cut short: since then the session was not renewed. -/
def Broken (apply : ε → σ → σ) (inputs : List (Input ε)) (p : Service × Workspace σ) : Prop :=
  ∃ before after, inputs = before ++ .command .tick :: after ∧
    (round.exec (run apply before p)).1 ≠ .ok () ∧
    ∀ middle input rest, after = middle ++ input :: rest →
      input.Persists (run apply (before ++ .command .tick :: middle) p).1.settings

/-- What it means for one more input that a tick of the session was cut short: it was so before and
the input does not renew the session, or the input is such a tick. -/
theorem broken_concat {apply : ε → σ → σ} {inputs : List (Input ε)} {input : Input ε}
    {p : Service × Workspace σ} : Broken apply (inputs ++ [input]) p ↔
      (Broken apply inputs p ∧ input.Persists (run apply inputs p).1.settings) ∨
        (input = .command .tick ∧ (round.exec (run apply inputs p)).1 ≠ .ok ()) := by
  constructor
  · rintro ⟨before, after, hinputs, hcut, hpersists⟩
    rcases List.eq_nil_or_concat after with rfl | ⟨after, last, rfl⟩
    · obtain ⟨rfl, hlast⟩ := List.append_inj' hinputs rfl
      exact .inr ⟨List.singleton_inj.mp hlast, hcut⟩
    · have hsplit : inputs ++ [input] = (before ++ .command .tick :: after) ++ [last] := by
        simpa using hinputs
      obtain ⟨rfl, hlast⟩ := List.append_inj' hsplit rfl
      obtain rfl := List.singleton_inj.mp hlast
      refine .inl ⟨⟨before, after, rfl, hcut, fun middle other rest h => ?_⟩,
        hpersists after input [] (by simp)⟩
      exact hpersists middle other (rest ++ [input]) (by simp [h])
  · rintro (⟨⟨before, after, rfl, hcut, hpersists⟩, hlast⟩ | ⟨rfl, hcut⟩)
    · refine ⟨before, after ++ [input], by simp, hcut, fun middle other rest h => ?_⟩
      rcases List.eq_nil_or_concat rest with rfl | ⟨rest, last, rfl⟩
      · obtain ⟨rfl, hother⟩ := List.append_inj' h rfl
        exact List.singleton_inj.mp hother ▸ hlast
      · have hsplit : after ++ [input] = (middle ++ other :: rest) ++ [last] := by simpa using h
        exact hpersists middle other rest (List.append_inj' hsplit rfl).1
    · exact ⟨inputs, [], rfl, hcut, fun middle other rest h => by simp at h⟩

/-- A session is stalled if and only if one of its ticks was cut short. -/
theorem run_isStalled (apply : ε → σ → σ) {inputs : List (Input ε)} {p : Service × Workspace σ}
    (hstart : p.1.isStalled = false) (htimely : Timely apply inputs p) :
    (run apply inputs p).1.isStalled = true ↔ Broken apply inputs p := by
  induction inputs using List.reverseRecOn with
  | nil =>
    refine iff_of_false (by simp [hstart]) ?_
    rintro ⟨before, after, h, -⟩
    simp at h
  | append_singleton inputs input ih =>
    obtain ⟨hbefore, hlast⟩ := timely_append.mp htimely
    -- both sides obey the same law for one more input
    rw [broken_concat, ← ih hbefore, run_append, run_cons, run_nil]
    exact step_isStalled apply hlast.1

/-! ## The status of a stalled session -/

/-- The flag is set if and only if there is a session, whatever becomes of its loop. -/
theorem Moves.monitoring {completes : Prop} {command : Command} {s s' : Service}
    (h : Moves completes command s s') (hs : s.monitoring = s.detector.isSome) :
    s'.monitoring = s'.detector.isSome := by
  cases h with
  | same hsame => rw [hsame.monitoring, hsame.detector, hs]
  | started timer _ _ hsame => rw [hsame.monitoring, hsame.detector]; rfl
  | stopped d _ _ hsame => rw [hsame.monitoring, hsame.detector]; rfl
  | updated settings _ hupdated =>
    rcases hupdated with _ | ⟨-, hnone, hsome⟩
    rcases hd : s.detector with _ | d
    · rw [hnone hd]
      exact hs
    cases hsome d hd with
    | inPlace timer hrestart hs' =>
      rw [hs']
      show s.monitoring = true
      rw [hs, hd]
      rfl
    | restarted timer hrestart hs' =>
      rw [hs']
      rfl
  | ticked d d' loop _ hd _ _ hsame =>
    rw [hsame.monitoring, hsame.detector]
    show s.monitoring = true
    rw [hs, hd]
    rfl

/-- In every state of a run the flag is set just if there is a session. Unlike the loop, it does not
notice that a tick was cut short. -/
theorem run_monitoring (apply : ε → σ → σ) {inputs : List (Input ε)} {p : Service × Workspace σ}
    (hp : p.1.monitoring = p.1.detector.isSome) :
    (run apply inputs p).1.monitoring = (run apply inputs p).1.detector.isSome := by
  induction inputs generalizing p with
  | nil => exact hp
  | cons input rest ih =>
    refine ih ?_
    cases input with
    | outside event => exact hp
    | command command => exact (act_moves command p).exec_snd.monitoring hp

/-- A start brings the polling about if and only if no tick of the current session was cut short, on
any window system and in every state that can be reached. Otherwise the start does nothing at all,
and the service goes on saying that it monitors. A stop before the start always helps. -/
theorem start_polls_iff (settings : Settings) (work : Workspace σ) (apply : ε → σ → σ)
    {inputs : List (Input ε)} (htimely : Timely apply inputs (withSettings settings, work)) :
    let p := run apply inputs (withSettings settings, work)
    (Service.start.exec p).1 = .ok () ∧
      ((Service.start.exec p).2.1.isPolling = true ↔
        ¬ Broken apply inputs (withSettings settings, work)) ∧
      (Broken apply inputs (withSettings settings, work) →
        Service.start.exec p = (.ok (), p) ∧ p.1.monitoring = true) ∧
      (do Service.stop; Service.start : Action (Service × Workspace σ) Unit).Ensures p
        (fun _ q => q.1.isPolling = true) fun _ => False := by
  intro p
  have hstalled : p.1.isStalled = true ↔ Broken apply inputs (withSettings settings, work) :=
    run_isStalled apply (p := (withSettings settings, work)) rfl htimely
  have hmonitoring : p.1.monitoring = p.1.detector.isSome :=
    run_monitoring apply (p := (withSettings settings, work)) rfl
  obtain ⟨hok, hpolling, hsame⟩ := start_isPolling p
  refine ⟨hok, ?_, fun hbroken => ⟨hsame (hstalled.mpr hbroken), ?_⟩, stop_start_isPolling p⟩
  · rw [hpolling, ← hstalled]
    cases p.1.isStalled <;> simp
  · have hsession := hstalled.mpr hbroken
    rw [hmonitoring]
    rcases hd : p.1.detector with _ | d
    · simp [isStalled_of_none hd] at hsession
    · rfl

/-- A window far from the monitor cuts the first tick short. The window is closed, so that nothing
is in the way any more, and the monitoring is started again. -/
theorem start_leaves_session_stalled :
    let far := { DesktopWindow.titled 1 "Far away" with
      bounds := ⟨-2000000000, 0, -1999999000, 500⟩ }
    let screen : Rect := ⟨2000000000, 0, 2000001920, 1080⟩
    let inputs : List (Input Desktop.Event) :=
      [.outside (.addMonitor ⟨screen, screen⟩), .outside (.addProcess 1 "notepad.exe"),
        .outside (.openWindow far), .command .start, .command .tick,
        .outside (.closeWindow ⟨0x1000⟩)]
    let start := (withSettings { targets := ["game"] }, Workspace.unseen 0 ({} : Desktop))
    let p := run Desktop.Event.apply inputs start
    Timely Desktop.Event.apply inputs start ∧ (round.exec p).1 = .ok () ∧
      (Service.start.exec p).2.1.isPolling = false := by
  decide +kernel

/-- The same window, but the session is restarted by new settings before the next start. -/
theorem start_polls_iff_demo :
    let far := { DesktopWindow.titled 1 "Far away" with
      bounds := ⟨-2000000000, 0, -1999999000, 500⟩ }
    let screen : Rect := ⟨2000000000, 0, 2000001920, 1080⟩
    let inputs : List (Input Desktop.Event) :=
      [.outside (.addMonitor ⟨screen, screen⟩), .outside (.addProcess 1 "notepad.exe"),
        .outside (.openWindow far), .command .start, .command .tick,
        .outside (.closeWindow ⟨0x1000⟩),
        .command (.update { targets := ["game"], restoreOnAppExit := false }), .command .tick]
    let start := (withSettings { targets := ["game"] }, Workspace.unseen 0 ({} : Desktop))
    let p := run Desktop.Event.apply inputs start
    Timely Desktop.Event.apply inputs start ∧ (Service.start.exec p).2.1.isPolling = true ∧
      ¬ Broken Desktop.Event.apply inputs start := by
  intro far screen inputs
  have htimely : Timely Desktop.Event.apply inputs
      (withSettings { targets := ["game"] }, Workspace.unseen 0 {}) := by decide +kernel
  obtain ⟨-, hpolls, -⟩ := start_polls_iff { targets := ["game"] } (Workspace.unseen 0 {})
    Desktop.Event.apply htimely
  have hpolling : (Service.start.exec (run Desktop.Event.apply inputs
      (withSettings { targets := ["game"] }, Workspace.unseen 0 {}))).2.1.isPolling = true := by
    decide +kernel
  exact ⟨htimely, hpolling, hpolls.mp hpolling⟩

end Service

end SoloScreen
