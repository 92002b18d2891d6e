import Mathlib.Data.List.Induction
import SoloScreen.Proofs.Commands
import SoloScreen.Proofs.DesktopEvents
import SoloScreen.Proofs.Queries

/-!
# Detector and minimizer agree

While a session runs, the list of hidden windows is empty unless the detector is full screen, on any
window system and whatever it answers.

* `Service.Agrees`: the invariant. A step breaks it only by ending a session that is full screen
  (`Service.step_agrees`), and then there is none until the next start (`Service.step_off`).
* `Service.Orderly`: no session is started after one that was abandoned in this way, and the
  settings bring windows back when full screen ends.
* `Service.hidden_only_during_episode`: the invariant along orderly runs, and what it means for the
  list. No begin of an episode throws windows away, and they leave the list only to come back.

The invariant is not kept inside a tick: the detector takes note of what it finds first, and the
handling of its events follows. Between the two the list may hold windows without an episode. What
is proved of a tick is therefore about the tick as a whole: the events say what the detector has
done (`Detector.Ticked.episode`), and their handling does the same to the list
(`Service.handleAll_agrees`). A tick that is cut short has noted nothing, or it leaves a detector
that is full screen, and then the list may be of any length.
-/

namespace SoloScreen

open SoloScreen.Action

/-! ## The list of hidden windows -/

namespace Minimizer

variable {σ : Type}

/-- The list only grows at its end. -/
def Grows (p q : Minimizer × Workspace σ) : Prop := p.1.hidden <+: q.1.hidden

/-- A list that grows twice has grown. -/
theorem Grows.isPath : IsPath (Grows (σ := σ)) where
  refl p := List.prefix_refl p.1.hidden
  trans := List.IsPrefix.trans

/-- A list that stays as it is has grown by nothing. -/
theorem Grows.of_eq {p q : Minimizer × Workspace σ} (h : q.1 = p.1) : Grows p q :=
  show p.1.hidden <+: q.1.hidden from h ▸ List.prefix_rfl

variable [WindowSystem σ]

/-- Native calls do not touch the list. -/
theorem native_grows (call : NativeCall) :
    Follows Grows (WindowSystem.call call : Action (Minimizer × Workspace σ) _) :=
  (Follows.fst_onSecond (WindowSystem.call call)).mono fun _ _ => .of_eq

/-- Looking at a window does not touch the list. -/
theorem isEligible_grows (window : WindowHandle) :
    Follows Grows (isEligible window : Action (Minimizer × Workspace σ) Bool) :=
  isEligible_conforms Grows.isPath.toSelf (fun call _ _ => native_grows call) window

/-- A request does not touch the list. -/
theorem request_grows (window : WindowHandle) (command : WindowCommand) :
    Follows Grows (request window command : Action (Minimizer × Workspace σ) Bool) :=
  request_conforms Grows.isPath.toSelf (native_grows _)

/-- A window that is hidden again comes to the end of the list, or it stands there already. -/
theorem hideAgain_grows (spared : Option ProcessId) (record : WindowRecord) :
    Follows (Grows (σ := σ)) (hideAgain spared record) := by
  have hR := Grows.isPath (σ := σ)
  unfold hideAgain
  split
  · exact .pure hR _
  refine .bind hR (isEligible_grows record.handle) fun eligible => ?_
  split
  · refine .bind hR (request_grows record.handle .minimize) fun confirmed => ?_
    split
    · intro p
      simp only [ensures_bind, hiddenWindows, ensures_get, ensures_pure]
      split
      · simp only [setHidden, ensures_bind, ensures_get, ensures_pure, ensures_modify]
        exact List.prefix_append _ _
      · exact hR.refl p
    · exact .pure hR _
  · exact .pure hR _

/-- During an episode the list only grows. -/
theorem minimizeBeside_grows (target : WindowHandle) (monitor : MonitorHandle) :
    Follows (Grows (σ := σ)) (minimizeBeside target monitor).run := by
  have hR := Grows.isPath (σ := σ)
  unfold minimizeBeside
  refine .run_bind hR (native_grows (.monitorInfo monitor)) fun _ => .run_lift ?_
  refine .bind hR (native_grows (.process target)) fun owner => ?_
  refine .bind hR ((Follows.fst_onSecond _).mono fun _ _ => .of_eq) fun records => ?_
  exact .count hR _ fun record => hideAgain_grows owner.toOption record

/-- The list is empty after bringing windows back, even if that was cut short. -/
theorem restore_empties (p : Minimizer × Workspace σ) :
    restore.Ensures p (fun _ q => q.1.hidden = []) fun q => q.1.hidden = [] := by
  have hR : IsPath fun p q : Minimizer × Workspace σ => q.1 = p.1 :=
    ⟨fun _ => rfl, fun h₁ h₂ => h₂.trans h₁⟩
  have hcall : ∀ call : NativeCall, Follows (fun p q : Minimizer × Workspace σ => q.1 = p.1)
      (WindowSystem.call call : Action (Minimizer × Workspace σ) _) :=
    fun call => .fst_onSecond (WindowSystem.call call)
  have hunhide : ∀ window, Follows (fun p q : Minimizer × Workspace σ => q.1 = p.1)
      (unhide window) :=
    fun window => unhide_conforms hR.toSelf (fun call _ _ => hcall call) (hcall _)
  unfold restore
  simp only [ensures_bind, hiddenWindows, ensures_get, ensures_pure, setHidden, ensures_modify]
  exact (Follows.count hR p.1.hidden hunhide (⟨[]⟩, p.2)).mono
    (fun _ q h => by rw [h]) fun q h => by rw [h]

/-- Bringing nothing back asks nothing. -/
theorem restore_exec_of_nil {p : Minimizer × Workspace σ} (h : p.1 = ⟨[]⟩) :
    restore.exec p = (.ok 0, p) := by
  obtain ⟨minimizer, work⟩ := p
  obtain rfl : minimizer = ⟨[]⟩ := h
  rfl

end Minimizer

/-! ## Handling one event -/

namespace Service

variable {σ : Type}

/-- Settings, session and status stay, and the list of hidden windows goes along a relation. -/
structure Hides (R : List WindowHandle → List WindowHandle → Prop) (p q : Service × Workspace σ) :
    Prop where
  /-- The settings are the same. -/
  settings : q.1.settings = p.1.settings
  /-- The detector is the same. -/
  detector : q.1.detector = p.1.detector
  /-- The flag is the same. -/
  monitoring : q.1.monitoring = p.1.monitoring
  /-- The lists before and after are related. -/
  hidden : R p.1.minimizer.hidden q.1.minimizer.hidden

/-- Related lists can be put together. -/
theorem Hides.isPath {R : List WindowHandle → List WindowHandle → Prop} (hR : IsPath R) :
    IsPath (Hides (σ := σ) R) where
  refl _ := ⟨rfl, rfl, rfl, hR.refl _⟩
  trans h₁ h₂ := ⟨h₂.settings.trans h₁.settings, h₂.detector.trans h₁.detector,
    h₂.monitoring.trans h₁.monitoring, hR.trans h₁.hidden h₂.hidden⟩

variable [WindowSystem σ]

/-- Handling an event does to the list what the minimizer's task does to it. -/
theorem handle_hides {R : List WindowHandle → List WindowHandle → Prop} {event : DetectorEvent}
    {p : Service × Workspace σ}
    (h : (task p.1.settings event).run.Ensures (p.1.minimizer, p.2)
      (fun _ q => R p.1.minimizer.hidden q.1.hidden) fun q => R p.1.minimizer.hidden q.1.hidden) :
    (handle event).Ensures p (fun _ => Hides R p) (Hides R p) :=
  ensures_handle.mpr (h.mono (fun _ _ hq => ⟨rfl, rfl, rfl, hq⟩) fun _ hq => ⟨rfl, rfl, rfl, hq⟩)

/-- Whatever the event, settings and session stay. -/
theorem handle_keeps (event : DetectorEvent) :
    Follows (Hides (σ := σ) fun _ _ => True) (handle event) :=
  fun _ => handle_hides (.of_forall (fun _ _ => trivial) fun _ => trivial)

/-- A focus only adds to the list. -/
theorem handle_focus (sighting : Sighting) :
    Follows (Hides (σ := σ) (· <+: ·)) (handle (.targetFocused sighting)) := by
  obtain ⟨fullScreen, window, monitor, process, title⟩ := sighting
  intro p
  refine handle_hides ?_
  rcases window with _ | window
  · exact List.prefix_rfl
  rcases monitor with _ | monitor
  · exact List.prefix_rfl
  · exact Minimizer.minimizeBeside_grows window monitor (p.1.minimizer, p.2)

/-- Bringing windows back empties the list and touches nothing else of the service that matters
here. -/
theorem restoreWindows_hides (p : Service × Workspace σ) :
    restoreWindows.Ensures p (fun _ => Hides (fun _ l' => l' = []) p)
      (Hides (fun _ l' => l' = []) p) :=
  ensures_restoreWindows.mpr ((Minimizer.restore_empties (p.1.minimizer, p.2)).mono
    (fun _ _ hq => ⟨rfl, rfl, rfl, hq⟩) fun _ hq => ⟨rfl, rfl, rfl, hq⟩)

/-- An exit empties the list if the settings say so, and otherwise leaves it alone. -/
theorem handle_exit {sighting : Sighting} (h : sighting.fullScreen = false)
    (p : Service × Workspace σ) :
    (handle (.fullScreenChanged sighting)).Ensures p
      (fun _ => Hides (fun l l' =>
        l' = if p.1.settings.restoreOnFullScreenExit then [] else l) p)
      (Hides (fun l l' => l' = if p.1.settings.restoreOnFullScreenExit then [] else l) p) := by
  refine handle_hides ?_
  simp only [task, h, Bool.false_eq_true, if_false]
  split
  · exact ensures_run_lift.mpr (Minimizer.restore_empties (p.1.minimizer, p.2))
  · exact rfl

/-! ## The agreement -/

/-- Detector and minimizer agree on when an episode is open: a detector that is full screen knows
where, and unless it is full screen nothing is hidden. -/
structure Agrees (s : Service) : Prop where
  /-- The settings bring windows back when full screen ends. -/
  flag : s.settings.restoreOnFullScreenExit = true
  /-- A detector that is full screen knows the window and the monitor. -/
  seen : ∀ d, s.detector = some d → d.fullScreen → d.current?.isSome
  /-- Nothing is hidden while the session is not full screen. -/
  idle : ∀ d, s.detector = some d → d.fullScreen = false → s.minimizer.hidden = []
  /-- Nothing is hidden while there is no session. -/
  off : s.detector = none → s.minimizer.hidden = []

/-- The agreement of a session that is full screen. -/
theorem Agrees.of_fullScreen {s : Service} {d : Detector}
    (flag : s.settings.restoreOnFullScreenExit = true) (hd : s.detector = some d)
    (hfull : d.fullScreen = true) (hcurrent : d.current?.isSome) : Agrees s where
  flag := flag
  seen d' hd' _ := by
    obtain rfl : d = d' := Option.some.inj (hd.symm.trans hd')
    exact hcurrent
  idle d' hd' h := by
    obtain rfl : d = d' := Option.some.inj (hd.symm.trans hd')
    simp [hfull] at h
  off h := by simp [hd] at h

/-- The agreement of a service that hides nothing. -/
theorem Agrees.of_hidden_nil {s : Service} (flag : s.settings.restoreOnFullScreenExit = true)
    (hseen : ∀ d, s.detector = some d → d.fullScreen → d.current?.isSome)
    (hidden : s.minimizer.hidden = []) : Agrees s where
  flag := flag
  seen := hseen
  idle _ _ _ := hidden
  off _ := hidden

/-- The handling of the events of a tick brings detector and minimizer together again. -/
theorem handleAll_agrees {p q : Service × Workspace σ} {d d' : Detector}
    {events : List DetectorEvent} (hp : Agrees p.1) (hd : p.1.detector = some d)
    (hticked : Detector.Ticked d events d')
    (hq : q.1 = { p.1 with detector := some d' }) :
    (Action.each handle events).Ensures q (fun _ r => Agrees r.1) fun r => Agrees r.1 := by
  have hpath : IsPath fun _ _ : List WindowHandle => True :=
    ⟨fun _ => trivial, fun _ _ => trivial⟩
  have hflag : q.1.settings.restoreOnFullScreenExit = true := by rw [hq]; exact hp.flag
  have hdetector : q.1.detector = some d' := by rw [hq]
  rcases hticked.episode (hp.seen d hd) with ⟨hfull, hcurrent⟩ | ⟨hfull, hevents⟩
  · -- full screen: whatever is handled, settings and session stay
    have hagrees : ∀ r : Service × Workspace σ, Hides (fun _ _ => True) q r → Agrees r.1 :=
      fun r h => .of_fullScreen (by rw [h.settings, hflag]) (by rw [h.detector, hdetector])
        hfull hcurrent
    exact (Follows.each (Hides.isPath hpath) events handle_keeps q).mono (fun _ => hagrees) hagrees
  have hseen : ∀ d₀, some d' = some d₀ → d₀.fullScreen → d₀.current?.isSome := by
    rintro d₀ h hfull'
    obtain rfl := Option.some.inj h
    simp [hfull] at hfull'
  rcases hevents with ⟨rfl, hbefore⟩ | ⟨sighting, hexit, rfl⟩
  · -- not full screen before or after
    refine .of_hidden_nil hflag (by rwa [hdetector]) ?_
    rw [hq]
    exact hp.idle d hd hbefore
  · -- an exit empties the list
    have hagrees : ∀ r : Service × Workspace σ,
        Hides (fun l l' => l' = if q.1.settings.restoreOnFullScreenExit then [] else l) q r →
          Agrees r.1 := fun r h =>
      .of_hidden_nil (by rw [h.settings, hflag]) (by rwa [h.detector, hdetector])
        (by simpa [hflag] using h.hidden)
    unfold Action.each
    rw [ensures_bind]
    exact (handle_exit hexit q).mono (fun _ r h => hagrees r h) hagrees

/-- A tick keeps the agreement, whether its round is cut short or not. -/
theorem poll_agrees {p : Service × Workspace σ} (hp : Agrees p.1) :
    poll.Ensures p (fun _ q => Agrees q.1) fun _ => False := by
  refine poll_ensures (I := fun q => Agrees q.1) ?_ fun q d loop clock hq hd => ?_
  · unfold round
    rw [ensures_bind, ensures_read]
    rcases hd : p.1.detector with _ | d
    · exact hp
    dsimp only
    rw [ensures_bind, ensures_onDetector]
    refine (Detector.tick_ensures d p.2).mono (fun events q hq => ?_) fun q hq => ?_
    · exact handleAll_agrees hp hd hq rfl
    · rcases hq.episode (hp.seen d hd) with hsame | ⟨hfull, hcurrent⟩
      · rw [hsame, ← hd]
        exact hp
      · exact .of_fullScreen hp.flag rfl hfull hcurrent
  · exact ⟨hq.flag, fun _ h => Option.some.inj h ▸ hq.seen d hd,
      fun _ h => Option.some.inj h ▸ hq.idle d hd, fun h => by simp at h⟩

/-! ## Commands -/

omit [WindowSystem σ] in
/-- A start keeps the agreement: without a session nothing was hidden, and a new one is not full
screen. -/
theorem startWith_agrees {p : Service × Workspace σ} (hp : Agrees p.1) :
    Agrees ((startWith none).exec p).2.1 := by
  rcases hd : p.1.detector with _ | d
  · rw [startWith_exec_of_none hd]
    exact .of_hidden_nil hp.flag (fun d hd hfull => by simp [← Option.some.inj hd] at hfull)
      (hp.off hd)
  · rw [startWith_exec_of_some hd]
    exact hp

omit [WindowSystem σ] in
/-- After a stop detector and minimizer agree, or the session was full screen. -/
theorem stopWith_agrees {p : Service × Workspace σ} (hp : Agrees p.1) :
    stopWith.Ensures p
      (fun _ q => q.1.detector = none ∧ q.1.settings = p.1.settings ∧
        (q.1.minimizer.hidden = [] ∨ ∃ d, p.1.detector = some d ∧ d.fullScreen = true))
      fun _ => False := by
  rcases hd : p.1.detector with _ | d
  · rw [ensures_of_ok (stopWith_exec_of_none hd)]
    exact ⟨hd, rfl, .inl (hp.off hd)⟩
  · rw [ensures_of_ok (stopWith_exec_of_some hd)]
    refine ⟨rfl, rfl, ?_⟩
    rcases hfull : d.fullScreen
    · exact .inl (hp.idle d hd hfull)
    · exact .inr ⟨d, rfl, hfull⟩

/-- Bringing windows back keeps the agreement, since nothing is hidden afterwards. -/
theorem restoreWindows_agrees {p : Service × Workspace σ} (hp : Agrees p.1) :
    restoreWindows.Ensures p (fun _ q => Agrees q.1) fun q => Agrees q.1 := by
  have hagrees : ∀ q : Service × Workspace σ, Hides (fun _ l' => l' = []) p q → Agrees q.1 :=
    fun q h => .of_hidden_nil (by rw [h.settings, hp.flag]) (by rw [h.detector]; exact hp.seen)
      h.hidden
  exact (restoreWindows_hides p).mono (fun _ => hagrees) hagrees

/-- New settings keep the agreement if they bring windows back when full screen ends. -/
theorem updateSettings_agrees {p : Service × Workspace σ} (hp : Agrees p.1) (settings : Settings)
    (hflag : settings.normalize.check = .ok () → settings.restoreOnFullScreenExit = true) :
    (updateSettings settings).run.Ensures p (fun _ q => Agrees q.1) fun _ => False := by
  refine (updateSettings_ensures settings p).mono (fun r q hq => ?_) fun _ h => h
  have hminimizer := hq.2.minimizer
  rcases hq.2 with ⟨failure, text, -, hs⟩ | ⟨hcheck, hnone, hsome⟩
  · rw [hs]
    exact ⟨hp.flag, hp.seen, hp.idle, hp.off⟩
  have hflag' : q.1.settings.restoreOnFullScreenExit = true := by
    rw [hq.2.settings]
    exact hflag hcheck
  rcases hd : p.1.detector with _ | d
  · refine .of_hidden_nil hflag' (by simp [hnone hd, hd]) ?_
    rw [hminimizer]
    exact hp.off hd
  · obtain ⟨d', hd', hcurrent, hfull⟩ := (hsome d hd).retuned
    rcases hwas : d.fullScreen
    · -- nothing is hidden, before and after
      refine .of_hidden_nil hflag' (fun d₀ h₀ hfull₀ => ?_) ?_
      · obtain rfl : d' = d₀ := Option.some.inj (hd'.symm.trans h₀)
        rw [hcurrent]
        rw [hfull] at hfull₀
        split at hfull₀
        · exact hfull₀
        · simp [hwas] at hfull₀
      · rw [hminimizer]
        exact hp.idle d hd hwas
    · have hsome := hp.seen d hd hwas
      refine .of_fullScreen hflag' hd' ?_ (by rwa [hcurrent])
      rw [hfull, hwas, hsome]
      simp

/-! ## Ending a session -/

/-- A service without a session that will bring windows back when full screen ends. -/
structure Off (s : Service) : Prop where
  /-- The settings bring windows back when full screen ends. -/
  flag : s.settings.restoreOnFullScreenExit = true
  /-- There is no session. -/
  detector : s.detector = none

/-- The command abandons a session that is full screen, and the service has none afterwards. -/
structure EndsOpen (command : Command) (s s' : Service) : Prop where
  /-- The command leaves the windows as they are. -/
  abandons : command.abandons s.settings = true
  /-- The session that it ends is full screen. -/
  fullScreen : ∃ d, s.detector = some d ∧ d.fullScreen = true
  /-- There is none afterwards. -/
  off : Off s'

omit [WindowSystem σ] in
/-- Ending the session keeps the agreement, unless the session is full screen. -/
theorem stop_agrees {p : Service × Workspace σ} (hp : Agrees p.1) :
    Service.stop.Ensures p (fun _ q => Agrees q.1 ∨ EndsOpen .stop p.1 q.1) fun _ => False := by
  unfold Service.stop
  rw [ensures_bind]
  refine (stopWith_agrees hp).mono (fun _ q ⟨hnone, hsettings, hq⟩ => ?_) fun _ h => h
  have hflag : q.1.settings.restoreOnFullScreenExit = true := by rw [hsettings, hp.flag]
  rcases hq with hidden | hfull
  · exact .inl (.of_hidden_nil hflag (by simp [hnone]) hidden)
  · exact .inr ⟨rfl, hfull, hflag, hnone⟩

/-- Closing the settings window keeps the agreement, with or without bringing windows back. -/
theorem settingsClosed_agrees {p : Service × Workspace σ} (hp : Agrees p.1) :
    Service.settingsClosed.Ensures p (fun _ q => Agrees q.1) fun q => Agrees q.1 := by
  unfold Service.settingsClosed
  rw [ensures_bind, ensures_read]
  split
  · exact restoreWindows_agrees hp
  · exact hp

/-- A shutdown keeps the agreement, unless it leaves the windows of an open episode as they are. -/
theorem shutdown_agrees {p : Service × Workspace σ} (hp : Agrees p.1) :
    Service.shutdown.Ensures p (fun _ q => Agrees q.1 ∨ EndsOpen .shutdown p.1 q.1)
      fun q => Agrees q.1 := by
  unfold Service.shutdown
  rw [ensures_bind]
  refine ((stop_ensures p).and (stop_agrees hp)).mono (fun _ q ⟨hstopped, hq⟩ => ?_)
    fun _ h => h.1.elim
  rw [ensures_bind, ensures_read]
  split
  · -- whatever was hidden comes back
    have hagrees : ∀ r : Service × Workspace σ, Hides (fun _ l' => l' = []) q r → Agrees r.1 :=
      fun r h => .of_hidden_nil (by rw [h.settings, hstopped.settings, hp.flag])
        (by simp [h.detector, hstopped.detector]) h.hidden
    exact (restoreWindows_hides q).mono (fun _ r hr => .inl (hagrees r hr)) hagrees
  · rename_i hflag
    rw [hstopped.settings] at hflag
    exact hq.imp_right fun hends => ⟨by simpa [Command.abandons] using hflag, hends.fullScreen,
      hends.off⟩

/-- A service without a session stays without one, whatever is brought back. -/
theorem restoreWindows_off {p : Service × Workspace σ} (hp : Off p.1) :
    restoreWindows.Ensures p (fun _ q => Off q.1) fun q => Off q.1 := by
  have hoff : ∀ q : Service × Workspace σ, Hides (fun _ l' => l' = []) p q → Off q.1 :=
    fun q h => ⟨by rw [h.settings, hp.flag], by rw [h.detector, hp.detector]⟩
  exact (restoreWindows_hides p).mono (fun _ => hoff) hoff

omit [WindowSystem σ] in
/-- A stop without a session does nothing. -/
theorem stop_off {p : Service × Workspace σ} (hp : Off p.1) :
    Service.stop.Ensures p (fun _ q => Off q.1) fun _ => False := by
  unfold Service.stop
  rw [ensures_bind, ensures_of_ok (stopWith_exec_of_none hp.detector)]
  exact hp

/-- New settings do not begin a session. -/
theorem updateSettings_off {p : Service × Workspace σ} (hp : Off p.1) (settings : Settings)
    (hflag : settings.normalize.check = .ok () → settings.restoreOnFullScreenExit = true) :
    (updateSettings settings).run.Ensures p (fun _ q => Off q.1) fun _ => False := by
  refine (updateSettings_ensures settings p).mono (fun r q hq => ?_) fun _ h => h
  rcases hq.2 with ⟨failure, text, -, hs⟩ | ⟨hcheck, hnone, -⟩
  · rw [hs]
    exact ⟨hp.flag, hp.detector⟩
  · rw [hnone hp.detector]
    exact ⟨hflag hcheck, hp.detector⟩

/-- Without a session a tick does nothing. -/
theorem poll_off {p : Service × Workspace σ} (hp : Off p.1) :
    poll.Ensures p (fun _ q => Off q.1) fun _ => False := by
  refine poll_ensures (I := fun q => Off q.1) ?_ fun q d loop clock hq hd => ?_
  · unfold round
    rw [ensures_bind, ensures_read, hp.detector]
    exact hp
  · simp [hq.detector] at hd

/-- Closing the settings window does not begin a session. -/
theorem settingsClosed_off {p : Service × Workspace σ} (hp : Off p.1) :
    Service.settingsClosed.Ensures p (fun _ q => Off q.1) fun q => Off q.1 := by
  unfold Service.settingsClosed
  rw [ensures_bind, ensures_read]
  split
  · exact restoreWindows_off hp
  · exact hp

/-- Nor does a shutdown. -/
theorem shutdown_off {p : Service × Workspace σ} (hp : Off p.1) :
    Service.shutdown.Ensures p (fun _ q => Off q.1) fun q => Off q.1 := by
  unfold Service.shutdown
  rw [ensures_bind]
  refine (stop_off hp).mono (fun _ q hq => ?_) fun _ => False.elim
  rw [ensures_bind, ensures_read]
  split
  · exact restoreWindows_off hq
  · exact hq

/-! ## Along a run -/

section run

variable {ε : Type} (apply : ε → σ → σ)

/-- One input keeps the agreement, unless it abandons a session that is full screen. -/
theorem step_agrees {p : Service × Workspace σ} (hp : Agrees p.1) (input : Input ε)
    (hupdate : ∀ settings, input = .command (.update settings) →
      settings.normalize.check = .ok () → settings.restoreOnFullScreenExit = true) :
    Agrees (step apply p input).1 ∨
      ∃ command, input = .command command ∧ EndsOpen command p.1 (step apply p input).1 := by
  cases input with
  | outside event => exact .inl hp
  | command command =>
    cases command with
    | start => exact .inl (startWith_agrees hp)
    | stop =>
      exact (stop_agrees hp).of_uncut.exec_snd.imp_right fun hends => ⟨.stop, rfl, hends⟩
    | update settings =>
      have h : (Command.act (.update settings)).Ensures p (fun _ q => Agrees q.1) _ :=
        ensures_bind.mpr (updateSettings_agrees hp settings (hupdate settings rfl))
      exact .inl h.of_uncut.exec_snd
    | tick => exact .inl (poll_agrees hp).of_uncut.exec_snd
    | restoreManually =>
      have h : (Command.act .restoreManually).Ensures p (fun _ q => Agrees q.1) _ :=
        ensures_bind.mpr (restoreWindows_agrees hp)
      exact .inl h.exec_snd
    | settingsClosed =>
      have h : (Command.act .settingsClosed).Ensures p (fun _ q => Agrees q.1) _ :=
        ensures_bind.mpr (settingsClosed_agrees hp)
      exact .inl h.exec_snd
    | shutdown =>
      have h : (Command.act .shutdown).Ensures p
          (fun _ q => Agrees q.1 ∨ EndsOpen .shutdown p.1 q.1)
          fun q => Agrees q.1 ∨ EndsOpen .shutdown p.1 q.1 :=
        ensures_bind.mpr ((shutdown_agrees hp).mono (fun _ _ h => h) fun _ => .inl)
      exact h.exec_snd.imp_right fun hends => ⟨.shutdown, rfl, hends⟩

/-- Without a session only a start makes one. -/
theorem step_off {p : Service × Workspace σ} (hp : Off p.1) (input : Input ε)
    (hstart : input ≠ .command .start)
    (hupdate : ∀ settings, input = .command (.update settings) →
      settings.normalize.check = .ok () → settings.restoreOnFullScreenExit = true) :
    Off (step apply p input).1 := by
  cases input with
  | outside event => exact hp
  | command command =>
    cases command with
    | start => exact absurd rfl hstart
    | stop => exact (stop_off hp).of_uncut.exec_snd
    | update settings =>
      have h : (Command.act (.update settings)).Ensures p (fun _ q => Off q.1) _ :=
        ensures_bind.mpr (updateSettings_off hp settings (hupdate settings rfl))
      exact h.of_uncut.exec_snd
    | tick => exact (poll_off hp).of_uncut.exec_snd
    | restoreManually =>
      have h : (Command.act .restoreManually).Ensures p (fun _ q => Off q.1) _ :=
        ensures_bind.mpr (restoreWindows_off hp)
      exact h.exec_snd
    | settingsClosed =>
      have h : (Command.act .settingsClosed).Ensures p (fun _ q => Off q.1) _ :=
        ensures_bind.mpr (settingsClosed_off hp)
      exact h.exec_snd
    | shutdown =>
      have h : (Command.act .shutdown).Ensures p (fun _ q => Off q.1) _ :=
        ensures_bind.mpr (shutdown_off hp)
      exact h.exec_snd

/-- A session was abandoned while its detector was full screen. -/
def EndedOpen (inputs : List (Input ε)) (p : Service × Workspace σ) : Prop :=
  ∃ before command after, inputs = before ++ .command command :: after ∧
    command.abandons (run apply before p).1.settings ∧
      ∃ d, (run apply before p).1.detector = some d ∧ d.fullScreen = true

/-- The inputs never start a session after one that was abandoned full screen, and the settings they
carry bring windows back when full screen ends. -/
structure Orderly (inputs : List (Input ε)) (p : Service × Workspace σ) : Prop where
  /-- Settings that are accepted bring windows back when full screen ends. -/
  update : ∀ settings, .command (.update settings) ∈ inputs →
    settings.normalize.check = .ok () → settings.restoreOnFullScreenExit = true
  /-- No session was abandoned full screen before a start. -/
  start : ∀ before after, inputs = before ++ .command .start :: after → ¬ EndedOpen apply before p

/-- The beginning of orderly inputs is orderly. -/
theorem Orderly.of_append {before after : List (Input ε)} {p : Service × Workspace σ}
    (h : Orderly apply (before ++ after) p) : Orderly apply before p where
  update settings hmem := h.update settings (List.mem_append_left after hmem)
  start first rest hbefore := h.start first (rest ++ after) (by rw [hbefore]; simp)

/-- A session that was abandoned has been abandoned for good. -/
theorem EndedOpen.append {before : List (Input ε)} {p : Service × Workspace σ}
    (h : EndedOpen apply before p) (after : List (Input ε)) :
    EndedOpen apply (before ++ after) p := by
  obtain ⟨first, command, rest, rfl, hstop, hfull⟩ := h
  exact ⟨first, command, rest ++ after, by simp, hstop, hfull⟩

/-- Along an orderly run detector and minimizer agree, until one is abandoned full screen; from then
on there is no session. -/
theorem run_agrees {inputs : List (Input ε)} {p : Service × Workspace σ} (hp : Agrees p.1)
    (h : Orderly apply inputs p) :
    Agrees (run apply inputs p).1 ∨
      (EndedOpen apply inputs p ∧ Off (run apply inputs p).1) := by
  -- induction from the end: what an input may do depends on everything before it, and order is a
  -- property of beginnings
  induction inputs using List.reverseRecOn with
  | nil => exact .inl hp
  | append_singleton inputs input ih =>
    have hupdate : ∀ settings, input = .command (.update settings) →
        settings.normalize.check = .ok () → settings.restoreOnFullScreenExit = true :=
      fun settings heq => h.update settings (by simp [heq])
    rw [run_append, run_cons, run_nil]
    rcases ih h.of_append with hagrees | ⟨hended, hoff⟩
    · rcases step_agrees apply hagrees input hupdate with hnext | ⟨command, rfl, hends⟩
      · exact .inl hnext
      · exact .inr ⟨⟨inputs, command, [], rfl, hends.abandons, hends.fullScreen⟩, hends.off⟩
    · refine .inr ⟨hended.append apply [input], step_off apply hoff input ?_ hupdate⟩
      rintro rfl
      exact h.start inputs [] rfl hended

/-! ## What becomes of the list -/

omit apply in
/-- Where nothing is hidden unless the detector is full screen, an episode begins with an empty
list. -/
theorem hidden_eq_nil_of_enter {p : Service × Workspace σ}
    (hidle : ∀ d, p.1.detector = some d → d.fullScreen = false → p.1.minimizer.hidden = [])
    {x : DetectorEvent × (Service × Workspace σ)} (hx : x ∈ tickHandlings p)
    (henter : x.1.isEnter) : x.2.1.minimizer.hidden = [] := by
  obtain ⟨d, d', hd, hfull, hs⟩ := enter_of_mem_tickHandlings hx henter
  rw [hs]
  exact hidle d hd hfull

omit apply in
/-- The events of a tick of a full-screen detector only add to the list, unless one is an exit that
restores. -/
theorem handleAll_extends {q : Service × Workspace σ} {d d' : Detector}
    {events : List DetectorEvent} (hticked : Detector.Ticked d events d')
    (hfull : d.fullScreen = true)
    (hkept : ∀ event ∈ events, event.isExit → q.1.settings.restoreOnFullScreenExit = false) :
    (Action.each handle events).Ensures q
      (fun _ r => q.1.minimizer.hidden <+: r.1.minimizer.hidden)
      fun r => q.1.minimizer.hidden <+: r.1.minimizer.hidden := by
  by_cases hexit : ∃ event ∈ events, event.isExit
  · obtain ⟨event, hmem, hexit⟩ := hexit
    have hflag := hkept event hmem hexit
    obtain rfl := hticked.exit_alone hmem hexit
    rcases event with sighting | sighting
    · unfold Action.each
      rw [ensures_bind]
      have hsame : ∀ r : Service × Workspace σ, Hides (fun l l' => l' = if
          q.1.settings.restoreOnFullScreenExit then [] else l) q r →
            q.1.minimizer.hidden <+: r.1.minimizer.hidden := by
        intro r hr
        have hlist := hr.hidden
        simp only [hflag, Bool.false_eq_true, if_false] at hlist
        exact hlist ▸ List.prefix_rfl
      exact (handle_exit (by simpa [DetectorEvent.isExit] using hexit) q).mono
        (fun _ r hr => hsame r hr) hsame
    · simp [DetectorEvent.isExit] at hexit
  · have hR : IsPath fun l l' : List WindowHandle => l <+: l' :=
      ⟨List.prefix_refl, List.IsPrefix.trans⟩
    refine (Ensures.each (I := fun _ => Hides (σ := σ) (· <+: ·) q) (fun event _ r hmem hr => ?_)
      ((Hides.isPath hR).refl q)).mono (fun _ _ h => Hides.hidden h) fun _ h => Hides.hidden h
    rcases event with sighting | sighting
    · rcases hs : sighting.fullScreen
      · exact absurd ⟨_, hmem, by simp [DetectorEvent.isExit, hs]⟩ hexit
      · -- no episode begins while the detector is full screen
        obtain ⟨before, after, hevents⟩ := List.append_of_mem hmem
        have hnot := (hticked.enter_first hevents hs).2
        simp [hfull] at hnot
    · exact (handle_focus sighting r).mono (fun _ _ h => (Hides.isPath hR).trans hr h)
        fun _ h => (Hides.isPath hR).trans hr h

omit apply in
/-- A tick without a restoring exit only adds to the list. -/
theorem poll_extends {p : Service × Workspace σ}
    (hidle : ∀ d, p.1.detector = some d → d.fullScreen = false → p.1.minimizer.hidden = [])
    (hkept : ∀ x ∈ tickHandlings p, x.1.isExit → x.2.1.settings.restoreOnFullScreenExit = false) :
    poll.Ensures p (fun _ q => p.1.minimizer.hidden <+: q.1.minimizer.hidden) fun _ => False := by
  refine poll_ensures (I := fun q => p.1.minimizer.hidden <+: q.1.minimizer.hidden) ?_
    fun q d loop clock hq _ => hq
  unfold round
  rw [ensures_bind, ensures_read]
  rcases hd : p.1.detector with _ | d
  · exact List.prefix_rfl
  dsimp only
  rw [ensures_bind]
  rcases hexec : (onDetector d Detector.tick).exec p with ⟨e | events, q⟩
  · rw [ensures_of_error hexec]
    unfold onDetector at hexec
    obtain rfl := (Prod.mk.inj hexec).2
    exact List.prefix_rfl
  rw [ensures_of_ok hexec]
  obtain ⟨d', hticked, hq⟩ := ticked_of_exec hexec
  have hminimizer : q.1.minimizer = p.1.minimizer := by rw [hq]
  rw [← hminimizer]
  by_cases hempty : q.1.minimizer.hidden = []
  · rw [hempty]
    exact .of_forall (fun _ _ => List.nil_prefix) fun _ => List.nil_prefix
  -- something is hidden, so the detector was full screen
  have hfull : d.fullScreen = true := by
    by_contra h
    exact hempty (hminimizer ▸ hidle d hd (by simpa using h))
  refine handleAll_extends hticked hfull fun event hmem hexit => ?_
  obtain rfl := hticked.exit_alone hmem hexit
  refine hkept (event, q) ?_ hexit
  rw [tickHandlings_of_exec hd hexec]
  exact head_mem_handlings event [] q

/-- Windows leave the list only on inputs that bring them back. -/
theorem step_extends {p : Service × Workspace σ}
    (hidle : ∀ d, p.1.detector = some d → d.fullScreen = false → p.1.minimizer.hidden = [])
    (input : Input ε) (hinput : ¬ Restores p input) :
    p.1.minimizer.hidden <+: (step apply p input).1.minimizer.hidden := by
  have hsame : ∀ q : Service × Workspace σ, q.1.minimizer = p.1.minimizer →
      p.1.minimizer.hidden <+: q.1.minimizer.hidden := fun q h => h ▸ List.prefix_rfl
  cases input with
  | outside event => exact List.prefix_rfl
  | command command =>
    have hact : command.act.Ensures p (fun _ q => p.1.minimizer.hidden <+: q.1.minimizer.hidden)
        fun q => p.1.minimizer.hidden <+: q.1.minimizer.hidden := by
      cases command with
      | start =>
        exact (startWith_untouched none p).mono (fun _ q h => hsame q h.minimizer)
          fun _ => False.elim
      | stop =>
        exact (stop_ensures p).mono (fun _ q h => hsame q h.minimizer) fun _ => False.elim
      | update settings =>
        exact ensures_bind.mpr ((updateSettings_ensures settings p).mono
          (fun _ q h => hsame q h.2.minimizer) fun _ => False.elim)
      | tick =>
        refine (poll_extends hidle fun x hx hexit => ?_).of_uncut
        by_contra hflag
        exact hinput ⟨x, hx, hexit, by simpa using hflag⟩
      | restoreManually => exact absurd trivial hinput
      | settingsClosed =>
        have hflag : ¬ p.1.settings.restoreOnSettingsClosed = true := hinput
        unfold Command.act Service.settingsClosed
        rw [ensures_bind, ensures_bind, ensures_read, if_neg hflag]
        exact List.prefix_rfl
      | shutdown =>
        have hflag : ¬ p.1.settings.restoreOnAppExit = true := hinput
        unfold Command.act Service.shutdown
        rw [ensures_bind, ensures_bind]
        refine (stop_ensures p).mono (fun _ q h => ?_) fun _ => False.elim
        rw [ensures_bind, ensures_read, h.settings, if_neg hflag]
        exact hsame q h.minimizer
    exact hact.exec_snd

/-- In an orderly run nothing is hidden while the detector of a session is not full screen. -/
theorem Orderly.hidden_eq_nil {settings : Settings} {work : Workspace σ} {inputs : List (Input ε)}
    (hflag : settings.restoreOnFullScreenExit = true)
    (h : Orderly apply inputs (withSettings settings, work)) {d : Detector}
    (hd : (run apply inputs (withSettings settings, work)).1.detector = some d)
    (hfull : d.fullScreen = false) :
    (run apply inputs (withSettings settings, work)).1.minimizer.hidden = [] := by
  have hstart : Agrees (withSettings settings) :=
    .of_hidden_nil hflag (fun _ hd => by simp [withSettings] at hd) rfl
  rcases run_agrees apply hstart h with hagrees | ⟨-, hoff⟩
  · exact hagrees.idle d hd hfull
  · exact absurd (hoff.detector.symm.trans hd) (by simp)

/-- In an orderly run every episode begins with an empty list. -/
theorem Orderly.enter_hidden {settings : Settings} {work : Workspace σ} {inputs : List (Input ε)}
    (hflag : settings.restoreOnFullScreenExit = true)
    (h : Orderly apply inputs (withSettings settings, work))
    {x : DetectorEvent × (Service × Workspace σ)}
    (hx : x ∈ runHandlings apply inputs (withSettings settings, work)) (henter : x.1.isEnter) :
    x.2.1.minimizer.hidden = [] := by
  induction inputs using List.reverseRecOn with
  | nil => simp [runHandlings] at hx
  | append_singleton inputs input ih =>
    have hbefore := h.of_append
    rw [runHandlings_append] at hx
    rcases List.mem_append.mp hx with hx | hx
    · exact ih hbefore hx
    · simp only [runHandlings, List.append_nil, Input.handlings] at hx
      split at hx
      · exact hidden_eq_nil_of_enter (fun d => hbefore.hidden_eq_nil apply hflag) hx henter
      · simp at hx

end run

/-- Detector and minimizer agree on when an episode is open. Take an orderly run, from a service
that will bring windows back when full screen ends. Then nothing is hidden while the detector of a
session is not full screen; hence no episode begins with a list that is not empty, and windows leave
the list only on inputs that bring them back. -/
theorem hidden_only_during_episode {ε : Type} (apply : ε → σ → σ) {settings : Settings}
    (hflag : settings.restoreOnFullScreenExit = true) (work : Workspace σ)
    {inputs : List (Input ε)} (horderly : Orderly apply inputs (withSettings settings, work)) :
    let p := run apply inputs (withSettings settings, work)
    (∀ d, p.1.detector = some d → d.fullScreen = false → p.1.minimizer.hidden = []) ∧
      (∀ x ∈ tickHandlings p, x.1.isEnter → x.2.1.minimizer.hidden = []) ∧
      ∀ input, ¬ Restores p input →
        p.1.minimizer.hidden <+: (step apply p input).1.minimizer.hidden := by
  intro p
  have hidle : ∀ d, p.1.detector = some d → d.fullScreen = false → p.1.minimizer.hidden = [] :=
    fun d => horderly.hidden_eq_nil apply hflag
  exact ⟨hidle, fun _ hx => hidden_eq_nil_of_enter hidle hx, step_extends apply hidle⟩

/-- Inputs in which only the first one is a start are orderly, if their settings are. -/
theorem orderly_of_start_first {ε : Type} {apply : ε → σ → σ} {rest : List (Input ε)}
    {p : Service × Workspace σ} (hrest : .command .start ∉ rest)
    (hupdate : ∀ settings, .command (.update settings) ∈ rest →
      settings.restoreOnFullScreenExit = true) : Orderly apply (.command .start :: rest) p where
  update settings hmem _ := by
    rcases List.mem_cons.mp hmem with h | h
    · cases h
    · exact hupdate settings h
  start before after hinputs := by
    rcases before with _ | ⟨first, before⟩
    · rintro ⟨first, command, others, hfirst, -⟩
      exact absurd hfirst (by simp)
    · refine absurd ?_ hrest
      rw [(List.cons.inj hinputs).2]
      simp

/-- The demonstration desktop with a window that becomes full screen, a restart of the session while
it is, and the end of the episode. -/
theorem hidden_only_during_episode_demo :
    let full := (DesktopWindow.titled 300 "Video").maximizedOver ⟨0, 0, 1920, 1040⟩
    let inputs : List (Input Desktop.Event) :=
      [.command .start, .outside (.openWindow full), .command .tick,
        .command (.update { restoreOnAppExit := false }), .command .tick,
        .outside (.closeWindow ⟨0x1030⟩), .command .tick]
    let p := run Desktop.Event.apply inputs (withSettings {}, .unseen 0 Desktop.demo)
    Orderly Desktop.Event.apply inputs (withSettings {}, .unseen 0 Desktop.demo) ∧
      (run Desktop.Event.apply (inputs.take 5)
        (withSettings {}, .unseen 0 Desktop.demo)).1.minimizer.hidden = [⟨0x1020⟩, ⟨0x1010⟩] ∧
      (∀ d, p.1.detector = some d → d.fullScreen = false → p.1.minimizer.hidden = []) ∧
      (∀ x ∈ tickHandlings p, x.1.isEnter → x.2.1.minimizer.hidden = []) ∧
      ∀ input, ¬ Restores p input →
        p.1.minimizer.hidden <+: (step Desktop.Event.apply p input).1.minimizer.hidden := by
  intro full inputs
  have horderly : Orderly Desktop.Event.apply inputs
      (withSettings {}, .unseen 0 Desktop.demo) :=
    orderly_of_start_first (by decide) (by simp)
  exact ⟨horderly, by decide +kernel, hidden_only_during_episode Desktop.Event.apply rfl _ horderly⟩

end Service

end SoloScreen
