import SoloScreen.Proofs.Commands

/-!
# What an input does to the session

Settings, detector, status and the published changes of the status change in few ways, and they are
listed once (`Service.Moves`): a session is started, stopped or adapted to new settings, or a tick
lets its detector take note of what it has found (`Detector.Noticed`). Whatever else an input does,
these four stay as they are (`Service.SameSession`).

`Service.act_moves` is the inversion from which the invariants of a session follow.
-/

namespace SoloScreen

open SoloScreen.Action

/-! ## What a detector notices -/

namespace Detector

variable {d d' : Detector}

/-- What a tick makes of a detector, finished or cut short: nothing, or it takes note of what was
found. -/
inductive Noticed (d : Detector) : Detector → Prop
  /-- There was nothing to note. -/
  | nothing : Noticed d d
  /-- Full screen began, ended or stayed as it was, and perhaps the foreground was looked at. -/
  | saw (found : Option WindowRecord) (d' : Detector) :
    SameSight (observe found d).2 d' → Noticed d d'

/-- A finished tick notes what it found. -/
theorem Ticked.noticed {events : List DetectorEvent} (h : Ticked d events d') : Noticed d d' := by
  cases h with
  | blind => exact .nothing
  | saw found focus _ hsame => exact .saw found d' hsame

/-- A tick that is cut short notes what it had found by then. -/
theorem TickCut.noticed (h : TickCut d d') : Noticed d d' := by
  cases h with
  | searching => exact .nothing
  | focusing record _ hsame => exact .saw (some record) d' hsame

/-- What is noticed is an episode and a foreground window. -/
theorem Noticed.eq_with (h : Noticed d d') : ∃ fullScreen window monitor last,
    d' = { d with fullScreen, window, monitor, lastForeground := last } := by
  cases h with
  | nothing => exact ⟨_, _, _, _, rfl⟩
  | saw found _ hsame =>
    obtain ⟨last, rfl⟩ := hsame
    unfold observe
    split
    · exact ⟨_, _, _, last, rfl⟩
    · rcases found with _ | record <;> exact ⟨_, _, _, last, rfl⟩

/-- A detector is full screen if and only if it knows where. -/
def Knows (d : Detector) : Prop := d.fullScreen = d.current?.isSome

/-- Taking note keeps it true that the detector is full screen if and only if it knows where. -/
theorem Noticed.knows (h : Noticed d d') (hd : d.Knows) : d'.Knows := by
  cases h with
  | nothing => exact hd
  | saw found _ hsame =>
    obtain ⟨last, rfl⟩ := hsame
    unfold observe
    split
    · exact hd
    · rcases found with _ | record <;> rfl

end Detector

/-- The status that a notification tells of. -/
def Notification.status? : Notification → Option Bool
  | .monitoringChanged monitoring => some monitoring
  | _ => none

namespace Service

/-! ## Sessions -/

/-- The changes of the status that were published, the first one first. -/
def statuses (channel : Channel Notification) : List Bool :=
  channel.sent.filterMap Notification.status?

/-- A notification adds the status that it tells of, if it tells of one. -/
@[simp] theorem statuses_send (notification : Notification) (channel : Channel Notification) :
    statuses (channel.send notification) = statuses channel ++ notification.status?.toList := by
  unfold statuses Channel.send
  rw [List.filterMap_append]
  rcases h : notification.status? <;> simp [h]

/-- Settings, detector, status and what was published of it stay as they are. -/
structure SameSession (s s' : Service) : Prop where
  /-- The settings are the same. -/
  settings : s'.settings = s.settings
  /-- The detector is the same. -/
  detector : s'.detector = s.detector
  /-- The flag is the same. -/
  monitoring : s'.monitoring = s.monitoring
  /-- No change of the status was published. -/
  statuses : statuses s'.channel = statuses s.channel

/-- Staying as it is, twice, is staying as it is. -/
theorem SameSession.isPath : IsPath SameSession where
  refl _ := ⟨rfl, rfl, rfl, rfl⟩
  trans h₁ h₂ := ⟨h₂.settings.trans h₁.settings, h₂.detector.trans h₁.detector,
    h₂.monitoring.trans h₁.monitoring, h₂.statuses.trans h₁.statuses⟩

/-- The command ends the session, if there is one. -/
def Command.ends : Command → Bool
  | .stop => true
  | .shutdown => true
  | _ => false

/-- Everything that a command can do to the session. Where a tick `completes`, the loop goes on. -/
inductive Moves (completes : Prop) (command : Command) (s s' : Service) : Prop
  /-- The session was not the matter of the command. -/
  | same : SameSession s s' → Moves completes command s s'
  /-- A session begins, with its first tick due. -/
  | started (timer : Timer) : command = .start → s.detector = none →
    SameSession { s with
      detector := some { freshDetector s.settings none with loop := some timer }
      monitoring := true
      channel := s.channel.send (.monitoringChanged true) } s' → Moves completes command s s'
  /-- The session ends. -/
  | stopped (d : Detector) : command.ends = true → s.detector = some d →
    SameSession { s with
      detector := none
      monitoring := false
      channel := s.channel.send (.monitoringChanged false) } s' → Moves completes command s s'
  /-- New settings were accepted. -/
  | updated (settings : Settings) : command = .update settings → Updated settings s s' (.ok ()) →
    Moves completes command s s'
  /-- The detector took note of something, and its loop goes on or ends. -/
  | ticked (d d' : Detector) (loop : Option Timer) : command = .tick → s.detector = some d →
    d.Noticed d' → (completes → loop.isSome) →
      SameSession { s with detector := some { d' with loop } } s' → Moves completes command s s'

variable {σ : Type} [WindowSystem σ]

/-- Handling an event is no matter of the session. -/
theorem handle_same (event : DetectorEvent) :
    Follows (fun p q : Service × Workspace σ => SameSession p.1 q.1) (handle event) := by
  refine fun p => ensures_handle.mpr (.of_forall (fun answer q => ⟨rfl, rfl, rfl, ?_⟩)
    fun q => ⟨rfl, rfl, rfl, rfl⟩)
  -- a failure, or windows moved at the end or the beginning of full screen, or at a focus: none of
  -- these notifications tells of the status
  rcases answer with failure | n
  · simp [conclude, Notification.status?]
  · rcases event with sighting | sighting
    · by_cases hn : 0 < n <;> rcases hfull : sighting.fullScreen <;>
        simp [conclude, hn, DetectorEvent.notice, hfull, Notification.status?]
    · by_cases hn : 0 < n <;> simp [conclude, hn, DetectorEvent.notice, Notification.status?]

/-- Bringing windows back is no matter of the session either. -/
theorem restoreWindows_same :
    Follows (fun p q : Service × Workspace σ => SameSession p.1 q.1) restoreWindows := by
  refine fun p => ensures_restoreWindows.mpr (.of_forall (fun n q => ⟨rfl, rfl, rfl, ?_⟩)
    fun q => ⟨rfl, rfl, rfl, rfl⟩)
  by_cases hn : 0 < n <;> simp [hn, Notification.status?]

/-- A tick of the session's detector lets it notice something and changes nothing else of the
service. -/
theorem exists_noticed (d : Detector) (p : Service × Workspace σ) :
    ∃ d', d.Noticed d' ∧
      ((onDetector d Detector.tick).exec p).2.1 = { p.1 with detector := some d' } :=
  ⟨(Detector.tick.exec (d, p.2)).2.1, Ensures.exec_snd (I := fun q => d.Noticed q.1)
    ((Detector.tick_ensures d p.2).mono (fun _ _ h => h.noticed) fun _ h => h.noticed), rfl⟩

/-- A round is no more to the session than the tick of its detector. -/
theorem round_same {p : Service × Workspace σ} {d : Detector} (hd : p.1.detector = some d) :
    SameSession ((onDetector d Detector.tick).exec p).2.1 (round.exec p).2.1 := by
  have hpath : IsPath fun p q : Service × Workspace σ => SameSession p.1 q.1 :=
    SameSession.isPath.comap Prod.fst
  unfold round
  rw [exec_bind_of_ok (exec_read_of_eq (f := (·.detector)) hd)]
  rcases he : (onDetector d Detector.tick).exec p with ⟨e | events, q⟩
  · rw [exec_bind_of_error he]
    exact SameSession.isPath.refl q.1
  · rw [exec_bind_of_ok he]
    exact (Follows.each hpath events handle_same).exec_snd q

/-- What a tick of the service does to the session: the detector takes note of something, and the
loop is armed again exactly if the round was not cut short. -/
theorem poll_moves (p : Service × Workspace σ) :
    poll.Ensures p (fun _ q => Moves ((round.exec p).1 = .ok ()) .tick p.1 q.1)
      fun _ => False := by
  unfold poll
  rw [ensures_bind, ensures_outcome, ensures_bind, ensures_read]
  rcases hd : p.1.detector with _ | d
  · have hround : round.exec p = (.ok (), p) := by
      unfold round
      rw [exec_bind_of_ok (exec_read_of_eq (f := (·.detector)) hd)]
      rfl
    rw [hround, hd]
    exact .same (SameSession.isPath.refl p.1)
  · obtain ⟨d', hnoticed, htick⟩ := exists_noticed d p
    have hsame := round_same hd
    rw [htick] at hsame
    rw [hsame.detector]
    dsimp only
    rw [ensures_onDetector]
    unfold Detector.proceed
    rcases (round.exec p).1 with e | ⟨⟩
    · exact .ticked d d' none rfl hd hnoticed (by simp)
        ⟨hsame.settings, rfl, hsame.monitoring, hsame.statuses⟩
    · exact .ticked d d' (some ((round.exec p).2.2.clock.arm d'.interval).1) rfl hd hnoticed
        (fun _ => rfl) ⟨hsame.settings, rfl, hsame.monitoring, hsame.statuses⟩

/-- What a command does to the session. -/
theorem act_moves (command : Command) (p : Service × Workspace σ) :
    command.act.Ensures p (fun _ q => Moves ((round.exec p).1 = .ok ()) command p.1 q.1)
      fun q => Moves ((round.exec p).1 = .ok ()) command p.1 q.1 := by
  have hrefl := SameSession.isPath.refl p.1
  have hrestore : restoreWindows.Ensures p
      (fun _ q => Moves ((round.exec p).1 = .ok ()) command p.1 q.1)
      fun q => Moves ((round.exec p).1 = .ok ()) command p.1 q.1 :=
    (restoreWindows_same p).mono (fun _ _ h => .same h) fun _ h => .same h
  cases command with
  | start =>
    show (startWith none).Ensures p _ _
    rcases hd : p.1.detector with _ | d
    · rw [ensures_of_ok (startWith_exec_of_none hd none)]
      exact .started (p.2.clock.arm 0).1 rfl hd (SameSession.isPath.refl _)
    · rw [ensures_of_ok (startWith_exec_of_some hd none)]
      exact .same hrefl
  | stop =>
    unfold Command.act Service.stop
    rw [ensures_bind]
    rcases hd : p.1.detector with _ | d
    · rw [ensures_of_ok (stopWith_exec_of_none hd)]
      exact .same hrefl
    · rw [ensures_of_ok (stopWith_exec_of_some hd)]
      exact .stopped d rfl hd (SameSession.isPath.refl _)
  | update settings =>
    refine ensures_bind.mpr ((updateSettings_ensures settings p).mono (fun r q hq => ?_)
      fun _ => False.elim)
    rcases r with failure | ⟨⟩
    · rcases hq.2 with ⟨_, text, -, hs⟩
      rw [ensures_pure, hs]
      exact .same ⟨rfl, rfl, rfl, by simp [Notification.status?]⟩
    · exact .updated settings rfl hq.2
  | tick => exact (poll_moves p).of_uncut
  | restoreManually => exact ensures_bind.mpr hrestore
  | settingsClosed =>
    unfold Command.act Service.settingsClosed
    rw [ensures_bind, ensures_bind, ensures_read]
    split
    · exact hrestore
    · exact .same hrefl
  | shutdown =>
    unfold Command.act Service.shutdown Service.stop
    simp only [ensures_bind, ensures_read]
    rcases hd : p.1.detector with _ | d
    · rw [ensures_of_ok (stopWith_exec_of_none hd)]
      rw [ensures_pure]
      split
      · exact hrestore
      · exact .same hrefl
    · rw [ensures_of_ok (stopWith_exec_of_some hd)]
      rw [ensures_pure]
      split
      · exact (restoreWindows_same _).mono (fun _ _ => .stopped d rfl hd) fun _ => .stopped d rfl hd
      · exact .stopped d rfl hd (SameSession.isPath.refl _)

end Service

end SoloScreen
