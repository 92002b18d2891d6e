import Mathlib.Data.List.Infix
import SoloScreen.Proofs.Agreement
import SoloScreen.Proofs.Calls
import SoloScreen.Proofs.Journal
import SoloScreen.Proofs.Session

/-!
# Windows come back only where the settings permit it

A service asks for windows to come back in four places, three of which have a flag in the settings.
On any window system and whatever it answers, the journal of the native calls shows no such request
from anywhere else.

* `Workspace.worksConform_goesOn`: whatever is done to a workspace, the journal goes on.
* `Service.each_since`: what is written while the events of a tick are handled is written while one
  of them is handled. `Service.handle_since`: only the end of full screen has windows come back.
* `Service.Permitted`, `Service.step_permitted`: the places, and that an input has no others.
* `Service.run_passive`: while the flags are off, nothing comes back unless the user asks for it.
* `Service.shutdown_at_rest`: a second shutdown does nothing.
* `Service.restores_permitted`: all of this in every reachable state.

A request is permitted by the settings of the moment in which the input arrives. The events of a
tick are handled one after the other, each with the settings of its own state; that these are still
the settings of that moment is `Service.tickHandlings_settings`.
-/

namespace SoloScreen

open SoloScreen.Action

/-- The call that was made asks for a window to come back. -/
def Exchange.bringsBack (exchange : Exchange) : Bool :=
  match exchange.call with
  | .setState _ .restore => true
  | _ => false

/-- A call that requests nothing does not request that. -/
theorem Exchange.bringsBack_eq_false {exchange : Exchange} (h : exchange.request? = none) :
    exchange.bringsBack = false := by
  unfold bringsBack
  split
  · rename_i window hcall
    simp [request?, hcall] at h
  · rfl

namespace Workspace

variable {σ : Type}

/-! ## Nothing is asked to come back -/

/-- The journal goes on, and nothing was asked to come back. -/
structure Silent (work work' : Workspace (Journaled σ)) : Prop where
  /-- Nothing that was written down is lost. -/
  goesOn : GoesOn work work'
  /-- Of what was added, nothing asks for a window to come back. -/
  quiet : ∀ exchange ∈ since work work', exchange.bringsBack = false

/-- It is enough to name what was added. -/
theorem Silent.of_eq {work work' : Workspace (Journaled σ)} {more : List Exchange}
    (h : work'.journal = work.journal ++ more)
    (hmore : ∀ exchange ∈ more, exchange.bringsBack = false) : Silent work work' where
  goesOn := ⟨more, h.symm⟩
  quiet := by rwa [since_eq h]

/-- One silence after the other is a silence. -/
theorem Silent.isPath : IsPath (Silent (σ := σ)) where
  refl _ := .of_eq (List.append_nil _).symm (by simp)
  trans h h' := by
    refine ⟨GoesOn.isPath.trans h.goesOn h'.goesOn, fun exchange hmem => ?_⟩
    rw [since_trans h.goesOn h'.goesOn] at hmem
    rcases List.mem_append.mp hmem with hmem | hmem
    · exact h.quiet exchange hmem
    · exact h'.quiet exchange hmem

/-- Questions request nothing. -/
theorem Silent.of_asked {work work' : Workspace (Journaled σ)} (h : Asked work work') :
    Silent work work' := by
  obtain ⟨asked, hjournal, hasked⟩ := h
  exact .of_eq hjournal fun exchange hmem => Exchange.bringsBack_eq_false (hasked exchange hmem)

/-- One call was made, and it is another one. -/
theorem Made.silent {exchange : Exchange} {work work' : Workspace (Journaled σ)}
    (h : Made exchange work work') (hquiet : exchange.bringsBack = false) : Silent work work' :=
  .of_eq h.journal (by simpa using hquiet)

variable [WindowSystem σ]

/-- Whatever is done to a workspace, its journal goes on. This is the frame in which all the rest is
said: what was written between two states is a well-defined list (`Workspace.since`). -/
theorem worksConform_goesOn : WorkConform (σ := Journaled σ) GoesOn GoesOn where
  toQueriesConform := queriesConform_goesOn
  request window command work :=
    (call_keepsSnapshot (.setState window command) work).mono (fun _ _ h => h.1) fun _ h => h.1
  clock work _ := GoesOn.isPath.refl work
  settled := id

/-- Queries and requests to minimize ask for no window to come back. -/
theorem hidingConform_silent : HidingConform (σ := Journaled σ) Silent Silent where
  toQueriesConform := queriesConform_asked.mono Silent.isPath.toSelf (fun h => .of_asked h)
    fun h => .of_asked h
  minimize window work := (call_made (.setState window .minimize) work).mono
    (fun _ _ h => h.silent rfl) fun _ ⟨_, h⟩ => h.silent rfl

end Workspace

namespace Service

variable {σ ε : Type} [WindowSystem σ]

/-! ## Handling events -/

/-- What was written down while an event was handled that the service began to handle in a state. -/
def sinceHandled (x : DetectorEvent × (Service × Workspace (Journaled σ))) : List Exchange :=
  x.2.2.since ((handle x.1).exec x.2).2.2

/-- What is written down while events are handled is written down while one of them is handled. -/
theorem each_since {events : List DetectorEvent} {p : Service × Workspace (Journaled σ)}
    {exchange : Exchange}
    (h : exchange ∈ p.2.since ((Action.each handle events).exec p).2.2) :
    ∃ x ∈ handlings events p, exchange ∈ sinceHandled x := by
  induction events generalizing p with
  | nil => simp [Action.each] at h
  | cons event rest ih =>
    have hgoes : p.2.GoesOn ((handle event).exec p).2.2 :=
      (handle_conforms Workspace.worksConform_goesOn.requests event).exec_snd p
    unfold Action.each at h
    rcases he : (handle event).exec p with ⟨e | ⟨⟩, q⟩
    · -- the handling was cut short, and nothing follows
      rw [exec_bind_of_error he] at h
      refine ⟨(event, p), head_mem_handlings event rest p, ?_⟩
      unfold sinceHandled
      rwa [he]
    · rw [exec_bind_of_ok he] at h
      rw [he] at hgoes
      have hrest : q.2.GoesOn ((Action.each handle rest).exec q).2.2 :=
        (Conforms.each (OnWork.isPathTo (τ := Service) Workspace.GoesOn.isPath.toSelf) rest
          (handle_conforms Workspace.worksConform_goesOn.requests)).exec_snd q
      rw [Workspace.since_trans hgoes hrest] at h
      rcases List.mem_append.mp h with hmem | hmem
      · refine ⟨(event, p), head_mem_handlings event rest p, ?_⟩
        unfold sinceHandled
        rwa [he]
      · obtain ⟨x, hx, hexchange⟩ := ih hmem
        refine ⟨x, ?_, hexchange⟩
        unfold handlings
        rw [he]
        exact List.mem_cons_of_mem _ hx

/-- Where the settings leave the windows hidden at the end of full screen, handling it does
nothing to the windows and the list of them. -/
theorem handle_exit_off {event : DetectorEvent} (hexit : event.isExit)
    {p : Service × Workspace σ} (hoff : p.1.settings.restoreOnFullScreenExit = false) :
    (handle event).exec p = (.ok (), ({ p.1 with checked := true }, p.2)) := by
  refine Ensures.exec_eq (ensures_handle.mpr ?_)
  rcases event with sighting | sighting
  · have hfull : sighting.fullScreen = false := by simpa [DetectorEvent.isExit] using hexit
    simp [task, hfull, hoff, conclude]
  · simp [DetectorEvent.isExit] at hexit

/-- Windows are asked to come back only while the end of full screen is handled, and only if the
settings say so. -/
theorem handle_since {x : DetectorEvent × (Service × Workspace (Journaled σ))}
    {exchange : Exchange} (h : exchange ∈ sinceHandled x) (hback : exchange.bringsBack) :
    x.1.isExit ∧ x.2.1.settings.restoreOnFullScreenExit := by
  by_contra hnot
  -- any other event asks windows to minimize at most, and the end of full screen does nothing if
  -- off
  rcases hexit : x.1.isExit
  · have hsilent : x.2.2.Silent ((handle x.1).exec x.2).2.2 :=
      (handle_hiding_conforms Workspace.hidingConform_silent hexit).exec_snd x.2
    simp [hsilent.quiet exchange h] at hback
  · have hoff : x.2.1.settings.restoreOnFullScreenExit = false := by simpa [hexit] using hnot
    unfold sinceHandled at h
    rw [handle_exit_off hexit hoff] at h
    simp at h

/-- The events of a tick are handled with the settings that the tick began with. -/
theorem tickHandlings_settings {p : Service × Workspace σ}
    {x : DetectorEvent × (Service × Workspace σ)} (h : x ∈ tickHandlings p) :
    x.2.1.settings = p.1.settings := by
  obtain ⟨d, events, q, -, hexec, hx⟩ := exists_of_mem_tickHandlings h
  obtain ⟨d', -, hq⟩ := ticked_of_exec hexec
  obtain ⟨before, after, -, hbefore⟩ := exists_of_mem_handlings hx
  have hsame : SameSession q.1 ((Action.each handle before).exec q).2.1 :=
    (Follows.each (SameSession.isPath.comap Prod.fst) before handle_same).exec_snd q
  rw [hbefore] at hsame
  rw [hsame.settings, hq]

/-! ## Inputs -/

/-- A request that windows come back is permitted on an input: while the end of full screen is
handled with the flag for it on, when the settings window was closed or the program ends, each with
its flag on, or because the user asks for it. -/
inductive Permitted (p : Service × Workspace (Journaled σ)) (exchange : Exchange) :
    Input ε → Prop
  /-- A tick handles the end of full screen, with the flag for it on, and the request was made
  meanwhile. -/
  | exit (x : DetectorEvent × (Service × Workspace (Journaled σ))) : x ∈ tickHandlings p →
    x.1.isExit → x.2.1.settings.restoreOnFullScreenExit → exchange ∈ sinceHandled x →
      Permitted p exchange (.command .tick)
  /-- The settings window was closed, with the flag for it on. -/
  | settingsClosed : p.1.settings.restoreOnSettingsClosed →
    Permitted p exchange (.command .settingsClosed)
  /-- The program ends, with the flag for it on. -/
  | shutdown : p.1.settings.restoreOnAppExit → Permitted p exchange (.command .shutdown)
  /-- The user asks for it, which needs no flag. -/
  | manually : Permitted p exchange (.command .restoreManually)

omit [WindowSystem σ] in
/-- Without a native call nothing is written down. -/
theorem Untouched.since_eq_nil {p q : Service × Workspace (Journaled σ)} (h : Untouched p q) :
    p.2.since q.2 = [] := by
  refine Workspace.since_eq ?_
  unfold Workspace.journal
  rw [h.desk.1, List.append_nil]

/-- What a tick writes down is written down while its detector looks, which asks only, or while one
of its events is handled. -/
theorem poll_since {p : Service × Workspace (Journaled σ)} {exchange : Exchange}
    (h : exchange ∈ p.2.since (poll.exec p).2.2) (hback : exchange.bringsBack) :
    ∃ x ∈ tickHandlings p, exchange ∈ sinceHandled x := by
  have hround : exchange ∈ p.2.since (round.exec p).2.2 := by
    -- the timer that is set afterwards is not written down
    have hpoll : poll.Ensures p
        (fun _ q => q.2.journal = (round.exec p).2.2.journal)
        fun q => q.2.journal = (round.exec p).2.2.journal :=
      (poll_ensures (I := fun q => q.2.journal = (round.exec p).2.2.journal)
        (.of_exec_snd rfl) fun _ _ _ _ hq _ => hq).of_uncut
    unfold Workspace.since at h ⊢
    rwa [hpoll.exec_snd] at h
  unfold round at hround
  rcases hd : p.1.detector with _ | d
  · rw [exec_bind_of_ok (exec_read_of_eq (f := (·.detector)) hd)] at hround
    simp at hround
  rw [exec_bind_of_ok (exec_read_of_eq (f := (·.detector)) hd)] at hround
  have hsilent : p.2.Silent ((onDetector d Detector.tick).exec p).2.2 :=
    (Detector.tick_conforms Workspace.hidingConform_silent.toQueriesConform).exec_snd (d, p.2)
  rcases he : (onDetector d Detector.tick).exec p with ⟨e | events, q⟩
  · rw [exec_bind_of_error he] at hround
    rw [he] at hsilent
    simp [hsilent.quiet exchange hround] at hback
  · rw [exec_bind_of_ok he] at hround
    rw [he] at hsilent
    have hgoes : q.2.GoesOn ((Action.each handle events).exec q).2.2 :=
      (Conforms.each (OnWork.isPathTo (τ := Service) Workspace.GoesOn.isPath.toSelf) events
        (handle_conforms Workspace.worksConform_goesOn.requests)).exec_snd q
    rw [Workspace.since_trans hsilent.goesOn hgoes] at hround
    rw [tickHandlings_of_exec hd he]
    rcases List.mem_append.mp hround with hmem | hmem
    · simp [hsilent.quiet exchange hmem] at hback
    · exact each_since hmem

/-- A service that must not restore when the settings window is closed does nothing then. -/
theorem settingsClosed_exec_of_off {p : Service × Workspace σ}
    (h : p.1.settings.restoreOnSettingsClosed = false) :
    Service.settingsClosed.exec p = (.ok 0, p) := by
  unfold Service.settingsClosed
  rw [exec_bind_of_ok (exec_read_of_eq (f := (·.settings.restoreOnSettingsClosed)) h)]
  rfl

/-- A service that must not restore at the end touches no window then. -/
theorem shutdown_untouched {p : Service × Workspace σ}
    (h : p.1.settings.restoreOnAppExit = false) :
    Service.shutdown.Ensures p (fun _ q => Untouched p q) fun _ => False := by
  unfold Service.shutdown
  rw [ensures_bind]
  refine (stop_ensures p).mono (fun _ q hq => ?_) fun _ => id
  rw [ensures_bind, ensures_read, hq.settings, h]
  exact hq.toUntouched

/-- An input asks for windows to come back only where that is permitted. What leaves the workspace
untouched writes nothing down, and of the other inputs each has its own place. -/
theorem step_permitted (apply : ε → σ → σ) {p : Service × Workspace (Journaled σ)}
    {input : Input ε} {exchange : Exchange}
    (h : exchange ∈ p.2.since (step (Journaled.apply apply) p input).2)
    (hback : exchange.bringsBack) : Permitted p exchange input := by
  have hwritten : p.2.since (step (Journaled.apply apply) p input).2 ≠ [] := by
    intro hnil
    simp [hnil] at h
  have huntouched : ¬ Untouched p (step (Journaled.apply apply) p input) :=
    fun hsame => hwritten hsame.since_eq_nil
  cases input with
  | outside event => exact absurd (Workspace.since_self p.2) hwritten
  | command command =>
    cases command with
    | start => exact absurd (startWith_untouched none p).of_uncut.exec_snd huntouched
    | stop =>
      have hstop : Service.stop.Ensures p (fun _ q => Untouched p q) (Untouched p) :=
        (stop_ensures p).mono (fun _ _ hq => hq.toUntouched) fun _ => False.elim
      exact absurd hstop.exec_snd huntouched
    | update settings =>
      have hupdate : (Command.act (.update settings)).Ensures p (fun _ q => Untouched p q)
          (Untouched p) :=
        ensures_bind.mpr ((updateSettings_ensures settings p).mono
          (fun _ q hq => ⟨hq.2.minimizer, hq.1⟩) fun _ => False.elim)
      exact absurd hupdate.exec_snd huntouched
    | tick =>
      obtain ⟨x, hx, hmem⟩ := poll_since h hback
      obtain ⟨hexit, hflag⟩ := handle_since hmem hback
      exact .exit x hx hexit hflag hmem
    | restoreManually => exact .manually
    | settingsClosed =>
      rcases hflag : p.1.settings.restoreOnSettingsClosed
      · have hclosed : (Command.act .settingsClosed).Ensures p (fun _ q => Untouched p q)
            (Untouched p) :=
          ensures_bind.mpr ((ensures_of_ok (settingsClosed_exec_of_off hflag)).mpr ⟨rfl, rfl, rfl⟩)
        exact absurd hclosed.exec_snd huntouched
      · exact .settingsClosed hflag
    | shutdown =>
      rcases hflag : p.1.settings.restoreOnAppExit
      · have hshutdown : (Command.act .shutdown).Ensures p (fun _ q => Untouched p q)
            (Untouched p) := ensures_bind.mpr (shutdown_untouched hflag).of_uncut
        exact absurd hshutdown.exec_snd huntouched
      · exact .shutdown hflag

/-! ## Runs in which nothing is to come back -/

end Service

/-- The settings never bring windows back by themselves. -/
structure Settings.IsPassive (settings : Settings) : Prop where
  /-- The end of full screen leaves them hidden. -/
  exit : settings.restoreOnFullScreenExit = false
  /-- Closing the settings window leaves them hidden. -/
  settingsClosed : settings.restoreOnSettingsClosed = false
  /-- The end of the program leaves them hidden. -/
  appExit : settings.restoreOnAppExit = false

/-- Three flags, which can be read off. -/
theorem Settings.isPassive_iff (settings : Settings) :
    settings.IsPassive ↔ settings.restoreOnFullScreenExit = false ∧
      settings.restoreOnSettingsClosed = false ∧ settings.restoreOnAppExit = false :=
  ⟨fun ⟨h, h', h''⟩ => ⟨h, h', h''⟩, fun ⟨h, h', h''⟩ => ⟨h, h', h''⟩⟩

instance (settings : Settings) : Decidable settings.IsPassive :=
  decidable_of_iff _ settings.isPassive_iff.symm

namespace Service

variable {σ ε : Type} [WindowSystem σ]

/-- Under passive settings only the user may ask for windows. -/
theorem Permitted.eq_restoreManually {p : Service × Workspace (Journaled σ)}
    {exchange : Exchange} {input : Input ε} (h : Permitted p exchange input)
    (hpassive : p.1.settings.IsPassive) : input = .command .restoreManually := by
  cases h with
  | exit x hx _ hflag _ => simp [tickHandlings_settings hx, hpassive.exit] at hflag
  | settingsClosed hflag => simp [hpassive.settingsClosed] at hflag
  | shutdown hflag => simp [hpassive.appExit] at hflag
  | manually => rfl

/-- The settings stay passive in every state of the run. -/
def StaysPassive (apply : ε → σ → σ) (inputs : List (Input ε)) (p : Service × Workspace σ) :
    Prop := ∀ before, before <+: inputs → (run apply before p).1.settings.IsPassive

instance (apply : ε → σ → σ) (inputs : List (Input ε)) (p : Service × Workspace σ) :
    Decidable (StaysPassive apply inputs p) :=
  decidable_of_iff (∀ before ∈ inputs.inits, (run apply before p).1.settings.IsPassive) <| by
    simp only [List.mem_inits]
    rfl

/-- What holds along a run holds along the rest of it. -/
theorem StaysPassive.rest {apply : ε → σ → σ} {input : Input ε} {rest : List (Input ε)}
    {p : Service × Workspace σ} (h : StaysPassive apply (input :: rest) p) :
    StaysPassive apply rest (step apply p input) :=
  fun before hbefore => h (input :: before) (List.cons_prefix_cons.mpr ⟨rfl, hbefore⟩)

/-- While the settings stay passive and the user does not ask for windows, none is asked to come
back. -/
theorem run_passive (apply : ε → σ → σ) {inputs : List (Input ε)}
    {p : Service × Workspace (Journaled σ)}
    (hpassive : StaysPassive (Journaled.apply apply) inputs p)
    (hmanually : .command .restoreManually ∉ inputs) :
    p.2.Silent (run (Journaled.apply apply) inputs p).2 := by
  induction inputs generalizing p with
  | nil => exact Workspace.Silent.isPath.refl p.2
  | cons input rest ih =>
    have hstep : p.2.Silent (step (Journaled.apply apply) p input).2 := by
      constructor
      · cases input with
        | command command =>
          exact (act_conforms Workspace.worksConform_goesOn command).exec_snd p
        | outside event => exact Workspace.GoesOn.isPath.refl p.2
      · intro exchange hmem
        by_contra hback
        have hinput := (step_permitted apply hmem (by simpa using hback)).eq_restoreManually
          (hpassive [] (List.nil_prefix))
        exact hmanually (hinput ▸ List.mem_cons_self)
    exact Workspace.Silent.isPath.trans hstep
      (ih hpassive.rest fun hmem => hmanually (List.mem_cons_of_mem _ hmem))

/-- While the settings stay passive, the end of full screen leaves the list of hidden windows as it
is. -/
theorem runHandlings_passive {apply : ε → σ → σ} {inputs : List (Input ε)}
    {p : Service × Workspace σ} (hpassive : StaysPassive apply inputs p) :
    ∀ x ∈ runHandlings apply inputs p, x.1.isExit →
      ((handle x.1).exec x.2).2.1.minimizer = x.2.1.minimizer := by
  induction inputs generalizing p with
  | nil => simp [runHandlings]
  | cons input rest ih =>
    intro x hx hexit
    simp only [runHandlings, List.mem_append] at hx
    rcases hx with hx | hx
    · have htick : x ∈ tickHandlings p := by
        unfold Input.handlings at hx
        split at hx
        · exact hx
        · simp at hx
      have hoff : x.2.1.settings.restoreOnFullScreenExit = false := by
        rw [tickHandlings_settings htick]
        exact (hpassive [] List.nil_prefix).exit
      rw [handle_exit_off hexit hoff]
    · exact ih hpassive.rest x hx hexit

/-! ## The end -/

/-- A service that has no session, and no window to bring back at the end. -/
structure AtEnd (s : Service) : Prop where
  /-- There is no session. -/
  detector : s.detector = none
  /-- If windows are to be brought back at the end, there is none left. -/
  hidden : s.settings.restoreOnAppExit = true → s.minimizer.hidden = []

/-- After a shutdown, also one that was cut short, there is no session, and no window is left to
bring back. The list is emptied before the first window is called, which is why a cut does not
matter. -/
theorem shutdown_ends (p : Service × Workspace σ) :
    Service.shutdown.Ensures p (fun _ q => AtEnd q.1) fun q => AtEnd q.1 := by
  unfold Service.shutdown
  rw [ensures_bind]
  refine (stop_ensures p).mono (fun _ q hq => ?_) fun _ => False.elim
  rw [ensures_bind, ensures_read]
  have hrestored : ∀ r : Service × Workspace σ, Hides (fun _ l' => l' = []) q r → AtEnd r.1 :=
    fun r hr => ⟨hr.detector.trans hq.detector, fun _ => hr.hidden⟩
  split
  · exact (restoreWindows_hides q).mono (fun _ => hrestored) hrestored
  · rename_i hflag
    exact ⟨hq.detector, fun h => absurd h hflag⟩

/-- A shutdown at the end does nothing: no native call, no notification, no change. -/
theorem shutdown_at_rest {p : Service × Workspace σ} (h : AtEnd p.1) :
    Service.shutdown.exec p = (.ok 0, p) := by
  have hstop : Service.stop.exec p = (.ok (), p) := by
    unfold Service.stop
    rw [exec_bind_of_ok (stopWith_exec_of_none h.detector)]
    rfl
  unfold Service.shutdown
  rw [exec_bind_of_ok hstop]
  rcases hflag : p.1.settings.restoreOnAppExit
  · rw [exec_bind_of_ok (exec_read_of_eq (f := (·.settings.restoreOnAppExit)) hflag)]
    rfl
  · rw [exec_bind_of_ok (exec_read_of_eq (f := (·.settings.restoreOnAppExit)) hflag)]
    have hrestore : Minimizer.restore.exec (p.1.minimizer, p.2) = (.ok 0, (p.1.minimizer, p.2)) :=
      Minimizer.restore_exec_of_nil (congrArg Minimizer.mk (h.hidden hflag))
    refine Ensures.exec_eq (ensures_restoreWindows.mpr ?_)
    rw [ensures_of_ok hrestore]
    exact ⟨rfl, rfl⟩

/-- Windows come back only where the settings permit it, on any window system and whatever it
answers. In every reachable state, what an input writes into the journal of the native calls asks
for a window to come back only where that is permitted. In a run in which all three flags stay off
and the user asks for nothing, no window is asked to come back, and the end of full screen leaves
the list of hidden windows as it is. And after a shutdown a second one answers 0 and changes
nothing, the journal and the notifications included. -/
theorem restores_permitted (settings : Settings) (staleness : Nat) (apply : ε → σ → σ) (system : σ)
    (inputs : List (Input ε)) :
    let start := (withSettings settings, Workspace.unseen staleness { system : Journaled σ })
    let p := run (Journaled.apply apply) inputs start
    (∀ input : Input ε, ∀ exchange ∈ p.2.since (step (Journaled.apply apply) p input).2,
      exchange.bringsBack → Permitted p exchange input) ∧
    (StaysPassive (Journaled.apply apply) inputs start → .command .restoreManually ∉ inputs →
      (∀ exchange ∈ p.2.journal, exchange.bringsBack = false) ∧
        ∀ x ∈ runHandlings (Journaled.apply apply) inputs start, x.1.isExit →
          ((handle x.1).exec x.2).2.1.minimizer = x.2.1.minimizer) ∧
    Service.shutdown.exec (Service.shutdown.exec p).2 = (.ok 0, (Service.shutdown.exec p).2) := by
  intro start p
  refine ⟨fun input exchange hmem hback => step_permitted apply hmem hback,
    fun hpassive hmanually => ⟨?_, runHandlings_passive hpassive⟩,
    shutdown_at_rest (shutdown_ends p).exec_snd⟩
  intro exchange hmem
  have hsilent : start.2.Silent p.2 := run_passive apply hpassive hmanually
  refine hsilent.quiet exchange ?_
  rwa [Workspace.since_eq (List.nil_append _).symm]

/-- A game hides two windows and is closed, the settings window is closed, and the program ends. All
flags are off, and the windows are still hidden. -/
theorem restores_permitted_demo :
    let game := (DesktopWindow.titled 400 "Game").maximizedOver ⟨0, 0, 1920, 1040⟩
    let settings : Settings := { targets := ["game"], restoreOnFullScreenExit := false,
                                 restoreOnSettingsClosed := false, restoreOnAppExit := false }
    let inputs : List (Input Desktop.Event) :=
      [.outside (.addProcess 400 "game.exe"), .outside (.openWindow game), .command .start,
        .command .tick, .outside (.closeWindow ⟨0x1030⟩), .command .tick,
        .command .settingsClosed, .command .shutdown]
    let start := (withSettings settings, Workspace.unseen 0 { system := Desktop.demo })
    let p := run (Journaled.apply Desktop.Event.apply) inputs start
    p.1.minimizer.hidden = [⟨0x1020⟩, ⟨0x1010⟩] ∧
      (runHandlings (Journaled.apply Desktop.Event.apply) inputs start).map (·.1.isExit) =
        [false, true] ∧
      (∀ exchange ∈ p.2.journal, exchange.bringsBack = false) ∧
      Service.shutdown.exec (Service.shutdown.exec p).2 = (.ok 0, (Service.shutdown.exec p).2) := by
  intro game settings inputs
  obtain ⟨-, hpassive, htwice⟩ := restores_permitted settings 0 Desktop.Event.apply Desktop.demo
    inputs
  have hmanually : Input.command .restoreManually ∉ inputs := by simp [inputs]
  exact ⟨by decide +kernel, by decide +kernel, (hpassive (by decide +kernel) hmanually).1, htwice⟩

end Service

end SoloScreen
