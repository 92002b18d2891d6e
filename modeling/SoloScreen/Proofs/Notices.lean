import Mathlib.Algebra.GroupWithZero.Nat
import SoloScreen.Proofs.Bounds
import SoloScreen.Proofs.Ownership

/-!
# The notifications account for the windows

What is published about windows can be checked against the journal of the native calls: as many
windows are said to be minimized, or brought back, as the window system confirmed. A tick may be cut
short, but never between a confirmed request and its publication, since only the question which
monitor a window is on can overflow and every task of the minimizer asks it first.

* `Steady`: no call but this question is cut short. The emulated desktop is steady, also with faults
  injected (`FaultyDesktop.steady`).
* `Workspace.Confirms`: how many requests were confirmed between two states. Each operation of the
  minimizer answers just that number (`Minimizer.minimizeOnMonitor_confirms`, …).
* `Service.Balanced`: what was published is what was confirmed. One input keeps the balance
  (`Service.step_balanced`).
* `Service.notices_account`: the balance in every reachable state.

The number is counted in two different ways. An episode answers with the length of its list, which
was emptied before, and everything else answers with a counter. For both the invariant of the loop
is that the number so far is the number of confirmed requests so far.
-/

namespace SoloScreen

open SoloScreen.Action

/-! ## Confirmed requests -/

/-- The call was a request with a command, and it was confirmed. -/
def Exchange.confirms (command : WindowCommand) : Exchange → Bool
  | ⟨.setState _ asked, .ok (.ok true)⟩ => asked == command
  | _ => false

/-- A question confirms nothing. -/
theorem Exchange.confirms_of_query {exchange : Exchange} (h : exchange.request? = none)
    (command : WindowCommand) : exchange.confirms command = false := by
  unfold confirms
  split
  · simp [request?] at h
  · rfl

/-- A request counts for its own command, if the answer is a confirmation, and for no other. -/
theorem Exchange.confirms_setState (window : WindowHandle) (command other : WindowCommand)
    (answer : Except Overflow (Except Failure Bool)) :
    Exchange.confirms other ⟨.setState window command, answer⟩ =
      (decide (other = command) && decide (answer = .ok (.ok true))) := by
  rcases answer with e | failure | confirmed
  · simp [confirms]
  · simp [confirms]
  · cases confirmed
    · simp [confirms]
    · cases other <;> cases command <;> rfl

namespace Workspace

variable {σ : Type}

/-- How many requests with a command were confirmed. -/
def confirmed (command : WindowCommand) (work : Workspace (Journaled σ)) : Nat :=
  work.journal.countP (·.confirms command)

/-- So many requests with a command were confirmed between two states, and no other request. -/
def Confirms (command : WindowCommand) (n : Nat) (work work' : Workspace (Journaled σ)) : Prop :=
  ∀ other, work'.confirmed other = work.confirmed other + if other = command then n else 0

/-- Nothing happened, and nothing was confirmed. -/
theorem Confirms.refl (command : WindowCommand) (work : Workspace (Journaled σ)) :
    Confirms command 0 work work := by
  intro other
  simp

/-- The numbers of two stretches add up. -/
theorem Confirms.trans {command : WindowCommand} {m n : Nat}
    {work work' work'' : Workspace (Journaled σ)} (h : Confirms command m work work')
    (h' : Confirms command n work' work'') : Confirms command (m + n) work work'' := by
  intro other
  rw [h' other, h other]
  split <;> omega

/-- No request was confirmed. -/
def Unmoved (work work' : Workspace (Journaled σ)) : Prop :=
  ∀ command, work'.confirmed command = work.confirmed command

/-- Two stretches without a confirmed request make one. -/
theorem Unmoved.isPath : IsPath (Unmoved (σ := σ)) where
  refl _ _ := rfl
  trans h h' command := (h' command).trans (h command)

/-- To confirm nothing is to confirm no request, of whatever command. -/
theorem Unmoved.confirms {work work' : Workspace (Journaled σ)} (h : Unmoved work work')
    (command : WindowCommand) : Confirms command 0 work work' := by
  intro other
  rw [h other]
  simp

/-- Questions are written down, but they do not count. -/
theorem Unmoved.of_asked {work work' : Workspace (Journaled σ)} (h : Asked work work') :
    Unmoved work work' := by
  obtain ⟨asked, hjournal, hasked⟩ := h
  intro command
  have hnone : asked.countP (·.confirms command) = 0 := by
    rw [List.countP_eq_zero]
    intro exchange hmem
    simp [Exchange.confirms_of_query (hasked exchange hmem)]
  unfold confirmed
  rw [hjournal, List.countP_append, hnone, Nat.add_zero]

/-- A request that was made counts if it was confirmed. -/
theorem Made.confirms {window : WindowHandle} {command : WindowCommand}
    {answer : Except Overflow (Except Failure Bool)} {work work' : Workspace (Journaled σ)}
    (h : Made ⟨.setState window command, answer⟩ work work') :
    Confirms command (decide (answer = .ok (.ok true))).toNat work work' := by
  intro other
  unfold confirmed
  rw [h.journal, List.countP_append, List.countP_singleton, Exchange.confirms_setState]
  by_cases hother : other = command <;> by_cases hanswer : answer = .ok (.ok true) <;>
    simp [hother, hanswer]

variable [WindowSystem σ]

/-- The queries of the cache confirm nothing. -/
theorem queriesConform_unmoved : QueriesConform (σ := Journaled σ) Unmoved Unmoved :=
  queriesConform_asked.mono Unmoved.isPath.toSelf (fun h => .of_asked h) fun h => .of_asked h

end Workspace

/-! ## Steady window systems -/

/-- No call is cut short but the question which monitor a window is on. -/
def Steady (σ : Type) [WindowSystem σ] : Prop :=
  ∀ call : NativeCall, call.locates = false →
    Conforms (fun _ _ => True) (fun _ _ => False) (WindowSystem.call call : Action σ _)

variable {σ τ : Type} [WindowSystem σ]

/-- Writing the calls down cuts none of them short. -/
theorem Steady.journaled (h : Steady σ) : Steady (Journaled σ) := by
  intro call hcall s
  obtain ⟨answer, t, hexec, -⟩ := (h call hcall s.system).exists_exec
  have hpair : (WindowSystem.call call : Action (Journaled σ) _).exec s =
      (((WindowSystem.call call).exec s.system).1,
        { system := ((WindowSystem.call call).exec s.system).2
          journal := s.journal ++
            [(⟨call, ((WindowSystem.call call).exec s.system).1⟩ : Exchange)] }) := rfl
  rw [hexec] at hpair
  exact (ensures_of_ok hpair).mpr trivial

/-- Nor does having a cache beside the system. -/
theorem Steady.workspace (h : Steady σ) : Steady (Workspace σ) :=
  fun call hcall => Workspace.onSystem_conforms (h call hcall)

/-- Nor does having anything else beside it. -/
theorem Steady.second (h : Steady σ) : Steady (τ × σ) :=
  fun call hcall => .onSecond (h call hcall)

/-- The desktop answers everything, and computes an area only when it is asked where a window is. -/
theorem Desktop.steady : Steady Desktop := by
  intro call hcall desktop
  have hok : (desktop.answer call).1.isOk := by
    cases call with
    | monitorOf window => simp [NativeCall.locates] at hcall
    | enumerate =>
      unfold Desktop.answer
      split <;> rfl
    | _ => rfl
  rcases hanswer : desktop.answer call with ⟨e | answer, after⟩
  · simp [hanswer, Except.isOk, Except.toBool] at hok
  · exact (ensures_of_ok (show (WindowSystem.call call : Action Desktop _).exec desktop = _ from
      hanswer)).mpr trivial

/-- Neither a rule nor the desktop behind the rules cuts a call short. -/
theorem FaultyDesktop.steady : Steady FaultyDesktop := by
  intro call hcall
  have hpath : IsPathTo (fun _ _ : FaultyDesktop => True) fun _ _ => False :=
    ⟨⟨fun _ => trivial, fun _ _ => trivial⟩, fun _ => id⟩
  refine .bind hpath (fun _ => trivial) fun answer => ?_
  split
  · exact .pure hpath _
  · exact fun faulty => ensures_within.mpr (Desktop.steady call hcall faulty.desktop)

/-! ## What the minimizer confirms -/

namespace Minimizer

open Workspace (Confirms Unmoved)

/-- The list stays as it is, and no request was confirmed. -/
def Idles (p q : Minimizer × Workspace (Journaled σ)) : Prop := q.1 = p.1 ∧ Unmoved p.2 q.2

omit [WindowSystem σ] in
/-- Idling composes, and is never cut short. -/
theorem Idles.isPathTo : IsPathTo (Idles (σ := σ)) fun _ _ => False where
  refl p := ⟨rfl, Unmoved.isPath.refl p.2⟩
  trans h h' := ⟨h'.1.trans h.1, Unmoved.isPath.trans h.2 h'.2⟩
  cut _ := False.elim

section steady

variable (h : Steady σ)
include h

/-- A question that does not locate is answered. -/
theorem ask_idles (call : NativeCall) (hquery : call.isQuery) (hcall : call.locates = false) :
    Conforms Idles (fun _ _ => False)
      (WindowSystem.call call : Action (Minimizer × Workspace (Journaled σ)) _) :=
  fun p => ((query_inquired call hquery p).and (h.journaled.workspace.second call hcall p)).mono
    (fun _ _ hq => ⟨hq.1.1, .of_asked hq.1.2.2⟩) fun _ hq => hq.2

/-- What a request of the minimizer answers is whether it was confirmed. -/
theorem request_confirms (window : WindowHandle) (command : WindowCommand)
    (p : Minimizer × Workspace (Journaled σ)) :
    (request window command).Ensures p
      (fun hit q => q.1 = p.1 ∧ Confirms command hit.toNat p.2 q.2) fun _ => False := by
  have hsteady : (request window command).Ensures p (fun _ _ => True) fun _ => False := by
    unfold request
    rw [ensures_bind]
    refine (h.journaled.workspace.second (.setState window command) rfl p).mono
      (fun answer q _ => ?_) fun _ => id
    split <;> trivial
  refine ((request_made window command p).and hsteady).mono (fun hit q hq => ?_) fun _ hq => hq.2
  obtain ⟨⟨hsame, answer, hmade, hhit⟩, -⟩ := hq
  have hdecide : decide (answer = .ok (.ok true)) = hit := by
    cases hit <;> simpa using hhit
  exact ⟨hsame, hdecide ▸ hmade.confirms⟩

/-- An eligible window is asked to minimize, and that may be confirmed. What follows is reached with
one confirmed request or with none, and there is no third way out. -/
theorem ensures_confirming {α : Type} {window : WindowHandle}
    {yes no : Action (Minimizer × Workspace (Journaled σ)) α}
    {p : Minimizer × Workspace (Journaled σ)}
    {good : α → Minimizer × Workspace (Journaled σ) → Prop}
    {cut : Minimizer × Workspace (Journaled σ) → Prop}
    (hyes : ∀ q, q.1 = p.1 → Confirms .minimize 1 p.2 q.2 → yes.Ensures q good cut)
    (hno : ∀ q, q.1 = p.1 → Confirms .minimize 0 p.2 q.2 → no.Ensures q good cut) :
    (do
      if ← isEligible window then
        if ← request window .minimize then yes else no
      else no : Action _ α).Ensures p good cut := by
  rw [ensures_bind]
  refine (isEligible_conforms Idles.isPathTo (ask_idles h) window p).mono
    (fun eligible q hq => ?_) fun _ => False.elim
  split
  · rw [ensures_bind]
    refine (request_confirms h window .minimize q).mono (fun hit r hr => ?_) fun _ => False.elim
    have hconfirms := (hq.2.confirms .minimize).trans hr.2
    cases hit
    · exact hno r (hr.1.trans hq.1) (by simpa using hconfirms)
    · exact hyes r (hr.1.trans hq.1) (by simpa using hconfirms)
  · exact hno q hq.1 (hq.2.confirms .minimize)

/-- The list grows by the windows whose request was confirmed. -/
theorem hide_confirms (window : WindowHandle) (p : Minimizer × Workspace (Journaled σ)) :
    (hide window).Ensures p
      (fun _ q => ∃ n, q.1.hidden.length = p.1.hidden.length + n ∧ Confirms .minimize n p.2 q.2)
      fun _ => False := by
  unfold hide
  refine ensures_confirming h (fun q hsame hq => ?_) fun q hsame hq => ⟨0, by rw [hsame]; rfl, hq⟩
  simp only [ensures_bind, hiddenWindows, setHidden, ensures_get, ensures_pure, ensures_modify]
  exact ⟨1, by rw [hsame, List.length_append, List.length_singleton], hq⟩

/-- During an episode the answer is whether the request was confirmed. -/
theorem hideAgain_confirms (spared : Option ProcessId) (record : WindowRecord)
    (p : Minimizer × Workspace (Journaled σ)) :
    (hideAgain spared record).Ensures p (fun hit q => Confirms .minimize hit.toNat p.2 q.2)
      fun _ => False := by
  unfold hideAgain
  split
  · exact Confirms.refl .minimize p.2
  refine ensures_confirming h (fun q hsame hq => ?_) fun q hsame hq => hq
  -- the window counts whether it is on the list already or not
  simp only [ensures_bind, hiddenWindows, setHidden, ensures_get, ensures_pure]
  split
  · simp only [ensures_bind, ensures_get, ensures_pure, ensures_modify]
    exact hq
  · exact hq

/-- Of a window that is called back too. -/
theorem unhide_confirms (window : WindowHandle) (p : Minimizer × Workspace (Journaled σ)) :
    (unhide window).Ensures p (fun hit q => Confirms .restore hit.toNat p.2 q.2)
      fun _ => False := by
  unfold unhide
  rw [ensures_bind]
  refine (ask_idles h (.isWindow window) rfl rfl p).mono (fun isWindow q hq => ?_) fun _ => id
  split
  · rw [ensures_bind]
    refine (ask_idles h (.visible window) rfl rfl q).mono (fun visible r hr => ?_) fun _ => id
    have hasked := Idles.isPathTo.trans hq hr
    split
    · refine (request_confirms h window .restore r).mono (fun hit t ht => ?_) fun _ => id
      have hconfirms := (hasked.2.confirms .restore).trans ht.2
      rwa [Nat.zero_add] at hconfirms
    · exact hasked.2.confirms .restore
  · exact hq.2.confirms .restore

omit h in
/-- How many windows an answer of the minimizer tells of. -/
def told (answer : Except Failure Nat) : Nat := answer.toOption.getD 0

/-- An answer tells of the windows whose request was confirmed. A search of the snapshot may be cut
short, but no window was touched by then. -/
def Tells (command : WindowCommand) (act : Fallible (Minimizer × Workspace (Journaled σ)) Nat) :
    Prop :=
  ∀ p, act.run.Ensures p (fun answer q => Confirms command (told answer) p.2 q.2)
    fun q => Unmoved p.2 q.2

/-- An episode tells of as many windows as are on its list at the end. -/
theorem minimizeOnMonitor_confirms (monitor : MonitorHandle) (exclude : Option WindowHandle) :
    Tells .minimize (minimizeOnMonitor (σ := Journaled σ) monitor exclude) := by
  intro p
  unfold minimizeOnMonitor
  rw [ensures_run_lift_bind, setHidden, ensures_modify, ensures_run_bind]
  refine (ask_idles h (.monitorInfo monitor) rfl rfl (⟨[]⟩, p.2)).mono (fun info q hq => ?_)
    fun _ => False.elim
  rcases info with failure | info
  · exact hq.2.confirms .minimize
  dsimp only
  rw [ensures_run_lift, ensures_bind, ensures_onSecond]
  refine (Workspace.queriesConform_unmoved.windowsOn monitor exclude q.2).mono
    (fun records work hwork => ?_) fun _ hwork => Unmoved.isPath.trans hq.2 hwork
  have hstart := Unmoved.isPath.trans hq.2 hwork
  rw [ensures_bind]
  -- the list is as long as the number of confirmed requests
  refine (Ensures.each (I := fun _ r => Confirms .minimize r.1.hidden.length p.2 r.2)
    (fun record rest r _ hr => ?_) ?_).mono (fun _ r hr => ?_) fun _ => False.elim
  · refine (hide_confirms h record.handle r).mono (fun _ t ht => ?_) fun _ => id
    obtain ⟨n, hlength, hconfirms⟩ := ht
    rw [hlength]
    exact hr.trans hconfirms
  · show Confirms .minimize q.1.hidden.length p.2 work
    rw [hq.1]
    exact hstart.confirms .minimize
  · unfold hiddenWindows
    simp only [ensures_bind, ensures_get, ensures_pure]
    exact hr

/-- A focus event tells of the hits that it counted. -/
theorem minimizeBeside_confirms (target : WindowHandle) (monitor : MonitorHandle) :
    Tells .minimize (minimizeBeside (σ := Journaled σ) target monitor) := by
  intro p
  unfold minimizeBeside
  rw [ensures_run_bind]
  refine (ask_idles h (.monitorInfo monitor) rfl rfl p).mono (fun info q hq => ?_)
    fun _ => False.elim
  rcases info with failure | info
  · exact hq.2.confirms .minimize
  dsimp only
  rw [ensures_run_lift, ensures_bind]
  refine (ask_idles h (.process target) rfl rfl q).mono (fun owner r hr => ?_) fun _ => False.elim
  have hasked := Idles.isPathTo.trans hq hr
  rw [ensures_bind, ensures_onSecond]
  refine (Workspace.queriesConform_unmoved.windowsOn monitor (some target) r.2).mono
    (fun records work hwork => ?_) fun _ hwork => Unmoved.isPath.trans hasked.2 hwork
  have hstart := (Unmoved.isPath.trans hasked.2 hwork).confirms .minimize
  refine (Ensures.count (I := fun k _ t => Confirms .minimize k p.2 t.2) (n := 0)
    (fun k record rest t _ ht => ?_) hstart).mono (fun hits t ht => ?_) fun _ => False.elim
  · exact (hideAgain_confirms h owner.toOption record t).mono (fun _ _ hu => ht.trans hu)
      fun _ => id
  · rwa [Nat.zero_add] at ht

/-- A restore is never cut short. -/
theorem restore_confirms (p : Minimizer × Workspace (Journaled σ)) :
    restore.Ensures p (fun n q => Confirms .restore n p.2 q.2) fun _ => False := by
  unfold restore hiddenWindows setHidden
  simp only [ensures_bind, ensures_get, ensures_pure, ensures_modify]
  refine (Ensures.count (I := fun k _ q => Confirms .restore k p.2 q.2) (n := 0)
    (fun k window rest q _ hq => ?_) (Confirms.refl .restore p.2)).mono (fun hits q hq => ?_)
    fun _ => id
  · exact (unhide_confirms h window q).mono (fun _ _ hr => hq.trans hr) fun _ => id
  · rwa [Nat.zero_add] at hq

end steady

end Minimizer

/-! ## What is published -/

/-- The notification that so many windows were moved by a command. -/
def WindowCommand.notice (n : Nat) : WindowCommand → Notification
  | .minimize => .windowsMinimized n
  | .restore => .windowsRestored n

/-- How many windows a notification says were moved by a command. -/
def Notification.moved (command : WindowCommand) : Notification → Nat
  | .windowsMinimized n => if command = .minimize then n else 0
  | .windowsRestored n => if command = .restore then n else 0
  | _ => 0

/-- A notification of a command counts for this command. -/
theorem WindowCommand.moved_notice (n : Nat) (command other : WindowCommand) :
    (command.notice n).moved other = if other = command then n else 0 := by
  cases command <;> rfl

/-- A notification about windows is none about the status. -/
@[simp] theorem WindowCommand.notice_ne_monitoringChanged (n : Nat) (command : WindowCommand)
    (monitoring : Bool) : command.notice n ≠ .monitoringChanged monitoring := by
  cases command <;> simp [notice]

/-- And none about an error. -/
@[simp] theorem WindowCommand.notice_ne_errorOccurred (n : Nat) (command : WindowCommand)
    (text : String) : command.notice n ≠ .errorOccurred text := by
  cases command <;> simp [notice]

/-- The command that the minimizer gives about an event. -/
def DetectorEvent.command (event : DetectorEvent) : WindowCommand :=
  if event.isExit then .restore else .minimize

/-- What is published about an event is about the command that the minimizer gives on it. -/
theorem DetectorEvent.notice_eq (event : DetectorEvent) (n : Nat) :
    event.notice n = event.command.notice n := by
  rcases event with sighting | sighting
  · rcases hfull : sighting.fullScreen <;>
      simp [notice, command, isExit, hfull, WindowCommand.notice]
  · rfl

namespace Service

open Workspace (Confirms Unmoved)

/-- How many windows were moved by a command, by what was published. -/
def publishedMoves (command : WindowCommand) (channel : Channel Notification) : Nat :=
  (channel.sent.map (·.moved command)).sum

/-- One more notification adds what it tells of. -/
@[simp] theorem publishedMoves_send (command : WindowCommand) (notification : Notification)
    (channel : Channel Notification) :
    publishedMoves command (channel.send notification) =
      publishedMoves command channel + notification.moved command := by
  simp [publishedMoves, Channel.send]

/-- As many windows are said to be moved as requests were confirmed, and no notification tells of
none. -/
structure Balanced (p : Service × Workspace (Journaled σ)) : Prop where
  /-- For each command, what is published adds up to what was confirmed. -/
  published : ∀ command, publishedMoves command p.1.channel = p.2.confirmed command
  /-- Nothing is published about no window. -/
  positive : ∀ command, WindowCommand.notice 0 command ∉ p.1.channel.sent

omit [WindowSystem σ] in
/-- A notification that tells of what was confirmed in the meantime keeps the balance. -/
theorem Balanced.send {p q : Service × Workspace (Journaled σ)} (hp : Balanced p)
    {notification : Notification} (hchannel : q.1.channel = p.1.channel.send notification)
    (hmoved : ∀ command, q.2.confirmed command =
      p.2.confirmed command + notification.moved command)
    (hpositive : ∀ command, WindowCommand.notice 0 command ≠ notification) : Balanced q where
  published command := by
    rw [hchannel, publishedMoves_send, hp.published command, hmoved command]
  positive command := by
    rw [hchannel]
    simpa [Channel.send, hp.positive command] using hpositive command

omit [WindowSystem σ] in
/-- Nothing was published and nothing confirmed. -/
theorem Balanced.same {p q : Service × Workspace (Journaled σ)} (hp : Balanced p)
    (hchannel : q.1.channel = p.1.channel) (hunmoved : Unmoved p.2 q.2) : Balanced q where
  published command := by rw [hchannel, hp.published command, hunmoved command]
  positive command := by
    rw [hchannel]
    exact hp.positive command

omit [WindowSystem σ] in
/-- A notification about something else keeps the balance. -/
theorem Balanced.quiet {p q : Service × Workspace (Journaled σ)} (hp : Balanced p)
    {notification : Notification} (hchannel : q.1.channel = p.1.channel.send notification)
    (hunmoved : Unmoved p.2 q.2)
    (hquiet : ∀ (command : WindowCommand) n, command.notice n ≠ notification) : Balanced q := by
  refine hp.send hchannel (fun command => ?_) fun command => hquiet command 0
  rw [hunmoved command]
  rcases notification with monitoring | n | n | text
  · rfl
  · exact absurd rfl (hquiet .minimize n)
  · exact absurd rfl (hquiet .restore n)
  · rfl

omit [WindowSystem σ] in
/-- The answer of the minimizer is published unless it is 0. -/
theorem Balanced.told {p q : Service × Workspace (Journaled σ)} (hp : Balanced p)
    {command : WindowCommand} {n : Nat} (hconfirms : Confirms command n p.2 q.2)
    (hchannel : q.1.channel =
      if 0 < n then p.1.channel.send (command.notice n) else p.1.channel) : Balanced q := by
  rcases Nat.eq_zero_or_pos n with rfl | hn
  · refine hp.same hchannel fun other => ?_
    have hother := hconfirms other
    rwa [ite_self, Nat.add_zero] at hother
  · rw [if_pos hn] at hchannel
    refine hp.send hchannel (fun other => ?_) fun other h => ?_
    · rw [hconfirms other, WindowCommand.moved_notice]
    · cases command <;> cases other <;> simp_all [WindowCommand.notice]

section steady

variable (h : Steady σ)
include h

/-- What the minimizer is asked to do about an event tells of what was confirmed. -/
theorem task_tells (settings : Settings) (event : DetectorEvent) :
    Minimizer.Tells event.command (task (σ := Journaled σ) settings event) := by
  have hnothing : ∀ (command : WindowCommand) (failure : Failure),
      Minimizer.Tells command (throw failure : Fallible (Minimizer × Workspace (Journaled σ)) _) :=
    fun command failure p => Confirms.refl command p.2
  rcases event with ⟨fullScreen, window, monitor, process, title⟩ |
    ⟨fullScreen, window, monitor, process, title⟩
  · rcases fullScreen
    · show Minimizer.Tells .restore (if settings.restoreOnFullScreenExit then
        ExceptT.lift Minimizer.restore else pure 0 : Fallible _ _)
      intro p
      split
      · exact ensures_run_lift.mpr (Minimizer.restore_confirms h p).of_uncut
      · exact Confirms.refl .restore p.2
    · rcases monitor with _ | monitor
      · exact hnothing .minimize _
      · exact Minimizer.minimizeOnMonitor_confirms h monitor window
  · rcases window with _ | window
    · exact hnothing .minimize _
    rcases monitor with _ | monitor
    · exact hnothing .minimize _
    · exact Minimizer.minimizeBeside_confirms h window monitor

/-- Handling an event keeps the balance. A failure is published as an error, and then nothing was
confirmed; a cut publishes nothing, and nothing was confirmed either. -/
theorem handle_balanced (event : DetectorEvent) :
    Follows (fun p q : Service × Workspace (Journaled σ) => Balanced p → Balanced q)
      (handle event) := by
  intro p
  rw [ensures_handle]
  refine (task_tells h p.1.settings event (p.1.minimizer, p.2)).mono (fun answer q hq hp => ?_)
    fun q hq hp => hp.same rfl hq
  rcases answer with failure | n
  · refine hp.quiet rfl (fun other => ?_) (by simp)
    simpa [Minimizer.told, Except.toOption] using hq other
  · refine hp.told hq ?_
    show (if 0 < n then p.1.channel.send (event.notice n) else p.1.channel) = _
    rw [event.notice_eq]
    rfl

/-- Bringing windows back by hand, or at an end, keeps the balance. -/
theorem restoreWindows_balanced :
    Follows (fun p q : Service × Workspace (Journaled σ) => Balanced p → Balanced q)
      restoreWindows :=
  fun p => ensures_restoreWindows.mpr ((Minimizer.restore_confirms h (p.1.minimizer, p.2)).mono
    (fun _ _ hq hp => hp.told hq rfl) fun _ => False.elim)

/-- A round may be cut short; what was confirmed by then was published. -/
theorem round_balanced :
    Follows (fun p q : Service × Workspace (Journaled σ) => Balanced p → Balanced q) round := by
  intro p
  unfold round
  rw [ensures_bind, ensures_read]
  rcases p.1.detector with _ | d
  · exact id
  dsimp only
  rw [ensures_bind, ensures_onDetector]
  refine (Detector.tick_conforms Workspace.queriesConform_unmoved (d, p.2)).mono
    (fun events q hq => ?_) fun q hq hp => hp.same rfl hq
  exact (Follows.each (IsPath.keeps Balanced) events (handle_balanced h) _).mono
    (fun _ r hr hp => hr (hp.same rfl hq)) fun r hr hp => hr (hp.same rfl hq)

end steady

/-! ## Commands -/

omit [WindowSystem σ] in
/-- Where the window system stays as it is, nothing is confirmed. -/
theorem SameDesk.unmoved {work work' : Workspace (Journaled σ)} (h : SameDesk work work') :
    Unmoved work work' := by
  intro command
  unfold Workspace.confirmed Workspace.journal
  rw [h.1]

omit [WindowSystem σ] in
/-- A start makes no native call, and publishes the status at most. -/
theorem startWith_balanced (episode : Option (WindowHandle × MonitorHandle)) :
    Follows (fun p q : Service × Workspace (Journaled σ) => Balanced p → Balanced q)
      (startWith episode) := by
  intro p
  rcases hd : p.1.detector with _ | d
  · rw [ensures_of_ok (startWith_exec_of_none hd episode)]
    exact fun hp => hp.quiet rfl (fun _ => rfl) (by simp)
  · rw [ensures_of_ok (startWith_exec_of_some hd episode)]
    exact id

omit [WindowSystem σ] in
/-- And so does a stop. -/
theorem stop_balanced :
    Follows (fun p q : Service × Workspace (Journaled σ) => Balanced p → Balanced q)
      Service.stop := by
  intro p
  unfold Service.stop
  rw [ensures_bind]
  rcases hd : p.1.detector with _ | d
  · rw [ensures_of_ok (stopWith_exec_of_none hd)]
    exact id
  · rw [ensures_of_ok (stopWith_exec_of_some hd)]
    exact fun hp => hp.quiet rfl (fun _ => rfl) (by simp)

omit [WindowSystem σ] in
/-- An update publishes an error, or an end and a start, or nothing, and makes no native call. -/
theorem Updated.balanced {settings : Settings} {p q : Service × Workspace (Journaled σ)}
    {r : Except Failure Unit} (hupdated : Updated settings p.1 q.1 r) (hdesk : SameDesk p.2 q.2)
    (hp : Balanced p) : Balanced q := by
  cases hupdated with
  | rejected failure text hcheck hs =>
    exact hp.quiet (by rw [hs]) hdesk.unmoved (by simp)
  | accepted hcheck hnone hsome =>
    rcases hd : p.1.detector with _ | d
    · exact hp.same (by rw [hnone hd]) hdesk.unmoved
    cases hsome d hd with
    | inPlace timer hrestart hs => exact hp.same (by rw [hs]) hdesk.unmoved
    | restarted timer hrestart hs =>
      have hstopped : Balanced ({ p.1 with
          channel := p.1.channel.send (.monitoringChanged false) }, p.2) :=
        hp.quiet rfl (fun _ => rfl) (by simp)
      exact hstopped.quiet (by rw [hs]) hdesk.unmoved (by simp)

section steady

variable (h : Steady σ)
include h

/-- Every command keeps the balance, also if it is cut short. -/
theorem act_balanced (command : Command) :
    Follows (fun p q : Service × Workspace (Journaled σ) => Balanced p → Balanced q)
      command.act := by
  have hpath : IsPath fun p q : Service × Workspace (Journaled σ) => Balanced p → Balanced q :=
    .keeps Balanced
  cases command with
  | start => exact startWith_balanced none
  | stop => exact stop_balanced
  | update settings =>
    exact .map _ fun p => ((updateSettings_ensures settings p).mono
      (fun _ _ hq hp => hq.2.balanced hq.1 hp) fun _ => False.elim)
  | tick =>
    intro p
    have hround : round.Ensures p (fun _ q => Balanced p → Balanced q)
        fun q => Balanced p → Balanced q := round_balanced h p
    exact (poll_ensures hround fun q d loop clock hq _ hp =>
      (hq hp).same rfl fun _ => rfl).of_uncut
  | restoreManually => exact .map _ (restoreWindows_balanced h)
  | settingsClosed =>
    refine .map _ (.bind hpath (fun p => hpath.refl p) fun flag => ?_)
    split
    · exact restoreWindows_balanced h
    · exact .pure hpath _
  | shutdown =>
    refine .map _ (.bind hpath stop_balanced fun _ => ?_)
    refine .bind hpath (fun p => hpath.refl p) fun flag => ?_
    split
    · exact restoreWindows_balanced h
    · exact .pure hpath _

/-- One input keeps the balance. What the user does outside is not in the journal. -/
theorem step_balanced {ε : Type} (apply : ε → σ → σ) {p : Service × Workspace (Journaled σ)}
    (hp : Balanced p) (input : Input ε) : Balanced (step (Journaled.apply apply) p input) := by
  cases input with
  | command command => exact (act_balanced h command).exec_snd p hp
  | outside event => exact hp.same rfl fun _ => rfl

/-- A run keeps the balance. -/
theorem run_balanced {ε : Type} (apply : ε → σ → σ) {p : Service × Workspace (Journaled σ)}
    (hp : Balanced p) (inputs : List (Input ε)) :
    Balanced (run (Journaled.apply apply) inputs p) := by
  induction inputs generalizing p with
  | nil => exact hp
  | cons input rest ih => exact ih (step_balanced h apply hp input)

end steady

/-- The notifications account for every window change. On a window system that cuts no call short
but the question which monitor a window is on, and whatever it answers: in every reachable state,
the published numbers of minimized windows add up to the number of confirmed requests to minimize,
the published numbers of restored windows to the number of confirmed requests to restore, and no
notification tells of no window. -/
theorem notices_account {ε : Type} (hsteady : Steady σ) (settings : Settings) (staleness : Nat)
    (apply : ε → σ → σ) (system : σ) (inputs : List (Input ε)) :
    let p := run (Journaled.apply apply) inputs
      (withSettings settings, Workspace.unseen staleness { system : Journaled σ })
    publishedMoves .minimize p.1.channel = p.2.confirmed .minimize ∧
      publishedMoves .restore p.1.channel = p.2.confirmed .restore ∧
      .windowsMinimized 0 ∉ p.1.channel.sent ∧ .windowsRestored 0 ∉ p.1.channel.sent := by
  intro p
  have hstart : Balanced (withSettings settings,
      Workspace.unseen staleness { system : Journaled σ }) :=
    ⟨fun _ => rfl, fun _ => List.not_mem_nil⟩
  have hp : Balanced p := run_balanced hsteady apply hstart inputs
  exact ⟨hp.published .minimize, hp.published .restore, hp.positive .minimize,
    hp.positive .restore⟩

/-- A game hides one window, and the request for another one is not confirmed. The focus goes to the
game, and the other window is hidden as well. Both are brought back, and then a window far away cuts
a tick short. -/
theorem notices_account_demo :
    let game := (DesktopWindow.titled 400 "Game").maximizedOver ⟨0, 0, 1920, 1040⟩
    let far := { DesktopWindow.titled 200 "Far away" with
      bounds := ⟨-2000000000, 0, -1999999000, 500⟩ }
    let inputs : List (Input FaultyDesktop.Event) :=
      [.outside (.onDesktop (.addProcess 400 "game.exe")), .outside (.onDesktop (.openWindow game)),
        .outside (.addRule ⟨.setState, some 0x1010, 0, some 1, .ok false⟩),
        .command .start, .command .tick, .outside (.onDesktop (.setForeground (some ⟨0x1030⟩))),
        .command .tick, .command .restoreManually,
        .outside (.onDesktop (.addMonitor ⟨⟨2000000000, 0, 2000001920, 1080⟩,
          ⟨2000000000, 0, 2000001920, 1080⟩⟩)),
        .outside (.onDesktop (.openWindow far)), .command .tick]
    let p := run (Journaled.apply FaultyDesktop.Event.apply) inputs
      (withSettings { targets := ["game"] },
        Workspace.unseen 0 { system := ({ desktop := Desktop.demo } : FaultyDesktop) })
    Steady FaultyDesktop ∧
      p.1.channel.sent = [.monitoringChanged true, .windowsMinimized 1, .windowsMinimized 1,
        .windowsRestored 2] ∧
      p.1.detector.any (·.isRunning) = false ∧
      publishedMoves .minimize p.1.channel = p.2.confirmed .minimize ∧
      publishedMoves .restore p.1.channel = p.2.confirmed .restore ∧
      .windowsMinimized 0 ∉ p.1.channel.sent ∧ .windowsRestored 0 ∉ p.1.channel.sent := by
  intro game far inputs
  exact ⟨FaultyDesktop.steady, by decide +kernel, by decide +kernel,
    notices_account FaultyDesktop.steady { targets := ["game"] } 0 FaultyDesktop.Event.apply
      { desktop := Desktop.demo } inputs⟩

end Service

end SoloScreen
