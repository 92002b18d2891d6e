import SoloScreen.Proofs.DesktopQueries
import SoloScreen.Proofs.Generations

/-!
# Passes without change

If no answer changes during a pass, then the windows it installs are the records of the ordinary
windows that answer, in the order in which they were listed (`Workspace.refresh_installs`). That the
answers did not change is read off the log: everything asked during the pass was answered as the
same `Answers` have it (`Inquiry.agrees`). Names that are known from earlier passes count as
answers. None of them is empty, whatever happened to the cache before (`Workspace.run_named`).

An emulated desktop does not change during a pass (`Workspace.refresh_agrees`). What it answers
about one window does not depend on the others, so a window that fails is missing and no other
(`Desktop.failWindow_record?`).

The agreement is a condition on the end of a pass, and it is carried backwards through the pass: if
everything up to the end was answered as given, then so was everything up to the middle, and the
next question too (`Workspace.Asks.agreed`). A pass that is cut short is never in agreement, since
the cut is written down as an answer that is none.
-/

namespace SoloScreen

open SoloScreen.Action

/-! ## Answers in the log -/

/-- A question was answered as given, the clock could be read. -/
def Inquiry.agrees (answers : Answers) : Inquiry → Prop
  | .call exchange => exchange.answer = .ok (answers exchange.call)
  | .clock reading => reading.isOk = true

namespace Workspace

section log

variable {σ : Type} {answers : Answers} {start work work' : Workspace (Logged σ)}

/-- Since the first state, everything was answered as given. -/
def Agreed (answers : Answers) (start work : Workspace (Logged σ)) : Prop :=
  ∀ inquiry ∈ asked start work, inquiry.agrees answers

/-- The log only grows, so a state after the first one stays after it. -/
theorem Asks.later {inquiry : Inquiry} (h : Asks inquiry work work')
    (hlater : start.log.length ≤ work.log.length) : start.log.length ≤ work'.log.length := by
  rw [h.log, List.length_append]
  omega

/-- Everything was answered as given if the earlier part was, and the last question unless it came
before the first state. -/
theorem Asks.agreed_iff {inquiry : Inquiry} (h : Asks inquiry work work') :
    Agreed answers start work' ↔ Agreed answers start work ∧
      ∀ other ∈ [inquiry].drop (start.log.length - work.log.length), other.agrees answers := by
  unfold Agreed asked
  rw [h.log, List.drop_append]
  exact List.forall_mem_append

/-- One more question that is answered as given keeps the agreement. -/
theorem Agreed.ask {inquiry : Inquiry} (hagreed : Agreed answers start work)
    (h : Asks inquiry work work') (hinquiry : inquiry.agrees answers) :
    Agreed answers start work' := by
  refine h.agreed_iff.mpr ⟨hagreed, fun other hother => ?_⟩
  rwa [List.mem_singleton.mp (List.mem_of_mem_drop hother)]

/-- One more question was answered as given, and the earlier ones too. -/
theorem Asks.agreed {inquiry : Inquiry} (h : Asks inquiry work work')
    (hagreed : Agreed answers start work') : Agreed answers start work ∧
      (start.log.length ≤ work.log.length → inquiry.agrees answers) := by
  obtain ⟨hearlier, hlast⟩ := h.agreed_iff.mp hagreed
  refine ⟨hearlier, fun hlater => ?_⟩
  rw [Nat.sub_eq_zero_of_le hlater, List.drop_zero] at hlast
  exact hlast inquiry List.mem_cons_self

variable [WindowSystem σ]

/-- The log traces the answers: from an agreement at the end it can be told what each question was
answered with. -/
theorem traces_agreed (answers : Answers) (start : Workspace (Logged σ)) :
    answers.Traces (Agreed answers start) fun work => start.log.length ≤ work.log.length where
  call call work _ := by
    refine (call_asks call work).mono (fun answer work' hasks => ?_) fun work' hcut hagreed' => ?_
    · refine ⟨hasks.cache, fun hagreed' => ?_⟩
      obtain ⟨hagreed, hanswer⟩ := hasks.agreed hagreed'
      exact ⟨hagreed, fun hlater => ⟨hasks.later hlater, Except.ok.inj (hanswer hlater)⟩⟩
    · obtain ⟨e, hasks⟩ := hcut
      obtain ⟨hagreed, hanswer⟩ := hasks.agreed hagreed'
      refine ⟨hagreed, fun hlater => ?_⟩
      cases hanswer hlater
  before _ _ h := h
  after _ _ h := h

/-- A pass without change installs the records that the answers make. -/
theorem refresh_agreed {handles : List WindowHandle} (hlisted : answers .enumerate = .ok handles)
    (work : Workspace (Logged σ)) :
    (refresh : Action (Workspace (Logged σ)) Unit).Ensures work
      (fun _ work' => Agreed answers work work' → ∃ capturedAt,
        work'.cache.lastRefresh = some capturedAt ∧ work'.cache.snapshot.windows =
          handles.filterMap (answers.record? work.cache.processNames capturedAt))
      fun work' => ¬ Agreed answers work work' := by
  have hstart : work.log.length ≤ work.log.length := Nat.le_refl _
  unfold refresh
  rw [ensures_bind]
  refine (call_asks .enumerate work).mono (fun answer listed hlist => ?_) fun _ hcut h => ?_
  rotate_left
  · obtain ⟨e, hlist⟩ := hcut
    cases (hlist.agreed h).2 hstart
  have hanswer : Agreed answers work listed → answer = .ok handles := fun h =>
    (Except.ok.inj ((hlist.agreed h).2 hstart)).trans hlisted
  rcases answer with failure | found
  · intro h
    cases hanswer h
  dsimp only
  rw [ensures_bind]
  refine (readClock_asks listed).mono (fun capturedAt timed hclock => ?_) fun _ hcut h => ?_
  rotate_left
  · obtain ⟨e, hclock⟩ := hcut
    cases (hclock.agreed h).2 (hlist.later hstart)
  have hcache : timed.cache = work.cache := hclock.cache.trans hlist.cache
  have hrecalls : timed.Recalls answers work.cache.processNames := by
    intro process
    rw [hcache]
  have hlater := hclock.later (hlist.later hstart)
  rw [ensures_bind]
  refine (collect_yields (traces_agreed answers work) work.cache.processNames capturedAt found
    timed).mono (fun records passed hpass => ?_) fun _ hcut h => ?_
  · rw [modifyCache, ensures_modify]
    intro h
    obtain ⟨htimed, hrecords⟩ := hpass h
    obtain rfl := Except.ok.inj (hanswer (hclock.agreed htimed).1)
    exact ⟨capturedAt, rfl, (hrecords ⟨hlater, hrecalls⟩).2⟩
  · exact (hcut h).2 ⟨hlater, hrecalls⟩

end log

/-! ## What a cache keeps -/

/-- The queries keep a property of the cache. -/
structure CacheKeeps (J : SnapshotCache → Prop) : Prop where
  /-- To remember the name of a program keeps it. -/
  remember : ∀ cache process path, ProcessName.ofImagePath path ≠ "" → J cache →
    J (cache.remember process (ProcessName.ofImagePath path))
  /-- To install the records of a pass keeps it. -/
  install : ∀ cache capturedAt windows, (∀ record ∈ windows, IsOrdinary capturedAt record) →
    J cache → J (cache.install capturedAt windows)

/-- A relation that holds along the queries holds along the operations if also along clearing. -/
theorem QueriesConform.act {σ : Type} [WindowSystem σ] {R C : Workspace σ → Workspace σ → Prop}
    (h : QueriesConform R C) (hclear : Conforms R C clearCache) (op : Operation) :
    Conforms R C op.act := by
  have hforget {α : Type} {query : Action (Workspace σ) α} (hquery : Conforms R C query) :
      Conforms R C (do let _ ← query) := .bind h.path hquery fun _ => .pure h.path _
  cases op with
  | snapshot => exact hforget h.snapshot
  | windows => exact hforget h.windows
  | windowsOn monitor exclude => exact hforget (h.windowsOn monitor exclude)
  | windowsOf name =>
    refine hforget ?_
    unfold Workspace.windowsOf
    split
    · exact .pure h.path _
    · exact .bind h.path h.windows fun _ => .pure h.path _
  | findFullScreen targets => exact hforget (h.findFullScreen targets)
  | ownerName window => exact hforget (h.ownerName? window)
  | processNames => exact hforget h.processNames
  | refresh => exact h.refresh
  | clear => exact hclear

section keeps

variable {σ ε : Type} [WindowSystem σ] {J : SnapshotCache → Prop} (h : CacheKeeps J)
include h

/-- Whatever is kept by these two, which are all that writes to the cache, is kept by every
query. -/
theorem CacheKeeps.queriesConform : QueriesConform (σ := σ)
    (fun work work' => J work.cache → J work'.cache)
    fun work work' => J work.cache → J work'.cache := by
  have hpath := (IsPath.keeps fun work : Workspace σ => J work.cache).toSelf
  have hcall (call : NativeCall) : Follows
      (fun work work' : Workspace σ => J work.cache → J work'.cache) (WindowSystem.call call) :=
    (call_sameCache call).mono fun _ _ hcache hkept => by rwa [hcache]
  have hclock : Follows (fun work work' : Workspace σ => J work.cache → J work'.cache)
      WindowSystem.readClock := fun _ => .of_exec_snd id
  have hname (process : ProcessId) : Follows
      (fun work work' : Workspace σ => J work.cache → J work'.cache) (processName? process) :=
    processName?_conforms hpath (fun process => hcall (.imagePath process))
      (fun process path hpath _ => h.remember _ process path hpath) process
  exact ⟨hpath, fun call _ => hcall call, hclock, hname, refresh_conforms hpath (hcall .enumerate)
    (fun call _ => hcall call) hclock hname
      fun capturedAt windows hwindows _ => h.install _ capturedAt windows hwindows⟩

/-- What is true of empty caches and kept by the queries is true in every state of a run. To clear
the cache makes it empty, so that needs no condition of its own. -/
theorem CacheKeeps.run (hempty : ∀ staleness, J { staleness }) (staleness : Nat) (system : σ)
    (apply : ε → σ → σ) (inputs : List (Input ε)) :
    J (run apply inputs (.unseen staleness { system })).cache := by
  induction inputs using List.reverseRecOn with
  | nil => exact hempty staleness
  | append_singleton inputs input ih =>
    rw [run_concat]
    cases input with
    | outside event => exact ih
    | operation op => exact (h.queriesConform.act (fun _ _ => hempty _) op).exec_snd _ ih

end keeps

/-! ## Known names -/

/-- No name that is known is empty. -/
def Named {σ : Type} (work : Workspace σ) : Prop :=
  ∀ process, work.cache.processNames.find? process ≠ some ""

section named

variable {σ : Type}

/-- With such names no process has an empty one. -/
theorem Named.name?_ne {work : Workspace σ} (h : work.Named) (answers : Answers)
    (process : ProcessId) : answers.name? work.cache.processNames process ≠ some "" := by
  unfold Answers.name?
  rcases hknown : work.cache.processNames.find? process with _ | name
  · rw [Option.none_or]
    unfold Answers.programName
    split
    · simp
    · split
      · simp
      · simpa
  · rw [Option.some_or, ← hknown]
    exact h process

variable [WindowSystem σ]

/-- Whatever happened to a cache, it knows names of programs only. -/
theorem run_knowsOnly {ε : Type} (admitted : String → Prop)
    (hadmitted : ∀ path, ProcessName.ofImagePath path ≠ "" →
      admitted (ProcessName.ofImagePath path))
    (staleness : Nat) (system : σ) (apply : ε → σ → σ) (inputs : List (Input ε))
    {process : ProcessId} {name : String}
    (hname : (run apply inputs (.unseen staleness { system })).Knows process name) :
    admitted name := by
  refine CacheKeeps.run (J := fun cache => ∀ process name,
    cache.processNames.find? process = some name → admitted name) ⟨?_, ?_⟩ (by simp) staleness
      system apply inputs process name hname
  · intro cache process path hpath h other found hfound
    rw [SnapshotCache.find?_remember] at hfound
    split at hfound
    · rw [← Option.some.inj hfound]
      exact hadmitted path hpath
    · exact h other found hfound
  · intro cache capturedAt windows _ h process name hname
    exact h process name (SnapshotCache.find?_of_install hname)

/-- The names it knows are not empty. -/
theorem run_named {ε : Type} (staleness : Nat) (system : σ) (apply : ε → σ → σ)
    (inputs : List (Input ε)) : (run apply inputs (.unseen staleness { system })).Named :=
  fun _ hempty => run_knowsOnly (· ≠ "") (fun _ h => h) staleness system apply inputs hempty rfl

end named

end Workspace

/-! ## Failing windows -/

namespace Desktop

variable {desktop : Desktop}

/-- The window that fails answers with the failure, and the others answer as before. -/
theorem window_failWindow (window other : WindowHandle) (desktop : Desktop) :
    (desktop.failWindow window).window other =
      if other = window then .error (.platform ("эмулированный сбой окна " ++ window.display))
      else desktop.window other := by
  unfold Desktop.window failWindow find?
  by_cases hother : other = window
  · simp [hother]
  · simp [hother]

/-- Where another window is does not depend on the one that fails. -/
theorem monitorOf_failWindow {window other : WindowHandle} (hother : other ≠ window) :
    (desktop.failWindow window).monitorOf other = desktop.monitorOf other := by
  unfold monitorOf
  rw [window_failWindow, if_neg hother]
  rfl

/-- A window that fails is not located at all, so no area overflows because of it. -/
theorem Fits.failWindow (h : desktop.Fits) (window : WindowHandle) :
    (desktop.failWindow window).Fits := by
  intro other e
  by_cases hother : other = window
  · unfold monitorOf
    rw [window_failWindow, if_pos hother]
    simp
  · rw [monitorOf_failWindow hother]
    exact h other e

/-- The answers about the other windows are as before. -/
theorem answers_failWindow {window other : WindowHandle} (hother : other ≠ window)
    {call : NativeCall}
    (hcall : Answers.describes other call) :
    (desktop.failWindow window).answers call = desktop.answers call := by
  have hwindow : (desktop.failWindow window).window other = desktop.window other := by
    rw [window_failWindow, if_neg hother]
  have hanswer : ((desktop.failWindow window).answer call).1 = (desktop.answer call).1 := by
    cases call with
    | imagePath process => rfl
    | monitorOf asked =>
      obtain rfl : asked = other := hcall
      exact monitorOf_failWindow hother
    | visible asked | windowClass asked | title asked | toolWindow asked | process asked
    | placement asked | bounds asked =>
      obtain rfl : asked = other := hcall
      simp only [answer, hwindow]
    | _ => exact hcall.elim
  unfold answers
  rw [hanswer]

/-- A failing window has no record; the records of the other windows are as before. -/
theorem failWindow_record? (names : Table ProcessId String) (capturedAt : Nat)
    (window other : WindowHandle) (desktop : Desktop) :
    (desktop.failWindow window).answers.record? names capturedAt other =
      if other = window then none else desktop.answers.record? names capturedAt other := by
  by_cases hother : other = window
  · have hvisible : (desktop.failWindow window).answers (.visible other) = false := by
      simp [answers, answer, window_failWindow, hother]
    rw [if_pos hother]
    unfold Answers.record? Answers.inspect
    rw [hvisible]
    rfl
  · rw [if_neg hother]
    exact Answers.record?_agree fun call => answers_failWindow hother

/-- Of the records made of the answers, that of the failing window is missing and no other. -/
theorem failWindow_records (names : Table ProcessId String) (capturedAt : Nat)
    (window : WindowHandle) (desktop : Desktop) (handles : List WindowHandle) :
    handles.filterMap ((desktop.failWindow window).answers.record? names capturedAt) =
      (handles.filterMap (desktop.answers.record? names capturedAt)).filter
        (·.handle ≠ window) := by
  rw [List.filter_filterMap]
  congr 1
  funext other
  rw [failWindow_record?]
  rcases hrecord : desktop.answers.record? names capturedAt other with _ | record
  · simp
  · have hhandle : record.handle = other := (Answers.record?_eq_some_iff.mp hrecord).handle
    by_cases hother : other = window <;> simp [Option.filter, hhandle, hother]

end Desktop

namespace Workspace

/-! ## Passes over an emulated desktop -/

/-- A pass after a window came to fail installs the same records but that of the window. -/
theorem refresh_failWindow (window : WindowHandle) {work : Workspace Desktop}
    (henumerates : work.system.enumerationFails = false) (hfits : work.system.Fits) :
    let failed := outside Desktop.Event.apply (.failWindow window) work
    (refresh.exec work).1 = .ok () ∧ (refresh.exec failed).1 = .ok () ∧
      (refresh.exec failed).2.cache.snapshot.windows =
        (refresh.exec work).2.cache.snapshot.windows.filter (·.handle ≠ window) := by
  intro failed
  obtain ⟨_, _, hexec, _, _, rfl⟩ := (refresh_records henumerates hfits).exists_exec
  have hfits' : failed.system.Fits := hfits.failWindow window
  have henumerates' : failed.system.enumerationFails = false := henumerates
  obtain ⟨_, _, hexec', _, _, rfl⟩ := (refresh_records henumerates' hfits').exists_exec
  rw [hexec, hexec']
  exact ⟨rfl, rfl, Desktop.failWindow_records work.cache.processNames work.system.time window
    work.system (work.system.windows.map Prod.fst)⟩

/-- The desktop is as it was, up to its counters and its clock, and everything was answered as it
answers. -/
structure Unchanged (start work : Workspace (Logged Desktop)) : Prop where
  /-- The same windows, shown in the same way, on the same monitors. -/
  alike : Desktop.Alike start.system.system work.system.system
  /-- What was answered is what the desktop answers. -/
  agreed : Agreed start.system.system.answers start work

/-- Nothing was asked so far. -/
theorem Unchanged.refl (work : Workspace (Logged Desktop)) : Unchanged work work where
  alike := .refl _
  agreed := by simp [Agreed, asked]

/-- A question is answered as the desktop answers it, and changes counters at most. -/
theorem Unchanged.call {start work : Workspace (Logged Desktop)} (h : Unchanged start work)
    (hfits : start.system.system.Fits) (call : NativeCall) (hquery : call.isQuery = true) :
    (WindowSystem.call call : Action (Workspace (Logged Desktop)) _).Ensures work
      (fun _ => Unchanged start) fun _ => False := by
  obtain ⟨answer, hanswer⟩ := hfits.answer_isOk call
  have hexec : (WindowSystem.call call : Action (Workspace (Logged Desktop)) _).exec work =
      ((work.system.system.answer call).1, { work with system :=
        { system := (work.system.system.answer call).2
          log := work.log ++ [.call ⟨call, (work.system.system.answer call).1⟩] } }) := rfl
  rw [h.alike.answer, hanswer] at hexec
  rw [ensures_of_ok hexec]
  refine ⟨h.alike.trans (Desktop.answer_alike _ hquery), h.agreed.ask ⟨rfl, rfl⟩ ?_⟩
  exact congrArg Except.ok (Desktop.answers_of_ok hanswer).symm

/-- So the queries leave the desktop unchanged, and none of them is cut short. -/
theorem queriesConform_unchanged {start : Workspace (Logged Desktop)}
    (hfits : start.system.system.Fits) :
    QueriesConform (σ := Logged Desktop)
      (fun work work' => Unchanged start work → Unchanged start work')
      fun work _ => ¬ Unchanged start work := by
  refine .of_calls (.keeps _) (fun call hquery => .of_ensures fun work h => ?_)
    (.of_ensures fun work h => ?_) fun f work h => ⟨h.alike, h.agreed⟩
  · exact h.call hfits call hquery
  · exact ⟨h.alike.trans (.of_counters _ _ _ _ _), h.agreed.ask ⟨rfl, rfl⟩ rfl⟩

/-- Asking an emulated desktop does not change what it answers. -/
theorem refresh_agrees {work : Workspace (Logged Desktop)} (hfits : work.system.system.Fits) :
    Agreed work.system.system.answers work (refresh.exec work).2 := by
  have hrefresh := (queriesConform_unchanged hfits).refresh.ensures (Unchanged.refl work)
  exact (hrefresh.of_uncut.exec_snd).agreed

/-! ## What a pass installs -/

/-- A pass installs exactly the ordinary windows that answer. In every state of a cache, a pass in
which the windows are listed and no answer changes is completed, and the windows installed are the
records of those listed, in their order and as often: a window has a record if and only if it is
visible and no system window, its process has a name that is not empty, found among the names known
or else by its program, and everything else about it can be had; the record carries these answers.
So if before a pass a window of an emulated desktop comes to fail, then the pass installs the same
records without that of the window. -/
theorem refresh_installs :
    (∀ {σ ε : Type} [WindowSystem σ] (staleness : Nat) (system : σ) (apply : ε → σ → σ)
      (inputs : List (Input ε)) (answers : Answers) (handles : List WindowHandle),
        let work := run apply inputs (.unseen staleness { system })
        let work' := (refresh.exec work).2
        answers .enumerate = .ok handles → (∀ inquiry ∈ asked work work', inquiry.agrees answers) →
          (refresh.exec work).1 = .ok () ∧ ∃ capturedAt recordOf,
            work'.cache.lastRefresh = some capturedAt ∧
            work'.cache.snapshot.windows = handles.filterMap recordOf ∧
            ∀ window record, recordOf window = some record ↔
              answers.IsRecord work.cache.processNames capturedAt window record ∧
                record.processName ≠ "") ∧
    ∀ (work : Workspace Desktop) (window : WindowHandle),
      work.system.enumerationFails = false → work.system.Fits →
        let failed := outside Desktop.Event.apply (.failWindow window) work
        (refresh.exec work).1 = .ok () ∧ (refresh.exec failed).1 = .ok () ∧
          (refresh.exec failed).2.cache.snapshot.windows =
            (refresh.exec work).2.cache.snapshot.windows.filter (·.handle ≠ window) := by
  constructor
  · intro σ ε _ staleness system apply inputs answers handles work work' hlisted hagreed
    have hnamed : work.Named := run_named staleness system apply inputs
    have hpass := refresh_agreed hlisted work
    rcases hexec : (refresh : Action (Workspace (Logged σ)) Unit).exec work with ⟨e | _, passed⟩
    · have hwork' : work' = passed := congrArg Prod.snd hexec
      rw [ensures_of_error hexec] at hpass
      exact absurd (hwork' ▸ hagreed) hpass
    have hwork' : work' = passed := congrArg Prod.snd hexec
    rw [ensures_of_ok hexec] at hpass
    rw [hwork'] at hagreed ⊢
    obtain ⟨capturedAt, hlast, hwindows⟩ := hpass hagreed
    refine ⟨rfl, capturedAt, answers.record? work.cache.processNames capturedAt, hlast, hwindows,
      fun window record => ?_⟩
    rw [Answers.record?_eq_some_iff]
    constructor
    · intro hrecord
      refine ⟨hrecord, fun hempty => hnamed.name?_ne answers record.process ?_⟩
      rw [hrecord.name, hempty]
    · exact And.left
  · intro work window henumerates hfits
    exact refresh_failWindow window henumerates hfits

/-- The name of a process is known from the first pass, so that its change of program does not show
in the second. A process without a program and a window that fails are left out. -/
theorem refresh_installs_demo : ∃ work : Workspace (Logged Desktop),
    work = run Desktop.Event.apply [.operation .snapshot,
      .outside (.addProcess 200 "C:\\Tools\\editor.exe"),
      .outside (.openWindow (DesktopWindow.titled 400 "No program")),
      .outside (.openWindow (DesktopWindow.titled 200 "todo.txt - Notepad")),
      .outside (.failWindow ⟨0x1020⟩)] (.unseen 5 { system := Desktop.demo }) ∧
    work.system.system.answers .enumerate =
      .ok [⟨0x1040⟩, ⟨0x1030⟩, ⟨0x1020⟩, ⟨0x1010⟩, ⟨0x1000⟩] ∧
    (∀ inquiry ∈ asked work (refresh.exec work).2, inquiry.agrees work.system.system.answers) ∧
    (refresh.exec work).1 = .ok () ∧
    (refresh.exec work).2.cache.snapshot.windows.map (fun record =>
      (record.handle, record.processName)) = [(⟨0x1040⟩, "notepad"), (⟨0x1010⟩, "notepad")] ∧
    (refresh.exec (outside Desktop.Event.apply (.failWindow ⟨0x1010⟩)
      (.unseen 5 Desktop.demo))).2.cache.snapshot.windows.map (·.handle) = [⟨0x1020⟩] := by
  refine ⟨_, rfl, ?_⟩
  generalize hwork : run Desktop.Event.apply _ _ = work
  have hlisted : work.system.system.answers .enumerate =
      .ok [⟨0x1040⟩, ⟨0x1030⟩, ⟨0x1020⟩, ⟨0x1010⟩, ⟨0x1000⟩] := by
    rw [← hwork]
    decide +kernel
  have hfits : work.system.system.Fits := by
    rw [← hwork]
    exact .of_windows (by decide +kernel)
  have hagreed := refresh_agrees hfits
  refine ⟨hlisted, hagreed, ?_, ?_, ?_⟩
  · subst hwork
    exact (refresh_installs.1 5 Desktop.demo Desktop.Event.apply _ _ _ hlisted hagreed).1
  · rw [← hwork]
    decide +kernel
  · rw [(refresh_installs.2 (.unseen 5 Desktop.demo) ⟨0x1010⟩ rfl
      (.of_windows (by decide +kernel))).2.2]
    decide +kernel

end Workspace

end SoloScreen
