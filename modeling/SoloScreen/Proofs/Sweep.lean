import SoloScreen.Proofs.Ownership

/-!
# What minimizing touches

Two operations get windows out of the way: `minimizeOnMonitor` and `minimizeBeside`, here the two
cases of a `Minimizer.Sweep`. What they do is bounded on any window system, whatever it answers and
however old the snapshot is.

* `Minimizer.Took`: records were gone through in their order. Windows were asked to minimize only
  where they had just been read as shown (`Minimizer.Checked`), and the list took up the confirmed
  ones. It is kept from one record to the next (`Minimizer.Took.trans`).
* `Minimizer.Sweep.Confined`: the requests of an operation go to windows of the snapshot that the
  operation admits, in Z-order.
* `Minimizer.sweep_confined`: all of this in every run, where each window is asked at most once, and
  on the emulated desktop no window changes but the confirmed ones.
* `Minimizer.failure_keeps_list_iff`: an operation fails before anything is requested, but
  `minimizeOnMonitor` has forgotten the list by then.

The bounds hold of an operation that is cut short in the middle too; only the answer and the list
are said of those that answer. The snapshot may be wrong about everything: the questions right
before a request, and not the record, decide whether the request is made.
-/

namespace SoloScreen

open SoloScreen.Action

/-- The window that was minimized on request. -/
def Exchange.minimized? : Exchange → Option WindowHandle
  | ⟨.setState window .minimize, .ok (.ok true)⟩ => some window
  | _ => none

/-- A call that requests nothing minimizes nothing. -/
theorem Exchange.minimized?_eq_none {exchange : Exchange} (h : exchange.request? = none) :
    exchange.minimized? = none := by
  unfold minimized?
  split
  · simp [request?] at h
  · rfl

/-- Nor does a request that is not confirmed. -/
theorem Exchange.minimized?_setState {window : WindowHandle}
    {answer : Except Overflow (Except Failure Bool)} (h : answer ≠ .ok (.ok true)) :
    Exchange.minimized? ⟨.setState window .minimize, answer⟩ = none := by
  rcases answer with e | failure | confirmed
  · rfl
  · rfl
  · cases confirmed
    · rfl
    · exact absurd rfl h

namespace Minimizer

variable {σ ε : Type}

/-! ## The operations -/

/-- An operation that gets windows out of the way. -/
inductive Sweep where
  /-- An episode begins on a monitor, with one window excluded or none. -/
  | onMonitor (monitor : MonitorHandle) (exclude : Option WindowHandle)
  /-- The focus went to a window during an episode. -/
  | beside (target : WindowHandle) (monitor : MonitorHandle)
  deriving DecidableEq, Repr

namespace Sweep

/-- What the operation does; it answers how many windows it minimized. -/
def act [WindowSystem σ] : Sweep → Fallible (Minimizer × Workspace σ) Nat
  | .onMonitor monitor exclude => minimizeOnMonitor monitor exclude
  | .beside target monitor => minimizeBeside target monitor

/-- The monitor whose windows are minimized. -/
def monitor : Sweep → MonitorHandle
  | .onMonitor monitor _ => monitor
  | .beside _ monitor => monitor

/-- The record is of a window that the operation may minimize, where `asked` are its calls: it is on
the monitor, it is not the window to be left alone, and beside a target it is not of the process
that owns it, which the second call asks for. -/
def Admits (sweep : Sweep) (asked : List Exchange) (record : WindowRecord) : Prop :=
  match sweep with
  | .onMonitor monitor exclude => record.monitor = monitor ∧ some record.handle ≠ exclude
  | .beside target monitor => record.monitor = monitor ∧ record.handle ≠ target ∧
    ∃ owner : Except Failure ProcessId, asked[1]? = some ⟨.process target, .ok owner⟩ ∧
      some record.process ≠ owner.toOption

/-- What is left of the list before the first window is tried. -/
def kept : Sweep → List WindowHandle → List WindowHandle
  | .onMonitor _ _, _ => []
  | .beside _ _, hidden => hidden

/-- What becomes of the list when a window was minimized. -/
def add : Sweep → List WindowHandle → WindowHandle → List WindowHandle
  | .onMonitor _ _, hidden, window => hidden ++ [window]
  | .beside _ _, hidden, window => if window ∈ hidden then hidden else hidden ++ [window]

/-- The list after the operation, if it was `hidden` before and the windows `found` were minimized:
those windows, or, beside a target, those that were not on it yet after the others. -/
def list : Sweep → (hidden found : List WindowHandle) → List WindowHandle
  | .onMonitor _ _, _, found => found
  | .beside _ _, hidden, found => hidden ++ found.filter (· ∉ hidden)

/-- At the beginning of an episode the windows come onto the list in their order. -/
theorem foldl_onMonitor (monitor : MonitorHandle) (exclude : Option WindowHandle)
    (hidden found : List WindowHandle) :
    found.foldl (add (.onMonitor monitor exclude)) hidden = hidden ++ found := by
  induction found generalizing hidden with
  | nil => simp
  | cons window rest ih =>
    rw [List.foldl_cons, ih]
    simp [add]

/-- Windows that are minimized one by one, each once, come onto the list together. -/
theorem foldl_add (sweep : Sweep) (hidden : List WindowHandle) {found : List WindowHandle}
    (hnodup : found.Nodup) :
    found.foldl sweep.add (sweep.kept hidden) = sweep.list hidden found := by
  cases sweep with
  | onMonitor monitor exclude => exact foldl_onMonitor monitor exclude [] found
  | beside target monitor =>
    show found.foldl _ hidden = hidden ++ _
    induction found generalizing hidden with
    | nil => simp
    | cons window rest ih =>
      obtain ⟨hnew, hrest⟩ := List.nodup_cons.mp hnodup
      rw [List.foldl_cons, ih _ hrest]
      by_cases hmem : window ∈ hidden
      · simp [add, hmem]
      · have hsame : rest.filter (· ∉ hidden ++ [window]) = rest.filter (· ∉ hidden) :=
          List.filter_congr fun other hother => by
            have hne : other ≠ window := fun heq => hnew (heq ▸ hother)
            simp [hne]
        simp only [add, hmem, if_false, hsame]
        simp [hmem]

end Sweep

/-! ## Requests in a journal -/

/-- The requests for a change of state, in their order. -/
def requestedIn (asked : List Exchange) : List (WindowHandle × WindowCommand) :=
  asked.filterMap (·.request?)

/-- The windows that were minimized on request, in their order. -/
def confirmedIn (asked : List Exchange) : List WindowHandle :=
  asked.filterMap (·.minimized?)

/-- Where there were only questions, nothing was requested. -/
theorem requestedIn_of_silent {asked : List Exchange}
    (h : ∀ exchange ∈ asked, exchange.request? = none) : requestedIn asked = [] :=
  List.filterMap_eq_nil_iff.mpr h

/-- And nothing was minimized. -/
theorem confirmedIn_of_silent {asked : List Exchange}
    (h : ∀ exchange ∈ asked, exchange.request? = none) : confirmedIn asked = [] :=
  List.filterMap_eq_nil_iff.mpr fun exchange hmem => Exchange.minimized?_eq_none (h exchange hmem)

/-- What was requested in two stretches. -/
theorem requestedIn_append (asked more : List Exchange) :
    requestedIn (asked ++ more) = requestedIn asked ++ requestedIn more := List.filterMap_append

/-- What was minimized in two stretches. -/
theorem confirmedIn_append (asked more : List Exchange) :
    confirmedIn (asked ++ more) = confirmedIn asked ++ confirmedIn more := List.filterMap_append

/-- What was confirmed had been requested. -/
theorem confirmedIn_sublist (asked : List Exchange) :
    (confirmedIn asked).Sublist ((requestedIn asked).map Prod.fst) := by
  induction asked with
  | nil => exact List.Sublist.refl _
  | cons exchange rest ih =>
    unfold confirmedIn requestedIn at ih ⊢
    rw [List.filterMap_cons, List.filterMap_cons]
    rcases hrequest : exchange.request? with _ | ⟨window, command⟩
    · rw [Exchange.minimized?_eq_none hrequest]
      exact ih
    · rcases hminimized : exchange.minimized? with _ | other
      · exact ih.cons window
      · have hsame : other = window := by
          unfold Exchange.minimized? at hminimized
          split at hminimized
          · simp only [Exchange.request?, Option.some.injEq, Prod.mk.injEq] at hrequest hminimized
            rw [← hminimized, hrequest.1]
          · cases hminimized
        rw [hsame]
        exact ih.cons_cons window

/-- Each request was made right after the window was read as shown. -/
def Checked (asked : List Exchange) : Prop :=
  ∀ before exchange after window command, asked = before ++ exchange :: after →
    exchange.request? = some (window, command) →
      ∃ earlier answers, Shows window answers ∧ before = earlier ++ answers

/-- Without requests there is nothing to check. -/
theorem checked_of_silent {asked : List Exchange}
    (h : ∀ exchange ∈ asked, exchange.request? = none) : Checked asked := by
  intro before exchange after window command hsplit hrequest
  rw [h exchange (hsplit ▸ List.mem_append_right _ List.mem_cons_self)] at hrequest
  cases hrequest

/-- Two checked stretches make one. The questions of a request are all in its own stretch, so none
of them is separated from it. -/
theorem Checked.append {asked more : List Exchange} (h : Checked asked) (hmore : Checked more) :
    Checked (asked ++ more) := by
  intro before exchange after window command hsplit hrequest
  rcases List.append_eq_append_iff.mp hsplit with ⟨middle, hbefore, hrest⟩ | ⟨middle, hrest, hafter⟩
  · obtain ⟨earlier, answers, hshows, hmiddle⟩ :=
      hmore middle exchange after window command hrest hrequest
    exact ⟨asked ++ earlier, answers, hshows, by rw [hbefore, hmiddle, List.append_assoc]⟩
  · rcases middle with _ | ⟨first, middle⟩
    · obtain ⟨earlier, answers, hshows, hearlier⟩ :=
        hmore [] exchange after window command (by simpa using hafter.symm) hrequest
      have hnone : answers = [] := (List.append_eq_nil_iff.mp hearlier.symm).2
      obtain ⟨className, title, state, -, -, -, hanswers⟩ := hshows
      simp [hanswers] at hnone
    · obtain ⟨rfl, -⟩ := List.cons.inj hafter
      exact h before _ middle window command hrest hrequest

/-- A window that was just read as shown is asked to minimize. -/
theorem Shows.checked {window : WindowHandle} {answers : List Exchange}
    (h : Shows window answers) (answer : Except Overflow (Except Failure Bool)) :
    Checked (answers ++ [⟨.setState window .minimize, answer⟩]) := by
  intro before exchange after other command hsplit hrequest
  rcases List.eq_nil_or_concat after with rfl | ⟨after, last, rfl⟩
  · obtain ⟨rfl, hlast⟩ := List.append_inj' hsplit rfl
    obtain rfl := (List.cons.inj hlast).1
    obtain ⟨rfl, -⟩ := Prod.mk.inj (Option.some.inj hrequest)
    exact ⟨[], answers, h, rfl⟩
  · have hsplit : answers ++ [⟨.setState window .minimize, answer⟩] =
        (before ++ exchange :: after) ++ [last] := by simpa using hsplit
    have hmem : exchange ∈ answers := by
      rw [(List.append_inj' hsplit rfl).1]
      exact List.mem_append_right _ List.mem_cons_self
    rw [h.request?_eq_none exchange hmem] at hrequest
    cases hrequest

section trial

variable {window : WindowHandle} {hit : Bool} {asked : List Exchange}

/-- A request is made only after the window was read as shown. -/
theorem Trial.checked (h : Trial window hit asked) : Checked asked := by
  cases h with
  | unasked hasked => exact checked_of_silent hasked
  | refused hshows => exact hshows.checked _
  | confirmed hshows => exact hshows.checked _

/-- At most one request is made. -/
theorem Trial.requestedIn (h : Trial window hit asked) :
    requestedIn asked = [] ∨ requestedIn asked = [(window, .minimize)] := by
  cases h with
  | unasked hasked => exact .inl (requestedIn_of_silent hasked)
  | refused hshows | confirmed hshows =>
    right
    rw [requestedIn_append, requestedIn_of_silent hshows.request?_eq_none]
    rfl

/-- The window was minimized if the trial hit, and no other one was. -/
theorem Trial.confirmedIn (h : Trial window hit asked) :
    confirmedIn asked = if hit then [window] else [] := by
  cases h with
  | unasked hasked => exact confirmedIn_of_silent hasked
  | refused hshows hanswer =>
    rw [confirmedIn_append, confirmedIn_of_silent hshows.request?_eq_none, Minimizer.confirmedIn,
      List.filterMap_cons, Exchange.minimized?_setState hanswer]
    rfl
  | confirmed hshows =>
    rw [confirmedIn_append, confirmedIn_of_silent hshows.request?_eq_none]
    rfl

end trial

/-! ## Going through records -/

/-- The windows of some records were tried in their order, and `n` of them were minimized. Each was
asked at most once, and the minimized ones were added to the list. -/
structure Took (sweep : Sweep) (records : List WindowRecord) (n : Nat)
    (p q : Minimizer × Workspace (Journaled σ)) : Prop where
  /-- The snapshot is the same, so the next operation begins with it too. -/
  cache : q.2.cache = p.2.cache
  /-- What was requested, and what became of the list. -/
  journal : ∃ asked, q.2.journal = p.2.journal ++ asked ∧ Checked asked ∧
    (∃ targets : List WindowRecord, targets.Sublist records ∧
      requestedIn asked = targets.map fun record => (record.handle, .minimize)) ∧
    q.1.hidden = (confirmedIn asked).foldl sweep.add p.1.hidden ∧ n = (confirmedIn asked).length

section took

variable {sweep : Sweep} {record : WindowRecord} {records more : List WindowRecord} {m n : Nat}
  {p q r : Minimizer × Workspace (Journaled σ)}

/-- No record, no request. -/
theorem Took.refl (p : Minimizer × Workspace (Journaled σ)) : Took sweep [] 0 p p where
  cache := rfl
  journal := ⟨[], by simp, checked_of_silent (by simp), ⟨[], List.Sublist.refl _, rfl⟩, rfl, rfl⟩

/-- More records may have been gone through, without a request for them. -/
theorem Took.mono (h : Took sweep records n p q) (hmore : records.Sublist more) :
    Took sweep more n p q := by
  obtain ⟨hcache, asked, hjournal, hchecked, ⟨targets, htargets, hrequested⟩, hlist⟩ := h
  exact ⟨hcache, asked, hjournal, hchecked, ⟨targets, htargets.trans hmore, hrequested⟩, hlist⟩

/-- Some records and then more of them. The list after the first is the list before the second, so
the windows are added one after the other. -/
theorem Took.trans (h : Took sweep records m p q) (h' : Took sweep more n q r) :
    Took sweep (records ++ more) (m + n) p r := by
  obtain ⟨hcache, asked, hjournal, hchecked, ⟨targets, htargets, hrequested⟩, hlist, hcount⟩ := h
  obtain ⟨hcache', asked', hjournal', hchecked', ⟨targets', htargets', hrequested'⟩, hlist',
    hcount'⟩ := h'
  refine ⟨hcache'.trans hcache, asked ++ asked', ?_, hchecked.append hchecked',
    ⟨targets ++ targets', htargets.append htargets', ?_⟩, ?_, ?_⟩
  · rw [hjournal', hjournal, List.append_assoc]
  · rw [requestedIn_append, hrequested, hrequested', List.map_append]
  · rw [confirmedIn_append, List.foldl_append, ← hlist, hlist']
  · rw [confirmedIn_append, List.length_append, hcount, hcount']

/-- A window that was tried was taken, if the list is brought up to date. -/
theorem Tried.took {hit : Bool} (h : Tried record.handle hit p q)
    (hlist : r.1.hidden = if hit then sweep.add p.1.hidden record.handle else p.1.hidden)
    (hwork : r.2 = q.2) : Took sweep [record] hit.toNat p r := by
  obtain ⟨-, hcache, asked, hjournal, htrial⟩ := h
  refine ⟨by rw [hwork, hcache], asked, by rw [hwork, hjournal], htrial.checked, ?_, ?_, ?_⟩
  · rcases htrial.requestedIn with hnone | hone
    · exact ⟨[], List.nil_sublist _, hnone⟩
    · exact ⟨[record], List.Sublist.refl _, hone⟩
  · rw [hlist, htrial.confirmedIn]
    cases hit <;> rfl
  · rw [htrial.confirmedIn]
    cases hit <;> rfl

/-- A window that was not minimized changes neither list nor number. -/
theorem Tried.took_none (h : Tried record.handle false p q) : Took sweep [record] 0 p q :=
  h.took (by rw [h.minimizer]; rfl) rfl

end took

variable [WindowSystem σ]

/-- Hiding a window goes through one record, and adds it if the request was confirmed. -/
theorem hide_took (monitor : MonitorHandle) (exclude : Option WindowHandle)
    (record : WindowRecord) :
    Follows (fun p q : Minimizer × Workspace (Journaled σ) =>
      ∃ n, Took (.onMonitor monitor exclude) [record] n p q) (hide record.handle) := by
  intro p
  unfold hide
  refine ensures_trying (fun q hq => ?_) (fun q hq => ⟨0, hq.took_none⟩)
    fun q hq => ⟨0, hq.took_none⟩
  simp only [ensures_bind, hiddenWindows, setHidden, ensures_get, ensures_pure, ensures_modify]
  exact ⟨1, hq.took (by rw [hq.minimizer]; rfl) rfl⟩

/-- A record of the spared process is passed over. -/
theorem hideAgain_took (target : WindowHandle) (monitor : MonitorHandle) (spared : Option ProcessId)
    (record : WindowRecord) (p : Minimizer × Workspace (Journaled σ)) :
    (hideAgain spared record).Ensures p
      (fun hit => Took (.beside target monitor)
        ([record].filter fun record => some record.process ≠ spared) hit.toNat p)
      fun q => Took (.beside target monitor)
        ([record].filter fun record => some record.process ≠ spared) 0 p q := by
  unfold hideAgain
  by_cases hspared : some record.process = spared
  · simpa [hspared] using Took.refl p
  have hfilter : [record].filter (fun record => some record.process ≠ spared) = [record] := by
    simp [hspared]
  rw [if_neg hspared, hfilter]
  refine ensures_trying (fun q hq => ?_) (fun q hq => hq.took_none) fun q hq => hq.took_none
  simp only [ensures_bind, hiddenWindows, setHidden, ensures_get, ensures_pure]
  by_cases hmem : record.handle ∈ q.1.hidden
  · have hsame : q.1.hidden = Sweep.add (.beside target monitor) p.1.hidden record.handle := by
      rw [← hq.minimizer]
      simp [Sweep.add, hmem]
    simpa [hmem] using hq.took hsame rfl
  · simp only [List.contains_eq_mem, hmem, decide_false, Bool.not_false, if_true, ensures_bind,
      ensures_get, ensures_pure, ensures_modify]
    refine hq.took ?_ rfl
    rw [← hq.minimizer]
    simp [Sweep.add, hmem]

/-- Hiding one window after the other goes through the records in their order. -/
theorem hideEach_took (monitor : MonitorHandle) (exclude : Option WindowHandle)
    (records : List WindowRecord) :
    Follows (fun p q : Minimizer × Workspace (Journaled σ) =>
        ∃ n, Took (.onMonitor monitor exclude) records n p q)
      (Action.each (fun record => hide record.handle) records) := by
  induction records with
  | nil => exact fun p => ⟨0, Took.refl p⟩
  | cons record rest ih =>
    intro p
    unfold Action.each
    rw [ensures_bind]
    have hall : ∀ m q r, Took (.onMonitor monitor exclude) [record] m p q →
        (∃ n, Took (.onMonitor monitor exclude) rest n q r) →
          ∃ n, Took (.onMonitor monitor exclude) (record :: rest) n p r := by
      rintro m q r hq ⟨n, hr⟩
      exact ⟨m + n, hq.trans hr⟩
    refine (hide_took monitor exclude record p).mono (fun _ q hq => ?_) fun q hq => ?_
    · obtain ⟨m, hq⟩ := hq
      exact (ih q).mono (fun _ r => hall m q r hq) fun r => hall m q r hq
    · obtain ⟨m, hq⟩ := hq
      exact ⟨m, hq.mono (List.singleton_sublist.mpr List.mem_cons_self)⟩

/-- So does hiding windows during an episode, with those of the spared process left out. -/
theorem countAgain_took (target : WindowHandle) (monitor : MonitorHandle)
    (spared : Option ProcessId) (records : List WindowRecord)
    (p : Minimizer × Workspace (Journaled σ)) :
    (Action.count (hideAgain spared) records).Ensures p
      (fun n => Took (.beside target monitor)
        (records.filter fun record => some record.process ≠ spared) n p)
      fun q => ∃ n, Took (.beside target monitor)
        (records.filter fun record => some record.process ≠ spared) n p q := by
  induction records generalizing p with
  | nil => exact Took.refl p
  | cons record rest ih =>
    have hsplit : (record :: rest).filter (fun record => some record.process ≠ spared) =
        [record].filter (fun record => some record.process ≠ spared) ++
          rest.filter (fun record => some record.process ≠ spared) :=
      List.filter_append [record] rest
    unfold Action.count
    simp only [ensures_bind, ensures_pure]
    refine (hideAgain_took target monitor spared record p).mono (fun hit q hq => ?_) fun q hq => ?_
    · refine (ih q).mono (fun n r hr => ?_) fun r hr => ?_
      · rw [hsplit, Nat.add_comm]
        exact hq.trans hr
      · obtain ⟨n, hr⟩ := hr
        rw [hsplit]
        exact ⟨_, hq.trans hr⟩
    · rw [hsplit]
      exact ⟨0, hq.mono (List.sublist_append_left _ _)⟩

/-! ## What an operation requests -/

/-- What was requested during an operation: windows of the snapshot that the operation then uses
were asked to minimize, in Z-order, and only those that it admits and that had just been read as
shown. -/
structure Confined (sweep : Sweep) (p q : Minimizer × Workspace (Journaled σ)) : Prop where
  /-- Nothing that was written down is lost. -/
  goesOn : Workspace.GoesOn p.2 q.2
  /-- Each request follows the questions. -/
  checked : Checked (Workspace.since p.2 q.2)
  /-- The records whose windows were asked, in the order of the snapshot. -/
  targets : ∃ targets : List WindowRecord, targets.Sublist q.2.cache.snapshot.windows ∧
    (∀ record ∈ targets, sweep.Admits (Workspace.since p.2 q.2) record) ∧
      requestedIn (Workspace.since p.2 q.2) = targets.map fun record => (record.handle, .minimize)

/-- The list and the answer tell which windows were minimized. -/
structure Reported (sweep : Sweep) (n : Nat) (p q : Minimizer × Workspace (Journaled σ)) :
    Prop where
  /-- The list took up the windows that were minimized, in their order. -/
  list : q.1.hidden =
    (confirmedIn (Workspace.since p.2 q.2)).foldl sweep.add (sweep.kept p.1.hidden)
  /-- The answer is how many there were. -/
  count : n = (confirmedIn (Workspace.since p.2 q.2)).length

section confined

variable {sweep : Sweep} {p q r : Minimizer × Workspace (Journaled σ)}

omit [WindowSystem σ] in
/-- Where there were only questions, nothing was requested. -/
theorem Confined.of_asked (h : Workspace.Asked p.2 q.2) : Confined sweep p q := by
  obtain ⟨asked, hjournal, hasked⟩ := h
  have hsince := Workspace.since_eq hjournal
  exact ⟨⟨asked, hjournal.symm⟩, hsince ▸ checked_of_silent hasked,
    [], List.nil_sublist _, by simp, hsince ▸ requestedIn_of_silent hasked⟩

omit [WindowSystem σ] in
/-- After questions, records of the snapshot were gone through that the operation admits going by
the questions. -/
theorem Took.confined {records : List WindowRecord} {n : Nat} {asked : List Exchange}
    (h : Took sweep records n q r) (hjournal : q.2.journal = p.2.journal ++ asked)
    (hsilent : ∀ exchange ∈ asked, exchange.request? = none)
    (hlist : q.1.hidden = sweep.kept p.1.hidden)
    (hrecords : records.Sublist q.2.cache.snapshot.windows)
    (hadmits : ∀ more, ∀ record ∈ records, sweep.Admits (asked ++ more) record) :
    Confined sweep p r ∧ Reported sweep n p r := by
  obtain ⟨hcache, more, hmore, hchecked, ⟨targets, htargets, hrequested⟩, hadded, hcount⟩ := h
  have hall : r.2.journal = p.2.journal ++ (asked ++ more) := by
    rw [hmore, hjournal, List.append_assoc]
  have hsince := Workspace.since_eq hall
  have hrequestedIn : requestedIn (asked ++ more) = requestedIn more := by
    rw [requestedIn_append, requestedIn_of_silent hsilent, List.nil_append]
  have hconfirmedIn : confirmedIn (asked ++ more) = confirmedIn more := by
    rw [confirmedIn_append, confirmedIn_of_silent hsilent, List.nil_append]
  refine ⟨⟨⟨asked ++ more, hall.symm⟩, ?_, targets, ?_, ?_, ?_⟩, ⟨?_, ?_⟩⟩
  · rw [hsince]
    exact (checked_of_silent hsilent).append hchecked
  · rw [hcache]
    exact htargets.trans hrecords
  · intro record hmem
    rw [hsince]
    exact hadmits more record (htargets.subset hmem)
  · rw [hsince, hrequestedIn, hrequested]
  · rw [hsince, hconfirmedIn, hadded, hlist]
  · rw [hsince, hconfirmedIn, hcount]

end confined

/-- The windows on a monitor are asked for by questions only, and are those of the snapshot. -/
theorem windowsOn_asked (monitor : MonitorHandle) (exclude : Option WindowHandle)
    (work : Workspace (Journaled σ)) :
    (Workspace.windowsOn monitor exclude).Ensures work
      (fun records work' => Workspace.Asked work work' ∧
        records = work'.cache.snapshot.windows.filter fun record =>
          record.monitor = monitor ∧ some record.handle ≠ exclude)
      (Workspace.Asked work) :=
  ((Workspace.queriesConform_asked.windowsOn monitor exclude work).and
    ((Workspace.windowsOn_readsOff monitor exclude).ensures work)).mono
      (fun _ _ h => h) fun _ h => h.1

/-- The beginning of an episode is confined. It excludes one window, by its handle. -/
theorem minimizeOnMonitor_confined (monitor : MonitorHandle) (exclude : Option WindowHandle)
    (p : Minimizer × Workspace (Journaled σ)) :
    (minimizeOnMonitor monitor exclude).run.Ensures p
      (fun answer q => Confined (.onMonitor monitor exclude) p q ∧
        ∀ n, answer = .ok n → Reported (.onMonitor monitor exclude) n p q)
      (Confined (.onMonitor monitor exclude) p) := by
  unfold minimizeOnMonitor
  rw [ensures_run_lift_bind, setHidden, ensures_modify, ensures_run_bind]
  refine (query_inquired (.monitorInfo monitor) rfl (⟨[]⟩, p.2)).mono (fun info q hq => ?_)
    fun q hq => .of_asked hq.2.2
  obtain ⟨hlist, -, hasked⟩ := hq
  rcases info with failure | info
  · exact ⟨.of_asked hasked, by simp⟩
  dsimp only
  rw [ensures_run_lift, ensures_bind, ensures_onSecond]
  refine (windowsOn_asked monitor exclude q.2).mono (fun records work hwork => ?_)
    fun work hwork => .of_asked (Workspace.Asked.isPath.trans hasked hwork)
  obtain ⟨asked, hjournal, hsilent⟩ := Workspace.Asked.isPath.trans hasked hwork.1
  obtain rfl := hwork.2
  have hconfined : ∀ n r, Took (.onMonitor monitor exclude) (work.cache.snapshot.windows.filter
      fun record => record.monitor = monitor ∧ some record.handle ≠ exclude) n (q.1, work) r →
        Confined (.onMonitor monitor exclude) p r ∧
          Reported (.onMonitor monitor exclude) n p r := by
    intro n r hr
    refine hr.confined hjournal hsilent (by rw [hlist]; rfl) List.filter_sublist
      fun more record hmem => ?_
    simpa [Sweep.Admits] using (List.mem_filter.mp hmem).2
  rw [ensures_bind]
  refine (hideEach_took monitor exclude _ (q.1, work)).mono (fun _ r hr => ?_) fun r hr => ?_
  rotate_left
  · obtain ⟨n, hr⟩ := hr
    exact (hconfined n r hr).1
  obtain ⟨n, hr⟩ := hr
  obtain ⟨hrequests, hreported⟩ := hconfined n r hr
  simp only [ensures_bind, hiddenWindows, ensures_get, ensures_pure]
  refine ⟨hrequests, fun k hk => ⟨hreported.list, ?_⟩⟩
  rw [← Except.ok.inj hk, hreported.list, Sweep.foldl_onMonitor]
  rfl

/-- The operation of a focus event is confined. It spares a process, which it asks for first; if
that fails, then it spares none. -/
theorem minimizeBeside_confined (target : WindowHandle) (monitor : MonitorHandle)
    (p : Minimizer × Workspace (Journaled σ)) :
    (minimizeBeside target monitor).run.Ensures p
      (fun answer q => Confined (.beside target monitor) p q ∧
        ∀ n, answer = .ok n → Reported (.beside target monitor) n p q)
      (Confined (.beside target monitor) p) := by
  unfold minimizeBeside
  rw [ensures_run_bind]
  refine (call_made (.monitorInfo monitor) p).mono (fun info q hq => ?_) fun q hq => ?_
  rotate_left
  · obtain ⟨-, e, hmade⟩ := hq
    exact .of_asked (hmade.asked rfl)
  obtain ⟨hlist, hmade⟩ := hq
  rcases info with failure | info
  · exact ⟨.of_asked (hmade.asked rfl), by simp⟩
  dsimp only
  rw [ensures_run_lift, ensures_bind]
  have hpath := Workspace.Asked.isPath (σ := σ)
  refine (call_made (.process target) q).mono (fun owner r hr => ?_) fun r hr => ?_
  rotate_left
  · obtain ⟨-, e, hmade'⟩ := hr
    exact .of_asked (hpath.trans (hmade.asked rfl) (hmade'.asked rfl))
  obtain ⟨hlist', hmade'⟩ := hr
  have hstart := hpath.trans (hmade.asked rfl) (hmade'.asked rfl)
  rw [ensures_bind, ensures_onSecond]
  refine (windowsOn_asked monitor (some target) r.2).mono (fun records work hwork => ?_)
    fun work hwork => .of_asked (hpath.trans hstart hwork)
  obtain ⟨⟨asked, hjournal, hsilent⟩, rfl⟩ := hwork
  have hall : work.journal = p.2.journal ++ ⟨.monitorInfo monitor, .ok (.ok info)⟩ ::
      ⟨.process target, .ok owner⟩ :: asked := by
    rw [hjournal, hmade'.journal, hmade.journal]
    simp
  have hconfined : ∀ n t, Took (.beside target monitor) ((work.cache.snapshot.windows.filter
      fun record => record.monitor = monitor ∧ some record.handle ≠ some target).filter
        fun record => some record.process ≠ owner.toOption) n (r.1, work) t →
          Confined (.beside target monitor) p t ∧ Reported (.beside target monitor) n p t := by
    intro n t ht
    refine ht.confined hall (by simpa [Exchange.request?] using hsilent)
      (by rw [hlist', hlist]; rfl)
      (List.filter_sublist.trans List.filter_sublist) fun more record hmem => ?_
    obtain ⟨hplace, howner⟩ := List.mem_filter.mp hmem
    obtain ⟨hmonitor, hother⟩ : record.monitor = monitor ∧ ¬ record.handle = target := by
      simpa using (List.mem_filter.mp hplace).2
    exact ⟨hmonitor, hother, owner, by simp, by simpa using howner⟩
  refine (countAgain_took target monitor owner.toOption _ (r.1, work)).mono
    (fun n t ht => ⟨(hconfined n t ht).1, fun k hk => ?_⟩) fun t ht => ?_
  · exact Except.ok.inj hk ▸ (hconfined n t ht).2
  · obtain ⟨n, ht⟩ := ht
    exact (hconfined n t ht).1

/-- Both operations are confined. -/
theorem Sweep.act_confined (sweep : Sweep) (p : Minimizer × Workspace (Journaled σ)) :
    sweep.act.run.Ensures p
      (fun answer q => Confined sweep p q ∧ ∀ n, answer = .ok n → Reported sweep n p q)
      (Confined sweep p) := by
  cases sweep with
  | onMonitor monitor exclude => exact minimizeOnMonitor_confined monitor exclude p
  | beside target monitor => exact minimizeBeside_confined target monitor p

/-- What queries and requests to minimize keep, an operation keeps. -/
theorem Sweep.act_conforms {R C : Workspace σ → Workspace σ → Prop}
    (h : Workspace.HidingConform R C) (sweep : Sweep) :
    Conforms (OnWork R) (OnWork C) (sweep.act (σ := σ)).run := by
  cases sweep with
  | onMonitor monitor exclude => exact minimizeOnMonitor_conforms h monitor exclude
  | beside target monitor => exact minimizeBeside_conforms h target monitor

/-- An operation keeps the accounts. -/
theorem Sweep.act_accounts (sweep : Sweep) :
    Follows (KeepsAccounts (σ := σ)) sweep.act.run := by
  cases sweep with
  | onMonitor monitor exclude => exact minimizeOnMonitor_accounts monitor exclude
  | beside target monitor => exact minimizeBeside_accounts target monitor

/-! ## Windows that are not minimized -/

/-- The window is as it was unless it was minimized on request. -/
def Bystands (window : WindowHandle) (work work' : Workspace (Journaled Desktop)) : Prop :=
  ∃ asked, work'.journal = work.journal ++ asked ∧ (window ∉ confirmedIn asked →
    work'.system.system.find? window = work.system.system.find? window)

/-- A window that was not minimized in either of two stretches was not minimized. -/
theorem Bystands.isPath (window : WindowHandle) : IsPath (Bystands window) where
  refl work := ⟨[], by simp, fun _ => rfl⟩
  trans := by
    rintro work work' work'' ⟨asked, hjournal, hsame⟩ ⟨asked', hjournal', hsame'⟩
    refine ⟨asked ++ asked', by rw [hjournal', hjournal, List.append_assoc], fun hnot => ?_⟩
    rw [confirmedIn_append, List.mem_append, not_or] at hnot
    exact (hsame' hnot.2).trans (hsame hnot.1)

/-- A call that brings no window back changes a window only if it minimizes it. -/
theorem call_bystands (window : WindowHandle) (call : NativeCall)
    (hcall : ∀ other, call ≠ .setState other .restore) :
    Follows (Bystands window)
      (WindowSystem.call call : Action (Workspace (Journaled Desktop)) _) := by
  intro work
  refine .of_exec_snd ⟨[⟨call, (work.system.system.answer call).1⟩], rfl, fun hnot => ?_⟩
  show (work.system.system.answer call).2.find? window = _
  rcases hquery : call.isQuery with _ | _
  · obtain ⟨other, rfl⟩ : ∃ other, call = .setState other .minimize := by
      cases call with
      | setState other command =>
        cases command with
        | minimize => exact ⟨other, rfl⟩
        | restore => exact absurd rfl (hcall other)
      | _ => simp [NativeCall.isQuery] at hquery
    have hanswer : work.system.system.answer (.setState other .minimize) =
        (.ok (work.system.system.requestState other .minimize).1,
          (work.system.system.requestState other .minimize).2) := rfl
    rw [hanswer] at hnot ⊢
    rcases Desktop.requestState_cases other .minimize work.system.system with
      ⟨answer, -, hrequest⟩ | ⟨w, -, -, hrequest⟩
    · rw [hrequest]
      rfl
    · rw [hrequest] at hnot ⊢
      have hne : window ≠ other := by
        rintro rfl
        exact hnot (List.mem_singleton_self _)
      exact (Desktop.find?_withState other window .minimized _).trans
        (if_neg hne)
  · exact (Desktop.answer_alike _ hquery).find? window

/-- Everything that a minimizing operation does leaves a window alone that it does not minimize. -/
theorem hidingConform_bystands (window : WindowHandle) :
    Workspace.HidingConform (Bystands window) (Bystands window) where
  toQueriesConform := .of_calls (Bystands.isPath window).toSelf
    (fun call hquery => call_bystands window call fun other heq => by
      simp [heq, NativeCall.isQuery] at hquery)
    (fun _ => ⟨[], (List.append_nil _).symm, fun _ => rfl⟩)
    fun _ => (Bystands.isPath window).refl
  minimize other := call_bystands window (.setState other .minimize) (by simp)

/-! ## Minimizing is confined -/

/-- Minimizing touches only what it may, whatever the window system answers and however old the
snapshot is, as long as no enumeration lists a window twice. In every run, the requests of an
operation go to windows of the snapshot it uses, in Z-order and each at most once; they are windows
the operation admits, asked to minimize right after they were read as visible, not system windows,
and not minimized. If the operation answers, the list tells which requests were confirmed, and the
answer how many. On the emulated desktop all other windows stay as they are. -/
theorem sweep_confined (staleness : Nat) (apply : ε → σ → σ) (system : σ) (inputs : List (Input ε))
    (sweep : Sweep)
    (htwins : Workspace.NoTwins (sweep.act.run.exec (run (Journaled.apply apply) inputs
      ({}, Workspace.unseen staleness { system }))).2.2.journal) :
    let p := run (Journaled.apply apply) inputs ({}, Workspace.unseen staleness { system })
    let q := (sweep.act.run.exec p).2
    let asked := Workspace.since p.2 q.2
    (∃ targets : List WindowRecord, targets.Sublist q.2.cache.snapshot.windows ∧
      (targets.map (·.handle)).Nodup ∧ (∀ record ∈ targets, sweep.Admits asked record) ∧
        requestedIn asked = (targets.map fun record => (record.handle, .minimize)) ∧
          (confirmedIn asked).Sublist (targets.map (·.handle))) ∧
      Checked asked ∧
        (∀ n, (sweep.act.run.exec p).1 = .ok (.ok n) →
          q.1.hidden = sweep.list p.1.hidden (confirmedIn asked) ∧
            n = (confirmedIn asked).length) ∧
          ∀ (sweep : Sweep) (p : Minimizer × Workspace (Journaled Desktop)) (window : WindowHandle),
            window ∉ confirmedIn (Workspace.since p.2 (sweep.act.run.exec p).2.2) →
              (sweep.act.run.exec p).2.2.system.system.find? window =
                p.2.system.system.find? window := by
  intro p q asked
  have hconfined : Confined sweep p q :=
    ((sweep.act_confined p).mono (fun _ _ h => h.1) fun _ h => h).exec_snd
  have hkeeps : KeepsAccounts p q := (sweep.act_accounts).exec_snd p
  have hp : Accounted p :=
    (run_accounts apply inputs _).2 (htwins.earlier hkeeps.1) (Accounted.start staleness system)
  -- by the assumption on the journal the snapshot lists no window twice, so no window is asked
  -- twice
  have hdistinct : q.2.IsDistinct := (hkeeps.2 htwins hp).distinct
  obtain ⟨targets, hsublist, hadmits, hrequested⟩ := hconfined.targets
  have hnodup : (targets.map (·.handle)).Nodup := (hsublist.map _).nodup hdistinct
  have hconfirmed : (confirmedIn asked).Sublist (targets.map (·.handle)) := by
    have hsublist := confirmedIn_sublist asked
    rwa [hrequested, List.map_map] at hsublist
  refine ⟨⟨targets, hsublist, hnodup, hadmits, hrequested, hconfirmed⟩, hconfined.checked,
    fun n hn => ?_, fun sweep p window hnot => ?_⟩
  · obtain ⟨hlist, hcount⟩ : Reported sweep n p q :=
      ((ensures_of_ok (Prod.ext hn rfl)).mp (sweep.act_confined p)).2 n rfl
    rw [hlist, Sweep.foldl_add sweep p.1.hidden (hconfirmed.nodup hnodup)]
    exact ⟨rfl, hcount⟩
  · obtain ⟨asked, hjournal, hsame⟩ : Bystands window p.2 (sweep.act.run.exec p).2.2 :=
      (sweep.act_conforms (hidingConform_bystands window)).exec_snd p
    rw [Workspace.since_eq hjournal] at hnot
    exact hsame hnot

/-- The snapshot is old, and the user has minimized one of its windows since: only the other one is
asked, and comes onto the list. -/
theorem sweep_confined_demo :
    ∃ p q, p = run (Journaled.apply Desktop.Event.apply)
        [.refresh, .outside (.setShowState ⟨0x1010⟩ .minimized)]
        ({}, Workspace.unseen 1000 { system := Desktop.demo }) ∧
      q = ((Sweep.onMonitor ⟨0x10⟩ none).act.run.exec p).2 ∧
      requestedIn (Workspace.since p.2 q.2) = [(⟨0x1020⟩, .minimize)] ∧
      Checked (Workspace.since p.2 q.2) ∧ q.1.hidden = [⟨0x1020⟩] := by
  obtain ⟨-, hchecked, hlist, -⟩ := sweep_confined 1000 Desktop.Event.apply Desktop.demo
    [.refresh, .outside (.setShowState ⟨0x1010⟩ .minimized)] (.onMonitor ⟨0x10⟩ none)
    (by decide +kernel)
  refine ⟨_, _, rfl, rfl, by decide +kernel, hchecked, ?_⟩
  exact (hlist 1 (by decide +kernel)).1.trans (by decide +kernel)

/-! ## Operations that fail -/

/-- An operation fails only at its first call, which asks for the monitor. By then an episode that
begins has forgotten the list. -/
theorem Sweep.act_fails (sweep : Sweep) (p : Minimizer × Workspace (Journaled σ)) :
    sweep.act.run.Ensures p
      (fun answer q => ∀ failure, answer = .error failure → q.1.hidden = sweep.kept p.1.hidden ∧
        Workspace.Made ⟨.monitorInfo sweep.monitor, .ok (.error failure)⟩ p.2 q.2)
      fun _ => True := by
  have hanswers : ∀ (act : Action (Minimizer × Workspace (Journaled σ)) Nat) q,
      (ExceptT.lift act : Fallible _ Nat).run.Ensures q
        (fun answer r => ∀ failure, answer = .error failure → r.1.hidden = sweep.kept p.1.hidden ∧
          Workspace.Made ⟨.monitorInfo sweep.monitor, .ok (.error failure)⟩ p.2 r.2)
        fun _ => True := by
    intro act q
    rw [ensures_run_lift]
    exact .of_forall (fun _ _ => nofun) fun _ => trivial
  cases sweep with
  | onMonitor monitor exclude =>
    show (minimizeOnMonitor monitor exclude).run.Ensures _ _ _
    unfold minimizeOnMonitor
    rw [ensures_run_lift_bind, setHidden, ensures_modify, ensures_run_bind]
    refine (call_made (.monitorInfo monitor) (⟨[]⟩, p.2)).mono (fun info q hq => ?_)
      fun _ _ => trivial
    rcases info with failure | info
    · rintro other ⟨⟩
      exact ⟨by rw [hq.1]; rfl, hq.2⟩
    · exact hanswers _ q
  | beside target monitor =>
    show (minimizeBeside target monitor).run.Ensures _ _ _
    unfold minimizeBeside
    rw [ensures_run_bind]
    refine (call_made (.monitorInfo monitor) p).mono (fun info q hq => ?_) fun _ _ => trivial
    rcases info with failure | info
    · rintro other ⟨⟩
      exact ⟨by rw [hq.1]; rfl, hq.2⟩
    · exact hanswers _ q

/-- The operation begins an episode. -/
def Sweep.begins : Sweep → Bool
  | .onMonitor _ _ => true
  | .beside _ _ => false

/-- An operation that fails has asked for its monitor and nothing else, and the snapshot is as it
was. The list is as it was too, unless an episode was to begin and there were windows on the list:
then it is empty, and a restore brings none of them back. -/
theorem failure_keeps_list_iff {sweep : Sweep} {p q : Minimizer × Workspace (Journaled σ)}
    {failure : Failure} (h : sweep.act.run.exec p = (.ok (.error failure), q)) :
    Workspace.since p.2 q.2 = [⟨.monitorInfo sweep.monitor, .ok (.error failure)⟩] ∧
      q.2.cache = p.2.cache ∧ (q.1 = p.1 ↔ (sweep.begins = true → p.1.hidden = [])) ∧
        (q.1 ≠ p.1 → q.1.hidden = [] ∧ restore.exec q = (.ok 0, q)) := by
  obtain ⟨hlist, hmade⟩ := (ensures_of_ok h).mp (sweep.act_fails p) failure rfl
  have hsame : q.1 = p.1 ↔ q.1.hidden = p.1.hidden :=
    ⟨congrArg hidden, fun heq => by
      rcases hq : q.1 with ⟨hidden⟩
      rw [hq] at heq
      rw [show hidden = p.1.hidden from heq]⟩
  refine ⟨Workspace.since_eq hmade.journal, hmade.cache, ?_, ?_⟩
  · rw [hsame, hlist]
    cases sweep with
    | onMonitor monitor exclude => simp [Sweep.kept, Sweep.begins, eq_comm]
    | beside target monitor => simp [Sweep.kept, Sweep.begins]
  · rw [Ne, hsame]
    intro hlost
    have hempty : q.1.hidden = [] := by
      cases sweep with
      | onMonitor monitor exclude => exact hlist
      | beside target monitor => exact absurd hlist hlost
    exact ⟨hempty, restore_exec_of_nil (by rcases hq : q.1 with ⟨hidden⟩; simp_all)⟩

/-- Minimizing beside a window of a monitor that does not exist keeps the list. -/
theorem failure_keeps_list_iff_demo :
    ∃ p q, p = run (Journaled.apply Desktop.Event.apply)
        [.operation (.minimizeOnMonitor ⟨0x10⟩ none)]
        ({}, Workspace.unseen 0 { system := Desktop.demo }) ∧
      (Sweep.beside ⟨0x1010⟩ ⟨0x99⟩).act.run.exec p =
        (.ok (.error (Desktop.monitorGone ⟨0x99⟩)), q) ∧
      q.1 = p.1 ∧ q.1.hidden = [⟨0x1020⟩, ⟨0x1010⟩] := by
  obtain ⟨p, hp⟩ : ∃ p, p = run (Journaled.apply Desktop.Event.apply)
      [.operation (.minimizeOnMonitor ⟨0x10⟩ none)]
      ({}, Workspace.unseen 0 { system := Desktop.demo }) := ⟨_, rfl⟩
  have hfails : (Sweep.beside ⟨0x1010⟩ ⟨0x99⟩).act.run.exec p =
      (.ok (.error (Desktop.monitorGone ⟨0x99⟩)),
        ((Sweep.beside ⟨0x1010⟩ ⟨0x99⟩).act.run.exec p).2) := by
    rw [hp]
    rfl
  have hkept := (failure_keeps_list_iff hfails).2.2.1.mpr nofun
  refine ⟨p, _, hp, hfails, hkept, ?_⟩
  rw [hkept, hp]
  decide +kernel

/-- An episode that cannot begin takes the windows of the one before with it: they stay minimized,
and a restore answers 0. -/
theorem failed_episode_loses_windows :
    ∃ p q, p = run Desktop.Event.apply [.operation (.minimizeOnMonitor ⟨0x10⟩ none)]
        ({}, Workspace.unseen 0 Desktop.demo) ∧
      (minimizeOnMonitor ⟨0x99⟩ none).run.exec p =
        (.ok (.error (Desktop.monitorGone ⟨0x99⟩)), q) ∧
      p.1.hidden = [⟨0x1020⟩, ⟨0x1010⟩] ∧ q.1.hidden = [] ∧ restore.exec q = (.ok 0, q) ∧
        q.2.system.isMinimized ⟨0x1010⟩ ∧ q.2.system.isMinimized ⟨0x1020⟩ :=
  ⟨_, _, rfl, rfl, by decide +kernel, by decide +kernel, rfl, by decide +kernel⟩

end Minimizer

end SoloScreen
