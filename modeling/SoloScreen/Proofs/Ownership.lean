import SoloScreen.Proofs.Journal
import SoloScreen.Proofs.LeftBehind

/-!
# Restores are owned

The minimizer calls a window back only if it got the window out of the way itself. This holds on any
window system, whatever it answers, as a fact about the journal of its native calls.

* `Minimizer.Owes`: in the journal the window was read as shown and then minimized on request, and
  it was not called back since. `Minimizer.Owned`: every window was owed its call back.
* `Minimizer.Accounted`: the list has no window twice, each window on it is owed a call back, and so
  was each window that was called back. Every operation keeps that (`Minimizer.step_accounts`).
* `Minimizer.restore_restoring`: a restore calls windows back in the order of the list and forgets
  it.
* `Minimizer.run_leaves`: on the emulated desktop a window that is minimized from before an episode
  on is left as it is.
* `Minimizer.restores_owned`: all of this in every run.

The one assumption is that no enumeration lists a window twice. A window that is listed twice and
answers "shown" both times would come onto the list twice, and the second call back would not be
owed. The assumption is about the whole journal, so the accounts are kept under the condition that
the journal at the end satisfies it, and it is handed back to the states before.
-/

namespace SoloScreen

open SoloScreen.Action

namespace Minimizer

variable {σ ε : Type}

/-! ## Runs -/

/-- What a minimizer is asked to do. -/
inductive Operation where
  /-- An episode begins on a monitor, with one window excluded or none. -/
  | minimizeOnMonitor (monitor : MonitorHandle) (exclude : Option WindowHandle)
  /-- The focus went to a window during an episode. -/
  | minimizeBeside (target : WindowHandle) (monitor : MonitorHandle)
  /-- An episode ends, and its windows come back. -/
  | restore
  /-- The list is dropped. -/
  | forget
  deriving DecidableEq, Repr

/-- Something that happens: an operation, something that others do to the cache, or an event
outside. -/
inductive Input (ε : Type) where
  /-- The minimizer is asked for something. -/
  | operation (operation : Operation)
  /-- Somebody has the cache make a pass. -/
  | refresh
  /-- Somebody empties the cache. -/
  | clearCache
  /-- Something happens to the window system. -/
  | outside (event : ε)
  deriving DecidableEq, Repr

section run

variable [WindowSystem σ]

/-- What the minimizer does on an operation; answers are dropped. -/
def Operation.act : Operation → Action (Minimizer × Workspace σ) Unit
  | .minimizeOnMonitor monitor exclude => do
    let _ ← (Minimizer.minimizeOnMonitor monitor exclude).run
  | .minimizeBeside target monitor => do
    let _ ← (Minimizer.minimizeBeside target monitor).run
  | .restore => do
    let _ ← Minimizer.restore
  | .forget => Minimizer.forget

/-- The state after an input; `apply` says what events outside do to the window system. -/
def step (apply : ε → σ → σ) (p : Minimizer × Workspace σ) : Input ε → Minimizer × Workspace σ
  | .operation operation => (operation.act.exec p).2
  | .refresh => (p.1, (Workspace.refresh.exec p.2).2)
  | .clearCache => (p.1, (Workspace.clearCache.exec p.2).2)
  | .outside event => (p.1, { p.2 with system := apply event p.2.system })

/-- The state after a list of inputs. -/
def run (apply : ε → σ → σ) (inputs : List (Input ε)) (p : Minimizer × Workspace σ) :
    Minimizer × Workspace σ := inputs.foldl (step apply) p

end run

/-! ## What is owed -/

/-- In the journal the window was read as shown, right after that it was minimized on request, which
was confirmed, and it has not been called back since. -/
def Owes (window : WindowHandle) (journal : List Exchange) : Prop :=
  ∃ before state after, state ≠ ShowState.minimized ∧
    journal = before ++ ⟨.placement window, .ok (.ok state)⟩ ::
      ⟨.setState window .minimize, .ok (.ok true)⟩ :: after ∧
    ∀ exchange ∈ after, exchange.request? ≠ some (window, .restore)

/-- Each window that was called back was owed it. -/
def Owned (journal : List Exchange) : Prop :=
  ∀ before exchange after window, journal = before ++ exchange :: after →
    exchange.request? = some (window, .restore) → Owes window before

/-- What is owed stays owed as long as the window is not called back. -/
theorem Owes.append {window : WindowHandle} {journal more : List Exchange}
    (h : Owes window journal)
    (hmore : ∀ exchange ∈ more, exchange.request? ≠ some (window, .restore)) :
    Owes window (journal ++ more) := by
  obtain ⟨before, state, after, hstate, rfl, hafter⟩ := h
  refine ⟨before, state, after ++ more, hstate, by simp, fun exchange hmem => ?_⟩
  rcases List.mem_append.mp hmem with hmem | hmem
  · exact hafter exchange hmem
  · exact hmore exchange hmem

/-- One more call, which may call back a window that is owed it. -/
theorem Owned.concat {journal : List Exchange} {exchange : Exchange} (h : Owned journal)
    (hexchange : ∀ window, exchange.request? = some (window, .restore) → Owes window journal) :
    Owned (journal ++ [exchange]) := by
  intro before other after window hsplit hother
  rcases List.eq_nil_or_concat after with rfl | ⟨after, last, rfl⟩
  · obtain ⟨rfl, hlast⟩ := List.append_inj' hsplit rfl
    obtain rfl : exchange = other := by simpa using hlast
    exact hexchange window hother
  · have hsplit : journal ++ [exchange] = (before ++ other :: after) ++ [last] := by
      simpa using hsplit
    exact h before other after window (List.append_inj' hsplit rfl).1 hother

/-- Where nothing is called back, nothing has to be owed. -/
theorem Owned.append {journal more : List Exchange} (h : Owned journal)
    (hmore : ∀ exchange ∈ more, ∀ window, exchange.request? ≠ some (window, .restore)) :
    Owned (journal ++ more) := by
  induction more generalizing journal with
  | nil => simpa using h
  | cons exchange rest ih =>
    have hfirst : Owned (journal ++ [exchange]) := h.concat fun window hwindow =>
      absurd hwindow (hmore exchange List.mem_cons_self window)
    simpa using ih hfirst fun other hmem => hmore other (List.mem_cons_of_mem _ hmem)

/-- The list has no window twice, each window on it is owed a call back, and so was each window that
was called back. -/
structure Accounted (p : Minimizer × Workspace (Journaled σ)) : Prop where
  /-- The list has no window twice, so a restore calls none back a second time. -/
  nodup : p.1.hidden.Nodup
  /-- Each window on the list is owed its call back. -/
  owed : ∀ window ∈ p.1.hidden, Owes window p.2.journal
  /-- All calls back until now were owed. -/
  owned : Owned p.2.journal
  /-- The snapshot records no window twice; the windows that an episode goes through come from
  it. -/
  distinct : p.2.IsDistinct

/-- The journal goes on, and the accounts are kept if no enumeration lists a window twice. -/
def KeepsAccounts (p q : Minimizer × Workspace (Journaled σ)) : Prop :=
  p.2.journal <+: q.2.journal ∧ (Workspace.NoTwins q.2.journal → Accounted p → Accounted q)

/-- What is kept by two steps is kept by both together. The assumption on the journal at the end
carries over to the one in between, which is a part of it. -/
theorem KeepsAccounts.isPath : IsPath (KeepsAccounts (σ := σ)) where
  refl _ := ⟨List.prefix_refl _, fun _ => id⟩
  trans h₁ h₂ := ⟨h₁.1.trans h₂.1,
    fun htwins hp => h₂.2 htwins (h₁.2 (htwins.earlier h₂.1) hp)⟩

/-- Calls were made, none of which calls a window back, and the snapshot is the same. -/
structure Spares (work work' : Workspace (Journaled σ)) : Prop where
  /-- The snapshot is the same. -/
  cache : work'.cache = work.cache
  /-- What was added calls no window back. -/
  journal : ∃ more, work'.journal = work.journal ++ more ∧
    ∀ exchange ∈ more, ∀ window, exchange.request? ≠ some (window, .restore)

/-- In particular the journal goes on. -/
theorem Spares.goesOn {work work' : Workspace (Journaled σ)} (h : Spares work work') :
    work.journal <+: work'.journal := by
  obtain ⟨-, more, hjournal, -⟩ := h
  exact hjournal ▸ List.prefix_append _ _

/-- Calls that call no window back keep the accounts as long as the list stays. -/
theorem Accounted.spared {p q : Minimizer × Workspace (Journaled σ)} (hp : Accounted p)
    (hsame : q.1 = p.1) (h : Spares p.2 q.2) : Accounted q := by
  obtain ⟨hcache, more, hjournal, hmore⟩ := h
  refine ⟨by rw [hsame]; exact hp.nodup, fun window hmem => ?_, ?_, ?_⟩
  · rw [hjournal]
    exact (hp.owed window (hsame ▸ hmem)).append fun exchange h => hmore exchange h window
  · rw [hjournal]
    exact hp.owned.append hmore
  · unfold Workspace.IsDistinct
    rw [hcache]
    exact hp.distinct

/-- At the start nothing is owed. -/
theorem Accounted.start (staleness : Nat) (system : σ) :
    Accounted ({}, Workspace.unseen staleness { system }) where
  nodup := List.nodup_nil
  owed := by simp
  owned := fun before _ _ _ hsplit => by simp [Workspace.journal, Workspace.unseen] at hsplit
  distinct := List.nodup_nil

/-- A window that is owed a call back comes onto the list. -/
theorem Accounted.stashed {p q : Minimizer × Workspace (Journaled σ)} (hp : Accounted p)
    (h : Spares p.2 q.2) {window : WindowHandle} (hnew : window ∉ p.1.hidden)
    (hlist : q.1.hidden = p.1.hidden ++ [window]) (howes : Owes window q.2.journal) :
    Accounted q := by
  have hspared : Accounted (p.1, q.2) := hp.spared rfl h
  refine ⟨?_, fun other hmem => ?_, hspared.owned, hspared.distinct⟩
  · rw [hlist]
    exact List.nodup_append.mpr ⟨hp.nodup, by simp, by
      rintro a ha b hb rfl
      exact hnew (List.mem_singleton.mp hb ▸ ha)⟩
  · rw [hlist] at hmem
    rcases List.mem_append.mp hmem with hmem | hmem
    · exact hspared.owed other hmem
    · rwa [List.mem_singleton.mp hmem]

variable [WindowSystem σ]

/-! ## Questions and requests -/

omit [WindowSystem σ] in
/-- What a query of the cache does to the accounts. -/
theorem query_accounts {α : Type} {act : Action (Workspace (Journaled σ)) α}
    (hasked : Follows Workspace.Asked act) (hdistinct : Follows Workspace.KeepsDistinct act) :
    Follows (KeepsAccounts (σ := σ)) act.onSecond := by
  intro p
  have hkeeps : ∀ work, Workspace.Asked p.2 work ∧ Workspace.KeepsDistinct p.2 work →
      KeepsAccounts p (p.1, work) := by
    rintro work ⟨⟨asked, hjournal, hasked⟩, hlonger, hdistinct⟩
    refine ⟨hlonger, fun htwins hp => ⟨hp.nodup, fun window hmem => ?_, ?_,
      hdistinct htwins hp.distinct⟩⟩
    · show Owes window work.journal
      rw [hjournal]
      exact (hp.owed window hmem).append fun exchange h => by simp [hasked exchange h]
    · show Owned work.journal
      rw [hjournal]
      exact hp.owned.append fun exchange h window => by simp [hasked exchange h]
  exact ensures_onSecond.mpr (((hasked p.2).and (hdistinct p.2)).mono
    (fun _ work h => hkeeps work h) fun work h => hkeeps work h)

/-- A question put to the window system keeps the accounts. -/
theorem call_accounts (call : NativeCall) (hquery : call.isQuery) : Follows KeepsAccounts
    (WindowSystem.call call : Action (Minimizer × Workspace (Journaled σ)) _) :=
  query_accounts (Workspace.queriesConform_asked.call call hquery)
    (Workspace.queriesConform_distinct.call call hquery)

/-- So does looking up the windows on a monitor. It may make a pass, and by the assumption this
records no window twice. -/
theorem windowsOn_accounts (monitor : MonitorHandle) (exclude : Option WindowHandle) :
    Follows (KeepsAccounts (σ := σ)) (Workspace.windowsOn monitor exclude).onSecond :=
  query_accounts (Workspace.queriesConform_asked.windowsOn monitor exclude)
    (Workspace.queriesConform_distinct.windowsOn monitor exclude)

/-- The list stays, and calls were made, none of which calls a window back. -/
def Waits (p q : Minimizer × Workspace (Journaled σ)) : Prop := q.1 = p.1 ∧ Spares p.2 q.2

/-- Only questions so far. -/
def Inquired (p q : Minimizer × Workspace (Journaled σ)) : Prop :=
  q.1 = p.1 ∧ q.2.cache = p.2.cache ∧ Workspace.Asked p.2 q.2

omit [WindowSystem σ] in
/-- Questions after questions are questions. -/
theorem Inquired.isPath : IsPath (Inquired (σ := σ)) where
  refl p := ⟨rfl, rfl, Workspace.Asked.isPath.refl p.2⟩
  trans h₁ h₂ := ⟨h₂.1.trans h₁.1, h₂.2.1.trans h₁.2.1,
    Workspace.Asked.isPath.trans h₁.2.2 h₂.2.2⟩

/-- A call of the minimizer is written down with its answer, also if it is cut short. -/
theorem call_made (call : NativeCall) (p : Minimizer × Workspace (Journaled σ)) :
    (WindowSystem.call call : Action (Minimizer × Workspace (Journaled σ)) _).Ensures p
      (fun answer q => q.1 = p.1 ∧ Workspace.Made ⟨call, .ok answer⟩ p.2 q.2)
      fun q => q.1 = p.1 ∧ ∃ e, Workspace.Made ⟨call, .error e⟩ p.2 q.2 :=
  ensures_onSecond.mpr ((Workspace.call_made call p.2).mono (fun _ _ h => ⟨rfl, h⟩)
    fun _ h => ⟨rfl, h⟩)

/-- A question, and nothing else, was added. -/
theorem query_inquired (call : NativeCall) (hquery : call.isQuery) : Follows Inquired
    (WindowSystem.call call : Action (Minimizer × Workspace (Journaled σ)) _) :=
  fun p => (call_made call p).mono
    (fun _ _ h => ⟨h.1, h.2.cache, h.2.asked (Exchange.request?_eq_none hquery)⟩)
    fun _ ⟨hsame, _, h⟩ => ⟨hsame, h.cache, h.asked (Exchange.request?_eq_none hquery)⟩

/-- The answers by which a window is visible, not a system window, and not minimized. -/
def Shows (window : WindowHandle) (answers : List Exchange) : Prop :=
  ∃ (className title : String) (state : ShowState), className ∉ Native.shellClasses ∧
    Text.trim title.toList ≠ [] ∧ state ≠ .minimized ∧
      answers = [⟨.visible window, .ok true⟩, ⟨.windowClass window, .ok (.ok className)⟩,
        ⟨.title window, .ok (.ok title)⟩, ⟨.toolWindow window, .ok (.ok false)⟩,
        ⟨.placement window, .ok (.ok state)⟩]

omit [WindowSystem σ] in
/-- By these answers nothing was requested. -/
theorem Shows.request?_eq_none {window : WindowHandle} {answers : List Exchange}
    (h : Shows window answers) : ∀ exchange ∈ answers, exchange.request? = none := by
  obtain ⟨className, title, state, -, -, -, rfl⟩ := h
  simp [Exchange.request?]

/-- A window that is not a system window was read as one: its class, its title, its style. -/
theorem isSystemWindow_reads (window : WindowHandle) (p : Minimizer × Workspace (Journaled σ)) :
    (Native.isSystemWindow window).run.Ensures p
      (fun answer q => answer = .ok false → ∃ className title : String,
        className ∉ Native.shellClasses ∧ Text.trim title.toList ≠ [] ∧
          q.2.journal = p.2.journal ++ [⟨.windowClass window, .ok (.ok className)⟩,
            ⟨.title window, .ok (.ok title)⟩, ⟨.toolWindow window, .ok (.ok false)⟩])
      fun _ => True := by
  unfold Native.isSystemWindow
  rw [ensures_run_bind]
  refine (call_made (.windowClass window) p).mono (fun answer q hq => ?_) fun _ _ => trivial
  rcases answer with failure | className
  · simp
  dsimp only
  split
  · simp
  rename_i hclass
  rw [ensures_run_bind]
  refine (call_made (.title window) q).mono (fun answer r hr => ?_) fun _ _ => trivial
  rcases answer with failure | title
  · simp
  dsimp only
  split
  · simp
  rename_i htitle
  refine (call_made (.toolWindow window) r).mono (fun answer t ht htool => ?_) fun _ _ => trivial
  obtain rfl : answer = .ok false := htool
  refine ⟨className, title, by simpa using hclass, by simpa using htitle, ?_⟩
  rw [ht.2.journal, hr.2.journal, hq.2.journal]
  simp

/-- An eligible window was just read as shown. -/
theorem isEligible_reads (window : WindowHandle) (p : Minimizer × Workspace (Journaled σ)) :
    (isEligible window).Ensures p
      (fun eligible q => Inquired p q ∧ (eligible = true → ∃ answers, Shows window answers ∧
        q.2.journal = p.2.journal ++ answers))
      (Inquired p) := by
  have hread : (isEligible window).Ensures p
      (fun eligible q => eligible = true → ∃ answers, Shows window answers ∧
        q.2.journal = p.2.journal ++ answers) fun _ => True := by
    unfold isEligible
    rw [ensures_bind]
    refine (call_made (.visible window) p).mono (fun visible q hq => ?_) fun _ _ => trivial
    split
    · rename_i hvisible
      rw [ensures_bind]
      refine (isSystemWindow_reads window q).mono (fun system r hr => ?_) fun _ _ => trivial
      split
      · obtain ⟨className, title, hclass, htitle, hjournal⟩ := hr rfl
        rw [ensures_bind]
        refine (call_made (.placement window) r).mono (fun answer t ht => ?_) fun _ _ => trivial
        rcases answer with failure | state
        · simp
        · intro hstate
          refine ⟨_, ⟨className, title, state, hclass, htitle, by simpa using hstate, rfl⟩, ?_⟩
          rw [ht.2.journal, hjournal, hq.2.journal, hvisible]
          simp
      · simp
    · simp
  have hasked : Follows (Inquired (σ := σ)) (isEligible window) :=
    isEligible_conforms Inquired.isPath.toSelf (fun call hquery _ => query_inquired call hquery)
      window
  exact ((hasked p).and hread).mono (fun _ _ h => h) fun _ h => h.1

/-- A request is written down, and it counts as confirmed just if the answer says so. -/
theorem request_made (window : WindowHandle) (command : WindowCommand)
    (p : Minimizer × Workspace (Journaled σ)) :
    (request window command).Ensures p
      (fun confirmed q => q.1 = p.1 ∧ ∃ answer,
        Workspace.Made ⟨.setState window command, answer⟩ p.2 q.2 ∧
          (confirmed = true ↔ answer = .ok (.ok true)))
      fun q => q.1 = p.1 ∧ ∃ e, Workspace.Made ⟨.setState window command, .error e⟩ p.2 q.2 := by
  unfold request
  rw [ensures_bind]
  refine (call_made (.setState window command) p).mono (fun answer q hq => ?_) fun _ h => h
  rcases answer with failure | confirmed
  · exact ⟨hq.1, _, hq.2, by simp⟩
  · exact ⟨hq.1, _, hq.2, by simp⟩

/-- What was written down while a window was tried: it was not asked to minimize, or that was
requested right after the window was read as shown. The request may be confirmed. -/
inductive Trial (window : WindowHandle) : Bool → List Exchange → Prop where
  /-- There were questions, and one of the answers or the lack of one spoke against it. -/
  | unasked {asked : List Exchange} (hasked : ∀ exchange ∈ asked, exchange.request? = none) :
      Trial window false asked
  /-- The window was read as shown and asked to minimize, and that was not confirmed. -/
  | refused {answers : List Exchange} {answer : Except Overflow (Except Failure Bool)}
      (hshows : Shows window answers) (hanswer : answer ≠ .ok (.ok true)) :
      Trial window false (answers ++ [⟨.setState window .minimize, answer⟩])
  /-- The window was read as shown and minimized on request. -/
  | confirmed {answers : List Exchange} (hshows : Shows window answers) :
      Trial window true (answers ++ [⟨.setState window .minimize, .ok (.ok true)⟩])

/-- A window was tried; the list and the cache are as they were. -/
structure Tried (window : WindowHandle) (hit : Bool)
    (p q : Minimizer × Workspace (Journaled σ)) : Prop where
  /-- The list is as it was. -/
  minimizer : q.1 = p.1
  /-- The cache is as it was. -/
  cache : q.2.cache = p.2.cache
  /-- What was written down is a trial with this outcome. -/
  journal : ∃ asked, q.2.journal = p.2.journal ++ asked ∧ Trial window hit asked

omit [WindowSystem σ] in
/-- To ask only is to try without a request. -/
theorem Inquired.tried {window : WindowHandle} {p q : Minimizer × Workspace (Journaled σ)}
    (h : Inquired p q) : Tried window false p q := by
  obtain ⟨hsame, hcache, asked, hjournal, hasked⟩ := h
  exact ⟨hsame, hcache, asked, hjournal, .unasked hasked⟩

/-- A window is asked to minimize if it is eligible; what follows depends on the answer. Both
operations that hide windows have this form and differ in what follows, so the questions and the
request are followed here once for both. -/
theorem ensures_trying {α : Type} {window : WindowHandle}
    {yes no : Action (Minimizer × Workspace (Journaled σ)) α}
    {p : Minimizer × Workspace (Journaled σ)}
    {good : α → Minimizer × Workspace (Journaled σ) → Prop}
    {cut : Minimizer × Workspace (Journaled σ) → Prop}
    (hyes : ∀ q, Tried window true p q → yes.Ensures q good cut)
    (hno : ∀ q, Tried window false p q → no.Ensures q good cut)
    (hcut : ∀ q, Tried window false p q → cut q) :
    (do
      if ← isEligible window then
        if ← request window .minimize then yes else no
      else no : Action _ α).Ensures p good cut := by
  rw [ensures_bind]
  refine (isEligible_reads window p).mono (fun eligible q hq => ?_) fun q hq => hcut q hq.tried
  obtain ⟨hinquired, hreads⟩ := hq
  rcases eligible with _ | _
  · exact hno q hinquired.tried
  obtain ⟨answers, hshows, hjournal⟩ := hreads rfl
  have htried : ∀ r hit answer, r.1 = q.1 →
      Workspace.Made ⟨.setState window .minimize, answer⟩ q.2 r.2 →
        Trial window hit (answers ++ [⟨.setState window .minimize, answer⟩]) →
          Tried window hit p r := fun r hit answer hsame hmade htrial =>
    ⟨hsame.trans hinquired.1, hmade.cache.trans hinquired.2.1, _,
      by rw [hmade.journal, hjournal, List.append_assoc], htrial⟩
  rw [if_pos rfl, ensures_bind]
  refine (request_made window .minimize q).mono (fun confirmed r hr => ?_) fun r hr => ?_
  · obtain ⟨hsame, answer, hmade, hanswer⟩ := hr
    rcases confirmed with _ | _
    · exact hno r (htried r false answer hsame hmade (.refused hshows (by simpa using hanswer)))
    · obtain rfl := hanswer.mp rfl
      exact hyes r (htried r true _ hsame hmade (.confirmed hshows))
  · obtain ⟨hsame, e, hmade⟩ := hr
    exact hcut r (htried r false _ hsame hmade (.refused hshows nofun))

omit [WindowSystem σ] in
/-- Trying a window calls no window back. -/
theorem Tried.waits {window : WindowHandle} {hit : Bool}
    {p q : Minimizer × Workspace (Journaled σ)} (h : Tried window hit p q) : Waits p q := by
  obtain ⟨hsame, hcache, asked, hjournal, htrial⟩ := h
  refine ⟨hsame, hcache, asked, hjournal, fun exchange hmem other => ?_⟩
  have hlast : ∀ answers answer, Shows window answers →
      exchange ∈ answers ++ [⟨.setState window .minimize, answer⟩] →
        exchange.request? ≠ some (other, .restore) := by
    intro answers answer hshows hmem
    rcases List.mem_append.mp hmem with hmem | hmem
    · simp [hshows.request?_eq_none exchange hmem]
    · obtain rfl := List.mem_singleton.mp hmem
      simp [Exchange.request?]
  cases htrial with
  | unasked hasked => simp [hasked exchange hmem]
  | refused hshows => exact hlast _ _ hshows hmem
  | confirmed hshows => exact hlast _ _ hshows hmem

omit [WindowSystem σ] in
/-- A window that was minimized is owed a call back. -/
theorem Tried.owes {window : WindowHandle} {p q : Minimizer × Workspace (Journaled σ)}
    (h : Tried window true p q) : Owes window q.2.journal := by
  obtain ⟨-, -, asked, hjournal, htrial⟩ := h
  cases htrial with
  | confirmed hshows =>
    obtain ⟨className, title, state, -, -, hstate, rfl⟩ := hshows
    exact ⟨p.2.journal ++ [⟨.visible window, .ok true⟩,
      ⟨.windowClass window, .ok (.ok className)⟩, ⟨.title window, .ok (.ok title)⟩,
      ⟨.toolWindow window, .ok (.ok false)⟩], state, [], hstate, by rw [hjournal]; simp, by simp⟩

/-! ## Operations -/

/-- A window comes onto the list only if it is owed a call back. -/
theorem hide_ensures (window : WindowHandle) (p : Minimizer × Workspace (Journaled σ)) :
    (hide window).Ensures p
      (fun _ q => Spares p.2 q.2 ∧ (q.1 = p.1 ∨
        (q.1.hidden = p.1.hidden ++ [window] ∧ Owes window q.2.journal))) (Waits p) := by
  unfold hide
  refine ensures_trying (fun q hq => ?_) (fun q hq => ⟨hq.waits.2, .inl hq.minimizer⟩)
    fun _ h => h.waits
  simp only [ensures_bind, hiddenWindows, setHidden, ensures_get, ensures_pure, ensures_modify]
  exact ⟨hq.waits.2, .inr ⟨by rw [hq.minimizer], hq.owes⟩⟩

/-- The window comes onto the list only if it is not there, so the accounts are kept. -/
theorem hideAgain_accounts (spared : Option ProcessId) (record : WindowRecord) :
    Follows (KeepsAccounts (σ := σ)) (hideAgain spared record) := by
  intro p
  have hwaits : ∀ {hit : Bool} q, Tried record.handle hit p q → KeepsAccounts p q :=
    fun q hq => ⟨hq.waits.2.goesOn, fun _ hp => hp.spared hq.minimizer hq.waits.2⟩
  unfold hideAgain
  split
  · exact KeepsAccounts.isPath.refl p
  refine ensures_trying (fun q hq => ?_) hwaits hwaits
  simp only [ensures_bind, hiddenWindows, setHidden, ensures_get, ensures_pure]
  by_cases hmem : record.handle ∈ q.1.hidden
  · simpa [hmem] using hwaits q hq
  · simp only [List.contains_eq_mem, hmem, decide_false, Bool.not_false, if_true, ensures_bind,
      ensures_get, ensures_pure, ensures_modify]
    refine ⟨hq.waits.2.goesOn,
      fun _ hp => hp.stashed hq.waits.2 (hq.minimizer ▸ hmem) ?_ hq.owes⟩
    rw [hq.minimizer]

/-- A focus event during an episode keeps the accounts. -/
theorem minimizeBeside_accounts (target : WindowHandle) (monitor : MonitorHandle) :
    Follows (KeepsAccounts (σ := σ)) (minimizeBeside target monitor).run := by
  have hR := KeepsAccounts.isPath (σ := σ)
  unfold minimizeBeside
  refine .run_bind hR (call_accounts (.monitorInfo monitor) rfl) fun _ => .run_lift ?_
  refine .bind hR (call_accounts (.process target) rfl) fun owner => ?_
  refine .bind hR (windowsOn_accounts monitor (some target)) fun records => ?_
  exact .count hR records fun record => hideAgain_accounts owner.toOption record

/-- The windows on a monitor are windows of the snapshot, each once. -/
theorem windowsOn_distinct (monitor : MonitorHandle) (exclude : Option WindowHandle)
    (work : Workspace (Journaled σ)) :
    (Workspace.windowsOn monitor exclude).Ensures work
      (fun records work' => work'.IsDistinct → (records.map (·.handle)).Nodup)
      fun _ => True :=
  ((Workspace.windowsOn_readsOff monitor exclude).ensures work).mono
    (fun _ _ hrecords h => hrecords ▸ (List.filter_sublist.map _).nodup h) fun _ => id

/-- Windows that are not on the list yet, each once, are hidden. The invariant is that the list and
the windows still to come have no window in common. -/
theorem hideEach_accounts {records : List WindowRecord} {p : Minimizer × Workspace (Journaled σ)}
    (hfresh : Accounted p → (p.1.hidden ++ records.map (·.handle)).Nodup) :
    (Action.each (fun record => hide record.handle) records).Ensures p
      (fun _ => KeepsAccounts p) (KeepsAccounts p) := by
  refine (Ensures.each (I := fun rest q => p.2.journal <+: q.2.journal ∧
    (Workspace.NoTwins q.2.journal → Accounted p →
      Accounted q ∧ (q.1.hidden ++ rest.map (·.handle)).Nodup)) (fun record rest q _ hq => ?_)
    ⟨List.prefix_refl _, fun _ hp => ⟨hp, hfresh hp⟩⟩).mono
    (fun _ q hq => ⟨hq.1, fun htwins hp => (hq.2 htwins hp).1⟩) fun _ h => h
  refine (hide_ensures record.handle q).mono (fun _ r hr => ?_) fun r hr =>
    ⟨hq.1.trans hr.2.goesOn, fun htwins hp =>
      (hq.2 (htwins.earlier hr.2.goesOn) hp).1.spared hr.1 hr.2⟩
  obtain ⟨hspares, hlist⟩ := hr
  refine ⟨hq.1.trans hspares.goesOn, fun htwins hp => ?_⟩
  obtain ⟨haccounted, hnodup⟩ := hq.2 (htwins.earlier hspares.goesOn) hp
  -- the window comes onto the list, and then it is neither there already nor still to come; or not
  rcases hlist with hsame | ⟨hlist, howes⟩
  · refine ⟨haccounted.spared hsame hspares, ?_⟩
    rw [hsame]
    exact hnodup.sublist ((List.sublist_cons_self _ _).append_left _)
  · have hsplit : (q.1.hidden ++ [record.handle] ++ rest.map (·.handle)).Nodup := by
      simpa using hnodup
    refine ⟨haccounted.stashed hspares (fun hmem => ?_) hlist howes, by rwa [hlist]⟩
    have hlast := (List.nodup_append.mp (List.nodup_append.mp hsplit).1).2.2
    exact hlast _ hmem _ (List.mem_singleton_self _) rfl

/-- An episode begins with an empty list and goes through windows of the snapshot, each once. -/
theorem minimizeOnMonitor_accounts (monitor : MonitorHandle) (exclude : Option WindowHandle) :
    Follows (KeepsAccounts (σ := σ)) (minimizeOnMonitor monitor exclude).run := by
  have hR := KeepsAccounts.isPath (σ := σ)
  intro p
  have hforget : KeepsAccounts p (⟨[]⟩, p.2) :=
    ⟨List.prefix_refl _, fun _ hp => ⟨List.nodup_nil, by simp, hp.owned, hp.distinct⟩⟩
  have hsame : ∀ {α : Type} (act : Action (Workspace (Journaled σ)) α),
      Follows (fun p q : Minimizer × Workspace (Journaled σ) => q.1 = p.1) act.onSecond :=
    fun act => .fst_onSecond act
  unfold minimizeOnMonitor
  rw [ensures_run_lift_bind, setHidden, ensures_modify, ensures_run_bind]
  refine ((call_accounts (.monitorInfo monitor) rfl (⟨[]⟩, p.2)).and
    (hsame (WindowSystem.call (.monitorInfo monitor)) (⟨[]⟩, p.2))).mono (fun info q hq => ?_)
    fun q hq => hR.trans hforget hq.1
  rcases info with failure | info
  · exact hR.trans hforget hq.1
  have hstart := hR.trans hforget hq.1
  dsimp only
  have hrecords : (Workspace.windowsOn monitor exclude).onSecond.Ensures q
      (fun records r => r.2.IsDistinct → (records.map (·.handle)).Nodup) fun _ => True :=
    ensures_onSecond.mpr (windowsOn_distinct monitor exclude q.2)
  rw [ensures_run_lift, ensures_bind]
  refine (((windowsOn_accounts monitor exclude q).and (hsame _ q)).and hrecords).mono
    (fun records r hr => ?_) fun r hr => hR.trans hstart hr.1.1
  obtain ⟨⟨hkeeps, hlist⟩, hdistinct⟩ := hr
  have hempty : r.1.hidden = [] := by rw [hlist, hq.2]
  have hstart := hR.trans hstart hkeeps
  rw [ensures_bind]
  have hfresh : Accounted r → (r.1.hidden ++ records.map (·.handle)).Nodup := by
    intro hr
    rw [hempty, List.nil_append]
    exact hdistinct hr.distinct
  refine (hideEach_accounts hfresh).mono (fun _ t ht => ?_) fun _ ht => hR.trans hstart ht
  unfold hiddenWindows
  simp only [ensures_bind, ensures_get, ensures_pure]
  exact hR.trans hstart ht

/-! ## Calling windows back -/

/-- There were questions, and then the window was called back, or it was not. -/
structure Called (window : WindowHandle) (p q : Minimizer × Workspace (Journaled σ)) : Prop where
  /-- The list is as it was. -/
  minimizer : q.1 = p.1
  /-- The cache is as it was. -/
  cache : q.2.cache = p.2.cache
  /-- Questions, and then one request or none. -/
  journal : ∃ asked last, q.2.journal = p.2.journal ++ asked ++ last ∧
    (∀ exchange ∈ asked, exchange.request? = none) ∧
    (last = [] ∨ ∃ answer, last = [⟨.setState window .restore, answer⟩])

omit [WindowSystem σ] in
/-- It was not called back, as the questions spoke against it. -/
theorem Inquired.called {window : WindowHandle} {p q : Minimizer × Workspace (Journaled σ)}
    (h : Inquired p q) : Called window p q := by
  obtain ⟨hsame, hcache, asked, hjournal, hasked⟩ := h
  exact ⟨hsame, hcache, asked, [], by simpa using hjournal, hasked, .inl rfl⟩

/-- Calling one window back: it must exist and be visible, and then it is requested. -/
theorem unhide_called (window : WindowHandle) :
    Follows (Called (σ := σ) window) (unhide window) := by
  intro p
  unfold unhide
  rw [ensures_bind]
  refine (query_inquired (.isWindow window) rfl p).mono (fun isWindow q hq => ?_)
    fun _ h => h.called
  split
  · rw [ensures_bind]
    refine (query_inquired (.visible window) rfl q).mono (fun visible r hr => ?_)
      fun _ h => (Inquired.isPath.trans hq h).called
    have hasked := Inquired.isPath.trans hq hr
    split
    · obtain ⟨hsame, hcache, asked, hjournal, hasked⟩ := hasked
      have hcalled : ∀ t, t.1 = r.1 → ∀ answer,
          Workspace.Made ⟨.setState window .restore, answer⟩ r.2 t.2 → Called window p t :=
        fun t ht answer hmade => ⟨ht.trans hsame, hmade.cache.trans hcache, asked, _,
          by rw [hmade.journal, hjournal], hasked, .inr ⟨answer, rfl⟩⟩
      exact (request_made window .restore r).mono
        (fun _ t ⟨ht, answer, hmade, _⟩ => hcalled t ht answer hmade)
        fun t ⟨ht, e, hmade⟩ => hcalled t ht (.error e) hmade
    · exact hasked.called
  · exact hq.called

/-- How far the windows of the list have been called back when `rest` is still to be called. -/
structure Restoring (p : Minimizer × Workspace (Journaled σ)) (rest : List WindowHandle)
    (q : Minimizer × Workspace (Journaled σ)) : Prop where
  /-- The list was emptied at the beginning. -/
  list : q.1 = ⟨[]⟩
  /-- The cache is as it was. -/
  cache : q.2.cache = p.2.cache
  /-- One request at most for each window so far, in the order of the list. -/
  requests : ∃ called more, p.1.hidden = called ++ rest ∧ q.2.journal = p.2.journal ++ more ∧
    (more.filterMap (·.request?)).Sublist (called.map (·, .restore))
  /-- What is still to be called is still owed it. -/
  accounts : Accounted p → (∀ window ∈ rest, Owes window q.2.journal) ∧ Owned q.2.journal

omit [WindowSystem σ] in
/-- One more window is called back. It was owed that, and the others still are, for the list has no
window twice. -/
theorem Restoring.step {p q r : Minimizer × Workspace (Journaled σ)} {window : WindowHandle}
    {rest : List WindowHandle} (h : Restoring p (window :: rest) q) (hcalled : Called window q r) :
    Restoring p rest r := by
  obtain ⟨hsame, hcache, asked, last, hjournal, hasked, hlast⟩ := hcalled
  obtain ⟨called, more, hlist, hmore, hsublist⟩ := h.requests
  have hquiet : ∀ other, ∀ exchange ∈ asked, exchange.request? ≠ some (other, .restore) :=
    fun other exchange hmem => by simp [hasked exchange hmem]
  have hrequest : ∀ exchange ∈ last, exchange.request? = some (window, .restore) := by
    rcases hlast with rfl | ⟨answer, rfl⟩
    · simp
    · simp [Exchange.request?]
  refine ⟨hsame.trans h.list, hcache.trans h.cache,
    ⟨called ++ [window], more ++ asked ++ last, by simpa using hlist,
      by simp [hjournal, hmore], ?_⟩, fun hp => ?_⟩
  · have hsilent : asked.filterMap (·.request?) = [] := List.filterMap_eq_nil_iff.mpr hasked
    rw [List.filterMap_append, List.filterMap_append, hsilent, List.append_nil, List.map_append]
    refine hsublist.append ?_
    rcases hlast with rfl | ⟨answer, rfl⟩
    · simp
    · simp [Exchange.request?]
  obtain ⟨howes, howned⟩ := h.accounts hp
  have hnew : window ∉ rest := by
    have hnodup := hp.nodup
    rw [hlist] at hnodup
    exact (List.nodup_cons.mp (List.nodup_append.mp hnodup).2.1).1
  rw [hjournal]
  refine ⟨fun other hmem => ?_, ?_⟩
  · refine ((howes other (List.mem_cons_of_mem _ hmem)).append (hquiet other)).append
      fun exchange hexchange hother => hnew ?_
    obtain rfl : window = other := by simpa [hrequest exchange hexchange] using hother
    exact hmem
  · have howned := howned.append fun exchange hmem other => hquiet other exchange hmem
    rcases hlast with rfl | ⟨answer, rfl⟩
    · simpa using howned
    · refine howned.concat fun other hother => ?_
      obtain rfl : window = other := by simpa [Exchange.request?] using hother
      exact (howes window List.mem_cons_self).append (hquiet window)

/-- A restore calls the windows of the list back in their order, each at most once, and forgets the
list, also when it is cut short. -/
theorem restore_restoring (p : Minimizer × Workspace (Journaled σ)) :
    restore.Ensures p (fun _ q => ∃ rest, Restoring p rest q)
      fun q => ∃ rest, Restoring p rest q := by
  unfold restore
  simp only [ensures_bind, hiddenWindows, setHidden, ensures_get, ensures_pure, ensures_modify]
  refine (Ensures.count (n := 0) (I := fun _ rest q => Restoring p rest q)
    (fun _ window rest q _ hq => ?_) ?_).mono (fun _ q hq => ⟨[], hq⟩) fun _ => id
  · exact (unhide_called window q).mono (fun _ _ h => hq.step h) fun _ h => ⟨rest, hq.step h⟩
  · exact ⟨rfl, rfl, ⟨[], [], by simp, by simp, by simp⟩, fun hp => ⟨hp.owed, hp.owned⟩⟩

/-- A restore keeps the accounts, also when it is cut short: nothing is on the list any more. -/
theorem restore_accounts : Follows (KeepsAccounts (σ := σ)) restore := by
  intro p
  have hkeeps : ∀ q, (∃ rest, Restoring p rest q) → KeepsAccounts p q := by
    rintro q ⟨rest, h⟩
    obtain ⟨called, more, -, hmore, -⟩ := h.requests
    refine ⟨hmore ▸ List.prefix_append _ _, fun _ hp => ⟨?_, ?_, (h.accounts hp).2, ?_⟩⟩
    · simp [h.list]
    · simp [h.list]
    · unfold Workspace.IsDistinct
      rw [h.cache]
      exact hp.distinct
  exact (restore_restoring p).mono (fun _ => hkeeps) hkeeps

/-! ## Runs keep the accounts -/

/-- Every operation keeps the accounts. -/
theorem act_accounts (operation : Operation) :
    Follows (KeepsAccounts (σ := σ)) operation.act := by
  have hR := KeepsAccounts.isPath (σ := σ)
  cases operation with
  | minimizeOnMonitor monitor exclude =>
    exact .bind hR (minimizeOnMonitor_accounts monitor exclude) fun _ => .pure hR _
  | minimizeBeside target monitor =>
    exact .bind hR (minimizeBeside_accounts target monitor) fun _ => .pure hR _
  | restore => exact .bind hR restore_accounts fun _ => .pure hR _
  | forget =>
    exact fun p => ⟨List.prefix_refl _,
      fun _ hp => ⟨List.nodup_nil, by simp, hp.owned, hp.distinct⟩⟩

/-- Every input keeps the accounts. What is done to the cache or outside calls no window back. -/
theorem step_accounts (apply : ε → σ → σ) (p : Minimizer × Workspace (Journaled σ))
    (input : Input ε) : KeepsAccounts p (step (Journaled.apply apply) p input) := by
  cases input with
  | operation operation => exact (act_accounts operation).exec_snd p
  | refresh =>
    exact (query_accounts Workspace.queriesConform_asked.refresh
      Workspace.queriesConform_distinct.refresh).exec_snd p
  | clearCache =>
    exact ⟨List.prefix_refl _, fun _ hp => ⟨hp.nodup, hp.owed, hp.owned, List.nodup_nil⟩⟩
  | outside event =>
    exact ⟨List.prefix_refl _, fun _ hp => ⟨hp.nodup, hp.owed, hp.owned, hp.distinct⟩⟩

/-- A run keeps the accounts. -/
theorem run_accounts (apply : ε → σ → σ) (inputs : List (Input ε))
    (p : Minimizer × Workspace (Journaled σ)) :
    KeepsAccounts p (run (Journaled.apply apply) inputs p) := by
  induction inputs generalizing p with
  | nil => exact KeepsAccounts.isPath.refl p
  | cons input rest ih => exact KeepsAccounts.isPath.trans (step_accounts apply p input) (ih _)

/-! ## A window that stays minimized -/

variable {window : WindowHandle}

/-- The window is as it was, and it is not on the list. -/
def Leaves (window : WindowHandle) (p q : Minimizer × Workspace Desktop) : Prop :=
  q.2.system.find? window = p.2.system.find? window ∧ window ∉ q.1.hidden

/-- What minimizes windows leaves a window alone that is minimized. -/
theorem leaves_of_adds {list : List WindowHandle} {p q : Minimizer × Workspace Desktop}
    (h : Stage.Adds window (list, p.2.system) (stage q)) (hmin : p.2.system.isMinimized window)
    (hlist : window ∉ list) : Leaves window p q := by
  cases h with
  | same hfind hmem => exact ⟨hfind, fun h => hlist (hmem.mp h)⟩
  | hid w hw _ hstate _ _ =>
    obtain ⟨w', hw', hminimized⟩ := Desktop.isMinimized_iff.mp hmin
    rw [hw] at hw'
    exact absurd (Option.some.inj hw' ▸ hminimized) hstate

/-- A restore leaves windows alone that are not on the list. -/
theorem restore_leaves {p : Minimizer × Workspace Desktop} (hlist : window ∉ p.1.hidden) :
    restore.Ensures p (fun _ => Leaves window p) fun _ => False := by
  unfold restore
  simp only [ensures_bind, hiddenWindows, ensures_get, ensures_pure, setHidden, ensures_modify]
  refine Ensures.count (n := 0) (I := fun _ _ => Leaves window p)
    (fun _ other rest q hmem hq => ?_) ⟨rfl, by simp⟩
  rw [ensures_of_ok (unhide_exec other q)]
  refine ⟨?_, hq.2⟩
  rw [Desktop.find?_recalled, if_neg]
  · exact hq.1
  · rintro ⟨rfl, -⟩
    exact hlist hmem

/-- The operation begins an episode. -/
def Operation.begins : Operation → Bool
  | .minimizeOnMonitor _ _ => true
  | _ => false

/-- A window that is minimized stays as it is through an operation, if it is on the list at most
when the list is about to be forgotten. -/
theorem act_leaves (operation : Operation) {p : Minimizer × Workspace Desktop}
    (hmin : p.2.system.isMinimized window) (hlist : window ∈ p.1.hidden → operation.begins) :
    Leaves window p (operation.act.exec p).2 := by
  refine Ensures.exec_snd ?_
  have hlist' : operation.begins = false → window ∉ p.1.hidden := fun hbegins hmem => by
    simp [hlist hmem] at hbegins
  cases operation with
  | minimizeOnMonitor monitor exclude =>
    unfold Operation.act
    rw [ensures_bind]
    exact (minimizeOnMonitor_adds window monitor exclude p).mono
      (fun _ _ h => leaves_of_adds h hmin List.not_mem_nil)
      fun _ h => leaves_of_adds h hmin List.not_mem_nil
  | minimizeBeside target monitor =>
    unfold Operation.act
    rw [ensures_bind]
    exact (minimizeBeside_adds window target monitor p).mono
      (fun _ _ h => leaves_of_adds h hmin (hlist' rfl))
      fun _ h => leaves_of_adds h hmin (hlist' rfl)
  | restore =>
    unfold Operation.act
    rw [ensures_bind]
    exact (restore_leaves (hlist' rfl)).mono (fun _ _ h => h) fun _ => False.elim
  | forget => exact ⟨rfl, List.not_mem_nil⟩

/-- The input comes from outside. -/
def Input.isOutside : Input ε → Bool
  | .outside _ => true
  | _ => false

/-- The same for all inputs that do not come from outside. -/
theorem step_leaves {input : Input Desktop.Event} (hinput : input.isOutside = false)
    {p : Minimizer × Workspace Desktop} (hmin : p.2.system.isMinimized window)
    (hlist : window ∈ p.1.hidden → ∃ operation, input = .operation operation ∧ operation.begins) :
    Leaves window p (step Desktop.Event.apply p input) := by
  cases input with
  | operation operation =>
    refine act_leaves operation hmin fun hmem => ?_
    obtain ⟨other, hother, hbegins⟩ := hlist hmem
    exact Input.operation.inj hother ▸ hbegins
  | refresh =>
    have halike := (Workspace.queriesConform_alike.refresh).exec_snd p.2
    exact ⟨halike.find? window, fun hmem => by simpa using hlist hmem⟩
  | clearCache => exact ⟨rfl, fun hmem => by simpa using hlist hmem⟩
  | outside event => simp [Input.isOutside] at hinput

section run

variable {inputs : List (Input Desktop.Event)} {p : Minimizer × Workspace Desktop}

/-- The window is minimized, and not on the list unless the next input begins an episode. -/
def Apart (window : WindowHandle) (rest : List (Input Desktop.Event))
    (p : Minimizer × Workspace Desktop) : Prop :=
  p.2.system.isMinimized window ∧ (window ∈ p.1.hidden →
    ∃ operation, rest.head? = some (.operation operation) ∧ operation.begins)

/-- Nobody else brings the window back: after each event outside it is minimized. -/
def Stays (window : WindowHandle) (inputs : List (Input Desktop.Event))
    (p : Minimizer × Workspace Desktop) : Prop :=
  ∀ before event, before ++ [.outside event] <+: inputs →
    (run Desktop.Event.apply (before ++ [.outside event]) p).2.system.isMinimized window

/-- The last input of a run is a step after the others. -/
theorem run_concat {σ ε : Type} [WindowSystem σ] (apply : ε → σ → σ) (before : List (Input ε))
    (input : Input ε) (p : Minimizer × Workspace σ) :
    run apply (before ++ [input]) p = step apply (run apply before p) input := by
  simp [run]

/-- Along a run in which nobody else brings it back, the window stays minimized and off the list.
The induction is from the end of the run, as the assumption is about what the inputs before lead
to. -/
theorem run_apart (hp : Apart window inputs p) (hstays : Stays window inputs p)
    {before rest : List (Input Desktop.Event)} (hsplit : inputs = before ++ rest) :
    Apart window rest (run Desktop.Event.apply before p) := by
  induction before using List.reverseRecOn generalizing rest with
  | nil =>
    obtain rfl : inputs = rest := by simpa using hsplit
    exact hp
  | append_singleton before input ih =>
    obtain ⟨hmin, hlist⟩ : Apart window (input :: rest) (run Desktop.Event.apply before p) :=
      ih (by simpa using hsplit)
    have hbefore : before ++ [input] <+: inputs := ⟨rest, hsplit.symm⟩
    -- a step of the minimizer or the cache leaves the window; an event outside may move it, but
    -- leaves it minimized by assumption
    rcases hinput : input.isOutside with _ | _
    · have hleaves := step_leaves hinput hmin fun hmem => by simpa using hlist hmem
      rw [run_concat]
      refine ⟨?_, fun hmem => absurd hmem hleaves.2⟩
      rw [Desktop.isMinimized, hleaves.1]
      exact hmin
    · obtain ⟨event, rfl⟩ : ∃ event, input = .outside event := by
        cases input <;> simp_all [Input.isOutside]
      refine ⟨hstays before event hbefore, fun hmem => ?_⟩
      rw [run_concat] at hmem
      simpa using hlist hmem

/-- A window that is minimized before an episode stays as it is as long as nobody else brings it
back. -/
theorem run_leaves (hp : Apart window inputs p) (hstays : Stays window inputs p)
    {before : List (Input Desktop.Event)} {input : Input Desktop.Event}
    (hbefore : before ++ [input] <+: inputs) (hinput : input.isOutside = false) :
    (run Desktop.Event.apply (before ++ [input]) p).2.system.find? window =
      (run Desktop.Event.apply before p).2.system.find? window := by
  obtain ⟨rest, hsplit⟩ := hbefore
  obtain ⟨hmin, hlist⟩ : Apart window (input :: rest) (run Desktop.Event.apply before p) :=
    run_apart hp hstays (by simpa using hsplit.symm)
  rw [run_concat]
  exact (step_leaves hinput hmin fun hmem => by simpa using hlist hmem).1

end run

/-! ## Ownership -/

/-- Restores are owned, whatever the window system answers and however old a snapshot may be, as
long as no enumeration lists a window twice. In every run the list has no window twice, and each
window that was called back had been read as shown and then minimized on request, and was not called
back since. A restore calls the windows of the list back in their order, each at most once, and
forgets the list, so that a second one asks nothing and answers 0. On the emulated desktop a window
that is minimized from before the episode on is therefore left as it is. -/
theorem restores_owned (staleness : Nat) (apply : ε → σ → σ) (system : σ) (inputs : List (Input ε))
    (htwins : Workspace.NoTwins (run (Journaled.apply apply) inputs
      ({}, Workspace.unseen staleness { system })).2.journal) :
    let p := run (Journaled.apply apply) inputs ({}, Workspace.unseen staleness { system })
    let q := (restore.exec p).2
    (p.1.hidden.Nodup ∧ Owned p.2.journal) ∧
      (q.1.hidden = [] ∧ restore.exec q = (.ok 0, q) ∧
        ∃ more, q.2.journal = p.2.journal ++ more ∧
          (more.filterMap (·.request?)).Sublist (p.1.hidden.map (·, .restore))) ∧
      ∀ (desktop : Desktop) (earlier later before : List (Input Desktop.Event))
        (input : Input Desktop.Event) (window : WindowHandle),
        let p := run Desktop.Event.apply earlier ({}, Workspace.unseen staleness desktop)
        Apart window later p → Stays window later p → before ++ [input] <+: later →
          input.isOutside = false →
            (run Desktop.Event.apply (before ++ [input]) p).2.system.find? window =
              (run Desktop.Event.apply before p).2.system.find? window := by
  intro p q
  have hp : Accounted p :=
    (run_accounts apply inputs _).2 htwins (Accounted.start staleness system)
  obtain ⟨rest, hq⟩ : ∃ rest, Restoring p rest q := (restore_restoring p).exec_snd
  obtain ⟨called, more, hlist, hjournal, hsublist⟩ := hq.requests
  refine ⟨⟨hp.nodup, hp.owned⟩, ⟨by rw [hq.list], restore_exec_of_nil hq.list, more, hjournal, ?_⟩,
    fun _ _ _ _ _ _ hapart hstays hbefore hinput => run_leaves hapart hstays hbefore hinput⟩
  rw [hlist, List.map_append]
  exact hsublist.trans (List.sublist_append_left _ _)

/-- The snapshot is old, and the user has minimized one of its windows since. An episode begins and
ends: the other window is minimized and called back, that one is left alone. -/
theorem restores_owned_demo :
    let earlier : List (Input Desktop.Event) :=
      [.refresh, .outside (.setShowState ⟨0x1010⟩ .minimized)]
    let later : List (Input Desktop.Event) :=
      [.operation (.minimizeOnMonitor ⟨0x10⟩ none), .operation .restore]
    let p := run (Journaled.apply Desktop.Event.apply) (earlier ++ later)
      ({}, Workspace.unseen 1000 { system := Desktop.demo })
    let q := run Desktop.Event.apply earlier ({}, Workspace.unseen 1000 Desktop.demo)
    p.2.journal.filterMap (·.request?) = [(⟨0x1020⟩, .minimize), (⟨0x1020⟩, .restore)] ∧
      Owned p.2.journal ∧ p.1.hidden.Nodup ∧
        (run Desktop.Event.apply (later.take 1 ++ [.operation .restore]) q).2.system.find?
            ⟨0x1010⟩ =
          (run Desktop.Event.apply (later.take 1) q).2.system.find? ⟨0x1010⟩ := by
  intro earlier later
  obtain ⟨⟨hnodup, howned⟩, -, hleaves⟩ := restores_owned 1000 Desktop.Event.apply Desktop.demo
    (earlier ++ later) (by decide +kernel)
  have hstays : Stays ⟨0x1010⟩ later
      (run Desktop.Event.apply earlier ({}, Workspace.unseen 1000 Desktop.demo)) :=
    fun before event hbefore => by
      simpa [later] using hbefore.subset (List.mem_append_right before (List.mem_singleton_self _))
  have hapart : Apart ⟨0x1010⟩ later
      (run Desktop.Event.apply earlier ({}, Workspace.unseen 1000 Desktop.demo)) :=
    ⟨by decide +kernel, fun _ => ⟨_, rfl, rfl⟩⟩
  exact ⟨by decide +kernel, howned, hnodup, hleaves Desktop.demo earlier later (later.take 1)
    (.operation .restore) ⟨0x1010⟩ hapart hstays (List.prefix_refl _) rfl⟩

end Minimizer

end SoloScreen
