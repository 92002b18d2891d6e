import Mathlib.Data.List.Chain
import SoloScreen.Proofs.Bounds
import SoloScreen.Proofs.Session

/-!
# The status of the monitoring

Four records tell whether the monitoring runs: the flag of the service, its session, the polling
loop of the session's detector, and the changes of the status that were published. They agree as
long as no tick is cut short.

* `Service.Consistent`: the agreement, kept by everything that a command does to the session
  (`Service.Moves.consistent`).
* `Service.status_consistent`: where all coordinates are in bounds, nothing is cut short, whatever
  native calls fail, and the four records agree in every state.

A tick that is cut short ends its loop and leaves the session in place, so the flag and the loop
come apart then. The bounds are there to exclude just that; an error that a native call answers with
is no cut.
-/

namespace SoloScreen

open SoloScreen.Action

/-! ## Published changes -/

/-- The changes of a status that was false at first: each differs from the one before, and the last
one is the status now. -/
structure Alternates (changes : List Bool) (now : Bool) : Prop where
  /-- No change is to the status that it was before. -/
  chain : changes.IsChain (· ≠ ·)
  /-- The first one is to true, for the status was false. -/
  head : ∀ first ∈ changes.head?, first = true
  /-- The last one is the status now, which is false if there was none. -/
  last : changes.getLast?.getD false = now

/-- Nothing was published, and the status is what it was at first. -/
theorem Alternates.nil : Alternates [] false := ⟨.nil, by simp, rfl⟩

/-- One more change. -/
theorem Alternates.concat {changes : List Bool} {now : Bool} (h : Alternates changes now) :
    Alternates (changes ++ [!now]) (!now) where
  chain := by
    refine List.isChain_append.mpr ⟨h.chain, .singleton _, fun last hlast next hnext => ?_⟩
    have hnow : last = now := by
      rw [← h.last, Option.mem_def.mp hlast]
      rfl
    rw [hnow, ← Option.some.inj (Option.mem_def.mp hnext)]
    cases now <;> decide
  head first hfirst := by
    rcases changes with _ | ⟨change, rest⟩
    · have hnow : now = false := h.last.symm
      rw [← Option.some.inj (Option.mem_def.mp hfirst), hnow]
      rfl
    · exact h.head first hfirst
  last := by simp

namespace Service

/-! ## Consistency -/

/-- Flag, session, polling loop and published changes agree. -/
structure Consistent (s : Service) : Prop where
  /-- The flag is set just if there is a session. -/
  session : s.monitoring = s.detector.isSome
  /-- The loop of the session runs. -/
  running : ∀ d, s.detector = some d → d.isRunning = true
  /-- The changes that were published lead to the flag. -/
  changes : Alternates (statuses s.channel) s.monitoring

/-- A session that stays the same keeps the records in step; other events may be published
meanwhile. -/
theorem SameSession.consistent {s s' : Service} (h : SameSession s s') (hs : Consistent s) :
    Consistent s' where
  session := by rw [h.monitoring, h.detector, hs.session]
  running d hd := hs.running d (h.detector ▸ hd)
  changes := by
    rw [h.statuses, h.monitoring]
    exact hs.changes

/-- A session that is started is announced. -/
theorem Consistent.started {s : Service} (hs : Consistent s) (hnone : s.detector = none)
    {d : Detector} (hd : d.isRunning = true) : Consistent { s with
      detector := some d
      monitoring := true
      channel := s.channel.send (.monitoringChanged true) } where
  session := rfl
  running d' hd' := Option.some.inj hd' ▸ hd
  changes := by
    have hoff : s.monitoring = false := by rw [hs.session, hnone]; rfl
    have h := hs.changes.concat
    rw [hoff] at h
    rw [statuses_send]
    exact h

/-- A session that is ended is announced. -/
theorem Consistent.stopped {s : Service} (hs : Consistent s) {d : Detector}
    (hd : s.detector = some d) : Consistent { s with
      detector := none
      monitoring := false
      channel := s.channel.send (.monitoringChanged false) } where
  session := rfl
  running d' hd' := by simp at hd'
  changes := by
    have hon : s.monitoring = true := by rw [hs.session, hd]; rfl
    have h := hs.changes.concat
    rw [hon] at h
    rw [statuses_send]
    exact h

/-- A session whose detector is replaced by another one that runs. Nothing is announced. -/
theorem Consistent.with_detector {s : Service} (hs : Consistent s) {d d' : Detector}
    (hd : s.detector = some d) (hd' : d'.isRunning = true) :
    Consistent { s with detector := some d' } where
  session := by rw [hs.session, hd]; rfl
  running d₀ hd₀ := Option.some.inj hd₀ ▸ hd'
  changes := hs.changes

/-- An update keeps the records in step. In place nothing is announced, and a restart announces an
end and a start, so that the changes still alternate. -/
theorem Updated.consistent {settings : Settings} {s s' : Service}
    (h : Updated settings s s' (.ok ())) (hs : Consistent s) : Consistent s' := by
  have hs₀ : Consistent { s with settings := settings.normalize } :=
    ⟨hs.session, hs.running, hs.changes⟩
  rcases h with _ | ⟨-, hnone, hsome⟩
  rcases hd : s.detector with _ | d
  · rw [hnone hd]
    exact hs₀
  cases hsome d hd with
  | inPlace timer hrestart hs' =>
    rw [hs']
    refine hs₀.with_detector hd ?_
    have hrunning := hs.running d hd
    unfold Detector.isRunning Detector.adjusted at *
    dsimp only
    split
    · rw [Option.isSome_map]
      exact hrunning
    · exact hrunning
  | restarted timer hrestart hs' =>
    rw [hs']
    exact (hs₀.stopped hd).started rfl rfl

/-- Everything that a command can do to the session keeps the records in step, if its tick is not
cut short. -/
theorem Moves.consistent {completes : Prop} {command : Command} {s s' : Service}
    (h : Moves completes command s s') (hcompletes : completes) (hs : Consistent s) :
    Consistent s' := by
  cases h with
  | same hsame => exact hsame.consistent hs
  | started timer _ hnone hsame => exact hsame.consistent (hs.started hnone rfl)
  | stopped d _ hd hsame => exact hsame.consistent (hs.stopped hd)
  | updated settings _ hupdated => exact hupdated.consistent hs
  | ticked d d' loop _ hd _ hloop hsame =>
    exact hsame.consistent (hs.with_detector hd (hloop hcompletes))

/-! ## Runs -/

/-- On a desktop in bounds a round ends well. What native calls and rules answer does not matter: a
failure is an answer. -/
theorem round_inBounds {p : Service × Workspace FaultyDesktop}
    (hp : p.2.system.desktop.InBounds) : (round.exec p).1 = .ok () := by
  obtain ⟨⟨⟩, q, hexec, -⟩ := (Conforms.ensures
    (I := fun p : Service × Workspace FaultyDesktop => p.2.system.desktop.InBounds)
    (round_conforms FaultyDesktop.callsConform_inBounds.works.requests) hp).exists_exec
  rw [hexec]

/-- So does every command, and the desktop stays in bounds. -/
theorem act_inBounds {p : Service × Workspace FaultyDesktop}
    (hp : p.2.system.desktop.InBounds) (command : Command) :
    (command.act.exec p).1 = .ok () ∧
      (command.act.exec p).2.2.system.desktop.InBounds := by
  obtain ⟨⟨⟩, q, hexec, hq⟩ := (Conforms.ensures
    (I := fun p : Service × Workspace FaultyDesktop => p.2.system.desktop.InBounds)
    (act_conforms FaultyDesktop.callsConform_inBounds.works command) hp).exists_exec
  rw [hexec]
  exact ⟨rfl, hq⟩

/-- One input keeps the records in step, and the desktop in bounds, on which the next one
depends. -/
theorem step_consistent {p : Service × Workspace FaultyDesktop}
    (hp : Consistent p.1 ∧ p.2.system.desktop.InBounds) {input : Input FaultyDesktop.Event}
    (hinput : ∀ event, input = .outside event → event.InBounds) :
    Consistent (step FaultyDesktop.Event.apply p input).1 ∧
      (step FaultyDesktop.Event.apply p input).2.system.desktop.InBounds := by
  cases input with
  | outside event =>
    exact ⟨hp.1, FaultyDesktop.inBounds_apply hp.2 (hinput event rfl)⟩
  | command command =>
    exact ⟨(act_moves command p).exec_snd.consistent (round_inBounds hp.2) hp.1,
      (act_inBounds hp.2 command).2⟩

/-- A run keeps them in step. -/
theorem run_consistent {p : Service × Workspace FaultyDesktop}
    (hp : Consistent p.1 ∧ p.2.system.desktop.InBounds) {inputs : List (Input FaultyDesktop.Event)}
    (hinputs : ∀ event, .outside event ∈ inputs → event.InBounds) :
    Consistent (run FaultyDesktop.Event.apply inputs p).1 ∧
      (run FaultyDesktop.Event.apply inputs p).2.system.desktop.InBounds := by
  induction inputs generalizing p with
  | nil => exact hp
  | cons input rest ih =>
    exact ih (step_consistent hp fun event h => hinputs event (h ▸ List.mem_cons_self))
      fun event hmem => hinputs event (List.mem_cons_of_mem _ hmem)

/-- The status of the monitoring is consistent. Take a run on a desktop that is in bounds and stays
so, where native calls may fail and injected answers may be anything. Then no tick and no command is
cut short in any state of the run. The flag is set if and only if there is a session, and then its
loop runs. And the published changes of the status alternate, begin with a start, and end with the
status as it is. -/
theorem status_consistent (settings : Settings) {work : Workspace FaultyDesktop}
    (hwork : work.system.desktop.InBounds) {inputs : List (Input FaultyDesktop.Event)}
    (hinputs : ∀ event, .outside event ∈ inputs → event.InBounds) :
    let p := run FaultyDesktop.Event.apply inputs (withSettings settings, work)
    (round.exec p).1 = .ok () ∧ (∀ command : Command, (command.act.exec p).1 = .ok ()) ∧
      p.1.monitoring = p.1.detector.isSome ∧
      p.1.detector.isSome = p.1.detector.any (·.isRunning) ∧
      (statuses p.1.channel).IsChain (· ≠ ·) ∧
      (∀ first ∈ (statuses p.1.channel).head?, first = true) ∧
      (statuses p.1.channel).getLast?.getD false = p.1.monitoring := by
  intro p
  have hstart : Consistent (withSettings settings) := ⟨rfl, by simp [withSettings], .nil⟩
  obtain ⟨hconsistent, hbounds⟩ : Consistent p.1 ∧ p.2.system.desktop.InBounds :=
    run_consistent (p := (withSettings settings, work)) ⟨hstart, hwork⟩ hinputs
  refine ⟨round_inBounds hbounds, fun command => (act_inBounds hbounds command).1,
    hconsistent.session, ?_, hconsistent.changes.chain, hconsistent.changes.head,
    hconsistent.changes.last⟩
  rcases hd : p.1.detector with _ | d
  · rfl
  · simp [hconsistent.running d hd]

/-- An enumeration fails, a second start finds the session running, and an update restarts it. -/
theorem status_consistent_demo :
    let inputs : List (Input FaultyDesktop.Event) :=
      [.command .start, .outside (.addRule ⟨.enumerate, none, 0, some 1, .error (.platform "")⟩),
        .outside (.onDesktop (.openWindow (DesktopWindow.titled 200 "More notes"))),
        .command .tick, .command .start, .command (.update { restoreOnAppExit := false }),
        .command .tick]
    let work : Workspace FaultyDesktop := .unseen 0 { desktop := Desktop.demo }
    let p := run FaultyDesktop.Event.apply inputs (withSettings {}, work)
    work.system.desktop.InBounds ∧ statuses p.1.channel = [true, false, true] ∧
      (round.exec p).1 = .ok () ∧ p.1.monitoring = p.1.detector.isSome ∧
        p.1.detector.isSome = p.1.detector.any (·.isRunning) := by
  intro inputs work
  have hwork : work.system.desktop.InBounds :=
    (Desktop.inBounds_iff Desktop.demo).mpr (by decide +kernel)
  have hinputs : ∀ event, Input.outside event ∈ inputs → event.InBounds := by
    intro event hmem
    simp only [inputs, List.mem_cons, Input.outside.injEq, reduceCtorEq, List.not_mem_nil,
      or_false, false_or] at hmem
    rcases hmem with rfl | rfl
    · trivial
    · exact (Rect.inBounds_iff _).mpr (by decide)
  obtain ⟨hround, -, hsession, hrunning, -⟩ := status_consistent {} hwork hinputs
  exact ⟨hwork, by decide +kernel, hround, hsession, hrunning⟩

end Service

end SoloScreen
