import Mathlib.Data.List.Infix
import SoloScreen.Proofs.Timekeeping

/-!
# What a pump delivers

Notifications are sent while a pump takes its steps, in any order, and at last the sender is gone. A
notification is lost if it is overwritten in the channel before the pump has reached it. All others
are offered to the sink, in the order in which they were sent, and the pump goes on until it has
seen the end of the channel.

* `Delivery.Accounts`: where a pump stands, what it was offered and what the sink has kept, for
  given losses. Every step of the pump keeps that (`Delivery.Accounts.pumped`), and so does
  everything that is sent (`Delivery.Accounts.sent`).
* `Delivery.run_accounts`: the losses of a run account for what was delivered.
* `Delivery.exists_steps_run`: to receive all there is is to take so many steps.
* `Delivery.delivers_all_but_lost`: what a pump has delivered when it is finished, and that it
  finishes.
-/

namespace SoloScreen

/-! ## Receiving -/

namespace Channel

variable {α : Type} {channel : Channel α} {position : Nat}

/-- A receiver that has fallen behind is told how many messages it lost, and goes on with the oldest
one kept. -/
theorem receive_lagged (h : position < channel.oldest) :
    channel.receive position = (.lagged (channel.oldest - position), channel.oldest) :=
  if_pos h

/-- A message that is kept is received, and the position moves on by one. -/
theorem receive_message {message : α} (h : channel.oldest ≤ position)
    (hmessage : channel.sent[position]? = some message) :
    channel.receive position = (.message message, position + 1) := by
  rw [receive, if_neg (Nat.not_lt.mpr h), hmessage]

/-- At the end of the channel the position stays where it is. -/
theorem receive_end (h : channel.oldest ≤ position) (hend : channel.sent[position]? = none) :
    channel.receive position = (if channel.closed then .closed else .empty, position) := by
  rw [receive, if_neg (Nat.not_lt.mpr h), hend]

/-- What has been overwritten remains so. -/
theorem oldest_le_oldest_send (message : α) : channel.oldest ≤ (channel.send message).oldest := by
  show channel.sent.length - channel.capacity ≤
    (channel.sent ++ [message]).length - channel.capacity
  exact Nat.sub_le_sub_right (by simp) _

end Channel

/-- A channel and a pump on it. -/
structure Delivery where
  /-- What is sent goes here, and here the pump receives it. -/
  channel : Channel Notification
  /-- Its position in the channel, and the sink with what it has kept. -/
  pump : Pump

namespace Delivery

/-! ## Messages by their positions -/

section Positions

variable {test test' : Nat → Notification → Bool} {first : Nat} {messages sent : List Notification}
  {lost lost' : Nat → Bool} {position later : Nat}

/-- The messages that pass a test together with their positions, which begin with a given one. -/
def pick (test : Nat → Notification → Bool) (first : Nat) (messages : List Notification) :
    List Notification :=
  ((messages.zipIdx first).filter fun entry => test entry.2 entry.1).map Prod.fst

/-- The positions go on from one list to the other. -/
theorem pick_append (messages more : List Notification) : pick test first (messages ++ more) =
    pick test first messages ++ pick test (first + messages.length) more := by
  rw [pick, List.zipIdx_append, List.filter_append, List.map_append]
  rfl

/-- A single message passes the test or does not. -/
theorem pick_singleton (message : Notification) :
    pick test first [message] = if test first message then [message] else [] := by
  by_cases h : test first message = true
  · simp [pick, h]
  · simp [pick, h]

/-- The first message has the first position. -/
theorem pick_cons (message : Notification) (rest : List Notification) :
    pick test first (message :: rest) =
      (if test first message then [message] else []) ++ pick test (first + 1) rest := by
  rw [← List.singleton_append, pick_append, pick_singleton]
  rfl

/-- What passes is still in the order in which it was sent. -/
theorem pick_sublist (test : Nat → Notification → Bool) (first : Nat)
    (messages : List Notification) : (pick test first messages).Sublist messages := by
  have hfilter : (pick test first messages).Sublist ((messages.zipIdx first).map Prod.fst) :=
    List.filter_sublist.map Prod.fst
  rwa [List.zipIdx_map_fst] at hfilter

/-- Only the positions that the messages have matter. -/
theorem pick_congr (h : ∀ position message, first ≤ position →
    position < first + messages.length → test position message = test' position message) :
    pick test first messages = pick test' first messages := by
  unfold pick
  refine congrArg _ (List.filter_congr fun entry hentry => ?_)
  obtain ⟨hfirst, hlast, -⟩ := List.mem_zipIdx hentry
  exact h entry.2 entry.1 hfirst hlast

/-- The messages from a position on. -/
theorem pick_from (bound first : Nat) (messages : List Notification) :
    pick (fun position _ => decide (bound ≤ position)) first messages =
      messages.drop (bound - first) := by
  induction messages generalizing first with
  | nil => simp [pick]
  | cons message rest ih =>
    rw [pick_cons, ih]
    by_cases hbound : bound ≤ first
    · simp [hbound, Nat.sub_eq_zero_of_le (Nat.le_succ_of_le hbound)]
    · have hrest : bound - first = bound - (first + 1) + 1 := by omega
      simp [hbound, hrest]

/-- What is offered to the sink on the way from one position to another, if some messages are
lost. -/
def offered (lost : Nat → Bool) (first : Nat) (sent : List Notification) (position : Nat) :
    List Notification :=
  pick (fun position _ => !lost position) first ((sent.take position).drop first)

/-- At its first position a pump has been offered nothing. -/
theorem offered_self (lost : Nat → Bool) (first : Nat) (sent : List Notification) :
    offered lost first sent first = [] := by
  rw [offered, List.drop_eq_nil_of_le (List.length_take_le first sent)]
  rfl

/-- One position further, the message that stood there has been offered too, unless it is lost. -/
theorem offered_succ {message : Notification} (hfirst : first ≤ position)
    (hmessage : sent[position]? = some message) :
    offered lost first sent (position + 1) =
      offered lost first sent position ++ if lost position then [] else [message] := by
  obtain ⟨hposition, -⟩ := List.getElem?_eq_some_iff.mp hmessage
  have hlength : (sent.take position).length = position := List.length_take_of_le hposition.le
  rw [offered, List.take_add_one, hmessage, Option.toList_some,
    List.drop_append_of_le_length (by omega), pick_append, List.length_drop, hlength,
    Nat.add_sub_cancel' hfirst, pick_singleton, offered]
  cases lost position <;> rfl

/-- On the way over lost messages nothing is offered. -/
theorem offered_of_lost (hfirst : first ≤ position) (hlater : position ≤ later)
    (hsent : later ≤ sent.length)
    (hlost : ∀ between, position ≤ between → between < later → lost between = true) :
    offered lost first sent later = offered lost first sent position := by
  induction later, hlater using Nat.le_induction with
  | base => rfl
  | succ reached hreached ih =>
    rw [offered_succ (hfirst.trans hreached) (List.getElem?_eq_getElem hsent),
      if_pos (hlost reached hreached (Nat.lt_succ_self reached)), List.append_nil]
    exact ih (Nat.le_of_succ_le hsent) fun between hle hlt =>
      hlost between hle (Nat.lt_succ_of_lt hlt)

/-- What was offered does not depend on what was sent or lost later. -/
theorem offered_congr (more : List Notification) (hposition : position ≤ sent.length)
    (hlost : ∀ between, between < position → lost between = lost' between) :
    offered lost first (sent ++ more) position = offered lost' first sent position := by
  unfold offered
  rw [List.take_append_of_le_length hposition]
  refine pick_congr fun between message hfirst hlast => ?_
  rw [List.length_drop, List.length_take_of_le hposition] at hlast
  rw [hlost between (by omega)]

end Positions

/-! ## Turns of the sender and of the pump -/

/-- A pump for a sink that subscribes now. -/
def start (sink : Sink) (channel : Channel Notification) : Delivery :=
  ⟨channel, { sink, position := channel.subscribe }⟩

/-- What happens while there is a sender. -/
inductive Turn where
  /-- A notification is sent. -/
  | send (notification : Notification)
  /-- The pump takes a step. -/
  | pump

/-- The state after a turn. -/
def Turn.apply : Turn → Delivery → Delivery
  | .send notification, d => { d with channel := d.channel.send notification }
  | .pump, d => { d with pump := d.pump.step d.channel }

/-- What is sent in a turn. -/
def Turn.sent? : Turn → Option Notification
  | .send notification => some notification
  | .pump => none

/-- What is sent in some turns. -/
def sends (turns : List Turn) : List Notification := turns.filterMap Turn.sent?

/-- The state after some turns. -/
def run (turns : List Turn) (d : Delivery) : Delivery := turns.foldl (fun d turn => turn.apply d) d

/-- The pump takes a number of steps. -/
def steps (n : Nat) (d : Delivery) : Delivery := d.run (List.replicate n .pump)

/-- The sender is gone. -/
def close (d : Delivery) : Delivery := { d with channel := d.channel.close }

/-- The message at a position was overwritten, and the pump has not reached it. -/
def overdue (d : Delivery) (position : Nat) : Bool :=
  d.pump.position ≤ position && position < d.channel.oldest

/-- In some turns the message at a position is overwritten before the pump has reached it. -/
def loses (turns : List Turn) (d : Delivery) (position : Nat) : Bool :=
  turns.inits.any fun before => (d.run before).overdue position

/-- What is sent in some turns and not lost. -/
def survivors (turns : List Turn) (d : Delivery) : List Notification :=
  pick (fun position _ => !d.loses turns position) d.channel.sent.length (sends turns)

variable {d : Delivery} {first : Nat} {sink : Sink} {lost : Nat → Bool}

/-- The last turn comes last. The inductions over turns below go by their end, since a run is a fold
from the left. -/
theorem run_concat (turns : List Turn) (turn : Turn) (d : Delivery) :
    d.run (turns ++ [turn]) = turn.apply (d.run turns) := by
  rw [run, List.foldl_append]
  rfl

/-- Turns in two parts. -/
theorem run_append (turns more : List Turn) (d : Delivery) :
    d.run (turns ++ more) = (d.run turns).run more := List.foldl_append

/-- What the last turn sends is sent last. -/
theorem sends_concat (turns : List Turn) (turn : Turn) :
    sends (turns ++ [turn]) = sends turns ++ turn.sent?.toList := by
  rw [sends, List.filterMap_append]
  cases turn <;> rfl

/-- Turns do nothing else to the channel than to send. -/
theorem run_channel (turns : List Turn) (d : Delivery) :
    (d.run turns).channel = { d.channel with sent := d.channel.sent ++ sends turns } := by
  induction turns using List.reverseRecOn with
  | nil => simp [run, sends]
  | append_singleton turns turn ih =>
    rw [run_concat, sends_concat]
    cases turn with
    | send notification =>
      show (d.run turns).channel.send notification = _
      rw [ih]
      simp [Channel.send, Turn.sent?]
    | pump =>
      show (d.run turns).channel = _
      rw [ih]
      simp [Turn.sent?]

/-- While all is sent and no step is taken, the pump stays as it is. -/
theorem run_sends (events : List Notification) (d : Delivery) :
    (d.run (events.map .send)).pump = d.pump := by
  induction events generalizing d with
  | nil => rfl
  | cons event rest ih => exact ih _

/-- Turns that only send, send just this. -/
theorem sends_map_send (events : List Notification) : sends (events.map .send) = events := by
  rw [sends, List.filterMap_map]
  exact List.filterMap_some

/-- Ahead of the pump, what was overwritten is overdue. -/
theorem overdue_of_le {position : Nat} (h : d.pump.position ≤ position) :
    d.overdue position = decide (position < d.channel.oldest) := by
  rw [overdue, decide_eq_true h, Bool.true_and]

/-- Behind the pump nothing is. -/
theorem overdue_of_lt {position : Nat} (h : position < d.pump.position) :
    d.overdue position = false := by
  rw [overdue, decide_eq_false h.not_ge, Bool.false_and]

/-- Without turns only those messages are lost that are overdue at once. -/
theorem loses_nil (d : Delivery) (position : Nat) : d.loses [] position = d.overdue position := by
  simp [loses, run]

/-- One more turn loses what it overwrites before the pump has reached it. -/
theorem loses_concat (turns : List Turn) (turn : Turn) (d : Delivery) (position : Nat) :
    d.loses (turns ++ [turn]) position =
      (d.loses turns position || (turn.apply (d.run turns)).overdue position) := by
  have hinits : (turns ++ [turn]).inits = turns.inits ++ [turns ++ [turn]] := by
    simp [List.inits_append]
  rw [loses, hinits, List.any_append, List.any_cons, List.any_nil, Bool.or_false, run_concat]
  rfl

/-- A finished pump takes no more steps. -/
theorem apply_pump_of_finished (h : d.pump.finished = true) : Turn.pump.apply d = d := by
  rw [Turn.apply, Pump.step, if_pos h]

/-- A step of a pump that is not finished receives once. -/
theorem apply_pump (h : d.pump.finished = false) {received : Received Notification} {after : Nat}
    (hreceive : d.channel.receive d.pump.position = (received, after)) :
    Turn.pump.apply d = { d with pump := { d.pump.accept received with position := after } } := by
  rw [Turn.apply, Pump.step, if_neg (by simp [h]), hreceive]

/-! ## What was delivered -/

/-- How a pump that began at a position stands, given which messages are lost: those ahead of it are
lost that are overwritten already, the others that it has passed were offered to the sink, and it is
not finished before it has seen the end of the channel. -/
structure Accounts (first : Nat) (sink : Sink) (lost : Nat → Bool) (d : Delivery) : Prop where
  /-- The sink is the one that subscribed. -/
  sink_eq : d.pump.sink = sink
  /-- The pump never goes back behind the place where it began. -/
  first_le : first ≤ d.pump.position
  /-- It never goes beyond what has been sent. -/
  le_length : d.pump.position ≤ d.channel.sent.length
  /-- What is overwritten now and not passed is lost, and nothing else ahead is. -/
  ahead : ∀ position, d.pump.position ≤ position →
    lost position = decide (position < d.channel.oldest)
  /-- The sink can decide by the number of offers, so they are counted. -/
  offers : d.pump.offers = (offered lost first d.channel.sent d.pump.position).length
  /-- Of what was offered, what the sink took. Its test is asked with the number of the offer. -/
  delivered : d.pump.delivered = pick sink 0 (offered lost first d.channel.sent d.pump.position)
  /-- Only at the end of a closed channel. -/
  finished : d.pump.finished = true →
    d.channel.closed = true ∧ d.pump.position = d.channel.sent.length

namespace Accounts

/-- A pump that subscribes has passed nothing, and nothing that is to come is lost yet. -/
theorem start (sink : Sink) (channel : Channel Notification) :
    Accounts channel.sent.length sink ((start sink channel).loses []) (.start sink channel) where
  sink_eq := rfl
  first_le := Nat.le_refl _
  le_length := Nat.le_refl _
  ahead position hposition := by
    rw [loses_nil, overdue_of_le hposition]
  offers := by rw [Delivery.start, Channel.subscribe, offered_self]; rfl
  delivered := by rw [Delivery.start, Channel.subscribe, offered_self]; rfl
  finished := nofun

/-- A pump that fell behind skips messages, but only lost ones. -/
theorem skipped (h : Accounts first sink lost d) (hlate : d.pump.position < d.channel.oldest) :
    Accounts first sink lost { d with pump := { d.pump with position := d.channel.oldest } } := by
  have hlength : d.channel.oldest ≤ d.channel.sent.length := Nat.sub_le _ _
  have hsame : offered lost first d.channel.sent d.channel.oldest =
      offered lost first d.channel.sent d.pump.position :=
    offered_of_lost h.first_le hlate.le hlength fun between hle hlt => by
      rw [h.ahead between hle, decide_eq_true hlt]
  exact {
    sink_eq := h.sink_eq
    first_le := h.first_le.trans hlate.le
    le_length := hlength
    ahead := fun position hposition => h.ahead position (hlate.le.trans hposition)
    offers := h.offers.trans (congrArg List.length hsame.symm)
    delivered := h.delivered.trans (congrArg (pick sink 0) hsame.symm)
    finished := fun hdone => absurd (h.finished hdone).2 (hlate.trans_le hlength).ne }

/-- A message that is kept is offered to the sink next. -/
theorem received (h : Accounts first sink lost d) (hkept : d.channel.oldest ≤ d.pump.position)
    {message : Notification} (hmessage : d.channel.sent[d.pump.position]? = some message) :
    Accounts first sink lost { d with
      pump := { d.pump.accept (.message message) with position := d.pump.position + 1 } } := by
  obtain ⟨hposition, -⟩ := List.getElem?_eq_some_iff.mp hmessage
  have hnext : offered lost first d.channel.sent (d.pump.position + 1) =
      offered lost first d.channel.sent d.pump.position ++ [message] := by
    rw [offered_succ h.first_le hmessage, h.ahead _ (Nat.le_refl _), decide_eq_false hkept.not_gt]
    rfl
  exact {
    sink_eq := h.sink_eq
    first_le := Nat.le_succ_of_le h.first_le
    le_length := hposition
    ahead := fun position hahead => h.ahead position (Nat.le_of_succ_le hahead)
    offers := by
      show d.pump.offers + 1 = _
      rw [hnext, List.length_append, h.offers]
      rfl
    delivered := by
      show (if d.pump.sink d.pump.offers message = true then d.pump.delivered ++ [message]
        else d.pump.delivered) = _
      rw [hnext, pick_append, pick_singleton, Nat.zero_add, ← h.offers, ← h.delivered, h.sink_eq]
      split
      · rfl
      · rw [List.append_nil]
    finished := fun hdone => absurd (h.finished hdone).2 hposition.ne }

/-- What a step of the pump keeps. -/
theorem pumped (h : Accounts first sink lost d) :
    Accounts first sink lost (Turn.pump.apply d) := by
  by_cases hfinished : d.pump.finished = true
  · rwa [apply_pump_of_finished hfinished]
  rw [Bool.not_eq_true] at hfinished
  rcases Nat.lt_or_ge d.pump.position d.channel.oldest with hlate | hkept
  · rw [apply_pump hfinished (Channel.receive_lagged hlate)]
    exact h.skipped hlate
  rcases hmessage : d.channel.sent[d.pump.position]? with _ | message
  · -- nothing changes at the end of the channel, but that the pump finishes if it is closed
    rw [apply_pump hfinished (Channel.receive_end hkept hmessage)]
    cases hclosed : d.channel.closed with
    | false => exact h
    | true =>
      have hend : d.pump.position = d.channel.sent.length :=
        le_antisymm h.le_length (List.getElem?_eq_none_iff.mp hmessage)
      exact { h with finished := fun _ => ⟨hclosed, hend⟩ }
  · rw [apply_pump hfinished (Channel.receive_message hkept hmessage)]
    exact h.received hkept hmessage

/-- What is sent may overwrite messages ahead of the pump, and these are lost. What it has passed
remains as it is. -/
theorem sent (h : Accounts first sink lost d) (hopen : d.channel.closed = false)
    (notification : Notification) :
    Accounts first sink
      (fun position => lost position || ((Turn.send notification).apply d).overdue position)
      ((Turn.send notification).apply d) := by
  have hsame : offered
      (fun position => lost position || ((Turn.send notification).apply d).overdue position) first
        (d.channel.sent ++ [notification]) d.pump.position =
      offered lost first d.channel.sent d.pump.position :=
    offered_congr [notification] h.le_length fun between hlt => by
      rw [overdue_of_lt (d := (Turn.send notification).apply d) hlt, Bool.or_false]
  exact {
    sink_eq := h.sink_eq
    first_le := h.first_le
    le_length := h.le_length.trans (by simp [Turn.apply, Channel.send])
    ahead := fun position hposition => by
      have hle : d.channel.oldest ≤ (d.channel.send notification).oldest :=
        Channel.oldest_le_oldest_send notification
      rw [overdue_of_le (d := (Turn.send notification).apply d) hposition,
        h.ahead position hposition, ← Bool.decide_or]
      exact decide_eq_decide.mpr ⟨fun hold => hold.elim (fun hlt => hlt.trans_le hle) id, .inr⟩
    offers := h.offers.trans (congrArg List.length hsame.symm)
    delivered := h.delivered.trans (congrArg (pick sink 0) hsame.symm)
    finished := fun hdone => absurd (h.finished hdone).1 (by simp [hopen]) }

/-- When the sender goes, nothing is overwritten, so the accounts stand. -/
theorem closed (h : Accounts first sink lost d) : Accounts first sink lost d.close :=
  { h with finished := fun hdone => ⟨rfl, (h.finished hdone).2⟩ }

/-- Any number of steps, by induction. The losses stay the same, as nothing is sent in a step. -/
theorem steps (h : Accounts first sink lost d) (n : Nat) :
    Accounts first sink lost (d.steps n) := by
  induction n with
  | zero => exact h
  | succ n ih =>
    rw [Delivery.steps, List.replicate_succ', run_concat]
    exact ih.pumped

end Accounts

/-- The losses of a run account for what was delivered. -/
theorem run_accounts (sink : Sink) {channel : Channel Notification} (hopen : channel.closed = false)
    (turns : List Turn) :
    Accounts channel.sent.length sink ((start sink channel).loses turns)
      ((start sink channel).run turns) := by
  induction turns using List.reverseRecOn with
  | nil => exact .start sink channel
  | append_singleton turns turn ih =>
    rw [run_concat, funext (loses_concat turns turn (start sink channel))]
    cases turn with
    | send notification =>
      exact ih.sent (by rw [run_channel]; exact hopen) notification
    | pump =>
      -- the pump overwrites nothing, so what is overdue after its step is lost already
      have hsame : (fun position => (start sink channel).loses turns position ||
          (Turn.pump.apply ((start sink channel).run turns)).overdue position) =
          (start sink channel).loses turns := by
        funext position
        refine Bool.or_eq_left_iff_imp.mpr fun hoverdue => ?_
        rw [overdue, Bool.and_eq_true, decide_eq_true_eq] at hoverdue
        rw [ih.pumped.ahead position hoverdue.1, hoverdue.2]
      rw [hsame]
      exact ih.pumped

/-! ## Receiving all there is -/

/-- A finished pump stays as it is, however many steps it is given. -/
theorem steps_of_finished (h : d.pump.finished = true) (n : Nat) : d.steps n = d := by
  induction n with
  | zero => rfl
  | succ n ih =>
    rw [steps, List.replicate_succ', run_concat]
    exact (congrArg Turn.pump.apply ih).trans (apply_pump_of_finished h)

/-- Steps in two parts. -/
theorem steps_add (n m : Nat) (d : Delivery) : d.steps (n + m) = (d.steps n).steps m := by
  rw [steps, List.replicate_add, run_append]
  rfl

end Delivery

namespace Pump

/-- What is handled does not depend on where the pump stands. -/
theorem foldl_accept_position (received : List (Received Notification)) (pump : Pump)
    (position after : Nat) :
    { received.foldl accept { pump with position } with position := after } =
      { received.foldl accept pump with position := after } := by
  induction received generalizing pump with
  | nil => rfl
  | cons first rest ih =>
    have hfirst : accept { pump with position } first = { pump.accept first with position } := by
      cases first <;> rfl
    rw [List.foldl_cons, List.foldl_cons, hfirst, ih]

/-- A pump that receives all there is in a closed channel is finished. -/
theorem run_finished {channel : Channel Notification} (hclosed : channel.closed = true)
    (pump : Pump) : (pump.run channel).finished = true := by
  by_cases h : pump.finished = true
  · rwa [run, if_pos h]
  · rw [run, if_neg h]
    exact finished_of_mem (.inr ((channel.drain_exhausted pump.position).2 hclosed))

end Pump

namespace Delivery

/-- To drain the channel is to take so many steps. -/
theorem exists_steps_drain (fuel : Nat) {d : Delivery} (h : d.pump.finished = false) :
    ∃ n, d.steps n = { d with
      pump := { (d.channel.drainUpTo fuel d.pump.position).1.foldl Pump.accept d.pump with
        position := (d.channel.drainUpTo fuel d.pump.position).2 } } := by
  induction fuel generalizing d with
  | zero => exact ⟨0, rfl⟩
  | succ fuel ih =>
    rcases d.channel.receive_cases d.pump.position with hend | ⟨received, after, hreceive, hempty,
      hclosed, -, -⟩
    · rw [Channel.drainUpTo_of_exhausted hend]
      have hstep := apply_pump h hend
      cases hc : d.channel.closed with
      | false => exact ⟨0, rfl⟩
      | true =>
        rw [hc] at hstep
        exact ⟨1, hstep⟩
    · have hstep := apply_pump h hreceive
      have hgoesOn : (Turn.pump.apply d).pump.finished = false := by
        rw [hstep]
        cases received with
        | closed => exact absurd rfl hclosed
        | _ => exact h
      obtain ⟨n, hn⟩ := ih hgoesOn
      refine ⟨n + 1, ?_⟩
      rw [Channel.drainUpTo_of_receive hreceive hempty hclosed, Nat.add_comm, steps_add]
      refine hn.trans ?_
      rw [hstep]
      exact congrArg _ (Pump.foldl_accept_position _ _ _ _)

/-- To receive all there is is to take so many steps. -/
theorem exists_steps_run (d : Delivery) :
    ∃ n, d.steps n = { d with pump := d.pump.run d.channel } := by
  by_cases h : d.pump.finished = true
  · refine ⟨0, ?_⟩
    rw [Pump.run, if_pos h]
    rfl
  · obtain ⟨n, hn⟩ := exists_steps_drain (d.channel.sent.length + 2) (Bool.not_eq_true _ ▸ h)
    refine ⟨n, ?_⟩
    rw [hn, Pump.run, if_neg h]
    rfl

/-! ## The whole way -/

/-- A pump that is finished has delivered what survived and was not refused. -/
theorem Accounts.delivered_of_finished (h : Accounts first sink lost d)
    (hfinished : d.pump.finished = true) : d.pump.delivered =
      pick sink 0 (pick (fun position _ => !lost position) first (d.channel.sent.drop first)) := by
  rw [h.delivered, (h.finished hfinished).2, offered, List.take_length]

/-- Of what is sent before the pump takes its first step, the last messages survive, as many as the
channel keeps. -/
theorem survivors_sends (events : List Notification) (sink : Sink)
    {channel : Channel Notification} (hopen : channel.closed = false) :
    (start sink channel).survivors (events.map .send) =
      events.drop (events.length - min events.length channel.capacity) := by
  have hrun := run_accounts sink hopen (events.map .send)
  have hposition : ((start sink channel).run (events.map .send)).pump.position =
      channel.sent.length := by
    rw [run_sends]
    rfl
  have holdest : ((start sink channel).run (events.map .send)).channel.oldest =
      channel.sent.length + events.length - channel.capacity := by
    rw [Channel.oldest, run_channel, sends_map_send, List.length_append]
    rfl
  have hbound : channel.sent.length + events.length - channel.capacity - channel.sent.length =
      events.length - min events.length channel.capacity := by
    omega
  rw [survivors, sends_map_send, ← hbound]
  refine Eq.trans (pick_congr fun position message hfirst _ => ?_) (pick_from _ _ events)
  rw [hrun.ahead position (hposition.trans_le hfirst), holdest, ← decide_not]
  exact decide_eq_decide.mpr Nat.not_lt

/-- A pump loses nothing but what the channel dropped or the sink refused. Let a pump subscribe to
an open channel of any capacity, and let notifications be sent and the pump take steps, in any
order. Then the pump is not finished, whatever was lost or refused. If the sender is gone then, the
pump finishes: after so many more steps, and also if it receives all there is at once. When it is
finished, the sink has kept, in the order of sending, those of the notifications sent that were not
overwritten before the pump had reached them and that it did not refuse when it was offered them. If
all was sent before the first step of the pump, it was offered the last notifications, as many as
the channel keeps. -/
theorem delivers_all_but_lost {channel : Channel Notification} (hopen : channel.closed = false)
    (sink : Sink) (turns : List Turn) :
    let d := (start sink channel).run turns
    let deliverable := pick sink 0 ((start sink channel).survivors turns)
    d.pump.finished = false ∧
    (∃ n, ∀ m, n ≤ m → (d.close.steps m).pump.finished = true) ∧
    (∀ m, (d.close.steps m).pump.finished = true →
      (d.close.steps m).pump.delivered = deliverable) ∧
    ((d.pump.run d.channel.close).finished = true ∧
      (d.pump.run d.channel.close).delivered = deliverable) ∧
    deliverable.Sublist (sends turns) ∧
    ∀ events : List Notification, turns = events.map .send → deliverable =
      pick sink 0 (events.drop (events.length - min events.length channel.capacity)) := by
  intro d deliverable
  have haccounts : Accounts channel.sent.length sink ((start sink channel).loses turns) d :=
    run_accounts sink hopen turns
  have hchannel : d.channel = { channel with sent := channel.sent ++ sends turns } :=
    run_channel turns (start sink channel)
  -- after the sender is gone nothing is sent, so what survived is what is left to deliver
  have hfinal : ∀ m, (d.close.steps m).pump.finished = true →
      (d.close.steps m).pump.delivered = deliverable := by
    intro m hfinished
    have hsent : (d.close.steps m).channel.sent = channel.sent ++ sends turns := by
      rw [steps, run_channel]
      simp [close, Channel.close, hchannel, sends, Turn.sent?]
    rw [(haccounts.closed.steps m).delivered_of_finished hfinished, hsent, List.drop_left]
    rfl
  obtain ⟨n, hn⟩ := exists_steps_run d.close
  have hall : (d.pump.run d.channel.close).finished = true := Pump.run_finished rfl d.pump
  have hdone : (d.close.steps n).pump.finished = true := by rwa [hn]
  refine ⟨?_, ⟨n, fun m hle => ?_⟩, hfinal, ⟨hall, ?_⟩,
    (pick_sublist _ _ _).trans (pick_sublist _ _ _), fun events hturns => ?_⟩
  · by_contra hfinished
    have hclosed := (haccounts.finished (Bool.not_eq_false _ ▸ hfinished)).1
    rw [hchannel] at hclosed
    exact absurd (hopen.symm.trans hclosed) Bool.false_ne_true
  · obtain ⟨more, rfl⟩ := Nat.exists_eq_add_of_le hle
    rw [steps_add, steps_of_finished hdone, hdone]
  · have hdelivered := hfinal n hdone
    rwa [hn] at hdelivered
  · rw [← survivors_sends events sink hopen, ← hturns]

/-- A channel keeps two notifications. After the first one is delivered, three are sent at once, of
which one is lost. The sink refuses what it is offered second, and takes what comes afterwards. If
three are sent at once before the pump takes its first step, the first of them is lost. -/
theorem delivers_all_but_lost_demo :
    let sent (count : Nat) : Turn := .send (.windowsRestored count)
    let turns := [sent 1, .pump, sent 2, sent 3, sent 4, .pump, .pump, .pump, sent 5]
    let channel : Channel Notification := { capacity := 2 }
    let moody : Sink := fun offers _ => offers != 1
    let d := (start moody channel).run turns
    let waiting := (start (.refusing []) channel).run [sent 1, sent 2, sent 3]
    channel.closed = false ∧ d.pump.finished = false ∧ (d.close.steps 2).pump.finished = true ∧
      (d.close.steps 2).pump.delivered =
        [.windowsRestored 1, .windowsRestored 4, .windowsRestored 5] ∧
      (d.pump.run d.channel.close).delivered =
        [.windowsRestored 1, .windowsRestored 4, .windowsRestored 5] ∧
      (waiting.pump.run waiting.channel.close).delivered =
        [.windowsRestored 2, .windowsRestored 3] := by
  intro sent turns channel moody d waiting
  have hopen : channel.closed = false := rfl
  have hdone : (d.close.steps 2).pump.finished = true := by decide
  have hdeliverable : pick moody 0 ((start moody channel).survivors turns) =
      [.windowsRestored 1, .windowsRestored 4, .windowsRestored 5] := by
    decide
  obtain ⟨hgoesOn, -, hfinal, ⟨-, hall⟩, -, -⟩ := delivers_all_but_lost hopen moody turns
  obtain ⟨-, -, -, ⟨-, hwaiting⟩, -, hsends⟩ :=
    delivers_all_but_lost hopen (.refusing []) [sent 1, sent 2, sent 3]
  refine ⟨hopen, hgoesOn, hdone, (hfinal 2 hdone).trans hdeliverable, hall.trans hdeliverable,
    hwaiting.trans ?_⟩
  rw [hsends [.windowsRestored 1, .windowsRestored 2, .windowsRestored 3] rfl]
  decide

end Delivery

end SoloScreen
