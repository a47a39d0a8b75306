import Mathlib.Data.List.Induction
import Mathlib.Data.List.TakeWhile
import SensorBridge.Proofs.Acknowledgments

/-!
What every waiter learns. Requests, packets and acknowledgments of two kinds come in any order, and the
ids of packets are used again. The waiters of a kind are matched with its packets by their places in
the two sequences, and what becomes of a packet decides what its waiter learns.
-/
namespace SensorBridge

/-- Each member stands in the relation to those in front of it. -/
def Throughout {α : Type} (P : List α → α → Prop) (xs : List α) : Prop :=
  ∀ n (h : n < xs.length), P (xs.take n) xs[n]

section Throughout

variable {α : Type} {P : List α → α → Prop} {xs ys : List α} {x : α}

instance [∀ xs x, Decidable (P xs x)] : Decidable (Throughout P xs) :=
  inferInstanceAs (Decidable (∀ n (_ : n < xs.length), _))

theorem Throughout.at (h : Throughout P (xs ++ x :: ys)) : P xs x := by
  have hx := h xs.length (by simp)
  rw [List.take_left] at hx
  simpa using hx

theorem Throughout.front (h : Throughout P (xs ++ ys)) : Throughout P xs := by
  intro n hn
  have hx := h n (by simp; omega)
  rwa [List.take_append_of_le_length (Nat.le_of_lt hn), List.getElem_append_left hn] at hx

theorem Throughout.concat (h : Throughout P xs) (hx : P xs x) : Throughout P (xs ++ [x]) := by
  intro n hn
  obtain hlt | rfl : n < xs.length ∨ n = xs.length := by
    rw [List.length_append, List.length_singleton] at hn
    omega
  · rw [List.take_append_of_le_length (Nat.le_of_lt hlt), List.getElem_append_left hlt]
    exact h n hlt
  · rw [List.take_left]
    simpa using hx

end Throughout

namespace Mqtt

/-! ### Nobody is lost or settled twice -/

namespace AckQueue

variable {q : AckQueue} {id : PacketId} {w : Waiter} {outcome : Outcome} {reason : String}

theorem count_holders (q : AckQueue) (id : PacketId) (w : Waiter) :
    ((q.others id).map (·.2)).count w + (q.holders id).count w = (q.inFlight.map (·.2)).count w := by
  have hperm := (List.filter_append_perm (fun e : PacketId × Waiter => e.1 == id) q.inFlight).map (·.2)
  have hcount := hperm.count_eq w
  rw [List.map_append, List.count_append, Nat.add_comm] at hcount
  exact hcount

/-- Each waiter waits on or is settled, and nobody is settled twice. -/
def Conserves (q q' : AckQueue) (out : Settled) : Prop :=
  ∀ w, q'.waiters.count w + (out.map (·.1)).count w = q.waiters.count w

theorem map_fst_settled {ws : List Waiter} : (ws.map (·, outcome)).map (·.1) = ws :=
  List.map_map.trans (List.map_id _)

theorem conserves_assign : q.Conserves (q.assign id).1 (q.assign id).2 := by
  intro w
  unfold assign
  split
  · rfl
  · rename_i first rest hq
    have hholders := count_holders q id w
    rw [map_fst_settled, waiters, waiters, hq]
    simp only [List.map_cons, List.cons_append, List.count_cons, List.count_append]
    omega

theorem conserves_complete : q.Conserves (q.complete id outcome).1 (q.complete id outcome).2 := by
  intro w
  have hholders := count_holders q id w
  rw [complete, map_fst_settled, waiters, waiters, List.count_append, List.count_append]
  dsimp only
  omega

theorem conserves_failInFlight (q : AckQueue) (reason : String) :
    q.Conserves (q.failInFlight reason).1 (q.failInFlight reason).2 := by
  intro w
  have hout : (q.failInFlight reason).2.map (·.1) = q.inFlight.map (·.2) := List.map_map
  rw [hout, waiters, waiters, List.count_append, List.count_append, Nat.add_comm]
  exact congrArg (_ + ·) (Nat.zero_add _)

end AckQueue

namespace AckTracker

variable {t : AckTracker} {kind other : RequestKind} {id : PacketId} {w : Waiter} {outcome : Outcome}
  {reason : String}

def waiters (t : AckTracker) : List Waiter :=
  t.subscribe.waiters ++ t.unsubscribe.waiters

def Conserves (t t' : AckTracker) (out : Settled) : Prop :=
  ∀ w, t'.waiters.count w + (out.map (·.1)).count w = t.waiters.count w

theorem mem_waiters (h : w ∈ (t.queue kind).waiters) : w ∈ t.waiters := by
  cases kind with
  | subscribe => exact List.mem_append_left _ h
  | unsubscribe => exact List.mem_append_right _ h

theorem count_enqueue {next : Waiter} : (t.enqueue kind next).waiters.count w =
    t.waiters.count w + if w = next then 1 else 0 := by
  have hone : [next].count w = if w = next then 1 else 0 := by
    simp [List.count_singleton, eq_comm (a := w)]
  cases kind with
  | subscribe | unsubscribe =>
    simp only [waiters, enqueue, setQueue, queue, AckQueue.enqueue, AckQueue.waiters,
      List.count_append, hone]
    omega

theorem conserves_onQueue {step : AckQueue → AckQueue × Settled}
    (h : (t.queue kind).Conserves (step (t.queue kind)).1 (step (t.queue kind)).2) :
    t.Conserves (t.onQueue kind step).1 (t.onQueue kind step).2 := by
  intro w
  have hw := h w
  cases kind with
  | subscribe | unsubscribe =>
    simp only [waiters, onQueue, setQueue, queue, List.count_append] at hw ⊢
    omega

theorem conserves_failInFlight : t.Conserves (t.failInFlight reason).1 (t.failInFlight reason).2 := by
  intro w
  have hs := AckQueue.conserves_failInFlight t.subscribe reason w
  have hu := AckQueue.conserves_failInFlight t.unsubscribe reason w
  simp only [waiters, failInFlight, List.map_append, List.count_append] at hs hu ⊢
  omega

theorem conserves_close : t.Conserves t.close.1 t.close.2 := by
  intro w
  rw [close, AckQueue.map_fst_settled]
  exact Nat.zero_add _

/-! ### Histories -/

/-- What can happen to a tracker. The waiters take numbers in the order of their requests. -/
inductive Step where
  | request (kind : RequestKind)
  | sent (kind : RequestKind) (id : PacketId)
  | acknowledged (kind : RequestKind) (id : PacketId) (outcome : Outcome)
  | lost (reason : String)
  | closed
  deriving DecidableEq, Repr

/-- A tracker with the requests that it took and what their waiters have learned. -/
structure Docket where
  tracker : AckTracker := {}
  asked : List Errand := []
  settled : Settled := []
  deriving DecidableEq, Repr

namespace Docket

def apply (step : AckTracker → AckTracker × Settled) (d : Docket) : Docket :=
  let (tracker, out) := step d.tracker
  { d with tracker, settled := d.settled ++ out }

/-- A closed tracker takes no request. -/
def take (d : Docket) : Step → Docket
  | .request kind =>
    if d.tracker.closed then d
    else
      { d with
        tracker := d.tracker.enqueue kind d.asked.length
        asked := d.asked ++ [⟨kind, d.asked.length⟩] }
  | .sent kind id => d.apply (·.assign kind id)
  | .acknowledged kind id outcome => d.apply (·.complete kind id outcome)
  | .lost reason => d.apply (·.failInFlight reason)
  | .closed => d.apply (·.close)

def after (steps : List Step) : Docket :=
  steps.foldl take {}

/-- The waiters of a kind in the order of their requests. -/
def waiters (kind : RequestKind) (d : Docket) : List Waiter :=
  Errand.owners kind d.asked

def outcomes (w : Waiter) (d : Docket) : List Outcome :=
  (d.settled.filter (·.1 == w)).map (·.2)

end Docket

namespace Step

/-- A packet of the kind is sent. -/
def isPacket (kind : RequestKind) : Step → Bool
  | .sent kind' _ => kind' == kind
  | _ => false

/-- What the waiter of a packet learns from a step: it is the answer to the packet, or the connection is
lost, or nobody will be told any more. -/
def answer? (kind : RequestKind) (id : PacketId) : Step → Option Outcome
  | .acknowledged kind' id' outcome => if kind' = kind ∧ id' = id then some outcome else none
  | .lost reason => some (.refused ("connection lost: " ++ reason))
  | .closed => some .abandoned
  | .request _ | .sent .. => none

/-- The same where the next packet may have the id of one that is under way. -/
def verdict? (kind : RequestKind) (id : PacketId) (s : Step) : Option Outcome :=
  if s = .sent kind id then some .abandoned else s.answer? kind id

end Step

def packets (kind : RequestKind) (steps : List Step) : Nat :=
  steps.countP (·.isPacket kind)

/-- The last step that concerned a packet with that id was its sending. -/
def UnderWay (kind : RequestKind) (id : PacketId) (steps : List Step) : Prop :=
  (steps.filter fun s => (s.verdict? kind id).isSome).getLast? = some (.sent kind id)

instance {steps : List Step} : Decidable (UnderWay kind id steps) :=
  inferInstanceAs (Decidable (_ = _))

namespace Step

/-- A packet is sent for a request that was taken. -/
def Backed (earlier : List Step) : Step → Prop
  | .sent kind _ => packets kind earlier < ((Docket.after earlier).waiters kind).length
  | _ => True

/-- A packet gets no id that is under way. -/
def Fresh (earlier : List Step) : Step → Prop
  | .sent kind id => ¬ UnderWay kind id earlier
  | _ => True

instance {earlier : List Step} (s : Step) : Decidable (s.Backed earlier) :=
  match s with
  | .sent .. => inferInstanceAs (Decidable (_ < _))
  | .request _ | .acknowledged .. | .lost _ | .closed => inferInstanceAs (Decidable True)

instance {earlier : List Step} (s : Step) : Decidable (s.Fresh earlier) :=
  match s with
  | .sent .. => inferInstanceAs (Decidable (¬ _))
  | .request _ | .acknowledged .. | .lost _ | .closed => inferInstanceAs (Decidable True)

end Step

section Steps

variable {d : Docket} {s : Step} {steps before rest : List Step}

theorem after_append : Docket.after (steps ++ rest) = rest.foldl Docket.take (Docket.after steps) :=
  List.foldl_append

theorem after_concat : Docket.after (steps ++ [s]) = (Docket.after steps).take s :=
  after_append

theorem packets_concat : packets kind (steps ++ [s]) =
    packets kind steps + if s.isPacket kind then 1 else 0 := by
  rw [packets, List.countP_append, List.countP_singleton]
  rfl

theorem settled_take : ∃ out, (d.take s).settled = d.settled ++ out := by
  cases s with
  | request kind =>
    refine ⟨[], ?_⟩
    rw [Docket.take, List.append_nil]
    split <;> rfl
  | sent | acknowledged | lost | closed => exact ⟨_, rfl⟩

theorem asked_take : ∃ more, (d.take s).asked = d.asked ++ more := by
  cases s with
  | request kind =>
    rw [Docket.take]
    split
    · exact ⟨[], (List.append_nil _).symm⟩
    · exact ⟨_, rfl⟩
  | sent | acknowledged | lost | closed => exact ⟨[], (List.append_nil _).symm⟩

theorem mem_settled_after {x : Waiter × Outcome} (h : x ∈ (Docket.after steps).settled) :
    x ∈ (Docket.after (steps ++ rest)).settled := by
  rw [after_append]
  induction rest generalizing steps with
  | nil => exact h
  | cons s rest ih =>
    rw [List.foldl_cons, ← after_concat]
    refine ih ?_
    obtain ⟨out, hout⟩ := settled_take (d := Docket.after steps) (s := s)
    rw [after_concat, hout]
    exact List.mem_append_left _ h

theorem waiters_after (k : Nat) (h : ((Docket.after steps).waiters kind)[k]? = some w) :
    ((Docket.after (steps ++ rest)).waiters kind)[k]? = some w := by
  rw [after_append]
  induction rest generalizing steps with
  | nil => exact h
  | cons s rest ih =>
    rw [List.foldl_cons, ← after_concat]
    refine ih ?_
    obtain ⟨more, hmore⟩ := asked_take (d := Docket.after steps) (s := s)
    obtain ⟨hlt, rfl⟩ := List.getElem?_eq_some_iff.mp h
    rw [after_concat, Docket.waiters, hmore, Wire.owners_append]
    exact (List.getElem?_append_left hlt).trans h

/-- Whoever made a request waits on or has learned one outcome. -/
def Docket.Accounted (d : Docket) : Prop :=
  ∀ w, d.tracker.waiters.count w + (d.settled.map (·.1)).count w =
    if w < d.asked.length then 1 else 0

theorem Docket.Accounted.apply {step : AckTracker → AckTracker × Settled} (h : d.Accounted)
    (hstep : d.tracker.Conserves (step d.tracker).1 (step d.tracker).2) : (d.apply step).Accounted := by
  intro w
  have hw := h w
  have hconserves := hstep w
  rw [Docket.apply, List.map_append, List.count_append, ← hw, ← hconserves]
  exact (Nat.add_left_comm ..).trans (Nat.add_comm ..)

theorem Docket.Accounted.take (h : d.Accounted) : (d.take s).Accounted := by
  cases s with
  | request kind =>
    rw [Docket.take]
    split
    · exact h
    · intro w
      have hw := h w
      rw [count_enqueue, List.length_append, List.length_singleton]
      obtain hlt | rfl | hgt := Nat.lt_trichotomy w d.asked.length
      · rw [if_pos hlt] at hw
        rw [if_neg (Nat.ne_of_lt hlt), if_pos (Nat.lt_succ_of_lt hlt)]
        exact hw
      · rw [if_neg (Nat.lt_irrefl _)] at hw
        rw [if_pos rfl, if_pos (Nat.lt_succ_self _), Nat.add_right_comm, hw]
      · rw [if_neg (Nat.not_lt_of_gt hgt)] at hw
        rw [if_neg (Nat.ne_of_gt hgt), if_neg (Nat.not_lt.mpr hgt)]
        exact hw
  | sent => exact h.apply (conserves_onQueue AckQueue.conserves_assign)
  | acknowledged => exact h.apply (conserves_onQueue AckQueue.conserves_complete)
  | lost => exact h.apply conserves_failInFlight
  | closed => exact h.apply conserves_close

theorem accounted_after (steps : List Step) : (Docket.after steps).Accounted := by
  induction steps using List.reverseRecOn with
  | nil =>
    intro w
    rfl
  | append_singleton steps s ih => exact after_concat ▸ ih.take

/-! ### Queues and packets -/

theorem mem_holders {q : AckQueue} : w ∈ q.holders id ↔ (id, w) ∈ q.inFlight := by
  simp [AckQueue.holders]

theorem queue_apply {step : AckQueue → AckQueue × Settled} :
    (d.apply (·.onQueue kind step)).tracker.queue other =
      if other = kind then (step (d.tracker.queue kind)).1 else d.tracker.queue other :=
  queue_setQueue

theorem inFlight_request :
    ((d.take (.request kind)).tracker.queue other).inFlight = (d.tracker.queue other).inFlight := by
  rw [Docket.take]
  split
  · rfl
  · rw [enqueue, queue_setQueue]
    split
    · subst other
      rfl
    · rfl

theorem verdict?_sent {kind' : RequestKind} {id' : PacketId} : (Step.sent kind' id').verdict? kind id =
    if kind' = kind ∧ id' = id then some .abandoned else none := by
  simp [Step.verdict?, Step.answer?]

theorem verdict?_acknowledged {kind' : RequestKind} {id' : PacketId} :
    (Step.acknowledged kind' id' outcome).verdict? kind id =
      if kind' = kind ∧ id' = id then some outcome else none := by
  simp [Step.verdict?, Step.answer?]

/-- A packet is under way from its sending to the first step that decides on it. -/
theorem mem_inFlight_take (hs : s = .sent kind id → (d.tracker.queue kind).queued ≠ []) :
    (id, w) ∈ ((d.take s).tracker.queue kind).inFlight ↔
      (s = .sent kind id ∧ (d.tracker.queue kind).queued.head? = some w) ∨
      ((id, w) ∈ (d.tracker.queue kind).inFlight ∧ s.verdict? kind id = none) := by
  cases s with
  | request kind' => simp [inFlight_request, Step.verdict?, Step.answer?]
  | sent kind' id' =>
    have htake : d.take (.sent kind' id') = d.apply (·.onQueue kind' (·.assign id')) := rfl
    rw [htake, queue_apply, verdict?_sent]
    by_cases hkind : kind = kind'
    · subst kind'
      rw [if_pos rfl]
      cases hqueued : (d.tracker.queue kind).queued with
      | nil =>
        have hne : id' ≠ id := fun heq => hs (by rw [heq]) hqueued
        simp [AckQueue.assign, hqueued, hne]
      | cons first rest =>
        rw [Wire.assign_of_cons hqueued, List.mem_cons, Wire.mem_others]
        by_cases hid : id' = id
        · simp [hid, eq_comm]
        · simp [hid, Ne.symm hid]
    · simp [hkind, Ne.symm hkind]
  | acknowledged kind' id' outcome =>
    have htake : d.take (.acknowledged kind' id' outcome) =
        d.apply (·.onQueue kind' (·.complete id' outcome)) := rfl
    rw [htake, queue_apply, verdict?_acknowledged]
    by_cases hkind : kind = kind'
    · subst kind'
      rw [if_pos rfl, AckQueue.complete, Wire.mem_others]
      simp [eq_comm]
    · simp [hkind, Ne.symm hkind]
  | lost reason =>
    cases kind <;> simp [Docket.take, Docket.apply, failInFlight, AckQueue.failInFlight, queue,
      Step.verdict?, Step.answer?]
  | closed => cases kind <;> simp [Docket.take, Docket.apply, close, queue, Step.verdict?, Step.answer?]

theorem settled_of_verdict (hs : s = .sent kind id → (d.tracker.queue kind).queued ≠ [])
    (hflight : (id, w) ∈ (d.tracker.queue kind).inFlight) (h : s.verdict? kind id = some outcome) :
    (w, outcome) ∈ (d.take s).settled := by
  have hholds {o : Outcome} : (w, o) ∈ ((d.tracker.queue kind).holders id).map (·, o) :=
    List.mem_map.mpr ⟨w, mem_holders.mpr hflight, rfl⟩
  cases s with
  | request kind' => cases h
  | sent kind' id' =>
    rw [verdict?_sent, Option.ite_none_right_eq_some] at h
    obtain ⟨⟨rfl, rfl⟩, h⟩ := h
    cases h
    cases hqueued : (d.tracker.queue kind').queued with
    | nil => exact absurd hqueued (hs rfl)
    | cons first rest =>
      have hout : ((d.tracker.queue kind').assign id').2 =
          ((d.tracker.queue kind').holders id').map (·, .abandoned) := by
        rw [AckQueue.assign, hqueued]
      refine List.mem_append_right _ ?_
      change _ ∈ ((d.tracker.queue kind').assign id').2
      rw [hout]
      exact hholds
  | acknowledged kind' id' outcome' =>
    rw [verdict?_acknowledged, Option.ite_none_right_eq_some] at h
    obtain ⟨⟨rfl, rfl⟩, h⟩ := h
    cases h
    exact List.mem_append_right _ hholds
  | lost reason =>
    cases h
    have hmap := List.mem_map_of_mem (f := fun e => (e.2, Outcome.refused ("connection lost: " ++ reason)))
      hflight
    refine List.mem_append_right _ ?_
    cases kind with
    | subscribe => exact List.mem_append_left _ hmap
    | unsubscribe => exact List.mem_append_right _ hmap
  | closed =>
    cases h
    have hwaits : w ∈ d.tracker.waiters := mem_waiters (List.mem_append_left _ (List.mem_map_of_mem hflight))
    exact List.mem_append_right _ (List.mem_map_of_mem hwaits)

/-- A closed tracker stays as it is. -/
theorem take_of_closed (h : d.tracker = { closed := true }) : d.take s = d := by
  obtain ⟨tracker, asked, settled⟩ := d
  subst h
  cases s with
  | request => rfl
  | sent kind id | acknowledged kind id outcome =>
    cases kind <;> exact congrArg (Docket.mk _ asked) (List.append_nil settled)
  | lost | closed => exact congrArg (Docket.mk _ asked) (List.append_nil settled)

/-- How a tracker stands to its history: the waiters of a kind whose packets are not sent are queued in
the order of their requests, whatever became of the packets. -/
structure Docket.Follows (d : Docket) (steps : List Step) : Prop where
  isClosed : d.tracker.closed = decide (.closed ∈ steps)
  emptied : .closed ∈ steps → d.tracker = { closed := true }
  packets : ∀ kind, .closed ∉ steps → packets kind steps ≤ (d.waiters kind).length
  queued : ∀ kind, .closed ∉ steps →
    (d.tracker.queue kind).queued = (d.waiters kind).drop (AckTracker.packets kind steps)

/-- Steps that settle waiters under way leave the queues as they are. -/
theorem Docket.Follows.released {out : Settled} (h : d.Follows steps)
    (hreleases : d.tracker.Releases (d.take s).tracker out) (hasked : (d.take s).asked = d.asked)
    (hs : ∀ kind, s.isPacket kind = false) (hopen : s ≠ .closed) : (d.take s).Follows (steps ++ [s]) := by
  have hclosed : .closed ∈ steps ++ [s] ↔ .closed ∈ steps := by simp [Ne.symm hopen]
  have hpackets : ∀ kind, AckTracker.packets kind (steps ++ [s]) = AckTracker.packets kind steps :=
    fun kind => by rw [packets_concat, hs, if_neg Bool.false_ne_true, Nat.add_zero]
  have hwaiters : ∀ kind, (d.take s).waiters kind = d.waiters kind :=
    fun kind => congrArg (Errand.owners kind) hasked
  exact {
    isClosed := by rw [hreleases.closed, h.isClosed, decide_eq_decide.mpr hclosed]
    emptied := fun hin => by
      have heq := h.emptied (hclosed.mp hin)
      rw [take_of_closed heq]
      exact heq
    packets := fun kind hout => by
      rw [hpackets, hwaiters]
      exact h.packets kind (mt hclosed.mpr hout)
    queued := fun kind hout => by
      rw [hreleases.queued, hpackets, hwaiters]
      exact h.queued kind (mt hclosed.mpr hout) }

theorem Docket.Follows.request (h : d.Follows steps) (hin : .closed ∉ steps) :
    (d.take (.request kind)).Follows (steps ++ [.request kind]) := by
  have hclosed : d.tracker.closed = false := h.isClosed.trans (decide_eq_false hin)
  have htake : d.take (.request kind) = { d with
      tracker := d.tracker.enqueue kind d.asked.length
      asked := d.asked ++ [⟨kind, d.asked.length⟩] } := by
    rw [Docket.take, hclosed, if_neg Bool.false_ne_true]
  have hpackets : ∀ other, AckTracker.packets other (steps ++ [.request kind]) =
      AckTracker.packets other steps := fun other => packets_concat
  have hwaiters : ∀ other, (d.take (.request kind)).waiters other =
      d.waiters other ++ if kind = other then [d.asked.length] else [] := by
    intro other
    rw [htake, waiters, Wire.owners_append, Wire.owners_cons]
    rfl
  have hout : .closed ∉ steps ++ [.request kind] := by simp [hin]
  exact {
    isClosed := by
      rw [htake, decide_eq_false hout, ← hclosed]
      exact closed_setQueue
    emptied := fun hin => absurd hin hout
    packets := fun other _ => by
      rw [hpackets, hwaiters, List.length_append]
      exact Nat.le_add_right_of_le (h.packets other hin)
    queued := fun other _ => by
      rw [hpackets, hwaiters, List.drop_append_of_le_length (h.packets other hin), htake, enqueue,
        queue_setQueue]
      by_cases hkind : kind = other
      · subst other
        rw [if_pos rfl, if_pos rfl, AckQueue.enqueue, h.queued kind hin]
      · rw [if_neg (Ne.symm hkind), if_neg hkind, List.append_nil, h.queued other hin] }

/-- The packet that is sent next belongs to the waiter that is queued first. -/
theorem Docket.Follows.next (h : d.Follows steps) (hin : .closed ∉ steps)
    (hlt : AckTracker.packets kind steps < (d.waiters kind).length) :
    (d.tracker.queue kind).queued = (d.waiters kind)[AckTracker.packets kind steps] ::
      (d.waiters kind).drop (AckTracker.packets kind steps + 1) := by
  rw [h.queued kind hin, List.drop_eq_getElem_cons hlt]

theorem Docket.Follows.sent (h : d.Follows steps) (hin : .closed ∉ steps)
    (hlt : AckTracker.packets kind steps < (d.waiters kind).length) :
    (d.take (.sent kind id)).Follows (steps ++ [.sent kind id]) := by
  have htake : d.take (.sent kind id) = d.apply (·.onQueue kind (·.assign id)) := rfl
  have hwaiters : ∀ other, (d.take (.sent kind id)).waiters other = d.waiters other := fun _ => rfl
  have hpackets : ∀ other, AckTracker.packets other (steps ++ [.sent kind id]) =
      AckTracker.packets other steps + if other = kind then 1 else 0 := by
    intro other
    rw [packets_concat]
    simp [Step.isPacket, eq_comm (a := kind)]
  have hout : .closed ∉ steps ++ [.sent kind id] := by simp [hin]
  exact {
    isClosed := by
      rw [decide_eq_false hout, ← decide_eq_false hin, ← h.isClosed]
      exact closed_setQueue
    emptied := fun hin => absurd hin hout
    packets := fun other _ => by
      rw [hpackets, hwaiters]
      by_cases hkind : other = kind
      · subst other
        rw [if_pos rfl]
        exact hlt
      · rw [if_neg hkind]
        exact h.packets other hin
    queued := fun other _ => by
      rw [hpackets, hwaiters, htake, queue_apply]
      by_cases hkind : other = kind
      · subst other
        rw [if_pos rfl, if_pos rfl, Wire.assign_of_cons (h.next hin hlt)]
      · rw [if_neg hkind, if_neg hkind, h.queued other hin]
        rfl }

theorem Docket.Follows.take (h : d.Follows steps) (hs : ∀ kind, s.isPacket kind →
    AckTracker.packets kind steps < (d.waiters kind).length) : (d.take s).Follows (steps ++ [s]) := by
  by_cases hin : .closed ∈ steps
  · have hmem : .closed ∈ steps ++ [s] := List.mem_append_left _ hin
    rw [take_of_closed (h.emptied hin)]
    exact {
      isClosed := by rw [h.isClosed, decide_eq_true hin, decide_eq_true hmem]
      emptied := fun _ => h.emptied hin
      packets := fun _ hout => absurd hmem hout
      queued := fun _ hout => absurd hmem hout }
  · cases s with
    | request kind => exact h.request hin
    | sent kind id => exact h.sent hin (hs kind (beq_self_eq_true kind))
    | acknowledged kind id outcome =>
      have hreleases : d.tracker.Releases _ (d.tracker.complete kind id outcome).2 := releases_complete
      exact h.released hreleases rfl (fun _ => rfl) nofun
    | lost reason =>
      have hreleases : d.tracker.Releases _ (d.tracker.failInFlight reason).2 := releases_failInFlight
      exact h.released hreleases rfl (fun _ => rfl) nofun
    | closed =>
      have hmem : .closed ∈ steps ++ [.closed] := List.mem_append_right _ List.mem_cons_self
      exact ⟨(decide_eq_true hmem).symm, fun _ => rfl, fun _ hout => absurd hmem hout,
        fun _ hout => absurd hmem hout⟩

theorem backed_isPacket (h : s.Backed steps) (hs : s.isPacket kind) :
    packets kind steps < ((Docket.after steps).waiters kind).length := by
  cases s with
  | sent kind' id => exact eq_of_beq hs ▸ h
  | request | acknowledged | lost | closed => cases hs

theorem follows_after (h : Throughout Step.Backed steps) : (Docket.after steps).Follows steps := by
  induction steps using List.reverseRecOn with
  | nil => exact ⟨rfl, nofun, fun kind _ => Nat.zero_le _, fun kind _ => by cases kind <;> rfl⟩
  | append_singleton steps s ih => exact after_concat ▸ (ih h.front).take fun _ => backed_isPacket h.at

/-! ### What becomes of a packet -/

theorem verdict?_closed : Step.closed.verdict? kind id = some .abandoned := rfl

theorem not_mem_of_undecided (h : rest.findSome? (·.verdict? kind id) = none) : .closed ∉ rest :=
  fun hin => nomatch (List.findSome?_eq_none_iff.mp h _ hin).symm.trans verdict?_closed

/-- A packet finds a waiter in the queue. -/
theorem first_waiter (h : Throughout Step.Backed (steps ++ .sent kind id :: rest))
    (hin : .closed ∉ steps) : ∃ first queued,
      ((Docket.after steps).tracker.queue kind).queued = first :: queued ∧
      ((Docket.after steps).waiters kind)[packets kind steps]? = some first := by
  have hlt := backed_isPacket h.at (beq_self_eq_true kind)
  exact ⟨_, _, (follows_after h.front).next hin hlt, List.getElem?_eq_getElem hlt⟩

theorem queued_ne_nil (h : Throughout Step.Backed (steps ++ s :: rest)) (hin : .closed ∉ steps)
    (hs : s = .sent kind id) : ((Docket.after steps).tracker.queue kind).queued ≠ [] := by
  subst hs
  obtain ⟨first, queued, hqueued, -⟩ := first_waiter h hin
  rw [hqueued]
  exact List.cons_ne_nil _ _

theorem not_mem_split (hbefore : .closed ∉ before) (h : rest.findSome? (·.verdict? kind id) = none) :
    .closed ∉ before ++ .sent kind id :: rest := by
  simpa using ⟨hbefore, not_mem_of_undecided h⟩

/-- A packet that nothing has decided on is under way. -/
theorem inFlight_of_undecided (h : Throughout Step.Backed (before ++ .sent kind id :: rest))
    (hin : .closed ∉ before) (hw : ((Docket.after before).waiters kind)[packets kind before]? = some w)
    (hrest : rest.findSome? (·.verdict? kind id) = none) :
    (id, w) ∈ ((Docket.after (before ++ .sent kind id :: rest)).tracker.queue kind).inFlight := by
  induction rest using List.reverseRecOn with
  | nil =>
    obtain ⟨first, queued, hqueued, hfirst⟩ := first_waiter h hin
    rw [after_concat, mem_inFlight_take (queued_ne_nil h hin), hqueued]
    exact .inl ⟨rfl, hfirst.symm.trans hw⟩
  | append_singleton rest s ih =>
    rw [List.findSome?_append, Option.or_eq_none_iff] at hrest
    rw [← List.cons_append, ← List.append_assoc] at h ⊢
    rw [after_concat, mem_inFlight_take (queued_ne_nil h (not_mem_split hin hrest.1))]
    exact .inr ⟨ih h.front hrest.1, by simpa using hrest.2⟩

/-- The packets under way are those that were sent and not decided on, each with the waiter that has its
place among the waiters of its kind. -/
theorem mem_inFlight_iff (h : Throughout Step.Backed steps) :
    (id, w) ∈ ((Docket.after steps).tracker.queue kind).inFlight ↔
      ∃ before rest, steps = before ++ .sent kind id :: rest ∧ .closed ∉ before ∧
        ((Docket.after before).waiters kind)[packets kind before]? = some w ∧
        rest.findSome? (·.verdict? kind id) = none := by
  constructor
  · intro hflight
    induction steps using List.reverseRecOn with
    | nil => cases kind <;> cases hflight
    | append_singleton steps s ih =>
      have hfollows := follows_after h.front
      rw [after_concat] at hflight
      by_cases hin : .closed ∈ steps
      · rw [take_of_closed (hfollows.emptied hin), hfollows.emptied hin] at hflight
        cases kind <;> cases hflight
      · obtain ⟨rfl, hhead⟩ | ⟨hflight, hs⟩ := (mem_inFlight_take (queued_ne_nil h hin)).mp hflight
        · obtain ⟨first, queued, hqueued, hfirst⟩ := first_waiter h hin
          rw [hqueued] at hhead
          exact ⟨steps, [], rfl, hin, hfirst.trans hhead, rfl⟩
        · obtain ⟨before, rest, rfl, hbefore, hw, hrest⟩ := ih h.front hflight
          refine ⟨before, rest ++ [s], by simp, hbefore, hw, ?_⟩
          rw [List.findSome?_append, hrest]
          simpa using hs
  · rintro ⟨before, rest, rfl, hbefore, hw, hrest⟩
    exact inFlight_of_undecided h hbefore hw hrest

theorem length_outcomes : (d.outcomes w).length = (d.settled.map (·.1)).count w := by
  rw [Docket.outcomes, List.length_map, List.count_eq_countP, List.countP_map, List.countP_eq_length_filter]
  rfl

theorem mem_outcomes (h : (w, outcome) ∈ d.settled) : outcome ∈ d.outcomes w :=
  List.mem_map.mpr ⟨_, List.mem_filter.mpr ⟨h, beq_self_eq_true w⟩, rfl⟩

/-- Whoever waits has learned nothing. -/
theorem Docket.Accounted.outcomes_of_waits (h : d.Accounted) (hw : w ∈ d.tracker.waiters) :
    d.outcomes w = [] := by
  have hcount := h w
  have hpos := List.count_pos_iff.mpr hw
  rw [← length_outcomes] at hcount
  refine List.eq_nil_of_length_eq_zero ?_
  split at hcount <;> omega

/-- Nobody learns two outcomes. -/
theorem Docket.Accounted.outcomes_of_settled (h : d.Accounted) (hw : (w, outcome) ∈ d.settled) :
    d.outcomes w = [outcome] := by
  have hcount := h w
  rw [← length_outcomes] at hcount
  have hle : (d.outcomes w).length ≤ 1 := by split at hcount <;> omega
  have hmem := mem_outcomes hw
  generalize d.outcomes w = os at hle hmem
  cases os with
  | nil => cases hmem
  | cons o os =>
    obtain rfl : os = [] := List.eq_nil_of_length_eq_zero (by simpa using hle)
    rw [List.mem_singleton.mp hmem]

/-- The waiter of a packet learns what the first step says that decides on the packet. -/
theorem outcomes_of_packet (h : Throughout Step.Backed (before ++ .sent kind id :: rest))
    (hin : .closed ∉ before) : ∃ w,
      ((Docket.after before).waiters kind)[packets kind before]? = some w ∧
      (Docket.after (before ++ .sent kind id :: rest)).outcomes w =
        (rest.findSome? (·.verdict? kind id)).toList := by
  obtain ⟨w, -, -, hw⟩ := first_waiter h hin
  refine ⟨w, hw, ?_⟩
  cases hrest : rest.findSome? (·.verdict? kind id) with
  | none =>
    have hflight := inFlight_of_undecided h hin hw hrest
    exact (accounted_after _).outcomes_of_waits
      (mem_waiters (List.mem_append_left _ (List.mem_map_of_mem hflight)))
  | some outcome =>
    obtain ⟨quiet, s, late, rfl, hs, hquiet⟩ := List.findSome?_eq_some_iff.mp hrest
    replace hquiet := List.findSome?_eq_none_iff.mpr hquiet
    rw [← List.cons_append, ← List.append_assoc] at h ⊢
    have hflight := inFlight_of_undecided h.front hin hw hquiet
    have hsettled := settled_of_verdict (queued_ne_nil h (not_mem_split hin hquiet)) hflight hs
    rw [← after_concat] at hsettled
    refine (accounted_after _).outcomes_of_settled ?_
    rw [List.append_cons]
    exact mem_settled_after hsettled

/-! ### Ids that are used again -/

theorem underWay_of_undecided (h : rest.findSome? (·.verdict? kind id) = none) :
    UnderWay kind id (before ++ .sent kind id :: rest) := by
  have hrest : rest.filter (fun s => (s.verdict? kind id).isSome) = [] :=
    List.filter_eq_nil_iff.mpr fun s hs => by simp [List.findSome?_eq_none_iff.mp h s hs]
  have hsent : ((Step.sent kind id).verdict? kind id).isSome := by simp [verdict?_sent]
  have hfilter : (Step.sent kind id :: rest).filter (fun s => (s.verdict? kind id).isSome) =
      [.sent kind id] := by
    rw [List.filter_cons, if_pos hsent, hrest]
  rw [UnderWay, List.filter_append, hfilter, List.getLast?_concat]

theorem answer?_of_ne (h : s ≠ .sent kind id) : s.verdict? kind id = s.answer? kind id :=
  if_neg h

/-- If no id under way is used again, a packet is decided on by its answer or by a loss. -/
theorem findSome?_answer? (h : Throughout Step.Fresh (before ++ .sent kind id :: rest)) :
    rest.findSome? (·.answer? kind id) = rest.findSome? (·.verdict? kind id) := by
  induction rest using List.reverseRecOn with
  | nil => rfl
  | append_singleton rest s ih =>
    rw [← List.cons_append, ← List.append_assoc] at h
    rw [List.findSome?_append, List.findSome?_append, ih h.front]
    cases hrest : rest.findSome? (·.verdict? kind id) with
    | some outcome => rfl
    | none =>
      have hne : s ≠ .sent kind id := fun hs => by
        have hfresh := h.at
        rw [hs] at hfresh
        exact hfresh (underWay_of_undecided hrest)
      rw [Option.none_or, Option.none_or, List.findSome?_singleton, List.findSome?_singleton,
        answer?_of_ne hne]

/-- An answer to no packet under way tells nobody anything. -/
theorem take_acknowledged (h : Throughout Step.Backed steps) (hid : ¬ UnderWay kind id steps) :
    (Docket.after steps).take (.acknowledged kind id outcome) = Docket.after steps := by
  have hnone : ∀ e ∈ ((Docket.after steps).tracker.queue kind).inFlight, e.1 ≠ id := by
    rintro ⟨id, w⟩ hflight rfl
    obtain ⟨before, rest, rfl, -, -, hrest⟩ := (mem_inFlight_iff h).mp hflight
    exact hid (underWay_of_undecided hrest)
  generalize Docket.after steps = d at hnone
  have hothers : (d.tracker.queue kind).others id = (d.tracker.queue kind).inFlight :=
    List.filter_eq_self.mpr fun e he => bne_iff_ne.mpr (hnone e he)
  have hholders : (d.tracker.queue kind).holders id = [] := by
    rw [AckQueue.holders, List.filter_eq_nil_iff.mpr fun e he => by simpa using hnone e he]
    rfl
  have hcomplete : (d.tracker.queue kind).complete id outcome = (d.tracker.queue kind, []) := by
    rw [AckQueue.complete, hothers, hholders]
    rfl
  have hsame : d.tracker.complete kind id outcome = (d.tracker, []) := by
    rw [complete, onQueue, hcomplete]
    cases kind <;> rfl
  rw [Docket.take, Docket.apply, hsame]
  exact congrArg (Docket.mk _ _) (List.append_nil _)

/-! ### The end -/

theorem after_closed : Docket.after (before ++ .closed :: rest) = (Docket.after before).take .closed := by
  induction rest using List.reverseRecOn with
  | nil => exact after_concat
  | append_singleton rest s ih =>
    rw [← List.cons_append, ← List.append_assoc, after_concat, ih]
    exact take_of_closed rfl

theorem map_owner_asked :
    (Docket.after steps).asked.map (·.owner) = List.range (Docket.after steps).asked.length := by
  induction steps using List.reverseRecOn with
  | nil => rfl
  | append_singleton steps s ih =>
    rw [after_concat]
    cases s with
    | request kind =>
      rw [Docket.take]
      split
      · exact ih
      · rw [List.map_append, ih, List.length_append, List.length_singleton, List.range_succ]
        rfl
    | sent | acknowledged | lost | closed => exact ih

theorem mem_waiters_of_unsent {k : Nat} (h : Throughout Step.Backed steps) (hin : .closed ∉ steps)
    (hw : ((Docket.after steps).waiters kind)[k]? = some w) (hk : packets kind steps ≤ k) :
    w ∈ (Docket.after steps).tracker.waiters := by
  have hqueued : w ∈ ((Docket.after steps).tracker.queue kind).queued := by
    rw [(follows_after h).queued kind hin]
    refine List.mem_of_getElem? (i := k - packets kind steps) ?_
    rw [List.getElem?_drop, Nat.add_sub_cancel' hk]
    exact hw
  exact mem_waiters (List.mem_append_right _ hqueued)

theorem open_of_not_mem (h : .closed ∉ steps) : ∀ s ∈ steps, decide (s ≠ .closed) :=
  fun _ hs => decide_eq_true (ne_of_mem_of_not_mem hs h)

/-- The waiters whose packets are not sent learn nothing before the end. -/
theorem outcomes_of_unsent {k : Nat} (h : Throughout Step.Backed steps)
    (hw : ((Docket.after steps).waiters kind)[k]? = some w)
    (hk : packets kind (steps.takeWhile (· ≠ .closed)) ≤ k) :
    (Docket.after steps).outcomes w = if .closed ∈ steps then [.abandoned] else [] := by
  by_cases hin : .closed ∈ steps
  · obtain ⟨before, rest, rfl, hbefore⟩ := List.eq_append_cons_of_mem hin
    rw [List.takeWhile_append_of_pos (open_of_not_mem hbefore), List.takeWhile_cons_of_neg (by simp),
      List.append_nil] at hk
    rw [if_pos hin]
    refine (accounted_after _).outcomes_of_settled ?_
    rw [after_closed] at hw ⊢
    exact List.mem_append_right _ (List.mem_map_of_mem (mem_waiters_of_unsent h.front hbefore hw hk))
  · rw [List.takeWhile_eq_self_iff.mpr (open_of_not_mem hin)] at hk
    rw [if_neg hin]
    exact (accounted_after _).outcomes_of_waits (mem_waiters_of_unsent h hin hw hk)

/-- If a packet is sent for each request, in order, and no id under way is used again, then the waiter of
the k-th request of a kind is that of its k-th packet. It learns the first answer to that packet, or that
the connection was lost before, or that the tracker was closed, and nothing else. Those whose packets are
not sent wait on in order, whatever is lost. Other answers tell nobody anything, and a closed tracker has
told everybody and takes no request. -/
theorem told_by_packet (hb : Throughout Step.Backed steps) (hf : Throughout Step.Fresh steps) :
    let d := Docket.after steps
    (∀ before kind id rest, steps = before ++ .sent kind id :: rest → .closed ∉ before → ∃ w,
      (d.waiters kind)[packets kind before]? = some w ∧
      (id, w) ∈ ((Docket.after (before ++ [.sent kind id])).tracker.queue kind).inFlight ∧
      d.outcomes w = (rest.findSome? (·.answer? kind id)).toList) ∧
    (∀ kind k w, (d.waiters kind)[k]? = some w → packets kind (steps.takeWhile (· ≠ .closed)) ≤ k →
      d.outcomes w = if .closed ∈ steps then [.abandoned] else []) ∧
    (∀ w, (d.outcomes w).length ≤ 1) ∧
    (∀ kind, .closed ∉ steps →
      (d.tracker.queue kind).queued = (d.waiters kind).drop (packets kind steps)) ∧
    (∀ reason kind, ((d.take (.lost reason)).tracker.queue kind).queued =
      (d.tracker.queue kind).queued) ∧
    (∀ kind id outcome, ¬ UnderWay kind id steps → d.take (.acknowledged kind id outcome) = d) ∧
    (.closed ∈ steps →
      (∀ kind, ∀ w ∈ d.waiters kind, ∃ outcome, d.outcomes w = [outcome]) ∧ (∀ s, d.take s = d) ∧
      ∀ (session : Session) kind topic, session.loop.acks = d.tracker →
        session.request kind topic = .error (.sessionClosed session.url)) := by
  have hfollows := follows_after hb
  refine ⟨?_, fun kind k w => outcomes_of_unsent hb, fun w => ?_, hfollows.queued, ?_,
    fun kind id outcome => take_acknowledged hb, fun hin => ⟨fun kind w hw => ?_, fun s => ?_, ?_⟩⟩
  · rintro before kind id rest rfl hbefore
    obtain ⟨w, hw, houtcomes⟩ := outcomes_of_packet hb hbefore
    refine ⟨w, waiters_after _ hw, ?_, houtcomes.trans ?_⟩
    · rw [List.append_cons] at hb
      exact inFlight_of_undecided hb.front hbefore hw rfl
    · rw [findSome?_answer? hf]
  · have hcount := accounted_after steps w
    rw [← length_outcomes] at hcount
    split at hcount <;> omega
  · intro reason kind
    have hreleases : (Docket.after steps).tracker.Releases
        ((Docket.after steps).take (.lost reason)).tracker
        ((Docket.after steps).tracker.failInFlight reason).2 := releases_failInFlight
    exact hreleases.queued kind
  · obtain ⟨e, he, rfl⟩ := List.mem_map.mp hw
    have hlt := List.mem_map_of_mem (f := Errand.owner) (List.mem_filter.mp he).1
    rw [map_owner_asked, List.mem_range] at hlt
    have hcount := accounted_after steps e.owner
    rw [if_pos hlt, hfollows.emptied hin, ← length_outcomes] at hcount
    exact List.length_eq_one_iff.mp ((Nat.zero_add _).symm.trans hcount)
  · exact take_of_closed (hfollows.emptied hin)
  · intro session kind topic hacks
    rw [Session.request, hacks, hfollows.emptied hin, if_pos rfl]

/-- Two kinds side by side. Packet 1 is lost and its id used again, packet 3 is answered twice, and a
request is made at the end. -/
def mixed : List Step := [
  .request .subscribe, .request .unsubscribe, .request .subscribe, .sent .subscribe 1,
  .sent .unsubscribe 2, .acknowledged .unsubscribe 1 .accepted, .sent .subscribe 3,
  .acknowledged .subscribe 3 .accepted, .acknowledged .subscribe 3 (.refused "no"), .lost "reset",
  .request .subscribe, .sent .subscribe 1, .request .unsubscribe, .closed, .request .subscribe]

theorem told_by_packet_mixed : Throughout Step.Backed mixed ∧ Throughout Step.Fresh mixed ∧
    (∃ w, ((Docket.after mixed).waiters .subscribe)[0]? = some w ∧
      (Docket.after mixed).outcomes w = [.refused "connection lost: reset"]) ∧
    (∃ w, ((Docket.after mixed).waiters .subscribe)[1]? = some w ∧
      (Docket.after mixed).outcomes w = [.accepted]) ∧
    (∃ w, ((Docket.after mixed).waiters .subscribe)[2]? = some w ∧
      (Docket.after mixed).outcomes w = [.abandoned]) ∧
    ((Docket.after mixed).waiters .unsubscribe)[1]? = some 4 ∧
    (Docket.after mixed).outcomes 4 = [.abandoned] := by
  have hb : Throughout Step.Backed mixed := by decide
  have hf : Throughout Step.Fresh mixed := by decide
  obtain ⟨hsent, hunsent, -⟩ := told_by_packet hb hf
  obtain ⟨w₀, h₀, -, ho₀⟩ := hsent (mixed.take 3) .subscribe 1 (mixed.drop 4) rfl (by decide)
  obtain ⟨w₁, h₁, -, ho₁⟩ := hsent (mixed.take 6) .subscribe 3 (mixed.drop 7) rfl (by decide)
  obtain ⟨w₂, h₂, -, ho₂⟩ := hsent (mixed.take 11) .subscribe 1 (mixed.drop 12) rfl (by decide)
  exact ⟨hb, hf, ⟨w₀, h₀, ho₀⟩, ⟨w₁, h₁, ho₁⟩, ⟨w₂, h₂, ho₂⟩, rfl,
    hunsent .unsubscribe 1 4 rfl (by decide)⟩

end Steps

end AckTracker

end Mqtt

end SensorBridge
