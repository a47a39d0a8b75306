import Mathlib.Logic.Relation
import SensorBridge.Mqtt.Session

/-!
Which waiter an acknowledgment settles. Waiters are matched with packets by their places in two queues:
the waiters of the session and the unsent requests of the transport. A new connection without the old
session empties only the latter, so from then on every packet is matched with the waiter of an earlier
request of its kind.
-/
namespace SensorBridge.Mqtt

/-! ### What becomes of the waiters -/

section Waiters

variable {t t' t'' : AckTracker} {q : AckQueue} {kind other : RequestKind} {id : PacketId}
  {outcome : Outcome} {reason : String} {polled : Polled} {out : Settled}

theorem AckTracker.queue_setQueue :
    (t.setQueue kind q).queue other = if other = kind then q else t.queue other := by
  cases kind <;> cases other <;> rfl

theorem AckTracker.closed_setQueue : (t.setQueue kind q).closed = t.closed := by
  cases kind <;> rfl

/-- Waiters under way are settled, and nothing else happens. -/
structure AckTracker.Releases (t t' : AckTracker) (settled : Settled) : Prop where
  closed : t'.closed = t.closed
  queued : ∀ kind, (t'.queue kind).queued = (t.queue kind).queued
  inFlight : ∀ kind, (t'.queue kind).inFlight.Sublist (t.queue kind).inFlight
  settled : ∀ kind, ∀ e ∈ (t.queue kind).inFlight,
    e ∈ (t'.queue kind).inFlight ∨ e.2 ∈ settled.map (·.1)

theorem AckTracker.releases_self : t.Releases t [] where
  closed := rfl
  queued := fun _ => rfl
  inFlight := fun _ => .refl _
  settled := fun _ _ he => .inl he

theorem AckTracker.releases_complete :
    t.Releases (t.complete kind id outcome).1 (t.complete kind id outcome).2 where
  closed := closed_setQueue
  queued := by
    intro other
    rw [complete, onQueue, queue_setQueue]
    split
    · subst other
      rfl
    · rfl
  inFlight := by
    intro other
    rw [complete, onQueue, queue_setQueue]
    split
    · subst other
      exact List.filter_sublist
    · exact .refl _
  settled := by
    intro other e he
    rw [complete, onQueue, queue_setQueue]
    split
    · subst other
      by_cases hid : e.1 = id
      · refine .inr (List.mem_map.mpr ⟨(e.2, outcome), List.mem_map.mpr ⟨e.2, ?_, rfl⟩, rfl⟩)
        exact List.mem_map.mpr ⟨e, List.mem_filter.mpr ⟨he, by simpa using hid⟩, rfl⟩
      · exact .inl (List.mem_filter.mpr ⟨he, by simpa using hid⟩)
    · exact .inl he

theorem AckTracker.releases_failInFlight :
    t.Releases (t.failInFlight reason).1 (t.failInFlight reason).2 where
  closed := rfl
  queued := by
    intro kind
    cases kind <;> rfl
  inFlight := by
    intro kind
    cases kind <;> exact List.nil_sublist _
  settled := by
    intro kind e he
    refine .inr (List.mem_map.mpr ⟨(e.2, .refused ("connection lost: " ++ reason)), ?_, rfl⟩)
    cases kind with
    | subscribe => exact List.mem_append_left _ (List.mem_map.mpr ⟨e, he, rfl⟩)
    | unsubscribe => exact List.mem_append_right _ (List.mem_map.mpr ⟨e, he, rfl⟩)

theorem AckTracker.mem_close {w : Waiter} (h : w ∈ (t.queue kind).waiters) :
    w ∈ t.close.2.map (·.1) := by
  refine List.mem_map.mpr ⟨(w, .abandoned), List.mem_map.mpr ⟨w, ?_, rfl⟩, rfl⟩
  cases kind with
  | subscribe => exact List.mem_append_left _ h
  | unsubscribe => exact List.mem_append_right _ h

/-- What a result of the connection does to the waiters, after some failures in a row. -/
def Polled.act (errors : Nat) (t : AckTracker) : Polled → AckTracker × Settled
  | .subAck id granted => t.complete .subscribe id (EventLoop.grant granted)
  | .unsubAck id => t.complete .unsubscribe id .accepted
  | .sent kind id => t.assign kind id
  | .disconnect => t.failInFlight EventLoop.brokerDisconnect
  | .sentDisconnect => t.close
  | .failed reason =>
    if min (errors + 1) EventLoop.maxErrors = 1 then t.failInFlight reason else (t, [])
  | .connAck .. | .publish _ | .other => (t, [])

/-- The answer to a packet of a kind, with the levels granted to a subscription. -/
def Polled.acknowledgment (kind : RequestKind) (id : PacketId) (granted : List (Option Qos)) : Polled :=
  match kind with
  | .subscribe => .subAck id granted
  | .unsubscribe => .unsubAck id

/-- What such an answer says. -/
def Outcome.verdict (kind : RequestKind) (granted : List (Option Qos)) : Outcome :=
  match kind with
  | .subscribe => EventLoop.grant granted
  | .unsubscribe => .accepted

/-- The result tells of something that came in, not of a packet that was sent. -/
def Polled.isIncoming : Polled → Bool
  | .sent .. | .sentDisconnect => false
  | _ => true

theorem Polled.releases_act (t : AckTracker) (errors : Nat) (h : polled.isIncoming) :
    t.Releases (polled.act errors t).1 (polled.act errors t).2 := by
  cases polled with
  | sent | sentDisconnect => cases h
  | subAck | unsubAck => exact AckTracker.releases_complete
  | disconnect => exact AckTracker.releases_failInFlight
  | failed reason =>
    rw [act]
    split
    · exact AckTracker.releases_failInFlight
    · exact AckTracker.releases_self
  | connAck | publish | other => exact AckTracker.releases_self

/-- Who learns what by the effects. -/
def Effect.outcomes (effects : List Effect) : Settled :=
  effects.filterMap fun
    | .settle w outcome => some (w, outcome)
    | _ => none

theorem Effect.outcomes_ofSettled : Effect.outcomes (Effect.ofSettled out) = out := by
  induction out with
  | nil => rfl
  | cons x rest ih => exact congrArg (x :: ·) ih

theorem Effect.outcomes_append {es es' : List Effect} :
    Effect.outcomes (es ++ es') = Effect.outcomes es ++ Effect.outcomes es' :=
  List.filterMap_append

/-- One round of the loop, as its waiters see it. -/
theorem EventLoop.step_acks (maxDelay : Nat) (polled : Polled) {l : EventLoop} (h : l.ended = false) :
    (l.step maxDelay polled).1.acks = (polled.act l.errors l.acks).1 ∧
    Effect.outcomes (l.step maxDelay polled).2 = (polled.act l.errors l.acks).2 ∧
    (l.step maxDelay polled).1.ended = decide (polled = .sentDisconnect) := by
  unfold step
  rw [h, if_neg Bool.false_ne_true]
  cases polled with
  | subAck | unsubAck | sent | sentDisconnect =>
    exact ⟨rfl, Effect.outcomes_ofSettled, by simp [onAcks, h]⟩
  | disconnect =>
    refine ⟨rfl, ?_, by simp [lose, onAcks, h]⟩
    rw [lose, Effect.outcomes_append, onAcks, Effect.outcomes_ofSettled]
    exact List.append_nil _
  | failed reason =>
    dsimp only [Polled.act]
    split
    · refine ⟨rfl, ?_, by simp [lose, onAcks]⟩
      simp only [lose, onAcks, Effect.outcomes_append, Effect.outcomes_ofSettled]
      exact (List.append_nil _).trans (List.append_nil _)
    · exact ⟨rfl, rfl, by simp⟩
  | connAck code => cases code <;> exact ⟨rfl, rfl, by simp⟩
  | publish | other => exact ⟨rfl, rfl, by simp⟩

end Waiters

/-! ### The transport beside the session -/

/-- A request that the transport has taken: its kind and the waiter who made it. -/
structure Errand where
  kind : RequestKind
  owner : Waiter
  deriving DecidableEq, Repr

structure Packet where
  kind : RequestKind
  id : PacketId
  /-- The waiter whose request it carries. -/
  owner : Waiter
  /-- How many requests of its kind had been dropped unsent before. -/
  shift : Nat
  deriving DecidableEq, Repr

/-- A session with what its transport knows: whose the unsent requests are, which packets were sent
and which requests were dropped, the latest first. -/
structure Wire where
  session : Session
  unsent : List Errand := []
  sent : List Packet := []
  dropped : List Errand := []
  /-- The waiters who have learned how their requests ended. -/
  told : List Waiter := []

/-- A request that awaits an acknowledgment. -/
def Request.kind? : Request → Option RequestKind
  | .acknowledged kind _ => some kind
  | .disconnect => none

/-- The waiters of one kind of request. -/
def Errand.owners (kind : RequestKind) (errands : List Errand) : List Waiter :=
  (errands.filter (·.kind == kind)).map (·.owner)

namespace Wire

/-- The last packet of a kind that had an id. -/
def latest? (σ : Wire) (kind : RequestKind) (id : PacketId) : Option Packet :=
  σ.sent.find? fun p => p.kind == kind && p.id == id

def receiving (σ : Wire) (polled : Polled) : Wire :=
  let (session, effects) := σ.session.receive polled
  let σ := { σ with session, told := (Effect.outcomes effects).map (·.1) ++ σ.told }
  if polled = .connAck .success false then
    { σ with unsent := [], dropped := σ.unsent ++ σ.dropped }
  else σ

def transmitting (σ : Wire) (id : PacketId) : Wire :=
  let (session, effects) := σ.session.transmit id
  let told := (Effect.outcomes effects).map (·.1) ++ σ.told
  match σ.session.unsent, σ.unsent with
  | .acknowledged .. :: _, e :: rest =>
    let packet := ⟨e.kind, id, e.owner, (Errand.owners e.kind σ.dropped).length⟩
    { σ with session, told, unsent := rest, sent := packet :: σ.sent }
  | _, _ => { σ with session, told }

def requesting (σ : Wire) (kind : RequestKind) (topic : String) : Wire :=
  match σ.session.request kind topic with
  | .ok (w, session) => { σ with session, unsent := σ.unsent ++ [⟨kind, w⟩] }
  | .error _ => σ

/-- What can happen on a session: a request is made, the session is asked to end, the transport sends
the first unsent request, or something comes in. A waiter that gives up keeps its place, so that its
time-out is none of them. -/
inductive Occurrence where
  | request (kind : RequestKind) (topic : String)
  | disconnect
  | transmit (id : PacketId)
  | receive (polled : Polled)
  deriving DecidableEq, Repr

/-- Once the session has ended, nobody asks the connection for a result. -/
def next (σ : Wire) : Occurrence → Wire
  | .request kind topic => σ.requesting kind topic
  | .disconnect => { σ with session := σ.session.disconnect.2 }
  | .transmit id => if σ.session.loop.ended then σ else σ.transmitting id
  | .receive polled =>
    if σ.session.loop.ended || !polled.isIncoming then σ else σ.receiving polled

/-- All that can come about after a session was opened, in any order of occurrences. -/
def Reachable (σ : Wire) : Prop :=
  ∃ settings unique feed polled session rest occurrences,
    Session.connect settings unique feed polled = .ok (session, rest) ∧
    σ = List.foldl next { session } occurrences

/-! ### The two queues -/

abbrev queue (σ : Wire) (kind : RequestKind) : AckQueue :=
  σ.session.loop.acks.queue kind

/-- How the waiters stand to the packets. As many waiters as requests of their kind were dropped are
in front of those whose requests are unsent, so the one who is bound to a packet is its owner if and
only if there were none when it was sent. -/
structure Matched (σ : Wire) : Prop where
  closed : σ.session.loop.acks.closed = σ.session.loop.ended
  kinds : σ.session.unsent.filterMap Request.kind? = σ.unsent.map (·.kind)
  queued : σ.session.loop.ended = false → ∀ kind, ∃ stale : List Waiter,
    stale.length = (Errand.owners kind σ.dropped).length ∧
    (σ.queue kind).queued = stale ++ Errand.owners kind σ.unsent
  ascending : ∀ kind, (σ.queue kind).queued.Pairwise (· < ·)
  numbered : ∀ kind, ∀ w ∈ (σ.queue kind).queued, w < σ.session.next
  ids : ∀ kind, ((σ.queue kind).inFlight.map (·.1)).Nodup
  ended : σ.session.loop.ended → ∀ kind, (σ.queue kind).inFlight = []
  bound : ∀ kind, ∀ e ∈ (σ.queue kind).inFlight, ∃ p, σ.latest? kind e.1 = some p ∧
    e.2 ≤ p.owner ∧ (e.2 = p.owner ↔ p.shift = 0)
  settled : ∀ kind id p, σ.latest? kind id = some p → p.shift = 0 →
    p.owner ∈ σ.told ∨ (id, p.owner) ∈ (σ.queue kind).inFlight

section Matching

variable {σ σ' : Wire} {kind : RequestKind} {id : PacketId} {p : Packet} {polled : Polled}
  {errands more : List Errand} {e : Errand}

theorem owners_append : Errand.owners kind (errands ++ more) =
    Errand.owners kind errands ++ Errand.owners kind more := by
  simp only [Errand.owners, List.filter_append, List.map_append]

theorem owners_cons : Errand.owners kind (e :: errands) =
    if e.kind = kind then e.owner :: Errand.owners kind errands else Errand.owners kind errands := by
  by_cases h : e.kind = kind <;> simp [Errand.owners, h]

theorem latest?_cons (hsent : σ'.sent = p :: σ.sent) : σ'.latest? kind id =
    if p.kind = kind ∧ p.id = id then some p else σ.latest? kind id := by
  have hmatch : (p.kind == kind && p.id == id) = decide (p.kind = kind ∧ p.id = id) := by
    rw [Bool.decide_and]
    rfl
  rw [latest?, hsent, List.find?_cons, hmatch]
  split <;> simp_all [latest?]

/-- Waiters under way are settled, and all unsent requests stay or all are dropped. -/
theorem Matched.released {out : Settled} (h : σ.Matched)
    (hacks : σ.session.loop.acks.Releases σ'.session.loop.acks out)
    (hended : σ'.session.loop.ended = σ.session.loop.ended)
    (hnext : σ'.session.next = σ.session.next) (hsent : σ'.sent = σ.sent)
    (htold : σ'.told = out.map (·.1) ++ σ.told)
    (hunsent : (σ'.session.unsent.filterMap Request.kind? = σ.session.unsent.filterMap Request.kind? ∧
        σ'.unsent = σ.unsent ∧ σ'.dropped = σ.dropped) ∨
      (σ'.session.unsent = [] ∧ σ'.unsent = [] ∧ σ'.dropped = σ.unsent ++ σ.dropped)) :
    σ'.Matched where
  closed := by rw [hacks.closed, hended, h.closed]
  kinds := by
    obtain ⟨hs, hu, -⟩ | ⟨hs, hu, -⟩ := hunsent
    · rw [hs, hu, h.kinds]
    · rw [hs, hu]
      rfl
  queued := by
    intro hrun kind
    obtain ⟨stale, hlength, hqueued⟩ := h.queued (hended ▸ hrun) kind
    rw [hacks.queued, hqueued]
    obtain ⟨-, hu, hd⟩ | ⟨-, hu, hd⟩ := hunsent
    · exact ⟨stale, by rw [hd, hlength], by rw [hu]⟩
    · refine ⟨stale ++ Errand.owners kind σ.unsent, ?_, by simp [hu, Errand.owners]⟩
      rw [hd, owners_append, List.length_append, List.length_append, hlength, Nat.add_comm]
  ascending := fun kind => hacks.queued kind ▸ h.ascending kind
  numbered := fun kind => hacks.queued kind ▸ hnext ▸ h.numbered kind
  ids := fun kind => (h.ids kind).sublist ((hacks.inFlight kind).map _)
  ended := fun hover kind => List.sublist_nil.mp (h.ended (hended ▸ hover) kind ▸ hacks.inFlight kind)
  bound := by
    intro kind e he
    rw [latest?, hsent]
    exact h.bound kind e ((hacks.inFlight kind).mem he)
  settled := by
    intro kind id p hp hshift
    rw [latest?, hsent] at hp
    rw [htold]
    obtain htold | hbound := h.settled kind id p hp hshift
    · exact .inl (List.mem_append_right _ htold)
    · obtain hstays | hsettled := hacks.settled kind _ hbound
      · exact .inr hstays
      · exact .inl (List.mem_append_left _ hsettled)

section Binding

variable {q : AckQueue} {first : Waiter} {rest : List Waiter} {x : PacketId × Waiter}

/-- The waiters of a kind after the first one was bound to an id. -/
theorem assign_of_cons (hq : q.queued = first :: rest) :
    (q.assign id).1 = ⟨rest, (id, first) :: q.others id⟩ := by
  rw [AckQueue.assign, hq]

theorem mem_others : x ∈ q.others id ↔ x ∈ q.inFlight ∧ x.1 ≠ id := by
  rw [AckQueue.others, List.mem_filter, bne_iff_ne]

theorem nodup_assigned (h : (q.inFlight.map (·.1)).Nodup) :
    (((id, first) :: q.others id).map (·.1)).Nodup := by
  rw [List.map_cons, List.nodup_cons]
  refine ⟨fun hid => ?_, h.sublist (List.filter_sublist.map _)⟩
  obtain ⟨x, hx, heq⟩ := List.mem_map.mp hid
  exact (mem_others.mp hx).2 heq

end Binding

/-- The first waiter of a kind is the owner of the first unsent request unless stale ones are in front. -/
theorem Matched.first_waiter {rest : List Errand} (h : σ.Matched)
    (hrun : σ.session.loop.ended = false) (hunsent : σ.unsent = e :: rest) :
    ∃ first, ∃ stale : List Waiter, (σ.queue e.kind).queued = first :: (stale ++ Errand.owners e.kind rest) ∧
      stale.length = (Errand.owners e.kind σ.dropped).length ∧
      first ≤ e.owner ∧ (first = e.owner ↔ (Errand.owners e.kind σ.dropped).length = 0) := by
  obtain ⟨stale, hlength, hqueued⟩ := h.queued hrun e.kind
  rw [hunsent, owners_cons, if_pos rfl] at hqueued
  rw [← hlength]
  have hascending := h.ascending e.kind
  cases stale with
  | nil => exact ⟨e.owner, [], hqueued, rfl, Nat.le_refl _, by simp⟩
  | cons first stale =>
    rw [hqueued] at hascending
    have hlt : first < e.owner := (List.pairwise_cons.mp hascending).1 _ (by simp)
    exact ⟨first, stale ++ [e.owner], by rw [hqueued]; simp, by simp, Nat.le_of_lt hlt,
      by simp [Nat.ne_of_lt hlt]⟩

/-- The first unsent request is sent. -/
theorem Matched.bound_next {rest : List Errand} (h : σ.Matched)
    (hrun : σ.session.loop.ended = false) (hunsent : σ.unsent = e :: rest)
    (hacks : σ'.session.loop.acks = (σ.session.loop.acks.assign e.kind id).1)
    (hended : σ'.session.loop.ended = false)
    (hkinds : σ'.session.unsent.filterMap Request.kind? = rest.map (·.kind))
    (hnext : σ'.session.next = σ.session.next) (hrest : σ'.unsent = rest)
    (hdropped : σ'.dropped = σ.dropped)
    (hsent : σ'.sent = ⟨e.kind, id, e.owner, (Errand.owners e.kind σ.dropped).length⟩ :: σ.sent)
    (htold : ∀ w ∈ σ.told, w ∈ σ'.told) : σ'.Matched := by
  obtain ⟨first, stale, hfirst, hlength, hle, hstale⟩ := h.first_waiter hrun hunsent
  have hqueue : ∀ kind, σ'.queue kind =
      if kind = e.kind then
        ⟨stale ++ Errand.owners e.kind rest, (id, first) :: (σ.queue e.kind).others id⟩
      else σ.queue kind := by
    intro kind
    rw [queue, hacks, AckTracker.assign, AckTracker.onQueue, AckTracker.queue_setQueue,
      assign_of_cons hfirst]
  have hlatest : ∀ kind id', σ'.latest? kind id' = if e.kind = kind ∧ id = id' then
      some ⟨e.kind, id, e.owner, (Errand.owners e.kind σ.dropped).length⟩ else σ.latest? kind id' :=
    fun _ _ => latest?_cons hsent
  have hclosed : σ'.session.loop.acks.closed = σ.session.loop.acks.closed := by
    rw [hacks]
    exact AckTracker.closed_setQueue
  exact {
    closed := by rw [hclosed, h.closed, hrun, hended]
    kinds := by rw [hkinds, hrest]
    queued := by
      intro _ kind
      rw [hqueue, hdropped, hrest]
      split
      · subst kind
        exact ⟨stale, hlength, rfl⟩
      · rename_i hkind
        obtain ⟨stale', hlength', heq⟩ := h.queued hrun kind
        rw [hunsent, owners_cons, if_neg (Ne.symm hkind)] at heq
        exact ⟨stale', hlength', heq⟩
    ascending := by
      intro kind
      rw [hqueue]
      split
      · have hascending := h.ascending e.kind
        rw [hfirst] at hascending
        exact (List.pairwise_cons.mp hascending).2
      · exact h.ascending kind
    numbered := by
      intro kind w hw
      rw [hqueue] at hw
      rw [hnext]
      split at hw
      · exact h.numbered e.kind w (hfirst ▸ List.mem_cons_of_mem _ hw)
      · exact h.numbered kind w hw
    ids := by
      intro kind
      rw [hqueue]
      split
      · exact nodup_assigned (h.ids e.kind)
      · exact h.ids kind
    ended := by
      intro hover
      rw [hended] at hover
      cases hover
    bound := by
      intro kind x hx
      rw [hqueue] at hx
      rw [hlatest]
      split at hx
      · subst kind
        obtain rfl | hx := List.mem_cons.mp hx
        · exact ⟨_, if_pos ⟨rfl, rfl⟩, hle, hstale⟩
        · obtain ⟨hx, hne⟩ := mem_others.mp hx
          rw [if_neg fun hboth => hne hboth.2.symm]
          exact h.bound e.kind x hx
      · rename_i hkind
        rw [if_neg fun hboth => hkind hboth.1.symm]
        exact h.bound kind x hx
    settled := by
      intro kind id' p hp hshift
      rw [hlatest] at hp
      rw [hqueue]
      split at hp
      · rename_i hboth
        obtain ⟨rfl, rfl⟩ := hboth
        obtain rfl := Option.some.inj hp
        rw [if_pos rfl, hstale.mpr hshift]
        exact .inr List.mem_cons_self
      · rename_i hneither
        obtain hbefore | hbound := h.settled kind id' p hp hshift
        · exact .inl (htold _ hbefore)
        · refine .inr ?_
          split
          · subst kind
            exact List.mem_cons_of_mem _ (mem_others.mpr ⟨hbound, fun heq => hneither ⟨rfl, heq.symm⟩⟩)
          · exact hbound }

/-- The end of the session was sent, so all who wait are told. -/
theorem Matched.ending (h : σ.Matched)
    (hacks : σ'.session.loop.acks = { closed := true }) (hended : σ'.session.loop.ended = true)
    (hkinds : σ'.session.unsent.filterMap Request.kind? = σ'.unsent.map (·.kind))
    (hsent : σ'.sent = σ.sent) (htold : ∀ w ∈ σ.told, w ∈ σ'.told)
    (hwaiters : ∀ kind, ∀ w ∈ (σ.queue kind).waiters, w ∈ σ'.told) : σ'.Matched := by
  have hqueue : ∀ kind, σ'.queue kind = {} := by
    intro kind
    rw [queue, hacks]
    cases kind <;> rfl
  exact {
    closed := by rw [hacks, hended]
    kinds := hkinds
    queued := by
      intro hrun
      rw [hended] at hrun
      cases hrun
    ascending := fun kind => by simp [hqueue]
    numbered := fun kind => by simp [hqueue]
    ids := fun kind => by simp [hqueue]
    ended := fun _ kind => by simp [hqueue]
    bound := fun kind => by simp [hqueue]
    settled := by
      intro kind id p hp hshift
      rw [latest?, hsent] at hp
      obtain hbefore | hbound := h.settled kind id p hp hshift
      · exact .inl (htold _ hbefore)
      · exact .inl (hwaiters kind _ (List.mem_append_left _ (List.mem_map_of_mem hbound))) }

/-- A waiter is queued with the request it makes. -/
theorem Matched.asked (h : σ.Matched)
    (hacks : σ'.session.loop.acks = σ.session.loop.acks.enqueue kind σ.session.next)
    (hended : σ'.session.loop.ended = σ.session.loop.ended)
    (hkinds : σ'.session.unsent.filterMap Request.kind? =
      σ.session.unsent.filterMap Request.kind? ++ [kind])
    (hnext : σ'.session.next = σ.session.next + 1)
    (hunsent : σ'.unsent = σ.unsent ++ [⟨kind, σ.session.next⟩])
    (hdropped : σ'.dropped = σ.dropped) (hsent : σ'.sent = σ.sent) (htold : σ'.told = σ.told) :
    σ'.Matched := by
  have hqueue : ∀ other, σ'.queue other =
      if other = kind then (σ.queue kind).enqueue σ.session.next else σ.queue other := by
    intro other
    rw [queue, hacks]
    exact AckTracker.queue_setQueue
  have hinFlight : ∀ other, (σ'.queue other).inFlight = (σ.queue other).inFlight := by
    intro other
    rw [hqueue]
    split
    · subst other
      rfl
    · rfl
  have hlatest : σ'.latest? = σ.latest? := by
    funext kind id
    rw [latest?, hsent]
    rfl
  exact {
    closed := by
      rw [hacks, hended, ← h.closed]
      exact AckTracker.closed_setQueue
    kinds := by rw [hkinds, hunsent, h.kinds, List.map_append, List.map_singleton]
    queued := by
      intro hrun other
      obtain ⟨stale, hlength, hqueued⟩ := h.queued (hended ▸ hrun) other
      refine ⟨stale, hdropped ▸ hlength, ?_⟩
      rw [hqueue, hunsent, owners_append, owners_cons]
      split
      · subst other
        rw [if_pos rfl, AckQueue.enqueue, hqueued, List.append_assoc]
        rfl
      · rename_i hkind
        rw [if_neg (Ne.symm hkind), hqueued]
        exact congrArg (stale ++ ·) (List.append_nil _).symm
    ascending := by
      intro other
      rw [hqueue]
      split
      · rw [AckQueue.enqueue, List.pairwise_append]
        exact ⟨h.ascending kind, List.pairwise_singleton _ _,
          fun w hw x hx => List.mem_singleton.mp hx ▸ h.numbered kind w hw⟩
      · exact h.ascending other
    numbered := by
      intro other w hw
      rw [hqueue] at hw
      rw [hnext]
      split at hw
      · obtain hw | hw := List.mem_append.mp hw
        · exact Nat.lt_succ_of_lt (h.numbered kind w hw)
        · exact List.mem_singleton.mp hw ▸ Nat.lt_succ_self _
      · exact Nat.lt_succ_of_lt (h.numbered other w hw)
    ids := fun other => hinFlight other ▸ h.ids other
    ended := fun hover other => hinFlight other ▸ h.ended (hended ▸ hover) other
    bound := by
      intro other x hx
      rw [hinFlight] at hx
      rw [hlatest]
      exact h.bound other x hx
    settled := by
      intro other id p hp hshift
      rw [hlatest] at hp
      rw [hinFlight, htold]
      exact h.settled other id p hp hshift }

theorem Matched.requested {topic : String} (h : σ.Matched) : (σ.requesting kind topic).Matched := by
  unfold requesting Session.request
  by_cases hclosed : σ.session.loop.acks.closed = true
  · simp only [if_pos hclosed]
    exact h
  simp only [if_neg hclosed]
  split
  · rename_i w session hrequest
    split at hrequest
    · cases hrequest
    · obtain ⟨rfl, rfl⟩ := Prod.mk.inj (Except.ok.inj hrequest)
      exact h.asked rfl rfl List.filterMap_append rfl rfl rfl rfl rfl
  · exact h

theorem Matched.leaving (h : σ.Matched) :
    Matched { σ with session := σ.session.disconnect.2 } := by
  have hsame : σ.session.disconnect.2.loop = σ.session.loop ∧
      σ.session.disconnect.2.next = σ.session.next ∧
      σ.session.disconnect.2.unsent.filterMap Request.kind? =
        σ.session.unsent.filterMap Request.kind? := by
    unfold Session.disconnect
    split
    · exact ⟨rfl, rfl, rfl⟩
    split
    · exact ⟨rfl, rfl, List.filterMap_append.trans (List.append_nil _)⟩
    · exact ⟨rfl, rfl, rfl⟩
  obtain ⟨hloop, hnext, hkinds⟩ := hsame
  have hacks : σ.session.loop.acks.Releases σ.session.disconnect.2.loop.acks [] := by
    rw [hloop]
    exact AckTracker.releases_self
  exact h.released hacks (congrArg _ hloop) hnext rfl rfl (.inl ⟨hkinds, rfl, rfl⟩)

theorem Matched.received (h : σ.Matched) (hrun : σ.session.loop.ended = false)
    (hpolled : polled.isIncoming) : (σ.receiving polled).Matched := by
  obtain ⟨hacks, houtcomes, hended⟩ := EventLoop.step_acks σ.session.maxReconnectDelay polled hrun
  have hreleases := Polled.releases_act σ.session.loop.acks σ.session.loop.errors hpolled
  have hstays : decide (polled = .sentDisconnect) = σ.session.loop.ended := by
    rw [hrun]
    exact decide_eq_false fun heq => by cases heq; cases hpolled
  rw [← hacks, ← houtcomes] at hreleases
  unfold receiving Session.receive
  by_cases hanew : polled = .connAck .success false
  · simp only [if_pos hanew]
    exact h.released hreleases (hended.trans hstays) rfl rfl rfl (.inr ⟨rfl, rfl, rfl⟩)
  · simp only [if_neg hanew]
    exact h.released hreleases (hended.trans hstays) rfl rfl rfl (.inl ⟨rfl, rfl, rfl⟩)

theorem Matched.transmitted (h : σ.Matched) (hrun : σ.session.loop.ended = false) :
    (σ.transmitting id).Matched := by
  have htold : ∀ {out : Settled}, ∀ w ∈ σ.told, w ∈ out.map (·.1) ++ σ.told :=
    fun w hw => List.mem_append_right _ hw
  have hkinds := h.kinds
  unfold transmitting Session.transmit
  cases hsession : σ.session.unsent with
  | nil => exact h.released AckTracker.releases_self rfl rfl rfl rfl (.inl ⟨rfl, rfl, rfl⟩)
  | cons request more =>
    rw [hsession] at hkinds
    cases request with
    | disconnect =>
      obtain ⟨hacks, houtcomes, hended⟩ :=
        EventLoop.step_acks σ.session.maxReconnectDelay .sentDisconnect hrun
      refine h.ending hacks hended hkinds rfl htold fun kind w hw => List.mem_append_left _ ?_
      have hclose := AckTracker.mem_close hw
      rw [← show _ = (AckTracker.close _).2 from houtcomes] at hclose
      exact hclose
    | acknowledged kind topic =>
      obtain ⟨hacks, houtcomes, hended⟩ :=
        EventLoop.step_acks σ.session.maxReconnectDelay (.sent kind id) hrun
      cases hunsent : σ.unsent with
      | nil =>
        rw [hunsent] at hkinds
        cases hkinds
      | cons e rest =>
        rw [hunsent] at hkinds
        obtain ⟨rfl, hrest⟩ := List.cons.inj hkinds
        exact h.bound_next hrun hunsent hacks hended hrest rfl rfl rfl rfl htold

theorem Matched.next (h : σ.Matched) (o : Occurrence) : (σ.next o).Matched := by
  cases o with
  | request kind topic => exact h.requested
  | disconnect => exact h.leaving
  | transmit id =>
    dsimp only [Wire.next]
    split
    · exact h
    · rename_i hrun
      exact h.transmitted (Bool.eq_false_iff.mpr hrun)
  | receive polled =>
    dsimp only [Wire.next]
    split
    · exact h
    · rename_i hrun
      obtain ⟨hrun, hpolled⟩ := Bool.or_eq_false_iff.mp (Bool.eq_false_iff.mpr hrun)
      exact h.received hrun (Bool.not_eq_false' .. ▸ hpolled)

theorem Matched.run {occurrences : List Occurrence} (h : σ.Matched) :
    (occurrences.foldl Wire.next σ).Matched := by
  induction occurrences generalizing σ with
  | nil => exact h
  | cons o rest ih => exact ih (h.next o)

/-- Nobody waits and nothing is unsent on a session that was just opened. -/
theorem Matched.opened {session : Session} (hloop : session.loop = {})
    (hunsent : session.unsent = []) : Matched { session } := by
  have hqueue : ∀ kind, queue { session } kind = {} := by
    intro kind
    rw [queue, hloop]
    cases kind <;> rfl
  exact {
    closed := by rw [hloop]
    kinds := by rw [hunsent]; rfl
    queued := fun _ kind => ⟨[], rfl, by rw [hqueue]; rfl⟩
    ascending := fun kind => by simp [hqueue]
    numbered := fun kind => by simp [hqueue]
    ids := fun kind => by simp [hqueue]
    ended := fun _ kind => by simp [hqueue]
    bound := fun kind => by simp [hqueue]
    settled := fun _ _ _ hp => by cases hp }

theorem Reachable.matched (h : σ.Reachable) : σ.Matched := by
  obtain ⟨settings, unique, feed, polled, session, rest, occurrences, hconnect, rfl⟩ := h
  unfold Session.connect at hconnect
  split at hconnect
  · cases hconnect
  · cases hconnect
  split at hconnect
  · cases hconnect
  · obtain ⟨rfl, -⟩ := Prod.mk.inj (Except.ok.inj hconnect)
    exact (Matched.opened rfl rfl).run

end Matching

/-! ### What an acknowledgment settles -/

section Settling

variable {σ : Wire} {kind : RequestKind} {id : PacketId} {p : Packet} {granted : List (Option Qos)}

theorem holders_of_mem {q : AckQueue} {w : Waiter} (hids : (q.inFlight.map (·.1)).Nodup)
    (h : (id, w) ∈ q.inFlight) : q.holders id = [w] := by
  obtain ⟨before, after, heq⟩ := List.append_of_mem h
  rw [heq, List.map_append, List.map_cons, List.nodup_append, List.nodup_cons] at hids
  obtain ⟨-, ⟨hafter, -⟩, hbefore⟩ := hids
  have hnone : ∀ {es : List (PacketId × Waiter)}, id ∉ es.map (·.1) → es.filter (·.1 == id) = [] := by
    intro es hes
    refine List.filter_eq_nil_iff.mpr fun e he hid => hes ?_
    exact List.mem_map.mpr ⟨e, he, by simpa using hid⟩
  rw [AckQueue.holders, heq, List.filter_append, List.filter_cons_of_pos (by simp), hnone hafter,
    hnone fun hid => hbefore id hid id List.mem_cons_self rfl]
  rfl

/-- An acknowledgment settles the waiters who hold its id. -/
theorem receive_acknowledgment (h : σ.session.loop.ended = false) :
    (σ.session.receive (.acknowledgment kind id granted)).2 =
      ((σ.queue kind).holders id).map fun w => .settle w (.verdict kind granted) := by
  unfold Session.receive EventLoop.step
  rw [h, if_neg Bool.false_ne_true]
  cases kind with
  | subscribe | unsubscribe => exact List.map_map

/-- An acknowledgment settles the waiter of the last packet that had its id if and only if no request
of that kind had been dropped unsent when the packet was sent. Otherwise it can only settle the waiter
of an earlier request, and the owner of the packet goes on waiting. -/
theorem settles_owner_iff (h : σ.Reachable) (hp : σ.latest? kind id = some p) :
    let effects := (σ.session.receive (.acknowledgment kind id granted)).2
    (p.owner ∉ σ.told → (effects = [.settle p.owner (.verdict kind granted)] ↔ p.shift = 0)) ∧
    ∀ w outcome, .settle w outcome ∈ effects →
      outcome = .verdict kind granted ∧ w ≤ p.owner ∧ (w = p.owner ↔ p.shift = 0) := by
  have hmatched := h.matched
  have hsettles : ∀ w outcome,
      .settle w outcome ∈ (σ.session.receive (.acknowledgment kind id granted)).2 →
      outcome = .verdict kind granted ∧ w ≤ p.owner ∧ (w = p.owner ↔ p.shift = 0) := by
    intro w outcome hsettle
    cases hended : σ.session.loop.ended with
    | true =>
      unfold Session.receive EventLoop.step at hsettle
      rw [hended, if_pos rfl] at hsettle
      cases hsettle
    | false =>
      rw [receive_acknowledgment hended] at hsettle
      obtain ⟨w', hholds, heq⟩ := List.mem_map.mp hsettle
      cases heq
      obtain ⟨e, hfound, rfl⟩ := List.mem_map.mp hholds
      obtain ⟨he, hid⟩ := List.mem_filter.mp hfound
      obtain rfl : e.1 = id := by simpa using hid
      obtain ⟨p', hp', hle, hshift⟩ := hmatched.bound kind e he
      obtain rfl := Option.some.inj (hp.symm.trans hp')
      exact ⟨rfl, hle, hshift⟩
  refine ⟨fun hwaits => ⟨fun heq => ?_, fun hshift => ?_⟩, hsettles⟩
  · have hsettle := heq ▸ List.mem_singleton_self (Effect.settle p.owner (.verdict kind granted))
    exact (hsettles _ _ hsettle).2.2.mp rfl
  · obtain htold | hbound := hmatched.settled kind id p hp hshift
    · exact absurd htold hwaits
    · cases hended : σ.session.loop.ended with
      | true =>
        rw [hmatched.ended hended] at hbound
        cases hbound
      | false =>
        rw [receive_acknowledgment hended, holders_of_mem (hmatched.ids kind) hbound]
        rfl

/-! #### On a session with the default settings -/

/-- What comes about after such a session was opened. -/
def afterwards (occurrences : List Occurrence) : Wire :=
  let session : Session :=
    { url := "tcp://127.0.0.1:1883", capacity := 10, operationTimeout := 10000, maxReconnectDelay := 30000 }
  occurrences.foldl next { session }

/-- A session is opened where the broker accepts the connection at once. -/
theorem connect_accepted {settings : BrokerSettings} {unique : String} {feed : Feed} {present : Bool}
    {rest : List Polled} (h : (Options.ofFeed settings unique feed).isOk) :
    Session.connect settings unique feed (.connAck .success present :: rest) =
      .ok ({ url := feed.url, capacity := settings.requestCapacity,
             operationTimeout := settings.operationTimeout,
             maxReconnectDelay := settings.maxReconnectDelay }, rest) := by
  unfold Session.connect
  cases hoptions : Options.ofFeed settings unique feed with
  | error e =>
    rw [hoptions] at h
    cases h
  | ok options => rfl

theorem reachable_afterwards (occurrences : List Occurrence) : (afterwards occurrences).Reachable :=
  ⟨{}, "1", { url := "tcp://127.0.0.1:1883", topic := "t" }, [.connAck .success false], _, [],
    occurrences, connect_accepted (by decide +kernel), rfl⟩

/-- A loss between two requests whose packets have the same id. -/
def lossBetween : Wire := afterwards
  [.request .subscribe "a", .transmit 1, .receive (.failed "Connection closed by peer"),
    .receive (.connAck .success false), .request .subscribe "b", .transmit 1]

theorem settles_owner_lossBetween : 1 ∉ lossBetween.told ∧
    (lossBetween.session.receive (.acknowledgment .subscribe 1 [some .atMostOnce])).2 =
      [.settle 1 .accepted] :=
  have hwaits : 1 ∉ lossBetween.told := by decide
  have hiff := (settles_owner_iff (reachable_afterwards _) (p := ⟨.subscribe, 1, 1, 0⟩) (by decide)).1
  ⟨hwaits, (hiff hwaits).mpr rfl⟩

/-- A loss before the first request was sent. -/
def lossBefore : Wire := afterwards
  [.request .subscribe "a", .receive (.failed "Connection closed by peer"),
    .receive (.connAck .success false), .request .subscribe "b", .transmit 1]

/-- The only packet carries the second request, and its acknowledgment settles the first one, which was
dropped. The waiter of the second request is left in the queue. -/
theorem settles_dropped_request : lossBefore.Reachable ∧
    lossBefore.latest? .subscribe 1 = some ⟨.subscribe, 1, 1, 1⟩ ∧ 1 ∉ lossBefore.told ∧
    (lossBefore.session.receive (.acknowledgment .subscribe 1 [some .atMostOnce])).2 =
      [.settle 0 .accepted] ∧
    ((lossBefore.receiving (.acknowledgment .subscribe 1 [some .atMostOnce])).queue .subscribe).queued =
      [1] :=
  ⟨reachable_afterwards _, by decide, by decide, by decide, by decide⟩

end Settling

end Wire

end SensorBridge.Mqtt
