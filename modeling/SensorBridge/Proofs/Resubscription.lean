import SensorBridge.Proofs.Discipline

/-!
What the discipline of locks means for the brokers: round trips on a session do not overlap, and a
topic that was unsubscribed is not subscribed again unless it is registered again.
-/
namespace SensorBridge

open Routine

/-- A call of the worker is under way. -/
def Worker.Awaits (w : Worker) (c : Call) : Prop :=
  w.sent ≠ none ∧ ∃ k, w.rest = .ask (.call c) k

section Resubscription

variable {settings : ConnectorSettings} {read : PayloadReaders} {σ : Interplay} {i j : Nat}
  {v w : Worker} {c : Call} {session : SessionId} {topic : String} {qos : Qos}
  {topics todo : List String} {γ : Grip}

/-- The only call of a resubscription is a SUBSCRIBE, with the QoS that it found. -/
theorem Stage.of_awaits (h : Stage σ i w session todo) (hc : w.Awaits c) :
    ∃ topic qos, c = .subscribe session topic qos ∧ σ.holder (.calls session) = some i ∧
      Found σ w session topic qos := by
  obtain ⟨hsent, k, hrest⟩ := hc
  cases h with
  | finished h' | renewing h' | looking h' | yielding h' => cases hrest.symm.trans h'
  | subscribing h' hnone => exact absurd hnone hsent
  | @awaiting topic qos _ _ h' _ hheld hfound =>
    obtain rfl := Request.call.inj (Routine.ask.inj (hrest.symm.trans h')).1
    exact ⟨topic, qos, rfl, hheld, hfound⟩

/-- One whose call is under way keeps to the rules or is a resubscription. -/
theorem Consistent.of_awaits (h : Consistent read σ) (hw : σ.workers[i]? = some w) (hc : w.Awaits c) :
    (∃ (γ : Grip) (next : (Request.call c).Answer → Grip → Prop),
      γ.Held σ i w ∧ γ.Admits w.role.registers (.call c) next) ∨
      ∃ session topic qos, c = .subscribe session topic qos ∧
        σ.holder (.calls session) = some i ∧ Found σ w session topic qos := by
  obtain ⟨k, hrest⟩ := hc.2
  cases h.workers i w hw with
  | following hrole hsafe hheld =>
    rw [hrest] at hsafe
    exact .inl ⟨_, _, hheld, hsafe⟩
  | listening hrole h' | alerted hrole h' | heralding hrole h' => cases hrest.symm.trans h'
  | resubscribing hrole hnodup hsub hstage => exact .inr ⟨_, hstage.of_awaits hc⟩

theorem Consistent.holder_of_awaits (h : Consistent read σ) (hw : σ.workers[i]? = some w)
    (hc : w.Awaits c) (hguard : c.guarded? = some session) :
    σ.holder (.calls session) = some i := by
  obtain ⟨γ, next, hheld, hadmits⟩ | ⟨s, t, q, rfl, hholder, -⟩ := h.of_awaits hw hc
  · cases c with
    | subscribe s t q =>
      obtain rfl := Option.some.inj hguard
      obtain ⟨g, rfl, -⟩ := hadmits
      exact hheld.2.2.1
    | unsubscribe s t =>
      obtain rfl := Option.some.inj hguard
      obtain ⟨g, rfl, -⟩ := hadmits
      exact hheld.2.2.1
    | _ => cases hguard
  · obtain rfl := Option.some.inj hguard
    exact hholder

theorem Consistent.not_lists_of_awaits (h : Consistent read σ) (hw : σ.workers[i]? = some w)
    (hc : w.Awaits (.unsubscribe session topic)) : ¬ σ.memory.ledger.Lists session topic qos := by
  obtain ⟨γ, next, hheld, hadmits⟩ | ⟨s, t, q, hne, -⟩ := h.of_awaits hw hc
  · obtain ⟨g, rfl, hnot, -⟩ := hadmits
    rw [hheld.2.1]
    exact hnot qos
  · cases hne

/-- Of the topics that a resubscription was given it subscribes each one once at most. -/
theorem Consistent.asked_sublist (h : Consistent read σ) (hw : σ.workers[i]? = some w)
    (hrole : w.role = .job (.resubscribe session topics)) :
    topics.Nodup ∧ (σ.asked i).Sublist topics := by
  cases h.workers i w hw with
  | following hfollows =>
    rw [hrole] at hfollows
    exact hfollows.elim
  | listening hrole' | alerted hrole' | heralding hrole' =>
    rw [hrole] at hrole'
    cases hrole'
  | resubscribing hrole' hnodup hsub =>
    rw [hrole] at hrole'
    obtain ⟨rfl, rfl⟩ := Job.resubscribe.inj (Role.job.inj hrole')
    exact ⟨hnodup, .trans (List.sublist_append_left ..) hsub⟩

theorem Consistent.found_of_awaits (h : Consistent read σ) (hw : σ.workers[i]? = some w)
    (hrole : w.role = .job (.resubscribe session topics)) (hc : w.Awaits c) :
    ∃ topic qos, c = .subscribe session topic qos ∧ Found σ w session topic qos := by
  cases h.workers i w hw with
  | following hfollows =>
    rw [hrole] at hfollows
    exact hfollows.elim
  | listening hrole' | alerted hrole' | heralding hrole' =>
    rw [hrole] at hrole'
    cases hrole'
  | resubscribing hrole' hnodup hsub hstage =>
    rw [hrole] at hrole'
    obtain ⟨rfl, rfl⟩ := Job.resubscribe.inj (Role.job.inj hrole')
    obtain ⟨topic, qos, hsubscribe, -, hfound⟩ := hstage.of_awaits hc
    exact ⟨topic, qos, hsubscribe, hfound⟩

/-- Whatever turns are taken and however the calls end, no two round trips on a session overlap.
Between an UNSUBSCRIBE for a topic and a later SUBSCRIBE for it there is one of a registration, which
may be the later one itself. A topic is not in the table while it is being unsubscribed. A
resubscription subscribes each topic of its snapshot once at most, with the QoS that the table had
when it looked, and the table has no other one meanwhile. -/
theorem never_resurrected (h : Interplay.Reachable settings read σ) :
    (∀ (i j : Nat) (v w : Worker) (c c' : Call) (session : SessionId),
      σ.workers[i]? = some v → σ.workers[j]? = some w → v.Awaits c → w.Awaits c' →
      c.guarded? = some session → c'.guarded? = some session → i = j) ∧
    (∀ (newer between older : List Note) (earlier later : Note) (session : SessionId) (topic : String),
      σ.history = newer ++ later :: (between ++ earlier :: older) →
      earlier.leaves session topic → later.asks session topic →
      ∃ x ∈ later :: between, x.enters session topic) ∧
    (∀ (i : Nat) (w : Worker) (session : SessionId) (topic : String) (qos : Qos),
      σ.workers[i]? = some w → w.Awaits (.unsubscribe session topic) →
      ¬ σ.memory.ledger.Lists session topic qos) ∧
    ∀ (i : Nat) (w : Worker) (session : SessionId) (topics : List String),
      σ.workers[i]? = some w → w.role = .job (.resubscribe session topics) →
      topics.Nodup ∧ (σ.asked i).Sublist topics ∧
      ∀ c, w.Awaits c → ∃ topic qos, c = .subscribe session topic qos ∧
        w.found.Lists session topic qos ∧
        ∀ qos', σ.memory.ledger.Lists session topic qos' → qos' = qos := by
  have hc := h.consistent
  refine ⟨?_, ?_, ?_, ?_⟩
  · intro i j v w c c' session hv hw hcv hcw hg hg'
    have hi := hc.holder_of_awaits hv hcv hg
    have hj := hc.holder_of_awaits hw hcw hg'
    exact Option.some.inj (hi.symm.trans hj)
  · intro newer between older earlier later session topic hhistory hleaves hasks
    have horderly := hc.orderly
    rw [hhistory] at horderly
    obtain henters | hkept := horderly.of_append hasks
    · exact ⟨later, List.mem_cons_self, henters⟩
    · obtain ⟨x, hx, henters⟩ := exists_enters hleaves hkept
      exact ⟨x, List.mem_cons_of_mem _ hx, henters⟩
  · intro i w session topic qos hw hawaits
    exact hc.not_lists_of_awaits hw hawaits
  · intro i w session topics hw hrole
    obtain ⟨hnodup, hsub⟩ := hc.asked_sublist hw hrole
    refine ⟨hnodup, hsub, fun c hawaits => ?_⟩
    obtain ⟨topic, qos, rfl, hfound⟩ := hc.found_of_awaits hw hrole hawaits
    exact ⟨topic, qos, rfl, hfound.read, hfound.current⟩

end Resubscription

/-- Two topics of a session are registered and, on a new connection, resubscribed; but the second one is
unregistered after the snapshot was taken. Then it is registered again. -/
def reentering : List Interplay.Move := List.flatten [
  [.start (.register { url := "mqtt://a", topic := "a" })], List.replicate 11 (.proceed 0),
  [.start (.register { url := "mqtt://a", topic := "t" })], List.replicate 8 (.proceed 2),
  [.reconnect 0], List.replicate 3 (.proceed 1), List.replicate 3 (.proceed 3),
  [.start (.unregister { url := "mqtt://a", topic := "t" })], List.replicate 3 (.proceed 4),
  List.replicate 2 (.proceed 3), List.replicate 6 (.proceed 4), List.replicate 3 (.proceed 3),
  [.start (.register { url := "mqtt://a", topic := "t" })], List.replicate 4 (.proceed 5)]

theorem never_resurrected_reentering : ∃ σ, Interplay.Reachable {} (fun _ _ => .ok []) σ ∧
    σ.asked 3 = ["a"] ∧ (σ.asked 3).Sublist ["a", "t"] ∧
    ∃ x ∈ σ.history, x.enters 0 "t" ∧ dropped 0 "t" σ.history = false := by
  have hplay : ∃ σ ∈ ({ memory := { cache := { capacity := 1 } } } : Interplay).play? {}
      (fun _ _ => .ok []) Interplay.granting reentering, σ.asked 3 = ["a"] ∧
      dropped 0 "t" σ.history = false ∧
      (∃ w ∈ σ.workers[3]?, w.role = .job (.resubscribe 0 ["a", "t"])) ∧
      (∃ x ∈ σ.history.head?, x.asks 0 "t") ∧ ∃ x ∈ σ.history.tail, x.leaves 0 "t" := by
    decide +kernel
  obtain ⟨σ, hσ, hasked, hkept, ⟨w, hw, hrole⟩, ⟨later, hlater, hasks⟩, ⟨earlier, hearlier, hleaves⟩⟩ :=
    hplay
  have hreachable : Interplay.Reachable {} (fun _ _ => .ok []) σ := ⟨_, Interplay.steps_of_play hσ⟩
  obtain ⟨-, hentered, -, hsnapshot⟩ := never_resurrected hreachable
  obtain ⟨-, hsub, -⟩ := hsnapshot 3 w 0 ["a", "t"] hw hrole
  obtain ⟨between, older, htail⟩ := List.append_of_mem hearlier
  have hhistory : σ.history = [] ++ later :: (between ++ earlier :: older) := by
    rw [← htail]
    exact (List.cons_head?_tail hlater).symm
  obtain ⟨x, hx, henters⟩ := hentered [] between older earlier later 0 "t" hhistory hleaves hasks
  refine ⟨σ, hreachable, hasked, hsub, x, ?_, henters, hkept⟩
  rw [hhistory, List.nil_append, ← List.cons_append]
  exact List.mem_append_left _ hx

end SensorBridge
