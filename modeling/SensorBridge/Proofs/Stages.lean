import SensorBridge.Proofs.Grips
import SensorBridge.Proofs.Routing

/-!
The stages of routers and of resubscriptions. A router waits, handles a message or sets a
resubscription to work. A resubscription goes through its topics: for each one it takes the calls of
the session, looks the topic up and subscribes it if it is there.
-/
namespace SensorBridge

namespace Routine

variable {session : SessionId} {topic : String} {qos : Qos} {topics : List String}

/-! ### Routers -/

/-- Goes on with a connection that has lost its subscriptions. -/
def heralding (session : SessionId) (topics : List String) : Routine Bool := do
  request (.spawn (.resubscribe session topics))
  return true

def alerted (session : SessionId) : Routine Bool := do
  heralding session ((← memory).topicsOf session)

/-- Whatever it does, it needs no lock and makes no call to a broker. -/
def Calm {α : Type} (p : Routine α) : Prop :=
  p.Safe (fun _ => false) .free fun γ _ => γ = .free

section Calm

variable {α β : Type} {p : Routine α} {read : PayloadReaders} {key : SubscriptionKey} {url : String}

theorem calm_done {x : α} : Calm (.done x) :=
  rfl

theorem calm_bind {f : α → Routine β} (hp : Calm p) (hf : ∀ x, Calm (f x)) : Calm (p >>= f) := by
  refine safe_bind (safe_mono hp fun γ x hγ => ?_)
  rw [hγ]
  exact hf x

theorem calm_update {f : Memory → Memory} (hl : ∀ m, (f m).ledger = m.ledger)
    (hr : ∀ m, (f m).retired = m.retired) : Calm (update f) := by
  intro m hm _
  refine ⟨⟨by rw [hl]; exact hm.ledger, (hr m).trans hm.retired⟩, fun s t q h => ?_, fun _ => hl m, rfl⟩
  rw [hl] at h
  exact .inl h

theorem calm_resolve {name : String} : Calm (resolve name) := by
  have hcached : Calm (cached name) :=
    calm_bind (calm_update (fun _ => rfl) fun _ => rfl) fun _ => calm_done
  refine calm_bind hcached fun found => ?_
  cases found with
  | some s => exact calm_done
  | none =>
    refine calm_bind (calm_update (fun _ => rfl) fun _ => rfl) fun m => ?_
    have hlookup : Calm (call (.lookup name)) := safe_call fun reply => ⟨reply, rfl, rfl⟩
    refine calm_bind hlookup fun reply => ?_
    cases resolution reply with
    | error e => exact calm_done
    | ok s => exact calm_bind (calm_update (fun _ => rfl) fun _ => rfl) fun _ => calm_done

theorem calm_accept {x : Measurement} : Calm (accept key x) := by
  unfold accept
  cases x.name.isEmpty with
  | true => exact calm_done
  | false =>
    refine calm_bind calm_resolve fun found => ?_
    cases found with
    | error e => exact calm_done
    | ok s =>
      dsimp only
      cases s.mismatch? key x <;> exact calm_done

theorem calm_sortOut {xs : List Measurement} {b : Batch} {dropped : List (String × DropReason)} :
    Calm (sortOut key xs b dropped) := by
  induction xs generalizing b dropped with
  | nil => exact calm_done
  | cons x xs ih =>
    refine calm_bind calm_accept fun taken => ?_
    cases taken <;> exact ih

theorem calm_handle {read : PayloadReader} {payload : List UInt8} :
    Calm (handle read key payload) := by
  unfold handle
  cases read payload with
  | error e => exact calm_done
  | ok xs =>
    refine calm_bind calm_sortOut fun (b, dropped) => ?_
    dsimp only
    split
    · exact calm_done
    · have hsubmit : Calm (call (.submit b)) := safe_call fun reply => ⟨reply, rfl, rfl⟩
      refine calm_bind hsubmit fun reply => ?_
      cases reply <;> exact calm_done

theorem calm_logAll {entries : List LogEntry} : Calm (logAll entries) := by
  induction entries with
  | nil => exact calm_done
  | cons e entries ih => exact calm_bind (fun _ => rfl : Calm (request (.log e))) fun _ => ih

theorem calm_dispatchAll {m : Message} {topics : List String} :
    Calm (dispatchAll read url m topics) := by
  induction topics with
  | nil => exact calm_done
  | cons topic topics ih =>
    exact calm_bind (calm_bind calm_handle fun _ => calm_logAll) fun _ => ih

/-- A router is calm unless it learns that the subscriptions are lost. -/
theorem calm_deal {event : Option SessionEvent} (h : event ≠ some (.connected false)) :
    Calm (deal read url session event) := by
  match event with
  | none | some (.lost _) | some (.connected true) => exact calm_done
  | some (.connected false) => exact absurd rfl h
  | some (.message m) =>
    exact calm_bind (calm_update (fun _ => rfl) fun _ => rfl) fun _ =>
      calm_bind calm_dispatchAll fun _ => calm_done

end Calm

/-! ### Resubscriptions -/

def renewing (session : SessionId) (topics : List String) : Routine Bool := do
  resubscribeAll session topics
  return false

/-- Lets other calls of the session pass and goes on with the topics that are left. -/
def yielding (session : SessionId) (topics : List String) : Routine Bool := do
  request (.release (.calls session))
  renewing session topics

/-- Subscribes a topic that was found, and goes on. -/
def subscribing (session : SessionId) (topic : String) (qos : Qos) (topics : List String) :
    Routine Bool :=
  .ask (.call (.subscribe session topic qos)) fun
    | .ok _ => yielding session topics
    | .error f => do
      request (.release (.calls session))
      fault f

/-- Goes on with what was found of a topic. -/
def resuming (session : SessionId) (topic : String) (topics : List String) :
    Option Subscription → Routine Bool
  | none => yielding session topics
  | some s => subscribing session topic s.qos topics

/-- Looks a topic up, with the calls of the session in hand. -/
def looking (session : SessionId) (topic : String) (topics : List String) : Routine Bool :=
  .ask (.update id) fun m =>
    resuming session topic topics ((m.linkOf? session).bind (·.find? topic))

theorem renewing_cons : renewing session (topic :: topics) =
    .ask (.acquire (.calls session)) fun _ => looking session topic topics := by
  change Routine.ask _ _ = _
  congr 1
  funext _
  change Routine.ask _ _ = Routine.ask _ _
  congr 1
  funext m
  dsimp only [Routine.bind]
  cases (m.linkOf? session).bind (·.find? topic) with
  | none => rfl
  | some s =>
    change Routine.ask _ _ = Routine.ask _ _
    congr 1
    funext reply
    cases reply <;> rfl

end Routine

end SensorBridge
