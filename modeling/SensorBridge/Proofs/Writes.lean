import SensorBridge.Proofs.LedgerRuns
import SensorBridge.Proofs.Records

/-!
How often a routine may change the ledger. One that changes it at most once goes from the ledger it
starts from to the one it leaves in a single request.
-/
namespace SensorBridge

namespace Routine

variable {α β : Type} {p : Routine α} {i j : Nat}

/-- However it goes on, at most so many requests of the routine change the ledger. -/
def Writes : Routine α → Nat → Prop
  | .done _, _ => True
  | .fault _, _ => True
  | .ask (.update f) k, n =>
    ((∀ m, (f m).ledger = m.ledger) ∧ ∀ m, (k m).Writes n) ∨ ∃ i, n = i + 1 ∧ ∀ m, (k m).Writes i
  | .ask _ k, n => ∀ a, (k a).Writes n

theorem Writes.mono (h : p.Writes i) (hij : i ≤ j) : p.Writes j := by
  induction p generalizing i j with
  | done | fault => trivial
  | ask r k ih =>
    cases r with
    | update f =>
      obtain ⟨hf, hk⟩ | ⟨i, rfl, hk⟩ := h
      · exact .inl ⟨hf, fun m => ih m (hk m) hij⟩
      · obtain ⟨j, rfl⟩ := Nat.exists_eq_add_of_lt hij
        exact .inr ⟨i + j, rfl, fun m => ih m (hk m) (Nat.le_add_right i j)⟩
    | _ => exact fun a => ih a (h a) hij

theorem writes_bind {f : α → Routine β} (hp : p.Writes i) (hf : ∀ x, (f x).Writes j) :
    (p >>= f).Writes (i + j) := by
  induction p generalizing i with
  | done x => exact (hf x).mono (Nat.le_add_left j i)
  | fault e => trivial
  | ask r k ih =>
    cases r with
    | update g =>
      obtain ⟨hg, hk⟩ | ⟨i, rfl, hk⟩ := hp
      · exact .inl ⟨hg, fun m => ih m (hk m)⟩
      · exact .inr ⟨i + j, by omega, fun m => ih m (hk m)⟩
    | _ => exact fun a => ih a (hp a)

/-- Only the first of two routines changes the ledger. -/
theorem writes_bind_left {f : α → Routine β} (hp : p.Writes i) (hf : ∀ x, (f x).Writes 0) :
    (p >>= f).Writes i :=
  writes_bind hp hf

/-- Only the second of two routines changes the ledger. -/
theorem writes_bind_right {f : α → Routine β} (hp : p.Writes 0) (hf : ∀ x, (f x).Writes j) :
    (p >>= f).Writes j := by
  simpa using writes_bind hp hf

theorem writes_attempt (hp : p.Writes i) : p.attempt.Writes i := by
  induction p generalizing i with
  | done | fault => trivial
  | ask r k ih =>
    cases r with
    | update g =>
      obtain ⟨hg, hk⟩ | ⟨i, rfl, hk⟩ := hp
      · exact .inl ⟨hg, fun m => ih m (hk m)⟩
      · exact .inr ⟨i, rfl, fun m => ih m (hk m)⟩
    | _ => exact fun a => ih a (hp a)

theorem writes_call {c : Call} : (call c).Writes 0 := by
  intro reply
  cases reply <;> trivial

theorem writes_request {r : Request} (hr : r.Idle) : (request r).Writes 0 := by
  cases r with
  | update f =>
    refine .inl ⟨fun m => ?_, fun _ => trivial⟩
    have hf := hr (fun _ _ => False) m [] m (f m) ⟨rfl, rfl, rfl⟩
    exact congrArg Memory.ledger hf.2
  | _ => exact fun _ => trivial

theorem writes_ledger : ledger.Writes 0 :=
  .inl ⟨fun _ => rfl, fun _ => trivial⟩

theorem writes_modifyLedger {f : Ledger → Ledger} : (modifyLedger f).Writes 1 :=
  .inr ⟨0, rfl, fun _ => trivial⟩

theorem writes_onFault {job : Job} (hp : p.Writes i) :
    (onFault p (request (.abort job))).Writes i := by
  refine writes_bind_left (writes_attempt hp) fun x => ?_
  cases x with
  | ok x => trivial
  | error f => exact fun _ => trivial

theorem writes_holding {l : Lock} (hp : p.Writes i) : (holding l p).Writes i := by
  refine writes_bind_right (writes_request (Request.idle_acquire l)) fun _ => ?_
  refine writes_bind_left (writes_attempt hp) fun x => ?_
  cases x with
  | ok x => exact fun _ => trivial
  | error f => exact fun _ => trivial

/-! ### Registering and unregistering -/

variable {grace : Nat} {feed : Feed} {l : Link}

theorem writes_closeLink : (closeLink grace l).Writes 0 := by
  refine writes_bind_left (writes_onFault writes_call) fun _ => ?_
  refine writes_bind_right (writes_request (Request.idle_join _ _)) fun a => ?_
  cases a with
  | late => exact fun _ => trivial
  | done | faulted => trivial

theorem writes_subscribe {session : SessionId} {topic : String} {qos : Qos} {f : Ledger → Ledger} :
    (subscribe session topic qos f).Writes 1 := by
  refine writes_holding (writes_bind_right writes_call fun x => ?_)
  cases x with
  | error e => trivial
  | ok u => exact writes_bind_left writes_modifyLedger fun _ => trivial

theorem writes_register : (register grace feed).Writes 1 := by
  unfold register
  cases checkFeed feed with
  | error e => trivial
  | ok qos =>
    refine writes_bind_right writes_ledger fun g => ?_
    cases g.link? feed.url with
    | none =>
      refine writes_bind_right writes_call fun x => ?_
      cases x with
      | error e => trivial
      | ok session =>
        refine writes_bind_right (writes_request (Request.idle_spawn _)) fun _ => ?_
        refine writes_bind_left (writes_onFault writes_subscribe) fun x => ?_
        cases x with
        | error e => exact writes_bind_left writes_closeLink fun _ => trivial
        | ok u => trivial
    | some l =>
      dsimp only
      cases l.find? feed.topic with
      | some s => exact writes_bind_left writes_modifyLedger fun _ => trivial
      | none => exact writes_subscribe

theorem writes_unsubscribeLast {topic : String} : (unsubscribeLast grace l topic).Writes 1 := by
  refine writes_bind_right (writes_holding writes_call) fun result => ?_
  refine writes_bind_right writes_ledger fun g => ?_
  dsimp only
  split
  · split
    · refine writes_bind_left writes_modifyLedger fun _ => ?_
      refine writes_bind_left writes_closeLink fun _ => ?_
      cases result <;> trivial
    · cases result <;> trivial
  · cases result <;> trivial

end Routine

/-- Whether the ledgers before and after the request are related in a way. -/
def Moment.crosses (q : Ledger → Ledger → Bool) (x : Moment) : Bool :=
  q x.before.ledger x.after.ledger

namespace Routine

variable {α : Type} {p : Routine α} {replies : Replies} {m m' : Memory} {es : List Moment}
  {res : Except Fault α} {q : Ledger → Ledger → Bool}

theorem Records.countP_of_writes_zero (h : Records (.holding replies) p m es res m')
    (hp : p.Writes 0) (hq : ∀ g, q g g = false) :
    es.countP (·.crosses q) = 0 ∧ m'.ledger = m.ledger := by
  induction h with
  | done | fault => exact ⟨rfl, rfl⟩
  | @ask r k m m₁ m₂ m₃ a t es res hothers hserved hrest ih =>
    have hsame : m₂.ledger = m₁.ledger ∧ (k a).Writes 0 := by
      cases r with
      | update f =>
        obtain ⟨hf, hk⟩ | ⟨i, hi, -⟩ := hp
        · obtain ⟨-, rfl, rfl⟩ := hserved
          exact ⟨hf a, hk a⟩
        · cases hi
      | call c => exact ⟨congrArg Memory.ledger hserved.2.2, hp a⟩
      | _ => exact ⟨congrArg Memory.ledger hserved.2, hp a⟩
    obtain ⟨hcount, hend⟩ := ih hsame.2
    have hothers : m₁.ledger = m.ledger := hothers
    rw [List.countP_cons, hcount, Moment.crosses, hsame.1, hq, hend, hsame.1, hothers]
    exact ⟨rfl, rfl⟩

/-- What a routine that changes the ledger once crosses lies between its ledgers. -/
theorem Records.countP_of_writes_one (h : Records (.holding replies) p m es res m')
    (hp : p.Writes 1) (hq : ∀ g, q g g = false) :
    es.countP (·.crosses q) = if q m.ledger m'.ledger then 1 else 0 := by
  induction h with
  | done | fault => simp [hq]
  | @ask r k m m₁ m₂ m₃ a t es res hothers hserved hrest ih =>
    have hothers : m₁.ledger = m.ledger := hothers
    have hstill (hsame : m₂.ledger = m₁.ledger) (hk : (k a).Writes 1) :
        (⟨r, a, m₁, m₂⟩ :: es).countP (·.crosses q) =
          if q m.ledger m₃.ledger then 1 else 0 := by
      rw [List.countP_cons, ih hk, Moment.crosses, hsame, hq, hothers]
      rfl
    cases r with
    | update f =>
      obtain ⟨-, rfl, rfl⟩ := hserved
      obtain ⟨hf, hk⟩ | ⟨i, hi, hk⟩ := hp
      · exact hstill (hf a) (hk a)
      · obtain rfl : i = 0 := by omega
        obtain ⟨hcount, hend⟩ := hrest.countP_of_writes_zero (hk a) hq
        rw [List.countP_cons, hcount, hend, Moment.crosses, hothers, Nat.zero_add]
    | call c => exact hstill (congrArg Memory.ledger hserved.2.2) (hp a)
    | _ => exact hstill (congrArg Memory.ledger hserved.2) (hp a)

end Routine

end SensorBridge
