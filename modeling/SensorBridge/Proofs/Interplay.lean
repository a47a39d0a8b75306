import Mathlib.Logic.Relation
import SensorBridge.Proofs.Courses

/-!
Operations on the ledger and the tasks they set to work, taking turns after every request. A call is
sent in one turn and answered in another, so calls may be under way at the same time. A session may
get a new connection at any moment; its router learns of it by an event.
-/
namespace SensorBridge

inductive Role where
  | operation (op : Operation)
  | job (job : Job)
  deriving DecidableEq, Repr

/-- Whether an operation may add a first receiver for a topic. -/
def Operation.registers : Operation → String → Bool
  | .register feed, topic => feed.topic == topic
  | .unregister _, _ => false
  | .apply (.created s), topic => s.feed.any (·.topic == topic)
  | .apply (.updated _ new), topic => new.feed.any (·.topic == topic)
  | .apply (.deleted _), _ => false
  | .sweep, _ => true
  | .replay, _ => true

namespace Role

def registers : Role → String → Bool
  | operation op => op.registers
  | job _ => fun _ => false

def routine (settings : ConnectorSettings) (read : PayloadReaders) : Role → Routine Bool
  | operation op => do
    op.routine settings
    return false
  | job j => Routine.ofJob settings read j

end Role

/-- One that is at work, with what is left of its routine. -/
structure Worker where
  role : Role
  rest : Routine Bool
  /-- The number of the connection on which its call is under way. -/
  sent : Option Nat := none
  /-- The topic that it registers on a session, with the number of the connection on which it asked
  for it; until it lets other calls pass. -/
  entering : Option (SessionId × String × Nat) := none
  /-- The ledger as it found it last. -/
  found : Ledger := {}

/-- It has come to the end of its routine. -/
def Worker.Over (w : Worker) : Prop :=
  ∃ goesOn, w.rest = .done goesOn

instance (w : Worker) : Decidable w.Over :=
  match h : w.rest with
  | .done goesOn => isTrue ⟨goesOn, h⟩
  | .fault _ => isFalse fun ⟨_, hdone⟩ => nomatch h.symm.trans hdone
  | .ask .. => isFalse fun ⟨_, hdone⟩ => nomatch h.symm.trans hdone

/-- What is seen of a call: that it was sent, on which connection of its session, and the reply. -/
inductive Note where
  | sent (worker : Nat) (role : Role) (call : Call) (connection : Nat)
  | answered (call : Call) (connection : Nat) (reply : call.Reply)

namespace Note

/-- A SUBSCRIBE was sent. -/
def asks (session : SessionId) (topic : String) : Note → Bool
  | sent _ _ (.subscribe s t _) _ => s == session && t == topic
  | _ => false

/-- A SUBSCRIBE was sent to register the topic. -/
def enters (session : SessionId) (topic : String) : Note → Bool
  | sent _ role (.subscribe s t _) _ => s == session && t == topic && role.registers topic
  | _ => false

/-- An UNSUBSCRIBE was sent. -/
def leaves (session : SessionId) (topic : String) : Note → Bool
  | sent _ _ (.unsubscribe s t) _ => s == session && t == topic
  | _ => false

/-- The topic for which a worker sent a SUBSCRIBE. -/
def askedBy (worker : Nat) : Note → Option String
  | sent i _ (.subscribe _ topic _) _ => if i = worker then some topic else none
  | _ => none

/-- A SUBSCRIBE that was sent on a connection was granted. -/
def grants (session : SessionId) (topic : String) (connection : Nat) : Note → Bool
  | answered (.subscribe s t _) n reply =>
    s == session && t == topic && n == connection && reply.isOk
  | _ => false

/-- A SUBSCRIBE that was sent on a connection failed. -/
def refuses (session : SessionId) (connection : Nat) : Note → Bool
  | answered (.subscribe s _ _) n reply => s == session && n == connection && !reply.isOk
  | _ => false

/-- A SUBSCRIBE for the topic was answered. -/
def answers (topic : String) : Note → Bool
  | answered (.subscribe _ t _) .. => t == topic
  | _ => false

end Note

/-- A connector at work. -/
structure Interplay where
  memory : Memory
  holder : Lock → Option Nat := fun _ => none
  workers : List Worker := []
  /-- How often a session has got a new connection. -/
  connections : SessionId → Nat := fun _ => 0
  /-- Of how many of them its router has not learned. -/
  due : SessionId → Nat := fun _ => 0
  /-- The topics that were being registered, with a SUBSCRIBE on an earlier connection, when the
  router learned of the last one. -/
  overtaken : SessionId → List String := fun _ => []
  /-- The latest note stands first. -/
  history : List Note := []

/-- The session on which no other round trip may be under way at the same time. -/
def Call.guarded? : Call → Option SessionId
  | .subscribe session .. => some session
  | .unsubscribe session _ => some session
  | _ => none

def Request.isCall : Request → Bool
  | .call _ => true
  | _ => false

namespace Worker

/-- After a call was sent on the `n`-th connection. -/
def sending (w : Worker) (c : Call) (n : Nat) : Worker :=
  match c with
  | .subscribe session topic _ =>
    { w with
      sent := some n
      entering := if w.role.registers topic then some (session, topic, n) else w.entering }
  | _ => { w with sent := some n }

/-- After a request was answered. -/
def served (w : Worker) (r : Request) (rest : Routine Bool) (g : Ledger) : Worker :=
  match r with
  | .update _ => { w with rest, sent := none, found := g }
  | .release (.calls _) => { w with rest, sent := none, entering := none }
  | _ => { w with rest, sent := none }

theorem role_served {w : Worker} {r : Request} {rest : Routine Bool} {g : Ledger} :
    (w.served r rest g).role = w.role := by
  cases r with
  | release l => cases l <;> rfl
  | _ => rfl

theorem rest_served {w : Worker} {r : Request} {rest : Routine Bool} {g : Ledger} :
    (w.served r rest g).rest = rest := by
  cases r with
  | release l => cases l <;> rfl
  | _ => rfl

/-- The topic that the worker registers on a session since before the `n`-th connection. -/
def overtaken? (session : SessionId) (n : Nat) (w : Worker) : Option String :=
  w.entering.bind fun (s, topic, m) => if s = session ∧ m < n then some topic else none

end Worker

namespace Interplay

variable (settings : ConnectorSettings) (read : PayloadReaders)

def connectionOf (σ : Interplay) (c : Call) : Nat :=
  c.guarded?.elim 0 σ.connections

def starting (σ : Interplay) (role : Role) : Interplay :=
  { σ with workers := σ.workers ++ [{ role, rest := role.routine settings read }] }

def reconnected (σ : Interplay) (session : SessionId) : Interplay :=
  { σ with
    connections := Function.update σ.connections session (σ.connections session + 1)
    due := Function.update σ.due session (σ.due session + 1) }

/-- The router learns of a new connection. -/
def notified (σ : Interplay) (session : SessionId) : Interplay :=
  { σ with
    due := Function.update σ.due session (σ.due session - 1)
    overtaken := Function.update σ.overtaken session
      (σ.workers.filterMap (·.overtaken? session (σ.connections session))) }

def replaced (σ : Interplay) (i : Nat) (w : Worker) : Interplay :=
  { σ with workers := σ.workers.set i w }

def sending (σ : Interplay) (i : Nat) (w : Worker) (c : Call) : Interplay :=
  { σ.replaced i (w.sending c (σ.connectionOf c)) with
    history := .sent i w.role c (σ.connectionOf c) :: σ.history }

/-- What the answer to a request of the `i`-th worker changes but for the worker itself. -/
def affected (σ : Interplay) (i : Nat) (w : Worker) : (r : Request) → r.Answer → Interplay
  | .update f, _ => { σ with memory := f σ.memory }
  | .acquire l, _ => { σ with holder := Function.update σ.holder l (some i) }
  | .release l, _ => { σ with holder := Function.update σ.holder l none }
  | .spawn job, _ => σ.starting settings read (.job job)
  | .nextEvent session, some (.connected false) => σ.notified session
  | .call c, .ok reply => { σ with history := .answered c (w.sent.getD 0) reply :: σ.history }
  | _, _ => σ

def serving (σ : Interplay) (i : Nat) (w : Worker) (r : Request) (k : r.Answer → Routine Bool)
    (a : r.Answer) : Interplay :=
  (σ.replaced i (w.served r (k a) σ.memory.ledger)).affected settings read i w r a

/-- How a request may be answered. A lock is given to one at a time, calls end well or not but
without a fault, a session that is opened is not one of the ledger, and a router learns of a
connection once. -/
def Allows (σ : Interplay) : (r : Request) → r.Answer → Prop
  | .update _, m => m = σ.memory
  | .acquire l, _ => σ.holder l = none
  | .call (.connect _), reply => ∃ x, reply = .ok x ∧
      ∀ session, x = .ok session → ∀ l ∈ σ.memory.ledger.links, l.session ≠ session
  | .call _, reply => ∃ x, reply = .ok x
  | .nextEvent session, event => event = some (.connected false) → 0 < σ.due session
  | _, _ => True

/-- What can happen: an operation begins, a session gets a new connection, a worker sends its call,
has a request answered, or begins its routine again. -/
inductive Step (σ : Interplay) : Interplay → Prop where
  | start (op : Operation) : Step σ (σ.starting settings read (.operation op))
  | reconnect (session : SessionId) : Step σ (σ.reconnected session)
  | send {i : Nat} {w : Worker} {c : Call} {k : (Request.call c).Answer → Routine Bool} :
      σ.workers[i]? = some w → w.rest = .ask (.call c) k → w.sent = none → Step σ (σ.sending i w c)
  | serve {i : Nat} {w : Worker} {r : Request} {k : r.Answer → Routine Bool} {a : r.Answer} :
      σ.workers[i]? = some w → w.rest = .ask r k → (r.isCall → w.sent ≠ none) → σ.Allows r a →
      Step σ (σ.serving settings read i w r k a)
  | again {i : Nat} {w : Worker} : σ.workers[i]? = some w → w.rest = .done true →
      Step σ (σ.replaced i { w with rest := w.role.routine settings read })

/-- All that can come about from the start, with whatever is in the cache. -/
def Reachable (σ : Interplay) : Prop :=
  ∃ cache, Relation.ReflTransGen (Step settings read) { memory := { cache } } σ

/-! ### Turns that are chosen -/

/-- Every call succeeds. -/
def granting : (c : Call) → c.Reply
  | .connect _ => .ok 0
  | .subscribe .. | .unsubscribe .. | .disconnect .. | .submit _ => .ok ()
  | .enumerate .. => .ok ([], 0)
  | .lookup _ => .ok none

/-- Whose turn it is. -/
inductive Move where
  | start (op : Operation)
  | reconnect (session : SessionId)
  | proceed (worker : Nat)

variable (reply : (c : Call) → c.Reply)

/-- A way to answer a request now, if there is one. Calls end as `reply` says, a router learns of a new
connection, and what is waited for has ended. -/
def answer? (σ : Interplay) : (r : Request) → Option r.Answer
  | .call (.connect feed) =>
    match reply (.connect feed) with
    | .ok session =>
      if σ.memory.ledger.links.all (·.session != session) then some (.ok (.ok session)) else none
    | .error e => some (.ok (.error e))
  | .call c => some (.ok (reply c))
  | .update _ => some σ.memory
  | .acquire l => if σ.holder l = none then some () else none
  | .nextEvent session => if 0 < σ.due session then some (some (.connected false)) else none
  | .release _ | .spawn _ | .abort _ | .log _ | .sleep _ | .acknowledge .. | .stop => some ()
  | .join .. => some .done
  | .pause _ | .deliver .. => some false
  | .nextChange | .send _ => some none
  | .answer _ => some (.ok ())

/-- The next thing that a worker does, if it can do any. -/
def proceed? (σ : Interplay) (i : Nat) : Option Interplay :=
  σ.workers[i]?.bind fun w =>
    match w.rest with
    | .done true => some (σ.replaced i { w with rest := w.role.routine settings read })
    | .ask (.call c) k =>
      if w.sent = none then some (σ.sending i w c)
      else (σ.answer? reply (.call c)).map (σ.serving settings read i w (.call c) k)
    | .ask r k => (σ.answer? reply r).map (σ.serving settings read i w r k)
    | _ => none

def move? (σ : Interplay) : Move → Option Interplay
  | .start op => some (σ.starting settings read (.operation op))
  | .reconnect session => some (σ.reconnected session)
  | .proceed i => σ.proceed? settings read reply i

def play? (σ : Interplay) (moves : List Move) : Option Interplay :=
  moves.foldlM (move? settings read reply) σ

variable {settings read reply} {σ σ' : Interplay} {r : Request} {a : r.Answer} {i : Nat}
  {moves : List Move}

theorem allows_of_answer (h : σ.answer? reply r = some a) : σ.Allows r a := by
  cases r with
  | call c =>
    cases c with
    | connect feed =>
      simp only [answer?] at h
      split at h
      · split at h
        · rename_i session _ hfresh
          obtain rfl := Option.some.inj h
          refine ⟨_, rfl, fun s hs l hl => ?_⟩
          obtain rfl := Except.ok.inj hs
          simpa using List.all_eq_true.mp hfresh l hl
        · cases h
      · obtain rfl := Option.some.inj h
        exact ⟨_, rfl, nofun⟩
    | _ =>
      obtain rfl := Option.some.inj h
      exact ⟨_, rfl⟩
  | update f => exact (Option.some.inj h).symm
  | acquire l =>
    simp only [answer?] at h
    split at h
    · assumption
    · cases h
  | nextEvent session =>
    simp only [answer?] at h
    split at h
    · rename_i hdue
      exact fun _ => hdue
    · cases h
  | _ => trivial

theorem step_of_proceed (h : σ.proceed? settings read reply i = some σ') : Step settings read σ σ' := by
  obtain ⟨w, hw, h⟩ := Option.bind_eq_some_iff.mp h
  split at h
  · rename_i hrest
    obtain rfl := Option.some.inj h
    exact .again hw hrest
  · rename_i c k hrest
    split at h
    · rename_i hsent
      obtain rfl := Option.some.inj h
      exact .send hw hrest hsent
    · rename_i hsent
      obtain ⟨a, ha, rfl⟩ := Option.map_eq_some_iff.mp h
      exact .serve hw hrest (fun _ => hsent) (allows_of_answer ha)
  · rename_i r k hcall hrest
    obtain ⟨a, ha, rfl⟩ := Option.map_eq_some_iff.mp h
    refine .serve hw hrest (fun hr => ?_) (allows_of_answer ha)
    cases r with
    | call c => exact (hcall c k rfl .rfl).elim
    | _ => cases hr
  · cases h

theorem steps_of_play (h : σ.play? settings read reply moves = some σ') :
    Relation.ReflTransGen (Step settings read) σ σ' := by
  induction moves generalizing σ with
  | nil =>
    obtain rfl := Option.some.inj h
    exact .refl
  | cons move moves ih =>
    obtain ⟨σ₁, hmove, hrest⟩ := Option.bind_eq_some_iff.mp h
    have hstep : Step settings read σ σ₁ := by
      cases move with
      | start op =>
        obtain rfl := Option.some.inj hmove
        exact .start op
      | reconnect session =>
        obtain rfl := Option.some.inj hmove
        exact .reconnect session
      | proceed i => exact step_of_proceed hmove
    exact .head hstep (ih hrest)

/-! ### Who is there after a turn -/

theorem worker_of_starting {role : Role} {v : Worker}
    (h : (σ.starting settings read role).workers[i]? = some v) :
    σ.workers[i]? = some v ∨
      (i = σ.workers.length ∧ v = { role, rest := role.routine settings read }) := by
  obtain hlt | hle := Nat.lt_or_ge i σ.workers.length
  · rw [starting, List.getElem?_append_left hlt] at h
    exact .inl h
  · rw [starting, List.getElem?_append_right hle, List.getElem?_singleton] at h
    split at h
    · exact .inr ⟨by omega, (Option.some.inj h).symm⟩
    · cases h

/-- One that took its turn stands where it stood, the others are as they were, and some may be new. -/
theorem worker_of_turn {ws born : List Worker} {w v : Worker} {j : Nat} (hi : i < ws.length)
    (h : (ws.set i w ++ born)[j]? = some v) :
    (j = i ∧ v = w) ∨ (j ≠ i ∧ ws[j]? = some v) ∨ v ∈ born := by
  obtain hlt | hle := Nat.lt_or_ge j (ws.set i w).length
  · rw [List.getElem?_append_left hlt] at h
    by_cases hj : j = i
    · subst hj
      rw [List.getElem?_set_self hi] at h
      exact .inl ⟨rfl, (Option.some.inj h).symm⟩
    · rw [List.getElem?_set_ne (Ne.symm hj)] at h
      exact .inr (.inl ⟨hj, h⟩)
  · rw [List.getElem?_append_right hle] at h
    exact .inr (.inr (List.mem_of_getElem? h))

end Interplay

end SensorBridge
