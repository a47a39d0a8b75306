import Mathlib.Tactic.Choose
import SensorBridge.Connector.Registration

/-!
Runs of a routine: the memory it starts from, the calls it makes with their replies, how it ends
and the memory it leaves. Nothing is assumed of the replies but what the surroundings say, so a
statement about all runs holds for every broker, catalog and sink.
-/
namespace SensorBridge

/-- A call that was made and how it ended. -/
structure Exchange where
  call : Call
  reply : Except Fault call.Reply

/-- Which ways for a call to end are possible. -/
abbrev Replies : Type := (c : Call) → Except Fault c.Reply → Prop

/-- No call ends in a fault. -/
def Replies.Faultless (replies : Replies) : Prop :=
  ∀ (c : Call) (f : Fault), ¬ replies c (.error f)

/-- Each call ends in one way only. -/
def Replies.only (reply : (c : Call) → Except Fault c.Reply) : Replies :=
  fun c x => x = reply c

theorem Replies.exists_only (reply : (c : Call) → Except Fault c.Reply) (c : Call) :
    ∃ x, Replies.only reply c x :=
  ⟨reply c, rfl⟩

/-- One request: the memory before it, the calls made for it, its answer and the memory after it. -/
def Request.Served (replies : Replies) (r : Request) (m : Memory) (t : List Exchange)
    (a : r.Answer) (m' : Memory) : Prop :=
  match r, a with
  | .update f, a => t = [] ∧ a = m ∧ m' = f m
  | .call c, a => replies c a ∧ t = [⟨c, a⟩] ∧ m' = m
  | _, _ => t = [] ∧ m' = m

/-- What a routine may meet: how the other tasks change the memory between two of its requests, and
how its calls end. -/
structure Surroundings where
  others : Memory → Memory → Prop
  replies : Replies

/-- What a routine that holds the ledger may meet. The other tasks leave the ledger alone. -/
def Surroundings.holding (replies : Replies) : Surroundings where
  others m m' := m'.ledger = m.ledger
  replies

namespace Routine

variable {α β : Type} {env : Surroundings} {m m' : Memory} {t : List Exchange}

inductive Runs (env : Surroundings) :
    Routine α → Memory → List Exchange → Except Fault α → Memory → Prop where
  | done (x : α) (m : Memory) : Runs env (.done x) m [] (.ok x) m
  | fault (f : Fault) (m : Memory) : Runs env (.fault f) m [] (.error f) m
  | ask {r : Request} {k : r.Answer → Routine α} {m m₁ m₂ m₃ : Memory} {a : r.Answer}
      {t₁ t₂ : List Exchange} {res : Except Fault α} (hothers : env.others m m₁)
      (hserved : r.Served env.replies m₁ t₁ a m₂) (hrest : Runs env (k a) m₂ t₂ res m₃) :
      Runs env (.ask r k) m (t₁ ++ t₂) res m₃

theorem runs_done {x : α} {res : Except Fault α} :
    Runs env (.done x) m t res m' ↔ t = [] ∧ res = .ok x ∧ m' = m := by
  constructor
  · intro h
    cases h
    exact ⟨rfl, rfl, rfl⟩
  · rintro ⟨rfl, rfl, rfl⟩
    exact .done x m'

theorem runs_pure {x : α} {res : Except Fault α} :
    Runs env (pure x) m t res m' ↔ t = [] ∧ res = .ok x ∧ m' = m :=
  runs_done

theorem runs_fault {f : Fault} {res : Except Fault α} :
    Runs env (.fault f) m t res m' ↔ t = [] ∧ res = .error f ∧ m' = m := by
  constructor
  · intro h
    cases h
    exact ⟨rfl, rfl, rfl⟩
  · rintro ⟨rfl, rfl, rfl⟩
    exact .fault f m'

theorem runs_ask {r : Request} {k : r.Answer → Routine α} {res : Except Fault α} :
    Runs env (.ask r k) m t res m' ↔
      ∃ m₁ t₁ a m₂ t₂, env.others m m₁ ∧ r.Served env.replies m₁ t₁ a m₂ ∧
        Runs env (k a) m₂ t₂ res m' ∧ t = t₁ ++ t₂ := by
  constructor
  · intro h
    cases h with
    | ask hothers hserved hrest => exact ⟨_, _, _, _, _, hothers, hserved, hrest, rfl⟩
  · rintro ⟨m₁, t₁, a, m₂, t₂, hothers, hserved, hrest, rfl⟩
    exact .ask hothers hserved hrest

theorem runs_call {c : Call} {res : Except Fault c.Reply} :
    Runs env (call c) m t res m' ↔ env.others m m' ∧ env.replies c res ∧ t = [⟨c, res⟩] := by
  constructor
  · intro h
    obtain ⟨m₁, t₁, a, m₂, t₂, hothers, ⟨ha, rfl, rfl⟩, hrest, rfl⟩ := runs_ask.mp h
    cases a with
    | ok x =>
      obtain ⟨rfl, rfl, rfl⟩ := runs_done.mp hrest
      exact ⟨hothers, ha, rfl⟩
    | error f =>
      obtain ⟨rfl, rfl, rfl⟩ := runs_fault.mp hrest
      exact ⟨hothers, ha, rfl⟩
  · rintro ⟨hothers, hreply, rfl⟩
    refine runs_ask.mpr ⟨m', _, res, m', [], hothers, ⟨hreply, rfl, rfl⟩, ?_, rfl⟩
    cases res with
    | ok x => exact .done x m'
    | error f => exact .fault f m'

/-- A run of two routines one after the other ends in the second one, or early with a fault of the
first one. -/
theorem runs_bind {p : Routine α} {f : α → Routine β} {res : Except Fault β} :
    Runs env (p >>= f) m t res m' ↔
      (∃ x t₁ m₁ t₂, Runs env p m t₁ (.ok x) m₁ ∧ Runs env (f x) m₁ t₂ res m' ∧ t = t₁ ++ t₂) ∨
      ∃ e, Runs env p m t (.error e) m' ∧ res = .error e := by
  induction p generalizing m t with
  | done x =>
    change Runs env (f x) m t res m' ↔ _
    constructor
    · intro h
      exact .inl ⟨x, [], m, t, .done x m, h, rfl⟩
    · rintro (⟨x, t₁, m₁, t₂, hp, hf, rfl⟩ | ⟨e, hp, _⟩)
      · cases hp
        exact hf
      · cases hp
  | fault e =>
    change Runs env (.fault e) m t res m' ↔ _
    constructor
    · intro h
      obtain ⟨rfl, rfl, rfl⟩ := runs_fault.mp h
      exact .inr ⟨e, .fault e m', rfl⟩
    · rintro (⟨x, t₁, m₁, t₂, hp, -, -⟩ | ⟨e', hp, rfl⟩)
      · cases hp
      · cases hp
        exact .fault e m'
  | ask r k ih =>
    change Runs env (.ask r fun a => (k a).bind f) m t res m' ↔ _
    constructor
    · intro h
      obtain ⟨m₁, t₁, a, m₂, t₂, hothers, hserved, hrest, rfl⟩ := runs_ask.mp h
      obtain ⟨x, t₃, m₃, t₄, hp, hf, rfl⟩ | ⟨e, hp, rfl⟩ := (ih a).mp hrest
      · exact .inl ⟨x, t₁ ++ t₃, m₃, t₄, .ask hothers hserved hp, hf, by simp⟩
      · exact .inr ⟨e, .ask hothers hserved hp, rfl⟩
    · rintro (⟨x, t₁, m₁, t₂, hp, hf, rfl⟩ | ⟨e, hp, rfl⟩)
      · obtain ⟨m₂, t₃, a, m₃, t₄, hothers, hserved, hrest, rfl⟩ := runs_ask.mp hp
        rw [List.append_assoc]
        exact .ask hothers hserved ((ih a).mpr (.inl ⟨x, t₄, m₁, t₂, hrest, hf, rfl⟩))
      · obtain ⟨m₂, t₃, a, m₃, t₄, hothers, hserved, hrest, rfl⟩ := runs_ask.mp hp
        exact .ask hothers hserved ((ih a).mpr (.inr ⟨e, hrest, rfl⟩))

theorem runs_attempt {p : Routine α} {res : Except Fault (Except Fault α)} :
    Runs env p.attempt m t res m' ↔ ∃ x, res = .ok x ∧ Runs env p m t x m' := by
  induction p generalizing m t with
  | done x =>
    change Runs env (.done (.ok x)) m t res m' ↔ _
    constructor
    · intro h
      obtain ⟨rfl, rfl, rfl⟩ := runs_done.mp h
      exact ⟨.ok x, rfl, .done x m'⟩
    · rintro ⟨y, rfl, h⟩
      obtain ⟨rfl, rfl, rfl⟩ := runs_done.mp h
      exact .done _ m'
  | fault e =>
    change Runs env (.done (.error e)) m t res m' ↔ _
    constructor
    · intro h
      obtain ⟨rfl, rfl, rfl⟩ := runs_done.mp h
      exact ⟨.error e, rfl, .fault e m'⟩
    · rintro ⟨y, rfl, h⟩
      obtain ⟨rfl, rfl, rfl⟩ := runs_fault.mp h
      exact .done _ m'
  | ask r k ih =>
    change Runs env (.ask r fun a => (k a).attempt) m t res m' ↔ _
    constructor
    · intro h
      obtain ⟨m₁, t₁, a, m₂, t₂, hothers, hserved, hrest, rfl⟩ := runs_ask.mp h
      obtain ⟨y, rfl, hy⟩ := (ih a).mp hrest
      exact ⟨y, rfl, .ask hothers hserved hy⟩
    · rintro ⟨y, rfl, h⟩
      obtain ⟨m₁, t₁, a, m₂, t₂, hothers, hserved, hrest, rfl⟩ := runs_ask.mp h
      exact .ask hothers hserved ((ih a).mpr ⟨y, rfl, hrest⟩)

/-- The answer to a request when nobody else is at work, and the memory after it. Calls end as `reply`
says, and a task that is waited for has ended. -/
def respond (reply : (c : Call) → Except Fault c.Reply) (m : Memory) : (r : Request) → r.Answer × Memory
  | .call c => (reply c, m)
  | .update f => (m, f m)
  | .acquire _ | .release _ | .spawn _ | .abort _ | .log _ | .sleep _ | .acknowledge .. | .stop =>
    ((), m)
  | .join .. => (.done, m)
  | .pause _ | .deliver .. => (false, m)
  | .nextChange | .nextEvent _ | .send _ => (none, m)
  | .answer _ => (.ok (), m)

/-- Runs a routine by itself. -/
def play (reply : (c : Call) → Except Fault c.Reply) : Routine α → Memory → Except Fault α × Memory
  | .done x, m => (.ok x, m)
  | .fault f, m => (.error f, m)
  | .ask r k, m => play reply (k (respond reply m r).1) (respond reply m r).2

theorem served_respond {reply : (c : Call) → Except Fault c.Reply} {replies : Replies}
    (hreply : ∀ c, replies c (reply c)) (m : Memory) (r : Request) :
    ∃ t, r.Served replies m t (respond reply m r).1 (respond reply m r).2 := by
  cases r with
  | call c => exact ⟨_, hreply c, rfl, rfl⟩
  | update f => exact ⟨[], rfl, rfl, rfl⟩
  | _ => exact ⟨[], rfl, rfl⟩

theorem runs_play {reply : (c : Call) → Except Fault c.Reply} (hothers : ∀ m, env.others m m)
    (hreply : ∀ c, env.replies c (reply c)) (p : Routine α) (m : Memory) :
    ∃ t, Runs env p m t (play reply p m).1 (play reply p m).2 := by
  induction p generalizing m with
  | done x => exact ⟨[], .done x m⟩
  | fault f => exact ⟨[], .fault f m⟩
  | ask r k ih =>
    obtain ⟨t₁, hserved⟩ := served_respond hreply m r
    obtain ⟨t, hrest⟩ := ih (respond reply m r).1 (respond reply m r).2
    exact ⟨t₁ ++ t, .ask (hothers m) hserved hrest⟩

/-- However the calls end, a routine comes to an end. -/
theorem exists_runs (hothers : ∀ m, env.others m m) (hreplies : ∀ c, ∃ x, env.replies c x)
    (p : Routine α) (m : Memory) : ∃ t res m', Runs env p m t res m' := by
  choose reply hreply using hreplies
  obtain ⟨t, h⟩ := runs_play hothers hreply p m
  exact ⟨t, _, _, h⟩

end Routine

end SensorBridge
