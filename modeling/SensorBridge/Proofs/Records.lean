import SensorBridge.Proofs.Runs

/-!
Runs with all that happens in them: every request with its answer and the memory before and after
it. The calls of a run, the states the ledger goes through, the events that were received and the
tasks that were set to work are read off such a record.
-/
namespace SensorBridge

/-- A request that was made. -/
structure Moment where
  request : Request
  answer : request.Answer
  before : Memory
  after : Memory

def Moment.exchange? (x : Moment) : Option Exchange :=
  match x with
  | ⟨.call c, reply, _, _⟩ => some ⟨c, reply⟩
  | _ => none

/-- The calls that were made, in their order. -/
def exchanges (es : List Moment) : List Exchange :=
  es.filterMap Moment.exchange?

theorem exchanges_append (es es' : List Moment) :
    exchanges (es ++ es') = exchanges es ++ exchanges es' :=
  List.filterMap_append

theorem Request.Served.exchanges_eq {replies : Replies} {r : Request} {m m' : Memory}
    {t : List Exchange} {a : r.Answer} (h : r.Served replies m t a m') :
    exchanges [⟨r, a, m, m'⟩] = t := by
  cases r with
  | call c => exact h.2.1.symm
  | _ => exact h.1.symm

namespace Routine

variable {α β : Type} {env : Surroundings} {m m' : Memory} {es : List Moment}

inductive Records (env : Surroundings) :
    Routine α → Memory → List Moment → Except Fault α → Memory → Prop where
  | done (x : α) (m : Memory) : Records env (.done x) m [] (.ok x) m
  | fault (f : Fault) (m : Memory) : Records env (.fault f) m [] (.error f) m
  | ask {r : Request} {k : r.Answer → Routine α} {m m₁ m₂ m₃ : Memory} {a : r.Answer}
      {t : List Exchange} {es : List Moment} {res : Except Fault α} (hothers : env.others m m₁)
      (hserved : r.Served env.replies m₁ t a m₂) (hrest : Records env (k a) m₂ es res m₃) :
      Records env (.ask r k) m (⟨r, a, m₁, m₂⟩ :: es) res m₃

theorem Records.runs {p : Routine α} {res : Except Fault α} (h : Records env p m es res m') :
    Runs env p m (exchanges es) res m' := by
  induction h with
  | done x m => exact .done x m
  | fault f m => exact .fault f m
  | ask hothers hserved _ ih =>
    have hrun := Runs.ask hothers hserved ih
    rwa [← hserved.exchanges_eq, ← exchanges_append] at hrun

/-- Every run has a record. -/
theorem Runs.exists_records {p : Routine α} {t : List Exchange} {res : Except Fault α}
    (h : Runs env p m t res m') : ∃ es, Records env p m es res m' ∧ exchanges es = t := by
  induction h with
  | done x m => exact ⟨[], .done x m, rfl⟩
  | fault f m => exact ⟨[], .fault f m, rfl⟩
  | ask hothers hserved _ ih =>
    obtain ⟨es, hes, rfl⟩ := ih
    refine ⟨_, .ask hothers hserved hes, ?_⟩
    rw [← hserved.exchanges_eq, ← exchanges_append]
    rfl

/-- All that happens when a routine runs by itself. -/
def moments (reply : (c : Call) → Except Fault c.Reply) : Routine α → Memory → List Moment
  | .done _, _ | .fault _, _ => []
  | .ask r k, m =>
    ⟨r, (respond reply m r).1, m, (respond reply m r).2⟩ ::
      moments reply (k (respond reply m r).1) (respond reply m r).2

theorem records_play {reply : (c : Call) → Except Fault c.Reply} (hothers : ∀ m, env.others m m)
    (hreply : ∀ c, env.replies c (reply c)) (p : Routine α) (m : Memory) :
    Records env p m (moments reply p m) (play reply p m).1 (play reply p m).2 := by
  induction p generalizing m with
  | done x => exact .done x m
  | fault f => exact .fault f m
  | ask r k ih =>
    obtain ⟨t, hserved⟩ := served_respond hreply m r
    exact .ask (hothers m) hserved (ih _ _)

theorem records_done {x : α} {res : Except Fault α} (h : Records env (.done x) m es res m') :
    es = [] ∧ res = .ok x ∧ m' = m := by
  cases h
  exact ⟨rfl, rfl, rfl⟩

theorem records_fault {f : Fault} {res : Except Fault α} (h : Records env (.fault f) m es res m') :
    es = [] ∧ res = .error f ∧ m' = m := by
  cases h
  exact ⟨rfl, rfl, rfl⟩

theorem records_ask {r : Request} {k : r.Answer → Routine α} {res : Except Fault α}
    (h : Records env (.ask r k) m es res m') :
    ∃ m₁ t a m₂ es', env.others m m₁ ∧ r.Served env.replies m₁ t a m₂ ∧
      Records env (k a) m₂ es' res m' ∧ es = ⟨r, a, m₁, m₂⟩ :: es' := by
  cases h with
  | ask hothers hserved hrest => exact ⟨_, _, _, _, _, hothers, hserved, hrest, rfl⟩

theorem records_bind {p : Routine α} {f : α → Routine β} {res : Except Fault β}
    (h : Records env (p >>= f) m es res m') :
    (∃ x es₁ m₁ es₂, Records env p m es₁ (.ok x) m₁ ∧ Records env (f x) m₁ es₂ res m' ∧
      es = es₁ ++ es₂) ∨
    ∃ e, Records env p m es (.error e) m' ∧ res = .error e := by
  induction p generalizing m es with
  | done x => exact .inl ⟨x, [], m, es, .done x m, h, rfl⟩
  | fault e =>
    obtain ⟨rfl, rfl, rfl⟩ := records_fault (h : Records env (.fault e) m es res m')
    exact .inr ⟨e, .fault e m', rfl⟩
  | ask r k ih =>
    obtain ⟨m₁, t, a, m₂, es', hothers, hserved, hrest, rfl⟩ :=
      records_ask (h : Records env (.ask r fun a => (k a).bind f) m es res m')
    obtain ⟨x, es₁, m₃, es₂, hp, hf, rfl⟩ | ⟨e, hp, rfl⟩ := ih a hrest
    · exact .inl ⟨x, _, m₃, es₂, .ask hothers hserved hp, hf, rfl⟩
    · exact .inr ⟨e, .ask hothers hserved hp, rfl⟩

theorem records_attempt {p : Routine α} {res : Except Fault (Except Fault α)}
    (h : Records env p.attempt m es res m') : ∃ x, res = .ok x ∧ Records env p m es x m' := by
  induction p generalizing m es with
  | done x =>
    obtain ⟨rfl, rfl, rfl⟩ := records_done (h : Records env (.done (.ok x)) m es res m')
    exact ⟨.ok x, rfl, .done x m'⟩
  | fault e =>
    obtain ⟨rfl, rfl, rfl⟩ := records_done (h : Records env (.done (.error e)) m es res m')
    exact ⟨.error e, rfl, .fault e m'⟩
  | ask r k ih =>
    obtain ⟨m₁, t, a, m₂, es', hothers, hserved, hrest, rfl⟩ :=
      records_ask (h : Records env (.ask r fun a => (k a).attempt) m es res m')
    obtain ⟨y, rfl, hy⟩ := ih a hrest
    exact ⟨y, rfl, .ask hothers hserved hy⟩

end Routine

end SensorBridge
