import SensorBridge.Proofs.Applying
import SensorBridge.Proofs.Service

/-!
How a lasting task goes through its section on the ledger: it takes the ledger, does its work to the end
or to a fault, gives the ledger back and goes on. Whatever happens in between, the work is a run of the
routine from the ledger that was taken to the ledger that is given back.
-/
namespace SensorBridge

/-- Calls may end in any way. -/
def Replies.any : Replies := fun _ _ => True

namespace Routine

variable {α β : Type}

/-- A routine in its section under the ledger, and what comes after it. -/
def inside (next : Except Fault β → Routine α) : Routine β → Routine α
  | .done x => .ask (.release .ledger) fun _ => next (.ok x)
  | .fault f => .ask (.release .ledger) fun _ => next (.error f)
  | .ask r k => .ask r fun a => inside next (k a)

/-- A section under the ledger, and what comes after it. -/
def guarded (next : Except Fault β → Routine α) (body : Routine β) : Routine α :=
  .ask (.acquire .ledger) fun _ => inside next body

theorem bind_bind {γ : Type} {p : Routine α} {f : α → Routine β} {g : β → Routine γ} :
    ((p >>= f) >>= g) = (p >>= fun x => f x >>= g) := by
  induction p with
  | done x => rfl
  | fault e => rfl
  | ask r k ih => exact congrArg (Routine.ask r) (funext ih)

theorem attempt_holding_bind {body : Routine β} {next : Except Fault β → Routine α} :
    ((holding .ledger body).attempt >>= next) = guarded next body := by
  refine congrArg (Routine.ask (.acquire .ledger)) (funext fun _ => ?_)
  induction body with
  | done x => rfl
  | fault e => rfl
  | ask r k ih => exact congrArg (Routine.ask r) (funext ih)

/-- However it goes on, the routine comes to make a request of some kind. -/
def Comes (P : Request → Prop) : Routine α → Prop
  | .done _ => False
  | .fault _ => False
  | .ask r k => P r ∨ ∀ a, (k a).Comes P

theorem comes_inside {P : Request → Prop} {body : Routine β} {next : Except Fault β → Routine α}
    (h : P (.release .ledger) ∨ ∀ x, (next x).Comes P) : (inside next body).Comes P := by
  induction body with
  | done x | fault e => exact h.imp_right fun h _ => h _
  | ask r k ih => exact .inr ih

/-- The listener reports how a change went. -/
def concluding (ticket : Ticket) (res : Except Fault (Except ConnectorError Unit)) : Routine Bool :=
  .ask (.acknowledge ticket (Ledger.report res)) fun _ => .done true

theorem listen_eq {grace : Nat} : listen grace = .ask .nextChange fun
    | none => .done false
    | some (change, ticket) => guarded (concluding ticket) (applyChange grace change) := by
  refine congrArg (Routine.ask .nextChange) (funext fun taken => ?_)
  match taken with
  | none => rfl
  | some (change, ticket) =>
    refine (bind_bind.trans ?_).trans attempt_holding_bind
    refine congrArg (Routine.bind _) (funext fun res => ?_)
    match res with
    | .ok (.ok ()) | .ok (.error e) | .error f => rfl

/-- The retry loop goes on after a sweep, unless that ended in a fault. -/
def goingOn {α : Type} : Except Fault α → Routine Bool
  | .ok _ => .done true
  | .error f => .fault f

theorem retryOnce_eq {settings : ConnectorSettings} :
    retryOnce settings = .ask (.pause settings.retryInterval) fun stopped =>
      if stopped then .done false else guarded goingOn (sweep settings.grace) := by
  refine congrArg (Routine.ask (.pause settings.retryInterval)) (funext fun stopped => ?_)
  cases stopped with
  | true => rfl
  | false =>
    have hbind : ∀ {α : Type} {p : Routine α},
        (p >>= fun _ => pure true) = (p.attempt >>= (goingOn : Except Fault α → Routine Bool)) := by
      intro α p
      induction p with
      | done x => rfl
      | fault e => rfl
      | ask r k ih => exact congrArg (Routine.ask r) (funext ih)
    exact hbind.trans attempt_holding_bind

namespace LedgerRuns

variable {replies : Replies} {p : Routine α} {t : List Exchange} {res : Except Fault α}

/-- What else is in the memory does not matter to a run on the ledger. -/
theorem of_runs {m m₁ m' : Memory} (h : Runs (.holding replies) p m t res m')
    (hm : m.ledger = m₁.ledger) :
    ∃ m'', m''.ledger = m'.ledger ∧ Runs (.holding replies) p m₁ t res m'' := by
  cases h with
  | done x => exact ⟨m₁, hm.symm, .done x m₁⟩
  | fault f => exact ⟨m₁, hm.symm, .fault f m₁⟩
  | ask hothers hserved hrest =>
    exact ⟨m', rfl, .ask (Eq.trans hothers hm) hserved hrest⟩

theorem cons {r : Request} {k : r.Answer → Routine α} {m m' : Memory} {a : r.Answer}
    {t₁ : List Exchange} {g' : Ledger} (hserved : r.Served replies m t₁ a m')
    (h : LedgerRuns replies (k a) m'.ledger t res g') :
    LedgerRuns replies (.ask r k) m.ledger (t₁ ++ t) res g' := by
  obtain ⟨m₁, m₂, hm₁, rfl, hrun⟩ := h
  obtain ⟨m₃, hm₃, hrun⟩ := of_runs hrun hm₁
  exact ⟨m, m₃, rfl, hm₃, .ask rfl hserved hrun⟩

end LedgerRuns

end Routine

/-- Work on the ledger: the ledger before and after it, the calls it made, and how it ended. -/
structure Work (β : Type) where
  since : Ledger
  calls : List Exchange
  result : Except Fault β
  after : Ledger

namespace Work

variable {β : Type}

def deeds (w : Work β) : List Deed :=
  .locked w.since :: w.calls.map .called ++ [.unlocked w.after]

/-- The work was that of the routine, to its end or to its fault. -/
def Does (w : Work β) (body : Routine β) : Prop :=
  body.LedgerRuns .any w.since w.calls w.result w.after

end Work

open Routine

/-- How far a task is in its section. `before` is what it did before, and `now` the ledger as it
stands. Within the section, whatever its work still comes to, the work as a whole comes to. -/
inductive InSection {β : Type} (body : Routine β) (next : Except Fault β → Routine Bool)
    (before : List Deed) (now : Ledger) : Routine Bool → List Lock → List Deed → Prop where
  | entering : InSection body next before now (guarded next body) [] before
  | within {rest : Routine β} {above : List Lock} {g : Ledger} {calls : List Exchange} :
      rest.Keeps [.ledger] above → .ledger ∉ above →
      (∀ t res g', rest.LedgerRuns .any now t res g' → body.LedgerRuns .any g (calls ++ t) res g') →
      InSection body next before now (inside next rest) (above ++ [.ledger])
        (before ++ .locked g :: calls.map .called)

section Passing

variable {β : Type} {body rest : Routine β} {next : Except Fault β → Routine Bool}
  {before : List Deed} {σ τ : Service} {who : Lasting} {r : Request} {a : r.Answer}
  {k : r.Answer → Routine β} {above : List Lock} {g : Ledger} {calls : List Exchange}

/-- One request within a section. -/
theorem InSection.answered (hkeeps : (Routine.ask r k).Keeps [.ledger] above)
    (habove : .ledger ∉ above)
    (hruns : ∀ t res g', (Routine.ask r k).LedgerRuns .any σ.memory.ledger t res g' →
      body.LedgerRuns .any g (calls ++ t) res g')
    (hheld : (σ.stations who).held = above ++ [.ledger])
    (hdeeds : (σ.stations who).deeds = before ++ .locked g :: calls.map .called)
    (ha : σ.Answers who r a τ) :
    InSection body next before τ.memory.ledger (inside next (k a)) (τ.stations who).held
      (τ.stations who).deeds := by
  have hrest : ∀ {m : Memory} {t₁ : List Exchange}, r.Served .any σ.memory t₁ a m →
      ∀ t res g', (k a).LedgerRuns .any m.ledger t res g' →
        body.LedgerRuns .any g (calls ++ (t₁ ++ t)) res g' :=
    fun hserved t res g' h => hruns _ res g' (LedgerRuns.cons hserved h)
  cases ha with
  | @call _ c reply =>
    rw [Service.seen, Service.stations_setStation, if_pos rfl, hheld, hdeeds, List.append_assoc]
    have hcalls : ∀ x : Exchange, Deed.locked g :: calls.map .called ++ [.called x] =
        .locked g :: (calls ++ [x]).map .called := by
      intro x
      rw [List.map_append]
      rfl
    rw [hcalls]
    refine .within (hkeeps reply) habove fun t res g' h => ?_
    rw [List.append_assoc]
    exact hrest ⟨trivial, rfl, rfl⟩ t res g' h
  | @update _ f =>
    rw [hheld, hdeeds]
    exact .within (hkeeps.2 _) habove (hrest ⟨rfl, rfl, rfl⟩)
  | @acquire _ l hfree =>
    -- the ledger itself is held already
    have hl : l ≠ .ledger := by
      rintro rfl
      exact Nat.lt_irrefl _ (hkeeps.1 .ledger (List.mem_append_right _ List.mem_cons_self))
    rw [Service.locking, Service.stations_setStation, if_pos rfl, if_neg hl, List.append_nil, hheld,
      hdeeds]
    exact .within hkeeps.2 (List.not_mem_cons_of_ne_of_not_mem hl.symm habove) (hrest ⟨rfl, rfl⟩)
  | @release _ l =>
    obtain ⟨rest, rfl, hkeeps⟩ := hkeeps
    obtain ⟨hl, hrest'⟩ := not_or.mp (mt List.mem_cons.mpr habove)
    rw [Service.unlocking, Service.stations_setStation, if_pos rfl, if_neg (Ne.symm hl),
      List.append_nil, hheld, hdeeds, List.cons_append, List.erase_cons_head]
    exact .within hkeeps hrest' (hrest ⟨rfl, rfl⟩)
  | spawn | abort | log =>
    rw [hheld, hdeeds]
    exact .within (hkeeps.2 _) habove (hrest ⟨rfl, rfl⟩)
  | join joined =>
    rw [hheld, hdeeds]
    exact .within (hkeeps.2 _) habove (hrest ⟨rfl, rfl⟩)
  | pause | stopped | nextChange | acknowledge => exact hkeeps.1.elim

/-- The ledger is given back, since the work has come to an end. -/
theorem InSection.left {res : Except Fault β} (habove : above = [])
    (hruns : body.LedgerRuns .any g calls res σ.memory.ledger)
    (hheld : (σ.stations who).held = above ++ [.ledger])
    (hdeeds : (σ.stations who).deeds = before ++ .locked g :: calls.map .called)
    (ha : σ.Answers who (.release .ledger) () τ) :
    ∃ w : Work β, w.Does body ∧ w.result = res ∧ (τ.stations who).held = [] ∧
      (τ.stations who).deeds = before ++ w.deeds := by
  cases ha
  rw [Service.unlocking, Service.stations_setStation, if_pos rfl, if_pos rfl, hheld, hdeeds, habove]
  exact ⟨⟨g, calls, res, σ.memory.ledger⟩, hruns, rfl, rfl, List.append_assoc _ _ _⟩

theorem InSection.served {k : r.Answer → Routine Bool} {held : List Lock} {deeds : List Deed}
    (hbody : Nested 1 body) (h : InSection body next before σ.memory.ledger (.ask r k) held deeds)
    (hheld : (σ.stations who).held = held) (hdeeds : (σ.stations who).deeds = deeds)
    (ha : σ.Answers who r a τ) :
    InSection body next before τ.memory.ledger (k a) (τ.stations who).held (τ.stations who).deeds ∨
    ∃ w : Work β, w.Does body ∧ k a = next w.result ∧ (τ.stations who).held = [] ∧
      (τ.stations who).deeds = before ++ w.deeds := by
  generalize hp : Routine.ask r k = p at h
  cases h with
  | entering =>
    cases hp
    cases ha with
    | acquire hfree =>
      have hkeeps : body.Keeps [.ledger] [] :=
        hbody.keeps fun l hl => List.mem_singleton.mp hl ▸ Nat.le_refl 1
      have hwithin : InSection body next before σ.memory.ledger (inside next body) ([] ++ [.ledger])
          (before ++ .locked σ.memory.ledger :: ([] : List Exchange).map .called) :=
        .within hkeeps List.not_mem_nil fun _ _ _ h => h
      rw [Service.locking, Service.stations_setStation, if_pos rfl, if_pos rfl, hheld, hdeeds]
      exact .inl hwithin
  | @within rest above g calls hkeeps habove hruns =>
    -- work that has come to an end is all the calls it has made
    have hend : ∀ {res : Except Fault β}, rest.LedgerRuns .any σ.memory.ledger [] res σ.memory.ledger →
        body.LedgerRuns .any g calls res σ.memory.ledger := by
      intro res hrest
      have h := hruns [] res σ.memory.ledger hrest
      rwa [List.append_nil] at h
    cases rest with
    | done x =>
      cases hp
      obtain ⟨w, hw, hres, hrest⟩ := left hkeeps (hend (LedgerRuns.pure_iff.mpr ⟨rfl, rfl, rfl⟩)) hheld
        hdeeds ha
      exact .inr ⟨w, hw, congrArg next hres.symm, hrest⟩
    | fault f =>
      cases hp
      obtain ⟨w, hw, hres, hrest⟩ := left hkeeps (hend (LedgerRuns.fault_iff.mpr ⟨rfl, rfl, rfl⟩)) hheld
        hdeeds ha
      exact .inr ⟨w, hw, congrArg next hres.symm, hrest⟩
    | ask r k =>
      cases hp
      exact .inl (.answered hkeeps habove hruns hheld hdeeds ha)

/-- In its section a task makes calls and requests that are answered at once, takes locks that it does not
hold, and gives back what it holds. -/
theorem InSection.request {now : Ledger} {k : r.Answer → Routine Bool} {held : List Lock}
    {deeds : List Deed} (h : InSection body next before now (.ask r k) held deeds) :
    r.Calm ∨ (∃ c, r = .call c) ∨ (∃ l, r = .release l) ∨ ∃ l, r = .acquire l ∧ l ∉ held := by
  generalize hp : Routine.ask r k = p at h
  cases h with
  | entering =>
    cases hp
    exact .inr (.inr (.inr ⟨.ledger, rfl, List.not_mem_nil⟩))
  | @within rest above g calls hkeeps habove hruns =>
    cases rest with
    | done x | fault f =>
      cases hp
      exact .inr (.inr (.inl ⟨.ledger, rfl⟩))
    | ask r k =>
      cases hp
      cases r with
      | acquire l => exact .inr (.inr (.inr ⟨l, rfl, fun hl => Nat.lt_irrefl _ (hkeeps.1 l hl)⟩))
      | release l => exact .inr (.inr (.inl ⟨l, rfl⟩))
      | call c => exact .inr (.inl ⟨c, rfl⟩)
      | _ => exact .inl hkeeps.1

/-- The request is answered, or it waits for a lock that another task holds. -/
def Service.MayGoOn (σ : Service) (who : Lasting) (r : Request) : Prop :=
  (∃ a τ, σ.Answers who r a τ) ∨ ∃ l, r = .acquire l ∧ l ∉ (σ.stations who).held ∧ ¬ σ.IsFree l

theorem InSection.mayGoOn {now : Ledger} {k : r.Answer → Routine Bool} {held : List Lock}
    {deeds : List Deed} (h : InSection body next before now (.ask r k) held deeds)
    (hheld : (σ.stations who).held = held) : σ.MayGoOn who r := by
  obtain hr | hr | hr | ⟨l, rfl, hl⟩ := h.request
  · exact .inl (Service.exists_answer who (.inl hr))
  · exact .inl (Service.exists_answer who (.inr (.inl hr)))
  · exact .inl (Service.exists_answer who (.inr (.inr hr)))
  · by_cases hfree : σ.IsFree l
    · exact .inl ⟨(), _, .acquire hfree⟩
    · exact .inr ⟨l, rfl, hheld ▸ hl, hfree⟩

end Passing

end SensorBridge
