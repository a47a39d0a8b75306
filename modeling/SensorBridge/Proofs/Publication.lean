import Mathlib.Logic.Relation
import SensorBridge.Catalog.Observed

/-!
A catalog that many clients change at once while observers come and go. Where one client comes after
the other, it runs like a catalog whose observers answer as laid down.
-/
namespace SensorBridge

theorem map_fst_broadcast (observers : List Observer) :
    (broadcast observers).1.map (·.1) = observers.map (·.notify.1) := by
  rw [broadcast, List.map_map, List.map_map]
  rfl

/-! ### Clients, observers and the lock between them -/

/-- What a client asks of the catalog. -/
inductive Mutation where
  | add (id : String) (s : Source)
  | update (id : String) (s : Source)
  | delete (id : String)
  deriving DecidableEq, Repr

def Mutation.apply (c : Catalog) : Mutation → Except CatalogError (Catalog × Change)
  | .add id s => c.add id s
  | .update id s => c.update id s
  | .delete id => c.delete id

/-- A change and the call that made it. -/
structure Notice where
  call : Nat
  change : Change
  deriving DecidableEq, Repr

/-- How far a notice has come with one observer. -/
inductive Delivery where
  | waiting
  /-- It is in the channel of the observer. -/
  | queued
  | taken
  | answered (result : Ack)
  deriving Repr

def Delivery.isOwed : Delivery → Bool
  | .waiting | .queued => true
  | .taken | .answered _ => false

/-- A registration of an observer. -/
structure Subscriber where
  isOpen : Bool
  /-- The data sources at its registration. -/
  start : List Source
  /-- The number of changes before its registration. -/
  since : Nat
  seen : List Notice := []
  deriving DecidableEq, Repr

def Subscriber.changes (o : Subscriber) : List Change :=
  o.seen.map (·.change)

inductive Phase where
  | waiting
  | inside
  | ended (result : Except CatalogError Unit)

structure ClientCall where
  mutation : Mutation
  phase : Phase := .waiting

/-- Who has the lock of the observers, and how far a delivery is. -/
inductive Guard where
  | free
  | held (call : Nat)
  | delivering (n : Notice) (deliveries : List Delivery)
  deriving Repr

namespace Guard

/-- What is yet to be taken by the `j`-th observer. -/
def owed (j : Nat) : Guard → List Notice
  | .delivering n ds => if (ds[j]?.any Delivery.isOwed) then [n] else []
  | .free | .held _ => []

def notice? : Guard → Option Notice
  | .delivering n _ => some n
  | .free | .held _ => none

end Guard

structure Publisher where
  catalog : Catalog := {}
  calls : List ClientCall := []
  observers : List Subscriber := []
  guard : Guard := .free
  /-- All changes made, in order. -/
  history : List Notice := []

namespace Publisher

def conclude (σ : Publisher) (i : Nat) (m : Mutation) (result : Except CatalogError Unit) : Publisher :=
  { σ with calls := σ.calls.set i ⟨m, .ended result⟩, guard := .free }

/-- One delivery comes further. -/
def advance (σ : Publisher) (n : Notice) (ds : List Delivery) (j : Nat) (d : Delivery) : Publisher :=
  { σ with guard := .delivering n (ds.set j d) }

/-- What can happen, in any order. An observer may close its channel at any time, and with it drop what
is queued there; one that has taken a notice answers it with whatever it likes. -/
inductive Step (σ : Publisher) : Publisher → Prop where
  | call (m : Mutation) : Step σ { σ with calls := σ.calls ++ [⟨m, .waiting⟩] }
  | acquire {i : Nat} {m : Mutation} : σ.guard = .free → σ.calls[i]? = some ⟨m, .waiting⟩ →
      Step σ { σ with calls := σ.calls.set i ⟨m, .inside⟩, guard := .held i }
  | refuse {i : Nat} {m : Mutation} {e : CatalogError} : σ.guard = .held i →
      σ.calls[i]? = some ⟨m, .inside⟩ → m.apply σ.catalog = .error e →
      Step σ (σ.conclude i m (.error e))
  | commit {i : Nat} {m : Mutation} {catalog : Catalog} {change : Change} : σ.guard = .held i →
      σ.calls[i]? = some ⟨m, .inside⟩ → m.apply σ.catalog = .ok (catalog, change) →
      Step σ { σ with catalog, history := σ.history ++ [⟨i, change⟩],
                      guard := .delivering ⟨i, change⟩ (σ.observers.map fun _ => .waiting) }
  | send {n : Notice} {ds : List Delivery} {j : Nat} {o : Subscriber} :
      σ.guard = .delivering n ds → ds[j]? = some .waiting → σ.observers[j]? = some o → o.isOpen →
      Step σ (σ.advance n ds j .queued)
  | skip {n : Notice} {ds : List Delivery} {j : Nat} {o : Subscriber} :
      σ.guard = .delivering n ds → ds[j]? = some .waiting → σ.observers[j]? = some o →
      o.isOpen = false → Step σ (σ.advance n ds j (.answered (.error .listenerClosed)))
  | take {n : Notice} {ds : List Delivery} {j : Nat} {o : Subscriber} :
      σ.guard = .delivering n ds → ds[j]? = some .queued → σ.observers[j]? = some o → o.isOpen →
      Step σ { σ.advance n ds j .taken with
        observers := σ.observers.set j { o with seen := o.seen ++ [n] } }
  | answer {n : Notice} {ds : List Delivery} {j : Nat} (result : Ack) :
      σ.guard = .delivering n ds → ds[j]? = some .taken → Step σ (σ.advance n ds j (.answered result))
  | lose {n : Notice} {ds : List Delivery} {j : Nat} {o : Subscriber} :
      σ.guard = .delivering n ds → ds[j]? = some .queued → σ.observers[j]? = some o →
      o.isOpen = false → Step σ (σ.advance n ds j (.answered (.error .ackLost)))
  | finish {n : Notice} {m : Mutation} (results : List Ack) :
      σ.guard = .delivering n (results.map .answered) → σ.calls[n.call]? = some ⟨m, .inside⟩ →
      Step σ (σ.conclude n.call m (Catalog.afterDelivery results))
  | register (isOpen : Bool) : σ.guard = .free →
      Step σ { σ with observers := σ.observers ++ [⟨isOpen, σ.catalog.entries, σ.history.length, []⟩] }
  | close {j : Nat} {o : Subscriber} : σ.observers[j]? = some o →
      Step σ { σ with observers := σ.observers.set j { o with isOpen := false } }

def Reachable (σ : Publisher) : Prop :=
  Relation.ReflTransGen Step {} σ

/-! ### One client after the other -/

/-- A catalog whose observers answer as laid down, and a publisher whose observers are open alike. -/
structure Alike (c : ObservedCatalog) (σ : Publisher) : Prop where
  catalog : σ.catalog = c.catalog
  observers : σ.observers.map (·.isOpen) = c.observers.map (!·.isClosed)
  guard : σ.guard = .free

section Alone

variable {σ σ' : Publisher} {n : Notice} {ds : List Delivery} {j : Nat}

/-- Nothing but the delivery and the observers changes. -/
structure Delivers (σ σ' : Publisher) (n : Notice) (ds : List Delivery) (listening : List Bool) : Prop where
  steps : Relation.ReflTransGen Step σ σ'
  guard : σ'.guard = .delivering n ds
  listening : σ'.observers.map (·.isOpen) = listening
  catalog : σ'.catalog = σ.catalog
  calls : σ'.calls = σ.calls
  history : σ'.history = σ.history

theorem set_of_getElem? {α : Type} {xs : List α} {x : α} (h : xs[j]? = some x) : xs.set j x = xs := by
  obtain ⟨hj, rfl⟩ := List.getElem?_eq_some_iff.mp h
  exact List.set_getElem_self hj

/-- An open observer takes the notice and answers. -/
theorem exists_answered {o : Subscriber} (result : Ack) (hguard : σ.guard = .delivering n ds)
    (hd : ds[j]? = some .waiting) (ho : σ.observers[j]? = some o) (hopen : o.isOpen) :
    ∃ σ', Delivers σ σ' n (ds.set j (.answered result)) (σ.observers.map (·.isOpen)) := by
  obtain ⟨hj, -⟩ := List.getElem?_eq_some_iff.mp hd
  have hqueued : (ds.set j .queued)[j]? = some .queued := List.getElem?_set_self hj
  have htaken : ((ds.set j .queued).set j .taken)[j]? = some .taken :=
    List.getElem?_set_self (by rwa [List.length_set])
  have hsend : Step σ _ := .send hguard hd ho hopen
  have htake : Step (σ.advance n ds j .queued) _ := .take rfl hqueued ho hopen
  refine ⟨_, ((Relation.ReflTransGen.single hsend).tail htake).tail (.answer result rfl htaken),
    ?_, ?_, rfl, rfl, rfl⟩
  · dsimp only [advance]
    rw [List.set_set, List.set_set]
  · dsimp only [advance]
    rw [List.map_set]
    exact set_of_getElem? (by rw [List.getElem?_map, ho]; rfl)

theorem exists_delivers_one (o : Observer) (hguard : σ.guard = .delivering n ds)
    (hd : ds[j]? = some .waiting) (ho : (σ.observers.map (·.isOpen))[j]? = some (!o.isClosed)) :
    ∃ σ', Delivers σ σ' n (ds.set j (.answered o.notify.1))
      ((σ.observers.map (·.isOpen)).set j (!o.notify.2.2.isClosed)) := by
  obtain ⟨o', ho', hopen⟩ : ∃ o', σ.observers[j]? = some o' ∧ o'.isOpen = !o.isClosed := by
    rw [List.getElem?_map] at ho
    exact Option.map_eq_some_iff.mp ho
  have hstays : o.isClosed = false → o.notify.2.2.isClosed = false →
      ∃ σ', Delivers σ σ' n (ds.set j (.answered o.notify.1))
        ((σ.observers.map (·.isOpen)).set j (!o.notify.2.2.isClosed)) := by
    intro hbefore hafter
    rw [hafter, ← hbefore, set_of_getElem? ho]
    exact exists_answered o.notify.1 hguard hd ho' (by rw [hopen, hbefore]; rfl)
  obtain ⟨answers⟩ := o
  match answers with
  | [] =>
    exact ⟨_, .single (.skip hguard hd ho' hopen), rfl, (set_of_getElem? ho).symm, rfl, rfl, rfl⟩
  | .close :: _ =>
    obtain ⟨τ, hsteps, hτ, hlistening, hcatalog, hcalls, hhistory⟩ :=
      exists_answered (.error .ackLost) hguard hd ho' hopen
    obtain ⟨o'', ho'', -⟩ : ∃ o'', τ.observers[j]? = some o'' ∧ _ :=
      Option.map_eq_some_iff.mp (by rw [← List.getElem?_map, hlistening]; exact ho)
    refine ⟨_, hsteps.tail (.close ho''), hτ, ?_, hcatalog, hcalls, hhistory⟩
    dsimp only
    rw [List.map_set, hlistening]
    rfl
  | [.ack _] | [.drop] | .ack _ :: _ :: _ | .drop :: _ :: _ => exact hstays rfl rfl

theorem exists_delivers_all {answered : List Ack} {listening : List Bool} {pending : List Observer}
    (hguard : σ.guard = .delivering n (answered.map .answered ++ pending.map fun _ => .waiting))
    (hlength : listening.length = answered.length)
    (hlistening : σ.observers.map (·.isOpen) = listening ++ pending.map (!·.isClosed)) :
    ∃ σ', Delivers σ σ' n ((answered ++ pending.map (·.notify.1)).map .answered)
      (listening ++ pending.map fun o => !o.notify.2.2.isClosed) := by
  induction pending generalizing σ answered listening with
  | nil =>
    refine ⟨σ, .refl, ?_, hlistening, rfl, rfl, rfl⟩
    rw [hguard, List.map_nil, List.map_nil, List.append_nil, List.append_nil]
  | cons o rest ih =>
    obtain ⟨τ, hfirst⟩ := exists_delivers_one (j := answered.length) o hguard
      (by simp) (by simp [hlistening, ← hlength])
    have hset : ∀ {α : Type} {xs ys : List α} {x y : α} {k : Nat}, xs.length = k →
        (xs ++ x :: ys).set k y = xs ++ [y] ++ ys := by
      intro α xs ys x y k hk
      rw [List.set_append_right _ _ (Nat.le_of_eq hk), hk, Nat.sub_self, List.append_assoc]
      rfl
    have hτ : τ.guard = .delivering n
        ((answered ++ [o.notify.1]).map .answered ++ rest.map fun _ => .waiting) := by
      rw [hfirst.guard, List.map_cons, hset (List.length_map _), List.map_append]
      rfl
    have hτl : τ.observers.map (·.isOpen) =
        listening ++ [!o.notify.2.2.isClosed] ++ rest.map (!·.isClosed) := by
      rw [hfirst.listening, hlistening, List.map_cons, hset hlength]
    have hlength' : (listening ++ [!o.notify.2.2.isClosed]).length = (answered ++ [o.notify.1]).length := by
      rw [List.length_append, List.length_append, hlength]
      rfl
    obtain ⟨σ', hrest⟩ := ih hτ hlength' hτl
    refine ⟨σ', hfirst.steps.trans hrest.steps, ?_, ?_, hrest.catalog.trans hfirst.catalog,
      hrest.calls.trans hfirst.calls, hrest.history.trans hfirst.history⟩
    · rw [hrest.guard, List.map_cons, List.append_assoc]
      rfl
    · rw [hrest.listening, List.map_cons, List.append_assoc]
      rfl

/-- A call got the lock at once. -/
def entered (σ : Publisher) (m : Mutation) : Publisher :=
  { σ with calls := σ.calls ++ [⟨m, .inside⟩], guard := .held σ.calls.length }

/-- A call that got the lock at once made a change. -/
def changed (σ : Publisher) (m : Mutation) (catalog : Catalog) (change : Change) : Publisher :=
  { σ.entered m with
    catalog
    history := σ.history ++ [⟨σ.calls.length, change⟩]
    guard := .delivering ⟨σ.calls.length, change⟩ (σ.observers.map fun _ => .waiting) }

theorem getElem?_length {α : Type} {xs : List α} {x : α} : (xs ++ [x])[xs.length]? = some x := by
  rw [List.getElem?_append_right (Nat.le_refl _), Nat.sub_self]
  rfl

theorem set_length {α : Type} {xs : List α} {x y : α} : (xs ++ [x]).set xs.length y = xs ++ [y] := by
  rw [List.set_append_right _ _ (Nat.le_refl _), Nat.sub_self]
  rfl

theorem steps_entered {m : Mutation} (hguard : σ.guard = .free) :
    Relation.ReflTransGen Step σ (σ.entered m) := by
  have hacquire : Step { σ with calls := σ.calls ++ [⟨m, .waiting⟩] } _ :=
    .acquire hguard getElem?_length
  rw [set_length] at hacquire
  exact (Relation.ReflTransGen.single (.call m)).tail hacquire

theorem observers_commit {c : ObservedCatalog} {catalog : Catalog} {change : Change} :
    (c.commit () catalog change).2.observers = c.observers.map (·.notify.2.2) :=
  List.map_map

theorem result_commit {c : ObservedCatalog} {catalog : Catalog} {change : Change} :
    (c.commit () catalog change).1.result = Catalog.afterDelivery (c.observers.map (·.notify.1)) := by
  rw [← map_fst_broadcast]
  change Except.map (fun _ => ()) (Catalog.afterDelivery ((broadcast c.observers).1.map (·.1))) = _
  cases Catalog.afterDelivery ((broadcast c.observers).1.map (·.1)) <;> rfl

/-- A mutation that the catalog takes, made while no other call is there: the client gets the same
result, and the history has the same change. -/
theorem exists_run_commit {c : ObservedCatalog} {m : Mutation} {catalog : Catalog} {change : Change}
    (h : Alike c σ) (happly : m.apply c.catalog = .ok (catalog, change)) :
    ∃ σ', Relation.ReflTransGen Step σ σ' ∧ Alike (c.commit () catalog change).2 σ' ∧
      σ'.calls = σ.calls ++ [⟨m, .ended (c.commit () catalog change).1.result⟩] ∧
      σ'.history = σ.history ++ [⟨σ.calls.length, change⟩] := by
  have hcommit : Step (σ.entered m) (σ.changed m catalog change) :=
    .commit rfl getElem?_length (by rwa [entered, h.catalog])
  have hlength : σ.observers.length = c.observers.length := by
    simpa using congrArg List.length h.observers
  have hguard : (σ.changed m catalog change).guard = .delivering ⟨σ.calls.length, change⟩
      (([] : List Ack).map .answered ++ c.observers.map fun _ => .waiting) := by
    rw [changed, List.map_const', hlength, List.map_nil, List.nil_append, List.map_const']
  obtain ⟨τ, hτ⟩ := exists_delivers_all hguard (by rfl) (h.observers.trans (List.nil_append _).symm)
  have hfinish : Step τ _ := .finish _ hτ.guard (by rw [hτ.calls]; exact getElem?_length)
  refine ⟨_, (((steps_entered h.guard).tail hcommit).trans hτ.steps).tail hfinish,
    ⟨hτ.catalog, ?_, rfl⟩, ?_, hτ.history⟩
  · rw [observers_commit, List.map_map]
    exact hτ.listening
  · rw [result_commit, conclude, hτ.calls]
    exact set_length

/-- A mutation that the catalog refuses. -/
theorem exists_run_refuse {c : ObservedCatalog} {m : Mutation} {e : CatalogError}
    (h : Alike c σ) (happly : m.apply c.catalog = .error e) :
    ∃ σ', Relation.ReflTransGen Step σ σ' ∧ Alike c σ' ∧
      σ'.calls = σ.calls ++ [⟨m, .ended (.error e)⟩] ∧ σ'.history = σ.history := by
  have hrefuse : Step (σ.entered m) _ := .refuse rfl getElem?_length (by rwa [entered, h.catalog])
  exact ⟨_, (steps_entered h.guard).tail hrefuse, ⟨h.catalog, h.observers, rfl⟩, set_length, rfl⟩

end Alone

end Publisher

end SensorBridge
