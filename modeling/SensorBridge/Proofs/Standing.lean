import SensorBridge.Proofs.Stages

/-!
What holds of a connector at work: how far each worker has come and what it may rely on. Each turn of
one worker leaves what the others rely on, because they hold the locks for it.
-/
namespace SensorBridge

open Routine

/-! ### What was said of a topic -/

/-- Whether a topic was unsubscribed and not registered again since. -/
def dropped (session : SessionId) (topic : String) : List Note → Bool
  | [] => false
  | x :: older => x.leaves session topic || (!x.enters session topic && dropped session topic older)

/-- No topic was subscribed that was dropped, unless it was registered. -/
def Orderly : List Note → Prop
  | [] => True
  | x :: older => (∀ session topic, x.asks session topic → x.enters session topic ∨
      dropped session topic older = false) ∧ Orderly older

section Notes

variable {session session' : SessionId} {topic : String} {qos : Qos} {role : Role} {c : Call}
  {i n : Nat} {older between : List Note} {x : Note}

theorem dropped_cons_of_other (hl : x.leaves session topic = false)
    (he : x.enters session topic = false) :
    dropped session topic (x :: older) = dropped session topic older := by
  simp [dropped, hl, he]

theorem dropped_answered {reply : c.Reply} :
    dropped session topic (.answered c n reply :: older) = dropped session topic older :=
  dropped_cons_of_other rfl rfl

/-- A call on another session does not matter. -/
theorem dropped_sent_of_ne (h : c.guarded? ≠ some session) :
    dropped session topic (.sent i role c n :: older) = dropped session topic older := by
  refine dropped_cons_of_other ?_ ?_
  · cases c with
    | unsubscribe s t =>
      have hs : s ≠ session := fun hs => h (congrArg some hs)
      simp [Note.leaves, hs]
    | _ => rfl
  · cases c with
    | subscribe s t q =>
      have hs : s ≠ session := fun hs => h (congrArg some hs)
      simp [Note.enters, hs]
    | _ => rfl

/-- Between a dropped topic and the end of that there is a registration. -/
theorem exists_enters (hx : x.leaves session topic = true)
    (h : dropped session topic (between ++ x :: older) = false) :
    ∃ y ∈ between, y.enters session topic := by
  induction between with
  | nil => simp [dropped, hx] at h
  | cons y between ih =>
    cases he : y.enters session topic with
    | true => exact ⟨y, List.mem_cons_self, he⟩
    | false =>
      rw [List.cons_append, dropped, he, Bool.not_false, Bool.true_and, Bool.or_eq_false_iff] at h
      obtain ⟨z, hz, hze⟩ := ih h.2
      exact ⟨z, List.mem_cons_of_mem _ hz, hze⟩

theorem Orderly.of_append {newer : List Note} (h : Orderly (newer ++ x :: older))
    (hx : x.asks session topic) :
    x.enters session topic ∨ dropped session topic older = false := by
  induction newer with
  | nil => exact h.1 session topic hx
  | cons y newer ih => exact ih h.2

end Notes

namespace Interplay

variable {σ σ' : Interplay} {i j n : Nat} {w : Worker} {session : SessionId} {topic : String}
  {qos : Qos} {topics : List String} {read : PayloadReaders}

/-- The topics that a worker has subscribed, in their order. -/
def asked (σ : Interplay) (i : Nat) : List String :=
  (σ.history.filterMap (·.askedBy i)).reverse

/-- A SUBSCRIBE on a connection of a session was granted. -/
def Granted (σ : Interplay) (session : SessionId) (topic : String) (n : Nat) : Prop :=
  ∃ x ∈ σ.history, x.grants session topic n

instance : Decidable (σ.Granted session topic n) :=
  inferInstanceAs (Decidable (∃ x ∈ σ.history, x.grants session topic n))

end Interplay

/-! ### What a worker may rely on -/

/-- What the one who has the grip holds is so. -/
def Grip.Held (σ : Interplay) (i : Nat) (w : Worker) : Grip → Prop
  | .free => True
  | .ledger g => σ.holder .ledger = some i ∧ σ.memory.ledger = g
  | .calling g session granted => σ.holder .ledger = some i ∧ σ.memory.ledger = g ∧
      σ.holder (.calls session) = some i ∧ ∀ topic, granted = some topic →
        dropped session topic σ.history = false ∧
        ∃ n, w.entering = some (session, topic, n) ∧ σ.Granted session topic n

/-- What a resubscription found is still so, unless the topic was taken off the table since. -/
structure Found (σ : Interplay) (w : Worker) (session : SessionId) (topic : String) (qos : Qos) :
    Prop where
  read : w.found.Lists session topic qos
  kept : dropped session topic σ.history = false
  current : ∀ qos', σ.memory.ledger.Lists session topic qos' → qos' = qos

/-- The stage of a resubscription, with the topics that it has yet to subscribe. -/
inductive Stage (σ : Interplay) (i : Nat) (w : Worker) (session : SessionId) : List String → Prop where
  | finished : w.rest = .done false → Stage σ i w session []
  | renewing {topic : String} {topics : List String} : w.rest = renewing session (topic :: topics) →
      Stage σ i w session (topic :: topics)
  | looking {topic : String} {topics : List String} : w.rest = looking session topic topics →
      σ.holder (.calls session) = some i → Stage σ i w session (topic :: topics)
  | subscribing {topic : String} {qos : Qos} {topics : List String} :
      w.rest = subscribing session topic qos topics → w.sent = none →
      σ.holder (.calls session) = some i → Found σ w session topic qos →
      Stage σ i w session (topic :: topics)
  | awaiting {topic : String} {qos : Qos} {topics : List String} {n : Nat} :
      w.rest = subscribing session topic qos topics → w.sent = some n →
      σ.holder (.calls session) = some i → Found σ w session topic qos → Stage σ i w session topics
  | yielding {topics : List String} : w.rest = yielding session topics →
      σ.holder (.calls session) = some i → Stage σ i w session topics

/-- Operations, and routers when they handle a message, keep to the rules of locks and calls. -/
def Role.Follows : Role → Prop
  | .operation _ => True
  | .job (.router ..) => True
  | .job _ => False

/-- The `i`-th worker has come so far. -/
inductive Standing (read : PayloadReaders) (σ : Interplay) (i : Nat) (w : Worker) : Prop where
  | following {γ : Grip} : w.role.Follows →
      w.rest.Safe w.role.registers γ (fun γ _ => γ = .free) → γ.Held σ i w →
      (∀ n, w.sent = some n → ∃ c k, w.rest = .ask (.call c) k ∧ ∀ session topic qos,
        c = .subscribe session topic qos → dropped session topic σ.history = false ∧
          w.entering = some (session, topic, n)) → Standing read σ i w
  | listening {url : String} {session : SessionId} : w.role = .job (.router url session) →
      w.rest = route read url session → Standing read σ i w
  | alerted {url : String} {session : SessionId} : w.role = .job (.router url session) →
      w.rest = alerted session → Standing read σ i w
  | heralding {url : String} {session : SessionId} {topics : List String} :
      w.role = .job (.router url session) → w.rest = heralding session topics → topics.Nodup →
      Standing read σ i w
  | resubscribing {session : SessionId} {topics todo : List String} :
      w.role = .job (.resubscribe session topics) → topics.Nodup →
      (σ.asked i ++ todo).Sublist topics → Stage σ i w session todo → Standing read σ i w

/-- What a turn of another worker leaves to the `j`-th one. -/
structure Spares (σ σ' : Interplay) (j : Nat) : Prop where
  holder : ∀ l, σ.holder l = some j → σ'.holder l = some j
  ledger : σ.holder .ledger = some j → σ'.memory.ledger = σ.memory.ledger
  tables : ∀ session topic qos, σ.holder (.calls session) = some j →
    σ'.memory.ledger.Lists session topic qos → σ.memory.ledger.Lists session topic qos
  kept : ∀ session topic, σ.holder (.calls session) = some j →
    dropped session topic σ.history = false → dropped session topic σ'.history = false
  history : ∀ x ∈ σ.history, x ∈ σ'.history
  asked : σ'.asked j = σ.asked j

structure Consistent (read : PayloadReaders) (σ : Interplay) : Prop where
  proper : σ.memory.Proper
  /-- A topic of a table is not one that was dropped. -/
  listed : ∀ session topic qos, σ.memory.ledger.Lists session topic qos →
    dropped session topic σ.history = false
  orderly : Orderly σ.history
  unborn : ∀ i, σ.workers.length ≤ i → σ.asked i = []
  workers : ∀ (i : Nat) (w : Worker), σ.workers[i]? = some w → Standing read σ i w

section Standing

variable {σ σ' : Interplay} {i j n : Nat} {w : Worker} {session : SessionId} {topic : String}
  {qos : Qos} {topics : List String} {read : PayloadReaders} {γ : Grip}

theorem Spares.of_same (hm : σ'.memory = σ.memory) (hl : σ'.holder = σ.holder)
    (hn : σ'.history = σ.history) : Spares σ σ' j where
  holder := fun l h => hl ▸ h
  ledger := fun _ => by rw [hm]
  tables := fun _ _ _ _ h => hm ▸ h
  kept := fun _ _ _ h => hn ▸ h
  history := fun _ h => hn ▸ h
  asked := by rw [Interplay.asked, hn, Interplay.asked]

theorem Spares.of_answered {c : Call} {reply : c.Reply} (hm : σ'.memory = σ.memory)
    (hl : σ'.holder = σ.holder) (hn : σ'.history = .answered c n reply :: σ.history) :
    Spares σ σ' j where
  holder := fun l h => hl ▸ h
  ledger := fun _ => by rw [hm]
  tables := fun _ _ _ _ h => hm ▸ h
  kept := fun _ _ _ h => by rw [hn, dropped_answered, h]
  history := fun x hx => hn ▸ List.mem_cons_of_mem _ hx
  asked := by rw [Interplay.asked, hn, Interplay.asked, List.filterMap_cons_none rfl]

theorem Spares.of_aside {c : Call} {role : Role} (hc : c.guarded? = none) (hm : σ'.memory = σ.memory)
    (hl : σ'.holder = σ.holder) (hn : σ'.history = .sent i role c n :: σ.history) :
    Spares σ σ' j where
  holder := fun l h => hl ▸ h
  ledger := fun _ => by rw [hm]
  tables := fun _ _ _ _ h => hm ▸ h
  kept := by
    intro session topic _ hkept
    have hother : c.guarded? ≠ some session := by simp [hc]
    rw [hn, dropped_sent_of_ne hother, hkept]
  history := fun x hx => hn ▸ List.mem_cons_of_mem _ hx
  asked := by
    have hnone : Note.askedBy j (.sent i role c n) = none := by
      cases c with
      | subscribe => cases hc
      | _ => rfl
    rw [Interplay.asked, hn, Interplay.asked, List.filterMap_cons_none hnone]

theorem Grip.Held.of_entering {w' : Worker} (h : γ.Held σ i w) (he : w'.entering = w.entering) :
    γ.Held σ i w' := by
  cases γ with
  | free => trivial
  | ledger g => exact h
  | calling g session granted =>
    obtain ⟨hholder, hledger, hcalls, hgranted⟩ := h
    exact ⟨hholder, hledger, hcalls, by rwa [he]⟩

theorem Grip.Held.spared (h : γ.Held σ j w) (hs : Spares σ σ' j) : γ.Held σ' j w := by
  cases γ with
  | free => trivial
  | ledger g =>
    obtain ⟨hholder, rfl⟩ := h
    exact ⟨hs.holder _ hholder, hs.ledger hholder⟩
  | calling g session granted =>
    obtain ⟨hholder, rfl, hcalls, hgranted⟩ := h
    refine ⟨hs.holder _ hholder, hs.ledger hholder, hs.holder _ hcalls, fun topic ht => ?_⟩
    obtain ⟨hkept, n, hentering, x, hx, hgrants⟩ := hgranted topic ht
    exact ⟨hs.kept _ _ hcalls hkept, n, hentering, x, hs.history x hx, hgrants⟩

/-- While nothing is granted, only the locks and the ledger matter. -/
theorem Grip.Held.of_ungranted {g : Ledger} {w' : Worker} (h : (Grip.calling g session none).Held σ i w)
    (hl : σ'.holder = σ.holder) (hm : σ'.memory = σ.memory) :
    (Grip.calling g session none).Held σ' i w' := by
  obtain ⟨hholder, hledger, hcalls, -⟩ := h
  exact ⟨hl ▸ hholder, hm ▸ hledger, hl ▸ hcalls, fun topic ht => by cases ht⟩

theorem Found.spared (h : Found σ w session topic qos) (hs : Spares σ σ' j)
    (hj : σ.holder (.calls session) = some j) : Found σ' w session topic qos where
  read := h.read
  kept := hs.kept _ _ hj h.kept
  current := fun _ hl => h.current _ (hs.tables _ _ _ hj hl)

theorem stage_of_renewing (h : w.rest = renewing session topics) : Stage σ i w session topics := by
  cases topics with
  | nil => exact .finished h
  | cons topic topics => exact .renewing h

theorem Stage.spared (h : Stage σ j w session topics) (hs : Spares σ σ' j) :
    Stage σ' j w session topics := by
  cases h with
  | finished hrest => exact .finished hrest
  | renewing hrest => exact .renewing hrest
  | looking hrest hj => exact .looking hrest (hs.holder _ hj)
  | subscribing hrest hsent hj hfound =>
    exact .subscribing hrest hsent (hs.holder _ hj) (hfound.spared hs hj)
  | awaiting hrest hsent hj hfound =>
    exact .awaiting hrest hsent (hs.holder _ hj) (hfound.spared hs hj)
  | yielding hrest hj => exact .yielding hrest (hs.holder _ hj)

/-- A SUBSCRIBE of an operation is made with the calls of the session in hand. -/
theorem holder_of_subscribe {may : String → Bool} {next : (Request.call
      (.subscribe session topic qos)).Answer → Grip → Prop} (hheld : γ.Held σ j w)
    (ha : γ.Admits may (.call (.subscribe session topic qos)) next) :
    σ.holder (.calls session) = some j := by
  obtain ⟨g, rfl, -⟩ := ha
  exact hheld.2.2.1

theorem Standing.spared (h : Standing read σ j w) (hs : Spares σ σ' j) : Standing read σ' j w := by
  cases h with
  | following hrole hsafe hheld hsent =>
    refine .following hrole hsafe (hheld.spared hs) fun n hn => ?_
    obtain ⟨c, k, hrest, hc⟩ := hsent n hn
    refine ⟨c, k, hrest, fun session topic qos heq => ?_⟩
    obtain ⟨hkept, hentering⟩ := hc session topic qos heq
    subst heq
    rw [hrest] at hsafe
    exact ⟨hs.kept _ _ (holder_of_subscribe hheld hsafe) hkept, hentering⟩
  | listening hrole hrest => exact .listening hrole hrest
  | alerted hrole hrest => exact .alerted hrole hrest
  | heralding hrole hrest hnodup => exact .heralding hrole hrest hnodup
  | resubscribing hrole hnodup hsub hstage =>
    exact .resubscribing hrole hnodup (hs.asked ▸ hsub) (hstage.spared hs)

end Standing

end SensorBridge
