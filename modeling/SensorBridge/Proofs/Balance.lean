import SensorBridge.Proofs.BrokerCalls
import SensorBridge.Connector.Tasks

/-!
What registers and unregisters keeps the calls to brokers in balance with the ledger. One lemma for
each way of putting routines together carries this from the single requests to whole operations.
-/
namespace SensorBridge

namespace Routine

variable {α β : Type} {replies : Replies} {urlOf : SessionId → String} {p : Routine α}

/-- The records of the routine keep the sessions where they belong, and the calls in balance. -/
def Upholds (replies : Replies) (urlOf : SessionId → String) (p : Routine α) : Prop :=
  ∀ (m : Memory) (es : List Moment) (res : Except Fault α) (m' : Memory),
    Records (.holding replies) p m es res m' → m.ledger.Rooted urlOf →
      m'.ledger.Rooted urlOf ∧
      Ledger.Balanced urlOf (fun q => es.countP (·.crosses q)) m.ledger (exchanges es) m'.ledger

theorem balanced_nil {g : Ledger} (hg : g.Rooted urlOf) :
    Ledger.Balanced urlOf (fun q => ([] : List Moment).countP (·.crosses q)) g [] g :=
  ⟨fun _ _ => rfl, fun _ _ => rfl, fun _ => rfl, fun _ => .nil hg.held_le_one⟩

theorem upholds_done {x : α} : Upholds replies urlOf (.done x) := by
  intro m es res m' h hg
  obtain ⟨rfl, -, rfl⟩ := records_done h
  exact ⟨hg, balanced_nil hg⟩

theorem upholds_fault {f : Fault} : Upholds replies urlOf (.fault f : Routine α) := by
  intro m es res m' h hg
  obtain ⟨rfl, -, rfl⟩ := records_fault h
  exact ⟨hg, balanced_nil hg⟩

theorem upholds_bind {f : α → Routine β} (hp : Upholds replies urlOf p)
    (hf : ∀ x, Upholds replies urlOf (f x)) : Upholds replies urlOf (p >>= f) := by
  intro m es res m' h hg
  obtain ⟨x, es₁, m₁, es₂, h₁, h₂, rfl⟩ | ⟨e, h₁, rfl⟩ := records_bind h
  · obtain ⟨hg₁, hb₁⟩ := hp _ _ _ _ h₁ hg
    obtain ⟨hg₂, hb₂⟩ := hf x _ _ _ _ h₂ hg₁
    simp only [List.countP_append, exchanges_append]
    exact ⟨hg₂, hb₁.append hb₂⟩
  · exact hp _ _ _ _ h₁ hg

theorem upholds_attempt (hp : Upholds replies urlOf p) : Upholds replies urlOf p.attempt := by
  intro m es res m' h hg
  obtain ⟨x, -, h⟩ := records_attempt h
  exact hp _ _ _ _ h hg

/-- A request that leaves the links as they are, with no call on a session. -/
theorem upholds_request {r : Request}
    (hr : ∀ m t a m', r.Served replies m t a m' → m'.ledger.links = m.ledger.links ∧
      (m.ledger.Tidy → m'.ledger.Tidy) ∧ ∀ x ∈ t, x.Aside) : Upholds replies urlOf (request r) := by
  intro m es res m' h hg
  obtain ⟨m₁, t, a, m₂, es', hothers, hserved, hrest, rfl⟩ := records_ask h
  obtain ⟨rfl, -, rfl⟩ := records_done hrest
  obtain ⟨hlinks, htidy, haside⟩ := hr _ _ _ _ hserved
  have hothers : m₁.ledger = m.ledger := hothers
  rw [← hothers] at hg ⊢
  have hcount (url topic : String) : m'.ledger.count url topic = m₁.ledger.count url topic := by
    simp only [Ledger.count, Ledger.link?, hlinks]
  have hnone {c : Exchange → Bool} (hc : ∀ x ∈ t, c x = false) : t.countP c = 0 :=
    List.countP_eq_zero.mpr fun x hx => by simp [hc x hx]
  rw [hserved.exchanges_eq]
  refine ⟨hg.of_links (htidy hg.tidy) fun l hl => .inl (hlinks ▸ hl), ?_⟩
  refine ⟨fun url topic => ?_, fun url topic => ?_, fun p => ?_, fun url => ?_⟩
  · rw [hnone fun x hx => (haside x hx _ topic).2.2.1]
    simp [Moment.crosses, Ledger.rises, hcount]
    omega
  · rw [hnone fun x hx => (haside x hx _ topic).2.2.2]
    simp [Moment.crosses, Ledger.falls, hcount]
    omega
  · rw [hnone fun x hx => (haside x hx p "").1, hnone fun x hx => (haside x hx p "").2.1,
      Ledger.held, Ledger.held, hlinks]
  · have hle : m₁.ledger.held (urlOf · == url) ≤ 1 := hg.held_le_one
    clear hserved hnone
    induction t with
    | nil => exact .nil hle
    | cons x t ih =>
      obtain ⟨hx, ht⟩ := List.forall_mem_cons.mp haside
      exact .other (hx _ "").1 (hx _ "").2.1 (ih ht)

theorem upholds_idle {r : Request} (hr : r.Idle) : Upholds replies urlOf (request r) := by
  refine upholds_request fun m t a m' h => ?_
  obtain ⟨rfl, rfl⟩ := hr replies m t a m' h
  exact ⟨rfl, id, by simp⟩

theorem upholds_update {f : Memory → Memory} (hl : ∀ m, (f m).ledger.links = m.ledger.links)
    (ht : ∀ m, m.ledger.Tidy → (f m).ledger.Tidy) : Upholds replies urlOf (update f) := by
  refine upholds_request (r := .update f) fun m t a m' h => ?_
  obtain ⟨rfl, rfl, rfl⟩ := h
  exact ⟨hl a, ht a, by simp⟩

theorem upholds_ledger : Upholds replies urlOf ledger :=
  upholds_bind (upholds_update (fun _ => rfl) fun _ => id) fun _ => upholds_done

theorem upholds_modifyLedger {f : Ledger → Ledger} (hl : ∀ g, (f g).links = g.links)
    (ht : ∀ g, g.Tidy → (f g).Tidy) : Upholds replies urlOf (modifyLedger f) :=
  upholds_bind (upholds_update (fun m => hl m.ledger) fun m => ht m.ledger) fun _ => upholds_done

theorem upholds_modifyCache {f : Cache → Cache} : Upholds replies urlOf (modifyCache f) :=
  upholds_bind (upholds_update (fun _ => rfl) fun _ => id) fun _ => upholds_done

theorem call_eq (c : Call) : call c = request (.call c) >>= fun
    | .ok reply => pure reply
    | .error f => fault f :=
  rfl

theorem upholds_enumerate {page perPage : Nat} :
    Upholds replies urlOf (call (.enumerate page perPage)) := by
  have haside : Upholds replies urlOf (request (.call (.enumerate page perPage))) := by
    refine upholds_request fun m t a m' h => ?_
    obtain ⟨-, rfl, rfl⟩ := h
    refine ⟨rfl, id, fun x hx => ?_⟩
    obtain rfl := List.mem_singleton.mp hx
    exact fun _ _ => ⟨rfl, rfl, rfl, rfl⟩
  rw [call_eq]
  refine upholds_bind haside fun a => ?_
  cases a with
  | ok reply => exact upholds_done
  | error f => exact upholds_fault

theorem upholds_holding {l : Lock} (hp : Upholds replies urlOf p) :
    Upholds replies urlOf (holding l p) := by
  refine upholds_bind (upholds_idle (Request.idle_acquire l)) fun _ => ?_
  refine upholds_bind (upholds_attempt hp) fun x => ?_
  cases x with
  | ok x => exact upholds_bind (upholds_idle (Request.idle_release l)) fun _ => upholds_done
  | error f => exact upholds_bind (upholds_idle (Request.idle_release l)) fun _ => upholds_fault

/-! ### The operations -/

variable {grace : Nat} {feed : Feed} {id : String}

theorem Records.ledgerRuns {m m' : Memory} {es : List Moment} {res : Except Fault α}
    (h : Records (.holding replies) p m es res m') :
    LedgerRuns replies p m.ledger (exchanges es) res m'.ledger :=
  ⟨m, m', rfl, rfl, h.runs⟩

theorem upholds_register (hr : replies.Faultless) (ha : replies.Addresses urlOf) :
    Upholds replies urlOf (register grace feed) := by
  intro m es res m' h hg
  have hreg := Ledger.registering_of_run h.ledgerRuns
  have hbalanced : Ledger.Balanced urlOf (Ledger.crossing m.ledger m'.ledger) m.ledger (exchanges es)
      m'.ledger := by
    by_cases hres : res = .ok (.ok ())
    · subst hres
      exact hreg.balanced_of_success hg ha
    · exact hreg.balanced_of_failure hres hg hr ha
  refine ⟨hreg.rooted hg ha, ?_⟩
  refine ⟨fun url topic => ?_, fun url topic => ?_, hbalanced.sessions, hbalanced.alternating⟩
  · rw [h.countP_of_writes_one writes_register Ledger.rises_self]
    exact hbalanced.subscribed url topic
  · rw [h.countP_of_writes_one writes_register Ledger.falls_self]
    exact hbalanced.unsubscribed url topic

section Crossings

variable {q : Ledger → Ledger → Bool} {m m' : Memory} {es : List Moment} {res : Except Fault α}

theorem Records.ledger_bind {k : Ledger → Routine α}
    (h : Records (.holding replies) (ledger >>= k) m es res m') (hq : ∀ g, q g g = false) :
    ∃ m₁ es₁, m₁.ledger = m.ledger ∧ Records (.holding replies) (k m.ledger) m₁ es₁ res m' ∧
      es.countP (·.crosses q) = es₁.countP (·.crosses q) := by
  obtain ⟨_, _, _, m₁, es₁, hothers, ⟨-, rfl, rfl⟩, hrest, rfl⟩ := records_ask h
  have hothers : m₁.ledger = m.ledger := hothers
  refine ⟨m₁, es₁, hothers, hothers ▸ hrest, ?_⟩
  rw [List.countP_cons, if_neg, Nat.add_zero]
  simp [Moment.crosses, hq]

theorem Records.modifyLedger_bind {f : Ledger → Ledger} {k : Unit → Routine α}
    (h : Records (.holding replies) (modifyLedger f >>= k) m es res m') :
    ∃ m₁ es₁, m₁.ledger = f m.ledger ∧ Records (.holding replies) (k ()) m₁ es₁ res m' ∧
      es.countP (·.crosses q) = m.ledger.crossing (f m.ledger) q + es₁.countP (·.crosses q) := by
  obtain ⟨m₁, t, a, m₂, es₁, hothers, ⟨-, rfl, rfl⟩, hrest, rfl⟩ := records_ask h
  have hothers : a.ledger = m.ledger := hothers
  refine ⟨_, es₁, congrArg f hothers, hrest, ?_⟩
  rw [List.countP_cons, Nat.add_comm, Ledger.crossing, ← hothers]
  rfl

end Crossings

/-- The receiver is taken off first. What follows is at most the end of a link without topics. -/
theorem Records.countP_of_unregister {q : Ledger → Ledger → Bool} {m m' : Memory}
    {es : List Moment} {res : Except Fault (Except ConnectorError Unit)}
    (h : Records (.holding replies) (unregister grace feed) m es res m') (hq : ∀ g, q g g = false) :
    ∃ g, (∀ url topic, g.count url topic = m'.ledger.count url topic) ∧
      es.countP (·.crosses q) = m.ledger.crossing g q + g.crossing m'.ledger q := by
  have hunreg := Ledger.unregistering_of_run h.ledgerRuns
  obtain ⟨m₁, es₁, hm₁, hrest, hcount⟩ := h.ledger_bind hq
  rw [hcount]
  have hlast (l : Link) (s : Subscription) (hl : m.ledger.link? feed.url = some l)
      (hs : l.find? feed.topic = some s) : es₁.countP (·.crosses q) =
        m.ledger.crossing (m.ledger.modify feed.url (·.decrement feed.topic)) q +
          (m.ledger.modify feed.url (·.decrement feed.topic)).crossing m'.ledger q := by
    simp only [hl, hs] at hrest
    obtain ⟨m₂, es₂, hm₂, hrest, hcount⟩ := hrest.modifyLedger_bind (q := q)
    rw [hm₁] at hm₂ hcount
    have hwrites : (if 1 < s.receivers then pure (.ok ())
        else unsubscribeLast grace l feed.topic).Writes 1 := by
      split
      · trivial
      · exact writes_unsubscribeLast
    rw [hcount, hrest.countP_of_writes_one hwrites hq, hm₂]
  generalize m.ledger = g at *
  generalize m'.ledger = g' at *
  generalize exchanges es = t at hunreg
  cases hunreg with
  | unknown hnone =>
    have hdone : es₁ = [] := by
      cases hl : g.link? feed.url with
      | none =>
        simp only [hl] at hrest
        exact (records_done hrest).1
      | some l =>
        rw [hl, Option.bind_some] at hnone
        simp only [hl, hnone] at hrest
        exact (records_done hrest).1
    have hself : g.crossing g q = 0 := if_neg (by simp [hq])
    exact ⟨_, fun _ _ => rfl, by rw [hdone, hself, List.countP_nil]⟩
  | counted hl hs => exact ⟨_, fun _ _ => rfl, hlast _ _ hl hs⟩
  | faulted hl hs => exact ⟨_, fun _ _ => rfl, hlast _ _ hl hs⟩
  | unsubscribed hl hs => exact ⟨_, fun _ _ => rfl, hlast _ _ hl hs⟩
  | closed hl hs hn hreply hempty =>
    refine ⟨_, fun url topic => ?_, hlast _ _ hl hs⟩
    rw [Ledger.count_erase]
    split
    · rename_i hu
      rw [hu, Ledger.count_modify (fun _ => Link.url_decrement) hl, if_pos rfl]
      simp [Link.count, Link.find?, hempty]
    · rfl

theorem upholds_unregister (hr : replies.Faultless) :
    Upholds replies urlOf (unregister grace feed) := by
  intro m es res m' h hg
  have hunreg := Ledger.unregistering_of_run h.ledgerRuns
  have hbalanced := hunreg.balanced hg hr
  refine ⟨hunreg.rooted hg, ?_⟩
  refine ⟨fun url topic => ?_, fun url topic => ?_, hbalanced.sessions, hbalanced.alternating⟩
  · obtain ⟨g, hsame, hcount⟩ := h.countP_of_unregister (q := Ledger.rises url topic) Ledger.rises_self
    rw [hcount, hbalanced.subscribed]
    simp [Ledger.crossing, Ledger.rises, hsame]
    omega
  · obtain ⟨g, hsame, hcount⟩ := h.countP_of_unregister (q := Ledger.falls url topic) Ledger.falls_self
    rw [hcount, hbalanced.unsubscribed]
    simp [Ledger.crossing, Ledger.falls, hsame]
    omega

theorem upholds_registerOrPostpone (hr : replies.Faultless) (ha : replies.Addresses urlOf) :
    Upholds replies urlOf (registerOrPostpone grace id feed) := by
  refine upholds_bind (upholds_register hr ha) fun x => ?_
  cases x with
  | ok u => exact upholds_done
  | error e =>
    exact upholds_bind (upholds_modifyLedger (fun _ => rfl) fun _ => Ledger.Tidy.postpone)
      fun _ => upholds_done

theorem upholds_leave {wasPending : Bool} {feed : Option Feed} (hr : replies.Faultless) :
    Upholds replies urlOf (leave grace wasPending feed) := by
  match wasPending, feed with
  | false, some feed => exact upholds_unregister hr
  | true, _ => exact upholds_done
  | false, none => exact upholds_done

theorem upholds_settle : Upholds replies urlOf (settle id) :=
  upholds_bind (upholds_update (fun _ => rfl) fun _ => Ledger.Tidy.settle) fun _ => upholds_done

theorem upholds_refreshCache {old new : Source} : Upholds replies urlOf (refreshCache old new) := by
  have hremove : Upholds replies urlOf
      (modifyCache (·.remove old.resource) >>= fun _ => modifyCache (·.remove new.resource)) :=
    upholds_bind upholds_modifyCache fun _ => upholds_modifyCache
  unfold refreshCache
  split
  · exact upholds_bind upholds_modifyCache fun _ => hremove
  · exact hremove

theorem upholds_applyChange {change : Change} (hr : replies.Faultless)
    (ha : replies.Addresses urlOf) : Upholds replies urlOf (applyChange grace change) := by
  cases change with
  | created s =>
    simp only [applyChange, applyCreated]
    cases s.feed with
    | none => exact upholds_done
    | some feed => exact upholds_registerOrPostpone hr ha
  | updated old new =>
    refine upholds_bind upholds_refreshCache fun _ => ?_
    split
    · exact upholds_done
    · refine upholds_bind upholds_settle fun _ => upholds_bind (upholds_leave hr) fun left => ?_
      cases new.feed with
      | none => exact upholds_done
      | some feed =>
        refine upholds_bind (upholds_registerOrPostpone hr ha) fun entered => ?_
        cases left <;> exact upholds_done
  | deleted s =>
    refine upholds_bind upholds_modifyCache fun _ => ?_
    exact upholds_bind upholds_settle fun _ => upholds_leave hr

theorem upholds_applyAndReport {change : Change} (hr : replies.Faultless)
    (ha : replies.Addresses urlOf) : Upholds replies urlOf (applyAndReport grace change) := by
  refine upholds_bind (upholds_attempt (upholds_holding (upholds_applyChange hr ha))) fun x => ?_
  match x with
  | .ok (.ok ()) => exact upholds_done
  | .ok (.error e) => exact upholds_done
  | .error f => exact upholds_done

theorem upholds_attemptEach {waiting : List (String × Feed)} (hr : replies.Faultless)
    (ha : replies.Addresses urlOf) : Upholds replies urlOf (attemptEach grace waiting) := by
  induction waiting with
  | nil => exact upholds_done
  | cons x rest ih =>
    refine upholds_bind (upholds_register hr ha) fun x => ?_
    cases x with
    | ok u =>
      exact upholds_bind (upholds_modifyLedger (fun _ => rfl) fun _ => Ledger.Tidy.settle) fun _ => ih
    | error e => exact ih

theorem upholds_sweep (hr : replies.Faultless) (ha : replies.Addresses urlOf) :
    Upholds replies urlOf (sweep grace) :=
  upholds_bind upholds_ledger fun _ => upholds_bind (upholds_attemptEach hr ha) fun _ =>
    upholds_bind upholds_ledger fun _ => upholds_done

theorem upholds_registerPage {sources : List Source} (hr : replies.Faultless)
    (ha : replies.Addresses urlOf) : Upholds replies urlOf (registerPage grace sources) := by
  induction sources with
  | nil => exact upholds_done
  | cons s rest ih =>
    unfold registerPage
    cases s.feed with
    | none => exact ih
    | some feed => exact upholds_bind (upholds_registerOrPostpone hr ha) fun _ => ih

theorem upholds_replayFrom {settings : ConnectorSettings} {fuel page : Nat}
    (hr : replies.Faultless) (ha : replies.Addresses urlOf) :
    Upholds replies urlOf (replayFrom settings fuel page) := by
  induction fuel generalizing page with
  | zero => exact upholds_done
  | succ fuel ih =>
    refine upholds_bind upholds_enumerate fun x => ?_
    match x with
    | .error e => exact upholds_done
    | .ok (sources, total) =>
      dsimp only
      split
      · exact upholds_done
      · refine upholds_bind (upholds_registerPage hr ha) fun _ => ?_
        split
        · exact upholds_done
        · exact ih

end Routine

end SensorBridge
