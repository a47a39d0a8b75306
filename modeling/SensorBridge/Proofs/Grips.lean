import SensorBridge.Proofs.Interplay
import SensorBridge.Proofs.Listings

/-!
The rules by which operations take locks and make calls. A topic is subscribed and unsubscribed only
by one who holds the calls of the session, and only when it is not tracked; it is tracked only after
the broker has granted it. One lemma for each way of putting routines together
carries this from the single requests to whole operations.
-/
namespace SensorBridge

/-- What an operation holds: nothing, the ledger, or also the calls of a session. Then it may have been
granted a topic, which it has not given back. -/
inductive Grip where
  | free
  | ledger (g : Ledger)
  | calling (g : Ledger) (session : SessionId) (granted : Option String)

namespace Grip

/-- One who holds the ledger knows it. -/
def Knows : Grip → Ledger → Prop
  | free, _ => True
  | ledger g, g' => g' = g
  | calling g _ _, g' => g' = g

/-- After the ledger was changed. -/
def become (g : Ledger) : Grip → Grip
  | free => free
  | ledger _ => ledger g
  | calling _ session granted => calling g session granted

/-- Whether a request is within the rules, so that what is to hold next does so after every answer. A
topic that is registered is one of those that may be. -/
def Admits (may : String → Bool) (γ : Grip) : (r : Request) → (r.Answer → Grip → Prop) → Prop
  | .update f, next => ∀ m : Memory, m.Proper → γ.Knows m.ledger → (f m).Proper ∧
      (∀ session topic qos, (f m).ledger.Lists session topic qos →
        m.ledger.Lists session topic qos ∨ γ = calling m.ledger session (some topic)) ∧
      (γ = free → (f m).ledger = m.ledger) ∧ next m (γ.become (f m).ledger)
  | .acquire .ledger, next => γ = free ∧ ∀ g : Ledger, g.Sound → next () (ledger g)
  | .acquire (.calls session), next => ∃ g, γ = ledger g ∧ next () (calling g session none)
  | .release .ledger, next => (∃ g, γ = ledger g) ∧ next () free
  | .release (.calls session), next =>
      ∃ g granted, γ = calling g session granted ∧ next () (ledger g)
  | .call (.connect _), next => ∃ g, γ = ledger g ∧ ∀ reply,
      (∀ session, reply = .ok session → ∀ l ∈ g.links, l.session ≠ session) → next (.ok reply) γ
  | .call (.subscribe session topic _), next => ∃ g, γ = calling g session none ∧ may topic ∧
      (∀ qos, ¬ g.Lists session topic qos) ∧
      ∀ reply, next (.ok reply) (calling g session (if reply.isOk then some topic else none))
  | .call (.unsubscribe session topic), next => ∃ g, γ = calling g session none ∧
      (∀ qos, ¬ g.Lists session topic qos) ∧ ∀ reply, next (.ok reply) γ
  | .call _, next => ∀ reply, next (.ok reply) γ
  | .spawn job, next => (∃ url session, job = .router url session) ∧ next () γ
  | .nextEvent _, _ => False
  | _, next => ∀ a, next a γ

theorem Admits.mono {may : String → Bool} {γ : Grip} {r : Request} {next next' : r.Answer → Grip → Prop}
    (h : γ.Admits may r next) (hn : ∀ a γ, next a γ → next' a γ) : γ.Admits may r next' := by
  cases r with
  | update f =>
    intro m hm hγ
    obtain ⟨hproper, hlists, hfree, hnext⟩ := h m hm hγ
    exact ⟨hproper, hlists, hfree, hn _ _ hnext⟩
  | acquire l =>
    cases l with
    | ledger => exact ⟨h.1, fun g hg => hn _ _ (h.2 g hg)⟩
    | calls session =>
      obtain ⟨g, hγ, hnext⟩ := h
      exact ⟨g, hγ, hn _ _ hnext⟩
  | release l =>
    cases l with
    | ledger => exact ⟨h.1, hn _ _ h.2⟩
    | calls session =>
      obtain ⟨g, granted, hγ, hnext⟩ := h
      exact ⟨g, granted, hγ, hn _ _ hnext⟩
  | call c =>
    cases c with
    | connect feed =>
      obtain ⟨g, hγ, hnext⟩ := h
      exact ⟨g, hγ, fun reply hr => hn _ _ (hnext reply hr)⟩
    | subscribe session topic qos =>
      obtain ⟨g, hγ, hm, hl, hnext⟩ := h
      exact ⟨g, hγ, hm, hl, fun reply => hn _ _ (hnext reply)⟩
    | unsubscribe session topic =>
      obtain ⟨g, hγ, hl, hnext⟩ := h
      exact ⟨g, hγ, hl, fun reply => hn _ _ (hnext reply)⟩
    | _ => exact fun reply => hn _ _ (h reply)
  | spawn job => exact ⟨h.1, hn _ _ h.2⟩
  | nextEvent session => exact h
  | _ => exact fun a => hn _ _ (h a)

end Grip

namespace Routine

variable {α β : Type} {may : String → Bool} {γ : Grip} {g : Ledger} {p : Routine α}
  {post : Grip → α → Prop}

/-- The routine keeps to the rules, whatever the answers, does not fault, and ends as it should. -/
def Safe (may : String → Bool) : Routine α → Grip → (Grip → α → Prop) → Prop
  | .done x, γ, post => post γ x
  | .fault _, _, _ => False
  | .ask r k, γ, post => γ.Admits may r fun a γ => (k a).Safe may γ post

theorem safe_mono {post' : Grip → α → Prop} (h : p.Safe may γ post)
    (hpost : ∀ γ x, post γ x → post' γ x) : p.Safe may γ post' := by
  induction p generalizing γ with
  | done x => exact hpost γ x h
  | fault f => exact h
  | ask r k ih => exact Grip.Admits.mono h fun a γ hk => ih a hk

theorem safe_bind {f : α → Routine β} {post : Grip → β → Prop}
    (h : p.Safe may γ fun γ x => (f x).Safe may γ post) : (p >>= f).Safe may γ post := by
  induction p generalizing γ with
  | done x => exact h
  | fault f => exact h
  | ask r k ih => exact Grip.Admits.mono h fun a γ hk => ih a hk

theorem safe_attempt {post : Grip → Except Fault α → Prop}
    (h : p.Safe may γ fun γ x => post γ (.ok x)) : p.attempt.Safe may γ post := by
  induction p generalizing γ with
  | done x => exact h
  | fault f => exact h.elim
  | ask r k ih => exact Grip.Admits.mono h fun a γ hk => ih a hk

theorem safe_onFault {cleanup : Routine Unit} (h : p.Safe may γ post) :
    (onFault p cleanup).Safe may γ post :=
  safe_bind (safe_attempt h)

theorem safe_request_bind {r : Request} {f : r.Answer → Routine α}
    (h : γ.Admits may r fun a γ => (f a).Safe may γ post) : (request r >>= f).Safe may γ post :=
  h

theorem safe_call {c : Call} {post : Grip → c.Reply → Prop}
    (h : γ.Admits may (.call c) fun a γ => ∃ x, a = .ok x ∧ post γ x) :
    (call c).Safe may γ post := by
  refine Grip.Admits.mono h fun a γ ha => ?_
  obtain ⟨x, rfl, hx⟩ := ha
  exact hx

/-- Within the ledger, a session's calls are taken and given back. -/
theorem safe_holding_calls {session : SessionId}
    (h : p.Safe may (.calling g session none) fun γ x =>
      ∃ g granted, γ = .calling g session granted ∧ post (.ledger g) x) :
    (holding (.calls session) p).Safe may (.ledger g) post := by
  refine safe_request_bind ⟨g, rfl, safe_bind (safe_attempt (safe_mono h fun γ x hx => ?_))⟩
  obtain ⟨g, granted, rfl, hx⟩ := hx
  exact ⟨g, granted, rfl, hx⟩

theorem safe_modifyLedger {f : Ledger → Ledger} {post : Grip → Unit → Prop}
    (hγ : ∀ g', γ.Knows g' → g' = g) (hfree : γ ≠ .free) (hs : (f g).Sound)
    (hl : ∀ session topic qos, (f g).Lists session topic qos →
      g.Lists session topic qos ∨ γ = .calling g session (some topic))
    (hp : post (γ.become (f g)) ()) : (modifyLedger f).Safe may γ post := by
  intro m hm hknows
  obtain rfl := hγ _ hknows
  exact ⟨⟨hs, hm.retired⟩, hl, fun h => absurd h hfree, hp⟩

/-- Begun with the ledger, the routine keeps to the rules and still has it in the end. -/
def Heeds (may : String → Bool) (p : Routine α) : Prop :=
  ∀ g : Ledger, g.Sound → p.Safe may (.ledger g) fun γ _ => ∃ g : Ledger, g.Sound ∧ γ = .ledger g

theorem heeds_done {x : α} : Heeds may (.done x) :=
  fun g hg => ⟨g, hg, rfl⟩

theorem heeds_bind {f : α → Routine β} (hp : Heeds may p) (hf : ∀ x, Heeds may (f x)) :
    Heeds may (p >>= f) := by
  intro g hg
  refine safe_bind (safe_mono (hp g hg) fun γ x hγ => ?_)
  obtain ⟨g', hg', rfl⟩ := hγ
  exact hf x g' hg'

theorem heeds_onFault {cleanup : Routine Unit} (hp : Heeds may p) : Heeds may (onFault p cleanup) :=
  fun g hg => safe_onFault (hp g hg)

theorem heeds_update {f : Memory → Memory} (hr : ∀ m, (f m).retired = m.retired)
    (hl : ∀ m, (f m).ledger.links = m.ledger.links) (ht : ∀ m, m.ledger.Tidy → (f m).ledger.Tidy) :
    Heeds may (update f) := by
  intro g hg m hm hknows
  obtain rfl : m.ledger = g := hknows
  have hsound : (f m).ledger.Sound := hg.of_links (ht m hg.toTidy) (hl m)
  refine ⟨⟨hsound, (hr m).trans hm.retired⟩, fun session topic qos h => ?_, nofun, _, hsound, rfl⟩
  exact .inl ((Ledger.lists_of_links (hl m)).mp h)

theorem heeds_modifyLedger {f : Ledger → Ledger} (hl : ∀ g, (f g).links = g.links)
    (ht : ∀ g, g.Tidy → (f g).Tidy) : Heeds may (modifyLedger f) :=
  heeds_bind (heeds_update (fun _ => rfl) (fun m => hl m.ledger) fun m => ht m.ledger)
    fun _ => heeds_done

theorem heeds_modifyCache {f : Cache → Cache} : Heeds may (modifyCache f) :=
  heeds_bind (heeds_update (fun _ => rfl) (fun _ => rfl) fun _ => id) fun _ => heeds_done

theorem heeds_ledger : Heeds may ledger :=
  heeds_bind (heeds_update (fun _ => rfl) (fun _ => rfl) fun _ => id) fun _ => heeds_done

/-- One who holds the ledger reads what it knows. -/
theorem safe_ledger_bind {f : Ledger → Routine α} (hg : g.Sound) (h : (f g).Safe may (.ledger g) post) :
    (Routine.ledger >>= f).Safe may (.ledger g) post := by
  intro m hm hknows
  obtain rfl : m.ledger = g := hknows
  exact ⟨hm, fun _ _ _ => .inl, nofun, h⟩

/-! ### Registrations -/

variable {grace : Nat} {feed : Feed} {session : SessionId} {topic id : String} {qos : Qos} {l : Link}

theorem heeds_closeLink : Heeds may (closeLink grace l) := by
  have hdisconnect : Heeds may (call (.disconnect l.session grace)) := by
    intro g hg
    exact safe_call fun reply => ⟨reply, rfl, g, hg, rfl⟩
  have habort : Heeds may (request (.abort (.router l.url l.session))) := fun g hg _ => ⟨g, hg, rfl⟩
  refine heeds_bind (heeds_onFault hdisconnect) fun result => ?_
  have hjoin : Heeds may (request (.join (.router l.url l.session) (some grace))) :=
    fun g hg _ => ⟨g, hg, rfl⟩
  refine heeds_bind hjoin fun x => ?_
  cases x with
  | late => exact heeds_bind habort fun _ => heeds_done
  | done | faulted f => exact heeds_done

theorem safe_subscribe {track : Ledger → Ledger} (hg : g.Sound) (hmay : may topic)
    (hnot : ∀ qos, ¬ g.Lists session topic qos) (hs : (track g).Sound) (hl : ∀ s t q, (track g).Lists s t q →
      g.Lists s t q ∨ (s = session ∧ t = topic)) :
    (subscribe session topic qos track).Safe may (.ledger g) fun γ _ =>
      ∃ g : Ledger, g.Sound ∧ γ = .ledger g := by
  refine safe_holding_calls (safe_bind (safe_call ?_))
  refine ⟨g, rfl, hmay, hnot, fun reply => ⟨reply, rfl, ?_⟩⟩
  cases reply with
  | error e => exact ⟨g, none, rfl, g, hg, rfl⟩
  | ok u =>
    refine safe_bind (safe_modifyLedger (fun _ => id) nofun hs (fun s t q h => ?_) ?_)
    · obtain h | ⟨rfl, rfl⟩ := hl s t q h
      · exact .inl h
      · exact .inr rfl
    · exact ⟨track g, some topic, rfl, track g, hs, rfl⟩

theorem heeds_openLink (hmay : may feed.topic) : Heeds may (openLink grace feed qos) := by
  intro g hg
  refine safe_bind (safe_call ⟨g, rfl, fun reply hfresh => ⟨reply, rfl, ?_⟩⟩)
  cases reply with
  | error e => exact ⟨g, hg, rfl⟩
  | ok session =>
    refine safe_request_bind ⟨⟨_, _, rfl⟩, safe_bind (safe_onFault ?_)⟩
    let l : Link := { url := feed.url, session }
    have hsound : (g.insert (l.track feed.topic qos)).Sound := by
      refine hg.insert (Link.tidy_track ⟨List.nodup_nil, by simp [l]⟩) fun l' hl' => ?_
      exact hfresh session rfl l' hl'
    have hlists (s : SessionId) (t : String) (q : Qos)
        (h : (g.insert (l.track feed.topic qos)).Lists s t q) :
        g.Lists s t q ∨ (s = session ∧ t = feed.topic) := by
      obtain h | ⟨hs, ht⟩ := Ledger.lists_of_insert h
      · exact .inl h
      · rw [Link.find?_track] at ht
        split at ht
        · rename_i heq
          exact .inr ⟨hs.symm, heq⟩
        · exact absurd rfl ht
    have hnot (q : Qos) : ¬ g.Lists session feed.topic q := by
      rintro ⟨l', hl', hs, -⟩
      exact hfresh session rfl l' hl' hs
    refine safe_mono (safe_subscribe hg hmay hnot hsound hlists) fun γ x hγ => ?_
    obtain ⟨g, hg, rfl⟩ := hγ
    cases x with
    | error e => exact heeds_bind heeds_closeLink (fun _ => heeds_done) g hg
    | ok u => exact ⟨g, hg, rfl⟩

theorem heeds_register (hmay : may feed.topic) : Heeds may (register grace feed) := by
  intro g hg
  unfold register
  cases checkFeed feed with
  | error e => exact ⟨g, hg, rfl⟩
  | ok qos =>
    refine safe_ledger_bind hg ?_
    cases hlink : g.link? feed.url with
    | none => exact heeds_openLink hmay g hg
    | some l =>
      obtain ⟨hl, hurl⟩ := Ledger.mem_of_link? hlink
      dsimp only
      cases hfind : l.find? feed.topic with
      | some s =>
        have hsound : (g.modify feed.url (·.increment feed.topic)).Sound :=
          hg.modify (fun _ => rfl) (fun _ => rfl) fun _ => Link.tidy_increment
        refine safe_bind (safe_modifyLedger (fun _ => id) nofun hsound (fun s t q h => ?_) ?_)
        · exact .inl (Ledger.lists_of_increment h)
        · exact ⟨_, hsound, rfl⟩
      | none =>
        refine safe_subscribe hg hmay (fun q => hg.not_lists hl hfind) ?_ fun s t q h => ?_
        · exact hg.modify (fun _ => rfl) (fun _ => rfl) fun _ => Link.tidy_track
        · obtain h | ⟨l', hl', hurl', rfl, rfl⟩ := Ledger.lists_of_track h
          · exact .inl h
          · have hsame := find?_key_of_mem hg.urls hl'
            rw [hurl'] at hsame
            obtain rfl := Option.some.inj (hsame.symm.trans hlink)
            exact .inr ⟨rfl, rfl⟩

theorem safe_unsubscribeLast (hg : g.Sound) (hnot : ∀ qos, ¬ g.Lists l.session topic qos) :
    (unsubscribeLast grace l topic).Safe may (.ledger g) fun γ _ =>
      ∃ g : Ledger, g.Sound ∧ γ = .ledger g := by
  refine safe_bind (safe_holding_calls (safe_call ?_))
  refine ⟨g, rfl, hnot, fun reply => ⟨reply, rfl, g, none, rfl, ?_⟩⟩
  refine safe_ledger_bind hg ?_
  cases g.link? l.url with
  | none => cases reply <;> exact ⟨g, hg, rfl⟩
  | some l =>
    dsimp only
    split
    · refine safe_bind (safe_modifyLedger (fun _ => id) nofun hg.erase (fun s t q h => ?_) ?_)
      · exact .inl (Ledger.lists_of_erase h)
      · refine heeds_bind heeds_closeLink (fun _ => ?_) (g.erase l.url) hg.erase
        cases reply <;> exact heeds_done
    · cases reply <;> exact ⟨g, hg, rfl⟩

theorem heeds_unregister : Heeds may (unregister grace feed) := by
  intro g hg
  refine safe_ledger_bind hg ?_
  cases hlink : g.link? feed.url with
  | none => exact ⟨g, hg, rfl⟩
  | some l =>
    obtain ⟨hl, hurl⟩ := Ledger.mem_of_link? hlink
    dsimp only
    cases hfind : l.find? feed.topic with
    | none => exact ⟨g, hg, rfl⟩
    | some s =>
      have hsound : (g.modify feed.url (·.decrement feed.topic)).Sound :=
        hg.modify (fun _ => rfl) (fun _ => rfl) fun _ => Link.tidy_decrement
      refine safe_bind (safe_modifyLedger (fun _ => id) nofun hsound (fun s t q h => ?_) ?_)
      · exact .inl (Ledger.lists_of_decrement hg h)
      · split
        · exact ⟨_, hsound, rfl⟩
        · rename_i hlast
          have hmem : l.decrement feed.topic ∈
              (g.modify feed.url (·.decrement feed.topic)).links :=
            Ledger.mem_modify.mpr ⟨l, hl, by simp [hurl]⟩
          have hs := (key_of_find? hfind).2
          have hnone : (l.decrement feed.topic).find? feed.topic = none := by
            rw [Link.find?_decrement (hg.links l hl), hfind, Option.bind_some, if_pos (by simp [hs]),
              if_pos (by omega)]
          have hnot (qos : Qos) : ¬ Ledger.Lists _ (l.decrement feed.topic).session feed.topic qos :=
            hsound.not_lists hmem hnone
          exact safe_unsubscribeLast hsound hnot

theorem heeds_registerOrPostpone (hmay : may feed.topic) :
    Heeds may (registerOrPostpone grace id feed) := by
  refine heeds_bind (heeds_register hmay) fun x => ?_
  cases x with
  | ok u => exact heeds_done
  | error e =>
    exact heeds_bind (heeds_modifyLedger (fun _ => rfl) fun _ => Ledger.Tidy.postpone)
      fun _ => heeds_done

theorem heeds_leave {wasPending : Bool} {feed : Option Feed} :
    Heeds may (leave grace wasPending feed) := by
  match wasPending, feed with
  | false, some feed => exact heeds_unregister
  | true, _ => exact heeds_done
  | false, none => exact heeds_done

theorem heeds_settle : Heeds may (settle id) :=
  heeds_bind (heeds_update (fun _ => rfl) (fun _ => rfl) fun _ => Ledger.Tidy.settle)
    fun _ => heeds_done

theorem heeds_refreshCache {old new : Source} : Heeds may (refreshCache old new) := by
  have hremove : Heeds may
      (modifyCache (·.remove old.resource) >>= fun _ => modifyCache (·.remove new.resource)) :=
    heeds_bind heeds_modifyCache fun _ => heeds_modifyCache
  unfold refreshCache
  split
  · exact heeds_bind heeds_modifyCache fun _ => hremove
  · exact hremove

theorem heeds_applyChange {change : Change} :
    Heeds (Operation.apply change).registers (applyChange grace change) := by
  cases change with
  | created s =>
    simp only [applyChange, applyCreated]
    cases hfeed : s.feed with
    | none => exact heeds_done
    | some feed => exact heeds_registerOrPostpone (by simp [Operation.registers, hfeed])
  | updated old new =>
    refine heeds_bind heeds_refreshCache fun _ => ?_
    split
    · exact heeds_done
    · refine heeds_bind heeds_settle fun _ => heeds_bind heeds_leave fun left => ?_
      cases hfeed : new.feed with
      | none => exact heeds_done
      | some feed =>
        refine heeds_bind (heeds_registerOrPostpone (by simp [Operation.registers, hfeed]))
          fun entered => ?_
        cases left <;> exact heeds_done
  | deleted s =>
    refine heeds_bind heeds_modifyCache fun _ => ?_
    exact heeds_bind heeds_settle fun _ => heeds_leave

theorem heeds_attemptEach {waiting : List (String × Feed)} :
    Heeds (fun _ => true) (attemptEach grace waiting) := by
  induction waiting with
  | nil => exact heeds_done
  | cons x rest ih =>
    refine heeds_bind (heeds_register rfl) fun x => ?_
    cases x with
    | ok u =>
      exact heeds_bind (heeds_modifyLedger (fun _ => rfl) fun _ => Ledger.Tidy.settle) fun _ => ih
    | error e => exact ih

theorem heeds_sweep : Heeds (fun _ => true) (sweep grace) :=
  heeds_bind heeds_ledger fun _ => heeds_bind heeds_attemptEach fun _ =>
    heeds_bind heeds_ledger fun _ => heeds_done

theorem heeds_registerPage {sources : List Source} :
    Heeds (fun _ => true) (registerPage grace sources) := by
  induction sources with
  | nil => exact heeds_done
  | cons s rest ih =>
    unfold registerPage
    cases s.feed with
    | none => exact ih
    | some feed => exact heeds_bind (heeds_registerOrPostpone rfl) fun _ => ih

theorem heeds_replayFrom {settings : ConnectorSettings} {fuel page : Nat} :
    Heeds (fun _ => true) (replayFrom settings fuel page) := by
  induction fuel generalizing page with
  | zero => exact heeds_done
  | succ fuel ih =>
    have henumerate : Heeds (fun _ => true) (call (.enumerate page settings.pageSize)) :=
      fun g hg => safe_call fun reply => ⟨reply, rfl, g, hg, rfl⟩
    refine heeds_bind henumerate fun x => ?_
    match x with
    | .error e => exact heeds_done
    | .ok (sources, total) =>
      dsimp only
      split
      · exact heeds_done
      · refine heeds_bind heeds_registerPage fun _ => ?_
        split
        · exact heeds_done
        · exact ih

/-- A routine that heeds the rules with the ledger takes it and gives it back. -/
theorem safe_holding_ledger (h : Heeds may p) :
    (holding .ledger p).Safe may .free fun γ _ => γ = .free := by
  refine safe_request_bind ⟨rfl, fun g hg => ?_⟩
  refine safe_bind (safe_attempt (safe_mono (h g hg) fun γ x hγ => ?_))
  obtain ⟨g', -, rfl⟩ := hγ
  exact ⟨⟨g', rfl⟩, rfl⟩

theorem safe_routine (settings : ConnectorSettings) (op : Operation) :
    (op.routine settings).Safe op.registers .free fun γ _ => γ = .free := by
  have hholding {α : Type} {p : Routine α} (h : Heeds op.registers p) :
      (holding .ledger p >>= fun _ => pure ()).Safe op.registers .free fun γ _ => γ = .free :=
    safe_bind (safe_mono (safe_holding_ledger h) fun _ _ hγ => hγ)
  cases op with
  | register feed => exact hholding (heeds_register (by simp [Operation.registers]))
  | unregister feed => exact hholding heeds_unregister
  | apply change =>
    refine safe_bind (safe_bind (safe_attempt (safe_mono (safe_holding_ledger heeds_applyChange)
      fun γ x hγ => ?_)))
    match x with
    | .ok () => exact hγ
    | .error e => exact hγ
  | sweep => exact hholding heeds_sweep
  | replay => exact hholding heeds_replayFrom

end Routine

end SensorBridge
