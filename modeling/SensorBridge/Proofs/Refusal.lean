import SensorBridge.Proofs.Reconnection

/-!
What becomes of a topic that could not be subscribed on a new connection. Registrations and sweeps
subscribe only what is not in the table, and a resubscription is over when it has gone through its
topics. So what was not granted by then is not asked for again, as long as the topic stays in the table
and the connection lasts.
-/
namespace SensorBridge

open Routine

/-- A job is not on its way to a SUBSCRIBE for a topic: a router will not set a resubscription of the
topic to work, and a resubscription will not come to it. -/
def Role.Disregards (session : SessionId) (topic : String) (role : Role) (rest : Routine Bool) : Prop :=
  match role with
  | .job (.router ..) =>
    rest ≠ alerted session ∧ ∀ topics, topic ∈ topics → rest ≠ heralding session topics
  | .job (.resubscribe ..) => rest.Every fun r => ∀ qos, r ≠ .call (.subscribe session topic qos)
  | _ => True

namespace Interplay

/-- The router has learned of every connection, and no job is on its way to a SUBSCRIBE for the topic. -/
structure Decided (σ : Interplay) (session : SessionId) (topic : String) : Prop where
  due : σ.due session = 0
  workers : ∀ w ∈ σ.workers, w.role.Disregards session topic w.rest

/-- What was noted since has nothing to do with a SUBSCRIBE for the topic. -/
def Silent (session : SessionId) (topic : String) (σ σ' : Interplay) : Prop :=
  ∃ newer, σ'.history = newer ++ σ.history ∧
    ∀ x ∈ newer, x.asks session topic = false ∧ ∀ n, x.grants session topic n = false

/-- A turn that leaves the session its connection and the topic in its table. -/
def Keeps (settings : ConnectorSettings) (read : PayloadReaders) (session : SessionId) (topic : String)
    (σ σ' : Interplay) : Prop :=
  Step settings read σ σ' ∧ σ'.connections session = σ.connections session ∧
    ∃ qos, σ'.memory.ledger.Lists session topic qos

end Interplay

section Refusal

variable {settings : ConnectorSettings} {read : PayloadReaders} {σ σ' σ'' : Interplay} {i n : Nat}
  {w w' : Worker} {session s : SessionId} {url topic : String} {topics : List String} {qos : Qos}
  {role : Role} {rest : Routine Bool} {γ : Grip} {r : Request} {k : r.Answer → Routine Bool}
  {a : r.Answer} {c : Call}

/-! ### Routines that do not come to the topic -/

theorem heralding_inj {topics' : List String} (h : heralding s topics = heralding session topics') :
    s = session ∧ topics = topics' :=
  Job.resubscribe.inj (Request.spawn.inj (Routine.ask.inj h).1)

theorem alerted_inj (h : alerted s = alerted session) : s = session := by
  have hgoesOn := congrFun (eq_of_heq (Routine.ask.inj h).2) (default : Memory)
  exact (heralding_inj hgoesOn).1

theorem disregards_route : Role.Disregards session topic (.job (.router url s)) (route read url s) := by
  rw [route_eq]
  exact ⟨nofun, nofun⟩

/-- What keeps to the rules of locks and calls sets no resubscription to work. -/
theorem disregards_of_abides {m : Memory} (hrole : role.Follows) (hm : m.Proper)
    (h : role.Abides rest m.ledger) : role.Disregards session topic rest := by
  obtain ⟨γ, hγ, hsafe⟩ := h
  have hheralding {may : String → Bool} {γ : Grip} {topics : List String}
      {post : Grip → Bool → Prop} : ¬ (heralding session topics).Safe may γ post := by
    rintro ⟨⟨url, s, hjob⟩, -⟩
    cases hjob
  match role with
  | .operation _ => trivial
  | .job (.router ..) =>
    refine ⟨?_, ?_⟩
    · rintro rfl
      obtain ⟨-, -, -, hnext⟩ := hsafe m hm hγ
      exact hheralding hnext
    · rintro topics - rfl
      exact hheralding hsafe
  | .job (.resubscribe ..) | .job .listener | .job .retry | .job (.closing _) => exact hrole.elim

theorem every_resubscribeAll (h : s = session → topic ∉ topics) :
    (resubscribeAll s topics).Every fun r => ∀ qos, r ≠ .call (.subscribe session topic qos) := by
  induction topics with
  | nil => trivial
  | cons t topics ih =>
    have hrest : s = session → topic ∉ topics := fun hs ht => h hs (List.mem_cons_of_mem _ ht)
    refine every_bind (every_holding ?_ nofun nofun) fun _ => ih hrest
    refine every_bind (every_request nofun) fun m => ?_
    cases (m.linkOf? s).bind (·.find? t) with
    | none => trivial
    | some x =>
      refine every_bind (every_call fun qos heq => ?_) fun _ => trivial
      obtain ⟨rfl, rfl, -⟩ := Call.subscribe.inj (Request.call.inj heq)
      exact h rfl List.mem_cons_self

theorem disregards_resubscribe (settings : ConnectorSettings) (h : s = session → topic ∉ topics) :
    Role.Disregards session topic (.job (.resubscribe s topics))
      (Routine.ofJob settings read (.resubscribe s topics)) :=
  every_bind (every_resubscribeAll h) fun _ => trivial

/-! ### Turns of one worker -/

/-- While its router has no connection to learn of, a worker that disregards the topic goes on so. -/
theorem Consistent.disregards_next (settings : ConnectorSettings) (h : Consistent read σ)
    (hw : σ.workers[i]? = some w) (hrest : w.rest = .ask r k) (hcall : r.isCall → w.sent ≠ none)
    (hallow : σ.Allows r a) (hdue : σ.due session = 0)
    (hd : w.role.Disregards session topic w.rest) : w.role.Disregards session topic (k a) := by
  cases h.workers i w hw with
  | following hrole hsafe hheld hsent =>
    have hserved : Consistent read (σ.serving settings read i w r k a) ∧ _ :=
      h.served_following hw hrest hcall hallow hrole hsafe hheld hsent
    exact disregards_of_abides hrole hserved.1.proper hserved.2
  | @listening url s hrole hroute =>
    rw [route_eq] at hroute
    change w.rest = .ask (.nextEvent s) (deal read url s) at hroute
    obtain ⟨rfl, hk⟩ := Routine.ask.inj (hrest.symm.trans hroute)
    obtain rfl := eq_of_heq hk
    rw [hrole]
    by_cases ha : a = some (.connected false)
    · -- the connection is one of another session
      have hpos := hallow ha
      subst ha
      refine ⟨fun hsame => ?_, nofun⟩
      obtain rfl := alerted_inj hsame
      omega
    · exact disregards_of_abides trivial h.proper ⟨.free, trivial, calm_deal ha⟩
  | @alerted url s hrole halerted =>
    obtain ⟨rfl, hk⟩ := Routine.ask.inj (hrest.symm.trans halerted)
    obtain rfl := eq_of_heq hk
    rw [hrole] at hd ⊢
    refine ⟨nofun, fun topics _ hsame => ?_⟩
    obtain ⟨rfl, -⟩ := heralding_inj hsame
    exact hd.1 halerted
  | heralding hrole hheralding =>
    obtain ⟨rfl, hk⟩ := Routine.ask.inj (hrest.symm.trans hheralding)
    obtain rfl := eq_of_heq hk
    rw [hrole]
    exact ⟨nofun, nofun⟩
  | resubscribing hrole =>
    rw [hrole, hrest] at hd
    rw [hrole]
    exact hd.2 a

/-- A job that is set to work disregards the topic too. -/
theorem Consistent.disregards_spawned {job : Job} {k : Unit → Routine Bool} (h : Consistent read σ)
    (hw : σ.workers[i]? = some w) (hrest : w.rest = .ask (.spawn job) k)
    (hd : w.role.Disregards session topic w.rest) :
    Role.Disregards session topic (.job job) (Routine.ofJob settings read job) := by
  cases h.workers i w hw with
  | following hrole hsafe =>
    rw [hrest] at hsafe
    obtain ⟨⟨url, s, rfl⟩, -⟩ := hsafe
    exact disregards_route
  | listening hrole h' | alerted hrole h' => cases hrest.symm.trans h'
  | @heralding url s topics hrole h' =>
    obtain rfl := Request.spawn.inj (Routine.ask.inj (hrest.symm.trans h')).1
    rw [hrole] at hd
    refine disregards_resubscribe settings fun hs ht => ?_
    subst hs
    exact hd.2 topics ht h'
  | resubscribing hrole hnodup hsub hstage =>
    cases hstage with
    | finished h' | renewing h' | looking h' | subscribing h' | awaiting h' | yielding h' =>
      cases hrest.symm.trans h'

/-- A worker that disregards the topic does not subscribe it while the table has it. -/
theorem Consistent.ne_subscribe {k : (Request.call c).Answer → Routine Bool} (h : Consistent read σ)
    (hw : σ.workers[i]? = some w) (hrest : w.rest = .ask (.call c) k)
    (hd : w.role.Disregards session topic w.rest) (hl : σ.memory.ledger.Lists session topic qos)
    (q : Qos) : c ≠ .subscribe session topic q := by
  rintro rfl
  cases h.workers i w hw with
  | following hrole hsafe hheld =>
    rw [hrest] at hsafe
    -- it has the ledger in hand, which does not list what it asks for
    obtain ⟨g, rfl, -, hnot, -⟩ := hsafe
    rw [hheld.2.1] at hl
    exact hnot qos hl
  | listening hrole h' | alerted hrole h' | heralding hrole h' => cases hrest.symm.trans h'
  | resubscribing hrole =>
    rw [hrole, hrest] at hd
    exact hd.1 q rfl

/-! ### Turns -/

theorem Interplay.Silent.refl : σ.Silent session topic σ :=
  ⟨[], rfl, by simp⟩

theorem Interplay.Silent.trans (h : Silent session topic σ σ') (h' : Silent session topic σ' σ'') :
    Silent session topic σ σ'' := by
  obtain ⟨newer, hnewer, hsilent⟩ := h
  obtain ⟨newest, hnewest, hsilent'⟩ := h'
  refine ⟨newest ++ newer, by rw [hnewest, hnewer, List.append_assoc], fun x hx => ?_⟩
  obtain hx | hx := List.mem_append.mp hx
  · exact hsilent' x hx
  · exact hsilent x hx

theorem Interplay.Silent.granted_iff (h : Silent session topic σ σ') :
    σ'.Granted session topic n ↔ σ.Granted session topic n := by
  obtain ⟨newer, hnewer, hsilent⟩ := h
  simp only [Granted, hnewer, List.mem_append, or_and_right, exists_or]
  refine or_iff_right ?_
  rintro ⟨x, hx, hgrants⟩
  rw [(hsilent x hx).2] at hgrants
  cases hgrants

theorem Interplay.silent_of_note {x : Note} (hx : x.asks session topic = false)
    (hx' : ∀ n, x.grants session topic n = false) (h : σ'.history = x :: σ.history) :
    σ.Silent session topic σ' := by
  refine ⟨[x], h, fun y hy => ?_⟩
  obtain rfl := List.mem_singleton.mp hy
  exact ⟨hx, hx'⟩

theorem asks_sent_of_ne (hc : ∀ q, c ≠ .subscribe session topic q) :
    (Note.sent i role c n).asks session topic = false := by
  cases c with
  | subscribe s t q =>
    rw [Note.asks, Bool.eq_false_iff]
    intro hsame
    simp only [Bool.and_eq_true, beq_iff_eq] at hsame
    obtain ⟨rfl, rfl⟩ := hsame
    exact hc q rfl
  | _ => rfl

theorem grants_answered_of_ne {reply : c.Reply} {m : Nat} (hc : ∀ q, c ≠ .subscribe session topic q) :
    (Note.answered c n reply).grants session topic m = false := by
  cases c with
  | subscribe s t q =>
    rw [Note.grants, Bool.eq_false_iff]
    intro hsame
    simp only [Bool.and_eq_true, beq_iff_eq] at hsame
    obtain ⟨⟨⟨rfl, rfl⟩, -⟩, -⟩ := hsame
    exact hc q rfl
  | _ => rfl

theorem Interplay.Decided.replaced (h : σ.Decided session topic)
    (hw' : w'.role.Disregards session topic w'.rest) : (σ.replaced i w').Decided session topic where
  due := h.due
  workers := by
    intro v hv
    obtain hv | rfl := List.mem_or_eq_of_mem_set hv
    · exact h.workers v hv
    · exact hw'

theorem Interplay.Decided.starting (h : σ.Decided session topic)
    (hrole : role.Disregards session topic (role.routine settings read)) :
    (σ.starting settings read role).Decided session topic where
  due := h.due
  workers := by
    intro v hv
    obtain hv | hv := List.mem_append.mp hv
    · exact h.workers v hv
    · obtain rfl := List.mem_singleton.mp hv
      exact hrole

theorem Interplay.Decided.notified (h : σ.Decided session topic) (s : SessionId) :
    (σ.notified s).Decided session topic where
  due := by
    by_cases hs : session = s
    · subst hs
      simp [Interplay.notified, h.due]
    · exact (Function.update_of_ne hs ..).trans h.due
  workers := h.workers

theorem Interplay.Decided.reconnected (h : σ.Decided session topic)
    (hs : (σ.reconnected s).connections session = σ.connections session) :
    (σ.reconnected s).Decided session topic where
  due := by
    have hne : session ≠ s := by
      rintro rfl
      simp [Interplay.reconnected] at hs
    exact (Function.update_of_ne hne ..).trans h.due
  workers := h.workers

theorem Interplay.Decided.served (h : σ.Decided session topic) (hc : Consistent read σ)
    (hl : σ.memory.ledger.Lists session topic qos) (hw : σ.workers[i]? = some w)
    (hrest : w.rest = .ask r k) (hcall : r.isCall → w.sent ≠ none) (hallow : σ.Allows r a) :
    (σ.serving settings read i w r k a).Decided session topic ∧
      σ.Silent session topic (σ.serving settings read i w r k a) := by
  have hd := h.workers w (List.mem_of_getElem? hw)
  have hnext := hc.disregards_next settings hw hrest hcall hallow h.due hd
  have hreplaced : (σ.replaced i (w.served r (k a) σ.memory.ledger)).Decided session topic := by
    apply h.replaced
    rwa [Worker.role_served, Worker.rest_served]
  cases r with
  | call c =>
    obtain ⟨x, rfl⟩ := exists_reply hallow
    have hne := hc.ne_subscribe hw hrest hd hl
    exact ⟨⟨hreplaced.due, hreplaced.workers⟩,
      Interplay.silent_of_note rfl (fun _ => grants_answered_of_ne hne) rfl⟩
  | spawn job => exact ⟨hreplaced.starting (hc.disregards_spawned hw hrest hd), .refl⟩
  | nextEvent s =>
    match a with
    | some (.connected false) => exact ⟨hreplaced.notified s, .refl⟩
    | none | some (.message _) | some (.lost _) | some (.connected true) => exact ⟨hreplaced, .refl⟩
  | _ => exact ⟨⟨hreplaced.due, hreplaced.workers⟩, .refl⟩

theorem Interplay.Decided.sent {k : (Request.call c).Answer → Routine Bool}
    (h : σ.Decided session topic) (hc : Consistent read σ)
    (hl : σ.memory.ledger.Lists session topic qos) (hw : σ.workers[i]? = some w)
    (hrest : w.rest = .ask (.call c) k) :
    (σ.sending i w c).Decided session topic ∧ σ.Silent session topic (σ.sending i w c) := by
  have hd := h.workers w (List.mem_of_getElem? hw)
  have hne := hc.ne_subscribe hw hrest hd hl
  have hsame : (w.sending c (σ.connectionOf c)).role.Disregards session topic
      (w.sending c (σ.connectionOf c)).rest := by
    cases c <;> exact hd
  have hreplaced := h.replaced (i := i) hsame
  exact ⟨⟨hreplaced.due, hreplaced.workers⟩,
    Interplay.silent_of_note (asks_sent_of_ne hne) (fun _ => rfl) rfl⟩

theorem Interplay.Decided.again (h : σ.Decided session topic) (hc : Consistent read σ)
    (hw : σ.workers[i]? = some w) (hrest : w.rest = .done true) :
    (σ.replaced i { w with rest := w.role.routine settings read }).Decided session topic := by
  apply h.replaced
  cases hc.workers i w hw with
  | following hrole =>
    match hr : w.role with
    | .operation _ => trivial
    | .job (.router ..) => exact disregards_route
    | .job (.resubscribe ..) | .job .listener | .job .retry | .job (.closing _) =>
      rw [hr] at hrole
      exact hrole.elim
  | listening hrole h' | alerted hrole h' | heralding hrole h' => cases hrest.symm.trans h'
  | resubscribing hrole hnodup hsub hstage =>
    cases hstage with
    | finished h' | renewing h' | looking h' | subscribing h' | awaiting h' | yielding h' =>
      cases hrest.symm.trans h'

theorem Interplay.Decided.step (h : σ.Decided session topic) (hc : Consistent read σ)
    (hl : σ.memory.ledger.Lists session topic qos) (hs : Interplay.Step settings read σ σ')
    (hn : σ'.connections session = σ.connections session) :
    σ'.Decided session topic ∧ σ.Silent session topic σ' := by
  cases hs with
  | start op => exact ⟨h.starting trivial, .refl⟩
  | reconnect s => exact ⟨h.reconnected hn, .refl⟩
  | send hw hrest hsent => exact h.sent hc hl hw hrest
  | serve hw hrest hcall hallow => exact h.served hc hl hw hrest hcall hallow
  | again hw hrest => exact ⟨h.again hc hw hrest, .refl⟩

/-- As long as the topic is in the table and the connection lasts, all turns are silent. -/
theorem Interplay.Decided.silent (h : σ.Decided session topic) (hσ : Reachable settings read σ)
    (hl : σ.memory.ledger.Lists session topic qos)
    (hs : Relation.ReflTransGen (Keeps settings read session topic) σ σ') :
    σ.Silent session topic σ' := by
  have hrun : Reachable settings read σ' ∧ (∃ qos, σ'.memory.ledger.Lists session topic qos) ∧
      σ'.Decided session topic ∧ σ.Silent session topic σ' := by
    induction hs with
    | refl => exact ⟨hσ, ⟨qos, hl⟩, h, .refl⟩
    | tail _ hkeeps ih =>
      obtain ⟨⟨cache, hreach⟩, ⟨q, hlists⟩, hdecided, hsilent⟩ := ih
      obtain ⟨hstep, hconnections, hlists'⟩ := hkeeps
      have hc := Reachable.consistent ⟨cache, hreach⟩
      obtain ⟨hdecided', hsilent'⟩ := hdecided.step hc hlists hstep hconnections
      exact ⟨⟨cache, hreach.tail hstep⟩, hlists', hdecided', hsilent.trans hsilent'⟩
  exact hrun.2.2.2

/-! ### When no resubscription is under way -/

theorem Worker.Rests.disregards (h : w.Rests read) : w.role.Disregards session topic w.rest := by
  match hrole : w.role with
  | .operation _ | .job .listener | .job .retry | .job (.closing _) => trivial
  | .job (.router ..) =>
    rw [Worker.Rests, hrole] at h
    obtain hroute | hevery := h
    · rw [hroute]
      exact disregards_route
    · refine ⟨?_, ?_⟩
      · intro h'
        rw [h'] at hevery
        exact (hevery.2 default).1 session _ rfl
      · intro topics _ h'
        rw [h'] at hevery
        exact hevery.1 session _ rfl
  | .job (.resubscribe ..) =>
    rw [Worker.Rests, hrole] at h
    obtain ⟨goesOn, hrest⟩ := h
    rw [hrest]
    trivial

/-- Once no resubscription is under way and the router has learned of the present connection, each topic
of the table was granted on it, was refused on it or was overtaken. With this it is decided whether it
is served: however many sweeps and other operations follow, as long as the topic stays in the table and
the connection lasts, it is not subscribed again. -/
theorem decided_by_resubscription (h : Interplay.Reachable settings read σ)
    (hdue : σ.due session = 0) (hrests : ∀ w ∈ σ.workers, w.Rests read)
    (hl : σ.memory.ledger.Lists session topic qos) :
    (σ.Granted session topic (σ.connections session) ∨
      σ.Refused session topic (σ.connections session) ∨ topic ∈ σ.overtaken session) ∧
    ∀ σ', Relation.ReflTransGen (Interplay.Keeps settings read session topic) σ σ' →
      (σ'.Granted session topic (σ.connections session) ↔
        σ.Granted session topic (σ.connections session)) ∧
      ∃ newer, σ'.history = newer ++ σ.history ∧ ∀ x ∈ newer, x.asks session topic = false := by
  constructor
  · obtain hgranted | hrefused | hmissed | ⟨i, w, hw, ho⟩ := h.resumed.tables session topic qos hl
    · exact .inl hgranted
    · exact .inr (.inl hrefused)
    · obtain hpos | hovertaken := hmissed
      · omega
      · exact .inr (.inr hovertaken)
    · exact absurd ho (hrests w (List.mem_of_getElem? hw)).not_owes
  · intro σ' hs
    have hdecided : σ.Decided session topic := ⟨hdue, fun w hw => (hrests w hw).disregards⟩
    have hsilent := hdecided.silent h hl hs
    obtain ⟨newer, hnewer, hasks⟩ := id hsilent
    exact ⟨hsilent.granted_iff, newer, hnewer, fun x hx => (hasks x hx).1⟩

end Refusal

/-! ### A topic that is refused -/

/-- Every SUBSCRIBE fails. -/
def Interplay.refusing : (c : Call) → c.Reply
  | .subscribe _ topic _ => .error (.subscribe topic "refused")
  | c => granting c

/-- A data source gets its topic, and the session a new connection. -/
def reconnecting : List Interplay.Move := List.flatten [
  [.start (.apply (.created { id := "s", resource := "r", feed := some ⟨"mqtt://a", "t", 0, none⟩ }))],
  List.replicate 11 (.proceed 0), [.reconnect 0], List.replicate 3 (.proceed 1)]

theorem decided_by_refusal : ∃ σ, Interplay.Reachable {} (fun _ _ => .ok []) σ ∧
    σ.Refused 0 "t" (σ.connections 0) ∧
    ∀ σ', Relation.ReflTransGen (Interplay.Keeps {} (fun _ _ => .ok []) 0 "t") σ σ' →
      ¬ σ'.Granted 0 "t" (σ.connections 0) := by
  have hplay : ∃ σ₁ ∈ ({ memory := { cache := { capacity := 1 } } } : Interplay).play? {}
      (fun _ _ => .ok []) Interplay.granting reconnecting, ∃ σ ∈ σ₁.play? {} (fun _ _ => .ok [])
      Interplay.refusing (List.replicate 5 (.proceed 2)), σ.due 0 = 0 ∧ (∀ w ∈ σ.workers, w.Over) ∧
      σ.memory.ledger.Lists 0 "t" .atMostOnce ∧ σ.Refused 0 "t" (σ.connections 0) ∧
      ¬ σ.Granted 0 "t" (σ.connections 0) := by
    decide +kernel
  obtain ⟨σ₁, hσ₁, σ, hσ, hdue, hover, hl, hrefused, hgranted⟩ := hplay
  have hreachable : Interplay.Reachable {} (fun _ _ => .ok []) σ :=
    ⟨_, (Interplay.steps_of_play hσ₁).trans (Interplay.steps_of_play hσ)⟩
  obtain ⟨-, hdecided⟩ :=
    decided_by_resubscription hreachable hdue (fun w hw => (hover w hw).rests) hl
  exact ⟨σ, hreachable, hrefused, fun σ' hs hlater => hgranted ((hdecided σ' hs).1.mp hlater)⟩

/-- Nothing is left to do, a sweep has come to its end since, and the topic has its receiver; but its
SUBSCRIBE on the present connection was refused, which was the last of all calls, and nobody waits for
another attempt. -/
theorem refused_topic_abandoned : ∃ σ, Interplay.Reachable {} (fun _ _ => .ok []) σ ∧ σ.due 0 = 0 ∧
    (∀ w ∈ σ.workers, w.Over) ∧ (∃ w ∈ σ.workers.getLast?, w.role = .operation .sweep) ∧
    σ.memory.ledger.receivers? "mqtt://a" "t" = some 1 ∧ σ.memory.ledger.pending = [] ∧
    σ.memory.ledger.Lists 0 "t" .atMostOnce ∧
    (∃ x ∈ σ.history.head?, x.refuses 0 (σ.connections 0) && x.answers "t") ∧
    ¬ σ.Granted 0 "t" (σ.connections 0) := by
  have hplay : ∃ σ₁ ∈ ({ memory := { cache := { capacity := 1 } } } : Interplay).play? {}
      (fun _ _ => .ok []) Interplay.granting reconnecting, ∃ σ₂ ∈ σ₁.play? {} (fun _ _ => .ok [])
      Interplay.refusing (List.replicate 5 (.proceed 2)), ∃ σ ∈ σ₂.play? {} (fun _ _ => .ok [])
      Interplay.granting (.start .sweep :: List.replicate 4 (.proceed 3)), σ.due 0 = 0 ∧
      (∀ w ∈ σ.workers, w.Over) ∧ (∃ w ∈ σ.workers.getLast?, w.role = .operation .sweep) ∧
      σ.memory.ledger.receivers? "mqtt://a" "t" = some 1 ∧ σ.memory.ledger.pending = [] ∧
      σ.memory.ledger.Lists 0 "t" .atMostOnce ∧
      (∃ x ∈ σ.history.head?, x.refuses 0 (σ.connections 0) && x.answers "t") ∧
      ¬ σ.Granted 0 "t" (σ.connections 0) := by
    decide +kernel
  obtain ⟨σ₁, hσ₁, σ₂, hσ₂, σ, hσ, habandoned⟩ := hplay
  have hrun := ((Interplay.steps_of_play hσ₁).trans (Interplay.steps_of_play hσ₂)).trans
    (Interplay.steps_of_play hσ)
  exact ⟨σ, ⟨_, hrun⟩, habandoned⟩

end SensorBridge
