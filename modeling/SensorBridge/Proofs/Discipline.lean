import SensorBridge.Proofs.Standing

/-!
Every turn keeps the connector consistent: one lemma for each kind of thing that a turn does to the
memory, the locks and the notes, and then the stages of the workers one by one.
-/
namespace SensorBridge

open Routine

/-- A turn of the `i`-th worker keeps what holds of the memory and of the notes, and spares the other
workers. -/
structure Turn (σ σ' : Interplay) (i : Nat) : Prop where
  spares : ∀ j, j ≠ i → Spares σ σ' j
  proper : σ'.memory.Proper
  listed : ∀ session topic qos, σ'.memory.ledger.Lists session topic qos →
    dropped session topic σ'.history = false
  orderly : Orderly σ'.history

section Turns

variable {σ σ' : Interplay} {i n : Nat} {w w' : Worker} {ws : List Worker} {m' : Memory} {l : Lock}
  {c : Call} {read : PayloadReaders}

theorem Consistent.turned (h : Consistent read σ) (hi : σ.workers[i]? = some w) (ht : Turn σ σ' i)
    (hworkers : σ'.workers = σ.workers.set i w') (hw' : Standing read σ' i w') :
    Consistent read σ' where
  proper := ht.proper
  listed := ht.listed
  orderly := ht.orderly
  unborn := by
    intro j hj
    have hlt : i < σ.workers.length := (List.getElem?_eq_some_iff.mp hi).1
    rw [hworkers, List.length_set] at hj
    rw [(ht.spares j (by omega)).asked, h.unborn j hj]
  workers := by
    intro j v hv
    have hlt : i < σ.workers.length := (List.getElem?_eq_some_iff.mp hi).1
    rw [hworkers, ← List.append_nil (σ.workers.set i w')] at hv
    obtain ⟨rfl, rfl⟩ | ⟨hj, hold⟩ | hborn := Interplay.worker_of_turn hlt hv
    · exact hw'
    · exact (h.workers j v hold).spared (ht.spares j hj)
    · cases hborn

theorem Consistent.turn_idle (h : Consistent read σ) : Turn σ { σ with workers := ws } i where
  spares := fun _ _ => .of_same rfl rfl rfl
  proper := h.proper
  listed := h.listed
  orderly := h.orderly

theorem Consistent.turn_update (h : Consistent read σ) (hm : m'.Proper)
    (hledger : m'.ledger = σ.memory.ledger ∨ σ.holder .ledger = some i)
    (hlists : ∀ session topic qos, m'.ledger.Lists session topic qos →
      σ.memory.ledger.Lists session topic qos ∨
        (σ.holder (.calls session) = some i ∧ dropped session topic σ.history = false)) :
    Turn σ { σ with workers := ws, memory := m' } i where
  spares := by
    intro j hj
    refine ⟨fun _ => id, fun hheld => ?_, fun s t q hheld hl => ?_, fun _ _ _ => id, fun _ => id, rfl⟩
    · obtain hsame | hi := hledger
      · exact hsame
      · exact absurd (Option.some.inj (hheld.symm.trans hi)) hj
    · obtain hl | ⟨hi, -⟩ := hlists s t q hl
      · exact hl
      · exact absurd (Option.some.inj (hheld.symm.trans hi)) hj
  proper := hm
  listed := by
    intro s t q hl
    obtain hl | ⟨-, hkept⟩ := hlists s t q hl
    · exact h.listed s t q hl
    · exact hkept
  orderly := h.orderly

theorem Consistent.turn_acquire (h : Consistent read σ) (hl : σ.holder l = none) :
    Turn σ { σ with workers := ws, holder := Function.update σ.holder l (some i) } i where
  spares := by
    intro j _
    refine ⟨fun l' hl' => ?_, fun _ => rfl, fun _ _ _ _ => id, fun _ _ _ => id, fun _ => id, rfl⟩
    have hne : l' ≠ l := by
      rintro rfl
      rw [hl] at hl'
      cases hl'
    exact (Function.update_of_ne hne _ _).trans hl'
  proper := h.proper
  listed := h.listed
  orderly := h.orderly

theorem Consistent.turn_release (h : Consistent read σ) (hl : σ.holder l = some i) :
    Turn σ { σ with workers := ws, holder := Function.update σ.holder l none } i where
  spares := by
    intro j hj
    refine ⟨fun l' hl' => ?_, fun _ => rfl, fun _ _ _ _ => id, fun _ _ _ => id, fun _ => id, rfl⟩
    have hne : l' ≠ l := by
      rintro rfl
      exact hj (Option.some.inj (hl'.symm.trans hl))
    exact (Function.update_of_ne hne _ _).trans hl'
  proper := h.proper
  listed := h.listed
  orderly := h.orderly

theorem Consistent.turn_answered (h : Consistent read σ) (reply : c.Reply) :
    Turn σ { σ with workers := ws, history := .answered c n reply :: σ.history } i where
  spares := fun _ _ => .of_answered rfl rfl rfl
  proper := h.proper
  listed := fun s t q hl => dropped_answered.trans (h.listed s t q hl)
  orderly := ⟨nofun, h.orderly⟩

/-- A call may be sent by one who has the calls of its session in hand; a topic to be unsubscribed is
not in the table, and one to be subscribed is to be registered or was not dropped. -/
theorem Consistent.turn_sent (h : Consistent read σ) {role : Role}
    (hguard : ∀ session, c.guarded? = some session → σ.holder (.calls session) = some i)
    (hleft : ∀ session topic, c = .unsubscribe session topic →
      ∀ qos, ¬ σ.memory.ledger.Lists session topic qos)
    (hasked : ∀ session topic qos, c = .subscribe session topic qos →
      role.registers topic ∨ dropped session topic σ.history = false) :
    Turn σ { σ with workers := ws, history := .sent i role c n :: σ.history } i where
  spares := by
    intro j hj
    refine ⟨fun _ => id, fun _ => rfl, fun _ _ _ _ => id, fun s t hheld hkept => ?_, fun x hx => ?_, ?_⟩
    · have hother : c.guarded? ≠ some s := by
        intro hs
        exact hj (Option.some.inj (hheld.symm.trans (hguard s hs)))
      exact (dropped_sent_of_ne hother).trans hkept
    · exact List.mem_cons_of_mem _ hx
    · have hnone : Note.askedBy j (.sent i role c n) = none := by
        cases c <;> simp [Note.askedBy, Ne.symm hj]
      simp only [Interplay.asked, List.filterMap_cons_none hnone]
  proper := h.proper
  listed := by
    intro s t q hl
    have hkept := h.listed s t q hl
    cases c with
    | subscribe s' t' q' => simp [dropped, Note.leaves, hkept]
    | unsubscribe s' t' =>
      have hne : (s' == s && t' == t) = false := by
        rw [Bool.and_eq_false_iff, beq_eq_false_iff_ne, beq_eq_false_iff_ne, ← not_and_or]
        rintro ⟨rfl, rfl⟩
        exact hleft _ _ rfl q hl
      simp [dropped, Note.leaves, Note.enters, hne, hkept]
    | _ => exact hkept
  orderly := by
    refine ⟨fun s t hx => ?_, h.orderly⟩
    cases c with
    | subscribe s' t' q' =>
      simp only [Note.asks, Bool.and_eq_true, beq_iff_eq] at hx
      obtain ⟨rfl, rfl⟩ := hx
      obtain hmay | hkept := hasked _ _ _ rfl
      · exact .inl (by simp [Note.enters, hmay])
      · exact .inr hkept
    | _ => cases hx

end Turns

section Served

variable {settings : ConnectorSettings} {read : PayloadReaders} {σ σ' : Interplay} {i n : Nat}
  {w : Worker} {role : Role} {γ : Grip} {r : Request} {k : r.Answer → Routine Bool} {a : r.Answer}

/-! ### Workers that begin -/

theorem Consistent.of_same (h : Consistent read σ) (hm : σ'.memory = σ.memory)
    (hl : σ'.holder = σ.holder) (hw : σ'.workers = σ.workers) (hn : σ'.history = σ.history) :
    Consistent read σ' where
  proper := hm ▸ h.proper
  listed := by
    rw [hm, hn]
    exact h.listed
  orderly := hn ▸ h.orderly
  unborn := by
    intro j hj
    rw [hw] at hj
    rw [Interplay.asked, hn]
    exact h.unborn j hj
  workers := fun j v hv => (h.workers j v (hw ▸ hv)).spared (.of_same hm hl hn)

theorem Consistent.starting (h : Consistent read σ)
    (hrole : Standing read σ σ.workers.length { role, rest := role.routine settings read }) :
    Consistent read (σ.starting settings read role) where
  proper := h.proper
  listed := h.listed
  orderly := h.orderly
  unborn := by
    intro j hj
    rw [Interplay.starting, List.length_append] at hj
    exact h.unborn j (by omega)
  workers := by
    intro j v hv
    have hspares : Spares σ (σ.starting settings read role) j := .of_same rfl rfl rfl
    obtain hold | ⟨rfl, rfl⟩ := Interplay.worker_of_starting hv
    · exact (h.workers j v hold).spared hspares
    · exact hrole.spared hspares

theorem standing_of_follows (settings : ConnectorSettings) {w : Worker} (h : w.role.Follows)
    (hrest : w.rest = w.role.routine settings read) (hsent : w.sent = none) :
    Standing read σ i w := by
  cases hr : w.role with
  | operation op =>
    refine .following (γ := .free) h ?_ trivial fun n hn => ?_
    · rw [hrest, hr]
      exact safe_bind (safe_mono (safe_routine settings op) fun _ _ hγ => hγ)
    · rw [hsent] at hn
      cases hn
  | job j =>
    cases j with
    | router url session => exact .listening hr (by rw [hrest, hr]; rfl)
    | _ =>
      rw [hr] at h
      exact h.elim

/-! ### Operations and messages -/

theorem Grip.Held.knows (h : γ.Held σ i w) : γ.Knows σ.memory.ledger := by
  cases γ with
  | free => trivial
  | ledger g => exact h.2
  | calling g session granted => exact h.2.1

/-- What is left keeps to the rules, with a grip that the ledger allows. -/
def Role.Abides (role : Role) (rest : Routine Bool) (g : Ledger) : Prop :=
  ∃ γ : Grip, γ.Knows g ∧ rest.Safe role.registers γ fun γ _ => γ = .free

theorem Consistent.turned_following {w' : Worker} (h : Consistent read σ) (hi : σ.workers[i]? = some w)
    (ht : Turn σ σ' i) (hworkers : σ'.workers = σ.workers.set i w') (hrole : w'.role.Follows)
    (hsafe : w'.rest.Safe w'.role.registers γ fun γ _ => γ = .free) (hheld : γ.Held σ' i w')
    (hsent : w'.sent = none) :
    Consistent read σ' ∧ w'.role.Abides w'.rest σ'.memory.ledger := by
  refine ⟨h.turned hi ht hworkers (.following hrole hsafe hheld fun n hn => ?_), γ, hheld.knows, hsafe⟩
  rw [hsent] at hn
  cases hn

theorem exists_reply {c : Call} {a : (Request.call c).Answer} (h : σ.Allows (.call c) a) :
    ∃ x, a = .ok x := by
  cases c with
  | connect feed =>
    obtain ⟨x, hx, -⟩ := h
    exact ⟨x, hx⟩
  | _ => exact h

/-- A call is answered, and what is in hand goes on as before, but that a topic may be granted. -/
theorem Consistent.answered {c : Call} {k : (Request.call c).Answer → Routine Bool} {x : c.Reply}
    (h : Consistent read σ) (hw : σ.workers[i]? = some w) (hn : w.sent = some n)
    (hallow : σ.Allows (.call c) (.ok x)) (hrole : w.role.Follows)
    (hsafe : (Routine.ask (.call c) k).Safe w.role.registers γ fun γ _ => γ = .free)
    (hheld : γ.Held σ i w)
    (hflight : ∀ session topic qos, c = .subscribe session topic qos →
      dropped session topic σ.history = false ∧ w.entering = some (session, topic, n)) :
    Consistent read (σ.serving settings read i w (.call c) k (.ok x)) ∧
      w.role.Abides (k (.ok x)) σ.memory.ledger := by
  have hturn : Turn σ (σ.serving settings read i w (.call c) k (.ok x)) i := h.turn_answered x
  have hspares : Spares σ (σ.serving settings read i w (.call c) k (.ok x)) i :=
    .of_answered rfl rfl rfl
  have hheld' := hheld.spared hspares
  cases c with
  | connect feed =>
    obtain ⟨g, rfl, hnext⟩ := hsafe
    obtain ⟨y, hy, hfresh⟩ := hallow
    obtain rfl := Except.ok.inj hy
    rw [hheld.2] at hfresh
    exact h.turned_following hw hturn rfl hrole (hnext x hfresh) (hheld'.of_entering rfl) rfl
  | subscribe session topic qos =>
    obtain ⟨g, rfl, -, -, hnext⟩ := hsafe
    obtain ⟨hkept, hentering⟩ := hflight session topic qos rfl
    refine h.turned_following hw hturn rfl hrole (hnext x) ?_ rfl
    refine ⟨hheld'.1, hheld'.2.1, hheld'.2.2.1, fun t ht => ?_⟩
    cases x with
    | error e => cases ht
    | ok u =>
      obtain rfl := Option.some.inj ht
      refine ⟨hspares.kept _ _ hheld.2.2.1 hkept, n, hentering, _, List.mem_cons_self, ?_⟩
      simp [Note.grants, hn, Except.isOk, Except.toBool]
  | unsubscribe session topic =>
    obtain ⟨g, rfl, -, hnext⟩ := hsafe
    exact h.turned_following hw hturn rfl hrole (hnext x) (hheld'.of_entering rfl) rfl
  | _ => exact h.turned_following hw hturn rfl hrole (hsafe x) (hheld'.of_entering rfl) rfl

theorem Consistent.served_following (h : Consistent read σ) (hw : σ.workers[i]? = some w)
    (hrest : w.rest = .ask r k) (hcall : r.isCall → w.sent ≠ none) (hallow : σ.Allows r a)
    (hrole : w.role.Follows) (hsafe : w.rest.Safe w.role.registers γ fun γ _ => γ = .free)
    (hheld : γ.Held σ i w)
    (hsent : ∀ n, w.sent = some n → ∃ c k, w.rest = .ask (.call c) k ∧ ∀ session topic qos,
      c = .subscribe session topic qos → dropped session topic σ.history = false ∧
        w.entering = some (session, topic, n)) :
    Consistent read (σ.serving settings read i w r k a) ∧
      w.role.Abides (k a) (σ.serving settings read i w r k a).memory.ledger := by
  rw [hrest] at hsafe
  cases r with
  | update f =>
    obtain rfl : a = σ.memory := hallow
    obtain ⟨hproper, hlists, hfree, hnext⟩ := hsafe σ.memory h.proper hheld.knows
    have hturn : Turn σ (σ.serving settings read i w (.update f) k σ.memory) i := by
      refine h.turn_update hproper ?_ fun s t q hl => ?_
      · cases γ with
        | free => exact .inl (hfree rfl)
        | ledger g => exact .inr hheld.1
        | calling g session granted => exact .inr hheld.1
      · obtain hl | rfl := hlists s t q hl
        · exact .inl hl
        · exact .inr ⟨hheld.2.2.1, (hheld.2.2.2 t rfl).1⟩
    refine h.turned_following hw hturn rfl hrole hnext ?_ rfl
    cases γ with
    | free => trivial
    | ledger g => exact ⟨hheld.1, rfl⟩
    | calling g session granted => exact ⟨hheld.1, rfl, hheld.2.2⟩
  | acquire l =>
    have hnew : Function.update σ.holder l (some i) l = some i := Function.update_self ..
    cases l with
    | ledger =>
      obtain ⟨rfl, hnext⟩ := hsafe
      refine h.turned_following hw (h.turn_acquire hallow) rfl hrole (hnext _ h.proper.ledger) ?_ rfl
      exact ⟨hnew, rfl⟩
    | calls session =>
      obtain ⟨g, rfl, hnext⟩ := hsafe
      have hne : Lock.ledger ≠ .calls session := nofun
      have hstill : Function.update σ.holder (.calls session) (some i) .ledger = some i :=
        (Function.update_of_ne hne ..).trans hheld.1
      refine h.turned_following hw (h.turn_acquire hallow) rfl hrole hnext ?_ rfl
      exact ⟨hstill, hheld.2, hnew, nofun⟩
  | release l =>
    cases l with
    | ledger =>
      obtain ⟨⟨g, rfl⟩, hnext⟩ := hsafe
      exact h.turned_following (γ := .free) hw (h.turn_release hheld.1) rfl hrole hnext trivial rfl
    | calls session =>
      obtain ⟨g, granted, rfl, hnext⟩ := hsafe
      have hne : Lock.ledger ≠ .calls session := nofun
      have hstill : Function.update σ.holder (.calls session) none .ledger = some i :=
        (Function.update_of_ne hne ..).trans hheld.1
      refine h.turned_following (γ := .ledger g) hw (h.turn_release hheld.2.2.1) rfl hrole hnext ?_ rfl
      exact ⟨hstill, hheld.2.1⟩
  | call c =>
    obtain ⟨x, rfl⟩ := exists_reply hallow
    obtain ⟨n, hn⟩ := Option.ne_none_iff_exists'.mp (hcall rfl)
    obtain ⟨c', k', hrest', hflight⟩ := hsent n hn
    obtain rfl := Request.call.inj (Routine.ask.inj (hrest.symm.trans hrest')).1
    exact h.answered hw hn hallow hrole hsafe hheld hflight
  | spawn job =>
    obtain ⟨⟨url, session, rfl⟩, hnext⟩ := hsafe
    have hheld' := hheld.spared (.of_same rfl rfl rfl)
    have hturned : Consistent read (σ.replaced i { w with rest := k a, sent := none }) ∧
        w.role.Abides (k a) σ.memory.ledger :=
      h.turned_following hw h.turn_idle rfl hrole hnext (hheld'.of_entering rfl) rfl
    exact ⟨hturned.1.starting (standing_of_follows settings trivial rfl rfl), hturned.2⟩
  | nextEvent session => exact hsafe.elim
  | _ =>
    have hheld' := hheld.spared (.of_same rfl rfl rfl)
    exact h.turned_following hw h.turn_idle rfl hrole (hsafe a) (hheld'.of_entering rfl) rfl

/-! ### Routers -/

/-- A worker that has nothing in hand. -/
theorem standing_of_calm {w : Worker} (hrole : w.role.Follows) (hcalm : Calm w.rest)
    (hsent : w.sent = none) (hmay : w.role.registers = fun _ => false) : Standing read σ i w := by
  refine .following (γ := .free) hrole (hmay ▸ hcalm) trivial fun n hn => ?_
  rw [hsent] at hn
  cases hn

variable {url : String} {session : SessionId} {topics todo : List String}

/-- An event changes nothing unless the router learns of a new connection. -/
theorem serving_event {k : (Request.nextEvent session).Answer → Routine Bool}
    {event : Option SessionEvent} (h : event ≠ some (.connected false)) :
    σ.serving settings read i w (.nextEvent session) k event =
      σ.replaced i { w with rest := k event, sent := none } := by
  match event with
  | none | some (.message _) | some (.lost _) | some (.connected true) => rfl
  | some (.connected false) => exact absurd rfl h

theorem Consistent.served_listening (h : Consistent read σ) (hw : σ.workers[i]? = some w)
    (hrest : w.rest = .ask r k) (hrole : w.role = .job (.router url session))
    (hroute : w.rest = route read url session) :
    Consistent read (σ.serving settings read i w r k a) := by
  rw [route_eq] at hroute
  change w.rest = .ask (.nextEvent session) (deal read url session) at hroute
  obtain ⟨rfl, hk⟩ := Routine.ask.inj (hrest.symm.trans hroute)
  obtain rfl := eq_of_heq hk
  have hserved {w' : Worker} (hw' : Standing read (σ.replaced i w') i w') :
      Consistent read (σ.replaced i w') := h.turned hw h.turn_idle rfl hw'
  have hfollows : w.role.Follows := hrole ▸ trivial
  have hmay : w.role.registers = fun _ => false := hrole ▸ rfl
  by_cases ha : a = some (.connected false)
  · subst ha
    have hturned : Consistent read (σ.replaced i { w with rest := alerted session, sent := none }) :=
      hserved (.alerted hrole rfl)
    exact hturned.of_same rfl rfl rfl rfl
  · rw [serving_event ha]
    exact hserved (standing_of_calm hfollows (calm_deal ha) rfl hmay)

theorem Consistent.served_alerted (h : Consistent read σ) (hw : σ.workers[i]? = some w)
    (hrest : w.rest = .ask r k) (hallow : σ.Allows r a) (hrole : w.role = .job (.router url session))
    (halerted : w.rest = alerted session) :
    Consistent read (σ.serving settings read i w r k a) := by
  obtain ⟨rfl, hk⟩ := Routine.ask.inj (hrest.symm.trans halerted)
  obtain rfl := eq_of_heq hk
  obtain rfl : a = σ.memory := hallow
  exact h.turned hw (h.turn_update h.proper (.inl rfl) fun _ _ _ => .inl) rfl
    (.heralding hrole rfl h.proper.nodup_topicsOf)

theorem Consistent.served_heralding (h : Consistent read σ) (hw : σ.workers[i]? = some w)
    (hrest : w.rest = .ask r k) (hrole : w.role = .job (.router url session))
    (hheralding : w.rest = heralding session topics) (hnodup : topics.Nodup) :
    Consistent read (σ.serving settings read i w r k a) := by
  obtain ⟨rfl, hk⟩ := Routine.ask.inj (hrest.symm.trans hheralding)
  obtain rfl := eq_of_heq hk
  have hfollows : w.role.Follows := hrole ▸ trivial
  have hmay : w.role.registers = fun _ => false := hrole ▸ rfl
  have hturned : Consistent read (σ.replaced i { w with rest := .done true, sent := none }) :=
    h.turned hw h.turn_idle rfl (standing_of_calm hfollows calm_done rfl hmay)
  have hasked := hturned.unborn _ le_rfl
  exact hturned.starting (.resubscribing rfl hnodup (by rw [hasked]; exact .refl topics)
    (stage_of_renewing rfl))

/-! ### Resubscriptions -/

theorem Consistent.served_stage (h : Consistent read σ) (hw : σ.workers[i]? = some w)
    (hrest : w.rest = .ask r k) (hcall : r.isCall → w.sent ≠ none) (hallow : σ.Allows r a)
    (hrole : w.role = .job (.resubscribe session topics)) (hnodup : topics.Nodup)
    (hsub : (σ.asked i ++ todo).Sublist topics) (hstage : Stage σ i w session todo) :
    Consistent read (σ.serving settings read i w r k a) := by
  cases hstage with
  | finished h' => cases hrest.symm.trans h'
  | renewing h' =>
    rw [renewing_cons] at h'
    obtain ⟨rfl, hk⟩ := Routine.ask.inj (hrest.symm.trans h')
    obtain rfl := eq_of_heq hk
    have hnew : Function.update σ.holder (.calls session) (some i) (.calls session) = some i :=
      Function.update_self ..
    exact h.turned hw (h.turn_acquire hallow) rfl (.resubscribing hrole hnodup hsub (.looking rfl hnew))
  | @looking topic todo h' hheld =>
    obtain ⟨rfl, hk⟩ := Routine.ask.inj (hrest.symm.trans h')
    obtain rfl := eq_of_heq hk
    obtain rfl : a = σ.memory := hallow
    refine h.turned hw (h.turn_update h.proper (.inl rfl) fun _ _ _ => .inl) rfl ?_
    cases hfind : (σ.memory.linkOf? session).bind (·.find? topic) with
    | none =>
      have hless : (σ.asked i ++ todo).Sublist topics :=
        .trans (.append_left (List.sublist_cons_self topic todo) _) hsub
      have hnext := congrArg (resuming session topic todo) hfind
      exact .resubscribing hrole hnodup hless (.yielding hnext hheld)
    | some s =>
      have hlists := h.proper.lists_of_find? hfind
      have hnext := congrArg (resuming session topic todo) hfind
      refine .resubscribing hrole hnodup hsub (.subscribing hnext rfl hheld ?_)
      exact ⟨hlists, h.listed _ _ _ hlists, fun _ hl => h.proper.ledger.lists_unique hl hlists⟩
  | subscribing h' hsent =>
    obtain ⟨rfl, -⟩ := Routine.ask.inj (hrest.symm.trans h')
    exact absurd hsent (hcall rfl)
  | awaiting h' hsent hheld hfound =>
    obtain ⟨rfl, hk⟩ := Routine.ask.inj (hrest.symm.trans h')
    obtain rfl := eq_of_heq hk
    obtain ⟨x, rfl⟩ := exists_reply hallow
    exact h.turned hw (h.turn_answered x) rfl (.resubscribing hrole hnodup hsub (.yielding rfl hheld))
  | yielding h' hheld =>
    obtain ⟨rfl, hk⟩ := Routine.ask.inj (hrest.symm.trans h')
    obtain rfl := eq_of_heq hk
    exact h.turned hw (h.turn_release hheld) rfl (.resubscribing hrole hnodup hsub (stage_of_renewing rfl))

theorem Consistent.served (h : Consistent read σ) (hw : σ.workers[i]? = some w)
    (hrest : w.rest = .ask r k) (hcall : r.isCall → w.sent ≠ none) (hallow : σ.Allows r a) :
    Consistent read (σ.serving settings read i w r k a) := by
  cases h.workers i w hw with
  | following hrole hsafe hheld hsent =>
    exact (h.served_following hw hrest hcall hallow hrole hsafe hheld hsent).1
  | listening hrole hroute => exact h.served_listening hw hrest hrole hroute
  | alerted hrole halerted => exact h.served_alerted hw hrest hallow hrole halerted
  | heralding hrole hheralding hnodup => exact h.served_heralding hw hrest hrole hheralding hnodup
  | resubscribing hrole hnodup hsub hstage =>
    exact h.served_stage hw hrest hcall hallow hrole hnodup hsub hstage

/-! ### Calls that are sent, and routines that begin again -/

variable {c : Call} {k' : (Request.call c).Answer → Routine Bool}

theorem Consistent.sent_following (h : Consistent read σ) (hw : σ.workers[i]? = some w)
    (hrest : w.rest = .ask (.call c) k') (hrole : w.role.Follows)
    (hsafe : w.rest.Safe w.role.registers γ fun γ _ => γ = .free) (hheld : γ.Held σ i w) :
    Consistent read (σ.sending i w c) := by
  have hadmits := hsafe
  rw [hrest] at hadmits
  have haside (hc : c.guarded? = none) : Turn σ (σ.sending i w c) i := by
    refine h.turn_sent (fun s hs => ?_) (fun s t he => ?_) fun s t q he => ?_
    · rw [hc] at hs
      cases hs
    · rw [he] at hc
      cases hc
    · rw [he] at hc
      cases hc
  have hspares (hc : c.guarded? = none) : Spares σ (σ.sending i w c) i := .of_aside hc rfl rfl rfl
  cases c with
  | subscribe session topic qos =>
    obtain ⟨g, rfl, hmay, -⟩ := hadmits
    have hturn : Turn σ (σ.sending i w (.subscribe session topic qos)) i := by
      refine h.turn_sent (fun s hs => ?_) (fun s t hc => by cases hc) fun s t q hc => ?_
      · obtain rfl := Option.some.inj hs
        exact hheld.2.2.1
      · obtain ⟨rfl, rfl, rfl⟩ := Call.subscribe.inj hc
        exact .inl hmay
    refine h.turned hw hturn rfl (.following hrole hsafe (hheld.of_ungranted rfl rfl) ?_)
    intro n hn
    refine ⟨_, k', hrest, fun s t q hc => ?_⟩
    obtain ⟨rfl, rfl, rfl⟩ := Call.subscribe.inj hc
    obtain rfl := Option.some.inj hn
    refine ⟨?_, if_pos hmay⟩
    simp [Interplay.sending, dropped, Note.leaves, Note.enters, hmay]
  | unsubscribe session topic =>
    obtain ⟨g, rfl, hnot, -⟩ := hadmits
    have hturn : Turn σ (σ.sending i w (.unsubscribe session topic)) i := by
      refine h.turn_sent (fun s hs => ?_) (fun s t hc => ?_) fun s t q hc => by cases hc
      · obtain rfl := Option.some.inj hs
        exact hheld.2.2.1
      · obtain ⟨rfl, rfl⟩ := Call.unsubscribe.inj hc
        rw [hheld.2.1]
        exact hnot
    refine h.turned hw hturn rfl (.following hrole hsafe (hheld.of_ungranted rfl rfl) ?_)
    exact fun n _ => ⟨_, k', hrest, fun s t q hc => by cases hc⟩
  | _ =>
    have hheld' := hheld.spared (hspares rfl)
    refine h.turned hw (haside rfl) rfl (.following hrole hsafe (hheld'.of_entering rfl) ?_)
    exact fun n _ => ⟨_, k', hrest, fun s t q hc => by cases hc⟩

theorem Consistent.sent_stage (h : Consistent read σ) (hw : σ.workers[i]? = some w)
    (hrest : w.rest = .ask (.call c) k') (hsent : w.sent = none)
    (hrole : w.role = .job (.resubscribe session topics)) (hnodup : topics.Nodup)
    (hsub : (σ.asked i ++ todo).Sublist topics) (hstage : Stage σ i w session todo) :
    Consistent read (σ.sending i w c) := by
  cases hstage with
  | finished h' | renewing h' | looking h' | yielding h' => cases hrest.symm.trans h'
  | awaiting h' hsent' =>
    rw [hsent] at hsent'
    cases hsent'
  | @subscribing topic qos todo h' _ hheld hfound =>
    obtain rfl := Request.call.inj (Routine.ask.inj (hrest.symm.trans h')).1
    have hturn : Turn σ (σ.sending i w (.subscribe session topic qos)) i := by
      refine h.turn_sent (fun s hs => ?_) nofun fun s t q hc => ?_
      · obtain rfl := Option.some.inj hs
        exact hheld
      · obtain ⟨rfl, rfl, rfl⟩ := Call.subscribe.inj hc
        exact .inr hfound.kept
    have hasked : (σ.sending i w (.subscribe session topic qos)).asked i = σ.asked i ++ [topic] := by
      simp [Interplay.sending, Interplay.asked, Note.askedBy]
    have hless : ((σ.sending i w (.subscribe session topic qos)).asked i ++ todo).Sublist topics := by
      rw [hasked, List.append_assoc]
      exact hsub
    refine h.turned hw hturn rfl (.resubscribing hrole hnodup hless (.awaiting h' rfl hheld ?_))
    refine ⟨hfound.read, ?_, hfound.current⟩
    simp [Interplay.sending, dropped, Note.leaves, hfound.kept]

theorem Consistent.sent (h : Consistent read σ) (hw : σ.workers[i]? = some w)
    (hrest : w.rest = .ask (.call c) k') (hsent : w.sent = none) :
    Consistent read (σ.sending i w c) := by
  cases h.workers i w hw with
  | following hrole hsafe hheld => exact h.sent_following hw hrest hrole hsafe hheld
  | listening hrole h' | alerted hrole h' | heralding hrole h' => cases hrest.symm.trans h'
  | resubscribing hrole hnodup hsub hstage =>
    exact h.sent_stage hw hrest hsent hrole hnodup hsub hstage

theorem Consistent.again (h : Consistent read σ) (hw : σ.workers[i]? = some w)
    (hrest : w.rest = .done true) :
    Consistent read (σ.replaced i { w with rest := w.role.routine settings read }) := by
  cases h.workers i w hw with
  | following hrole hsafe hheld hsent =>
    refine h.turned hw h.turn_idle rfl (standing_of_follows settings hrole rfl ?_)
    cases hn : w.sent with
    | none => rfl
    | some n =>
      obtain ⟨c, k, hcall, -⟩ := hsent n hn
      cases hrest.symm.trans hcall
  | listening hrole h' | alerted hrole h' | heralding hrole h' => cases hrest.symm.trans h'
  | resubscribing hrole hnodup hsub hstage =>
    cases hstage with
    | finished h' | renewing h' | looking h' | subscribing h' | awaiting h' | yielding h' =>
      cases hrest.symm.trans h'

theorem Consistent.step (h : Consistent read σ) (hs : Interplay.Step settings read σ σ') :
    Consistent read σ' := by
  cases hs with
  | start op => exact h.starting (standing_of_follows settings trivial rfl rfl)
  | reconnect session => exact h.of_same rfl rfl rfl rfl
  | send hw hrest hsent => exact h.sent hw hrest hsent
  | serve hw hrest hcall hallow => exact h.served hw hrest hcall hallow
  | again hw hrest => exact h.again hw hrest

theorem Interplay.Reachable.consistent (h : Reachable settings read σ) : Consistent read σ := by
  obtain ⟨cache, h⟩ := h
  induction h with
  | refl =>
    exact {
      proper := ⟨Ledger.sound_empty, rfl⟩
      listed := by
        rintro session topic qos ⟨l, hl, -⟩
        cases hl
      orderly := trivial
      unborn := fun _ _ => rfl
      workers := by simp }
  | tail _ hs ih => exact ih.step hs

end Served

end SensorBridge
