import SensorBridge.Proofs.CatalogChanges
import SensorBridge.Proofs.Publication

/-!
What the observers of a catalog see. Each one learns the history of the catalog since its registration,
change by change, so that it can keep a replica of it.
-/
namespace SensorBridge

/-! ### Changes replayed -/

namespace Change

variable {es es' : List Source} {change : Change} {changes : List Change}

/-- What a replica does with a change. -/
def replay (es : List Source) : Change → List Source
  | .created s => Catalog.put s es
  | .updated _ new => Catalog.put new es
  | .deleted s => es.filter (·.id != s.id)

/-- What a change says of the data source before it holds of these. -/
def Fits (es : List Source) : Change → Prop
  | .created _ => True
  | .updated old new => es.find? (·.id == new.id) = some old
  | .deleted s => es.find? (·.id == s.id) = some s

/-- Changes that fit one after the other, and what they make. -/
def Leads (es : List Source) : List Change → List Source → Prop
  | [], es' => es = es'
  | change :: rest, es' => change.Fits es ∧ Leads (change.replay es) rest es'

theorem Leads.replayed (h : Leads es changes es') : changes.foldl replay es = es' := by
  induction changes generalizing es with
  | nil => exact h
  | cons change rest ih => exact ih h.2

theorem Leads.snoc (h : Leads es changes es') (hfits : change.Fits es') :
    Leads es (changes ++ [change]) (change.replay es') := by
  induction changes generalizing es with
  | nil =>
    obtain rfl := h
    exact ⟨hfits, rfl⟩
  | cons first rest ih => exact ⟨h.1, ih h.2⟩

/-- Each change fits what the ones before it make. -/
theorem Leads.fits {before after : List Change} (h : Leads es (before ++ change :: after) es') :
    change.Fits (before.foldl replay es) := by
  induction before generalizing es with
  | nil => exact h.1
  | cons first rest ih => exact ih h.2

end Change

namespace Publisher

/-! ### The calls and the history -/

/-- The change of the call was delivered to the observers. -/
def isDelivered : Except CatalogError Unit → Bool
  | .ok () | .error (.observer _) => true
  | .error _ => false

/-- The history has one change of each call that made one. -/
structure Recorded (σ : Publisher) : Prop where
  distinct : (σ.history.map (·.call)).Nodup
  known : ∀ n ∈ σ.history, ∃ m phase, σ.calls[n.call]? = some ⟨m, phase⟩ ∧
    (∃ c c', m.apply c = .ok (c', n.change)) ∧
    (phase = .inside ∧ σ.guard.notice? = some n ∨ ∃ result, phase = .ended result ∧ isDelivered result)
  made : ∀ i m result, σ.calls[i]? = some ⟨m, .ended result⟩ → isDelivered result →
    ∃ n ∈ σ.history, n.call = i
  underWay : ∀ n, σ.guard.notice? = some n →
    n ∈ σ.history ∧ ∃ m, σ.calls[n.call]? = some ⟨m, .inside⟩

section Records

variable {σ σ' : Publisher} {i : Nat} {m : Mutation} {n : Notice}

theorem isDelivered_afterDelivery (results : List Ack) : isDelivered (Catalog.afterDelivery results) := by
  unfold Catalog.afterDelivery
  split
  · rfl
  · rfl

theorem undelivered_bind {α β : Type} {x : Except CatalogError α} {f : α → Except CatalogError β}
    (hx : ∀ e, x = .error e → isDelivered (.error e) = false)
    (hf : ∀ a e, f a = .error e → isDelivered (.error e) = false) :
    ∀ e, x >>= f = .error e → isDelivered (.error e) = false := by
  intro e he
  cases x with
  | error e' =>
    obtain rfl : e' = e := Except.error.inj he
    exact hx e' rfl
  | ok a => exact hf a e he

/-- A mutation that is refused does not fail for an observer. -/
theorem undelivered_apply {c : Catalog} :
    ∀ e, m.apply c = .error e → isDelivered (.error e) = false := by
  have hvalidate : ∀ s e, Catalog.validate s = .error e → isDelivered (.error e) = false := by
    intro s e he
    unfold Catalog.validate at he
    split at he <;> cases he
    rfl
  have hget : ∀ id e, c.get id = .error e → isDelivered (.error e) = false := by
    intro id e he
    unfold Catalog.get at he
    split at he <;> cases he
    rfl
  have hunique : ∀ s e, c.checkUnique s = .error e → isDelivered (.error e) = false := by
    intro s e he
    unfold Catalog.checkUnique at he
    split at he <;> cases he
    rfl
  cases m with
  | add id s =>
    exact undelivered_bind (hvalidate s) fun _ => undelivered_bind (hunique _) fun _ _ h => nomatch h
  | update id s =>
    exact undelivered_bind (hvalidate s) fun _ => undelivered_bind (hget id) fun _ =>
      undelivered_bind (hunique _) fun _ _ h => nomatch h
  | delete id => exact undelivered_bind (hget id) fun _ _ h => nomatch h

/-- The call that has the lock and has made no change yet is not in the history. -/
theorem Recorded.unmade (h : σ.Recorded) (hguard : σ.guard = .held i)
    (hcall : σ.calls[i]? = some ⟨m, .inside⟩) (hn : n ∈ σ.history) : n.call ≠ i := by
  rintro rfl
  obtain ⟨m', phase, hcall', -, ⟨-, hnotice⟩ | ⟨result, rfl, -⟩⟩ := h.known n hn
  · rw [hguard] at hnotice
    cases hnotice
  · rw [hcall] at hcall'
    cases hcall'

/-- A step of the observers. -/
theorem Recorded.observed (h : σ.Recorded) (hcalls : σ'.calls = σ.calls)
    (hhistory : σ'.history = σ.history) (hguard : σ'.guard.notice? = σ.guard.notice?) :
    σ'.Recorded := by
  obtain ⟨distinct, known, made, underWay⟩ := h
  refine ⟨?_, ?_, ?_, ?_⟩
  · rwa [hhistory]
  · rwa [hhistory, hcalls, hguard]
  · rwa [hhistory, hcalls]
  · rwa [hhistory, hcalls, hguard]

theorem getElem?_set_call {calls : List ClientCall} {c c' : ClientCall} {k : Nat} (h : calls[i]? = some c) :
    (calls.set i c')[k]? = if k = i then some c' else calls[k]? := by
  obtain ⟨hi, -⟩ := List.getElem?_eq_some_iff.mp h
  by_cases hk : k = i
  · rw [hk, List.getElem?_set_self hi, if_pos rfl]
  · rw [List.getElem?_set_ne (Ne.symm hk), if_neg hk]

theorem Recorded.called (h : σ.Recorded) : Recorded { σ with calls := σ.calls ++ [⟨m, .waiting⟩] } := by
  have hold : ∀ {k : Nat} {c : ClientCall}, σ.calls[k]? = some c →
      (σ.calls ++ [⟨m, .waiting⟩])[k]? = some c := by
    intro k c hc
    rw [List.getElem?_append_left (List.getElem?_eq_some_iff.mp hc).1, hc]
  refine ⟨h.distinct, fun n hn => ?_, fun i m' result hover => ?_, fun n hn => ?_⟩
  · obtain ⟨m', phase, hcall, hrest⟩ := h.known n hn
    exact ⟨m', phase, hold hcall, hrest⟩
  · refine h.made i m' result ?_
    -- the new call is not over
    rw [List.getElem?_append] at hover
    split at hover
    · exact hover
    · rw [List.getElem?_singleton] at hover
      split at hover <;> cases hover
  · obtain ⟨hmade, m', hcall⟩ := h.underWay n hn
    exact ⟨hmade, m', hold hcall⟩

/-- The lock was taken by a call, or given back by one that made no change. -/
theorem Recorded.unchanged {phase phase' : Phase} {guard : Guard} (h : σ.Recorded)
    (hcall : σ.calls[i]? = some ⟨m, phase⟩) (hunmade : ∀ n ∈ σ.history, n.call ≠ i)
    (hbefore : σ.guard.notice? = none) (hguard : guard.notice? = none)
    (hphase : ∀ result, phase' = .ended result → isDelivered result = false) :
    Recorded { σ with calls := σ.calls.set i ⟨m, phase'⟩, guard } := by
  refine ⟨h.distinct, fun n hn => ?_, fun k m' result hover hdelivered => ?_, fun n hn => ?_⟩
  · obtain ⟨m', phase, hknown, happly, hphase⟩ := h.known n hn
    refine ⟨m', phase, ?_, happly, ?_⟩
    · rw [getElem?_set_call hcall, if_neg (hunmade n hn), hknown]
    · rwa [hguard, ← hbefore]
  · rw [getElem?_set_call hcall] at hover
    split at hover
    · cases hover
      rw [hphase result rfl] at hdelivered
      cases hdelivered
    · exact h.made k m' result hover hdelivered
  · rw [hguard] at hn
    cases hn

theorem Recorded.committed {c : Catalog} {change : Change} {ds : List Delivery} (h : σ.Recorded)
    (hguard : σ.guard = .held i) (hcall : σ.calls[i]? = some ⟨m, .inside⟩)
    (happly : m.apply σ.catalog = .ok (c, change)) :
    Recorded { σ with catalog := c, history := σ.history ++ [⟨i, change⟩],
                      guard := .delivering ⟨i, change⟩ ds } := by
  refine ⟨?_, fun n hn => ?_, fun k m' result hover hdelivered => ?_, fun n hn => ?_⟩
  · rw [List.map_append, List.map_singleton, List.nodup_append]
    refine ⟨h.distinct, List.nodup_singleton _, fun k hk k' hk' => ?_⟩
    obtain ⟨n, hn, rfl⟩ := List.mem_map.mp hk
    obtain rfl := List.mem_singleton.mp hk'
    exact h.unmade hguard hcall hn
  · obtain hn | hn := List.mem_append.mp hn
    · obtain ⟨m', phase, hknown, hfrom, ⟨-, hnotice⟩ | hover⟩ := h.known n hn
      · rw [hguard] at hnotice
        cases hnotice
      · exact ⟨m', phase, hknown, hfrom, .inr hover⟩
    · obtain rfl := List.mem_singleton.mp hn
      exact ⟨m, .inside, hcall, ⟨σ.catalog, c, happly⟩, .inl ⟨rfl, rfl⟩⟩
  · obtain ⟨n, hn, hcalled⟩ := h.made k m' result hover hdelivered
    exact ⟨n, List.mem_append_left _ hn, hcalled⟩
  · obtain rfl := Option.some.inj hn
    exact ⟨List.mem_append_right _ List.mem_cons_self, m, hcall⟩

theorem Recorded.finished {ds : List Delivery} {results : List Ack} (h : σ.Recorded)
    (hguard : σ.guard = .delivering n ds) (hcall : σ.calls[n.call]? = some ⟨m, .inside⟩) :
    (σ.conclude n.call m (Catalog.afterDelivery results)).Recorded := by
  obtain ⟨hmade, -⟩ := h.underWay n (by rw [hguard]; rfl)
  refine ⟨h.distinct, fun n' hn' => ?_, fun k m' result hover hdelivered => ?_, fun n' hn' => ?_⟩
  · obtain ⟨m', phase, hknown, hfrom, hphase⟩ := h.known n' hn'
    by_cases hsame : n'.call = n.call
    · rw [hsame, hcall] at hknown
      cases hknown
      refine ⟨m, .ended (Catalog.afterDelivery results), ?_, hfrom,
        .inr ⟨_, rfl, isDelivered_afterDelivery results⟩⟩
      rw [conclude, getElem?_set_call hcall, if_pos hsame]
    · refine ⟨m', phase, ?_, hfrom, ?_⟩
      · rw [conclude, getElem?_set_call hcall, if_neg hsame, hknown]
      · obtain ⟨-, hnotice⟩ | hover := hphase
        · rw [hguard] at hnotice
          obtain rfl := Option.some.inj hnotice
          exact absurd rfl hsame
        · exact .inr hover
  · rw [conclude, getElem?_set_call hcall] at hover
    split at hover
    · rename_i hk
      exact ⟨n, hmade, hk.symm⟩
    · exact h.made k m' result hover hdelivered
  · cases hn'

theorem Recorded.step (h : σ.Recorded) (hstep : σ.Step σ') : σ'.Recorded := by
  cases hstep with
  | call m => exact h.called
  | acquire hguard hcall =>
    refine h.unchanged hcall (fun n hn heq => ?_) (hguard ▸ rfl) rfl (fun _ hover => by cases hover)
    obtain ⟨m', phase, hknown, -, ⟨rfl, -⟩ | ⟨_, rfl, -⟩⟩ := h.known n hn
    all_goals
      rw [heq, hcall] at hknown
      cases hknown
  | refuse hguard hcall happly =>
    refine h.unchanged hcall (fun n => h.unmade hguard hcall) (hguard ▸ rfl) rfl ?_
    rintro _ ⟨⟩
    exact undelivered_apply _ happly
  | commit hguard hcall happly => exact h.committed hguard hcall happly
  | finish results hguard hcall => exact h.finished hguard hcall
  | register isOpen hguard => exact h.observed rfl rfl rfl
  | close hobserver => exact h.observed rfl rfl rfl
  | send hguard | skip hguard | take hguard | answer _ hguard | lose hguard =>
    exact h.observed rfl rfl (by rw [hguard]; rfl)

end Records

/-! ### The observers and the history -/

/-- An observer has seen the changes since its registration, in order, but for the one that is on its
way to it; one that has closed may have missed the last ones. -/
structure Follows (σ : Publisher) (j : Nat) (o : Subscriber) : Prop where
  since : o.since ≤ σ.history.length
  leads : Change.Leads o.start ((σ.history.drop o.since).map (·.change)) σ.catalog.entries
  seen : ∃ missed, σ.history.drop o.since = o.seen ++ missed ∧ (o.isOpen → missed = σ.guard.owed j)

structure Followed (σ : Publisher) : Prop where
  leads : Change.Leads [] (σ.history.map (·.change)) σ.catalog.entries
  follows : ∀ j o, σ.observers[j]? = some o → σ.Follows j o
  /-- There is a delivery for each observer. -/
  deliveries : ∀ n ds, σ.guard = .delivering n ds → ds.length = σ.observers.length

section Following

variable {σ σ' : Publisher} {i j : Nat} {m : Mutation} {n : Notice} {ds : List Delivery}
  {o : Subscriber} {d d' : Delivery}

theorem bind_eq_ok {α β : Type} {x : Except CatalogError α} {f : α → Except CatalogError β} {b : β}
    (h : x >>= f = .ok b) : ∃ a, x = .ok a ∧ f a = .ok b := by
  cases x with
  | error e => cases h
  | ok a => exact ⟨a, rfl, h⟩

theorem find?_of_get {c : Catalog} {id : String} {old : Source} (h : c.get id = .ok old) :
    c.entries.find? (·.id == id) = some old := by
  unfold Catalog.get at h
  split at h
  · rename_i hget
    obtain rfl := Except.ok.inj h
    exact hget
  · cases h

/-- The change that a mutation makes fits the data sources before it and makes those after it. -/
theorem replay_apply {c c' : Catalog} {change : Change} (h : m.apply c = .ok (c', change)) :
    change.Fits c.entries ∧ c'.entries = change.replay c.entries := by
  cases m with
  | add id s =>
    obtain ⟨-, -, h⟩ := bind_eq_ok h
    obtain ⟨-, -, h⟩ := bind_eq_ok h
    cases h
    exact ⟨trivial, rfl⟩
  | update id s =>
    obtain ⟨-, -, h⟩ := bind_eq_ok h
    obtain ⟨old, hget, h⟩ := bind_eq_ok h
    obtain ⟨-, -, h⟩ := bind_eq_ok h
    cases h
    exact ⟨find?_of_get hget, rfl⟩
  | delete id =>
    obtain ⟨old, hget, h⟩ := bind_eq_ok h
    cases h
    have hfind := find?_of_get hget
    obtain ⟨-, rfl⟩ := key_of_find? hfind
    exact ⟨hfind, rfl⟩

/-- Whether the `k`-th observer is owed a notice after the `j`-th delivery came further. -/
theorem owed_set {k : Nat} (h : ds[j]? = some d) :
    (Guard.delivering n (ds.set j d')).owed k =
      if k = j then (if d'.isOwed then [n] else []) else (Guard.delivering n ds).owed k := by
  obtain ⟨hj, -⟩ := List.getElem?_eq_some_iff.mp h
  by_cases hk : k = j
  · rw [if_pos hk, Guard.owed, hk, List.getElem?_set_self hj]
    rfl
  · rw [if_neg hk, Guard.owed, Guard.owed, List.getElem?_set_ne (Ne.symm hk)]

/-- Nobody is owed a notice that all have answered. -/
theorem owed_answered {results : List Ack} :
    (Guard.delivering n (results.map .answered)).owed j = [] := by
  rw [Guard.owed, List.getElem?_map]
  cases results[j]? <;> rfl

/-- Nothing changes for an observer that is owed the same. -/
theorem Follows.same (h : σ.Follows j o) (hcatalog : σ'.catalog = σ.catalog)
    (hhistory : σ'.history = σ.history) (hguard : σ'.guard.owed j = σ.guard.owed j) :
    σ'.Follows j o := by
  obtain ⟨since, leads, seen⟩ := h
  refine ⟨?_, ?_, ?_⟩
  · rwa [hhistory]
  · rwa [hhistory, hcatalog]
  · rwa [hhistory, hguard]

/-- The lock passes on where nothing is delivered any more. -/
theorem Followed.same (h : σ.Followed) (hcatalog : σ'.catalog = σ.catalog)
    (hhistory : σ'.history = σ.history) (hobservers : σ'.observers = σ.observers)
    (howed : ∀ j, σ'.guard.owed j = σ.guard.owed j)
    (hguard : ∀ n ds, σ'.guard = .delivering n ds → ds.length = σ.observers.length) :
    σ'.Followed where
  leads := by
    rw [hhistory, hcatalog]
    exact h.leads
  follows := fun j o ho => (h.follows j o (hobservers ▸ ho)).same hcatalog hhistory (howed j)
  deliveries := fun n ds hd => hobservers ▸ hguard n ds hd

theorem Followed.committed {c : Catalog} {change : Change} (h : σ.Followed)
    (hguard : σ.guard = .held i) (happly : m.apply σ.catalog = .ok (c, change)) :
    Followed { σ with catalog := c, history := σ.history ++ [⟨i, change⟩],
                      guard := .delivering ⟨i, change⟩ (σ.observers.map fun _ => .waiting) } where
  leads := by
    obtain ⟨hfits, hentries⟩ := replay_apply happly
    dsimp only
    rw [hentries, List.map_append]
    exact h.leads.snoc hfits
  follows := by
    intro j o ho
    obtain ⟨since, leads, missed, hseen, hopen⟩ := h.follows j o ho
    obtain ⟨hfits, hentries⟩ := replay_apply happly
    have hdrop : ∀ n : Notice, (σ.history ++ [n]).drop o.since = σ.history.drop o.since ++ [n] :=
      fun _ => List.drop_append_of_le_length since
    refine ⟨?_, ?_, missed ++ [⟨i, change⟩], ?_, fun ho' => ?_⟩
    · rw [List.length_append]
      exact Nat.le_add_right_of_le since
    · dsimp only
      rw [hdrop, hentries, List.map_append]
      exact leads.snoc hfits
    · dsimp only
      rw [hdrop, hseen, List.append_assoc]
    · rw [hopen ho', hguard, Guard.owed, Guard.owed, List.getElem?_map, ho]
      rfl
  deliveries := by
    rintro _ _ ⟨⟩
    exact List.length_map _

/-- A delivery that comes further without the observer's seeing anything. -/
theorem Followed.advanced (h : σ.Followed) (hguard : σ.guard = .delivering n ds)
    (hd : ds[j]? = some d) (howed : ∀ o, σ.observers[j]? = some o → o.isOpen → d'.isOwed = d.isOwed) :
    (σ.advance n ds j d').Followed where
  leads := h.leads
  follows := by
    intro k o ho
    obtain ⟨since, leads, missed, hseen, hopen⟩ := h.follows k o ho
    refine ⟨since, leads, missed, hseen, fun ho' => ?_⟩
    rw [hopen ho', hguard, advance, owed_set hd]
    split
    · subst k
      rw [howed o ho ho', Guard.owed, hd]
      rfl
    · rfl
  deliveries := by
    rintro _ _ ⟨⟩
    rw [List.length_set]
    exact h.deliveries n ds hguard

theorem Followed.taken (h : σ.Followed) (hguard : σ.guard = .delivering n ds)
    (hd : ds[j]? = some .queued) (ho : σ.observers[j]? = some o) (hopen : o.isOpen) :
    Followed { σ.advance n ds j .taken with
      observers := σ.observers.set j { o with seen := o.seen ++ [n] } } where
  leads := h.leads
  follows := by
    intro k o' ho'
    obtain ⟨hj, -⟩ := List.getElem?_eq_some_iff.mp ho
    by_cases hk : k = j
    · subst k
      rw [List.getElem?_set_self hj] at ho'
      obtain rfl := Option.some.inj ho'
      obtain ⟨since, leads, missed, hseen, hmissed⟩ := h.follows j o ho
      have howed : missed = [n] := by
        rw [hmissed hopen, hguard, Guard.owed, hd]
        rfl
      refine ⟨since, leads, [], ?_, fun _ => ?_⟩
      · dsimp only [advance]
        rw [hseen, howed, List.append_nil]
      · dsimp only [advance]
        rw [owed_set hd, if_pos rfl]
        rfl
    · rw [List.getElem?_set_ne (Ne.symm hk)] at ho'
      refine (h.follows k o' ho').same rfl rfl ?_
      dsimp only [advance]
      rw [owed_set hd, if_neg hk, hguard]
  deliveries := by
    rintro _ _ ⟨⟩
    rw [List.length_set, List.length_set]
    exact h.deliveries n ds hguard

theorem Followed.registered {isOpen : Bool} (h : σ.Followed) (hguard : σ.guard = .free) :
    Followed { σ with
      observers := σ.observers ++ [⟨isOpen, σ.catalog.entries, σ.history.length, []⟩] } where
  leads := h.leads
  follows := by
    intro j o ho
    rw [List.getElem?_append] at ho
    split at ho
    · exact (h.follows j o ho).same rfl rfl rfl
    · rw [List.getElem?_singleton] at ho
      split at ho <;> cases ho
      refine ⟨Nat.le_refl _, ?_, [], ?_, fun _ => ?_⟩
      · dsimp only
        rw [List.drop_length]
        rfl
      · dsimp only
        rw [List.drop_length]
        rfl
      · dsimp only
        rw [hguard]
        rfl
  deliveries := by
    intro n ds hd
    rw [hguard] at hd
    cases hd

theorem Followed.closed (h : σ.Followed) (ho : σ.observers[j]? = some o) :
    Followed { σ with observers := σ.observers.set j { o with isOpen := false } } where
  leads := h.leads
  follows := by
    intro k o' ho'
    obtain ⟨hj, -⟩ := List.getElem?_eq_some_iff.mp ho
    by_cases hk : k = j
    · subst k
      rw [List.getElem?_set_self hj] at ho'
      obtain rfl := Option.some.inj ho'
      obtain ⟨since, leads, missed, hseen, -⟩ := h.follows j o ho
      exact ⟨since, leads, missed, hseen, fun hopen => by cases hopen⟩
    · rw [List.getElem?_set_ne (Ne.symm hk)] at ho'
      exact (h.follows k o' ho').same rfl rfl rfl
  deliveries := by
    intro n ds hd
    rw [List.length_set]
    exact h.deliveries n ds hd

theorem Followed.step (h : σ.Followed) (hstep : σ.Step σ') : σ'.Followed := by
  cases hstep with
  | call m => exact h.same rfl rfl rfl (fun _ => rfl) h.deliveries
  | acquire hguard hcall =>
    exact h.same rfl rfl rfl (fun _ => hguard ▸ rfl) (fun _ _ hd => by cases hd)
  | refuse hguard hcall happly =>
    exact h.same rfl rfl rfl (fun _ => hguard ▸ rfl) (fun _ _ hd => by cases hd)
  | commit hguard hcall happly => exact h.committed hguard happly
  | send hguard hd ho hopen => exact h.advanced hguard hd fun _ _ _ => rfl
  | skip hguard hd ho hclosed | lose hguard hd ho hclosed =>
    refine h.advanced hguard hd fun o' ho' hopen => ?_
    rw [ho] at ho'
    obtain rfl := Option.some.inj ho'
    rw [hclosed] at hopen
    cases hopen
  | take hguard hd ho hopen => exact h.taken hguard hd ho hopen
  | answer result hguard hd => exact h.advanced hguard hd fun _ _ _ => rfl
  | finish results hguard hcall =>
    exact h.same rfl rfl rfl (fun _ => hguard ▸ owed_answered.symm) (fun _ _ hd => by cases hd)
  | register isOpen hguard => exact h.registered hguard
  | close ho => exact h.closed ho

end Following

/-! ### What clients and observers know -/

structure Faithful (σ : Publisher) : Prop where
  /-- The catalog is what the changes of its history make of an empty one. -/
  entries : (σ.history.map (·.change)).foldl Change.replay [] = σ.catalog.entries
  distinct : (σ.history.map (·.call)).Nodup
  /-- An open observer has seen all changes since its registration, once each and in order, but for the
  one that is on its way to it. -/
  seen : ∀ j o, σ.observers[j]? = some o → o.isOpen →
    σ.history.drop o.since = o.seen ++ σ.guard.owed j
  /-- An update tells which data source it replaced. -/
  replaced : ∀ o ∈ σ.observers, ∀ before old new after,
    o.changes = before ++ .updated old new :: after →
    (before.foldl Change.replay o.start).find? (·.id == new.id) = some old
  /-- While nothing is delivered, a replica made of what was seen is equal to the catalog. -/
  replica : σ.guard.notice? = none → ∀ o ∈ σ.observers, o.isOpen →
    o.changes.foldl Change.replay o.start = σ.catalog.entries
  /-- A call that is refused has made no change, and nobody has seen one. -/
  refused : ∀ i m e, σ.calls[i]? = some ⟨m, .ended (.error e)⟩ → (∀ reasons, e ≠ .observer reasons) →
    ∀ n, (n ∈ σ.history ∨ ∃ o ∈ σ.observers, n ∈ o.seen) → n.call ≠ i
  /-- A call that is not refused has made its change, and all open observers have seen it that were
  registered before. -/
  delivered : ∀ i m result, σ.calls[i]? = some ⟨m, .ended result⟩ →
    (∀ e, result = .error e → ∃ reasons, e = .observer reasons) →
    ∃ n ∈ σ.history, n.call = i ∧ (∃ c c', m.apply c = .ok (c', n.change)) ∧
      ∀ o ∈ σ.observers, o.isOpen → n ∈ σ.history.drop o.since → n ∈ o.seen

section Knowing

variable {σ σ' : Publisher} {i j : Nat} {o : Subscriber}

theorem Reachable.recorded (h : σ.Reachable) : σ.Recorded := by
  induction h with
  | refl => exact ⟨List.nodup_nil, by simp, by simp, fun _ hn => by cases hn⟩
  | tail _ hstep ih => exact ih.step hstep

theorem Reachable.followed (h : σ.Reachable) : σ.Followed := by
  induction h with
  | refl => exact ⟨rfl, by simp, fun _ _ hd => by cases hd⟩
  | tail _ hstep ih => exact ih.step hstep

theorem owed_eq_nil {guard : Guard} (h : guard.notice? = none) : guard.owed j = [] := by
  cases guard with
  | free | held => rfl
  | delivering => cases h

theorem mem_owed {guard : Guard} {n : Notice} (h : n ∈ guard.owed j) : guard.notice? = some n := by
  cases guard with
  | free | held => cases h
  | delivering n' ds =>
    dsimp only [Guard.owed] at h
    split at h
    · exact congrArg some (List.mem_singleton.mp h).symm
    · cases h

theorem isDelivered_iff {e : CatalogError} :
    isDelivered (.error e) = true ↔ ∃ reasons, e = .observer reasons := by
  cases e <;> simp [isDelivered]

/-- Whatever the clients and the observers do, observers learn the history of the catalog, and clients
learn whether they have changed it. -/
theorem faithful_of_reachable (h : σ.Reachable) : σ.Faithful := by
  obtain ⟨distinct, known, made, underWay⟩ := h.recorded
  obtain ⟨leads, follows, -⟩ := h.followed
  have hseen : ∀ j o, σ.observers[j]? = some o → o.isOpen →
      σ.history.drop o.since = o.seen ++ σ.guard.owed j := by
    intro j o ho hopen
    obtain ⟨-, -, missed, hmissed, howed⟩ := follows j o ho
    rw [hmissed, howed hopen]
  have hdropped : ∀ o ∈ σ.observers, ∀ n ∈ o.seen, n ∈ σ.history := by
    intro o ho n hn
    obtain ⟨j, hj⟩ := List.mem_iff_getElem?.mp ho
    obtain ⟨-, -, missed, hmissed, -⟩ := follows j o hj
    exact List.mem_of_mem_drop (hmissed ▸ List.mem_append_left _ hn)
  refine ⟨leads.replayed, distinct, hseen, ?_, ?_, ?_, ?_⟩
  · intro o ho before old new after hchanges
    obtain ⟨j, hj⟩ := List.mem_iff_getElem?.mp ho
    obtain ⟨-, hleads, missed, hmissed, -⟩ := follows j o hj
    rw [hmissed, List.map_append, show o.seen.map (·.change) = _ from hchanges, List.append_assoc] at hleads
    exact hleads.fits
  · intro hidle o ho hopen
    obtain ⟨j, hj⟩ := List.mem_iff_getElem?.mp ho
    have hleads := (follows j o hj).leads
    rw [hseen j o hj hopen, owed_eq_nil hidle, List.append_nil] at hleads
    exact hleads.replayed
  · rintro i m e hover hrefused n hn rfl
    have hmade : n ∈ σ.history := hn.elim id fun ⟨o, ho, hn⟩ => hdropped o ho n hn
    obtain ⟨m', phase, hcall, -, ⟨rfl, -⟩ | ⟨result, rfl, hdelivered⟩⟩ := known n hmade
    all_goals
      rw [hover] at hcall
      cases hcall
    obtain ⟨reasons, rfl⟩ := isDelivered_iff.mp hdelivered
    exact hrefused reasons rfl
  · intro i m result hover hresult
    have hdelivered : isDelivered result = true := by
      cases result with
      | ok => rfl
      | error e => exact isDelivered_iff.mpr (hresult e rfl)
    obtain ⟨n, hn, rfl⟩ := made i m result hover hdelivered
    obtain ⟨m', phase, hcall, hfrom, -⟩ := known n hn
    rw [hover] at hcall
    cases hcall
    refine ⟨n, hn, rfl, hfrom, fun o ho hopen hsince => ?_⟩
    obtain ⟨j, hj⟩ := List.mem_iff_getElem?.mp ho
    rw [hseen j o hj hopen] at hsince
    obtain hn | hn := List.mem_append.mp hsince
    · exact hn
    · -- the notice on its way is of a call that is not over
      obtain ⟨-, m', hinside⟩ := underWay n (mem_owed hn)
      rw [hover] at hinside
      cases hinside

/-- An observer rejects the change of one client, and the catalog refuses another client. -/
def rejection : Publisher :=
  let s := Catalog.crowdMember 0
  let seen : List Notice := [⟨0, .created s⟩]
  { catalog := ⟨[s]⟩
    calls := [⟨.add s.id s, .ended (.error (.observer "no"))⟩,
      ⟨.delete "b", .ended (.error (.notFound "b"))⟩]
    observers := [⟨true, [], 0, seen⟩]
    history := seen }

theorem reachable_rejection : rejection.Reachable :=
  let s := Catalog.crowdMember 0
  have hadd : Mutation.apply {} (.add s.id s) = .ok (⟨[s]⟩, .created s) :=
    Catalog.add_eq_ok ((Catalog.crowd_wellFormed 1).valid s (by simp [s, Catalog.crowd])) (by simp)
  have hdelete : Mutation.apply ⟨[s]⟩ (.delete "b") = .error (.notFound "b") := rfl
  .head (.register true rfl) <| .head (.call (.add s.id s)) <| .head (.call (.delete "b")) <|
  .head (.acquire (i := 0) rfl rfl) <| .head (.commit rfl rfl hadd) <|
  .head (.send (j := 0) rfl rfl rfl rfl) <| .head (.take (j := 0) rfl rfl rfl rfl) <|
  .head (.answer (j := 0) (.error (.rejected "no")) rfl rfl) <|
  .head (.finish [.error (.rejected "no")] rfl rfl) <|
  .head (.acquire (i := 1) rfl rfl) <| .head (.refuse rfl rfl hdelete) .refl

theorem faithful_rejection : rejection.Reachable ∧ rejection.Faithful :=
  ⟨reachable_rejection, faithful_of_reachable reachable_rejection⟩

end Knowing

end Publisher

end SensorBridge
