import Mathlib.Data.List.Basic
import SensorBridge.Proofs.Publication

/-!
The deliveries of one broadcast, which go on at once. What happens at the observers comes in any
order; each delivery is told from what happened at its own observer, and so is what the broadcast
returns.
-/
namespace SensorBridge.Broadcast

/-- What can happen at one observer. -/
inductive Move where
  | send
  /-- The channel is closed before the notice is in it. -/
  | refuse
  | take
  | reply (result : Ack)
  /-- The acknowledgment is given up without an answer. -/
  | drop
  /-- The channel is given up with the notice in it. -/
  | lose
  | close
  deriving DecidableEq

/-- An observer and how far the delivery to it is. -/
structure Line where
  isOpen : Bool
  delivery : Delivery := .waiting

/-- What a move does. An observer that closed its channel may still take what is queued there. -/
def Line.act (l : Line) (m : Move) : Option Line :=
  match l.delivery, m with
  | .waiting, .send => if l.isOpen then some { l with delivery := .queued } else none
  | .waiting, .refuse =>
    if l.isOpen then none else some { l with delivery := .answered (.error .listenerClosed) }
  | .queued, .take => some { l with delivery := .taken }
  | .queued, .lose =>
    if l.isOpen then none else some { l with delivery := .answered (.error .ackLost) }
  | .taken, .reply result => some { l with delivery := .answered result }
  | .taken, .drop => some { l with delivery := .answered (.error .ackLost) }
  | _, .close => some { l with isOpen := false }
  | _, _ => none

def Line.run (l : Line) (ms : List Move) : Option Line :=
  ms.foldlM Line.act l

/-- How far some moves bring the delivery. -/
def Line.ends (l : Line) (ms : List Move) : Option Delivery :=
  (l.run ms).map (·.delivery)

/-- One move at the observer with the given index. -/
def step (ls : List Line) (e : Nat × Move) : Option (List Line) := do
  let l ← ls[e.1]?
  return ls.set e.1 (← l.act e.2)

def run (ls : List Line) (t : List (Nat × Move)) : Option (List Line) :=
  t.foldlM step ls

/-- The moves at one observer. -/
def own (j : Nat) (t : List (Nat × Move)) : List Move :=
  t.filterMap fun e => if e.1 = j then some e.2 else none

section Lines

variable {l l' : Line} {m : Move} {ms : List Move} {result result' : Ack} {isOpen : Bool}

/-- What happens to the delivery, apart from the channel. -/
def effective (ms : List Move) : List Move :=
  ms.filter (· != .close)

theorem run_cons : l.run (m :: ms) = (l.act m).bind (·.run ms) := rfl

@[simp] theorem ends_nil : l.ends [] = some l.delivery := rfl

@[simp] theorem ends_cons : l.ends (m :: ms) = (l.act m).bind (·.ends ms) := by
  rw [Line.ends, run_cons]
  cases l.act m <;> rfl

@[simp] theorem effective_nil : effective [] = [] := rfl

@[simp] theorem effective_close : effective (.close :: ms) = effective ms := rfl

@[simp] theorem effective_cons (h : m ≠ .close) : effective (m :: ms) = m :: effective ms := by
  simp [effective, h]

@[simp] theorem act_close : l.act .close = some ⟨false, l.delivery⟩ := by
  obtain ⟨isOpen, delivery⟩ := l
  cases delivery <;> rfl

/-- From here on the channel may still be closed, and that is all. -/
theorem ends_answered : (⟨isOpen, .answered result⟩ : Line).ends ms = some (.answered result') ↔
    effective ms = [] ∧ result' = result := by
  induction ms generalizing isOpen with
  | nil => simp [eq_comm]
  | cons m ms ih =>
    cases m with
    | close => simpa using ih
    | send | refuse | take | reply | drop | lose => simp [Line.act]

theorem ends_taken : (⟨isOpen, .taken⟩ : Line).ends ms = some (.answered result) ↔
    effective ms = [.reply result] ∨ effective ms = [.drop] ∧ result = .error .ackLost := by
  induction ms generalizing isOpen with
  | nil => simp
  | cons m ms ih =>
    cases m with
    | close => simpa using ih
    | reply result' => simp [Line.act, ends_answered, and_comm, eq_comm (a := result)]
    | drop => simp [Line.act, ends_answered]
    | send | refuse | take | lose => simp [Line.act]

theorem ends_queued : (⟨isOpen, .queued⟩ : Line).ends ms = some (.answered result) ↔
    effective ms = [.take, .reply result] ∨
    (effective ms = [.take, .drop] ∨
      effective ms = [.lose] ∧ (isOpen = false ∨ ms.head? = some .close)) ∧
      result = .error .ackLost := by
  induction ms generalizing isOpen with
  | nil => simp
  | cons m ms ih =>
    cases m with
    | close => simp [ih]
    | take => simp [Line.act, ends_taken]
    | lose => cases isOpen <;> simp [Line.act, ends_answered]
    | send | refuse | reply | drop => simp [Line.act]

theorem ends_closed : (⟨false, .waiting⟩ : Line).ends ms = some (.answered result) ↔
    effective ms = [.refuse] ∧ result = .error .listenerClosed := by
  induction ms with
  | nil => simp
  | cons m ms ih =>
    cases m with
    | close => simpa using ih
    | refuse => simp [Line.act, ends_answered]
    | send | take | reply | drop | lose => simp [Line.act]

/-- The ways of a delivery, by what happened at its observer. -/
inductive Fate : Bool → List Move → Ack → Prop
  | answered {ms : List Move} {result : Ack} : effective ms = [.take, .reply result] →
      Fate true (.send :: ms) result
  | dropped {ms : List Move} : effective ms = [.take, .drop] →
      Fate true (.send :: ms) (.error .ackLost)
  /-- The channel was closed while the notice was in it. -/
  | lost {ms : List Move} : effective ms = [.lose] → ms.head? = some .close →
      Fate true (.send :: ms) (.error .ackLost)
  /-- The channel was closed before the notice was in it. -/
  | refused {isOpen : Bool} {ms : List Move} : effective ms = [.refuse] →
      isOpen = false ∨ ms.head? = some .close → Fate isOpen ms (.error .listenerClosed)

/-- A delivery is over exactly if it went one of these ways. -/
theorem ends_eq_answered_iff : (⟨isOpen, .waiting⟩ : Line).ends ms = some (.answered result) ↔
    Fate isOpen ms result := by
  constructor
  · intro h
    cases isOpen with
    | false =>
      obtain ⟨hms, rfl⟩ := ends_closed.mp h
      exact .refused hms (.inl rfl)
    | true =>
      cases ms with
      | nil => simp at h
      | cons m ms =>
        cases m with
        | close =>
          obtain ⟨hms, rfl⟩ := ends_closed.mp (by simpa using h)
          exact .refused hms (.inr rfl)
        | send =>
          have hrest : (⟨true, .queued⟩ : Line).ends ms = some (.answered result) := by
            simpa [Line.act] using h
          obtain hms | ⟨hms | ⟨hms, hclosed⟩, rfl⟩ := ends_queued.mp hrest
          · exact .answered hms
          · exact .dropped hms
          · exact .lost hms (hclosed.resolve_left Bool.noConfusion)
        | refuse | take | reply | drop | lose => simp [Line.act] at h
  · rintro (hms | hms | ⟨hms, hclosed⟩ | ⟨hms, hclosed⟩)
    · simp [Line.act, ends_queued, hms]
    · simp [Line.act, ends_queued, hms]
    · simp [Line.act, ends_queued, hms, hclosed]
    · cases isOpen with
      | false => exact ends_closed.mpr ⟨hms, rfl⟩
      | true =>
        obtain ⟨rest, rfl⟩ : ∃ rest, ms = .close :: rest :=
          List.head?_eq_some_iff.mp (hclosed.resolve_left Bool.noConfusion)
        have hrest := ends_closed.mpr ⟨hms, rfl⟩
        simpa using hrest

/-- How many moves a delivery takes at most. -/
def movesLeft : Delivery → Nat
  | .waiting => 3
  | .queued => 2
  | .taken => 1
  | .answered _ => 0

theorem movesLeft_act (h : l.act m = some l') :
    (effective [m]).length + movesLeft l'.delivery ≤ movesLeft l.delivery := by
  obtain ⟨isOpen, delivery⟩ := l
  cases delivery <;> cases m <;> cases isOpen <;> simp [Line.act] at h <;>
    subst h <;> simp [movesLeft]

theorem length_effective_le (h : l.run ms = some l') :
    (effective ms).length + movesLeft l'.delivery ≤ movesLeft l.delivery := by
  induction ms generalizing l with
  | nil =>
    obtain rfl : l = l' := by simpa [Line.run] using h
    simp
  | cons m ms ih =>
    obtain ⟨l₁, hact, hrest⟩ := Option.bind_eq_some_iff.mp h
    have hfirst := movesLeft_act hact
    have hlater := ih hrest
    have hsplit : effective (m :: ms) = effective [m] ++ effective ms := List.filter_append [m] ms
    rw [hsplit, List.length_append]
    omega

/-- A delivery that is not over can go on. -/
theorem exists_act (l : Line) :
    (∃ result, l.delivery = .answered result) ∨ ∃ m, m ≠ .close ∧ (l.act m).isSome := by
  obtain ⟨isOpen, delivery⟩ := l
  cases delivery with
  | waiting =>
    right
    by_cases hopen : isOpen
    · exact ⟨.send, by simp, by simp [Line.act, hopen]⟩
    · exact ⟨.refuse, by simp, by simp [Line.act, hopen]⟩
  | queued => exact .inr ⟨.take, by simp, rfl⟩
  | taken => exact .inr ⟨.drop, by simp, rfl⟩
  | answered result => exact .inl ⟨result, rfl⟩

theorem Fate.unique (h : Fate isOpen ms result) (h' : Fate isOpen ms result') : result = result' := by
  have heq := (ends_eq_answered_iff.mpr h).symm.trans (ends_eq_answered_iff.mpr h')
  simpa using heq

theorem count_effective (h : m ≠ .close) : (effective ms).count m = ms.count m :=
  List.count_filter (by simpa using h)

end Lines

section Runs

variable {ls ls' : List Line} {t : List (Nat × Move)} {e : Nat × Move} {j : Nat}

theorem own_cons_self {m : Move} : own j ((j, m) :: t) = m :: own j t := by
  simp [own]

theorem own_cons_of_ne {m : Move} {i : Nat} (h : i ≠ j) : own j ((i, m) :: t) = own j t := by
  simp [own, h]

theorem mem_own {m : Move} : m ∈ own j t ↔ (j, m) ∈ t := by
  simp [own, List.mem_filterMap]

/-- A move at one observer and a run after it, as its own delivery and the others see them. -/
theorem bind_run_set {l l₁ : Line} {i : Nat} {m : Move} (hl : ls[i]? = some l)
    (hact : l.act m = some l₁) (j : Nat) :
    ((ls.set i l₁)[j]?.bind fun l => l.run (own j t)) =
      ls[j]?.bind fun l => l.run (own j ((i, m) :: t)) := by
  obtain ⟨hi, -⟩ := List.getElem?_eq_some_iff.mp hl
  by_cases hij : i = j
  · subst hij
    rw [List.getElem?_set_self hi, hl, own_cons_self]
    simp only [Option.bind_some, run_cons, hact]
  · rw [List.getElem?_set_ne hij, own_cons_of_ne hij]

/-- Moves at one observer leave the others alone, so each delivery runs as if it were the only one. -/
theorem run_eq_some_iff : run ls t = some ls' ↔
    (∀ e ∈ t, e.1 < ls.length) ∧ ls'.length = ls.length ∧
      ∀ j : Nat, ls'[j]? = ls[j]?.bind fun l => l.run (own j t) := by
  induction t generalizing ls with
  | nil =>
    have hnil (j : Nat) : (ls[j]?.bind fun l => l.run (own j [])) = ls[j]? := Option.bind_fun_some _
    simp only [hnil, List.not_mem_nil, false_implies, implies_true, true_and]
    constructor
    · intro h
      obtain rfl : ls = ls' := by simpa [run] using h
      exact ⟨rfl, fun _ => rfl⟩
    · rintro ⟨-, h⟩
      rw [List.ext_getElem? h]
      rfl
  | cons e t ih =>
    obtain ⟨i, m⟩ := e
    have hrun : run ls ((i, m) :: t) = (step ls (i, m)).bind (run · t) := rfl
    rw [hrun, step, List.forall_mem_cons]
    cases hl : ls[i]? with
    | none =>
      have hi : ¬ i < ls.length := Nat.not_lt.mpr (List.getElem?_eq_none_iff.mp hl)
      simp [hi]
    | some l =>
      obtain ⟨hi, -⟩ := List.getElem?_eq_some_iff.mp hl
      cases hact : l.act m with
      | none =>
        -- The delivery at `i` would have to end nowhere.
        simp only [Option.bind_eq_bind, Option.bind_some, hact, Option.bind_none, reduceCtorEq, false_iff]
        rintro ⟨-, hlength, h⟩
        have hnone := h i
        rw [hl, own_cons_self, Option.bind_some, run_cons, hact, Option.bind_none,
          List.getElem?_eq_none_iff] at hnone
        omega
      | some l₁ =>
        simp only [Option.bind_eq_bind, Option.bind_some, hact, Option.pure_def, ih,
          List.length_set, bind_run_set hl hact, hi, true_and]

/-- All observers, before anything has happened. -/
def waiting (opens : List Bool) : List Line :=
  opens.map fun isOpen => ⟨isOpen, .waiting⟩

/-- All deliveries are over, with these results. -/
def Concludes (opens : List Bool) (t : List (Nat × Move)) (results : List Ack) : Prop :=
  ∃ ls, run (waiting opens) t = some ls ∧ ls.map (·.delivery) = results.map .answered

variable {opens : List Bool} {results results' : List Ack} {isOpen : Bool} {result : Ack}

theorem getElem?_waiting {j : Nat} (h : opens[j]? = some isOpen) :
    (waiting opens)[j]? = some ⟨isOpen, .waiting⟩ := by
  rw [waiting, List.getElem?_map, h]
  rfl

theorem no_result {j : Nat} (hlength : results.length = opens.length) (hopen : opens[j]? = none) :
    results[j]? = none := by
  rwa [List.getElem?_eq_none_iff, hlength, ← List.getElem?_eq_none_iff]

theorem Concludes.fates (h : Concludes opens t results) :
    (∀ e ∈ t, e.1 < opens.length) ∧ results.length = opens.length ∧
      ∀ j isOpen result, opens[j]? = some isOpen → results[j]? = some result →
        Fate isOpen (own j t) result := by
  obtain ⟨ls, hrun, hls⟩ := h
  obtain ⟨hin, hlength, heach⟩ := run_eq_some_iff.mp hrun
  rw [waiting, List.length_map] at hin hlength
  have hresults : results.length = ls.length := by
    simpa using (congrArg List.length hls).symm
  refine ⟨hin, hresults.trans hlength, ?_⟩
  intro j isOpen result hopen hresult
  have hdelivery : ls[j]?.map (·.delivery) = some (.answered result) := by
    rw [← List.getElem?_map, hls, List.getElem?_map, hresult]
    rfl
  rw [heach, getElem?_waiting hopen] at hdelivery
  exact ends_eq_answered_iff.mp hdelivery

/-- Whatever the order, the deliveries are over when each of them is. -/
theorem concludes_of_fates (hin : ∀ e ∈ t, e.1 < opens.length) (hlength : results.length = opens.length)
    (hfates : ∀ j isOpen result, opens[j]? = some isOpen → results[j]? = some result →
      Fate isOpen (own j t) result) : Concludes opens t results := by
  have heach : ∀ j isOpen, opens[j]? = some isOpen → ∃ l result,
      (⟨isOpen, .waiting⟩ : Line).run (own j t) = some l ∧ results[j]? = some result ∧
        l.delivery = .answered result := by
    intro j isOpen hopen
    obtain ⟨hj, -⟩ := List.getElem?_eq_some_iff.mp hopen
    have hresult := List.getElem?_eq_getElem (hlength ▸ hj)
    obtain ⟨l, hl, hdelivery⟩ :=
      Option.map_eq_some_iff.mp (ends_eq_answered_iff.mpr (hfates j _ _ hopen hresult))
    exact ⟨l, _, hl, hresult, hdelivery⟩
  refine ⟨(waiting opens).mapIdx fun j l => (l.run (own j t)).getD l,
    run_eq_some_iff.mpr ⟨by simpa [waiting] using hin, List.length_mapIdx, ?_⟩, ?_⟩
  · intro j
    cases hopen : opens[j]? with
    | none => simp [waiting, hopen]
    | some isOpen =>
      obtain ⟨l, result, hl, -, -⟩ := heach j isOpen hopen
      simp [waiting, hopen, hl]
  · apply List.ext_getElem?
    intro j
    cases hopen : opens[j]? with
    | none => simp [waiting, hopen, no_result hlength hopen]
    | some isOpen =>
      obtain ⟨l, result, hl, hresult, hdelivery⟩ := heach j isOpen hopen
      simp [waiting, hopen, hl, hresult, hdelivery]

end Runs

/-! ### What the broadcast returns -/

section Results

variable {opens : List Bool} {t t' : List (Nat × Move)} {ms : List Move} {isOpen : Bool}
  {results : List Ack} {result : Ack}

def Move.answer? : Move → Option Answer
  | .reply result => some (.ack result)
  | .drop => some .drop
  | .lose => some .close
  | .send | .refuse | .take | .close => none

/-- An observer that answers as one did with these moves. -/
def answerer (ms : List Move) : Observer where
  answers := ms.filterMap Move.answer?

def answerers (n : Nat) (t : List (Nat × Move)) : List Observer :=
  (List.range n).map fun j => answerer (own j t)

theorem answerer_effective : answerer (effective ms) = answerer ms := by
  rw [answerer, answerer, effective, List.filterMap_filter]
  congr 2
  funext m
  cases m <;> rfl

theorem answerer_send : answerer (.send :: ms) = answerer ms := rfl

theorem Fate.notify (h : Fate isOpen ms result) :
    (answerer ms).notify.1 = result ∧ (answerer ms).notify.2.1 = decide (.send ∈ ms) := by
  cases h with
  | answered hms | dropped hms | lost hms =>
    rw [answerer_send, ← answerer_effective, hms]
    exact ⟨rfl, (decide_eq_true List.mem_cons_self).symm⟩
  | refused hms =>
    have hsend : .send ∉ ms := by
      intro hmem
      have heffective : .send ∈ effective ms := List.mem_filter.mpr ⟨hmem, rfl⟩
      simp [hms] at heffective
    rw [← answerer_effective, hms, decide_eq_false hsend]
    exact ⟨rfl, rfl⟩

theorem Fate.count_send (h : Fate isOpen ms result) :
    ms.count .send = if isOpen && ms.head? != some .close then 1 else 0 := by
  rw [← count_effective (by simp)]
  cases h with
  | answered hms | dropped hms | lost hms => simp [hms]
  | refused hms hclosed =>
    have hclosed' : (isOpen && ms.head? != some .close) = false := by
      obtain rfl | hhead := hclosed
      · rfl
      · simp [hhead]
    rw [hms, hclosed']
    rfl

theorem Fate.count_take (h : Fate true ms result) (hclose : .close ∉ ms) : ms.count .take = 1 := by
  rw [← count_effective (by simp)]
  cases h with
  | answered hms | dropped hms => simp [hms]
  | lost hms hclosed => exact absurd (List.mem_cons_of_mem _ (List.mem_of_head? hclosed)) hclose
  | refused hms hclosed =>
    exact absurd (List.mem_of_head? (hclosed.resolve_left Bool.noConfusion)) hclose

theorem map_failures (results : List Ack) : (failures results).map .error =
    results.filter fun r => r != .ok () && r != .error .listenerClosed := by
  induction results with
  | nil => rfl
  | cons r rs ih =>
    rw [failures] at ih ⊢
    rcases r with e | ⟨⟩
    · cases e <;> simp [ih]
    · simp [ih]

/-- How a mutation ends that the catalog takes. -/
def verdict {α : Type} (x : α) (fs : List AckError) : Except CatalogError α :=
  if fs = [] then .ok x else .error (.observer ("; ".intercalate (fs.map AckError.message)))

theorem commit_verdict {α : Type} (c : ObservedCatalog) (x : α) (catalog : Catalog) (change : Change) :
    (c.commit x catalog change).1.result =
      verdict x (failures ((broadcast c.observers).1.map (·.1))) := by
  have hresult : (c.commit x catalog change).1.result =
    (Catalog.afterDelivery ((broadcast c.observers).1.map (·.1))).map fun _ => x := rfl
  rw [hresult, Catalog.afterDelivery, verdict]
  cases failures ((broadcast c.observers).1.map (·.1)) <;> rfl

/-- How the mutations end that a catalog takes, if its observers report these failures. -/
structure Mutates (c : ObservedCatalog) (fs : List AckError) : Prop where
  added : ∀ s catalog change,
    c.catalog.add (ObservedCatalog.nthId (c.created + 1)) s = .ok (catalog, change) →
    (c.add s).1.result = verdict (ObservedCatalog.nthId (c.created + 1)) fs
  updated : ∀ id s catalog change, c.catalog.update id s = .ok (catalog, change) →
    (c.update id s).1.result = verdict () fs
  deleted : ∀ id catalog change, c.catalog.delete id = .ok (catalog, change) →
    (c.delete id).1.result = verdict () fs

theorem mutates (c : ObservedCatalog) :
    Mutates c (failures ((broadcast c.observers).1.map (·.1))) where
  added := by
    intro s catalog change h
    simp only [ObservedCatalog.add, h]
    exact commit_verdict ..
  updated := by
    intro id s catalog change h
    simp only [ObservedCatalog.update, h]
    exact commit_verdict ..
  deleted := by
    intro id catalog change h
    simp only [ObservedCatalog.delete, h]
    exact commit_verdict ..

/-- What has become of a broadcast when all deliveries are over. -/
structure Delivered (opens : List Bool) (t : List (Nat × Move)) (results : List Ack) : Prop where
  /-- An observer gets the notice once, unless it closed its channel before. -/
  handed : ∀ j isOpen, opens[j]? = some isOpen →
    (own j t).count .send = if isOpen && (own j t).head? != some .close then 1 else 0
  taken : ∀ j, opens[j]? = some true → .close ∉ own j t → (own j t).count .take = 1
  /-- There is one result for each observer, and it tells how that one fared. -/
  length : results.length = opens.length
  fates : ∀ j isOpen result, opens[j]? = some isOpen → results[j]? = some result →
    Fate isOpen (own j t) result
  /-- In another order, as long as no observer does otherwise, the results are the same. -/
  reordered : ∀ t', (∀ j, own j t' = own j t) →
    ∀ results', Concludes opens t' results' ↔ results' = results
  /-- Whatever the others do. -/
  independent : ∀ opens' t' results', Concludes opens' t' results' →
    ∀ j k, opens'[k]? = opens[j]? → own k t' = own j t → results'[k]? = results[j]?
  answers : (broadcast (answerers opens.length t)).1 =
    results.mapIdx fun j result => (result, decide (.send ∈ own j t))
  reported : (failures results).map .error =
    results.filter fun r => r != .ok () && r != .error .listenerClosed
  mutations : ∀ c : ObservedCatalog, c.observers = answerers opens.length t →
    Mutates c (failures results)

theorem Concludes.reordered (h : Concludes opens t results) (hsame : ∀ j, own j t' = own j t) :
    Concludes opens t' results := by
  obtain ⟨hin, hlength, hfates⟩ := h.fates
  refine concludes_of_fates ?_ hlength ?_
  · rintro ⟨j, m⟩ hm
    rw [← mem_own, hsame, mem_own] at hm
    exact hin _ hm
  · intro j isOpen result hopen hresult
    rw [hsame]
    exact hfates j isOpen result hopen hresult

theorem Concludes.exists_result {j : Nat} (h : Concludes opens t results)
    (hopen : opens[j]? = some isOpen) :
    ∃ result, results[j]? = some result ∧ Fate isOpen (own j t) result := by
  obtain ⟨-, hlength, hfates⟩ := h.fates
  obtain ⟨hj, -⟩ := List.getElem?_eq_some_iff.mp hopen
  have hresult := List.getElem?_eq_getElem (hlength ▸ hj)
  exact ⟨_, hresult, hfates j _ _ hopen hresult⟩

theorem Concludes.independent {opens' : List Bool} {results' : List Ack} {j k : Nat}
    (h : Concludes opens t results) (h' : Concludes opens' t' results')
    (hopens : opens'[k]? = opens[j]?) (hsame : own k t' = own j t) : results'[k]? = results[j]? := by
  cases hopen : opens[j]? with
  | none => rw [no_result h.fates.2.1 hopen, no_result h'.fates.2.1 (hopens.trans hopen)]
  | some isOpen =>
    obtain ⟨result, hresult, hfate⟩ := h.exists_result hopen
    obtain ⟨result', hresult', hfate'⟩ := h'.exists_result (hopens.trans hopen)
    rw [hsame] at hfate'
    rw [hresult, hresult', hfate.unique hfate']

theorem Concludes.answers (h : Concludes opens t results) :
    (broadcast (answerers opens.length t)).1 =
      results.mapIdx fun j result => (result, decide (.send ∈ own j t)) := by
  obtain ⟨-, hlength, hfates⟩ := h.fates
  have hbroadcast : (broadcast (answerers opens.length t)).1 = (List.range opens.length).map fun j =>
      ((answerer (own j t)).notify.1, (answerer (own j t)).notify.2.1) := by
    rw [broadcast, answerers, List.map_map, List.map_map]
    rfl
  rw [hbroadcast]
  apply List.ext_getElem
  · simp [hlength]
  · intro j hj hj'
    have hopen : j < opens.length := by simpa using hj
    have hnotify := (hfates j _ _ (List.getElem?_eq_getElem hopen)
      (List.getElem?_eq_getElem (hlength ▸ hopen))).notify
    simp [hnotify.1, hnotify.2]

theorem Concludes.delivered (h : Concludes opens t results) : Delivered opens t results := by
  obtain ⟨-, hlength, hfates⟩ := h.fates
  refine ⟨?_, ?_, hlength, hfates, ?_, ?_, h.answers, map_failures results, ?_⟩
  · intro j isOpen hopen
    obtain ⟨result, -, hfate⟩ := h.exists_result hopen
    exact hfate.count_send
  · intro j hopen hclose
    obtain ⟨result, -, hfate⟩ := h.exists_result hopen
    exact hfate.count_take hclose
  · intro t' hsame results'
    constructor
    · intro h'
      apply List.ext_getElem?
      intro j
      exact h.independent h' rfl (hsame j)
    · rintro rfl
      exact h.reordered hsame
  · intro opens' t' results' h' j k hopens hsame
    exact h.independent h' hopens hsame
  · intro c hc
    have hresults : (broadcast c.observers).1.map (·.1) = results := by
      rw [hc, h.answers]
      apply List.ext_getElem <;> simp
    have hmutates := mutates c
    rwa [hresults] at hmutates

/-- What an observer that answers as laid down does with one notice. -/
def script (o : Observer) : List Move :=
  match o.answers with
  | [] => [.refuse]
  | .ack result :: _ => [.send, .take, .reply result]
  | .drop :: _ => [.send, .take, .drop]
  | .close :: _ => [.send, .close, .lose]

theorem fate_script (o : Observer) : Fate (!o.isClosed) (script o) o.notify.1 := by
  obtain ⟨answers⟩ := o
  match answers with
  | [] => exact .refused rfl (.inl rfl)
  | [.ack _] | .ack _ :: _ :: _ => exact .answered rfl
  | [.drop] | .drop :: _ :: _ => exact .dropped rfl
  | .close :: _ => exact .lost rfl rfl

/-- Observers that answer as laid down, in whatever order: the deliveries end with the results of
the broadcast. -/
theorem concludes_of_script {observers : List Observer} (hin : ∀ e ∈ t, e.1 < observers.length)
    (hscript : ∀ j o, observers[j]? = some o → own j t = script o) :
    Concludes (observers.map fun o => !o.isClosed) t ((broadcast observers).1.map (·.1)) := by
  rw [map_fst_broadcast]
  refine concludes_of_fates (by simpa using hin) (by simp) ?_
  intro j isOpen result hopen hresult
  rw [List.getElem?_map] at hopen hresult
  obtain ⟨o, ho, rfl⟩ := Option.map_eq_some_iff.mp hopen
  obtain rfl : o.notify.1 = result := by simpa [ho] using hresult
  rw [hscript j o ho]
  exact fate_script o

/-- A broadcast under way. -/
structure Underway (opens : List Bool) (t : List (Nat × Move)) (ls : List Line) : Prop where
  /-- A delivery that is not over can go on, however far the others are. -/
  goesOn : ∀ j l, ls[j]? = some l →
    (∃ result, l.delivery = .answered result) ∨ ∃ m, m ≠ .close ∧ (step ls (j, m)).isSome
  moves : ∀ j, (effective (own j t)).length ≤ 3
  delivered : ∀ results, ls.map (·.delivery) = results.map .answered → Delivered opens t results

theorem delivers_in_any_order {ls : List Line} (h : run (waiting opens) t = some ls) :
    Underway opens t ls where
  goesOn := by
    intro j l hl
    obtain hover | ⟨m, hm, hact⟩ := exists_act l
    · exact .inl hover
    · refine .inr ⟨m, hm, ?_⟩
      obtain ⟨l', hl'⟩ := Option.isSome_iff_exists.mp hact
      simp [step, hl, hl']
  moves := by
    intro j
    obtain ⟨hin, hlength, heach⟩ := run_eq_some_iff.mp h
    rw [waiting, List.length_map] at hin hlength
    by_cases hj : j < opens.length
    · have hl := heach j
      rw [List.getElem?_eq_getElem (hlength ▸ hj),
        getElem?_waiting (List.getElem?_eq_getElem hj), Option.bind_some] at hl
      have hle := length_effective_le hl.symm
      exact Nat.le_trans (Nat.le_add_right _ _) hle
    · have hnone : own j t = [] :=
        List.eq_nil_iff_forall_not_mem.mpr fun m hm => hj (hin _ (mem_own.mp hm))
      simp [hnone]
  delivered := fun results hresults => Concludes.delivered ⟨ls, h, hresults⟩

/-- Five deliveries at once: two are answered, the later one first; of the channels that are closed,
one was never open, one is closed with the notice in it and one before. -/
def mixedMoves : List (Nat × Move) :=
  [(1, .send), (0, .send), (3, .send), (2, .refuse), (1, .take), (3, .close), (4, .close), (0, .take),
    (1, .reply (.error (.rejected "full"))), (3, .lose), (4, .refuse), (0, .reply (.ok ()))]

theorem delivers_in_any_order_mixed :
    ∃ ls, run (waiting [true, true, false, true, true]) mixedMoves = some ls ∧
      Underway [true, true, false, true, true] mixedMoves ls ∧
      Delivered [true, true, false, true, true] mixedMoves
        [.ok (), .error (.rejected "full"), .error .listenerClosed, .error .ackLost,
          .error .listenerClosed] := by
  obtain ⟨ls, hrun, hls⟩ : ∃ ls,
      run (waiting [true, true, false, true, true]) mixedMoves = some ls ∧
      ls.map (·.delivery) = ([.ok (), .error (.rejected "full"), .error .listenerClosed,
        .error .ackLost, .error .listenerClosed] : List Ack).map .answered := ⟨_, rfl, rfl⟩
  have hunderway := delivers_in_any_order hrun
  exact ⟨ls, hrun, hunderway, hunderway.delivered _ hls⟩

end Results

end SensorBridge.Broadcast
