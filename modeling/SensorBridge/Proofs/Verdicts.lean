import SensorBridge.Connector.Handling
import SensorBridge.Proofs.Batches
import SensorBridge.Proofs.Keys

/-!
What is to become of measurements when each name is looked up in the catalog by itself, without a
cache. A measurement goes to the data source of its name, or it is dropped with the first check that
it fails; a batch and an outcome say so of all the measurements of a message.
-/
namespace SensorBridge

/-- What a catalog answers to each look-up while it does not change. Look-ups may fail. -/
abbrev Directory : Type := String → Except CatalogError (Option Source)

/-- What becomes of each batch that is submitted. The storage may fail or fault. -/
abbrev Storage : Type := Batch → Except Fault (Except StorageError Unit)

/-- A measurement carries no value of another kind. An empty string is no value. -/
structure Measurement.Suits (x : Measurement) (kind : ValueKind) : Prop where
  value : x.value ≠ none → kind = .float
  flag : x.flag ≠ none → kind = .bool
  text : ∀ s, x.text = some s → s ≠ "" → kind = .string

namespace DropReason

/-- The place of a check among the others. Whether a name is found is one check. -/
def rank : DropReason → Nat
  | missingName => 0
  | notFound => 1
  | lookupFailed _ => 1
  | unwantedSource => 2
  | wrongBroker _ => 3
  | wrongTopic _ => 4
  | typeMismatch _ => 5

/-- A measurement fails a check, given what was found of its name. Each check is stated by itself,
whatever the others say. -/
def Applies (found : Except CatalogError (Option Source)) (key : SubscriptionKey) (x : Measurement) :
    DropReason → Prop
  | missingName => x.name = ""
  | notFound => found = .ok none ∨ ∃ e, found = .error e ∧ e.isNotFound = true
  | lookupFailed cause => ∃ e, found = .error e ∧ e.isNotFound = false ∧ e.message = cause
  | unwantedSource => ∃ s, found = .ok (some s) ∧ s.feed = none
  | wrongBroker url => key.url = url ∧
      ∃ s feed, found = .ok (some s) ∧ s.feed = some feed ∧ feed.url ≠ key.url
  | wrongTopic topic => key.topic = topic ∧
      ∃ s feed, found = .ok (some s) ∧ s.feed = some feed ∧ feed.topic ≠ key.topic
  | typeMismatch expected => ∃ s, found = .ok (some s) ∧ s.kind = expected ∧ ¬ x.Suits s.kind

variable {found : Except CatalogError (Option Source)} {key : SubscriptionKey} {x : Measurement}
  {r r' : DropReason}

theorem Applies.eq_of_rank (h : r.Applies found key x) (h' : r'.Applies found key x)
    (hrank : r.rank = r'.rank) : r = r' := by
  cases found with
  | error e => cases r <;> cases r' <;> simp_all [Applies, rank]
  | ok found =>
    cases found with
    | none => cases r <;> cases r' <;> simp_all [Applies, rank]
    | some s => cases r <;> cases r' <;> simp_all [Applies, rank]

end DropReason

theorem ValueKind.fits_iff {kind : ValueKind} {x : Measurement} :
    kind.fits x = true ↔ x.Suits kind := by
  have htext : x.hasText = false ↔ ∀ s, x.text = some s → s = "" := by
    cases ht : x.text with
    | none => simp [Measurement.hasText, ht]
    | some s => simp [Measurement.hasText, ht]
  constructor
  · intro h
    cases kind with
    | float =>
      simp [fits, htext] at h
      exact ⟨fun _ => rfl, fun hf => absurd h.1 hf, fun s hs hne => absurd (h.2 s hs) hne⟩
    | string =>
      simp [fits] at h
      exact ⟨fun hv => absurd h.1 hv, fun hf => absurd h.2 hf, fun _ _ _ => rfl⟩
    | bool =>
      simp [fits, htext] at h
      exact ⟨fun hv => absurd h.1 hv, fun _ => rfl, fun s hs hne => absurd (h.2 s hs) hne⟩
  · rintro ⟨hvalue, hflag, htext'⟩
    cases kind with
    | float => simp_all [fits]
    | string => simp_all [fits]
    | bool => simp_all [fits]

namespace Directory

/-- The right verdict on a measurement: the data source of its name if it passes every check, and
else the first check that it fails. -/
def Judged (find : Directory) (key : SubscriptionKey) (x : Measurement) :
    Except DropReason Source → Prop
  | .ok s => find x.name = .ok (some s) ∧ ∀ r : DropReason, ¬ r.Applies (find x.name) key x
  | .error r => r.Applies (find x.name) key x ∧
      ∀ r' : DropReason, r'.Applies (find x.name) key x → r.rank ≤ r'.rank

/-- The data source that takes a measurement. -/
def taker (find : Directory) (key : SubscriptionKey) (x : Measurement) : Except DropReason Source :=
  if x.name.isEmpty then .error .missingName
  else match resolution (find x.name) with
    | .error e => .error e
    | .ok s =>
      match s.mismatch? key x with
      | some e => .error e
      | none => .ok s

variable {find : Directory} {key : SubscriptionKey} {x : Measurement}
  {v v' : Except DropReason Source}

theorem Judged.unique (h : find.Judged key x v) (h' : find.Judged key x v') : v = v' := by
  cases v with
  | ok s =>
    cases v' with
    | ok s' => simpa [h.1] using h'.1
    | error r' => exact absurd h'.1 (h.2 r')
  | error r =>
    cases v' with
    | ok s' => exact absurd h.1 (h'.2 r)
    | error r' => rw [h.1.eq_of_rank h'.1 (Nat.le_antisymm (h.2 r' h'.1) (h'.2 r h.1))]

/-- Once a name is found, the checks against the data source decide. -/
theorem judged_of_found {s : Source} (hname : x.name ≠ "") (hfind : find x.name = .ok (some s)) :
    find.Judged key x ((s.mismatch? key x).elim (.ok s) .error) := by
  unfold Source.mismatch?
  cases hfeed : s.feed with
  | none =>
    refine ⟨⟨s, hfind, hfeed⟩, fun r' hr' => ?_⟩
    cases r' <;> simp_all [DropReason.Applies, DropReason.rank]
  | some feed =>
    dsimp only
    by_cases hurl : feed.url ≠ key.url
    · rw [if_pos hurl]
      refine ⟨⟨rfl, s, feed, hfind, hfeed, hurl⟩, fun r' hr' => ?_⟩
      cases r' <;> simp_all [DropReason.Applies, DropReason.rank]
    rw [if_neg hurl]
    by_cases htopic : feed.topic ≠ key.topic
    · rw [if_pos htopic]
      refine ⟨⟨rfl, s, feed, hfind, hfeed, htopic⟩, fun r' hr' => ?_⟩
      cases r' <;> simp_all [DropReason.Applies, DropReason.rank]
    rw [if_neg htopic]
    by_cases hfits : s.kind.fits x = true
    · rw [if_neg (by simp [hfits])]
      rw [ValueKind.fits_iff] at hfits
      refine ⟨hfind, fun r hr => ?_⟩
      cases r <;> simp_all [DropReason.Applies]
    · rw [if_pos (by simpa using hfits)]
      rw [ValueKind.fits_iff] at hfits
      refine ⟨⟨s, hfind, rfl, hfits⟩, fun r' hr' => ?_⟩
      cases r' <;> simp_all [DropReason.Applies, DropReason.rank]

theorem judged_taker (find : Directory) (key : SubscriptionKey) (x : Measurement) :
    find.Judged key x (find.taker key x) := by
  unfold taker
  by_cases hname : x.name.isEmpty = true
  · rw [if_pos hname]
    exact ⟨String.isEmpty_iff.mp hname, fun _ _ => Nat.zero_le _⟩
  rw [if_neg hname]
  have hnamed : x.name ≠ "" := fun h => hname (String.isEmpty_iff.mpr h)
  have hrank (r : DropReason) (hr : r.Applies (find x.name) key x) : 1 ≤ r.rank := by
    cases r with
    | missingName => exact absurd hr hnamed
    | _ => simp [DropReason.rank]
  cases hfind : find x.name with
  | error e =>
    cases hnot : e.isNotFound with
    | true =>
      simp only [resolution, hnot, if_true]
      exact ⟨.inr ⟨e, hfind, hnot⟩, hrank⟩
    | false =>
      simp only [resolution, hnot, Bool.false_eq_true, if_false]
      exact ⟨⟨e, hfind, hnot, rfl⟩, hrank⟩
  | ok found =>
    cases found with
    | none => exact ⟨.inl hfind, hrank⟩
    | some s =>
      have hjudged : find.Judged key x _ := judged_of_found hnamed hfind
      cases hmismatch : s.mismatch? key x with
      | none => simpa [resolution, hmismatch] using hjudged
      | some r => simpa [resolution, hmismatch] using hjudged

theorem judged_iff : find.Judged key x v ↔ find.taker key x = v :=
  ⟨(find.judged_taker key x).unique, fun h => h ▸ find.judged_taker key x⟩

/-! ### A message -/

/-- The measurements that are taken, with their data sources, in the order of the message. -/
def taken (find : Directory) (key : SubscriptionKey) (xs : List Measurement) :
    List (Source × Measurement) :=
  xs.filterMap fun x =>
    match find.taker key x with
    | .ok s => some (s, x)
    | .error _ => none

/-- The names of the measurements that are dropped, with the reasons, in the order of the message. -/
def dropped (find : Directory) (key : SubscriptionKey) (xs : List Measurement) :
    List (String × DropReason) :=
  xs.filterMap fun x =>
    match find.taker key x with
    | .ok _ => none
    | .error r => some (x.name, r)

def batch (find : Directory) (key : SubscriptionKey) (xs : List Measurement) : Batch :=
  ({} : Batch).pushAll (find.taken key xs)

def outcome (find : Directory) (key : SubscriptionKey) (xs : List Measurement) : Outcome where
  accepted := (find.taken key xs).length
  sources := (find.batch key xs).points.length
  dropped := find.dropped key xs

/-- What a handler without a cache submits of a message, and how it ends. There is nothing to submit
if nothing is taken. -/
def handled (find : Directory) (storage : Storage) (key : SubscriptionKey) (xs : List Measurement) :
    List Batch × Except Fault (Except MessageError Outcome) :=
  if (find.outcome key xs).accepted = 0 then ([], .ok (.ok (find.outcome key xs)))
  else ([find.batch key xs], (storage (find.batch key xs)).map fun stored =>
    (stored.mapError .storage).map fun _ => find.outcome key xs)

/-- A batch and an outcome report what is taken and what is dropped of a message. -/
structure Reports (find : Directory) (key : SubscriptionKey) (xs : List Measurement) (b : Batch)
    (o : Outcome) : Prop where
  /-- Under an id stands what its data source takes, in the order of the message. -/
  points : ∀ id, b.points.get id = ((find.taken key xs).filter (·.1.id == id)).map (·.2)
  dropped : o.dropped = find.dropped key xs
  total : o.accepted + o.dropped.length = xs.length
  accepted : o.accepted = b.points.count
  /-- The ids are those of the data sources that take something, and each stands once. -/
  ids : ∀ id, id ∈ b.points.map (·.1) ↔ ∃ sx ∈ find.taken key xs, sx.1.id = id
  nodup : (b.points.map (·.1)).Nodup
  matched : b.sources.map (·.1) = b.points.map (·.1)
  sources : o.sources = b.points.length
  /-- The first data source of an id is the one that is passed with the points. -/
  first : ∀ id, b.sources.lookup id = ((find.taken key xs).find? (·.1.id == id)).map (·.1)
  /-- Each point was found under its name, and has no value of another kind than its source. -/
  suits : ∀ id x, x ∈ b.points.get id →
    ∃ s, find x.name = .ok (some s) ∧ s.id = id ∧ x.Suits s.kind
  /-- Where ids tell data sources apart, it is the source that is passed with the point. -/
  own : (∀ n n' s s', find n = .ok (some s) → find n' = .ok (some s') → s.id = s'.id → s = s') →
    ∀ id s x, b.sources.lookup id = some s → x ∈ b.points.get id →
      find x.name = .ok (some s) ∧ x.Suits s.kind

variable {xs : List Measurement} {s : Source}

theorem mem_taken : (s, x) ∈ find.taken key xs ↔ x ∈ xs ∧ find.taker key x = .ok s := by
  rw [taken, List.mem_filterMap]
  constructor
  · rintro ⟨x', hx', htaken⟩
    split at htaken
    · rename_i s' htaker
      obtain ⟨rfl, rfl⟩ := Prod.mk.inj (Option.some.inj htaken)
      exact ⟨hx', htaker⟩
    · cases htaken
  · rintro ⟨hx, htaker⟩
    exact ⟨x, hx, by rw [htaker]⟩

/-- Each measurement is either taken or dropped. -/
theorem length_taken_add : (find.taken key xs).length + (find.dropped key xs).length = xs.length := by
  induction xs with
  | nil => rfl
  | cons x xs ih =>
    unfold taken dropped at ih ⊢
    cases htaker : find.taker key x with
    | ok s =>
      simp only [List.filterMap_cons, htaker, List.length_cons]
      omega
    | error r =>
      simp only [List.filterMap_cons, htaker, List.length_cons]
      omega

theorem suits_of_taker (h : find.taker key x = .ok s) :
    find x.name = .ok (some s) ∧ x.Suits s.kind := by
  obtain ⟨hfind, hpasses⟩ := judged_iff.mpr h
  refine ⟨hfind, not_not.mp fun hno => hpasses (.typeMismatch s.kind) ⟨s, hfind, rfl, hno⟩⟩

theorem isEmpty_points_batch :
    (find.batch key xs).points.isEmpty = true ↔ (find.outcome key xs).accepted = 0 := by
  have hkeys (id : String) : id ∈ (find.batch key xs).points.map (·.1) ↔
      ∃ sx ∈ find.taken key xs, sx.1.id = id := by
    rw [batch, Batch.mem_pushAll_keys]
    simp
  rw [List.isEmpty_iff, ← List.map_eq_nil_iff (f := (·.1)), List.eq_nil_iff_forall_not_mem, outcome,
    List.length_eq_zero_iff, List.eq_nil_iff_forall_not_mem]
  simp only [hkeys]
  exact ⟨fun h sx hsx => h sx.1.id ⟨sx, hsx, rfl⟩, fun h id ⟨sx, hsx, _⟩ => h sx hsx⟩

/-- An outcome is read off the batch. -/
theorem outcome_eq : find.outcome key xs =
    ⟨(find.batch key xs).points.count, (find.batch key xs).points.length, find.dropped key xs⟩ := by
  have hcount : (find.batch key xs).points.count = (find.taken key xs).length := by
    rw [batch, Batch.count_pushAll]
    exact Nat.zero_add _
  rw [hcount]
  rfl

theorem batch_reports (find : Directory) (key : SubscriptionKey) (xs : List Measurement) :
    find.Reports key xs (find.batch key xs) (find.outcome key xs) := by
  have hpoints (id : String) : (find.batch key xs).points.get id =
      ((find.taken key xs).filter (·.1.id == id)).map (·.2) := by
    rw [batch, Batch.get_pushAll]
    rfl
  have hfirst (id : String) : (find.batch key xs).sources.lookup id =
      ((find.taken key xs).find? (·.1.id == id)).map (·.1) := by
    rw [batch, Batch.lookup_pushAll]
    rfl
  have hsuits (id : String) (x : Measurement) (hx : x ∈ (find.batch key xs).points.get id) :
      ∃ s, find x.name = .ok (some s) ∧ s.id = id ∧ x.Suits s.kind := by
    rw [hpoints, List.mem_map] at hx
    obtain ⟨⟨s, x⟩, hmem, rfl⟩ := hx
    obtain ⟨htaken, hid⟩ := List.mem_filter.mp hmem
    obtain ⟨hfind, hsuit⟩ := suits_of_taker (mem_taken.mp htaken).2
    exact ⟨s, hfind, beq_iff_eq.mp hid, hsuit⟩
  refine ⟨hpoints, rfl, length_taken_add, ?_, ?_, Batch.grouped_empty.pushAll,
    Batch.matched_empty.pushAll, rfl, hfirst, hsuits, ?_⟩
  · rw [outcome_eq]
  · intro id
    rw [batch, Batch.mem_pushAll_keys]
    simp
  · intro hids id s x hlookup hx
    obtain ⟨s', hfind, hid', hsuit⟩ := hsuits id x hx
    rw [hfirst, Option.map_eq_some_iff] at hlookup
    obtain ⟨⟨s, x'⟩, hfirst', rfl⟩ := hlookup
    obtain ⟨htaken, hid⟩ := key_of_find? hfirst'
    obtain ⟨hfind', -⟩ := suits_of_taker (mem_taken.mp htaken).2
    obtain rfl : s' = s := hids _ _ _ _ hfind hfind' (hid'.trans hid.symm)
    exact ⟨hfind, hsuit⟩

end Directory

end SensorBridge
