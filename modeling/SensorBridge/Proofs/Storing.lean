import SensorBridge.Proofs.Verdicts

/-!
What comes to be stored of a payload, measurement by measurement. Names are resolved by the catalog,
and a data source takes the measurements that have its name, come by its own subscription and fit it.
-/
namespace SensorBridge

namespace Source

/-- Whether a data source takes a measurement that came by a subscription. A measurement with an
empty name has no name. -/
def takes (d : Source) (key : SubscriptionKey) (x : Measurement) : Bool :=
  !x.name.isEmpty && x.name == d.resource && (d.mismatch? key x).isNone

/-- What a data source is to have of a message that arrives on a url where some topics are
subscribed, each with its own reading of the payload. Its own topic has to be one of them. -/
def due (url : String) (topics : List String) (d : Source) (read : PayloadReaders) (m : Message) :
    List Measurement :=
  match d.feed with
  | none => []
  | some feed =>
    match read feed.topic m.payload with
    | .error _ => []
    | .ok xs =>
      if feed.url = url ∧ feed.topic ∈ topics ∧ Topic.accepts feed.topic m.topic then
        xs.filter fun x => !x.name.isEmpty && x.name == d.resource && d.kind.fits x
      else []

variable {d : Source} {key : SubscriptionKey} {x : Measurement} {feed : Feed}

theorem mismatch?_isNone (hf : d.feed = some feed) : (d.mismatch? key x).isNone =
    (decide (feed.url = key.url ∧ feed.topic = key.topic) && d.kind.fits x) := by
  simp only [mismatch?, hf]
  by_cases hu : feed.url = key.url
  · by_cases ht : feed.topic = key.topic
    · cases d.kind.fits x <;> simp [hu, ht]
    · simp [hu, ht]
  · simp [hu]

theorem takes_of_unfed (hf : d.feed = none) : d.takes key = fun _ => false := by
  funext x
  simp [takes, mismatch?, hf]

theorem takes_of_fed (hf : d.feed = some feed) : d.takes key = fun x =>
    !x.name.isEmpty && x.name == d.resource &&
      (decide (feed.url = key.url ∧ feed.topic = key.topic) && d.kind.fits x) := by
  funext x
  rw [takes, mismatch?_isNone hf]

end Source

namespace Catalog

variable {c : Catalog} {key : SubscriptionKey} {x : Measurement} {d s : Source} {id : String}
  {read : PayloadReader} {payload : List UInt8}

/-- The catalog as it answers look-ups, which never fail. -/
def directory (c : Catalog) : Directory :=
  fun name => .ok (c.lookup name)

/-- The data source that takes a measurement, by the catalog. -/
def taker (c : Catalog) (key : SubscriptionKey) (x : Measurement) : Except DropReason Source :=
  if x.name.isEmpty then .error .missingName
  else match resolution (.ok (c.lookup x.name)) with
    | .error e => .error e
    | .ok s =>
      match s.mismatch? key x with
      | some e => .error e
      | none => .ok s

/-- A batch with what the data sources of the catalog take of measurements. -/
def gather (c : Catalog) (key : SubscriptionKey) : List Measurement → Batch → Batch
  | [], b => b
  | x :: xs, b =>
    match c.taker key x with
    | .ok s => c.gather key xs (b.push s x)
    | .error _ => c.gather key xs b

/-- The batches that are stored of a payload: one, or none if there is nothing to store. -/
def batches (c : Catalog) (read : PayloadReader) (key : SubscriptionKey) (payload : List UInt8) :
    List Batch :=
  match read payload with
  | .error _ => []
  | .ok xs => if (c.gather key xs {}).points.isEmpty then [] else [c.gather key xs {}]

/-- Whether a measurement goes to the data source with an id. -/
def givesTo (c : Catalog) (key : SubscriptionKey) (id : String) (x : Measurement) : Bool :=
  match c.taker key x with
  | .ok s => s.id == id
  | .error _ => false

theorem taker_eq_ok_iff : c.taker key x = .ok s ↔
    x.name.isEmpty = false ∧ c.lookup x.name = some s ∧ s.mismatch? key x = none := by
  unfold taker
  cases hn : x.name.isEmpty with
  | true => simp
  | false =>
    cases hl : c.lookup x.name with
    | none => simp [resolution]
    | some s' =>
      cases hm : s'.mismatch? key x with
      | some e =>
        simp [resolution, hm]
        rintro rfl
        simp [hm]
      | none =>
        simp [resolution, hm]
        rintro rfl
        exact hm

theorem givesTo_eq_takes (hids : (c.entries.map (·.id)).Nodup)
    (hresources : (c.entries.map (·.resource)).Nodup) (hd : d ∈ c.entries) :
    c.givesTo key d.id = d.takes key := by
  funext x
  have htakes : d.takes key x = true ↔
      x.name.isEmpty = false ∧ x.name = d.resource ∧ d.mismatch? key x = none := by
    simp [Source.takes, and_assoc]
  rw [Bool.eq_iff_iff, htakes]
  constructor
  · intro h
    unfold givesTo at h
    split at h
    · rename_i s htaker
      obtain ⟨hname, hlookup, hmismatch⟩ := taker_eq_ok_iff.mp htaker
      obtain ⟨hs, hresource⟩ := key_of_find? hlookup
      obtain rfl : s = d := List.inj_on_of_nodup_map hids hs hd (by simpa using h)
      exact ⟨hname, hresource.symm, hmismatch⟩
    · cases h
  · rintro ⟨hname, hresource, hmismatch⟩
    have hlookup : c.lookup x.name = some d := hresource ▸ find?_key_of_mem hresources hd
    rw [givesTo, taker_eq_ok_iff.mpr ⟨hname, hlookup, hmismatch⟩]
    exact beq_self_eq_true _

theorem givesTo_eq_false (hid : ∀ d ∈ c.entries, d.id ≠ id) :
    c.givesTo key id = fun _ => false := by
  funext x
  unfold givesTo
  split
  · rename_i s htaker
    obtain ⟨-, hlookup, -⟩ := taker_eq_ok_iff.mp htaker
    simpa using hid s (key_of_find? hlookup).1
  · rfl

theorem gather_eq_pushAll {xs : List Measurement} {b : Batch} :
    c.gather key xs b = b.pushAll (c.directory.taken key xs) := by
  induction xs generalizing b with
  | nil => rfl
  | cons x xs ih =>
    have htaker : c.directory.taker key x = c.taker key x := rfl
    unfold gather Directory.taken
    rw [List.filterMap_cons, htaker]
    cases c.taker key x with
    | ok s => exact ih
    | error e => exact ih

theorem gather_grouped {xs : List Measurement} {b : Batch} (hb : b.Grouped) :
    (c.gather key xs b).Grouped :=
  gather_eq_pushAll ▸ hb.pushAll

theorem get_gather {xs : List Measurement} {b : Batch} :
    (c.gather key xs b).points.get id = b.points.get id ++ xs.filter (c.givesTo key id) := by
  induction xs generalizing b with
  | nil => simp [gather]
  | cons x xs ih =>
    unfold gather
    cases ht : c.taker key x with
    | ok s =>
      dsimp only
      rw [ih, Batch.get_push, List.filter_cons, givesTo, ht, List.append_assoc]
      by_cases hid : s.id = id <;> simp [hid]
    | error e =>
      dsimp only
      rw [ih, List.filter_cons, givesTo, ht]
      rfl

theorem grouped_of_mem_batches {b : Batch} (hb : b ∈ c.batches read key payload) : b.Grouped := by
  unfold batches at hb
  split at hb
  · cases hb
  · split at hb
    · cases hb
    · obtain rfl := List.mem_singleton.mp hb
      exact gather_grouped Batch.grouped_empty

/-- Nothing is stored for an id that no data source has. -/
theorem get_of_mem_batches {b : Batch} (hid : ∀ d ∈ c.entries, d.id ≠ id)
    (hb : b ∈ c.batches read key payload) : b.points.get id = [] := by
  unfold batches at hb
  split at hb
  · cases hb
  · split at hb
    · cases hb
    · obtain rfl := List.mem_singleton.mp hb
      rw [get_gather, givesTo_eq_false hid, List.filter_false, List.append_nil]
      rfl

/-- What the batches of a payload bring for an id. -/
theorem get_batches : (c.batches read key payload).flatMap (fun b => b.points.get id) =
    match read payload with
    | .error _ => []
    | .ok xs => xs.filter (c.givesTo key id) := by
  unfold batches
  cases hread : read payload with
  | error e => rfl
  | ok xs =>
    have hget : (c.gather key xs {}).points.get id = xs.filter (c.givesTo key id) := get_gather
    dsimp only
    split
    · rename_i hempty
      rw [List.isEmpty_iff.mp hempty] at hget
      exact hget
    · simpa using hget

/-- Among topics that stand once each, one is met once at most. -/
theorem flatMap_ite_eq {α : Type} {topics : List String} (h : topics.Nodup) (topic : String)
    (xs : List α) : (topics.flatMap fun t => if t = topic then xs else []) =
      if topic ∈ topics then xs else [] := by
  induction topics with
  | nil => rfl
  | cons t topics ih =>
    obtain ⟨hnot, hrest⟩ := List.nodup_cons.mp h
    rw [List.flatMap_cons, ih hrest]
    by_cases ht : t = topic
    · subst ht
      rw [if_pos rfl, if_neg hnot, if_pos List.mem_cons_self, List.append_nil]
    · rw [if_neg ht, List.nil_append]
      simp only [List.mem_cons, Ne.symm ht, false_or]

/-- Only the subscription of its own topic brings something to a data source. -/
theorem get_batches_of_fed {feed : Feed} {topic url : String}
    (hids : (c.entries.map (·.id)).Nodup) (hresources : (c.entries.map (·.resource)).Nodup)
    (hd : d ∈ c.entries) (hf : d.feed = some feed) :
    (c.batches read ⟨url, topic⟩ payload).flatMap (fun b => b.points.get d.id) =
      if topic = feed.topic ∧ feed.url = url then
        match read payload with
        | .error _ => []
        | .ok xs => xs.filter fun x => !x.name.isEmpty && x.name == d.resource && d.kind.fits x
      else [] := by
  rw [get_batches, givesTo_eq_takes hids hresources hd, Source.takes_of_fed hf]
  cases read payload with
  | error e => exact (ite_self []).symm
  | ok xs =>
    by_cases h : topic = feed.topic ∧ feed.url = url
    · simp [h]
    · have hkey : ¬(feed.url = url ∧ feed.topic = topic) := fun hk => h ⟨hk.2.symm, hk.1⟩
      simp only [decide_eq_false hkey, Bool.false_and, Bool.and_false, List.filter_false, if_neg h]

/-- What the subscriptions that cover a message bring to a data source. Each of them reads the
payload for itself. -/
theorem get_batches_topics {topics : List String} {url : String} {m : Message} {read : PayloadReaders}
    (hids : (c.entries.map (·.id)).Nodup) (hresources : (c.entries.map (·.resource)).Nodup)
    (hd : d ∈ c.entries) (htopics : topics.Nodup) :
    ((topics.filter fun filter => Topic.accepts filter m.topic).flatMap fun topic =>
        c.batches (read topic) ⟨url, topic⟩ m.payload).flatMap (fun b => b.points.get d.id) =
      d.due url topics read m := by
  rw [List.flatMap_assoc]
  cases hf : d.feed with
  | none =>
    simp only [get_batches, givesTo_eq_takes hids hresources hd, Source.takes_of_unfed hf,
      List.filter_false, Source.due, hf]
    refine List.flatMap_eq_nil_iff.mpr fun topic _ => ?_
    cases read topic m.payload <;> rfl
  | some feed =>
    have hown (topic : String) :
        (c.batches (read topic) ⟨url, topic⟩ m.payload).flatMap (fun b => b.points.get d.id) =
          if topic = feed.topic then
            (c.batches (read feed.topic) ⟨url, feed.topic⟩ m.payload).flatMap
              (fun b => b.points.get d.id)
          else [] := by
      by_cases ht : topic = feed.topic
      · rw [if_pos ht, ht]
      · rw [if_neg ht, get_batches_of_fed hids hresources hd hf, if_neg fun h => ht h.1]
    rw [funext hown, flatMap_ite_eq (htopics.filter _), get_batches_of_fed hids hresources hd hf]
    simp only [Source.due, hf, List.mem_filter]
    cases read feed.topic m.payload with
    | error e => simp
    | ok xs =>
      by_cases hu : feed.url = url
      · simp [hu]
      · simp [hu]

end Catalog

end SensorBridge
