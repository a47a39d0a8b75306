import SensorBridge.Connector.Tasks
import SensorBridge.Proofs.LedgerRuns
import SensorBridge.Proofs.Records
import SensorBridge.Proofs.Storing
import SensorBridge.Proofs.Transparency

/-!
What a router stores of the messages of its session. Each message is handed to every subscription
that covers it, but each measurement comes to be stored once, with the data source of its name.
-/
namespace SensorBridge

/-- The batches that were stored. -/
def submissions (t : List Exchange) : List Batch :=
  t.filterMap fun
    | ⟨.submit b, .ok (.ok ())⟩ => some b
    | _ => none

theorem submissions_append (t t' : List Exchange) :
    submissions (t ++ t') = submissions t ++ submissions t' :=
  List.filterMap_append

/-- What was not submitted was not stored. -/
theorem submissions_eq_nil {t : List Exchange} (h : submitted t = []) : submissions t = [] := by
  refine List.filterMap_eq_nil_iff.mpr fun x hx => ?_
  have hnone := List.filterMap_eq_nil_iff.mp h x hx
  split
  · cases hnone
  · rfl

/-- What the cache knows is in the catalog. -/
def Cache.Within (cache : Cache) (c : Catalog) : Prop :=
  ∀ name s, (name, s) ∈ cache.entries → c.lookup name = some s

/-- Lookups find what is in the catalog, and the sink takes every batch. -/
def Catalog.Serves (c : Catalog) : Replies
  | .lookup name, reply => reply = .ok (.ok (c.lookup name))
  | .submit _, reply => reply = .ok (.ok ())
  | _, _ => True

/-- What a router may meet while the catalog and the table of its session stand. -/
def Surroundings.routing (c : Catalog) (session : SessionId) : Surroundings where
  others m m' := m'.linkOf? session = m.linkOf? session ∧ (m.cache.Within c → m'.cache.Within c)
  replies := c.Serves

/-- A router is at work on a link, with a cache that agrees with the catalog. -/
structure Memory.Serving (m : Memory) (c : Catalog) (session : SessionId) (l : Link) : Prop where
  link : m.linkOf? session = some l
  cache : m.cache.Within c

theorem Memory.Serving.others {m m' : Memory} {c : Catalog} {session : SessionId} {l : Link}
    (hm : m.Serving c session l) (h : (Surroundings.routing c session).others m m') :
    m'.Serving c session l :=
  ⟨h.1.trans hm.link, h.2 hm.cache⟩

namespace Routine

variable {α β : Type} {c : Catalog} {session : SessionId} {l : Link} {p : Routine α}
  {read : PayloadReaders} {key : SubscriptionKey} {url : String}

/-- The routine comes to a value and stores batches as said. It never faults. -/
def Stores (c : Catalog) (session : SessionId) (l : Link) (p : Routine α)
    (post : α → List Batch → Prop) : Prop :=
  ∀ (m : Memory) (t : List Exchange) (res : Except Fault α) (m' : Memory), m.Serving c session l →
    Runs (.routing c session) p m t res m' →
    ∃ x, res = .ok x ∧ post x (submissions t) ∧ m'.Serving c session l

theorem stores_pure {x : α} {post : α → List Batch → Prop} (h : post x []) :
    Stores c session l (pure x) post := by
  intro m t res m' hm hrun
  obtain ⟨rfl, rfl, rfl⟩ := runs_pure.mp hrun
  exact ⟨x, rfl, h, hm⟩

theorem stores_bind {f : α → Routine β} {q : α → List Batch → Prop} {q' : β → List Batch → Prop}
    (hp : Stores c session l p q)
    (hf : ∀ x bs, q x bs → Stores c session l (f x) fun y bs' => q' y (bs ++ bs')) :
    Stores c session l (p >>= f) q' := by
  intro m t res m' hm hrun
  obtain ⟨x, t₁, m₁, t₂, h₁, h₂, rfl⟩ | ⟨e, h₁, -⟩ := runs_bind.mp hrun
  · obtain ⟨x', hx, hpost, hm₁⟩ := hp _ _ _ _ hm h₁
    obtain rfl := Except.ok.inj hx
    obtain ⟨y, hy, hpost', hm'⟩ := hf x _ hpost _ _ _ _ hm₁ h₂
    exact ⟨y, hy, submissions_append t₁ t₂ ▸ hpost', hm'⟩
  · obtain ⟨_, hx, -⟩ := hp _ _ _ _ hm h₁
    cases hx

theorem stores_mono {q q' : α → List Batch → Prop} (hp : Stores c session l p q)
    (h : ∀ x bs, q x bs → q' x bs) : Stores c session l p q' := by
  intro m t res m' hm hrun
  obtain ⟨x, hx, hq, hm'⟩ := hp _ _ _ _ hm hrun
  exact ⟨x, hx, h _ _ hq, hm'⟩

theorem stores_update {f : Memory → Memory} {post : Memory → List Batch → Prop}
    (hf : ∀ m, m.Serving c session l → (f m).Serving c session l)
    (hpost : ∀ m, m.Serving c session l → post m []) : Stores c session l (update f) post := by
  intro m t res m' hm hrun
  obtain ⟨m₁, t₁, a, m₂, t₂, hothers, ⟨rfl, rfl, rfl⟩, hrest, rfl⟩ := runs_ask.mp hrun
  obtain ⟨rfl, rfl, rfl⟩ := runs_done.mp hrest
  have hm₁ := hm.others hothers
  exact ⟨a, rfl, hpost a hm₁, hf a hm₁⟩

theorem stores_idle {r : Request} {post : r.Answer → List Batch → Prop} (hr : r.Idle)
    (hpost : ∀ a, post a []) : Stores c session l (request r) post := by
  intro m t res m' hm hrun
  obtain ⟨m₁, t₁, a, m₂, t₂, hothers, hserved, hrest, rfl⟩ := runs_ask.mp hrun
  obtain ⟨rfl, rfl⟩ := hr _ _ _ _ _ hserved
  obtain ⟨rfl, rfl, rfl⟩ := runs_done.mp hrest
  exact ⟨a, rfl, hpost a, hm.others hothers⟩

theorem stores_call {call' : Call} {x : call'.Reply} {post : call'.Reply → List Batch → Prop}
    (hreply : ∀ reply, c.Serves call' reply → reply = .ok x)
    (hpost : post x (submissions [⟨call', .ok x⟩])) : Stores c session l (call call') post := by
  intro m t res m' hm hrun
  obtain ⟨hothers, hres, rfl⟩ := runs_call.mp hrun
  obtain rfl := hreply res hres
  exact ⟨x, rfl, hpost, hm.others hothers⟩

theorem consults_routing (c : Catalog) (session : SessionId) (l : Link) :
    (Surroundings.routing c session).Consults (·.Serving c session l) c.directory
      fun _ => .ok (.ok ()) where
  others := fun _ _ hm hothers => hm.others hothers
  lookup := fun _ _ hreply => hreply
  submit := fun _ _ hreply => hreply
  agrees := fun _ hm name s hs => congrArg Except.ok (hm.cache name s hs)
  cache := fun _ _ hm hcache => ⟨hm.link, fun name s hs => Except.ok.inj (hcache name s hs)⟩

theorem stores_sortOut {xs : List Measurement} {b : Batch} {dropped : List (String × DropReason)} :
    Stores c session l (sortOut key xs b dropped) fun sorted bs =>
      bs = [] ∧ sorted.1 = c.gather key xs b := by
  intro m t res m' hm hrun
  obtain ⟨x, hx, rfl, ht, hm'⟩ := yields_sortOut (consults_routing c session l) m t res m' hm hrun
  refine ⟨_, hx, ⟨?_, Catalog.gather_eq_pushAll.symm⟩, hm'⟩
  exact submissions_eq_nil ht

theorem stores_handle {read : PayloadReader} {payload : List UInt8} :
    Stores c session l (handle read key payload) fun _ bs => bs = c.batches read key payload := by
  unfold handle Catalog.batches
  cases read payload with
  | error e => exact stores_pure rfl
  | ok xs =>
    refine stores_bind stores_sortOut ?_
    rintro ⟨b, dropped⟩ _ ⟨rfl, hb⟩
    obtain rfl : b = c.gather key xs {} := hb
    dsimp only
    split
    · exact stores_pure rfl
    · refine stores_bind (q := fun reply bs => bs = [c.gather key xs {}] ∧ reply = .ok ())
        (stores_call (fun reply h => h) ⟨rfl, rfl⟩) ?_
      rintro reply _ ⟨rfl, rfl⟩
      exact stores_pure rfl

theorem stores_logAll {entries : List LogEntry} :
    Stores c session l (logAll entries) fun _ bs => bs = [] := by
  induction entries with
  | nil => exact stores_pure rfl
  | cons e entries ih =>
    have hlog : (Request.log e).Idle := fun _ _ _ _ _ h => h
    refine stores_bind (q := fun _ bs => bs = []) (stores_idle hlog fun _ => rfl) ?_
    rintro _ _ rfl
    exact ih

theorem stores_dispatch {read : PayloadReader} {m : Message} :
    Stores c session l (dispatch read key m) fun _ bs => bs = c.batches read key m.payload := by
  refine stores_bind stores_handle ?_
  rintro outcome _ rfl
  refine stores_mono stores_logAll ?_
  rintro _ _ rfl
  exact List.append_nil _

theorem stores_dispatchAll {m : Message} {topics : List String} :
    Stores c session l (dispatchAll read url m topics)
      fun _ bs => bs = topics.flatMap fun topic =>
        c.batches (read topic) ⟨url, topic⟩ m.payload := by
  induction topics with
  | nil => exact stores_pure rfl
  | cons topic topics ih =>
    refine stores_bind stores_dispatch ?_
    rintro _ _ rfl
    refine stores_mono ih ?_
    rintro _ _ rfl
    simp only [List.flatMap_cons]

/-- How a router goes on with what it is told. -/
def deal (read : PayloadReaders) (url : String) (session : SessionId) :
    Option SessionEvent → Routine Bool
  | none => return false
  | some (.message m) => do
    let topics := ((← memory).linkOf? session).elim [] (·.covering m.topic)
    dispatchAll read url m topics
    return true
  | some (.connected false) => do
    let topics := ((← memory).linkOf? session).elim [] (·.table.map (·.topic))
    request (.spawn (.resubscribe session topics))
    return true
  | some _ => return true

theorem route_eq :
    route read url session = request (.nextEvent session) >>= deal read url session := by
  refine congrArg (request (.nextEvent session) >>= ·) (funext fun event => ?_)
  match event with
  | none | some (.message m) | some (.connected true) | some (.connected false)
  | some (.lost reason) => rfl

end Routine

open Routine

/-- An event that comes to a router, and how payloads are read when it does. -/
structure Arrival where
  read : PayloadReaders
  event : SessionEvent

namespace Arrival

/-- What is to be stored because of an event: of a message, what each covering subscription makes of
it. -/
def batches (c : Catalog) (url : String) (l : Link) (a : Arrival) : List Batch :=
  match a.event with
  | .message m =>
    (l.covering m.topic).flatMap fun topic => c.batches (a.read topic) ⟨url, topic⟩ m.payload
  | _ => []

def message? (a : Arrival) : Option (PayloadReaders × Message) :=
  match a.event with
  | .message m => some (a.read, m)
  | _ => none

end Arrival

/-- The rounds of a router: the events that it took and the calls that it made. -/
inductive Rounds (c : Catalog) (url : String) (session : SessionId) :
    Memory → List Arrival → List Exchange → Memory → Prop where
  | nil (m : Memory) : Rounds c url session m [] [] m
  | round {a : Arrival} {arrivals : List Arrival} {m m₀ m₁ m' : Memory} {es : List Moment}
      {t : List Exchange} : Records (.routing c session) (route a.read url session) m
        (⟨.nextEvent session, some a.event, m₀, m₀⟩ :: es) (.ok true) m₁ →
      Rounds c url session m₁ arrivals t m' →
      Rounds c url session m (a :: arrivals) (exchanges es ++ t) m'

section Rounds

variable {c : Catalog} {url : String} {session : SessionId} {l : Link} {arrivals : List Arrival}

theorem stores_deal {a : Arrival} :
    Stores c session l (deal a.read url session (some a.event)) fun goesOn bs =>
      goesOn = true ∧ bs = a.batches c url l := by
  have hmemory : Stores c session l memory fun m bs => bs = [] ∧ m.Serving c session l :=
    stores_update (fun _ => id) fun _ hm => ⟨rfl, hm⟩
  obtain ⟨read, event⟩ := a
  cases event with
  | message m =>
    refine stores_bind hmemory ?_
    rintro m₀ _ ⟨rfl, hm₀⟩
    rw [hm₀.link]
    refine stores_bind stores_dispatchAll ?_
    rintro _ _ rfl
    exact stores_pure ⟨rfl, List.append_nil _⟩
  | connected sessionPresent =>
    cases sessionPresent with
    | true => exact stores_pure ⟨rfl, rfl⟩
    | false =>
      refine stores_bind hmemory ?_
      rintro m₀ _ ⟨rfl, -⟩
      refine stores_bind (q := fun _ bs => bs = []) (stores_idle (Request.idle_spawn _) fun _ => rfl) ?_
      rintro _ _ rfl
      exact stores_pure ⟨rfl, rfl⟩
  | lost reason => exact stores_pure ⟨rfl, rfl⟩

theorem Rounds.stores {t : List Exchange} {m m' : Memory}
    (h : Rounds c url session m arrivals t m') (hm : m.Serving c session l) :
    submissions t = arrivals.flatMap (·.batches c url l) ∧ m'.Serving c session l := by
  induction h with
  | nil => exact ⟨rfl, hm⟩
  | round hround _ ih =>
    rw [route_eq] at hround
    cases hround with
    | ask hothers _ hrest =>
      obtain ⟨x, hx, ⟨-, hbatches⟩, hm₁⟩ := stores_deal _ _ _ _ (hm.others hothers) hrest.runs
      obtain ⟨ht, hm'⟩ := ih hm₁
      rw [submissions_append, hbatches, ht]
      exact ⟨rfl, hm'⟩

/-- A router can deal with whatever comes. -/
theorem exists_rounds (arrivals : List Arrival) {m : Memory} (hm : m.Serving c session l) :
    ∃ t m', Rounds c url session m arrivals t m' := by
  induction arrivals generalizing m with
  | nil => exact ⟨[], m, .nil m⟩
  | cons a arrivals ih =>
    have hothers (m : Memory) : (Surroundings.routing c session).others m m := ⟨rfl, id⟩
    have hreplies (call : Call) : ∃ x, (Surroundings.routing c session).replies call x := by
      cases call with
      | lookup name => exact ⟨_, rfl⟩
      | submit b => exact ⟨_, rfl⟩
      | _ => exact ⟨.error ⟨none⟩, trivial⟩
    obtain ⟨t, res, m₁, hrun⟩ :=
      exists_runs hothers hreplies (deal a.read url session (some a.event)) m
    obtain ⟨_, rfl, ⟨rfl, -⟩, hm₁⟩ := stores_deal _ _ _ _ hm hrun
    obtain ⟨es, hes, -⟩ := hrun.exists_records
    obtain ⟨t', m', hrounds⟩ := ih hm₁
    have hround : Records (.routing c session) (route a.read url session) m
        (⟨.nextEvent session, some a.event, m, m⟩ :: es) (.ok true) m₁ := by
      rw [route_eq]
      exact .ask (t := []) (hothers m) ⟨rfl, rfl⟩ hes
    exact ⟨_, m', .round hround hrounds⟩

/-- What the batches of events bring for an id is what its data source is due of the messages. -/
theorem get_batches_arrivals (hids : (c.entries.map (·.id)).Nodup)
    (hresources : (c.entries.map (·.resource)).Nodup) (htable : (l.table.map (·.topic)).Nodup)
    {d : Source} (hd : d ∈ c.entries) (arrivals : List Arrival) :
    (arrivals.flatMap (·.batches c url l)).flatMap (fun b => b.points.get d.id) =
      (arrivals.filterMap (·.message?)).flatMap fun (read, m) =>
        d.due url (l.table.map (·.topic)) read m := by
  induction arrivals with
  | nil => rfl
  | cons a arrivals ih =>
    obtain ⟨read, event⟩ := a
    rw [List.flatMap_cons, List.flatMap_append, ih]
    cases event with
    | message m =>
      rw [List.filterMap_cons_some (by rfl), List.flatMap_cons]
      exact congrArg (· ++ _) (Catalog.get_batches_topics hids hresources hd htable)
    | connected sessionPresent => rfl
    | lost reason => rfl

theorem exists_of_mem_batches {b : Batch} (hb : b ∈ arrivals.flatMap (·.batches c url l)) :
    ∃ (read : PayloadReader) (topic : String) (m : Message),
      b ∈ c.batches read ⟨url, topic⟩ m.payload := by
  obtain ⟨⟨read, event⟩, -, hb⟩ := List.mem_flatMap.mp hb
  cases event with
  | message m =>
    obtain ⟨topic, -, hb⟩ := List.mem_flatMap.mp hb
    exact ⟨read topic, topic, m, hb⟩
  | connected sessionPresent => cases hb
  | lost reason => cases hb

/-- The points of all ids after a router has dealt with events. -/
theorem Rounds.points {t : List Exchange} {m m' : Memory}
    (hids : (c.entries.map (·.id)).Nodup) (hresources : (c.entries.map (·.resource)).Nodup)
    (htable : (l.table.map (·.topic)).Nodup) (hm : m.Serving c session l)
    (h : Rounds c url session m arrivals t m') (sink : Sink) :
    (∀ d ∈ c.entries, (sink.takeAll (submissions t)).points.get d.id = sink.points.get d.id ++
      (arrivals.filterMap (·.message?)).flatMap fun (read, m) =>
        d.due url (l.table.map (·.topic)) read m) ∧
    ∀ id, (∀ d ∈ c.entries, d.id ≠ id) →
      (sink.takeAll (submissions t)).points.get id = sink.points.get id := by
  obtain ⟨hsubmissions, -⟩ := h.stores hm
  have hgrouped : ∀ b ∈ submissions t, b.Grouped := by
    intro b hb
    rw [hsubmissions] at hb
    obtain ⟨read, topic, m, hb⟩ := exists_of_mem_batches hb
    exact Catalog.grouped_of_mem_batches hb
  constructor
  · intro d hd
    rw [Sink.get_takeAll hgrouped, hsubmissions, get_batches_arrivals hids hresources htable hd]
  · intro id hid
    have hnone : (submissions t).flatMap (fun b => b.points.get id) = [] := by
      refine List.flatMap_eq_nil_iff.mpr fun b hb => ?_
      rw [hsubmissions] at hb
      obtain ⟨read, topic, m, hb⟩ := exists_of_mem_batches hb
      exact Catalog.get_of_mem_batches hid hb
    rw [Sink.get_takeAll hgrouped, hnone, List.append_nil]

theorem due_congr {topics topics' : List String} (h : ∀ topic, topic ∈ topics ↔ topic ∈ topics')
    (d : Source) : d.due url topics = d.due url topics' := by
  funext read m
  unfold Source.due
  simp only [h]

/-- A router deals with every sequence of events. Of the messages among them each data source comes
to have what it is due, each measurement once and in the order of arrival, and nothing else comes to
be stored. The order of the table has no influence on that. -/
theorem routed_once (hids : (c.entries.map (·.id)).Nodup)
    (hresources : (c.entries.map (·.resource)).Nodup) (htable : (l.table.map (·.topic)).Nodup)
    {m : Memory} (hm : m.Serving c session l) :
    (∀ arrivals, ∃ t m', Rounds c url session m arrivals t m') ∧
    ∀ arrivals t m', Rounds c url session m arrivals t m' → ∀ sink : Sink,
      (∀ d ∈ c.entries, (sink.takeAll (submissions t)).points.get d.id = sink.points.get d.id ++
        (arrivals.filterMap (·.message?)).flatMap fun (read, m) =>
          d.due url (l.table.map (·.topic)) read m) ∧
      (∀ id, (∀ d ∈ c.entries, d.id ≠ id) →
        (sink.takeAll (submissions t)).points.get id = sink.points.get id) ∧
      ∀ l' m₁ arrivals' t' m₁', l'.table.Perm l.table → m₁.Serving c session l' →
        arrivals'.filterMap (·.message?) = arrivals.filterMap (·.message?) →
        Rounds c url session m₁ arrivals' t' m₁' →
        ∀ id, (sink.takeAll (submissions t')).points.get id =
          (sink.takeAll (submissions t)).points.get id := by
  refine ⟨fun arrivals => exists_rounds arrivals hm, fun arrivals t m' h sink => ?_⟩
  obtain ⟨hdue, hstrange⟩ := h.points hids hresources htable hm sink
  refine ⟨hdue, hstrange, fun l' m₁ arrivals' t' m₁' hperm hm₁ hmessages h' id => ?_⟩
  have htable' : (l'.table.map (·.topic)).Nodup := (hperm.map _).nodup_iff.mpr htable
  obtain ⟨hdue', hstrange'⟩ := h'.points hids hresources htable' hm₁ sink
  by_cases hid : ∀ d ∈ c.entries, d.id ≠ id
  · rw [hstrange id hid, hstrange' id hid]
  · obtain ⟨d, hd, rfl⟩ : ∃ d ∈ c.entries, d.id = id := by simpa using hid
    rw [hdue d hd, hdue' d hd, hmessages, due_congr fun topic => (hperm.map _).mem_iff]

/-- A reading that shows when and for which topic it was made. -/
def markedReading (mark : String) : PayloadReaders :=
  fun topic _ => .ok [{ name := "a", unit := some (mark ++ topic) }]

/-- Two subscriptions cover the topic of two messages. Each time the measurement is stored once, as it
was read for the topic of its data source. -/
theorem routed_once_crowd : ∃ t m', Rounds (Catalog.crowd 1) "mqtt://a" 0
      { ledger := { links := [⟨"mqtt://a", 0, [⟨"#", .atMostOnce, 1⟩,
        ⟨"t", .atMostOnce, 1⟩]⟩] }, cache := { capacity := 1 } }
      [⟨markedReading "1", .message ⟨"t", [], .atMostOnce⟩⟩,
        ⟨markedReading "2", .message ⟨"t", [], .atMostOnce⟩⟩] t m' ∧
    ((({} : Sink).takeAll (submissions t)).points.get "a").map (·.unit) =
      [some "1t", some "2t"] := by
  have hwf := Catalog.crowd_wellFormed 1
  let l : Link := ⟨"mqtt://a", 0, [⟨"#", .atMostOnce, 1⟩, ⟨"t", .atMostOnce, 1⟩]⟩
  have hserving : Memory.Serving { ledger := { links := [l] }, cache := { capacity := 1 } }
      (Catalog.crowd 1) 0 l := ⟨rfl, by simp [Cache.Within]⟩
  have htable : (l.table.map (·.topic)).Nodup := by decide
  obtain ⟨hexists, hall⟩ := @routed_once _ "mqtt://a" 0 l hwf.ids_nodup hwf.resources htable _ hserving
  let arrivals : List Arrival := [⟨markedReading "1", .message ⟨"t", [], .atMostOnce⟩⟩,
    ⟨markedReading "2", .message ⟨"t", [], .atMostOnce⟩⟩]
  obtain ⟨t, m', hrounds⟩ := hexists arrivals
  obtain ⟨hdue, -⟩ := hall _ t m' hrounds {}
  refine ⟨t, m', hrounds, ?_⟩
  have hpoints := hdue (Catalog.crowdMember 0) List.mem_cons_self
  rw [show (Catalog.crowdMember 0).id = "a" from rfl] at hpoints
  rw [hpoints]
  rfl

end Rounds

end SensorBridge
