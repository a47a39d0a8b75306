import SensorBridge.Proofs.Records
import SensorBridge.Proofs.Transparency

/-!
What a batch says of its data sources. Each measurement is checked against the data source that is
found under its name just then, and the catalog may change before the next one is checked. A batch
carries the first data source of each id.
-/
namespace SensorBridge

/-- A data source was to be found under a name: in the cache at that moment, or in the answer of the
catalog. -/
def Moment.Shows (x : Moment) (name : String) (s : Source) : Prop :=
  match x with
  | ⟨.update _, _, m, _⟩ => (name, s) ∈ m.cache.entries
  | ⟨.call (.lookup name'), reply, _, _⟩ => name' = name ∧ reply = .ok (.ok (some s))
  | _ => False

/-- The feed of the data source is the subscription. -/
def Source.FedBy (s : Source) (key : SubscriptionKey) : Prop :=
  ∃ feed, s.feed = some feed ∧ feed.url = key.url ∧ feed.topic = key.topic

/-- A measurement carries no value at all, or only an empty string. -/
def Measurement.Bare (x : Measurement) : Prop :=
  ∀ kind, x.Suits kind

namespace Measurement.Suits

variable {x : Measurement} {kind kind' : ValueKind}

theorem iff_of_suits (h : x.Suits kind) : x.Suits kind' ↔ kind = kind' ∨ x.Bare := by
  constructor
  · intro h'
    by_cases hkind : kind = kind'
    · exact .inl hkind
    · refine .inr fun _ => ⟨fun hv => ?_, fun hf => ?_, fun s hs hne => ?_⟩
      · exact absurd ((h.value hv).trans (h'.value hv).symm) hkind
      · exact absurd ((h.flag hf).trans (h'.flag hf).symm) hkind
      · exact absurd ((h.text s hs hne).trans (h'.text s hs hne).symm) hkind
  · rintro (rfl | hbare)
    · exact h
    · exact hbare kind'

end Measurement.Suits

theorem Source.mismatch?_eq_none_iff {s : Source} {key : SubscriptionKey} {x : Measurement} :
    s.mismatch? key x = none ↔ s.FedBy key ∧ x.Suits s.kind := by
  rw [← ValueKind.fits_iff]
  unfold mismatch? FedBy
  cases s.feed with
  | none => simp
  | some feed =>
    by_cases hu : feed.url = key.url <;> by_cases ht : feed.topic = key.topic <;>
      cases s.kind.fits x <;> simp [hu, ht]

/-- Measurements of a message with the data sources that they were checked against. -/
structure Taking (key : SubscriptionKey) (es : List Moment) (xs : List Measurement)
    (taken : List (Source × Measurement)) : Prop where
  sublist : (taken.map (·.2)).Sublist xs
  shown : ∀ sx ∈ taken, ∃ e ∈ es, e.Shows sx.2.name sx.1
  fed : ∀ sx ∈ taken, sx.1.FedBy key
  suits : ∀ sx ∈ taken, sx.2.Suits sx.1.kind

namespace Taking

variable {key : SubscriptionKey} {es es' : List Moment} {xs : List Measurement}
  {taken : List (Source × Measurement)} {s : Source} {x : Measurement}

theorem nil : Taking key es [] [] :=
  ⟨.slnil, by simp, by simp, by simp⟩

theorem skip (h : Taking key es' xs taken) : Taking key (es ++ es') (x :: xs) taken where
  sublist := h.sublist.cons x
  shown sx hsx := by
    obtain ⟨e, he, hshows⟩ := h.shown sx hsx
    exact ⟨e, List.mem_append_right es he, hshows⟩
  fed := h.fed
  suits := h.suits

theorem take (h : Taking key es' xs taken) (hshown : ∃ e ∈ es, e.Shows x.name s)
    (hfits : s.mismatch? key x = none) : Taking key (es ++ es') (x :: xs) ((s, x) :: taken) := by
  obtain ⟨hfed, hsuits⟩ := Source.mismatch?_eq_none_iff.mp hfits
  refine ⟨h.sublist.cons_cons x, List.forall_mem_cons.mpr ⟨?_, (h.skip (x := x)).shown⟩,
    List.forall_mem_cons.mpr ⟨hfed, h.fed⟩, List.forall_mem_cons.mpr ⟨hsuits, h.suits⟩⟩
  obtain ⟨e, he, hshows⟩ := hshown
  exact ⟨e, List.mem_append_left es' he, hshows⟩

end Taking

namespace Routine

variable {env : Surroundings} {key : SubscriptionKey} {m m' : Memory} {es : List Moment}
  {name : String} {s : Source} {x : Measurement} {xs : List Measurement}

/-- Neither looking something up nor checking it stores anything. -/
theorem Records.submitted_eq_nil {α : Type} {p : Routine α} {res : Except Fault α}
    (h : Records env p m es res m') (hp : p.Every fun r => ∀ b, r ≠ .call (.submit b)) :
    submitted (exchanges es) = [] := by
  induction h with
  | done | fault => rfl
  | @ask r k _ m₁ m₂ _ a _ es _ _ _ _ ih =>
    obtain ⟨hr, hk⟩ := hp
    have hrest := ih (hk a)
    cases r with
    | call c =>
      cases c with
      | submit b => exact absurd rfl (hr b)
      | _ => exact hrest
    | _ => exact hrest

theorem every_resolve : (resolve name).Every fun r => ∀ b, r ≠ .call (.submit b) := by
  have hupdate (f : Memory → Memory) : (update f).Every fun r => ∀ b, r ≠ .call (.submit b) :=
    every_request fun _ => nofun
  refine every_bind (every_bind (hupdate _) fun _ => trivial) fun found => ?_
  cases found with
  | some s => trivial
  | none =>
    refine every_bind (hupdate id) fun m => every_bind (every_call fun _ => nofun) fun reply => ?_
    cases resolution reply with
    | error e => trivial
    | ok s => exact every_bind (hupdate _) fun _ => trivial

theorem every_accept : (accept key x).Every fun r => ∀ b, r ≠ .call (.submit b) := by
  unfold accept
  split
  · trivial
  · refine every_bind every_resolve fun found => ?_
    cases found with
    | error e => trivial
    | ok s =>
      dsimp only
      split <;> trivial

theorem shown_of_cached (h : Records env (cached name) m es (.ok (some s)) m') :
    ∃ e ∈ es, e.Shows name s := by
  obtain ⟨m₁, _, a, _, _, -, ⟨-, rfl, -⟩, hrest, rfl⟩ := records_ask h
  obtain ⟨-, hs, -⟩ := records_done hrest
  exact ⟨_, List.mem_cons_self, Cache.mem_of_get (Except.ok.inj hs).symm⟩

theorem shown_of_call {found : Except CatalogError (Option Source)}
    (h : Records env (call (.lookup name)) m es (.ok found) m') (hfound : found = .ok (some s)) :
    ∃ e ∈ es, e.Shows name s := by
  obtain ⟨_, _, reply, _, _, -, -, hrest, rfl⟩ := records_ask h
  cases reply with
  | error f =>
    obtain ⟨-, hres, -⟩ := records_fault hrest
    cases hres
  | ok found' =>
    obtain ⟨-, hres, -⟩ := records_done hrest
    obtain rfl : found = found' := Except.ok.inj hres
    exact ⟨_, List.mem_cons_self, rfl, by rw [hfound]⟩

/-- What a name is resolved to was shown. -/
theorem shown_of_resolve (h : Records env (resolve name) m es (.ok (.ok s)) m') :
    ∃ e ∈ es, e.Shows name s := by
  obtain ⟨found, es₁, m₁, es₂, hcached, hrest, rfl⟩ | ⟨e, -, hres⟩ := records_bind h
  · cases found with
    | some s' =>
      obtain ⟨rfl, hs, -⟩ := records_done hrest
      obtain rfl : s = s' := Except.ok.inj (Except.ok.inj hs)
      rw [List.append_nil]
      exact shown_of_cached hcached
    | none =>
      obtain ⟨_, es₃, _, es₄, -, hasked, rfl⟩ | ⟨e, -, hres⟩ := records_bind hrest
      · obtain ⟨reply, es₅, _, es₆, hcall, hkept, rfl⟩ | ⟨e, -, hres⟩ := records_bind hasked
        · suffices hreply : reply = .ok (some s) by
            obtain ⟨e, he, hshows⟩ := shown_of_call hcall hreply
            exact ⟨e, by simp [he], hshows⟩
          rw [← resolution_eq_ok_iff]
          cases hresolution : resolution reply with
          | error e =>
            simp only [hresolution] at hkept
            obtain ⟨-, hs, -⟩ := records_done hkept
            cases hs
          | ok s' =>
            simp only [hresolution] at hkept
            obtain ⟨_, _, _, _, -, hend, -⟩ | ⟨e, -, hres⟩ := records_bind hkept
            · obtain ⟨-, hs, -⟩ := records_done hend
              rw [Except.ok.inj (Except.ok.inj hs)]
            · cases hres
        · cases hres
      · cases hres
  · cases hres

theorem shown_of_accept (h : Records env (accept key x) m es (.ok (.ok s)) m') :
    (∃ e ∈ es, e.Shows x.name s) ∧ s.mismatch? key x = none := by
  unfold accept at h
  split at h
  · obtain ⟨-, hs, -⟩ := records_done h
    cases hs
  · obtain ⟨found, es₁, m₁, es₂, hresolve, hrest, rfl⟩ | ⟨e, -, hres⟩ := records_bind h
    · cases found with
      | error e =>
        obtain ⟨-, hs, -⟩ := records_done hrest
        cases hs
      | ok s' =>
        dsimp only at hrest
        split at hrest
        · obtain ⟨-, hs, -⟩ := records_done hrest
          cases hs
        · obtain ⟨rfl, hs, -⟩ := records_done hrest
          obtain rfl : s = s' := Except.ok.inj (Except.ok.inj hs)
          rw [List.append_nil]
          exact ⟨shown_of_resolve hresolve, ‹_›⟩
    · cases hres

/-- A batch is made of the measurements that were taken, each with what it was checked against. -/
theorem taking_of_sortOut {b b' : Batch} {dropped dropped' : List (String × DropReason)}
    (h : Records env (sortOut key xs b dropped) m es (.ok (b', dropped')) m') :
    ∃ taken, Taking key es xs taken ∧ b' = b.pushAll taken := by
  induction xs generalizing b dropped m es with
  | nil =>
    obtain ⟨rfl, hres, -⟩ := records_done h
    exact ⟨[], .nil, (Prod.mk.inj (Except.ok.inj hres)).1⟩
  | cons x xs ih =>
    obtain ⟨verdict, es₁, m₁, es₂, haccept, h, rfl⟩ | ⟨e, -, hres⟩ := records_bind h
    · cases verdict with
      | ok s =>
        obtain ⟨taken, htaking, rfl⟩ := ih h
        obtain ⟨hshown, hfits⟩ := shown_of_accept haccept
        exact ⟨(s, x) :: taken, htaking.take hshown hfits, rfl⟩
      | error r =>
        obtain ⟨taken, htaking, rfl⟩ := ih h
        exact ⟨taken, htaking.skip, rfl⟩
    · cases hres

theorem every_sortOut {b : Batch} {dropped : List (String × DropReason)} :
    (sortOut key xs b dropped).Every fun r => ∀ b, r ≠ .call (.submit b) := by
  induction xs generalizing b dropped with
  | nil => trivial
  | cons x xs ih =>
    refine every_bind every_accept fun verdict => ?_
    cases verdict with
    | ok s => exact ih
    | error r => exact ih

/-- At most one batch is submitted, with what was taken. -/
theorem submitted_of_handle {read : PayloadReader} {payload : List UInt8}
    {res : Except Fault (Except MessageError Outcome)} (hread : read payload = .ok xs)
    (h : Records env (handle read key payload) m es res m') :
    ∃ taken, Taking key es xs taken ∧ (submitted (exchanges es) = [] ∨
      submitted (exchanges es) = [({} : Batch).pushAll taken]) := by
  have hnothing : Taking key es xs [] := ⟨List.nil_sublist _, by simp, by simp, by simp⟩
  unfold handle at h
  rw [hread] at h
  obtain ⟨⟨b, dropped⟩, es₁, m₁, es₂, hsorted, h, rfl⟩ | ⟨e, hsorted, -⟩ := records_bind h
  · have hsilent := hsorted.submitted_eq_nil every_sortOut
    obtain ⟨taken, htaking, rfl⟩ := taking_of_sortOut hsorted
    have htaking : Taking key (es₁ ++ es₂) xs taken :=
      ⟨htaking.sublist, fun sx hsx => ?_, htaking.fed, htaking.suits⟩
    · refine ⟨taken, htaking, ?_⟩
      rw [exchanges_append, submitted_append, hsilent, List.nil_append]
      dsimp only at h
      split at h
      · obtain ⟨rfl, -, -⟩ := records_done h
        exact .inl rfl
      · right
        obtain ⟨_, _, reply, _, es₃, -, -, hend, rfl⟩ := records_ask h
        suffices hnone : es₃ = [] by rw [hnone]; rfl
        match reply with
        | .error f => exact (records_fault hend).1
        | .ok (.error e) => exact (records_done hend).1
        | .ok (.ok u) => exact (records_done hend).1
    · obtain ⟨e, he, hshows⟩ := htaking.shown sx hsx
      exact ⟨e, List.mem_append_left es₂ he, hshows⟩
  · exact ⟨[], hnothing, .inl (hsorted.submitted_eq_nil every_sortOut)⟩

end Routine

open Routine

section Batch

variable {env : Surroundings} {read : PayloadReader} {key : SubscriptionKey} {payload : List UInt8}
  {xs : List Measurement} {m m' : Memory} {es : List Moment}
  {res : Except Fault (Except MessageError Outcome)}

/-- All data sources with this id that were to be found meanwhile are of one type. -/
def Typed (es : List Moment) (id : String) : Prop :=
  ∃ kind, ∀ e ∈ es, ∀ name s, e.Shows name s → s.id = id → s.kind = kind

/-- However the cache and the catalog change while a message is handled, the data source that is
passed for an id has the subscription of the message. A point under the id fits it if and only if the
one that the point was checked against is of the same type, or the point carries no value. So all
points fit unless the type of an id changes meanwhile. -/
theorem points_fit_iff (hread : read payload = .ok xs)
    (h : Records env (handle read key payload) m es res m') :
    ∃ taken, Taking key es xs taken ∧
      (submitted (exchanges es) = [] ∨
        submitted (exchanges es) = [({} : Batch).pushAll taken]) ∧
      ∀ b ∈ submitted (exchanges es), ∀ id x, x ∈ b.points.get id →
        ∃ s, b.sources.lookup id = some s ∧ s.id = id ∧ s.FedBy key ∧
          (∃ e ∈ es, ∃ name, e.Shows name s) ∧ (∃ s', (s', x) ∈ taken ∧ s'.id = id) ∧
          (∀ s', (s', x) ∈ taken → s'.id = id → (x.Suits s.kind ↔ s'.kind = s.kind ∨ x.Bare)) ∧
          (Typed es id → x.Suits s.kind) := by
  obtain ⟨taken, htaking, hsubmitted⟩ := submitted_of_handle hread h
  refine ⟨taken, htaking, hsubmitted, fun b hb id x hx => ?_⟩
  obtain rfl : b = ({} : Batch).pushAll taken := by
    obtain hnone | hone := hsubmitted
    · rw [hnone] at hb
      cases hb
    · rw [hone] at hb
      exact List.mem_singleton.mp hb
  have hx : x ∈ (taken.filter (·.1.id == id)).map (·.2) := by
    rw [Batch.get_pushAll] at hx
    exact hx
  obtain ⟨⟨s', x⟩, hmem, rfl⟩ := List.mem_map.mp hx
  obtain ⟨hmem, hid'⟩ := List.mem_filter.mp hmem
  have hid' : s'.id = id := beq_iff_eq.mp hid'
  have hfits (s : Source) (s' : Source) (hs' : (s', x) ∈ taken) :
      x.Suits s.kind ↔ s'.kind = s.kind ∨ x.Bare := (htaking.suits _ hs').iff_of_suits
  rw [Batch.lookup_pushAll]
  cases hfirst : taken.find? (·.1.id == id) with
  | none => exact absurd hid' (by simpa using List.find?_eq_none.mp hfirst _ hmem)
  | some sx =>
    obtain ⟨s, x'⟩ := sx
    obtain ⟨hmem', hid⟩ := key_of_find? hfirst
    obtain ⟨e, he, hshows⟩ := htaking.shown _ hmem'
    refine ⟨s, rfl, hid, htaking.fed _ hmem', ⟨e, he, _, hshows⟩, ⟨s', hmem, hid'⟩,
      fun s'' hs'' _ => hfits s s'' hs'', fun ⟨kind, hkind⟩ => (hfits s s' hmem).mpr (.inl ?_)⟩
    obtain ⟨e', he', hshows'⟩ := htaking.shown _ hmem
    rw [hkind e' he' _ _ hshows' hid', hkind e he _ _ hshows hid]

/-- A data source whose type may be changed. -/
def Source.gauge (kind : ValueKind) : Source :=
  { Catalog.crowdMember 0 with kind }

def Catalog.gauge (kind : ValueKind) : Catalog :=
  ⟨[.gauge kind]⟩

theorem gauge_commits : (Catalog.gauge .float).Commits
    (.updated (.gauge .float) (.gauge .string)) (Catalog.gauge .string) :=
  @Catalog.Commits.update _ "a" (.gauge .string) _ _ rfl

/-- The gauge may be retyped between any two steps, which drops its name from the cache. -/
def Surroundings.retyping : Surroundings where
  others m m' := m' = m ∨ m' = { m with cache := (m.cache.remove "a").remove "a" }
  replies
    | .lookup name, reply => ∃ kind, (kind = .float ∨ kind = .string) ∧
        reply = .ok (.ok ((Catalog.gauge kind).lookup name))
    | .submit _, reply => reply = .ok (.ok ())
    | _, _ => False

theorem runs_update {f : Memory → Memory} {m₁ : Memory} (hothers : env.others m m₁) :
    Runs env (update f) m [] (.ok m₁) (f m₁) :=
  runs_ask.mpr ⟨m₁, [], m₁, f m₁, [], hothers, ⟨rfl, rfl, rfl⟩, .done m₁ _, rfl⟩

/-- A measurement that is taken though the cache does not know its name. -/
theorem runs_accept {m₁ : Memory} {s : Source} {x : Measurement} (hidle : ∀ m, env.others m m)
    (hothers : env.others m m₁) (hname : x.name.isEmpty = false)
    (hnone : m₁.cache.entries.lookup x.name = none)
    (hreply : env.replies (.lookup x.name) (.ok (.ok (some s)))) (hfits : s.mismatch? key x = none) :
    Runs env (accept key x) m [⟨.lookup x.name, .ok (.ok (some s))⟩] (.ok (.ok s))
      { m₁ with cache := (m₁.cache.insert x.name s m₁.cache.generation).2 } := by
  have hget : m₁.cache.get x.name = (none, m₁.cache) := by rw [Cache.get, hnone]
  have hcached : Runs env (cached x.name) m [] (.ok none) m₁ := by
    have hread := runs_update (f := fun m => { m with cache := (m.cache.get x.name).2 }) hothers
    simp only [hget] at hread
    refine runs_bind.mpr (.inl ⟨_, _, _, [], hread, ?_, rfl⟩)
    rw [hget]
    exact .done none m₁
  have hresolve : Runs env (resolve x.name) m [⟨.lookup x.name, .ok (.ok (some s))⟩] (.ok (.ok s))
      { m₁ with cache := (m₁.cache.insert x.name s m₁.cache.generation).2 } := by
    refine runs_bind.mpr (.inl ⟨_, _, _, _, hcached, ?_, rfl⟩)
    refine runs_bind.mpr (.inl ⟨_, _, _, _, runs_update (hidle m₁), ?_, rfl⟩)
    refine runs_bind.mpr (.inl ⟨_, _, _, [], runs_call.mpr ⟨hidle m₁, hreply, rfl⟩, ?_, rfl⟩)
    exact runs_bind.mpr (.inl ⟨_, _, _, [], runs_update (hidle m₁), .done _ _, rfl⟩)
  rw [accept, hname, if_neg Bool.false_ne_true]
  refine runs_bind.mpr (.inl ⟨_, _, _, [], hresolve, ?_, rfl⟩)
  simp only [hfits]
  exact .done _ _

theorem runs_sortOut_cons {s : Source} {x : Measurement} {m₁ : Memory} {t₁ t₂ : List Exchange}
    {b : Batch} {dropped : List (String × DropReason)}
    {end' : Except Fault (Batch × List (String × DropReason))}
    (h : Runs env (accept key x) m t₁ (.ok (.ok s)) m₁)
    (hrest : Runs env (sortOut key xs (b.push s x) dropped) m₁ t₂ end' m') :
    Runs env (sortOut key (x :: xs) b dropped) m (t₁ ++ t₂) end' m' :=
  runs_bind.mpr (.inl ⟨_, _, m₁, _, h, hrest, rfl⟩)

/-- A number, and a text that is looked at after the update. -/
theorem exists_handled_retyping : ∃ t m' b,
    Runs .retyping (handle (fun _ => .ok [.ofFloat "a" 1, .ofString "a" "on"]) ⟨"mqtt://a", "t"⟩ [])
      { cache := { capacity := 1 } } t (.ok (.ok { accepted := 2, sources := 1 })) m' ∧
    submitted t = [b] ∧ b.sources.lookup "a" = some (.gauge .float) ∧
    b.points.get "a" = [.ofFloat "a" 1, .ofString "a" "on"] := by
  have hidle (m : Memory) : Surroundings.retyping.others m m := .inl rfl
  let key : SubscriptionKey := ⟨"mqtt://a", "t"⟩
  let m₀ : Memory := { cache := { capacity := 1 } }
  let m₁ : Memory := { cache := { capacity := 1, entries := [("a", .gauge .float)] } }
  let m₂ : Memory :=
    { cache := { capacity := 1, entries := [("a", .gauge .string)], generation := 2 } }
  let b : Batch := (({} : Batch).push (.gauge .float) (.ofFloat "a" 1)).push (.gauge .string)
    (.ofString "a" "on")
  have hfirst : Runs .retyping (accept key (.ofFloat "a" 1)) m₀ _ (.ok (.ok (.gauge .float))) m₁ :=
    runs_accept hidle (hidle m₀) rfl rfl ⟨.float, .inl rfl, rfl⟩ rfl
  have hsecond : Runs .retyping (accept key (.ofString "a" "on")) m₁ _
      (.ok (.ok (.gauge .string))) m₂ :=
    runs_accept hidle (.inr rfl) rfl rfl ⟨.string, .inr rfl, rfl⟩ rfl
  have hsorted : Runs .retyping (sortOut key [.ofFloat "a" 1, .ofString "a" "on"] {} []) m₀ _
      (.ok (b, [])) m₂ :=
    runs_sortOut_cons hfirst (runs_sortOut_cons hsecond (.done _ _))
  refine ⟨_, m₂, b, runs_bind.mpr (.inl ⟨_, _, m₂, [⟨.submit b, .ok (.ok ())⟩], hsorted, ?_, rfl⟩),
    rfl, rfl, rfl⟩
  exact runs_bind.mpr (.inl ⟨_, _, m₂, [], runs_call.mpr ⟨hidle m₂, rfl, rfl⟩, .done _ _, rfl⟩)

theorem not_suits_gauge : ¬ (Measurement.ofString "a" "on").Suits .float :=
  fun h => nomatch h.text "on" rfl (by decide)

theorem points_fit_iff_retyping : ∃ m' es,
    Records .retyping (handle (fun _ => .ok [.ofFloat "a" 1, .ofString "a" "on"]) ⟨"mqtt://a", "t"⟩ [])
      { cache := { capacity := 1 } } es (.ok (.ok { accepted := 2, sources := 1 })) m' ∧
    ¬ Typed es "a" := by
  obtain ⟨t, m', b, hrun, hsubmitted, hlookup, hpoints⟩ := exists_handled_retyping
  obtain ⟨es, hes, rfl⟩ := hrun.exists_records
  obtain ⟨taken, -, -, hfits⟩ := points_fit_iff rfl hes
  refine ⟨m', es, hes, fun htyped => not_suits_gauge ?_⟩
  obtain ⟨s, hs, -, -, -, -, -, hsuits⟩ := hfits b (by rw [hsubmitted]; exact List.mem_singleton_self b)
    "a" (.ofString "a" "on") (by rw [hpoints]; exact List.mem_cons_of_mem _ (List.mem_singleton_self _))
  obtain rfl : Source.gauge .float = s := Option.some.inj (hlookup.symm.trans hs)
  exact hsuits htyped

/-- A type is changed between two measurements of one message, and a text is stored with a data
source of numbers. -/
theorem retyped_between_points :
    (Catalog.gauge .float).Commits (.updated (.gauge .float) (.gauge .string))
      (Catalog.gauge .string) ∧
    ∃ t res m' b s x, Runs .retyping
        (handle (fun _ => .ok [.ofFloat "a" 1, .ofString "a" "on"]) ⟨"mqtt://a", "t"⟩ [])
        { cache := { capacity := 1 } } t res m' ∧
      b ∈ submitted t ∧ b.sources.lookup "a" = some s ∧ x ∈ b.points.get "a" ∧ ¬ x.Suits s.kind := by
  obtain ⟨t, m', b, hrun, hsubmitted, hlookup, hpoints⟩ := exists_handled_retyping
  refine ⟨gauge_commits, t, _, m', b, _, .ofString "a" "on", hrun, ?_, hlookup, ?_, not_suits_gauge⟩
  · rw [hsubmitted]
    exact List.mem_singleton_self b
  · rw [hpoints]
    exact List.mem_cons_of_mem _ (List.mem_singleton_self _)

end Batch

end SensorBridge
