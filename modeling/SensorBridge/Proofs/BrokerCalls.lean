import SensorBridge.Proofs.Receivers
import SensorBridge.Proofs.Writes

/-!
The calls to brokers against the ledger. Every call answers to something that happens on the ledger:
a topic comes to its first receiver or loses its last one, and a session is on a link from its
opening to its end.
-/
namespace SensorBridge

namespace Exchange

/-- A session of a kind was opened. -/
def opens (p : SessionId → Bool) : Exchange → Bool
  | ⟨.connect _, .ok (.ok session)⟩ => p session
  | _ => false

/-- A session of a kind was told to end, however that went. -/
def closes (p : SessionId → Bool) : Exchange → Bool
  | ⟨.disconnect session _, _⟩ => p session
  | _ => false

/-- A topic was subscribed on a session of a kind, and the broker acknowledged it. -/
def subscribes (p : SessionId → Bool) (topic : String) : Exchange → Bool
  | ⟨.subscribe session topic' _, .ok (.ok ())⟩ => p session && topic' == topic
  | _ => false

/-- A topic was unsubscribed on a session of a kind, however that went. -/
def unsubscribes (p : SessionId → Bool) (topic : String) : Exchange → Bool
  | ⟨.unsubscribe session topic', _⟩ => p session && topic' == topic
  | _ => false

/-- A call on no session. -/
def Aside (x : Exchange) : Prop :=
  ∀ p topic, x.opens p = false ∧ x.closes p = false ∧ x.subscribes p topic = false ∧
    x.unsubscribes p topic = false

end Exchange

theorem Exchange.closes_of_opens {p : SessionId → Bool} {x : Exchange} (h : x.opens p = true) :
    x.closes p = false := by
  unfold Exchange.opens at h
  split at h
  · rfl
  · cases h

/-- Sessions of a kind are opened and closed in turns; so many are open at first. -/
inductive Alternates (p : SessionId → Bool) : Nat → List Exchange → Prop where
  | nil {n : Nat} : n ≤ 1 → Alternates p n []
  | opens {x : Exchange} {t : List Exchange} : x.opens p = true → Alternates p 1 t →
      Alternates p 0 (x :: t)
  | closes {x : Exchange} {t : List Exchange} : x.opens p = false → x.closes p = true →
      Alternates p 0 t → Alternates p 1 (x :: t)
  | other {n : Nat} {x : Exchange} {t : List Exchange} : x.opens p = false → x.closes p = false →
      Alternates p n t → Alternates p n (x :: t)

theorem Alternates.append {p : SessionId → Bool} {n n' : Nat} {t t' : List Exchange}
    (h : Alternates p n t) (h' : Alternates p n' t')
    (hn : t.countP (·.opens p) + n = t.countP (·.closes p) + n') : Alternates p n (t ++ t') := by
  induction h with
  | nil =>
    obtain rfl := (by simpa using hn : _ = n')
    exact h'
  | opens ho _ ih =>
    simp only [List.countP_cons, ho, Exchange.closes_of_opens ho] at hn
    exact .opens ho (ih (by simpa using hn))
  | closes ho hc _ ih =>
    simp only [List.countP_cons, ho, hc] at hn
    exact .closes ho hc (ih (by simp at hn; omega))
  | other ho hc _ ih =>
    simp only [List.countP_cons, ho, hc] at hn
    exact .other ho hc (ih (by simpa using hn))

theorem Alternates.le_one {p : SessionId → Bool} {n : Nat} {t : List Exchange}
    (h : Alternates p n t) : n ≤ 1 := by
  induction h with
  | nil hn => exact hn
  | opens | closes => omega
  | other _ _ _ ih => exact ih

/-- At any time one session is open at most, and none was closed that was not open. -/
theorem Alternates.bounds {p : SessionId → Bool} {n : Nat} {t t₁ t₂ : List Exchange}
    (h : Alternates p n t) (ht : t = t₁ ++ t₂) :
    t₁.countP (·.closes p) ≤ t₁.countP (·.opens p) + n ∧
      t₁.countP (·.opens p) + n ≤ t₁.countP (·.closes p) + 1 := by
  induction h generalizing t₁ with
  | nil hn =>
    obtain ⟨rfl, -⟩ := List.append_eq_nil_iff.mp ht.symm
    simpa using hn
  | opens ho _ ih =>
    obtain ⟨rfl, -⟩ | ⟨t₁, rfl, hrest⟩ := List.cons_eq_append_iff.mp ht
    · simp
    · have hbounds := ih hrest
      simp only [List.countP_cons, ho, Exchange.closes_of_opens ho, if_true, Bool.false_eq_true,
        if_false]
      omega
  | closes ho hc _ ih =>
    obtain ⟨rfl, -⟩ | ⟨t₁, rfl, hrest⟩ := List.cons_eq_append_iff.mp ht
    · simp
    · have hbounds := ih hrest
      simp only [List.countP_cons, ho, hc, if_true, Bool.false_eq_true, if_false]
      omega
  | other ho hc h ih =>
    obtain ⟨rfl, -⟩ | ⟨t₁, rfl, hrest⟩ := List.cons_eq_append_iff.mp ht
    · simpa using h.le_one
    · simpa [List.countP_cons, ho, hc] using ih hrest

/-- A session belongs to the url that it was opened for. -/
def Replies.Addresses (replies : Replies) (urlOf : SessionId → String) : Prop :=
  ∀ feed session, replies (.connect feed) (.ok (.ok session)) → urlOf session = feed.url

namespace Ledger

variable {urlOf : SessionId → String} {p : SessionId → Bool} {f : Link → Link} {l : Link}
  {g g' : Ledger} {url topic : String}

/-- A topic comes to its first receiver. -/
def rises (url topic : String) (g g' : Ledger) : Bool :=
  g.count url topic == 0 && g'.count url topic == 1

/-- A topic loses its last receiver. -/
def falls (url topic : String) (g g' : Ledger) : Bool :=
  g.count url topic == 1 && g'.count url topic == 0

theorem rises_self (g : Ledger) : rises url topic g g = false := by
  simp only [rises, Bool.and_eq_false_iff, beq_eq_false_iff_ne]
  omega

theorem falls_self (g : Ledger) : falls url topic g g = false := by
  simp only [falls, Bool.and_eq_false_iff, beq_eq_false_iff_ne]
  omega

/-- The sessions of a kind that are on links. -/
def held (g : Ledger) (p : SessionId → Bool) : Nat :=
  g.links.countP (p ·.session)

theorem held_modify (hf : ∀ l, (f l).session = l.session) :
    (g.modify url f).held p = g.held p := by
  unfold held modify
  rw [List.countP_map]
  refine List.countP_congr fun l _ => ?_
  simp only [Function.comp_apply]
  split
  · rw [hf]
  · rfl

theorem held_insert (h : g.link? l.url = none) :
    (g.insert l).held p = g.held p + if p l.session then 1 else 0 := by
  have hkeep : g.links.filter (·.url != l.url) = g.links :=
    filter_key_ne (find?_key_eq_none.mp h)
  simp only [held, insert, hkeep, List.countP_append, List.countP_singleton]

theorem held_erase (h : g.Tidy) (hl : g.link? url = some l) :
    (g.erase url).held p + (if p l.session then 1 else 0) = g.held p := by
  obtain ⟨hmem, rfl⟩ := mem_of_link? hl
  simp only [held, erase, (perm_cons_filter_key h.urls hmem).countP_eq, List.countP_cons]

theorem count_eq_zero (hn : (g.link? url).bind (·.find? topic) = none) : g.count url topic = 0 := by
  cases hl : g.link? url with
  | none => simp [count, hl]
  | some l => simp_all [count, Link.count]

theorem Tidy.count_pos {s : Subscription} (h : g.Tidy) (hl : g.link? url = some l)
    (hs : l.find? topic = some s) : 0 < g.count url topic := by
  have hpos := (h.links l (mem_of_link? hl).1).positive s (key_of_find? hs).1
  simpa [count, hl, Link.count, hs] using hpos

/-- Sessions are on the links of the urls they were opened for. -/
structure Rooted (urlOf : SessionId → String) (g : Ledger) : Prop where
  tidy : g.Tidy
  sessions : ∀ l ∈ g.links, urlOf l.session = l.url

theorem rooted_empty : ({} : Ledger).Rooted urlOf :=
  ⟨tidy_empty, by simp⟩

theorem Rooted.link (h : g.Rooted urlOf) (hl : g.link? url = some l) : urlOf l.session = url :=
  (h.sessions l (mem_of_link? hl).1).trans (mem_of_link? hl).2

/-- A url has one session if it has a link. -/
theorem Rooted.held_url (h : g.Rooted urlOf) :
    g.held (urlOf · == url) = if (g.link? url).isSome then 1 else 0 := by
  have hcount : g.held (urlOf · == url) = (g.links.map (·.url)).count url := by
    rw [held, List.count, List.countP_map]
    refine List.countP_congr fun l hl => ?_
    rw [Function.comp_apply, h.sessions l hl]
  have hmem : url ∈ g.links.map (·.url) ↔ (g.link? url).isSome := by
    rw [Option.isSome_iff_ne_none, Ne, link?, find?_key_eq_none, not_not]
  rw [hcount, h.tidy.urls.count]
  simp only [hmem]

theorem Rooted.held_le_one (h : g.Rooted urlOf) : g.held (urlOf · == url) ≤ 1 := by
  rw [h.held_url]
  split <;> omega

theorem Rooted.modify (h : g.Rooted urlOf) (hg : (g.modify url f).Tidy)
    (hf : ∀ l, (f l).url = l.url) (hs : ∀ l, (f l).session = l.session) :
    (g.modify url f).Rooted urlOf where
  tidy := hg
  sessions := by
    intro l' hl'
    obtain ⟨l, hl, rfl⟩ := mem_modify.mp hl'
    split
    · rw [hs, hf]
      exact h.sessions l hl
    · exact h.sessions l hl

theorem Rooted.of_links (h : g.Rooted urlOf) (hg : g'.Tidy)
    (hl : ∀ l ∈ g'.links, l ∈ g.links ∨ urlOf l.session = l.url) : g'.Rooted urlOf :=
  ⟨hg, fun l hmem => (hl l hmem).elim (h.sessions l) id⟩

variable {replies : Replies} {grace : Nat} {feed : Feed} {t t' : List Exchange}
  {res : Except Fault (Except ConnectorError Unit)}

theorem Registering.rooted (h : Registering replies grace feed g t res g') (hg : g.Rooted urlOf)
    (ha : replies.Addresses urlOf) : g'.Rooted urlOf := by
  have htidy := h.tidy hg.tidy
  cases h with
  | counted => exact hg.modify htidy (fun _ => rfl) fun _ => rfl
  | subscribed => exact hg.modify htidy (fun _ => rfl) fun _ => rfl
  | opened _ _ hconnect =>
    refine hg.of_links htidy fun l hl => ?_
    obtain ⟨hl, -⟩ | rfl := mem_insert.mp hl
    · exact .inl hl
    · exact .inr (ha _ _ hconnect)
  | _ => exact hg

theorem Unregistering.rooted (h : Unregistering replies grace feed g t res g')
    (hg : g.Rooted urlOf) : g'.Rooted urlOf := by
  have hmod : (g.modify feed.url (·.decrement feed.topic)).Rooted urlOf :=
    hg.modify (hg.tidy.modify (fun _ => Link.url_decrement) fun _ => Link.tidy_decrement)
      (fun _ => rfl) fun _ => rfl
  cases h with
  | unknown => exact hg
  | closed => exact hmod.of_links hmod.tidy.erase fun l hl => .inl (mem_erase.mp hl).1
  | _ => exact hmod

/-- Whether a call for the feed on its session is one for a topic of a url. -/
theorem concerns_eq {session : SessionId} {n : Nat} (hs : urlOf session = feed.url)
    (hn : g.count feed.url feed.topic = n) (url topic : String) :
    (urlOf session == url && feed.topic == topic) =
      decide ((url = feed.url ∧ topic = feed.topic) ∧ g.count url topic = n) := by
  rw [Bool.eq_iff_iff, Bool.and_eq_true, decide_eq_true_iff, beq_iff_eq, beq_iff_eq, hs]
  constructor
  · rintro ⟨rfl, rfl⟩
    exact ⟨⟨rfl, rfl⟩, hn⟩
  · rintro ⟨⟨rfl, rfl⟩, -⟩
    exact ⟨rfl, rfl⟩

/-- Calls are in balance with the ledger when each acknowledged subscription stands for a topic that
came to its first receiver, each attempt to unsubscribe for one that lost its last, and the sessions
on links are those that were opened and not told to end. Both were counted while the ledger changed
from one to the other. -/
structure Balanced (urlOf : SessionId → String) (crossings : (Ledger → Ledger → Bool) → Nat)
    (g : Ledger) (t : List Exchange) (g' : Ledger) : Prop where
  subscribed : ∀ url topic,
    t.countP (·.subscribes (urlOf · == url) topic) = crossings (rises url topic)
  unsubscribed : ∀ url topic,
    t.countP (·.unsubscribes (urlOf · == url) topic) = crossings (falls url topic)
  sessions : ∀ p, t.countP (·.opens p) + g.held p = t.countP (·.closes p) + g'.held p
  alternating : ∀ url, Alternates (urlOf · == url) (g.held (urlOf · == url)) t

/-- What crosses between the ledgers before and after. -/
abbrev crossing (g g' : Ledger) (q : Ledger → Ledger → Bool) : Nat :=
  if q g g' then 1 else 0

theorem crossing_rises_of_added (h : g'.count url topic = g.count url topic +
      if url = feed.url ∧ topic = feed.topic then 1 else 0) :
    crossing g g' (rises url topic) =
      if (url = feed.url ∧ topic = feed.topic) ∧ g.count url topic = 0 then 1 else 0 := by
  simp only [crossing, rises, h, Bool.and_eq_true, beq_iff_eq]
  by_cases hf : url = feed.url ∧ topic = feed.topic
  · simp +contextual [hf]
  · simp only [hf, if_false, false_and]
    rw [if_neg (by omega)]

theorem crossing_falls_of_added {n : Nat} (h : g'.count url topic = g.count url topic + n) :
    crossing g g' (falls url topic) = 0 := by
  simp only [crossing, falls, Bool.and_eq_true, beq_iff_eq]
  rw [if_neg (by omega)]

theorem crossing_falls_of_removed (h : g'.count url topic = g.count url topic -
      if url = feed.url ∧ topic = feed.topic then 1 else 0) :
    crossing g g' (falls url topic) =
      if (url = feed.url ∧ topic = feed.topic) ∧ g.count url topic = 1 then 1 else 0 := by
  simp only [crossing, falls, h, Bool.and_eq_true, beq_iff_eq]
  by_cases hf : url = feed.url ∧ topic = feed.topic
  · have hlast (n : Nat) : n = 1 ∧ n - 1 = 0 ↔ n = 1 := by omega
    simp only [hf, and_self, if_true, true_and, hlast]
  · simp only [hf, if_false, false_and]
    rw [if_neg (by omega)]

theorem crossing_rises_of_removed {n : Nat} (h : g'.count url topic = g.count url topic - n) :
    crossing g g' (rises url topic) = 0 := by
  simp only [crossing, rises, Bool.and_eq_true, beq_iff_eq]
  rw [if_neg (by omega)]

/-- A registration that fails leaves no session and no subscription behind. -/
theorem Registering.balanced_of_failure (h : Registering replies grace feed g t res g')
    (hres : res ≠ .ok (.ok ())) (hg : g.Rooted urlOf) (hr : replies.Faultless)
    (ha : replies.Addresses urlOf) : Balanced urlOf (crossing g g') g t g' := by
  have hstill (url topic : String) :
      crossing g g (rises url topic) = 0 ∧ crossing g g (falls url topic) = 0 := by
    simp [rises_self, falls_self]
  have hheld (url : String) : g.held (urlOf · == url) ≤ 1 := hg.held_le_one
  cases h with
  | counted | subscribed | opened => exact absurd rfl hres
  | faulted hq hl hreply => exact absurd hreply (hr _ _)
  | refused =>
    exact ⟨fun _ _ => by simp [hstill], fun _ _ => by simp [hstill], fun _ => rfl,
      fun url => .nil (hheld url)⟩
  | unconnected hq hl hreply =>
    refine ⟨fun _ _ => ?_, fun _ _ => ?_, fun _ => ?_, fun url => ?_⟩
    · simp [Exchange.subscribes, hstill]
    · simp [Exchange.unsubscribes, hstill]
    · simp [Exchange.opens, Exchange.closes]
    · exact .other rfl rfl (.nil (hheld url))
  | unsubscribed hq hl hs hsub =>
    cases hsub with
    | faulted hreply => exact absurd hreply (hr _ _)
    | acknowledged => exact absurd rfl hres
    | failed hreply =>
      refine ⟨fun _ _ => ?_, fun _ _ => ?_, fun _ => ?_, fun url => ?_⟩
      · simp [Exchange.subscribes, hstill]
      · simp [Exchange.unsubscribes, hstill]
      · simp [Exchange.opens, Exchange.closes]
      · exact .other rfl rfl (.nil (hheld url))
  | dropped hq hl hreply hsub =>
    cases hsub with
    | faulted hreply => exact absurd hreply (hr _ _)
  | @closed _ session _ _ _ _ hq hl hreply hsub hclosing =>
    have hurl : urlOf session = feed.url := ha _ _ hreply
    cases hclosing
    cases hsub with
    | failed hsub =>
      refine ⟨fun _ _ => ?_, fun _ _ => ?_, fun _ => ?_, fun url => ?_⟩
      · simp [Exchange.subscribes, hstill]
      · simp [Exchange.unsubscribes, hstill]
      · simp only [Exchange.opens, Exchange.closes, List.countP_cons, List.countP_append,
          List.countP_nil]
        simp
      · by_cases hu : feed.url = url
        · have hnone : g.held (urlOf · == url) = 0 := by simp [hg.held_url, ← hu, hl]
          have hp : (urlOf session == url) = true := by simp [hurl, hu]
          rw [hnone]
          exact .opens hp (.other rfl rfl (.closes rfl hp (.nil (Nat.zero_le 1))))
        · have hp : (urlOf session == url) = false := by simp [hurl, hu]
          exact .other hp rfl (.other rfl rfl (.other rfl hp (.nil (hheld url))))

theorem Registering.balanced_of_success (h : Registering replies grace feed g t (.ok (.ok ())) g')
    (hg : g.Rooted urlOf) (ha : replies.Addresses urlOf) :
    Balanced urlOf (crossing g g') g t g' := by
  have hcount (url topic : String) : g'.count url topic = g.count url topic +
      if url = feed.url ∧ topic = feed.topic then 1 else 0 := h.count
  have hrises (url topic : String) := crossing_rises_of_added (hcount url topic)
  have hfalls (url topic : String) := crossing_falls_of_added (hcount url topic)
  have hheld (url : String) : g.held (urlOf · == url) ≤ 1 := hg.held_le_one
  generalize hres : (.ok (.ok ()) : Except Fault (Except ConnectorError Unit)) = res at h
  cases h with
  | counted hq hl hs =>
    refine ⟨fun url topic => ?_, fun _ _ => ?_, fun p => ?_, fun url => .nil (hheld url)⟩
    · rw [hrises, List.countP_nil, if_neg]
      rintro ⟨⟨rfl, rfl⟩, hzero⟩
      exact (hg.tidy.count_pos hl hs).ne' hzero
    · rw [hfalls, List.countP_nil]
    · rw [held_modify fun _ => Link.session_increment]
      rfl
  | @subscribed _ l _ hq hl hs hsub =>
    cases hsub with
    | acknowledged =>
      have hzero : g.count feed.url feed.topic = 0 := count_eq_zero (by simp [hl, hs])
      have hf := concerns_eq (hg.link hl) hzero
      refine ⟨fun url topic => ?_, fun url topic => ?_, fun p => ?_, fun url => ?_⟩
      · rw [hrises, List.countP_singleton]
        simp only [Exchange.subscribes, hf, decide_eq_true_eq]
      · rw [hfalls]
        rfl
      · rw [held_modify fun _ => Link.session_track]
        rfl
      · exact .other rfl rfl (.nil (hheld url))
  | @opened _ session _ hq hl hreply hsub =>
    cases hsub with
    | acknowledged =>
      have hurl : urlOf session = feed.url := ha _ _ hreply
      have hzero : g.count feed.url feed.topic = 0 := count_eq_zero (by simp [hl])
      have hf := concerns_eq hurl hzero
      refine ⟨fun url topic => ?_, fun url topic => ?_, fun p => ?_, fun url => ?_⟩
      · rw [hrises, List.countP_cons, List.countP_singleton]
        simp only [Exchange.subscribes, hf, decide_eq_true_eq, Bool.false_eq_true, if_false,
          Nat.add_zero]
      · rw [hfalls]
        rfl
      · rw [held_insert hl, Link.session_track]
        simp only [Exchange.opens, Exchange.closes, List.countP_cons, List.countP_nil,
          Bool.false_eq_true, if_false, Nat.zero_add, Nat.add_zero]
        exact Nat.add_comm _ _
      · by_cases hu : feed.url = url
        · have hnone : g.held (urlOf · == url) = 0 := by simp [hg.held_url, ← hu, hl]
          have hp : (urlOf session == url) = true := by simp [hurl, hu]
          rw [hnone]
          exact .opens hp (.other rfl rfl (.nil le_rfl))
        · have hp : (urlOf session == url) = false := by simp [hurl, hu]
          exact .other hp rfl (.other rfl rfl (.nil (hheld url)))
  | unsubscribed hq hl hs hsub hne => exact absurd hres.symm hne
  | @closed _ _ _ _ _ reply => cases reply <;> cases hres
  | refused | unconnected | faulted | dropped => cases hres

theorem Unregistering.balanced (h : Unregistering replies grace feed g t res g')
    (hg : g.Rooted urlOf) (hr : replies.Faultless) : Balanced urlOf (crossing g g') g t g' := by
  have hcount (url topic : String) : g'.count url topic = g.count url topic -
      if url = feed.url ∧ topic = feed.topic then 1 else 0 := h.count hg.tidy
  have hrises (url topic : String) := crossing_rises_of_removed (hcount url topic)
  have hfalls (url topic : String) := crossing_falls_of_removed (hcount url topic)
  have hheld (url : String) : g.held (urlOf · == url) ≤ 1 := hg.held_le_one
  have hone {l : Link} {s : Subscription} (hl : g.link? feed.url = some l)
      (hs : l.find? feed.topic = some s) (hn : s.receivers ≤ 1) : g.count feed.url feed.topic = 1 := by
    have hpos := hg.tidy.count_pos hl hs
    simp only [Ledger.count, hl, Link.count, hs, Option.map_some, Option.getD_some] at hpos ⊢
    omega
  cases h with
  | unknown hnone =>
    refine ⟨fun url topic => ?_, fun url topic => ?_, fun p => rfl, fun url => .nil (hheld url)⟩
    · rw [hrises, List.countP_nil]
    · rw [hfalls, List.countP_nil, if_neg]
      rintro ⟨⟨rfl, rfl⟩, hone⟩
      simp [count_eq_zero hnone] at hone
  | @counted l s hl hs hn =>
    refine ⟨fun url topic => ?_, fun url topic => ?_, fun p => ?_, fun url => .nil (hheld url)⟩
    · rw [hrises, List.countP_nil]
    · rw [hfalls, List.countP_nil, if_neg]
      rintro ⟨⟨rfl, rfl⟩, hone⟩
      simp [Ledger.count, hl, Link.count, hs] at hone
      omega
    · rw [held_modify fun _ => Link.session_decrement]
      rfl
  | faulted hl hs hn hreply => exact absurd hreply (hr _ _)
  | @unsubscribed l s _ hl hs hn hreply hsome =>
    have hf := concerns_eq (hg.link hl) (hone hl hs hn)
    refine ⟨fun url topic => ?_, fun url topic => ?_, fun p => ?_, fun url => ?_⟩
    · rw [hrises]
      rfl
    · rw [hfalls, List.countP_singleton]
      simp only [Exchange.unsubscribes, hf, decide_eq_true_eq]
    · rw [held_modify fun _ => Link.session_decrement]
      rfl
    · exact .other rfl rfl (.nil (hheld url))
  | @closed l s _ _ _ hl hs hn hreply hempty hclosing =>
    have hf := concerns_eq (hg.link hl) (hone hl hs hn)
    cases hclosing
    refine ⟨fun url topic => ?_, fun url topic => ?_, fun p => ?_, fun url => ?_⟩
    · rw [hrises]
      rfl
    · rw [hfalls, List.countP_cons, List.countP_singleton]
      simp only [Exchange.unsubscribes, hf, decide_eq_true_eq, Bool.false_eq_true, if_false,
        Nat.zero_add]
    · have hmod : (g.modify feed.url (·.decrement feed.topic)).Tidy :=
        hg.tidy.modify (fun _ => Link.url_decrement) fun _ => Link.tidy_decrement
      have hheld := held_erase (p := p) hmod (link?_modify_self (fun _ => Link.url_decrement) hl)
      rw [held_modify fun _ => Link.session_decrement, Link.session_decrement] at hheld
      simp only [Exchange.opens, Exchange.closes, List.countP_cons, List.countP_nil]
      simp
      omega
    · by_cases hu : feed.url = url
      · have hsome : g.held (urlOf · == url) = 1 := by simp [hg.held_url, ← hu, hl]
        have hp : (urlOf l.session == url) = true := by simp [hg.link hl, hu]
        rw [hsome]
        exact .other rfl rfl (.closes rfl hp (.nil (Nat.zero_le 1)))
      · have hp : (urlOf l.session == url) = false := by simp [hg.link hl, hu]
        exact .other rfl rfl (.other rfl hp (.nil (hheld url)))

theorem Balanced.append {c c' : (Ledger → Ledger → Bool) → Nat} {g₁ : Ledger}
    (h : Balanced urlOf c g t g₁) (h' : Balanced urlOf c' g₁ t' g') :
    Balanced urlOf (fun q => c q + c' q) g (t ++ t') g' where
  subscribed := fun url topic => by
    rw [List.countP_append, h.subscribed, h'.subscribed]
  unsubscribed := fun url topic => by
    rw [List.countP_append, h.unsubscribed, h'.unsubscribed]
  sessions := fun p => by
    have hfirst := h.sessions p
    have hsecond := h'.sessions p
    rw [List.countP_append, List.countP_append]
    omega
  alternating := fun url => (h.alternating url).append (h'.alternating url) (h.sessions _)

end Ledger

end SensorBridge
