import SensorBridge.Proofs.LedgerViews
import SensorBridge.Proofs.Runs

/-!
What registering and unregistering do to the ledger, and with which calls. Each relation lists all
that can happen; the properties of the ledger are read off these lists, not off the routines.
-/
namespace SensorBridge

open Routine

/-- The request neither makes a call nor changes the memory. -/
def Request.Idle (r : Request) : Prop :=
  ∀ (replies : Replies) (m : Memory) (t : List Exchange) (a : r.Answer) (m' : Memory),
    r.Served replies m t a m' → t = [] ∧ m' = m

namespace Request

theorem idle_acquire (l : Lock) : (acquire l).Idle := fun _ _ _ _ _ h => h
theorem idle_release (l : Lock) : (release l).Idle := fun _ _ _ _ _ h => h
theorem idle_spawn (job : Job) : (spawn job).Idle := fun _ _ _ _ _ h => h
theorem idle_abort (job : Job) : (abort job).Idle := fun _ _ _ _ _ h => h
theorem idle_join (job : Job) (limit : Option Nat) : (join job limit).Idle := fun _ _ _ _ _ h => h

end Request

/-- A run seen from the ledger. The rest of the memory may change at any time. -/
def Routine.LedgerRuns {α : Type} (replies : Replies) (p : Routine α) (g : Ledger)
    (t : List Exchange) (res : Except Fault α) (g' : Ledger) : Prop :=
  ∃ m m', m.ledger = g ∧ m'.ledger = g' ∧ Runs (.holding replies) p m t res m'

namespace Routine.LedgerRuns

variable {α β : Type} {replies : Replies} {g g' : Ledger} {t : List Exchange}

theorem pure_iff {x : α} {res : Except Fault α} :
    LedgerRuns replies (pure x) g t res g' ↔ t = [] ∧ res = .ok x ∧ g' = g := by
  constructor
  · rintro ⟨m, m', rfl, rfl, h⟩
    obtain ⟨rfl, rfl, rfl⟩ := runs_pure.mp h
    exact ⟨rfl, rfl, rfl⟩
  · rintro ⟨rfl, rfl, rfl⟩
    exact ⟨{ ledger := g', cache := default }, _, rfl, rfl, .done x _⟩

theorem fault_iff {f : Fault} {res : Except Fault α} :
    LedgerRuns replies (.fault f) g t res g' ↔ t = [] ∧ res = .error f ∧ g' = g := by
  constructor
  · rintro ⟨m, m', rfl, rfl, h⟩
    obtain ⟨rfl, rfl, rfl⟩ := runs_fault.mp h
    exact ⟨rfl, rfl, rfl⟩
  · rintro ⟨rfl, rfl, rfl⟩
    exact ⟨{ ledger := g', cache := default }, _, rfl, rfl, .fault f _⟩

theorem bind {p : Routine α} {f : α → Routine β} {res : Except Fault β}
    (h : LedgerRuns replies (p >>= f) g t res g') :
    (∃ x t₁ g₁ t₂, LedgerRuns replies p g t₁ (.ok x) g₁ ∧ LedgerRuns replies (f x) g₁ t₂ res g' ∧
      t = t₁ ++ t₂) ∨
    ∃ e, LedgerRuns replies p g t (.error e) g' ∧ res = .error e := by
  obtain ⟨m, m', hm, hm', h⟩ := h
  obtain ⟨x, t₁, m₁, t₂, hp, hf, ht⟩ | ⟨e, hp, hres⟩ := runs_bind.mp h
  · exact .inl ⟨x, t₁, m₁.ledger, t₂, ⟨m, m₁, hm, rfl, hp⟩, ⟨m₁, m', rfl, hm', hf⟩, ht⟩
  · exact .inr ⟨e, ⟨m, m', hm, hm', hp⟩, hres⟩

theorem attempt {p : Routine α} {res : Except Fault (Except Fault α)}
    (h : LedgerRuns replies p.attempt g t res g') :
    ∃ x, res = .ok x ∧ LedgerRuns replies p g t x g' := by
  obtain ⟨m, m', hm, hm', h⟩ := h
  obtain ⟨x, hres, hp⟩ := runs_attempt.mp h
  exact ⟨x, hres, m, m', hm, hm', hp⟩

/-- The first request of a routine. -/
theorem ask {r : Request} {k : r.Answer → Routine α} {res : Except Fault α}
    (h : LedgerRuns replies (.ask r k) g t res g') :
    ∃ m t₁ a m' t₂, m.ledger = g ∧ r.Served replies m t₁ a m' ∧
      LedgerRuns replies (k a) m'.ledger t₂ res g' ∧ t = t₁ ++ t₂ := by
  obtain ⟨m, m', hm, hm', h⟩ := h
  obtain ⟨m₁, t₁, a, m₂, t₂, hothers, hserved, hrest, ht⟩ := runs_ask.mp h
  exact ⟨m₁, t₁, a, m₂, t₂, hothers.trans hm, hserved, ⟨m₂, m', rfl, hm', hrest⟩, ht⟩

theorem call {c : Call} {res : Except Fault c.Reply} (h : LedgerRuns replies (call c) g t res g') :
    replies c res ∧ t = [⟨c, res⟩] ∧ g' = g := by
  obtain ⟨m, m', rfl, rfl, hrun⟩ := h
  obtain ⟨hothers, hreply, rfl⟩ := runs_call.mp hrun
  exact ⟨hreply, rfl, hothers⟩

theorem update_bind {f : Memory → Memory} {k : Memory → Routine α} {res : Except Fault α}
    (h : LedgerRuns replies (update f >>= k) g t res g') :
    ∃ m, m.ledger = g ∧ LedgerRuns replies (k m) (f m).ledger t res g' := by
  obtain ⟨m, t₁, a, m', t₂, rfl, ⟨rfl, rfl, rfl⟩, hk, rfl⟩ := ask h
  exact ⟨a, rfl, hk⟩

theorem ledger_bind {k : Ledger → Routine α} {res : Except Fault α}
    (h : LedgerRuns replies (ledger >>= k) g t res g') : LedgerRuns replies (k g) g t res g' := by
  obtain ⟨m, rfl, hk⟩ := update_bind (k := fun m => k m.ledger) h
  exact hk

theorem modifyLedger_bind {f : Ledger → Ledger} {k : Unit → Routine α} {res : Except Fault α}
    (h : LedgerRuns replies (modifyLedger f >>= k) g t res g') :
    LedgerRuns replies (k ()) (f g) t res g' := by
  obtain ⟨m, rfl, hk⟩ := update_bind (k := fun _ => k ()) h
  exact hk

theorem idle_bind {r : Request} (hr : r.Idle) {k : r.Answer → Routine α} {res : Except Fault α}
    (h : LedgerRuns replies (request r >>= k) g t res g') :
    ∃ a, LedgerRuns replies (k a) g t res g' := by
  obtain ⟨m, t₁, a, m', t₂, rfl, hserved, hk, rfl⟩ := ask h
  obtain ⟨rfl, rfl⟩ := hr replies m t₁ a m' hserved
  exact ⟨a, hk⟩

theorem holding {l : Lock} {p : Routine α} {res : Except Fault α}
    (h : LedgerRuns replies (holding l p) g t res g') : LedgerRuns replies p g t res g' := by
  obtain ⟨_, h⟩ := idle_bind (Request.idle_acquire l) h
  obtain ⟨x, t₁, g₁, t₂, hp, hk, rfl⟩ | ⟨e, hp, rfl⟩ := bind h
  · obtain ⟨y, hy, hp⟩ := attempt hp
    obtain rfl : x = y := Except.ok.inj hy
    cases x with
    | ok x =>
      obtain ⟨_, hk⟩ := idle_bind (Request.idle_release l) hk
      obtain ⟨rfl, rfl, rfl⟩ := pure_iff.mp hk
      simpa using hp
    | error f =>
      obtain ⟨_, hk⟩ := idle_bind (Request.idle_release l) hk
      obtain ⟨rfl, rfl, rfl⟩ := fault_iff.mp hk
      simpa using hp
  · obtain ⟨y, hy, -⟩ := attempt hp
    cases hy

theorem onFault {p : Routine α} {job : Job} {res : Except Fault α}
    (h : LedgerRuns replies (onFault p (request (.abort job))) g t res g') :
    LedgerRuns replies p g t res g' := by
  obtain ⟨x, t₁, g₁, t₂, hp, hk, rfl⟩ | ⟨e, hp, rfl⟩ := bind h
  · obtain ⟨y, hy, hp⟩ := attempt hp
    obtain rfl : x = y := Except.ok.inj hy
    cases x with
    | ok x =>
      obtain ⟨rfl, rfl, rfl⟩ := pure_iff.mp hk
      simpa using hp
    | error f =>
      obtain ⟨_, hk⟩ := idle_bind (Request.idle_abort job) hk
      obtain ⟨rfl, rfl, rfl⟩ := fault_iff.mp hk
      simpa using hp
  · obtain ⟨y, hy, -⟩ := attempt hp
    cases hy

theorem exists_run (hreplies : ∀ c, ∃ x, replies c x) (p : Routine α) (g : Ledger) :
    ∃ t res g', LedgerRuns replies p g t res g' := by
  obtain ⟨t, res, m', h⟩ := @exists_runs α (.holding replies) (fun _ => rfl) hreplies p
    { ledger := g, cache := default }
  exact ⟨t, res, m'.ledger, _, m', rfl, rfl, h⟩

theorem of_play {reply : (c : Call) → Except Fault c.Reply} {p : Routine α} {m : Memory}
    {res : Except Fault α} (hres : (play reply p m).1 = res) (hg : (play reply p m).2.ledger = g') :
    ∃ t, LedgerRuns (.only reply) p m.ledger t res g' := by
  obtain ⟨t, h⟩ := @runs_play α (.holding (.only reply)) reply (fun _ => rfl) (fun _ => rfl) p m
  exact ⟨t, m, _, rfl, hg, hres ▸ h⟩

end Routine.LedgerRuns

namespace Ledger

variable {replies : Replies} {grace : Nat} {feed : Feed} {session : SessionId} {topic : String}
  {qos : Qos} {g g' : Ledger} {t t' : List Exchange}

/-- How subscribing a topic on a session ends. -/
inductive Subscribing (replies : Replies) (session : SessionId) (topic : String) (qos : Qos) :
    List Exchange → Except Fault (Except ConnectorError Unit) → Prop where
  | acknowledged : replies (.subscribe session topic qos) (.ok (.ok ())) →
      Subscribing replies session topic qos [⟨.subscribe session topic qos, .ok (.ok ())⟩] (.ok (.ok ()))
  | failed {e : BrokerError} : replies (.subscribe session topic qos) (.ok (.error e)) →
      Subscribing replies session topic qos [⟨.subscribe session topic qos, .ok (.error e)⟩]
        (.ok (.error (.broker e)))
  | faulted {f : Fault} : replies (.subscribe session topic qos) (.error f) →
      Subscribing replies session topic qos [⟨.subscribe session topic qos, .error f⟩] (.error f)

/-- How a link is closed: always by one call. -/
inductive Closing (replies : Replies) (session : SessionId) (grace : Nat) :
    List Exchange → Except Fault (Except BrokerError Unit) → Prop where
  | intro {reply : Except Fault (Except BrokerError Unit)} :
      replies (.disconnect session grace) reply →
      Closing replies session grace [⟨.disconnect session grace, reply⟩] reply

/-- What comes of registering a feed. -/
inductive Registering (replies : Replies) (grace : Nat) (feed : Feed) (g : Ledger) :
    List Exchange → Except Fault (Except ConnectorError Unit) → Ledger → Prop where
  | refused {e : ConnectorError} : checkFeed feed = .error e →
      Registering replies grace feed g [] (.ok (.error e)) g
  | counted {qos : Qos} {l : Link} {s : Subscription} : checkFeed feed = .ok qos →
      g.link? feed.url = some l → l.find? feed.topic = some s →
      Registering replies grace feed g [] (.ok (.ok ())) (g.modify feed.url (·.increment feed.topic))
  | subscribed {qos : Qos} {l : Link} {t : List Exchange} : checkFeed feed = .ok qos →
      g.link? feed.url = some l → l.find? feed.topic = none →
      Subscribing replies l.session feed.topic qos t (.ok (.ok ())) →
      Registering replies grace feed g t (.ok (.ok ())) (g.modify feed.url (·.track feed.topic qos))
  | unsubscribed {qos : Qos} {l : Link} {t : List Exchange}
      {res : Except Fault (Except ConnectorError Unit)} : checkFeed feed = .ok qos →
      g.link? feed.url = some l → l.find? feed.topic = none →
      Subscribing replies l.session feed.topic qos t res → res ≠ .ok (.ok ()) →
      Registering replies grace feed g t res g
  | unconnected {qos : Qos} {e : BrokerError} : checkFeed feed = .ok qos →
      g.link? feed.url = none → replies (.connect feed) (.ok (.error e)) →
      Registering replies grace feed g [⟨.connect feed, .ok (.error e)⟩] (.ok (.error (.broker e))) g
  | faulted {qos : Qos} {f : Fault} : checkFeed feed = .ok qos →
      g.link? feed.url = none → replies (.connect feed) (.error f) →
      Registering replies grace feed g [⟨.connect feed, .error f⟩] (.error f) g
  | opened {qos : Qos} {session : SessionId} {t : List Exchange} : checkFeed feed = .ok qos →
      g.link? feed.url = none → replies (.connect feed) (.ok (.ok session)) →
      Subscribing replies session feed.topic qos t (.ok (.ok ())) →
      Registering replies grace feed g (⟨.connect feed, .ok (.ok session)⟩ :: t) (.ok (.ok ()))
        (g.insert (Link.track { url := feed.url, session } feed.topic qos))
  | dropped {qos : Qos} {session : SessionId} {t : List Exchange} {f : Fault} :
      checkFeed feed = .ok qos →
      g.link? feed.url = none → replies (.connect feed) (.ok (.ok session)) →
      Subscribing replies session feed.topic qos t (.error f) →
      Registering replies grace feed g (⟨.connect feed, .ok (.ok session)⟩ :: t) (.error f) g
  | closed {qos : Qos} {session : SessionId} {t t' : List Exchange} {e : ConnectorError}
      {reply : Except Fault (Except BrokerError Unit)} : checkFeed feed = .ok qos →
      g.link? feed.url = none → replies (.connect feed) (.ok (.ok session)) →
      Subscribing replies session feed.topic qos t (.ok (.error e)) →
      Closing replies session grace t' reply →
      Registering replies grace feed g (⟨.connect feed, .ok (.ok session)⟩ :: (t ++ t'))
        (reply.map fun _ => .error e) g

/-- What comes of unregistering a feed. -/
inductive Unregistering (replies : Replies) (grace : Nat) (feed : Feed) (g : Ledger) :
    List Exchange → Except Fault (Except ConnectorError Unit) → Ledger → Prop where
  | unknown : (g.link? feed.url).bind (·.find? feed.topic) = none →
      Unregistering replies grace feed g [] (.ok (.ok ())) g
  | counted {l : Link} {s : Subscription} :
      g.link? feed.url = some l → l.find? feed.topic = some s → 1 < s.receivers →
      Unregistering replies grace feed g [] (.ok (.ok ()))
        (g.modify feed.url (·.decrement feed.topic))
  | faulted {l : Link} {s : Subscription} {f : Fault} :
      g.link? feed.url = some l → l.find? feed.topic = some s → s.receivers ≤ 1 →
      replies (.unsubscribe l.session feed.topic) (.error f) →
      Unregistering replies grace feed g [⟨.unsubscribe l.session feed.topic, .error f⟩] (.error f)
        (g.modify feed.url (·.decrement feed.topic))
  | unsubscribed {l : Link} {s : Subscription} {reply : Except BrokerError Unit} :
      g.link? feed.url = some l → l.find? feed.topic = some s → s.receivers ≤ 1 →
      replies (.unsubscribe l.session feed.topic) (.ok reply) →
      (l.decrement feed.topic).table ≠ [] →
      Unregistering replies grace feed g [⟨.unsubscribe l.session feed.topic, .ok reply⟩]
        (.ok (reply.mapError .broker)) (g.modify feed.url (·.decrement feed.topic))
  | closed {l : Link} {s : Subscription} {reply : Except BrokerError Unit} {t : List Exchange}
      {closing : Except Fault (Except BrokerError Unit)} :
      g.link? feed.url = some l → l.find? feed.topic = some s → s.receivers ≤ 1 →
      replies (.unsubscribe l.session feed.topic) (.ok reply) →
      (l.decrement feed.topic).table = [] →
      Closing replies l.session grace t closing →
      Unregistering replies grace feed g (⟨.unsubscribe l.session feed.topic, .ok reply⟩ :: t)
        (closing.map fun _ => reply.mapError .broker)
        ((g.modify feed.url (·.decrement feed.topic)).erase feed.url)

open LedgerRuns

theorem closing_of_run {l : Link} {res : Except Fault (Except BrokerError Unit)}
    (h : LedgerRuns replies (closeLink grace l) g t res g') :
    Closing replies l.session grace t res ∧ g' = g := by
  obtain ⟨x, t₁, g₁, t₂, hp, hk, rfl⟩ | ⟨e, hp, rfl⟩ := bind h
  · obtain ⟨hreply, rfl, rfl⟩ := call (onFault hp)
    obtain ⟨a, hk⟩ := idle_bind (Request.idle_join _ _) hk
    have hrest : t₂ = [] ∧ res = .ok x ∧ g' = g₁ := by
      cases a with
      | late =>
        obtain ⟨_, hk⟩ := idle_bind (Request.idle_abort _) hk
        exact pure_iff.mp hk
      | done | faulted f => exact pure_iff.mp hk
    obtain ⟨rfl, rfl, rfl⟩ := hrest
    exact ⟨by simpa using Closing.intro hreply, rfl⟩
  · obtain ⟨hreply, rfl, rfl⟩ := call (onFault hp)
    exact ⟨.intro hreply, rfl⟩

theorem subscribing_of_run {track : Ledger → Ledger} {res : Except Fault (Except ConnectorError Unit)}
    (h : LedgerRuns replies (subscribe session topic qos track) g t res g') :
    Subscribing replies session topic qos t res ∧
      (res = .ok (.ok ()) ∧ g' = track g ∨ res ≠ .ok (.ok ()) ∧ g' = g) := by
  obtain ⟨x, t₁, g₁, t₂, hp, hk, rfl⟩ | ⟨e, hp, rfl⟩ := bind (holding h)
  · obtain ⟨hreply, rfl, rfl⟩ := call hp
    cases x with
    | ok u =>
      cases u
      have hk := modifyLedger_bind hk
      obtain ⟨rfl, rfl, rfl⟩ := pure_iff.mp hk
      exact ⟨.acknowledged hreply, .inl ⟨rfl, rfl⟩⟩
    | error e =>
      obtain ⟨rfl, rfl, rfl⟩ := pure_iff.mp hk
      exact ⟨.failed hreply, .inr ⟨by simp, rfl⟩⟩
  · obtain ⟨hreply, rfl, rfl⟩ := call hp
    exact ⟨.faulted hreply, .inr ⟨by simp, rfl⟩⟩

theorem registering_of_open {res : Except Fault (Except ConnectorError Unit)}
    (hq : checkFeed feed = .ok qos) (hl : g.link? feed.url = none)
    (h : LedgerRuns replies (openLink grace feed qos) g t res g') :
    Registering replies grace feed g t res g' := by
  obtain ⟨x, t₁, g₁, t₂, hp, hk, rfl⟩ | ⟨e, hp, rfl⟩ := bind h
  · obtain ⟨hreply, rfl, rfl⟩ := call hp
    cases x with
    | error e =>
      obtain ⟨rfl, rfl, rfl⟩ := pure_iff.mp hk
      exact .unconnected hq hl hreply
    | ok session =>
      obtain ⟨_, hk⟩ := idle_bind (Request.idle_spawn _) hk
      obtain ⟨y, t₃, g₂, t₄, hs, hk, rfl⟩ | ⟨e, hs, rfl⟩ := bind hk
      · obtain ⟨hsub, ⟨hy, rfl⟩ | ⟨hy, rfl⟩⟩ := subscribing_of_run (onFault hs)
        · obtain rfl := Except.ok.inj hy
          obtain ⟨rfl, rfl, rfl⟩ := pure_iff.mp hk
          simpa using Registering.opened hq hl hreply hsub
        cases y with
        | ok u => exact absurd rfl hy
        | error e =>
          dsimp only at hk
          obtain ⟨z, t₅, g₃, t₆, hc, hret, rfl⟩ | ⟨f, hc, rfl⟩ := bind hk
          · obtain ⟨hclosing, rfl⟩ := closing_of_run hc
            obtain ⟨rfl, rfl, rfl⟩ := pure_iff.mp hret
            simpa [Except.map] using Registering.closed hq hl hreply hsub hclosing
          · obtain ⟨hclosing, rfl⟩ := closing_of_run hc
            simpa [Except.map] using Registering.closed hq hl hreply hsub hclosing
      · obtain ⟨hsub, ⟨hy, -⟩ | ⟨-, rfl⟩⟩ := subscribing_of_run (onFault hs)
        · cases hy
        · simpa using Registering.dropped hq hl hreply hsub
  · obtain ⟨hreply, rfl, rfl⟩ := call hp
    exact .faulted hq hl hreply

theorem registering_of_run {res : Except Fault (Except ConnectorError Unit)}
    (h : LedgerRuns replies (register grace feed) g t res g') :
    Registering replies grace feed g t res g' := by
  unfold register at h
  cases hq : checkFeed feed with
  | error e =>
    rw [hq] at h
    obtain ⟨rfl, rfl, rfl⟩ := pure_iff.mp h
    exact .refused hq
  | ok qos =>
    rw [hq] at h
    have h := ledger_bind h
    cases hl : g.link? feed.url with
    | none =>
      rw [hl] at h
      exact registering_of_open hq hl h
    | some l =>
      simp only [hl] at h
      cases hs : l.find? feed.topic with
      | some s =>
        simp only [hs] at h
        have h := modifyLedger_bind h
        obtain ⟨rfl, rfl, rfl⟩ := pure_iff.mp h
        exact .counted hq hl hs
      | none =>
        simp only [hs] at h
        obtain ⟨hsub, ⟨rfl, rfl⟩ | ⟨hres, rfl⟩⟩ := subscribing_of_run h
        · exact .subscribed hq hl hs hsub
        · exact .unsubscribed hq hl hs hsub hres

theorem unregistering_of_last {l : Link} {s : Subscription} {res : Except Fault (Except ConnectorError Unit)}
    (hl : g.link? feed.url = some l) (hs : l.find? feed.topic = some s) (hn : s.receivers ≤ 1)
    (h : LedgerRuns replies (unsubscribeLast grace l feed.topic)
      (g.modify feed.url (·.decrement feed.topic)) t res g') :
    Unregistering replies grace feed g t res g' := by
  have hl' : (g.modify feed.url (·.decrement feed.topic)).link? l.url =
      some (l.decrement feed.topic) := by
    rw [(mem_of_link? hl).2]
    exact link?_modify_self (fun _ => rfl) hl
  obtain ⟨x, t₁, g₁, t₂, hp, hk, rfl⟩ | ⟨e, hp, rfl⟩ := bind h
  · obtain ⟨hreply, rfl, rfl⟩ := call (holding hp)
    -- the ledger is read again after the call, but nobody else has changed it
    have hk := ledger_bind hk
    simp only [hl'] at hk
    by_cases hempty : (l.decrement feed.topic).table = []
    · simp only [hempty, List.isEmpty_nil, if_true] at hk
      have hk := modifyLedger_bind hk
      rw [show (l.decrement feed.topic).url = feed.url from (mem_of_link? hl).2] at hk
      obtain ⟨z, t₃, g₂, t₄, hc, hret, rfl⟩ | ⟨f, hc, rfl⟩ := bind hk
      · obtain ⟨hclosing, hg⟩ := closing_of_run hc
        have hend : t₄ = [] ∧ res = .ok (x.mapError .broker) ∧ g' = g₂ := by
          cases x with
          | ok u => exact pure_iff.mp hret
          | error e => exact pure_iff.mp hret
        obtain ⟨rfl, rfl, rfl⟩ := hend
        subst hg
        simpa [Except.map] using Unregistering.closed hl hs hn hreply hempty hclosing
      · obtain ⟨hclosing, rfl⟩ := closing_of_run hc
        simpa [Except.map] using Unregistering.closed hl hs hn hreply hempty hclosing
    · have hempty' : (l.decrement feed.topic).table.isEmpty = false := by simpa using hempty
      simp only [hempty', Bool.false_eq_true, if_false] at hk
      have hend : t₂ = [] ∧ res = .ok (x.mapError .broker) ∧
          g' = g.modify feed.url (·.decrement feed.topic) := by
        cases x with
        | ok u => exact pure_iff.mp hk
        | error e => exact pure_iff.mp hk
      obtain ⟨rfl, rfl, rfl⟩ := hend
      simpa using Unregistering.unsubscribed hl hs hn hreply hempty
  · obtain ⟨hreply, rfl, rfl⟩ := call (holding hp)
    exact .faulted hl hs hn hreply

theorem unregistering_of_run {res : Except Fault (Except ConnectorError Unit)}
    (h : LedgerRuns replies (unregister grace feed) g t res g') :
    Unregistering replies grace feed g t res g' := by
  have h := ledger_bind h
  cases hl : g.link? feed.url with
  | none =>
    simp only [hl] at h
    obtain ⟨rfl, rfl, rfl⟩ := pure_iff.mp h
    exact .unknown (by simp [hl])
  | some l =>
    simp only [hl] at h
    cases hs : l.find? feed.topic with
    | none =>
      simp only [hs] at h
      obtain ⟨rfl, rfl, rfl⟩ := pure_iff.mp h
      exact .unknown (by simp [hl, hs])
    | some s =>
      simp only [hs] at h
      have h := modifyLedger_bind h
      by_cases hn : 1 < s.receivers
      · rw [if_pos hn] at h
        obtain ⟨rfl, rfl, rfl⟩ := pure_iff.mp h
        exact .counted hl hs hn
      · rw [if_neg hn] at h
        exact unregistering_of_last hl hs (not_lt.mp hn) h

end Ledger

end SensorBridge
