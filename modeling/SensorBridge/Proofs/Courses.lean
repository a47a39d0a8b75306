import SensorBridge.Connector.Tasks
import SensorBridge.Proofs.Balance
import SensorBridge.Proofs.Invalidation
import SensorBridge.Proofs.Replay

/-!
The course of a connector: operations one after the other, each with a record of all that happens in
it, and the shutdown in the end. The calls to brokers are in balance with the ledger all along.
-/
namespace SensorBridge

/-- What is done on the ledger: by the one who owns the connector, by the listener, from time to time
and at the start. -/
inductive Operation where
  | register (feed : Feed)
  | unregister (feed : Feed)
  | apply (change : Change)
  | sweep
  | replay
  deriving DecidableEq, Repr

/-- The job that was set to work, if it was a spawn. -/
def Moment.spawned? (x : Moment) : Option Job :=
  match x with
  | ⟨.spawn job, _, _, _⟩ => some job
  | _ => none

section Course

open Routine

variable {settings : ConnectorSettings} {urlOf : SessionId → String} {read : PayloadReaders}
  {replies : Replies} {es es' : List Moment} {g : Ledger}

def Operation.routine (settings : ConnectorSettings) : Operation → Routine Unit
  | .register feed => do let _ ← holding .ledger (Routine.register settings.grace feed)
  | .unregister feed => do let _ ← holding .ledger (Routine.unregister settings.grace feed)
  | .apply change => do let _ ← applyAndReport settings.grace change
  | .sweep => do let _ ← holding .ledger (Routine.sweep settings.grace)
  | .replay => do let _ ← Routine.replay settings

/-- What has happened since a connector was made, and the ledger it has come to. The brokers may
answer each operation in another way. -/
inductive Course (settings : ConnectorSettings) (urlOf : SessionId → String) :
    List Moment → Ledger → Prop where
  | start : Course settings urlOf [] {}
  | next {op : Operation} {replies : Replies} {m m' : Memory} {es es' : List Moment}
      {res : Except Fault Unit} : Course settings urlOf es m.ledger → replies.Faultless →
      replies.Addresses urlOf → Records (.holding replies) (op.routine settings) m es' res m' →
      Course settings urlOf (es ++ es') m'.ledger

/-- What happens when a connector is shut down: its own requests and those of the tasks it sets to
work, in some order. -/
inductive Ending (settings : ConnectorSettings) (read : PayloadReaders) (g : Ledger)
    (es : List Moment) : Prop where
  | intro {replies : Replies} {m m' : Memory} {own : List Moment} {others : List (List Moment)} :
      m.ledger = g → replies.Faultless → Records (.holding replies) shutdown m own (.ok ()) m' →
      List.Forall₂ (fun job es => ∃ m res m',
        Records (.holding replies) (ofJob settings read job) m es res m')
        (own.filterMap Moment.spawned?) others →
      es.Perm (own ++ others.flatten) → Ending settings read g es

theorem upholds_routine (hr : replies.Faultless) (ha : replies.Addresses urlOf) (op : Operation) :
    Upholds replies urlOf (op.routine settings) := by
  cases op with
  | register feed =>
    exact upholds_bind (upholds_holding (upholds_register hr ha)) fun _ => upholds_done
  | unregister feed =>
    exact upholds_bind (upholds_holding (upholds_unregister hr)) fun _ => upholds_done
  | apply change => exact upholds_bind (upholds_applyAndReport hr ha) fun _ => upholds_done
  | sweep => exact upholds_bind (upholds_holding (upholds_sweep hr ha)) fun _ => upholds_done
  | replay => exact upholds_bind (upholds_holding (upholds_replayFrom hr ha)) fun _ => upholds_done

theorem Course.balanced (h : Course settings urlOf es g) :
    g.Rooted urlOf ∧
      Ledger.Balanced urlOf (fun q => es.countP (·.crosses q)) {} (exchanges es) g := by
  induction h with
  | start => exact ⟨Ledger.rooted_empty, balanced_nil Ledger.rooted_empty⟩
  | next _ hr ha hrun ih =>
    obtain ⟨hg, hb⟩ := upholds_routine hr ha _ _ _ _ _ hrun ih.1
    simp only [List.countP_append, exchanges_append]
    exact ⟨hg, ih.2.append hb⟩

/-! ### Shutting down -/

/-- Neither a call nor the beginning of a task. -/
def Request.Quiet (r : Request) : Prop :=
  (∀ c, r ≠ .call c) ∧ ∀ job, r ≠ .spawn job

variable {m m' : Memory} {links : List Link} {res : Except Fault Unit}

theorem quiet_moment {r : Request} (hr : r.Quiet) (a : r.Answer) (m m' : Memory) :
    Moment.exchange? ⟨r, a, m, m'⟩ = none ∧ Moment.spawned? ⟨r, a, m, m'⟩ = none := by
  cases r with
  | call c => exact absurd rfl (hr.1 c)
  | spawn job => exact absurd rfl (hr.2 job)
  | _ => exact ⟨rfl, rfl⟩

theorem Routine.Records.quiet_of_every {p : Routine Unit} (h : Records (.holding replies) p m es res m')
    (hp : p.Every Request.Quiet) : exchanges es = [] ∧ es.filterMap Moment.spawned? = [] := by
  induction h with
  | done | fault => exact ⟨rfl, rfl⟩
  | ask _ _ _ ih =>
    obtain ⟨hr, hk⟩ := hp
    obtain ⟨hcall, hspawn⟩ := quiet_moment hr _ _ _
    rw [exchanges, List.filterMap_cons_none hcall, List.filterMap_cons_none hspawn]
    exact ih (hk _)

theorem quiet_joinAll : (disconnectAll.joinAll links).Every Request.Quiet := by
  induction links with
  | nil => trivial
  | cons l links ih =>
    refine every_bind (every_request ⟨fun _ => nofun, fun _ => nofun⟩) fun a => ?_
    cases a with
    | done | late => exact ih
    | faulted f => trivial

theorem spawned_of_spawnAll (h : Records (.holding replies) (disconnectAll.spawnAll links) m es res m') :
    exchanges es = [] ∧ es.filterMap Moment.spawned? = links.map .closing := by
  induction links generalizing m es with
  | nil =>
    obtain ⟨rfl, -, rfl⟩ := records_done h
    exact ⟨rfl, rfl⟩
  | cons l links ih =>
    obtain ⟨m₁, t, a, m₂, es, hothers, hserved, hrest, rfl⟩ := records_ask h
    obtain ⟨hcalls, hspawned⟩ := ih hrest
    exact ⟨hcalls, congrArg (Job.closing l :: ·) hspawned⟩

theorem spawned_of_all (h : Records (.holding replies)
      (disconnectAll.spawnAll links >>= fun _ => disconnectAll.joinAll links) m es (.ok ()) m') :
    exchanges es = [] ∧ es.filterMap Moment.spawned? = links.map .closing := by
  obtain ⟨_, es₁, m₁, es₂, hspawn, hjoin, rfl⟩ | ⟨e, -, hres⟩ := records_bind h
  · obtain ⟨hcalls₁, hspawned₁⟩ := spawned_of_spawnAll hspawn
    obtain ⟨hcalls₂, hspawned₂⟩ := hjoin.quiet_of_every quiet_joinAll
    rw [exchanges_append, List.filterMap_append, hcalls₁, hcalls₂, hspawned₁, hspawned₂]
    exact ⟨rfl, List.append_nil _⟩
  · cases hres

theorem Routine.Records.idle_bind {r : Request} {k : r.Answer → Routine Unit} (hr : r.Idle)
    (hq : r.Quiet) (h : Records (.holding replies) (request r >>= k) m es res m') :
    ∃ a m₁ es₁, m₁.ledger = m.ledger ∧ Records (.holding replies) (k a) m₁ es₁ res m' ∧
      exchanges es = exchanges es₁ ∧
      es.filterMap Moment.spawned? = es₁.filterMap Moment.spawned? := by
  obtain ⟨m₁, t, a, m₂, es, hothers, hserved, hrest, rfl⟩ := records_ask h
  obtain ⟨-, rfl⟩ := hr _ _ _ _ _ hserved
  obtain ⟨hcall, hspawn⟩ := quiet_moment hq a m₂ m₂
  exact ⟨a, m₂, es, hothers, hrest, List.filterMap_cons_none hcall, List.filterMap_cons_none hspawn⟩

theorem spawned_of_disconnectAll (h : Records (.holding replies) disconnectAll m es (.ok ()) m') :
    exchanges es = [] ∧ es.filterMap Moment.spawned? = m.ledger.links.map .closing := by
  have hacquire : (Request.acquire .ledger).Quiet := ⟨fun _ => nofun, fun _ => nofun⟩
  have hrelease : (Request.release .ledger).Quiet := ⟨fun _ => nofun, fun _ => nofun⟩
  obtain ⟨_, m₁, es, hm₁, h, hcalls, hspawned⟩ := h.idle_bind (Request.idle_acquire _) hacquire
  rw [hcalls, hspawned, ← hm₁]
  clear hcalls hspawned hm₁
  obtain ⟨x, es₁, m₂, es₂, hp, hk, rfl⟩ | ⟨e, -, hres⟩ := records_bind h
  · obtain ⟨y, hy, hp⟩ := records_attempt hp
    obtain rfl := Except.ok.inj hy
    cases x with
    | error f =>
      obtain ⟨_, _, _, -, hk, -, -⟩ := hk.idle_bind (Request.idle_release _) hrelease
      obtain ⟨-, hres, -⟩ := records_fault hk
      cases hres
    | ok u =>
      obtain ⟨_, _, _, -, hk, hcalls, hspawned⟩ := hk.idle_bind (Request.idle_release _) hrelease
      obtain ⟨rfl, -, -⟩ := records_done hk
      obtain ⟨m₃, _, a, m₄, es₃, hothers, ⟨-, ha, -⟩, hbody, rfl⟩ := records_ask hp
      have ha : a.ledger = m₁.ledger := ha ▸ hothers
      obtain ⟨hcalls', hspawned'⟩ := spawned_of_all hbody
      rw [exchanges_append, List.filterMap_append, hcalls, hspawned, ← ha, ← hspawned']
      exact ⟨(List.append_nil _).trans hcalls', List.append_nil _⟩
  · cases hres

/-- Shutting down makes no call itself and sets the closing of each link to work. -/
theorem spawned_of_shutdown (h : Records (.holding replies) shutdown m es (.ok ()) m') :
    exchanges es = [] ∧ es.filterMap Moment.spawned? = m.ledger.links.map .closing := by
  have hidle : Request.stop.Idle := fun _ _ _ _ _ h => h
  have hstop : Request.stop.Quiet := ⟨fun _ => nofun, fun _ => nofun⟩
  have hjoin (job : Job) : (Request.join job none).Quiet := ⟨fun _ => nofun, fun _ => nofun⟩
  obtain ⟨_, m₁, es₁, hm₁, h, hcalls₁, hspawned₁⟩ := h.idle_bind hidle hstop
  obtain ⟨_, m₂, es₂, hm₂, h, hcalls₂, hspawned₂⟩ := h.idle_bind (Request.idle_join _ _) (hjoin _)
  obtain ⟨_, m₃, es₃, hm₃, h, hcalls₃, hspawned₃⟩ := h.idle_bind (Request.idle_join _ _) (hjoin _)
  obtain ⟨hcalls, hspawned⟩ := spawned_of_disconnectAll h
  rw [hcalls₁, hcalls₂, hcalls₃, hspawned₁, hspawned₂, hspawned₃, ← hm₁, ← hm₂, ← hm₃]
  exact ⟨hcalls, hspawned⟩

/-- The closing of a link is one call. -/
theorem call_of_closing {l : Link} {res : Except Fault Bool}
    (h : Records (.holding replies) (ofJob settings read (.closing l)) m es res m') :
    ∃ reply, exchanges es = [⟨.disconnect l.session settings.grace, reply⟩] := by
  have hcall {t : List Exchange} {x : Except Fault (Except BrokerError Unit)}
      (hc : Ledger.Closing replies l.session settings.grace t x) :
      ∃ reply, t = [⟨.disconnect l.session settings.grace, reply⟩] := by
    cases hc
    exact ⟨_, rfl⟩
  obtain ⟨x, t₁, g₁, t₂, hclose, hrest, ht⟩ | ⟨e, hclose, -⟩ := LedgerRuns.bind h.ledgerRuns
  · obtain ⟨rfl, -, -⟩ := LedgerRuns.pure_iff.mp hrest
    rw [ht, List.append_nil]
    exact hcall (Ledger.closing_of_run hclose).1
  · exact hcall (Ledger.closing_of_run hclose).1

/-- The links of a connector that is shut down are closed once each, and nothing else is called. -/
structure Closes (links : List Link) (t : List Exchange) : Prop where
  closed : ∀ p, t.countP (·.closes p) = links.countP (p ·.session)
  only : ∀ x ∈ t, ∀ p topic, x.opens p = false ∧ x.subscribes p topic = false ∧
    x.unsubscribes p topic = false

theorem closes_of_closings {others : List (List Moment)}
    (h : List.Forall₂ (fun job es => ∃ m res m',
      Records (.holding replies) (ofJob settings read job) m es res m') (links.map .closing) others) :
    Closes links (exchanges others.flatten) := by
  induction links generalizing others with
  | nil =>
    cases h
    exact ⟨fun _ => rfl, by simp [exchanges]⟩
  | cons l links ih =>
    cases h with
    | cons hfirst hrest =>
      obtain ⟨m, res, m', hfirst⟩ := hfirst
      obtain ⟨reply, hcall⟩ := call_of_closing hfirst
      obtain ⟨hclosed, honly⟩ := ih hrest
      rw [List.flatten_cons, exchanges_append, hcall, List.singleton_append]
      constructor
      · intro p
        rw [List.countP_cons, hclosed, List.countP_cons]
        rfl
      · rintro x (_ | ⟨_, hx⟩)
        · exact fun p topic => ⟨rfl, rfl, rfl⟩
        · exact honly x hx

theorem Ending.closes (h : Ending settings read g es) : Closes g.links (exchanges es) := by
  obtain @⟨replies, m, m', own, others, rfl, -, hown, hothers, hperm⟩ := h
  obtain ⟨hcalls, hspawned⟩ := spawned_of_shutdown hown
  rw [hspawned] at hothers
  obtain ⟨hclosed, honly⟩ := closes_of_closings hothers
  have hperm : (exchanges es).Perm (exchanges others.flatten) := by
    have hsame : exchanges (own ++ others.flatten) = exchanges others.flatten := by
      rw [exchanges_append, hcalls, List.nil_append]
    exact hsame ▸ hperm.filterMap Moment.exchange?
  exact ⟨fun p => by rw [hperm.countP_eq, hclosed], fun x hx => honly x (hperm.mem_iff.mp hx)⟩

theorem Closes.alternates {links : List Link} {t : List Exchange} {p : SessionId → Bool} {n : Nat}
    (h : Closes links t) (hn : links.countP (p ·.session) = n) (hle : n ≤ 1) : Alternates p n t := by
  have hclosed := h.closed p
  have honly := h.only
  rw [hn] at hclosed
  clear h hn
  induction t generalizing n with
  | nil => exact .nil hle
  | cons x t ih =>
    obtain ⟨hx, ht⟩ := List.forall_mem_cons.mp honly
    rw [List.countP_cons] at hclosed
    cases hc : x.closes p with
    | false =>
      simp only [hc, Bool.false_eq_true, if_false, Nat.add_zero] at hclosed
      exact .other (hx p "").1 hc (ih hle hclosed ht)
    | true =>
      simp only [hc, if_true] at hclosed
      obtain rfl : n = 1 := by omega
      exact .closes (hx p "").1 hc (ih (Nat.zero_le 1) (by omega) ht)

/-! ### The accounts -/

variable {feed : Feed} {res : Except Fault (Except ConnectorError Unit)}

theorem no_call_of_register (hg : m.ledger.receivers? feed.url feed.topic ≠ none)
    (h : Records (.holding replies) (register settings.grace feed) m es res m') :
    exchanges es = [] := by
  have hreg := Ledger.registering_of_run h.ledgerRuns
  generalize m.ledger = g at *
  generalize m'.ledger = g' at *
  generalize exchanges es = t at *
  cases hreg with
  | refused | counted => rfl
  | subscribed hq hl hs | unsubscribed hq hl hs =>
    simp [Ledger.receivers?, hl, hs] at hg
  | unconnected hq hl | faulted hq hl | opened hq hl | dropped hq hl | closed hq hl =>
    simp [Ledger.receivers?, hl] at hg

theorem no_call_of_unregister (hg : m.ledger.receivers? feed.url feed.topic = none)
    (h : Records (.holding replies) (unregister settings.grace feed) m es res m') :
    exchanges es = [] := by
  have hunreg := Ledger.unregistering_of_run h.ledgerRuns
  generalize m.ledger = g at *
  generalize m'.ledger = g' at *
  generalize exchanges es = t at *
  cases hunreg with
  | unknown | counted => rfl
  | faulted hl hs | unsubscribed hl hs | closed hl hs =>
    simp [Ledger.receivers?, hl, hs] at hg

/-- Broker calls follow the ledger. The subscriptions that were acknowledged are as many as the times
a topic came to a first receiver, the attempts to unsubscribe as many as the times one lost its last.
A url has one open session if it has a link and none otherwise, never more than one, and after the
shutdown each session was told to end as often as it was opened. -/
theorem calls_balanced (h : Course settings urlOf es g) :
    (∀ url topic,
      (exchanges es).countP (·.subscribes (urlOf · == url) topic) =
        es.countP (·.crosses (Ledger.rises url topic)) ∧
      (exchanges es).countP (·.unsubscribes (urlOf · == url) topic) =
        es.countP (·.crosses (Ledger.falls url topic))) ∧
    (∀ url, (exchanges es).countP (·.opens (urlOf · == url)) =
      (exchanges es).countP (·.closes (urlOf · == url)) + if (g.link? url).isSome then 1 else 0) ∧
    (∀ t₁ t₂, exchanges es = t₁ ++ t₂ → ∀ url,
      t₁.countP (·.closes (urlOf · == url)) ≤ t₁.countP (·.opens (urlOf · == url)) ∧
      t₁.countP (·.opens (urlOf · == url)) ≤ t₁.countP (·.closes (urlOf · == url)) + 1) ∧
    (∀ replies m es' res m' feed, m.ledger = g → g.receivers? feed.url feed.topic ≠ none →
      Records (.holding replies) (register settings.grace feed) m es' res m' → exchanges es' = []) ∧
    (∀ replies m es' res m' feed, m.ledger = g → g.receivers? feed.url feed.topic = none →
      Records (.holding replies) (unregister settings.grace feed) m es' res m' →
      exchanges es' = []) ∧
    ∀ read es', Ending settings read g es' →
      (∀ url topic, (exchanges es').countP (·.subscribes (urlOf · == url) topic) = 0 ∧
        (exchanges es').countP (·.unsubscribes (urlOf · == url) topic) = 0) ∧
      (∀ session, (exchanges (es ++ es')).countP (·.opens (· == session)) =
        (exchanges (es ++ es')).countP (·.closes (· == session))) ∧
      ∀ t₁ t₂, exchanges (es ++ es') = t₁ ++ t₂ → ∀ url,
        t₁.countP (·.closes (urlOf · == url)) ≤ t₁.countP (·.opens (urlOf · == url)) ∧
        t₁.countP (·.opens (urlOf · == url)) ≤ t₁.countP (·.closes (urlOf · == url)) + 1 := by
  obtain ⟨hg, hb⟩ := h.balanced
  have hstart (p : SessionId → Bool) : ({} : Ledger).held p = 0 := rfl
  refine ⟨fun url topic => ⟨hb.subscribed url topic, hb.unsubscribed url topic⟩, fun url => ?_,
    fun t₁ t₂ ht url => (hb.alternating url).bounds ht, ?_, ?_, fun read es' hend => ?_⟩
  · rw [← hg.held_url, ← hb.sessions, hstart, Nat.add_zero]
  · rintro replies m es' res m' feed rfl hreceived hrun
    exact no_call_of_register hreceived hrun
  · rintro replies m es' res m' feed rfl hreceived hrun
    exact no_call_of_unregister hreceived hrun
  · have hcloses := hend.closes
    have hnone {c : Exchange → Bool} (hc : ∀ x ∈ exchanges es', c x = false) :
        (exchanges es').countP c = 0 := List.countP_eq_zero.mpr fun x hx => by simp [hc x hx]
    refine ⟨fun url topic => ⟨?_, ?_⟩, fun session => ?_, fun t₁ t₂ ht url => ?_⟩
    · exact hnone fun x hx => (hcloses.only x hx _ topic).2.1
    · exact hnone fun x hx => (hcloses.only x hx _ topic).2.2
    · have hbalance := hb.sessions (· == session)
      rw [exchanges_append, List.countP_append, List.countP_append, hcloses.closed,
        hnone fun x hx => (hcloses.only x hx _ "").1]
      exact hbalance
    · rw [exchanges_append] at ht
      have hsecond := hcloses.alternates (p := (urlOf · == url)) rfl hg.held_le_one
      exact ((hb.alternating url).append hsecond (hb.sessions _)).bounds ht

/-- One broker that grants everything; there is no other one. -/
def soleBroker : (c : Call) → Except Fault c.Reply
  | .connect feed => .ok (if feed.url = "mqtt://a" then .ok 0 else .error (.sessionClosed feed.url))
  | other => ({} : Catalog).granting other

theorem addresses_soleBroker : (Replies.only soleBroker).Addresses fun _ => "mqtt://a" := by
  intro feed session h
  have h : (if feed.url = "mqtt://a" then .ok 0 else .error (.sessionClosed feed.url)) =
      (Except.ok session : Except BrokerError SessionId) := (Except.ok.inj h).symm
  split at h
  · rename_i hurl
    exact hurl.symm
  · cases h

theorem faultless_soleBroker : (Replies.only soleBroker).Faultless := by
  intro c f h
  cases c <;> cases h

/-- All that happens when operations are done one after the other, and the memory they leave. -/
def Operation.performed (settings : ConnectorSettings) (reply : (c : Call) → Except Fault c.Reply) :
    List Operation → Memory → List Moment × Memory
  | [], m => ([], m)
  | op :: ops, m =>
    let (es, m') := performed settings reply ops (play reply (op.routine settings) m).2
    (moments reply (op.routine settings) m ++ es, m')

theorem Course.performed {reply : (c : Call) → Except Fault c.Reply}
    (hf : (Replies.only reply).Faultless) (ha : (Replies.only reply).Addresses urlOf)
    (ops : List Operation) {m : Memory} (h : Course settings urlOf es m.ledger) :
    Course settings urlOf (es ++ (Operation.performed settings reply ops m).1)
      (Operation.performed settings reply ops m).2.ledger := by
  induction ops generalizing es m with
  | nil => exact (List.append_nil es).symm ▸ h
  | cons op ops ih =>
    have hrun := @records_play _ (.holding (.only reply)) reply (fun _ => rfl) (fun _ => rfl)
      (op.routine settings) m
    have hrest := ih (h.next hf ha hrun)
    rwa [List.append_assoc] at hrest

/-- A topic comes to two receivers, which leave again, and another topic comes with a new data source.
A data source of a broker that is not there waits, and a sweep tries it in vain. -/
def busyDay : List Operation :=
  [.register { url := "mqtt://a", topic := "t" },
    .register { url := "mqtt://a", topic := "t" },
    .apply (.created { id := "b", resource := "b", feed := some { url := "mqtt://b", topic := "t" } }),
    .sweep,
    .apply (.created { id := "u", resource := "u", feed := some { url := "mqtt://a", topic := "u" } }),
    .unregister { url := "mqtt://a", topic := "t" },
    .unregister { url := "mqtt://a", topic := "t" }]

/-- The topic that all have left was unsubscribed once, and the session is ended with the connector. -/
theorem calls_balanced_sole : ∃ es es' g, Course {} (fun _ => "mqtt://a") es g ∧
    Ending {} (fun _ _ => .ok []) g es' ∧ g.receivers? "mqtt://a" "t" = none ∧
    g.receivers? "mqtt://a" "u" = some 1 ∧ g.pending ≠ [] ∧
    (exchanges es).countP (·.subscribes (fun _ => true) "t") = 1 ∧
    (exchanges es).countP (·.unsubscribes (fun _ => true) "t") = 1 ∧
    (exchanges es).countP (·.opens fun _ => true) =
      (exchanges es).countP (·.closes fun _ => true) + 1 ∧
    (exchanges (es ++ es')).countP (·.opens (· == 0)) =
      (exchanges (es ++ es')).countP (·.closes (· == 0)) := by
  have hrecords {α : Type} (p : Routine α) (m : Memory) : Records (.holding (.only soleBroker)) p m
      (moments soleBroker p m) (play soleBroker p m).1 (play soleBroker p m).2 :=
    records_play (fun _ => rfl) (fun _ => rfl) p m
  let day := Operation.performed {} soleBroker busyDay { cache := { capacity := 1 } }
  let l : Link := ⟨"mqtt://a", 0, [⟨"u", .atMostOnce, 1⟩]⟩
  let g : Ledger := { links := [l], pending := [("b", { url := "mqtt://b", topic := "t" })] }
  have hg : day.2.ledger = g := rfl
  have hcourse : Course {} (fun _ => "mqtt://a") ([] ++ day.1) day.2.ledger :=
    .performed faultless_soleBroker addresses_soleBroker busyDay .start
  rw [hg] at hcourse
  have hrises : day.1.countP (·.crosses (Ledger.rises "mqtt://a" "t")) = 1 := by decide +kernel
  have hfalls : day.1.countP (·.crosses (Ledger.falls "mqtt://a" "t")) = 1 := by decide +kernel
  let m : Memory := { ledger := g, cache := { capacity := 1 } }
  obtain ⟨own, hown⟩ : ∃ own, Records (.holding (.only soleBroker)) shutdown m own (.ok ()) _ :=
    ⟨_, hrecords shutdown m⟩
  obtain ⟨closing, hclosing⟩ : ∃ closing, Records (.holding (.only soleBroker))
      (ofJob {} (fun _ _ => .ok []) (.closing l)) m closing _ _ := ⟨_, hrecords _ m⟩
  have hend : Ending {} (fun _ _ => .ok []) g (own ++ [closing].flatten) := by
    refine .intro rfl faultless_soleBroker hown ?_ (.refl _)
    rw [(spawned_of_shutdown hown).2]
    exact .cons ⟨_, _, _, hclosing⟩ .nil
  obtain ⟨hcalls, hopen, -, -, -, hall⟩ := calls_balanced hcourse
  obtain ⟨hsubscribed, hunsubscribed⟩ := hcalls "mqtt://a" "t"
  obtain ⟨-, hclosed, -⟩ := hall _ _ hend
  exact ⟨_, _, _, hcourse, hend, rfl, rfl, nofun, hsubscribed.trans hrises,
    hunsubscribed.trans hfalls, hopen "mqtt://a", hclosed 0⟩

end Course

end SensorBridge
