import SensorBridge.Proofs.Atomicity
import SensorBridge.Proofs.Vacancy

/-!
A sweep over the waiting registrations. It makes one attempt at each of them, in the order of their
ids. An attempt that succeeds adds a receiver and its registration waits no more; one that fails
changes nothing. So what waits after the sweep is what has failed, and if the brokers grant everything
that are the feeds which cannot be served.
-/
namespace SensorBridge

open Routine

/-- One attempt at a waiting registration, with the ledger it found and the one it left. -/
structure Attempt where
  id : String
  feed : Feed
  found : Ledger
  calls : List Exchange
  outcome : Except ConnectorError Unit
  left : Ledger

namespace Attempt

variable {replies : Replies} {grace : Nat} {a : Attempt}

def registration (a : Attempt) : String × Feed :=
  (a.id, a.feed)

def succeeds (a : Attempt) : Bool :=
  a.outcome.isOk

/-- The feed is a topic of a url. -/
def concerns (url topic : String) (a : Attempt) : Bool :=
  a.feed.url == url && a.feed.topic == topic

/-- The ledger when the next attempt begins. -/
def after (a : Attempt) : Ledger :=
  if a.succeeds then a.left.settle a.id else a.left

/-- The attempt is a run of registering its feed. -/
def Made (replies : Replies) (grace : Nat) (a : Attempt) : Prop :=
  LedgerRuns replies (register grace a.feed) a.found a.calls (.ok a.outcome) a.left

theorem Made.registering (h : a.Made replies grace) :
    Ledger.Registering replies grace a.feed a.found a.calls (.ok a.outcome) a.left :=
  Ledger.registering_of_run h

theorem outcome_of_succeeds (h : a.succeeds = true) : a.outcome = .ok () := by
  unfold succeeds at h
  cases ho : a.outcome with
  | ok u => rfl
  | error e =>
    rw [ho] at h
    cases h

theorem outcome_ne_of_fails (h : a.succeeds = false) :
    (.ok a.outcome : Except Fault (Except ConnectorError Unit)) ≠ .ok (.ok ()) := by
  intro ho
  rw [succeeds, Except.ok.inj ho] at h
  cases h

theorem Made.adds (h : a.Made replies grace) (hs : a.succeeds = true) : a.found.Adds a.feed a.left := by
  have hr := h.registering
  rw [outcome_of_succeeds hs] at hr
  exact hr.adds

theorem Made.unchanged (h : a.Made replies grace) (hs : a.succeeds = false) : a.left = a.found :=
  h.registering.unchanged (outcome_ne_of_fails hs)

/-- An attempt fails exactly if its feed cannot be served or a call to connect or to subscribe fails. -/
theorem Made.fails_iff (h : a.Made replies grace) : a.succeeds = false ↔
    (∃ e, checkFeed a.feed = .error e) ∨ ∃ x ∈ a.calls, x.refuses = true := by
  rw [← h.registering.fails_iff]
  refine ⟨outcome_ne_of_fails, fun hne => ?_⟩
  cases hs : a.succeeds with
  | false => rfl
  | true => exact absurd (congrArg Except.ok (outcome_of_succeeds hs)) hne

theorem Made.count_after {url topic : String} (h : a.Made replies grace) :
    a.after.count url topic =
      a.found.count url topic + if a.succeeds && a.concerns url topic then 1 else 0 := by
  unfold after
  cases hs : a.succeeds with
  | false => simp [h.unchanged hs]
  | true =>
    have hcount : (a.left.settle a.id).count url topic = a.left.count url topic := rfl
    rw [if_pos rfl, hcount, (h.adds hs).count]
    simp [concerns, eq_comm (a := url), eq_comm (a := topic)]

end Attempt

namespace Ledger

variable {replies : Replies} {grace : Nat} {g g' : Ledger} {t : List Exchange}
  {waiting : List (String × Feed)} {as : List Attempt}

/-- Attempts one after the other, from a ledger to a ledger. -/
inductive Attempts (replies : Replies) (grace : Nat) : Ledger → List Attempt → Ledger → Prop where
  | nil {g : Ledger} : Attempts replies grace g [] g
  | cons {a : Attempt} {rest : List Attempt} {g' : Ledger} : a.Made replies grace →
      Attempts replies grace a.after rest g' → Attempts replies grace a.found (a :: rest) g'

/-- Without a fault every registration that is given is attempted, in the order given. -/
theorem attempts_of_run {res : Except Fault Unit} (hr : replies.Faultless)
    (h : LedgerRuns replies (attemptEach grace waiting) g t res g') :
    res = .ok () ∧ ∃ as, Attempts replies grace g as g' ∧
      as.map (·.registration) = waiting ∧ t = as.flatMap (·.calls) := by
  induction waiting generalizing g t with
  | nil =>
    obtain ⟨rfl, rfl, rfl⟩ := LedgerRuns.pure_iff.mp h
    exact ⟨rfl, [], .nil, rfl, rfl⟩
  | cons x rest ih =>
    obtain ⟨id, feed⟩ := x
    obtain ⟨outcome, t₁, g₁, t₂, hp, hk, rfl⟩ | ⟨f, hp, rfl⟩ := LedgerRuns.bind h
    · have hnext : LedgerRuns replies (attemptEach grace rest)
          (Attempt.after ⟨id, feed, g, t₁, outcome, g₁⟩) t₂ res g' := by
        cases outcome with
        | ok u =>
          cases u
          exact LedgerRuns.modifyLedger_bind hk
        | error e => exact hk
      obtain ⟨rfl, as, has, rfl, rfl⟩ := ih hnext
      exact ⟨rfl, _, .cons (a := ⟨id, feed, g, t₁, outcome, g₁⟩) hp has, rfl, rfl⟩
    · exact absurd (registering_of_run hp) (Registering.no_fault hr)

theorem Attempts.made (h : Attempts replies grace g as g') : ∀ a ∈ as, a.Made replies grace := by
  induction h with
  | nil => exact fun _ ha => absurd ha List.not_mem_nil
  | cons hmade _ ih => exact List.forall_mem_cons.mpr ⟨hmade, ih⟩

/-- What waits and is attempted later goes on waiting, and so does what is not attempted. -/
theorem Attempts.pending {kept : List (String × Feed)} (h : Attempts replies grace g as g')
    (hg : g.pending = kept ++ as.map (·.registration)) (hids : (g.pending.map (·.1)).Nodup) :
    g'.pending = kept ++ (as.filter (!·.succeeds)).map (·.registration) := by
  induction h generalizing kept with
  | nil => exact hg
  | @cons a rest g' hmade _ ih =>
    have hleft : a.left.pending = kept ++ a.registration :: rest.map (·.registration) :=
      hmade.registering.pending.trans hg
    rw [List.filter_cons]
    cases hs : a.succeeds with
    | false =>
      have hafter : a.after.pending =
          (kept ++ [a.registration]) ++ rest.map (·.registration) := by
        rw [Attempt.after, hs, if_neg Bool.false_ne_true, hleft, List.append_assoc]
        rfl
      rw [ih hafter (by rw [hafter, List.append_assoc]; exact hg ▸ hids), List.append_assoc]
      rfl
    | true =>
      -- the id stands once, so that nothing else is taken off with it
      have hafter : a.after.pending = kept ++ rest.map (·.registration) := by
        rw [hg, List.map_append, List.map_cons, List.map_cons, List.nodup_middle, List.nodup_cons,
          ← List.map_append] at hids
        rw [Attempt.after, hs, if_pos rfl, settle, hleft, List.filter_append,
          List.filter_cons_of_neg (by simp [Attempt.registration]), ← List.filter_append]
        exact filter_key_ne hids.1
      refine ih hafter ?_
      rw [hafter]
      refine hids.sublist (List.Sublist.map _ ?_)
      rw [hg]
      exact (List.sublist_cons_self _ _).append_left kept

theorem Attempts.count {url topic : String} (h : Attempts replies grace g as g') :
    g'.count url topic =
      g.count url topic + as.countP fun a => a.succeeds && a.concerns url topic := by
  induction h with
  | nil => rfl
  | cons hmade _ ih =>
    rw [ih, hmade.count_after, List.countP_cons]
    omega

/-- Feeds that cannot be served come to no call and change nothing. -/
theorem Retrying.idle {res : Except Fault Unit} (h : Retrying replies grace waiting g t res g')
    (hw : ∀ x ∈ waiting, ∃ e, checkFeed x.2 = .error e) : t = [] ∧ res = .ok () ∧ g' = g := by
  induction h with
  | nil => exact ⟨rfl, rfl, rfl⟩
  | settled hr | faulted hr =>
    obtain ⟨e, he⟩ := hw _ List.mem_cons_self
    cases (hr.quiet he).2
  | kept hr _ ih =>
    obtain ⟨e, he⟩ := hw _ List.mem_cons_self
    obtain ⟨rfl, -⟩ := hr.quiet he
    obtain ⟨rfl, hres, hg⟩ := ih fun x hx => hw x (List.mem_cons_of_mem _ hx)
    exact ⟨rfl, hres, hg⟩

theorem mem_failed_iff (has : ∀ a ∈ as, a.Made replies grace)
    (hcalls : ∀ x ∈ as.flatMap (·.calls), x.refuses = false) {x : String × Feed} :
    x ∈ (as.filter (!·.succeeds)).map (·.registration) ↔
      x ∈ as.map (·.registration) ∧ ∃ e, checkFeed x.2 = .error e := by
  have hfails : ∀ a ∈ as, (!a.succeeds) = true ↔ ∃ e, checkFeed a.feed = .error e := by
    intro a ha
    rw [Bool.not_eq_true', (has a ha).fails_iff, or_iff_left]
    rintro ⟨x, hx, hrefuses⟩
    rw [hcalls x (List.mem_flatMap.mpr ⟨a, ha, hx⟩)] at hrefuses
    cases hrefuses
  constructor
  · intro hx
    obtain ⟨a, ha, rfl⟩ := List.mem_map.mp hx
    obtain ⟨ha, hs⟩ := List.mem_filter.mp ha
    exact ⟨List.mem_map_of_mem ha, (hfails a ha).mp hs⟩
  · rintro ⟨hx, he⟩
    obtain ⟨a, ha, rfl⟩ := List.mem_map.mp hx
    exact List.mem_map_of_mem (List.mem_filter.mpr ⟨ha, (hfails a ha).mpr he⟩)

variable {settings : ConnectorSettings} {urlOf : SessionId → String} {es : List Episode}

/-- A sweep attempts every registration that waits, once and by ascending ids, whatever becomes of the
attempts before. Those that fail stay, with their feeds, each other one adds one receiver, and the
number returned is that of those that stay. If no call fails, the feeds that stay are those that cannot
be served, and the next sweep makes no call and changes nothing. -/
theorem sweep_attempts_each (h : Chronicle settings urlOf es g) (hr : replies.Faultless) :
    ((∀ c, ∃ x, replies c x) →
      ∃ t res g', LedgerRuns replies (holding .ledger (sweep settings.grace)) g t res g') ∧
    ∀ t res g', LedgerRuns replies (holding .ledger (sweep settings.grace)) g t res g' →
      res = .ok g'.pending.length ∧
      (∃ as, Attempts replies settings.grace g as g' ∧
        as.map (·.registration) = g.pending ∧ (as.map (·.id)).Pairwise (· < ·) ∧
        t = as.flatMap (·.calls) ∧
        g'.pending = (as.filter (!·.succeeds)).map (·.registration) ∧
        (∀ a ∈ as, if a.succeeds then a.found.Adds a.feed a.left else a.left = a.found) ∧
        ∀ url topic, g'.count url topic =
          g.count url topic + as.countP fun a => a.succeeds && a.concerns url topic) ∧
      ((∀ x ∈ t, x.refuses = false) →
        (∀ x, x ∈ g'.pending ↔ x ∈ g.pending ∧
          (x.2.qos? = none ∨ ∃ e, Topic.validate x.2.topic = .error e)) ∧
        ∀ replies' t' res' g'',
          LedgerRuns replies' (holding .ledger (sweep settings.grace)) g' t' res' g'' →
          t' = [] ∧ res' = .ok g'.pending.length ∧ g'' = g') := by
  refine ⟨fun hreplies => LedgerRuns.exists_run hreplies _ g, fun t res g' hrun => ?_⟩
  have hg : g.Tidy := h.vacant.1.tidy
  -- the attempts, and with them what waits in the end
  obtain ⟨hres, as, has, hmap, rfl⟩ : res = .ok g'.pending.length ∧ ∃ as,
      Attempts replies settings.grace g as g' ∧ as.map (·.registration) = g.pending ∧
      t = as.flatMap (·.calls) := by
    obtain ⟨_, t₁, g₁, t₂, hp, hk, rfl⟩ | ⟨f, hp, -⟩ :=
      LedgerRuns.bind (LedgerRuns.ledger_bind (LedgerRuns.holding hrun))
    · obtain ⟨-, as, has, hmap, rfl⟩ := attempts_of_run hr hp
      obtain ⟨rfl, rfl, rfl⟩ :=
        LedgerRuns.pure_iff.mp (LedgerRuns.ledger_bind (k := fun g => pure g.pending.length) hk)
      exact ⟨rfl, as, has, hmap, List.append_nil _⟩
    · cases (attempts_of_run hr hp).1
  have hstart : g.pending = [] ++ as.map (·.registration) := hmap.symm
  have hpending : g'.pending = (as.filter (!·.succeeds)).map (·.registration) :=
    has.pending hstart hg.ids_nodup
  have hids : (as.map (·.id)).Pairwise (· < ·) := by
    have hsorted := hg.pending
    rw [← hmap, List.pairwise_map] at hsorted
    exact List.pairwise_map.mpr hsorted
  refine ⟨hres, ⟨as, has, hmap, hids, rfl, hpending, fun a ha => ?_, fun _ _ => has.count⟩, ?_⟩
  · cases hs : a.succeeds with
    | true => exact (has.made a ha).adds hs
    | false => exact (has.made a ha).unchanged hs
  · intro hcalls
    have hstay : ∀ x, x ∈ g'.pending ↔ x ∈ g.pending ∧ ∃ e, checkFeed x.2 = .error e := by
      intro x
      rw [hpending, mem_failed_iff has.made hcalls, hmap]
    refine ⟨fun x => by rw [hstay, checkFeed_eq_error_iff], fun replies' t' res' g'' hnext => ?_⟩
    obtain ⟨res₁, rfl, hretrying⟩ := retrying_of_sweep (LedgerRuns.holding hnext)
    obtain ⟨rfl, rfl, rfl⟩ := hretrying.idle fun x hx => ((hstay x).mp hx).2
    exact ⟨rfl, rfl, rfl⟩

/-! #### Two feeds of one topic, and one that no broker can serve -/

/-- One broker, which takes no connection for the time being. -/
def soleBroker.closed : (c : Call) → Except Fault c.Reply
  | .connect feed => .ok (.error (.sessionClosed feed.url))
  | other => soleBroker other

theorem addresses_closed : (Replies.only soleBroker.closed).Addresses fun _ => "mqtt://a" := by
  intro feed session h
  cases h

def soleFeed (level : UInt8) : Feed where
  url := "mqtt://a"
  topic := "t"
  level

/-- Three data sources were created meanwhile, the second one with a level that is none. -/
def mixed : Ledger where
  pending := [("a", soleFeed 0), ("b", soleFeed 7), ("c", soleFeed 0)]

theorem exists_chronicle_mixed : ∃ es, Chronicle {} (fun _ => "mqtt://a") es mixed := by
  have hserved (id : String) (waiting : List (String × Feed)) : ∃ t, LedgerRuns (.only soleBroker.closed)
      ((Operation.apply (.created { id, resource := id, feed := some (soleFeed 0) })).routine {})
      { pending := waiting } t (.ok ()) { pending := enqueue id (soleFeed 0) waiting } :=
    LedgerRuns.of_play (m := ⟨{ pending := waiting }, [], { capacity := 1 }⟩) rfl rfl
  have hunserved (id : String) (waiting : List (String × Feed)) : ∃ t, LedgerRuns (.only soleBroker.closed)
      ((Operation.apply (.created { id, resource := id, feed := some (soleFeed 7) })).routine {})
      { pending := waiting } t (.ok ()) { pending := enqueue id (soleFeed 7) waiting } :=
    LedgerRuns.of_play (m := ⟨{ pending := waiting }, [], { capacity := 1 }⟩) rfl rfl
  obtain ⟨_, ha⟩ := hserved "a" []
  obtain ⟨_, hb⟩ := hunserved "b" [("a", soleFeed 0)]
  obtain ⟨_, hc⟩ := hserved "c" [("a", soleFeed 0), ("b", soleFeed 7)]
  exact ⟨_, .next (.next (.next .start addresses_closed ha) addresses_closed hb) addresses_closed hc⟩

theorem sweep_attempts_each_mixed : ∃ es t g', Chronicle {} (fun _ => "mqtt://a") es mixed ∧
    LedgerRuns (.only soleBroker) (holding .ledger (sweep 250)) mixed t (.ok 1) g' ∧
    g'.pending = [("b", soleFeed 7)] ∧
    ∃ as, Attempts (.only soleBroker) 250 mixed as g' ∧ as.map (·.id) = ["a", "b", "c"] ∧
      as.countP (fun a => a.succeeds && a.concerns "mqtt://a" "t") = 2 := by
  obtain ⟨es, hes⟩ := exists_chronicle_mixed
  obtain ⟨t, hrun⟩ : ∃ t, LedgerRuns (.only soleBroker) (holding .ledger (sweep 250)) mixed t (.ok 1)
      { links := [⟨"mqtt://a", 0, [⟨"t", .atMostOnce, 2⟩]⟩], pending := [("b", soleFeed 7)] } :=
    LedgerRuns.of_play (m := ⟨mixed, [], { capacity := 1 }⟩) (by decide +kernel) (by decide +kernel)
  obtain ⟨-, ⟨as, has, hmap, -, -, -, -, hcount⟩, -⟩ :=
    (sweep_attempts_each hes faultless_soleBroker).2 _ _ _ hrun
  refine ⟨es, t, _, hes, hrun, rfl, as, has, ?_, ?_⟩
  · have hids := congrArg (List.map Prod.fst) hmap
    rw [List.map_map] at hids
    exact hids
  · have htwo := hcount "mqtt://a" "t"
    rw [show mixed.count "mqtt://a" "t" = 0 from rfl, Nat.zero_add] at htwo
    exact htwo.symm

end Ledger

end SensorBridge
