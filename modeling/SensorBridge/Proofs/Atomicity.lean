import SensorBridge.Proofs.Receivers

/-!
Registering a feed takes effect as a whole or not at all. It checks the feed, opens a link, subscribes
and only then writes to the ledger, so whatever fails on the way leaves the ledger as it was; and a
session that was opened for a topic which the broker refuses is ended again.
-/
namespace SensorBridge

open Routine

/-- A call to connect or to subscribe brought an error or a fault. -/
def Exchange.refuses : Exchange → Bool
  | ⟨.connect _, .ok (.ok _)⟩ => false
  | ⟨.connect _, _⟩ => true
  | ⟨.subscribe .., .ok (.ok _)⟩ => false
  | ⟨.subscribe .., _⟩ => true
  | _ => false

namespace Ledger

variable {replies : Replies} {grace : Nat} {feed : Feed} {g g' : Ledger} {t : List Exchange}
  {res : Except Fault (Except ConnectorError Unit)}

/-- A feed that cannot be served comes to no call. -/
theorem Registering.quiet {e : ConnectorError} (h : Registering replies grace feed g t res g')
    (he : checkFeed feed = .error e) : t = [] ∧ res = .ok (.error e) := by
  cases h with
  | refused he' =>
    obtain rfl := Except.error.inj (he.symm.trans he')
    exact ⟨rfl, rfl⟩
  | counted hq | subscribed hq | unsubscribed hq | unconnected hq | faulted hq | opened hq
  | dropped hq | closed hq =>
    rw [he] at hq
    cases hq

theorem Subscribing.refuses {session : SessionId} {topic : String} {qos : Qos}
    (h : Subscribing replies session topic qos t res) :
    res ≠ .ok (.ok ()) ↔ ∃ x ∈ t, x.refuses = true := by
  cases h with
  | acknowledged => simp [Exchange.refuses]
  | failed => simp [Exchange.refuses]
  | faulted => simp [Exchange.refuses]

/-- Registering fails exactly if the feed cannot be served or a call fails. -/
theorem Registering.fails_iff (h : Registering replies grace feed g t res g') :
    res ≠ .ok (.ok ()) ↔ (∃ e, checkFeed feed = .error e) ∨ ∃ x ∈ t, x.refuses = true := by
  cases h with
  | refused he => simp [he]
  | counted hq => simp [hq]
  | subscribed hq hl hs hsub => simpa [hq] using hsub.refuses
  | unsubscribed hq hl hs hsub => simpa [hq] using hsub.refuses
  | unconnected hq => simp [hq, Exchange.refuses]
  | faulted hq => simp [hq, Exchange.refuses]
  | opened hq hl hreply hsub => simpa [hq, Exchange.refuses] using hsub.refuses
  | dropped hq hl hreply hsub => simpa [hq, Exchange.refuses] using hsub.refuses
  | @closed _ _ _ _ _ reply hq hl hreply hsub =>
    obtain ⟨x, hx, hrefuses⟩ := hsub.refuses.mp (by simp)
    refine iff_of_true ?_ (.inr ⟨x, by simp [hx], hrefuses⟩)
    cases reply <;> simp [Except.map]

/-- A session that was opened for a topic which the broker refuses is ended by the next call, which is
the last one. -/
theorem Registering.closing {session : SessionId} {qos : Qos} {e : BrokerError}
    (h : Registering replies grace feed g t res g') (hopened : ⟨.connect feed, .ok (.ok session)⟩ ∈ t)
    (hrefused : ⟨.subscribe session feed.topic qos, .ok (.error e)⟩ ∈ t) :
    ∃ reply, t = [⟨.connect feed, .ok (.ok session)⟩,
        ⟨.subscribe session feed.topic qos, .ok (.error e)⟩, ⟨.disconnect session grace, reply⟩] ∧
      res = reply.map fun _ => .error (.broker e) := by
  cases h with
  | refused | counted => cases hopened
  | unconnected | faulted => simp at hopened
  | subscribed hq hl hs hsub | unsubscribed hq hl hs hsub => cases hsub <;> simp at hopened
  | opened hq hl hreply hsub | dropped hq hl hreply hsub => cases hsub; simp at hrefused
  | @closed _ _ _ _ _ reply hq hl hreply hsub hclosing =>
    cases hsub
    cases hclosing
    obtain ⟨⟨rfl, rfl⟩, rfl⟩ : (_ = _ ∧ _ = _) ∧ _ = _ := by simpa using hrefused
    exact ⟨reply, rfl, rfl⟩

/-- No other session is ended. -/
theorem Registering.closes {session : SessionId} {n : Nat}
    {reply : Except Fault (Except BrokerError Unit)} (h : Registering replies grace feed g t res g')
    (hclosed : ⟨.disconnect session n, reply⟩ ∈ t) :
    ∃ qos e, ⟨.connect feed, .ok (.ok session)⟩ ∈ t ∧
      ⟨.subscribe session feed.topic qos, .ok (.error e)⟩ ∈ t := by
  cases h with
  | refused | counted => cases hclosed
  | unconnected | faulted => simp at hclosed
  | subscribed hq hl hs hsub | unsubscribed hq hl hs hsub | opened hq hl hreply hsub
  | dropped hq hl hreply hsub =>
    cases hsub <;> simp at hclosed
  | @closed qos _ _ _ _ _ hq hl hreply hsub hclosing =>
    cases hsub
    cases hclosing
    obtain ⟨⟨rfl, -⟩, -⟩ : (_ = _ ∧ _) ∧ _ := by simpa using hclosed
    exact ⟨qos, _, List.mem_cons_self, List.mem_cons_of_mem _ List.mem_cons_self⟩

/-- A registration adds one receiver to the topic of its feed, or it changes nothing in the ledger. It
comes to nothing exactly if the feed cannot be served, without a call, or if a call fails; and it
leaves no session behind on which the topic was refused. -/
theorem registered_or_unchanged :
    ((∀ c, ∃ x, replies c x) →
      ∃ t res g', LedgerRuns replies (holding .ledger (register grace feed)) g t res g') ∧
    ∀ t res g', LedgerRuns replies (holding .ledger (register grace feed)) g t res g' →
      (res = .ok (.ok ()) → g.Adds feed g') ∧
      (res ≠ .ok (.ok ()) → g' = g) ∧
      (res ≠ .ok (.ok ()) ↔ (feed.qos? = none ∨ ∃ e, Topic.validate feed.topic = .error e) ∨
        ∃ x ∈ t, x.refuses = true) ∧
      (feed.qos? = none → t = [] ∧ res = .ok (.error (.qos feed.url feed.topic feed.level))) ∧
      (∀ qos e, feed.qos? = some qos → Topic.validate feed.topic = .error e →
        t = [] ∧ res = .ok (.error (.filter e))) ∧
      (∀ session qos e, ⟨.connect feed, .ok (.ok session)⟩ ∈ t →
        ⟨.subscribe session feed.topic qos, .ok (.error e)⟩ ∈ t →
        ∃ reply, t = [⟨.connect feed, .ok (.ok session)⟩,
            ⟨.subscribe session feed.topic qos, .ok (.error e)⟩,
            ⟨.disconnect session grace, reply⟩] ∧
          res = reply.map fun _ => .error (.broker e)) ∧
      ∀ session n reply, ⟨.disconnect session n, reply⟩ ∈ t →
        ∃ qos e, ⟨.connect feed, .ok (.ok session)⟩ ∈ t ∧
          ⟨.subscribe session feed.topic qos, .ok (.error e)⟩ ∈ t := by
  refine ⟨fun hreplies => LedgerRuns.exists_run hreplies _ g, fun t res g' hrun => ?_⟩
  have h := registering_of_run (LedgerRuns.holding hrun)
  refine ⟨?_, h.unchanged, ?_, ?_, ?_, fun _ _ _ => h.closing, fun _ _ _ => h.closes⟩
  · rintro rfl
    exact h.adds
  · rw [h.fails_iff, checkFeed_eq_error_iff]
  · intro hnone
    exact h.quiet (by simp [checkFeed, hnone])
  · intro qos e hqos hfilter
    exact h.quiet (by simp [checkFeed, hqos, hfilter])

/-- The broker accepts the connection and refuses the topic, while another url has a link. -/
theorem registered_or_unchanged_refused :
    let feed : Feed := { url := "mqtt://b", topic := "t" }
    let g : Ledger := { links := [⟨"mqtt://a", 0, [⟨"t", .atMostOnce, 2⟩]⟩], pending := [("x", feed)] }
    let reply : (c : Call) → Except Fault c.Reply
      | .connect _ => .ok (.ok 1)
      | .subscribe .. => .ok (.error (.client "refused"))
      | .disconnect .. => .ok (.ok ())
      | _ => .error ⟨none⟩
    ∃ t res g', LedgerRuns (.only reply) (holding .ledger (register 5 feed)) g t res g' ∧
      t = [⟨.connect feed, .ok (.ok 1)⟩, ⟨.subscribe 1 "t" .atMostOnce, .ok (.error (.client "refused"))⟩,
        ⟨.disconnect 1 5, .ok (.ok ())⟩] ∧
      res = .ok (.error (.broker (.client "refused"))) ∧ g' = g := by
  intro feed g reply
  obtain ⟨hexists, hall⟩ := @registered_or_unchanged (.only reply) 5 feed g
  obtain ⟨t, res, g', hrun⟩ := hexists (Replies.exists_only reply)
  obtain ⟨-, hunchanged, -⟩ := hall t res g' hrun
  have hcheck : checkFeed feed = .ok .atMostOnce := by decide
  have hlink : g.link? feed.url = none := by decide
  have hends : t = [⟨.connect feed, .ok (.ok 1)⟩,
      ⟨.subscribe 1 "t" .atMostOnce, .ok (.error (.client "refused"))⟩,
      ⟨.disconnect 1 5, .ok (.ok ())⟩] ∧ res = .ok (.error (.broker (.client "refused"))) := by
    cases registering_of_run (LedgerRuns.holding hrun) with
    | refused he => cases hcheck.symm.trans he
    | counted hq hl | subscribed hq hl | unsubscribed hq hl => cases hlink.symm.trans hl
    | unconnected hq hl hreply | faulted hq hl hreply => cases hreply
    | opened hq hl hreply hsub | dropped hq hl hreply hsub =>
      cases hsub with
      | _ hreply => cases hreply
    | closed hq hl hconnect hsub hclosing =>
      obtain rfl := Except.ok.inj (hcheck.symm.trans hq)
      cases hconnect
      cases hsub with
      | failed hsubscribe =>
        cases hsubscribe
        cases hclosing with
        | intro hdisconnect =>
          cases hdisconnect
          exact ⟨rfl, rfl⟩
  obtain ⟨rfl, rfl⟩ := hends
  exact ⟨_, _, g', hrun, rfl, rfl, hunchanged (by simp)⟩

end Ledger

end SensorBridge
