import SensorBridge.Proofs.Invalidation
import SensorBridge.Proofs.LedgerRuns

/-!
How the routines on the ledger are put together: of calls, of requests that are answered at once, and of
sections under a lock, each inside one of a higher rank. It follows that such a routine never waits for a
lock that it holds, that it gives back all it takes even when it faults, that it faults if and only if one
of its calls did, and that it is gentle to the cache.
-/
namespace SensorBridge

/-- The calls of a session are taken inside the ledger, never around it. -/
def Lock.rank : Lock → Nat
  | .ledger => 1
  | .calls _ => 0

/-- The request passes on no lock, no event and no change of the catalog. -/
def Request.Calm : Request → Prop
  | .update f => (Request.update f).Gentle
  | .spawn _ | .abort _ | .join .. | .log _ => True
  | _ => False

/-- The other side of the call failed without a reply. -/
def Exchange.Faulted (x : Exchange) : Prop :=
  ∃ f, x.reply = .error f

namespace Routine

variable {α β : Type} {n : Nat}

/-- The routine is put together of calm requests, calls, and sections under locks of a lower rank
than `n`. -/
inductive Nested : Nat → {α : Type} → Routine α → Prop where
  | pure {n : Nat} {α : Type} (x : α) : Nested n (pure x)
  | request {n : Nat} {r : Request} : r.Calm → Nested n (request r)
  | call {n : Nat} (c : Call) : Nested n (call c)
  | bind {n : Nat} {α β : Type} {p : Routine α} {f : α → Routine β} :
      Nested n p → (∀ x, Nested n (f x)) → Nested n (p >>= f)
  | onFault {n : Nat} {α : Type} {p : Routine α} (job : Job) :
      Nested n p → Nested n (onFault p (Routine.request (.abort job)))
  | holding {n : Nat} {α : Type} {l : Lock} {p : Routine α} :
      l.rank < n → Nested l.rank p → Nested n (holding l p)

/-! ### The routines on the ledger -/

section Building

variable {grace : Nat} {feed : Feed} {l : Link} {f : Ledger → Ledger} {id : String}

theorem nested_ledger : Nested n ledger :=
  .bind (.request (.inl fun _ => rfl)) fun _ => .pure _

theorem nested_modifyLedger : Nested n (modifyLedger f) :=
  .bind (.request (.inl fun _ => rfl)) fun _ => .pure _

theorem nested_modifyCache {h : Cache → Cache} (hpurges : Cache.Purges h) :
    Nested n (modifyCache h) :=
  .bind (.request (.inr ⟨h, hpurges, fun _ => rfl⟩)) fun _ => .pure _

theorem nested_closeLink : Nested n (closeLink grace l) := by
  refine .bind (.onFault _ (.call _)) fun _ => .bind (.request trivial) fun joined => ?_
  cases joined with
  | late => exact .bind (.request trivial) fun _ => .pure _
  | done | faulted => exact .bind (.pure _) fun _ => .pure _

theorem nested_subscribe {session : SessionId} {topic : String} {qos : Qos} :
    Nested 1 (subscribe session topic qos f) := by
  refine .holding Nat.zero_lt_one (.bind (.call _) fun reply => ?_)
  cases reply with
  | error e => exact .pure _
  | ok _ => exact .bind nested_modifyLedger fun _ => .pure _

theorem nested_openLink {qos : Qos} : Nested 1 (openLink grace feed qos) := by
  refine .bind (.call _) fun connected => ?_
  cases connected with
  | error e => exact .pure _
  | ok session =>
    refine .bind (.request trivial) fun _ => .bind (.onFault _ nested_subscribe) fun subscribed => ?_
    cases subscribed with
    | error e => exact .bind nested_closeLink fun _ => .pure _
    | ok _ => exact .pure _

theorem nested_register : Nested 1 (register grace feed) := by
  unfold register
  cases checkFeed feed with
  | error e => exact .pure _
  | ok qos =>
    refine .bind nested_ledger fun g => ?_
    cases g.link? feed.url with
    | none => exact nested_openLink
    | some l =>
      dsimp only
      cases l.find? feed.topic with
      | some s => exact .bind nested_modifyLedger fun _ => .pure _
      | none => exact nested_subscribe

theorem nested_unsubscribeLast {topic : String} : Nested 1 (unsubscribeLast grace l topic) := by
  refine .bind (.holding Nat.zero_lt_one (.call _)) fun result => ?_
  refine .bind nested_ledger fun g => ?_
  cases g.link? l.url with
  | none => cases result <;> exact .pure _
  | some l =>
    dsimp only
    split
    · refine .bind nested_modifyLedger fun _ => .bind nested_closeLink fun _ => ?_
      cases result <;> exact .pure _
    · cases result <;> exact .pure _

theorem nested_unregister : Nested 1 (unregister grace feed) := by
  refine .bind nested_ledger fun g => ?_
  cases g.link? feed.url with
  | none => exact .pure _
  | some l =>
    dsimp only
    cases l.find? feed.topic with
    | none => exact .pure _
    | some s =>
      refine .bind nested_modifyLedger fun _ => ?_
      split
      · exact .pure _
      · exact nested_unsubscribeLast

theorem nested_registerOrPostpone : Nested 1 (registerOrPostpone grace id feed) := by
  refine .bind nested_register fun entered => ?_
  cases entered with
  | ok _ => exact .pure _
  | error e => exact .bind nested_modifyLedger fun _ => .pure _

theorem nested_settle : Nested n (settle id) :=
  .bind (.request (.inl fun _ => rfl)) fun _ => .pure _

theorem nested_leave {wasPending : Bool} {feed : Option Feed} :
    Nested 1 (leave grace wasPending feed) := by
  match wasPending, feed with
  | false, some feed => exact nested_unregister
  | true, _ => exact .pure _
  | false, none => exact .pure _

theorem nested_refreshCache {old new : Source} : Nested n (refreshCache old new) := by
  have hremove : Nested n (do
      modifyCache (·.remove old.resource)
      modifyCache (·.remove new.resource)) :=
    .bind (nested_modifyCache (Cache.purges_remove _)) fun _ =>
      nested_modifyCache (Cache.purges_remove _)
  unfold refreshCache
  split
  · exact .bind (nested_modifyCache Cache.purges_clear) fun _ => hremove
  · exact hremove

theorem nested_applyChange {change : Change} : Nested 1 (applyChange grace change) := by
  cases change with
  | created s =>
    simp only [applyChange, applyCreated]
    cases s.feed with
    | none => exact .pure _
    | some feed => exact nested_registerOrPostpone
  | updated old new =>
    refine .bind nested_refreshCache fun _ => ?_
    split
    · exact .pure _
    · refine .bind nested_settle fun _ => .bind nested_leave fun left => ?_
      cases new.feed with
      | none => exact .pure _
      | some feed =>
        refine .bind nested_registerOrPostpone fun entered => ?_
        cases left <;> exact .pure _
  | deleted s =>
    exact .bind (nested_modifyCache Cache.purges_clear) fun _ => .bind nested_settle fun _ => nested_leave

theorem nested_attemptEach {waiting : List (String × Feed)} : Nested 1 (attemptEach grace waiting) := by
  induction waiting with
  | nil => exact .pure _
  | cons e rest ih =>
    obtain ⟨id, feed⟩ := e
    refine .bind nested_register fun entered => ?_
    cases entered with
    | ok _ => exact .bind nested_modifyLedger fun _ => ih
    | error e => exact ih

theorem nested_sweep : Nested 1 (sweep grace) :=
  .bind nested_ledger fun _ => .bind nested_attemptEach fun _ => .bind nested_ledger fun _ => .pure _

end Building

/-! ### What follows for all of them -/

section Consequences

variable {p : Routine α} {base above more : List Lock}

theorem Nested.gentle (h : Nested n p) : p.Every Request.Gentle := by
  induction h with
  | pure x => trivial
  | @request _ r hr =>
    refine every_request ?_
    cases r with
    | update f => exact hr
    | _ => trivial
  | call c => exact every_call trivial
  | bind _ _ ihp ihf => exact every_bind ihp ihf
  | onFault job _ ih => exact every_onFault ih trivial
  | holding _ _ ih => exact every_holding ih trivial trivial

/-- Whatever the answers, and whether it faults or not, the routine ends holding `base`, which it keeps
all the time. It takes locks in descending order above it and gives them back in the opposite one. -/
def Keeps (base : List Lock) : Routine α → List Lock → Prop
  | .done _, above => above = []
  | .fault _, above => above = []
  | .ask (.acquire l) k, above =>
    (∀ l' ∈ above ++ base, l.rank < l'.rank) ∧ (k ()).Keeps base (l :: above)
  | .ask (.release l) k, above => ∃ rest, above = l :: rest ∧ (k ()).Keeps base rest
  | .ask (.call _) k, above => ∀ a, (k a).Keeps base above
  | .ask r k, above => r.Calm ∧ ∀ a, (k a).Keeps base above

theorem keeps_ask {r : Request} {k : r.Answer → Routine α} {k' : r.Answer → Routine β}
    (h : (ask r k).Keeps (more ++ base) above)
    (hk : ∀ a above, (k a).Keeps (more ++ base) above → (k' a).Keeps base (above ++ more)) :
    (ask r k').Keeps base (above ++ more) := by
  cases r with
  | acquire l =>
    refine ⟨fun l' hl' => h.1 l' ?_, hk _ _ h.2⟩
    rwa [← List.append_assoc]
  | release l =>
    obtain ⟨rest, habove, hrest⟩ := h
    exact ⟨rest ++ more, by rw [habove]; rfl, hk _ _ hrest⟩
  | call c => exact fun a => hk a above (h a)
  | _ => exact ⟨h.1, fun a => hk a above (h.2 a)⟩

theorem keeps_bind {f : α → Routine β} (hp : p.Keeps base above) (hf : ∀ x, (f x).Keeps base []) :
    (p >>= f).Keeps base above := by
  induction p generalizing above with
  | done x =>
    obtain rfl := hp
    exact hf x
  | fault e => exact hp
  | ask r k ih =>
    have hask : (ask r fun a => (k a).bind f).Keeps base (above ++ []) := by
      refine keeps_ask hp fun a above hk => ?_
      rw [List.append_nil]
      exact ih a hk
    rwa [List.append_nil] at hask

theorem keeps_attempt_bind {f : Except Fault α → Routine β} (hp : p.Keeps (more ++ base) above)
    (hf : ∀ x, (f x).Keeps base more) : (p.attempt >>= f).Keeps base (above ++ more) := by
  induction p generalizing above with
  | done x | fault e =>
    obtain rfl := hp
    exact hf _
  | ask r k ih => exact keeps_ask hp fun a _ => ih a

theorem Nested.keeps (h : Nested n p) (hbase : ∀ l ∈ base, n ≤ l.rank) : p.Keeps base [] := by
  induction h generalizing base with
  | pure x => rfl
  | @request _ r hr =>
    cases r with
    | update | spawn | abort | join | log => exact ⟨hr, fun _ => rfl⟩
    | _ => exact hr.elim
  | call c => exact fun a => by cases a <;> rfl
  | bind _ _ ihp ihf => exact keeps_bind (ihp hbase) fun x => ihf x hbase
  | onFault job _ ih =>
    have hbefore := ih hbase
    rw [← List.nil_append base] at hbefore
    refine keeps_attempt_bind hbefore fun x => ?_
    cases x with
    | ok x => rfl
    | error f => exact ⟨trivial, fun _ => rfl⟩
  | @holding n _ l _ hl _ ih =>
    have hinside : ∀ l' ∈ [l] ++ base, l.rank ≤ l'.rank := by
      intro l' hl'
      obtain rfl | hl' := List.mem_cons.mp hl'
      · exact Nat.le_refl _
      · exact Nat.le_of_lt (Nat.lt_of_lt_of_le hl (hbase l' hl'))
    refine ⟨fun l' hl' => Nat.lt_of_lt_of_le hl (hbase l' hl'), ?_⟩
    refine keeps_attempt_bind (ih hinside) fun x => ?_
    cases x <;> exact ⟨[], rfl, rfl⟩

/-- A routine faults if and only if one of its calls did. -/
theorem Nested.faults_iff {replies : Replies} {g g' : Ledger} {t : List Exchange} {res : Except Fault α}
    (h : Nested n p) (hrun : LedgerRuns replies p g t res g') :
    (∃ f, res = .error f) ↔ ∃ x ∈ t, x.Faulted := by
  induction h generalizing g t g' with
  | pure x =>
    obtain ⟨rfl, rfl, rfl⟩ := LedgerRuns.pure_iff.mp hrun
    simp
  | @request _ r hr =>
    obtain ⟨m, t₁, a, m', t₂, rfl, hserved, hk, rfl⟩ := LedgerRuns.ask hrun
    obtain ⟨rfl, rfl, -⟩ := LedgerRuns.pure_iff.mp hk
    cases r with
    | update | spawn | abort | join | log =>
      obtain ⟨rfl, -⟩ := hserved
      simp
    | _ => exact hr.elim
  | call c =>
    obtain ⟨-, rfl, -⟩ := LedgerRuns.call hrun
    simp [Exchange.Faulted]
  | bind _ _ ihp ihf =>
    obtain ⟨x, t₁, g₁, t₂, hp, hf, rfl⟩ | ⟨e, hp, rfl⟩ := LedgerRuns.bind hrun
    · have hno : ¬ ∃ x ∈ t₁, x.Faulted := fun hfaulted => by
        obtain ⟨f, hf⟩ := (ihp hp).mpr hfaulted
        cases hf
      rw [ihf x hf]
      simp only [List.mem_append, or_and_right, exists_or, hno, false_or]
    · rw [← ihp hp]
      simp
  | onFault job _ ih => exact ih (LedgerRuns.onFault hrun)
  | holding _ _ ih => exact ih (LedgerRuns.holding hrun)

theorem gentle_applyAndReport {grace : Nat} {change : Change} :
    (applyAndReport grace change).Every Request.Gentle := by
  have hsection : Nested 2 (holding .ledger (applyChange grace change)) :=
    .holding Nat.one_lt_two nested_applyChange
  refine every_bind (every_attempt hsection.gentle) fun x => ?_
  match x with
  | .ok (.ok ()) => trivial
  | .ok (.error e) => trivial
  | .error f => trivial

end Consequences

end Routine

end SensorBridge
