import SensorBridge.Proofs.Receivers

/-!
What the ledger and the brokers see of a change that is applied, of a sweep over the waiting
registrations and of a page that is registered.
-/
namespace SensorBridge

open Routine

namespace Routine.LedgerRuns

variable {α : Type} {replies : Replies} {g g' : Ledger} {t : List Exchange}

theorem modifyCache_bind {f : Cache → Cache} {k : Unit → Routine α} {res : Except Fault α}
    (h : LedgerRuns replies (modifyCache f >>= k) g t res g') :
    LedgerRuns replies (k ()) g t res g' := by
  obtain ⟨m, rfl, hk⟩ := update_bind (k := fun _ => k ()) h
  exact hk

theorem modifyCache {f : Cache → Cache} {res : Except Fault Unit}
    (h : LedgerRuns replies (modifyCache f) g t res g') : t = [] ∧ res = .ok () ∧ g' = g :=
  pure_iff.mp (modifyCache_bind (k := fun _ => pure ()) h)

theorem refreshCache {old new : Source} {res : Except Fault Unit}
    (h : LedgerRuns replies (refreshCache old new) g t res g') : t = [] ∧ res = .ok () ∧ g' = g := by
  unfold Routine.refreshCache at h
  split at h
  · exact modifyCache (modifyCache_bind (modifyCache_bind h))
  · exact modifyCache (modifyCache_bind h)

theorem settle_bind {id : String} {k : Bool → Routine α} {res : Except Fault α}
    (h : LedgerRuns replies (settle id >>= k) g t res g') :
    LedgerRuns replies (k (g.isPending id)) (g.settle id) t res g' := by
  obtain ⟨m, rfl, hk⟩ := update_bind (k := fun m => k (m.ledger.isPending id)) h
  exact hk

end Routine.LedgerRuns

namespace Ledger

open LedgerRuns

variable {replies : Replies} {grace : Nat} {id : String} {feed : Feed} {s : Source} {change : Change}
  {g g' : Ledger} {t : List Exchange} {res : Except Fault (Except ConnectorError Unit)}

/-- What comes of registering the feed of a data source that waits if it fails. -/
inductive Enrolling (replies : Replies) (grace : Nat) (id : String) (feed : Feed) (g : Ledger) :
    List Exchange → Except Fault (Except ConnectorError Unit) → Ledger → Prop where
  | enrolled {t : List Exchange} {g' : Ledger} : Registering replies grace feed g t (.ok (.ok ())) g' →
      Enrolling replies grace id feed g t (.ok (.ok ())) g'
  | postponed {t : List Exchange} {e : ConnectorError} :
      Registering replies grace feed g t (.ok (.error e)) g →
      Enrolling replies grace id feed g t (.ok (.error e)) (g.postpone id feed)
  | faulted {t : List Exchange} {f : Fault} : Registering replies grace feed g t (.error f) g →
      Enrolling replies grace id feed g t (.error f) g

/-- What comes of taking a data source off: only one that was counted is unregistered. -/
inductive Leaving (replies : Replies) (grace : Nat) (s : Source) (g : Ledger) :
    List Exchange → Except Fault (Except ConnectorError Unit) → Ledger → Prop where
  | uncounted : (g.isPending s.id = true ∨ s.feed = none) →
      Leaving replies grace s g [] (.ok (.ok ())) (g.settle s.id)
  | counted {feed : Feed} {t : List Exchange} {res : Except Fault (Except ConnectorError Unit)}
      {g' : Ledger} : g.isPending s.id = false → s.feed = some feed →
      Unregistering replies grace feed g t res g' → Leaving replies grace s g t res g'

/-- What comes of applying a change. -/
inductive Applying (replies : Replies) (grace : Nat) (g : Ledger) :
    Change → List Exchange → Except Fault (Except ConnectorError Unit) → Ledger → Prop where
  | unfed {s : Source} : s.feed = none → Applying replies grace g (.created s) [] (.ok (.ok ())) g
  | created {s : Source} {feed : Feed} {t : List Exchange}
      {res : Except Fault (Except ConnectorError Unit)} {g' : Ledger} : s.feed = some feed →
      Enrolling replies grace s.id feed g t res g' →
      Applying replies grace g (.created s) t res g'
  | unmoved {old new : Source} : old.feed = new.feed →
      Applying replies grace g (.updated old new) [] (.ok (.ok ())) g
  | withdrawn {old new : Source} {t : List Exchange}
      {res : Except Fault (Except ConnectorError Unit)} {g' : Ledger} : old.feed ≠ new.feed →
      new.feed = none → Leaving replies grace old g t res g' →
      Applying replies grace g (.updated old new) t res g'
  | stuck {old new : Source} {feed : Feed} {t : List Exchange} {f : Fault} {g' : Ledger} :
      old.feed ≠ new.feed → new.feed = some feed → Leaving replies grace old g t (.error f) g' →
      Applying replies grace g (.updated old new) t (.error f) g'
  | moved {old new : Source} {feed : Feed} {t t' : List Exchange} {left : Except ConnectorError Unit}
      {res : Except Fault (Except ConnectorError Unit)} {g₁ g' : Ledger} : old.feed ≠ new.feed →
      new.feed = some feed → Leaving replies grace old g t (.ok left) g₁ →
      Enrolling replies grace new.id feed g₁ t' res g' →
      Applying replies grace g (.updated old new) (t ++ t')
        (res.map fun entered => left >>= fun _ => entered) g'
  | deleted {s : Source} {t : List Exchange} {res : Except Fault (Except ConnectorError Unit)}
      {g' : Ledger} : Leaving replies grace s g t res g' →
      Applying replies grace g (.deleted s) t res g'

theorem Enrolling.no_fault {f : Fault} (hr : replies.Faultless) :
    ¬ Enrolling replies grace id feed g t (.error f) g' := by
  intro h
  cases h with
  | faulted h => exact h.no_fault hr

theorem Leaving.no_fault {f : Fault} (hr : replies.Faultless) :
    ¬ Leaving replies grace s g t (.error f) g' := by
  intro h
  cases h with
  | counted hp hf h => exact h.no_fault hr

/-- Without faults among the calls there is none in applying a change. -/
theorem Applying.no_fault {f : Fault} (hr : replies.Faultless) :
    ¬ Applying replies grace g change t (.error f) g' := by
  intro h
  generalize hres : (.error f : Except Fault (Except ConnectorError Unit)) = res at h
  cases h with
  | unfed | unmoved => cases hres
  | created hf he =>
    subst hres
    exact he.no_fault hr
  | withdrawn hne hf hl | deleted hl =>
    subst hres
    exact hl.no_fault hr
  | stuck hne hf hl => exact hl.no_fault hr
  | @moved _ _ _ _ _ _ entered _ _ hne hf hl he =>
    cases entered with
    | ok r => cases hres
    | error f => exact he.no_fault hr

theorem settle_eq_self (h : g.isPending id = false) : g.settle id = g := by
  have hne : id ∉ g.pending.map Prod.fst := by
    rintro hid
    obtain ⟨⟨_, feed⟩, hx, rfl⟩ := List.mem_map.mp hid
    exact absurd (isPending_iff.mpr ⟨feed, hx⟩) (by simp [h])
  simp only [settle, filter_key_ne hne]

theorem enrolling_of_run (h : LedgerRuns replies (registerOrPostpone grace id feed) g t res g') :
    Enrolling replies grace id feed g t res g' := by
  obtain ⟨x, t₁, g₁, t₂, hp, hk, rfl⟩ | ⟨f, hp, rfl⟩ := bind h
  · have hr := registering_of_run hp
    cases x with
    | ok u =>
      cases u
      obtain ⟨rfl, rfl, rfl⟩ := pure_iff.mp hk
      simpa using Enrolling.enrolled hr
    | error e =>
      obtain rfl := hr.unchanged (by simp)
      have hk := modifyLedger_bind hk
      obtain ⟨rfl, rfl, rfl⟩ := pure_iff.mp hk
      simpa using Enrolling.postponed hr
  · have hr := registering_of_run hp
    obtain rfl := hr.unchanged (by simp)
    exact .faulted hr

theorem leaving_of_run
    (h : LedgerRuns replies (leave grace (g.isPending s.id) s.feed) (g.settle s.id) t res g') :
    Leaving replies grace s g t res g' := by
  cases hp : g.isPending s.id with
  | true =>
    rw [hp] at h
    obtain ⟨rfl, rfl, rfl⟩ := pure_iff.mp h
    exact .uncounted (.inl hp)
  | false =>
    cases hf : s.feed with
    | none =>
      rw [hp, hf] at h
      obtain ⟨rfl, rfl, rfl⟩ := pure_iff.mp h
      exact .uncounted (.inr hf)
    | some feed =>
      rw [hp, hf, settle_eq_self hp] at h
      exact .counted hp hf (unregistering_of_run h)

theorem applying_of_update {old new : Source}
    (h : LedgerRuns replies (applyUpdated grace old new) g t res g') :
    Applying replies grace g (.updated old new) t res g' := by
  obtain ⟨_, t₀, g₀, t₁, hc, hk, rfl⟩ | ⟨f, hc, -⟩ := bind h
  · obtain ⟨rfl, -, rfl⟩ := refreshCache hc
    by_cases hf : old.feed = new.feed
    · simp only [hf, if_true] at hk
      obtain ⟨rfl, rfl, rfl⟩ := pure_iff.mp hk
      exact .unmoved hf
    · simp only [hf, if_false] at hk
      obtain ⟨left, t₂, g₁, t₃, hl, hn, rfl⟩ | ⟨f, hl, rfl⟩ := bind (settle_bind hk)
      · have hl := leaving_of_run hl
        cases hnew : new.feed with
        | none =>
          rw [hnew] at hn
          obtain ⟨rfl, rfl, rfl⟩ := pure_iff.mp hn
          simpa using Applying.withdrawn hf hnew hl
        | some feed =>
          rw [hnew] at hn
          obtain ⟨entered, t₄, g₂, t₅, he, hret, rfl⟩ | ⟨f, he, rfl⟩ := bind hn
          · have hmoved := Applying.moved hf hnew hl (enrolling_of_run he)
            have hend : t₅ = [] ∧ res = .ok (left >>= fun _ => entered) ∧ g' = g₂ := by
              cases left with
              | ok u => exact pure_iff.mp hret
              | error e => exact pure_iff.mp hret
            obtain ⟨rfl, rfl, rfl⟩ := hend
            simpa [Except.map] using hmoved
          · exact .moved hf hnew hl (enrolling_of_run he)
      · have hl := leaving_of_run hl
        cases hnew : new.feed with
        | none => exact .withdrawn hf hnew hl
        | some feed => exact .stuck hf hnew hl
  · obtain ⟨-, hc, -⟩ := refreshCache hc
    cases hc

theorem applying_of_run (h : LedgerRuns replies (applyChange grace change) g t res g') :
    Applying replies grace g change t res g' := by
  cases change with
  | created s =>
    cases hf : s.feed with
    | none =>
      simp only [applyChange, applyCreated, hf] at h
      obtain ⟨rfl, rfl, rfl⟩ := pure_iff.mp h
      exact .unfed hf
    | some feed =>
      simp only [applyChange, applyCreated, hf] at h
      exact .created hf (enrolling_of_run h)
  | updated old new => exact applying_of_update h
  | deleted s => exact .deleted (leaving_of_run (settle_bind (modifyCache_bind h)))

/-- How the outcome of a change is reported. -/
def report : Except Fault (Except ConnectorError Unit) → Ack
  | .ok (.ok ()) => .ok ()
  | .ok (.error e) => .error (.rejected e.message)
  | .error f => .error (.fault f.reason)

theorem applying_of_report {ack : Except Fault Ack}
    (h : LedgerRuns replies (applyAndReport grace change) g t ack g') :
    ∃ res, ack = .ok (report res) ∧ Applying replies grace g change t res g' := by
  obtain ⟨res, t₁, g₁, t₂, hp, hk, rfl⟩ | ⟨f, hp, -⟩ := bind h
  · obtain ⟨x, hx, hp⟩ := attempt hp
    obtain rfl : res = x := Except.ok.inj hx
    have hend : t₂ = [] ∧ ack = .ok (report res) ∧ g' = g₁ := by
      match res with
      | .ok (.ok ()) | .ok (.error e) | .error f => exact pure_iff.mp hk
    obtain ⟨rfl, rfl, rfl⟩ := hend
    exact ⟨res, rfl, by simpa using applying_of_run (holding hp)⟩
  · obtain ⟨_, hf, -⟩ := attempt hp
    cases hf

/-- What comes of one attempt at each of the given registrations. -/
inductive Retrying (replies : Replies) (grace : Nat) :
    List (String × Feed) → Ledger → List Exchange → Except Fault Unit → Ledger → Prop where
  | nil {g : Ledger} : Retrying replies grace [] g [] (.ok ()) g
  | settled {id : String} {feed : Feed} {rest : List (String × Feed)} {g g₁ g' : Ledger}
      {t t' : List Exchange} {res : Except Fault Unit} :
      Registering replies grace feed g t (.ok (.ok ())) g₁ →
      Retrying replies grace rest (g₁.settle id) t' res g' →
      Retrying replies grace ((id, feed) :: rest) g (t ++ t') res g'
  | kept {id : String} {feed : Feed} {rest : List (String × Feed)} {g g' : Ledger}
      {t t' : List Exchange} {e : ConnectorError} {res : Except Fault Unit} :
      Registering replies grace feed g t (.ok (.error e)) g →
      Retrying replies grace rest g t' res g' →
      Retrying replies grace ((id, feed) :: rest) g (t ++ t') res g'
  | faulted {id : String} {feed : Feed} {rest : List (String × Feed)} {g : Ledger}
      {t : List Exchange} {f : Fault} : Registering replies grace feed g t (.error f) g →
      Retrying replies grace ((id, feed) :: rest) g t (.error f) g

theorem retrying_of_run {waiting : List (String × Feed)} {res : Except Fault Unit}
    (h : LedgerRuns replies (attemptEach grace waiting) g t res g') :
    Retrying replies grace waiting g t res g' := by
  induction waiting generalizing g t with
  | nil =>
    obtain ⟨rfl, rfl, rfl⟩ := pure_iff.mp h
    exact .nil
  | cons x rest ih =>
    obtain ⟨id, feed⟩ := x
    obtain ⟨y, t₁, g₁, t₂, hp, hk, rfl⟩ | ⟨f, hp, rfl⟩ := bind h
    · have hr := registering_of_run hp
      cases y with
      | ok u =>
        cases u
        exact .settled hr (ih (modifyLedger_bind hk))
      | error e =>
        obtain rfl := hr.unchanged (by simp)
        exact .kept hr (ih hk)
    · have hr := registering_of_run hp
      obtain rfl := hr.unchanged (by simp)
      exact .faulted hr

/-- A sweep attempts what waits when it begins, and counts what waits when it ends. -/
theorem retrying_of_sweep {res : Except Fault Nat}
    (h : LedgerRuns replies (sweep grace) g t res g') :
    ∃ end' : Except Fault Unit, res = (end'.map fun _ => g'.pending.length) ∧
      Retrying replies grace g.pending g t end' g' := by
  obtain ⟨_, t₁, g₁, t₂, hp, hk, rfl⟩ | ⟨f, hp, rfl⟩ := bind (ledger_bind h)
  · obtain ⟨rfl, rfl, rfl⟩ := pure_iff.mp (ledger_bind (k := fun g => pure g.pending.length) hk)
    exact ⟨.ok (), rfl, by simpa using retrying_of_run hp⟩
  · exact ⟨.error f, rfl, retrying_of_run hp⟩

/-- What comes of registering data sources one after the other. -/
inductive EnrollingEach (replies : Replies) (grace : Nat) :
    List Source → Ledger → List Exchange → Except Fault Unit → Ledger → Prop where
  | nil {g : Ledger} : EnrollingEach replies grace [] g [] (.ok ()) g
  | unfed {s : Source} {rest : List Source} {g g' : Ledger} {t : List Exchange}
      {res : Except Fault Unit} : s.feed = none → EnrollingEach replies grace rest g t res g' →
      EnrollingEach replies grace (s :: rest) g t res g'
  | fed {s : Source} {feed : Feed} {rest : List Source} {g g₁ g' : Ledger} {t t' : List Exchange}
      {entered : Except ConnectorError Unit} {res : Except Fault Unit} : s.feed = some feed →
      Enrolling replies grace s.id feed g t (.ok entered) g₁ →
      EnrollingEach replies grace rest g₁ t' res g' →
      EnrollingEach replies grace (s :: rest) g (t ++ t') res g'
  | faulted {s : Source} {feed : Feed} {rest : List Source} {g g' : Ledger} {t : List Exchange}
      {f : Fault} : s.feed = some feed → Enrolling replies grace s.id feed g t (.error f) g' →
      EnrollingEach replies grace (s :: rest) g t (.error f) g'

theorem enrollingEach_of_run {sources : List Source} {res : Except Fault Unit}
    (h : LedgerRuns replies (registerPage grace sources) g t res g') :
    EnrollingEach replies grace sources g t res g' := by
  induction sources generalizing g t with
  | nil =>
    obtain ⟨rfl, rfl, rfl⟩ := pure_iff.mp h
    exact .nil
  | cons s rest ih =>
    unfold registerPage at h
    cases hf : s.feed with
    | none =>
      rw [hf] at h
      exact .unfed hf (ih h)
    | some feed =>
      rw [hf] at h
      obtain ⟨entered, t₁, g₁, t₂, he, hk, rfl⟩ | ⟨f, he, rfl⟩ := bind h
      · exact .fed hf (enrolling_of_run he) (ih hk)
      · exact .faulted hf (enrolling_of_run he)

theorem EnrollingEach.no_fault {sources : List Source} {f : Fault} (hr : replies.Faultless) :
    ¬ EnrollingEach replies grace sources g t (.error f) g' := by
  intro h
  generalize hres : (.error f : Except Fault Unit) = res at h
  induction h with
  | nil => cases hres
  | unfed _ _ ih | fed _ _ _ ih => exact ih hres
  | faulted hf h => exact h.no_fault hr

theorem EnrollingEach.append {xs ys : List Source} {g₁ : Ledger} {t' : List Exchange}
    {res : Except Fault Unit} (hx : EnrollingEach replies grace xs g t (.ok ()) g₁)
    (hy : EnrollingEach replies grace ys g₁ t' res g') :
    EnrollingEach replies grace (xs ++ ys) g (t ++ t') res g' := by
  generalize hend : (.ok () : Except Fault Unit) = end' at hx
  induction hx with
  | nil => exact hy
  | unfed hf _ ih => exact .unfed hf (ih hy hend)
  | fed hf he _ ih =>
    rw [List.append_assoc]
    exact .fed hf he (ih hy hend)
  | faulted => cases hend

theorem EnrollingEach.append_unfed {xs ys : List Source}
    (hx : EnrollingEach replies grace xs g t (.ok ()) g') (hy : ∀ s ∈ ys, s.feed = none) :
    EnrollingEach replies grace (xs ++ ys) g t (.ok ()) g' := by
  have hrest : EnrollingEach replies grace ys g' [] (.ok ()) g' := by
    induction ys with
    | nil => exact .nil
    | cons s rest ih =>
      obtain ⟨hs, hrest⟩ := List.forall_mem_cons.mp hy
      exact .unfed hs (ih hrest)
  simpa using hx.append hrest

end Ledger

end SensorBridge
