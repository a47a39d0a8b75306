import SensorBridge.Proofs.Rounds

/-!
How long the retry loop lasts: every sweep attempts all that was pending when it took the ledger, and the
loop goes on to the next sweep unless a call of a sweep failed without a reply.
-/
namespace SensorBridge

open Routine

namespace Service

variable {settings : ConnectorSettings} {σ τ : Service} {who : Lasting} {sweeps : List (Work Nat)}
  {s : Station} {now : Ledger} {told : Prop}

/-- The retry loop after the sweeps it has made. -/
structure Endures (settings : ConnectorSettings) (σ : Service) (sweeps : List (Work Nat)) : Prop where
  /-- They were made one after the other, and the ledger is held during the one that is under way. -/
  oneByOne : ∃ current, (σ.stations .retry).deeds = sweeps.flatMap Work.deeds ++ current ∧
    (current = [] ∨ .ledger ∈ (σ.stations .retry).held)
  /-- Each attempted all that was pending when it took the ledger, to the end or to a fault. -/
  attempts : ∀ w ∈ sweeps, ∃ end', w.result = end'.map (fun _ => w.after.pending.length) ∧
    Ledger.Retrying .any settings.grace w.since.pending w.since w.calls end' w.after
  /-- Before it is told to end, the loop goes on if and only if no call of a sweep failed without a reply. -/
  goesOn : σ.isStopping = false → ((∃ rest, (σ.stations .retry).progress = .active rest) ↔
    ∀ w ∈ sweeps, ∀ x ∈ w.calls, ¬ x.Faulted)
  /-- Then it comes to the next sweep at the end of a pause, or to the end of the sweep under way. -/
  comes : ∀ rest, (σ.stations .retry).progress = .active rest →
    (∃ k, rest = .ask (.pause settings.retryInterval) k ∧ (k false).Comes (· = .acquire .ledger) ∧
      (σ.stations .retry).held = []) ∨
    rest.Comes (· = .release .ledger)
  /-- Nothing keeps it but a lock that another task holds. -/
  able : ∀ r k, (σ.stations .retry).progress = .active (.ask r k) → σ.MayGoOn .retry r

theorem comes_goingOn {α : Type} {p : Routine α} :
    (inside goingOn p).Comes (· = .release .ledger) :=
  comes_inside (.inl rfl)

theorem oneByOne_of_sweeping (h : Sweeping settings now told sweeps s) :
    ∃ current, s.deeds = sweeps.flatMap Work.deeds ++ current ∧ (current = [] ∨ .ledger ∈ s.held) := by
  cases h with
  | pausing | ended | failed => exact ⟨[], (List.append_nil _).symm, .inl rfl⟩
  | sweeping hok h =>
    cases h with
    | entering => exact ⟨[], (List.append_nil _).symm, .inl rfl⟩
    | within => exact ⟨_, rfl, .inr (List.mem_append_right _ List.mem_cons_self)⟩

/-- A sweep comes to its end if none of its calls failed without a reply. -/
theorem ok_iff {w : Work Nat} (h : w.Does (sweep settings.grace)) :
    (∃ n, w.result = .ok n) ↔ ∀ x ∈ w.calls, ¬ x.Faulted := by
  have hfaults := nested_sweep.faults_iff h
  cases hres : w.result with
  | ok n =>
    refine ⟨fun _ x hx hfaulted => ?_, fun _ => ⟨n, rfl⟩⟩
    obtain ⟨f, hf⟩ := hfaults.mpr ⟨x, hx, hfaulted⟩
    rw [hres] at hf
    cases hf
  | error f =>
    obtain ⟨x, hx, hfaulted⟩ := hfaults.mp ⟨f, hres⟩
    exact ⟨nofun, fun h => absurd hfaulted (h x hx)⟩

theorem active_iff_of_sweeping (hdone : ∀ w ∈ sweeps, w.Does (sweep settings.grace))
    (h : Sweeping settings now told sweeps s) (htold : ¬ told) :
    (∃ rest, s.progress = .active rest) ↔ ∀ w ∈ sweeps, ∀ x ∈ w.calls, ¬ x.Faulted := by
  have hactive : (∀ w ∈ sweeps, ∃ n, w.result = .ok n) → ∀ w ∈ sweeps, ∀ x ∈ w.calls, ¬ x.Faulted :=
    fun hok w hw => (ok_iff (hdone w hw)).mp (hok w hw)
  cases h with
  | pausing hok | sweeping hok => exact ⟨fun _ => hactive hok, fun _ => ⟨_, rfl⟩⟩
  | ended h => exact absurd h htold
  | @failed earlier w f heq hok hres =>
    refine ⟨nofun, fun hno => ?_⟩
    have hw : w ∈ sweeps := heq ▸ List.mem_append_right _ List.mem_cons_self
    obtain ⟨n, hn⟩ := (ok_iff (hdone w hw)).mpr (hno w hw)
    rw [hres] at hn
    cases hn

theorem comes_of_sweeping (h : Sweeping settings now told sweeps s) {rest : Routine Bool}
    (hactive : s.progress = .active rest) :
    (∃ k, rest = .ask (.pause settings.retryInterval) k ∧ (k false).Comes (· = .acquire .ledger) ∧
      s.held = []) ∨
    rest.Comes (· = .release .ledger) := by
  cases h with
  | pausing =>
    cases hactive
    exact .inl ⟨_, retryOnce_eq, .inl rfl, rfl⟩
  | sweeping hok h =>
    cases hactive
    cases h with
    | entering => exact .inr (.inr fun _ => comes_goingOn)
    | within => exact .inr comes_goingOn
  | ended | failed => cases hactive

theorem able_of_sweeping (h : Sweeping settings now told sweeps (σ.stations .retry)) {r : Request}
    {k : r.Answer → Routine Bool} (hactive : (σ.stations .retry).progress = .active (.ask r k)) :
    σ.MayGoOn .retry r := by
  generalize hs : σ.stations .retry = s at h hactive
  cases h with
  | pausing =>
    rw [retryOnce_eq] at hactive
    cases hactive
    exact .inl ⟨_, σ, .pause⟩
  | sweeping hok h =>
    cases hactive
    exact h.mayGoOn (congrArg Station.held hs)
  | ended | failed => cases hactive

/-- Whatever else happens, and however calls end, the retry loop goes on from sweep to sweep up to the
first call of a sweep that fails without a reply. -/
theorem endures_of_reachable (h : Reachable settings σ) : ∃ sweeps, σ.Endures settings sweeps := by
  obtain ⟨sweeps, hdone, hsweeping⟩ := h.working.sweeping
  exact ⟨sweeps, {
    oneByOne := oneByOne_of_sweeping hsweeping
    attempts := fun w hw => Ledger.retrying_of_sweep (hdone w hw)
    goesOn := fun hstop => active_iff_of_sweeping hdone hsweeping (by simp [hstop])
    comes := fun rest => comes_of_sweeping hsweeping
    able := fun r k => able_of_sweeping hsweeping }⟩

/-! ### One sweep over one registration -/

def waiting : String × Feed := ("s", { url := "mqtt://a", topic := "t" })

def outage : Memory :=
  ⟨{ pending := [waiting] }, [], default⟩

/-- After a sweep whose only call has failed, with a reply or without. -/
structure Swept (reply : Except Fault BrokerError) (σ : Service) : Prop where
  reachable : Reachable {} σ
  unstopped : σ.isStopping = false
  pending : σ.memory.ledger.pending = [waiting]
  deeds : (σ.stations .retry).deeds = [.locked outage.ledger,
    .called ⟨.connect waiting.2, reply.map .error⟩, .unlocked outage.ledger]
  progress : (σ.stations .retry).progress = .after (retryOnce {}) (goingOn (reply.map fun _ => 1))

theorem exists_swept (reply : Except Fault BrokerError) : ∃ σ, Swept reply σ := by
  have hfree : ∀ rest, ((begun {} outage 1).proceed {} .retry rest).IsFree .ledger := fun _ =>
    ⟨fun who => by cases who <;> exact List.not_mem_nil, List.not_mem_nil⟩
  cases reply with
  | ok e =>
    exact ⟨_, ⟨outage, 1,
      .head (.serve .retry rfl .pause) <| .head (.serve .retry rfl (.acquire (hfree _))) <|
      .head (.serve .retry rfl .update) <| .head (.serve .retry rfl .update) <|
      .head (.serve .retry rfl (.call (c := .connect waiting.2) (.ok (.error e)))) <|
      .head (.serve .retry rfl .update) <| .head (.serve .retry rfl .release) .refl⟩, rfl, rfl, rfl, rfl⟩
  | error f =>
    exact ⟨_, ⟨outage, 1,
      .head (.serve .retry rfl .pause) <| .head (.serve .retry rfl (.acquire (hfree _))) <|
      .head (.serve .retry rfl .update) <| .head (.serve .retry rfl .update) <|
      .head (.serve .retry rfl (.call (c := .connect waiting.2) (.error f))) <|
      .head (.serve .retry rfl .release) .refl⟩, rfl, rfl, rfl, rfl⟩

/-- With a reply, the loop is back at its pause. -/
theorem endures_swept : ∃ σ sweeps, Reachable {} σ ∧
    (σ.stations .retry).progress = .active (retryOnce {}) ∧ σ.Endures {} sweeps := by
  obtain ⟨σ, hσ⟩ := exists_swept (.ok (.client "no"))
  obtain ⟨sweeps, hendures⟩ := endures_of_reachable hσ.reachable
  exact ⟨σ, sweeps, hσ.reachable, hσ.progress, hendures⟩

/-- A task that has ended does nothing more. -/
theorem station_of_isOver (h : (σ.stations who).progress.isOver)
    (hsteps : Relation.ReflTransGen (Step · settings) σ τ) : τ.stations who = σ.stations who := by
  induction hsteps with
  | refl => rfl
  | tail _ hstep ih =>
    refine Eq.trans ?_ ih
    rw [← ih] at h
    cases hstep with
    | @serve who' r k a τ hactive ha =>
      have hne : who ≠ who' := by
        rintro rfl
        rw [hactive] at h
        cases h
      rw [stations_proceed, if_neg hne, ha.elsewhere hne]
    | _ => rfl

/-- Without a reply there is no other sweep, although a registration is pending. -/
theorem sweep_fault_ends_retries : ∃ σ, Reachable {} σ ∧ σ.isStopping = false ∧
    σ.memory.ledger.pending = [waiting] ∧
    ∀ τ, Relation.ReflTransGen (Step · {}) σ τ → (τ.stations .retry).deeds = [.locked outage.ledger,
      .called ⟨.connect waiting.2, .error ⟨none⟩⟩, .unlocked outage.ledger] := by
  obtain ⟨σ, hσ⟩ := exists_swept (.error ⟨none⟩)
  refine ⟨σ, hσ.reachable, hσ.unstopped, hσ.pending, fun τ hsteps => ?_⟩
  have hover : (σ.stations .retry).progress.isOver := by
    rw [hσ.progress]
    rfl
  rw [station_of_isOver hover hsteps]
  exact hσ.deeds

end Service

end SensorBridge
