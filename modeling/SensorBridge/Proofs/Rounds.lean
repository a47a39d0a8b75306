import SensorBridge.Proofs.Sections

/-!
The rounds of the lasting tasks: what the listener has done is one change after the other, each from
taking it to its acknowledgment, and what the retry loop has done is one sweep after the other. A fault
does not end the listener, and it does end the retry loop.
-/
namespace SensorBridge

open Routine

/-- A change that was handled: the work on it, to its end or to its fault. -/
structure Handling where
  change : Change
  ticket : Ticket
  work : Work (Except ConnectorError Unit)

def Handling.deeds (x : Handling) : List Deed :=
  .took x.change x.ticket :: x.work.deeds ++ [.acknowledged x.ticket (Ledger.report x.work.result)]

/-- Where the listener is in its round, after the changes it has handled. It may have been told to end. -/
inductive Listening (grace : Nat) (now : Ledger) (told : Prop) (handled : List Handling) :
    Station → Prop where
  | waiting : Listening grace now told handled ⟨.active (listen grace), [], handled.flatMap Handling.deeds⟩
  | handling {change : Change} {ticket : Ticket} {rest : Routine Bool} {held : List Lock}
      {deeds : List Deed} :
      InSection (applyChange grace change) (concluding ticket)
        (handled.flatMap Handling.deeds ++ [.took change ticket]) now rest held deeds →
      Listening grace now told handled ⟨.active rest, held, deeds⟩
  | concluding {change : Change} {ticket : Ticket} {work : Work (Except ConnectorError Unit)} :
      work.Does (applyChange grace change) →
      Listening grace now told handled ⟨.active (concluding ticket work.result), [],
        handled.flatMap Handling.deeds ++ .took change ticket :: work.deeds⟩
  | ended : told → Listening grace now told handled ⟨.ended, [], handled.flatMap Handling.deeds⟩

/-- Where the retry loop is in its round, after the sweeps it has made. It may have been told to end. -/
inductive Sweeping (settings : ConnectorSettings) (now : Ledger) (told : Prop)
    (sweeps : List (Work Nat)) : Station → Prop where
  | pausing : (∀ w ∈ sweeps, ∃ n, w.result = .ok n) →
      Sweeping settings now told sweeps ⟨.active (retryOnce settings), [], sweeps.flatMap Work.deeds⟩
  | sweeping {rest : Routine Bool} {held : List Lock} {deeds : List Deed} :
      (∀ w ∈ sweeps, ∃ n, w.result = .ok n) →
      InSection (sweep settings.grace) goingOn (sweeps.flatMap Work.deeds) now rest held deeds →
      Sweeping settings now told sweeps ⟨.active rest, held, deeds⟩
  | ended : told → (∀ w ∈ sweeps, ∃ n, w.result = .ok n) →
      Sweeping settings now told sweeps ⟨.ended, [], sweeps.flatMap Work.deeds⟩
  | failed {earlier : List (Work Nat)} {w : Work Nat} {f : Fault} : sweeps = earlier ++ [w] →
      (∀ w ∈ earlier, ∃ n, w.result = .ok n) → w.result = .error f →
      Sweeping settings now told sweeps ⟨.failed f, [], sweeps.flatMap Work.deeds⟩

/-- Both tasks go their rounds, and the ledger is held by one of them at a time. -/
structure Service.Working (settings : ConnectorSettings) (σ : Service) : Prop where
  exclusive : .ledger ∈ (σ.stations .listener).held → .ledger ∉ (σ.stations .retry).held
  listening : ∃ handled : List Handling,
    (∀ x ∈ handled, x.work.Does (applyChange settings.grace x.change)) ∧
    Listening settings.grace σ.memory.ledger (σ.isStopping ∨ σ.isDeserted) handled (σ.stations .listener)
  sweeping : ∃ sweeps : List (Work Nat), (∀ w ∈ sweeps, w.Does (sweep settings.grace)) ∧
    Sweeping settings σ.memory.ledger σ.isStopping sweeps (σ.stations .retry)

section Rounds

variable {β : Type} {body : Routine β} {next : Except Fault β → Routine Bool} {before deeds : List Deed}
  {now now' : Ledger} {rest : Routine Bool} {held : List Lock} {settings : ConnectorSettings}
  {handled : List Handling} {sweeps : List (Work Nat)} {s : Station} {σ τ : Service} {who : Lasting}
  {r : Request} {a : r.Answer} {k : r.Answer → Routine Bool}

/-- Only one who holds the ledger knows how it stands. -/
theorem InSection.elsewhere (h : InSection body next before now rest held deeds)
    (hnow : .ledger ∈ held → now' = now) : InSection body next before now' rest held deeds := by
  cases h with
  | entering => exact .entering
  | within hkeeps habove hruns =>
    obtain rfl := hnow (List.mem_append_right _ List.mem_cons_self)
    exact .within hkeeps habove hruns

theorem Listening.elsewhere {grace : Nat} {told told' : Prop} (h : Listening grace now told handled s)
    (hnow : .ledger ∈ s.held → now' = now) (htold : told → told') :
    Listening grace now' told' handled s := by
  cases h with
  | waiting => exact .waiting
  | handling h => exact .handling (h.elsewhere hnow)
  | concluding h => exact .concluding h
  | ended h => exact .ended (htold h)

theorem Sweeping.elsewhere {told told' : Prop} (h : Sweeping settings now told sweeps s)
    (hnow : .ledger ∈ s.held → now' = now) (htold : told → told') :
    Sweeping settings now' told' sweeps s := by
  cases h with
  | pausing hok => exact .pausing hok
  | sweeping hok h => exact .sweeping hok (h.elsewhere hnow)
  | ended h hok => exact .ended (htold h) hok
  | failed heq hok hf => exact .failed heq hok hf

/-- A task in its section is not at the end of a round. -/
theorem InSection.after {again : Routine Bool} (h : InSection body next before now rest held deeds) :
    Progress.after again rest = .active rest := by
  cases h with
  | entering => rfl
  | @within rest => cases rest <;> rfl

/-- One more answer for the listener. -/
theorem Listening.served {grace : Nat} (hdone : ∀ x ∈ handled, x.work.Does (applyChange grace x.change))
    (h : Listening grace σ.memory.ledger (σ.isStopping ∨ σ.isDeserted) handled (σ.stations .listener))
    (hactive : (σ.stations .listener).progress = .active (.ask r k)) (ha : σ.Answers .listener r a τ) :
    ∃ handled' : List Handling, (∀ x ∈ handled', x.work.Does (applyChange grace x.change)) ∧
      Listening grace τ.memory.ledger (σ.isStopping ∨ σ.isDeserted) handled'
        ⟨.after (listen grace) (k a), (τ.stations .listener).held, (τ.stations .listener).deeds⟩ := by
  generalize hs : σ.stations .listener = s at h hactive
  cases h with
  | waiting =>
    rw [listen_eq] at hactive
    cases hactive
    cases ha with
    | stopped htold =>
      refine ⟨handled, hdone, ?_⟩
      rw [hs]
      exact .ended (htold.imp_right And.right)
    | @nextChange change ticket queue hrun hqueue =>
      refine ⟨handled, hdone, ?_⟩
      rw [Service.seen, Service.setStation]
      dsimp only
      rw [Function.update_self, hs]
      exact .handling .entering
  | @handling change ticket rest held deeds h =>
    cases hactive
    refine ⟨handled, hdone, ?_⟩
    obtain hsection | ⟨w, hw, hnext, hheld, hdeeds⟩ :=
      h.served nested_applyChange (congrArg Station.held hs) (congrArg Station.deeds hs) ha
    · rw [hsection.after]
      exact .handling hsection
    · rw [hnext, hheld, hdeeds, List.append_assoc]
      exact .concluding hw
  | @concluding change ticket work hwork =>
    cases hactive
    cases ha
    have hwaiting : ∀ x : Handling, Listening grace σ.memory.ledger (σ.isStopping ∨ σ.isDeserted)
        (handled ++ [x]) ⟨.active (listen grace), [], handled.flatMap Handling.deeds ++ x.deeds⟩ := by
      intro x
      have hdeeds : (handled ++ [x]).flatMap Handling.deeds = handled.flatMap Handling.deeds ++ x.deeds := by
        rw [List.flatMap_append, List.flatMap_singleton]
      exact hdeeds ▸ .waiting
    refine ⟨handled ++ [⟨change, ticket, work⟩],
      List.forall_mem_append.mpr ⟨hdone, List.forall_mem_singleton.mpr hwork⟩, ?_⟩
    rw [Service.seen, Service.setStation]
    dsimp only
    rw [Function.update_self, hs]
    dsimp only
    rw [List.append_assoc]
    exact hwaiting _
  | ended => cases hactive

/-- One more answer for the retry loop. -/
theorem Sweeping.served (hdone : ∀ w ∈ sweeps, w.Does (sweep settings.grace))
    (h : Sweeping settings σ.memory.ledger σ.isStopping sweeps (σ.stations .retry))
    (hactive : (σ.stations .retry).progress = .active (.ask r k)) (ha : σ.Answers .retry r a τ) :
    ∃ sweeps' : List (Work Nat), (∀ w ∈ sweeps', w.Does (sweep settings.grace)) ∧
      Sweeping settings τ.memory.ledger σ.isStopping sweeps'
        ⟨.after (retryOnce settings) (k a), (τ.stations .retry).held, (τ.stations .retry).deeds⟩ := by
  generalize hs : σ.stations .retry = s at h hactive
  cases h with
  | pausing hok =>
    rw [retryOnce_eq] at hactive
    cases hactive
    cases ha
    refine ⟨sweeps, hdone, ?_⟩
    rw [hs]
    cases hstop : σ.isStopping with
    | true => exact .ended rfl hok
    | false => exact .sweeping hok .entering
  | @sweeping rest held deeds hok h =>
    cases hactive
    obtain hsection | ⟨w, hw, hnext, hheld, hdeeds⟩ :=
      h.served nested_sweep (congrArg Station.held hs) (congrArg Station.deeds hs) ha
    · rw [hsection.after]
      exact ⟨sweeps, hdone, .sweeping hok hsection⟩
    · have hdone' : ∀ v ∈ sweeps ++ [w], v.Does (sweep settings.grace) :=
        List.forall_mem_append.mpr ⟨hdone, List.forall_mem_singleton.mpr hw⟩
      have hdeeds' : sweeps.flatMap Work.deeds ++ w.deeds = (sweeps ++ [w]).flatMap Work.deeds := by
        rw [List.flatMap_append, List.flatMap_singleton]
      refine ⟨sweeps ++ [w], hdone', ?_⟩
      rw [hnext, hheld, hdeeds, hdeeds']
      cases hres : w.result with
      | ok n => exact .pausing (List.forall_mem_append.mpr ⟨hok, List.forall_mem_singleton.mpr ⟨n, hres⟩⟩)
      | error f => exact .failed rfl hok hres
  | ended => cases hactive
  | failed => cases hactive

/-- A task changes the memory only while it holds the ledger. -/
theorem InSection.mem_held {f : Memory → Memory} {k : Memory → Routine Bool}
    (h : InSection body next before now (.ask (.update f) k) held deeds) : .ledger ∈ held := by
  generalize hp : Routine.ask (.update f) k = p at h
  cases h with
  | entering => cases hp
  | within => exact List.mem_append_right _ List.mem_cons_self

theorem Listening.mem_held {grace : Nat} {told : Prop} {f : Memory → Memory} {k : Memory → Routine Bool}
    (h : Listening grace now told handled s) (hactive : s.progress = .active (.ask (.update f) k)) :
    .ledger ∈ s.held := by
  cases h with
  | waiting =>
    rw [listen_eq] at hactive
    cases hactive
  | handling h =>
    cases hactive
    exact h.mem_held
  | concluding | ended => cases hactive

theorem Sweeping.mem_held {told : Prop} {f : Memory → Memory} {k : Memory → Routine Bool}
    (h : Sweeping settings now told sweeps s) (hactive : s.progress = .active (.ask (.update f) k)) :
    .ledger ∈ s.held := by
  cases h with
  | pausing =>
    rw [retryOnce_eq] at hactive
    cases hactive
  | sweeping hok h =>
    cases hactive
    exact h.mem_held
  | ended | failed => cases hactive

theorem Service.Working.served (h : σ.Working settings)
    (hactive : (σ.stations who).progress = .active (.ask r k)) (ha : σ.Answers who r a τ) :
    (τ.proceed settings who (k a)).Working settings := by
  have hstation : (τ.proceed settings who (k a)).stations who =
      ⟨.after (who.routine settings) (k a), (τ.stations who).held, (τ.stations who).deeds⟩ := by
    rw [stations_proceed, if_pos rfl]
  have hother : ∀ other, other ≠ who →
      (τ.proceed settings who (k a)).stations other = σ.stations other := by
    intro other hne
    rw [stations_proceed, if_neg hne, ha.elsewhere hne]
  obtain ⟨-, -, hstopping, hdeserted⟩ := ha.frame
  have hend : (τ.proceed settings who (k a)).isStopping = σ.isStopping := hstopping
  have hend' : (τ.proceed settings who (k a)).isDeserted = σ.isDeserted := hdeserted
  obtain ⟨exclusive, ⟨handled, hdone, hlistening⟩, sweeps, hswept, hsweeping⟩ := h
  cases who with
  | listener =>
    obtain ⟨handled', hdone', hlistening'⟩ := hlistening.served hdone hactive ha
    refine ⟨fun hl => ?_, ⟨handled', hdone', ?_⟩, sweeps, hswept, ?_⟩
    · rw [hstation] at hl
      rw [hother .retry nofun]
      exact (ha.mem_held hl).elim exclusive fun hfree => hfree.1 .retry
    · rw [hstation, hend, hend']
      exact hlistening'
    · rw [hother .retry nofun, hend]
      refine hsweeping.elsewhere (fun hl => ?_) id
      obtain heq | ⟨f, rfl⟩ := ha.memory
      · exact congrArg Memory.ledger heq
      · exact absurd hl (exclusive (hlistening.mem_held hactive))
  | retry =>
    obtain ⟨sweeps', hswept', hsweeping'⟩ := hsweeping.served hswept hactive ha
    refine ⟨fun hl hr => ?_, ⟨handled, hdone, ?_⟩, sweeps', hswept', ?_⟩
    · rw [hstation] at hr
      rw [hother .listener nofun] at hl
      exact (ha.mem_held hr).elim (exclusive hl) fun hfree => hfree.1 .listener hl
    · rw [hother .listener nofun, hend, hend']
      refine hlistening.elsewhere (fun hl => ?_) id
      obtain heq | ⟨f, rfl⟩ := ha.memory
      · exact congrArg Memory.ledger heq
      · exact absurd (hsweeping.mem_held hactive) (exclusive hl)
    · rw [hstation, hend]
      exact hsweeping'

theorem Service.Working.step (h : σ.Working settings) (hstep : σ.Step settings τ) :
    τ.Working settings := by
  obtain ⟨exclusive, ⟨handled, hdone, hlistening⟩, sweeps, hswept, hsweeping⟩ := h
  cases hstep with
  | serve who hactive ha =>
    exact Service.Working.served
      ⟨exclusive, ⟨handled, hdone, hlistening⟩, sweeps, hswept, hsweeping⟩ hactive ha
  | interfere hothers =>
    exact ⟨exclusive, ⟨handled, hdone, hlistening.elsewhere (hothers _) id⟩,
      sweeps, hswept, hsweeping.elsewhere (hothers _) id⟩
  | stop =>
    exact ⟨exclusive, ⟨handled, hdone, hlistening.elsewhere (fun _ => rfl) fun _ => .inl rfl⟩,
      sweeps, hswept, hsweeping.elsewhere (fun _ => rfl) fun _ => rfl⟩
  | desert =>
    exact ⟨exclusive, ⟨handled, hdone, hlistening.elsewhere (fun _ => rfl) fun _ => .inr rfl⟩,
      sweeps, hswept, hsweeping⟩
  | lock | unlock | notify | send | sendClosed | answer =>
    exact ⟨exclusive, ⟨handled, hdone, hlistening⟩, sweeps, hswept, hsweeping⟩

theorem Service.Reachable.working (h : Reachable settings σ) : σ.Working settings := by
  obtain ⟨memory, capacity, hsteps⟩ := h
  induction hsteps with
  | refl =>
    exact {
      exclusive := fun hl => by cases hl
      listening := ⟨[], by simp, .waiting⟩
      sweeping := ⟨[], by simp, .pausing (by simp)⟩ }
  | tail _ hstep ih => exact ih.step hstep

end Rounds

end SensorBridge
