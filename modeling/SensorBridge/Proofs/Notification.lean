import SensorBridge.Proofs.Rounds

/-!
What becomes of the changes that are sent to a connector: they are handled one at a time in the order in
which they came into the channel, and what each sender is told says whether its change was handled.
-/
namespace SensorBridge

open Routine

def Deed.took? : Deed → Option (Change × Ticket)
  | .took change ticket => some (change, ticket)
  | _ => none

def Deed.answered? : Deed → Option (Ticket × Ack)
  | .acknowledged ticket ack => some (ticket, ack)
  | _ => none

/-- The sender was not told how the handling of its change ended. -/
def Ack.Unheard (ack : Ack) : Prop :=
  ack = .error .listenerClosed ∨ ack = .error .ackLost

theorem heard_report {res : Except Fault (Except ConnectorError Unit)} :
    ¬ Ack.Unheard (Ledger.report res) := by
  rintro (h | h) <;> match res with
    | .ok (.ok ()) | .ok (.error e) | .error f => cases h

/-- It neither takes a change nor acknowledges one. -/
def Deed.Silent (d : Deed) : Prop :=
  d.took? = none ∧ d.answered? = none

theorem filterMap_silent {deeds : List Deed} (h : ∀ d ∈ deeds, d.Silent) :
    deeds.filterMap Deed.took? = [] ∧ deeds.filterMap Deed.answered? = [] :=
  ⟨List.filterMap_eq_nil_iff.mpr fun d hd => (h d hd).1,
    List.filterMap_eq_nil_iff.mpr fun d hd => (h d hd).2⟩

theorem silent_section {g : Ledger} {calls : List Exchange} :
    ∀ d ∈ Deed.locked g :: calls.map .called, d.Silent := by
  intro d hd
  obtain rfl | hd := List.mem_cons.mp hd
  · exact ⟨rfl, rfl⟩
  · obtain ⟨x, -, rfl⟩ := List.mem_map.mp hd
    exact ⟨rfl, rfl⟩

theorem silent_work {β : Type} {w : Work β} : ∀ d ∈ w.deeds, d.Silent := by
  intro d hd
  obtain hd | hd := List.mem_append.mp hd
  · exact silent_section d hd
  · obtain rfl := List.mem_singleton.mp hd
    exact ⟨rfl, rfl⟩

theorem Handling.filterMap_deeds (x : Handling) :
    x.deeds.filterMap Deed.took? = [(x.change, x.ticket)] ∧
    x.deeds.filterMap Deed.answered? = [(x.ticket, Ledger.report x.work.result)] := by
  obtain ⟨ht, ha⟩ := filterMap_silent (silent_work (w := x.work))
  rw [deeds, List.cons_append, List.filterMap_cons, List.filterMap_cons, List.filterMap_append,
    List.filterMap_append, ht, ha]
  exact ⟨rfl, rfl⟩

namespace Service

variable {settings : ConnectorSettings} {σ τ : Service} {who : Lasting} {r : Request} {a : r.Answer}

/-- The changes whose handling was begun, in order. -/
def taken (σ : Service) : List (Change × Ticket) :=
  (σ.stations .listener).deeds.filterMap Deed.took?

/-- The acknowledgments that were given, in order. -/
def answered (σ : Service) : List (Ticket × Ack) :=
  (σ.stations .listener).deeds.filterMap Deed.answered?

/-! ### The channel -/

/-- The changes in the channel are those that came into it and were not taken, but for those that were
lost when it was closed. -/
structure Channelled (σ : Service) (lost : List (Change × Ticket)) : Prop where
  entered : σ.entered = σ.taken ++ lost ++ σ.channel.queue
  issued : σ.entered.map (·.2) = List.range σ.channel.issued
  unclosed : σ.channel.isOpen → lost = []
  emptied : σ.channel.isOpen = false → σ.channel.queue = []
  answers : ∀ ticket ack, (ticket, ack) ∈ σ.channel.answers →
    (ticket, ack) ∈ σ.answered ∨ ticket ∈ lost.map (·.2) ∧ ack = .error .ackLost

/-- What an answered request does to the channel. -/
inductive Passes (σ τ : Service) : Prop where
  | nothing : τ.channel = σ.channel → τ.taken = σ.taken → τ.answered = σ.answered → Passes σ τ
  | takes {change : Change} {ticket : Ticket} {queue : List (Change × Ticket)} :
      σ.channel.queue = (change, ticket) :: queue → τ.channel = { σ.channel with queue } →
      τ.taken = σ.taken ++ [(change, ticket)] → τ.answered = σ.answered → Passes σ τ
  | answers {ticket : Ticket} {ack : Ack} :
      τ.channel = { σ.channel with answers := (ticket, ack) :: σ.channel.answers } →
      τ.taken = σ.taken → τ.answered = σ.answered ++ [(ticket, ack)] → Passes σ τ

theorem seen_of_deeds {deeds : List Deed}
    (h : (τ.stations .listener).deeds = (σ.stations .listener).deeds ++ deeds) :
    τ.taken = σ.taken ++ deeds.filterMap Deed.took? ∧
    τ.answered = σ.answered ++ deeds.filterMap Deed.answered? := by
  rw [taken, answered, h, List.filterMap_append, List.filterMap_append]
  exact ⟨rfl, rfl⟩

/-- Only changes that are taken and acknowledgments that are given count. -/
theorem passes_setStation {s : Station} {deeds : List Deed}
    (hs : s.deeds = (σ.stations who).deeds ++ deeds)
    (hsilent : ∀ d ∈ deeds, d.Silent) : Passes σ (σ.setStation who s) := by
  cases who with
  | listener =>
    have hdeeds : ((σ.setStation .listener s).stations .listener).deeds =
        (σ.stations .listener).deeds ++ deeds := by
      rw [stations_setStation, if_pos rfl, hs]
    obtain ⟨ht, ha⟩ := seen_of_deeds hdeeds
    rw [(filterMap_silent hsilent).1, List.append_nil] at ht
    rw [(filterMap_silent hsilent).2, List.append_nil] at ha
    exact .nothing rfl ht ha
  | retry =>
    have hsame : (σ.setStation .retry s).stations .listener = σ.stations .listener := by
      rw [stations_setStation, if_neg nofun]
    exact .nothing rfl (by rw [taken, hsame]; rfl) (by rw [answered, hsame]; rfl)

theorem Answers.passes (h : σ.Answers who r a τ) : Passes σ τ := by
  cases h with
  | call reply =>
    refine passes_setStation rfl fun d hd => ?_
    obtain rfl := List.mem_singleton.mp hd
    exact ⟨rfl, rfl⟩
  | acquire | release =>
    refine passes_setStation rfl fun d hd => ?_
    split at hd
    · obtain rfl := List.mem_singleton.mp hd
      exact ⟨rfl, rfl⟩
    · cases hd
  | @nextChange change ticket queue hrun hqueue =>
    have hdeeds : ((σ.seen .listener [.took change ticket]).stations .listener).deeds =
        (σ.stations .listener).deeds ++ [.took change ticket] := by
      rw [seen, stations_setStation, if_pos rfl]
    obtain ⟨ht, ha⟩ := seen_of_deeds hdeeds
    exact .takes hqueue rfl ht (ha.trans (List.append_nil _))
  | @acknowledge ticket ack =>
    have hdeeds : ((σ.seen .listener [.acknowledged ticket ack]).stations .listener).deeds =
        (σ.stations .listener).deeds ++ [.acknowledged ticket ack] := by
      rw [seen, stations_setStation, if_pos rfl]
    obtain ⟨ht, ha⟩ := seen_of_deeds hdeeds
    exact .answers rfl (ht.trans (List.append_nil _)) ha
  | update | spawn | abort | join | log | pause | stopped => exact .nothing rfl rfl rfl

theorem Channelled.passed {lost : List (Change × Ticket)} (h : σ.Channelled lost) (hp : Passes σ τ)
    (hentered : τ.entered = σ.entered) : τ.Channelled lost := by
  obtain ⟨entered, issued, hlost, hqueue, answers⟩ := h
  cases hp with
  | nothing hc ht ha =>
    refine ⟨?_, ?_, ?_, ?_, ?_⟩
    · rwa [hentered, ht, hc]
    · rwa [hentered, hc]
    · rwa [hc]
    · rwa [hc]
    · rwa [hc, ha]
  | @takes change ticket queue hq hc ht ha =>
    -- a channel that holds changes is open, so that none is lost
    obtain rfl : lost = [] := by
      cases hopen : σ.channel.isOpen with
      | true => exact hlost hopen
      | false =>
        rw [hqueue hopen] at hq
        cases hq
    refine ⟨?_, ?_, ?_, ?_, ?_⟩
    · rw [hentered, entered, ht, hc, hq]
      simp
    · rwa [hentered, hc]
    · rwa [hc]
    · rw [hc]
      intro hclosed
      rw [hqueue hclosed] at hq
      cases hq
    · rwa [hc, ha]
  | @answers ticket ack hc ht ha =>
    refine ⟨?_, ?_, ?_, ?_, ?_⟩
    · rwa [hentered, ht, hc]
    · rwa [hentered, hc]
    · rwa [hc]
    · rwa [hc]
    · rw [hc, ha]
      intro ticket' ack' hmem
      obtain heq | hmem := List.mem_cons.mp hmem
      · exact .inl (heq ▸ List.mem_append_right _ List.mem_cons_self)
      · exact (answers _ _ hmem).imp_left (List.mem_append_left _)

/-- What is in the channel when it is closed is lost. -/
theorem Channelled.closed {lost : List (Change × Ticket)} (h : σ.Channelled lost)
    (hc : τ.channel = σ.channel.closed) (hentered : τ.entered = σ.entered) (ht : τ.taken = σ.taken)
    (ha : τ.answered = σ.answered) : τ.Channelled (lost ++ σ.channel.queue) := by
  obtain ⟨entered, issued, hlost, hqueue, answers⟩ := h
  refine ⟨?_, ?_, ?_, ?_, ?_⟩
  · rw [hentered, entered, ht, hc, Scenario.Channel.closed, List.append_nil, List.append_assoc]
  · rwa [hentered, hc]
  · rw [hc]
    exact nofun
  · rw [hc]
    exact fun _ => rfl
  · rw [hc, ha]
    intro ticket ack hmem
    obtain hmem | hmem := List.mem_append.mp hmem
    · refine (answers _ _ hmem).imp_right (And.imp_left fun hl => ?_)
      rw [List.map_append]
      exact List.mem_append_left _ hl
    · obtain ⟨e, he, heq⟩ := List.mem_map.mp hmem
      cases heq
      refine .inr ⟨?_, rfl⟩
      rw [List.map_append]
      exact List.mem_append_right _ (List.mem_map_of_mem he)

theorem seen_proceed (σ : Service) (settings : ConnectorSettings) (who : Lasting) (rest : Routine Bool) :
    (σ.proceed settings who rest).taken = σ.taken ∧
      (σ.proceed settings who rest).answered = σ.answered := by
  have hdeeds : ((σ.proceed settings who rest).stations .listener).deeds =
      (σ.stations .listener).deeds := by
    rw [stations_proceed]
    split
    · rename_i heq
      rw [heq]
    · rfl
  rw [taken, answered, hdeeds]
  exact ⟨rfl, rfl⟩

theorem Channelled.step {lost : List (Change × Ticket)} (h : σ.Channelled lost)
    (hstep : σ.Step settings τ) : ∃ lost', τ.Channelled lost' := by
  obtain ⟨entered, issued, unclosed, emptied, answers⟩ := id h
  cases hstep with
  | @serve who r k a τ hactive ha =>
    have hpassed := h.passed ha.passes ha.frame.1
    obtain ⟨ht, hans⟩ := seen_proceed τ settings who (k a)
    by_cases hends : who = .listener ∧ (Progress.after (who.routine settings) (k a)).isOver
    · exact ⟨_, hpassed.closed (if_pos hends) rfl ht hans⟩
    · exact ⟨lost, hpassed.passed (.nothing (if_neg hends) ht hans) rfl⟩
  | @send i n change k hn hrest hopen hroom =>
    refine ⟨lost, ?_, ?_, unclosed, fun hclosed => ?_, answers⟩
    · dsimp only
      rw [entered, List.append_assoc]
      rfl
    · dsimp only
      rw [List.map_append, issued, List.range_succ]
      rfl
    · rw [show σ.channel.isOpen = false from hclosed] at hopen
      cases hopen
  | interfere | lock | unlock | stop | notify | sendClosed | answer | desert =>
    exact ⟨lost, entered, issued, unclosed, emptied, answers⟩

/-! ### Those who send -/

/-- How far someone is who sends a change. -/
inductive Stands (σ : Service) : Notifier → Prop where
  | sending {change : Change} : Stands σ ⟨change, Scenario.Stage.notify change, none⟩
  | waiting {change : Change} {ticket : Ticket} : (change, ticket) ∈ σ.entered →
      Stands σ ⟨change, .ask (.answer ticket) .done, some ticket⟩
  | told {change : Change} {ticket : Ticket} {ack : Ack} : (change, ticket) ∈ σ.entered →
      (ticket, ack) ∈ σ.channel.answers → Stands σ ⟨change, .done ack, some ticket⟩
  | refused {change : Change} : Stands σ ⟨change, .done (.error .listenerClosed), none⟩

theorem notify_eq {change : Change} : Scenario.Stage.notify change = .ask (.send change) fun
    | none => .done (.error .listenerClosed)
    | some ticket => .ask (.answer ticket) .done := by
  refine congrArg (Routine.ask (.send change)) (funext fun ticket => ?_)
  cases ticket <;> rfl

theorem Stands.mono {n : Notifier} (h : σ.Stands n) (hentered : ∀ e ∈ σ.entered, e ∈ τ.entered)
    (hanswers : ∀ e ∈ σ.channel.answers, e ∈ τ.channel.answers) : τ.Stands n := by
  cases h with
  | sending => exact .sending
  | waiting he => exact .waiting (hentered _ he)
  | told he ha => exact .told (hentered _ he) (hanswers _ ha)
  | refused => exact .refused

theorem Passes.mem_answers (h : Passes σ τ) {e : Ticket × Ack} (he : e ∈ σ.channel.answers) :
    e ∈ τ.channel.answers := by
  cases h with
  | nothing hc | takes _ hc => rwa [hc]
  | answers hc =>
    rw [hc]
    exact List.mem_cons_of_mem _ he

theorem mem_answers_proceed {rest : Routine Bool} {e : Ticket × Ack} (he : e ∈ σ.channel.answers) :
    e ∈ (σ.proceed settings who rest).channel.answers := by
  dsimp only [proceed]
  split
  · exact List.mem_append_left _ he
  · exact he

/-- Who has yet to send has no number, and is refused or goes on to wait. -/
theorem Stands.of_send {n : Notifier} {change : Change} {k : Option Ticket → Routine Ack} (h : σ.Stands n)
    (hrest : n.rest = .ask (.send change) k) : n.change = change ∧ n.ticket = none ∧
      k none = .done (.error .listenerClosed) ∧ ∀ ticket, k (some ticket) = .ask (.answer ticket) .done := by
  cases h with
  | sending =>
    rw [notify_eq] at hrest
    cases hrest
    exact ⟨rfl, rfl, rfl, fun _ => rfl⟩
  | waiting | told | refused => cases hrest

/-- One of those who send comes further. -/
theorem stands_set {i : Nat} {n : Notifier} (h : ∀ n ∈ σ.notifiers, σ.Stands n)
    (hset : τ.notifiers = σ.notifiers.set i n) (hentered : ∀ e ∈ σ.entered, e ∈ τ.entered)
    (hanswers : ∀ e ∈ σ.channel.answers, e ∈ τ.channel.answers) (hn : τ.Stands n) :
    ∀ n ∈ τ.notifiers, τ.Stands n := by
  intro n' hn'
  rw [hset] at hn'
  obtain hn' | rfl := List.mem_or_eq_of_mem_set hn'
  · exact (h n' hn').mono hentered hanswers
  · exact hn

theorem stands_step (h : ∀ n ∈ σ.notifiers, σ.Stands n) (hstep : σ.Step settings τ) :
    ∀ n ∈ τ.notifiers, τ.Stands n := by
  cases hstep with
  | @serve who r k a τ hactive ha =>
    obtain ⟨hentered, hnotifiers, -⟩ := ha.frame
    intro n hn
    have hn' : n ∈ σ.notifiers := hnotifiers ▸ hn
    refine (h n hn').mono (fun e he => ?_) fun e he => mem_answers_proceed (ha.passes.mem_answers he)
    rw [← hentered] at he
    exact he
  | interfere | lock | unlock | stop | desert => exact fun n hn => (h n hn).mono (fun _ => id) fun _ => id
  | notify change =>
    intro n hn
    obtain hn | hn := List.mem_append.mp hn
    · exact (h n hn).mono (fun _ => id) fun _ => id
    · obtain rfl := List.mem_singleton.mp hn
      exact .sending
  | @send i n change k hn hrest hopen hroom =>
    obtain ⟨hchange, -, -, hk⟩ := (h n (List.mem_of_getElem? hn)).of_send hrest
    refine stands_set h rfl (fun _ he => List.mem_append_left _ he) (fun _ => id) ?_
    rw [hchange, hk]
    exact .waiting (List.mem_append_right _ List.mem_cons_self)
  | @sendClosed i n change k hn hrest hclosed =>
    obtain ⟨-, hticket, hk, -⟩ := (h n (List.mem_of_getElem? hn)).of_send hrest
    refine stands_set h rfl (fun _ => id) (fun _ => id) ?_
    rw [hticket, hk]
    exact .refused
  | @answer i n ticket k ack hn hrest hack =>
    refine stands_set h rfl (fun _ => id) (fun _ => id) ?_
    cases h n (List.mem_of_getElem? hn) with
    | waiting he =>
      cases hrest
      obtain ⟨before, after, heq, -⟩ := List.lookup_eq_some_iff.mp hack
      exact .told he (heq ▸ List.mem_append_right _ List.mem_cons_self)
    | sending =>
      rw [notify_eq] at hrest
      cases hrest
    | told | refused => cases hrest

/-! ### What senders are told -/

/-- The listener and those who send to it, after the changes it has handled. -/
structure Attends (settings : ConnectorSettings) (σ : Service) (handled : List Handling) : Prop where
  /-- Each of them was handled to its end or to its fault. -/
  complete : ∀ x ∈ handled, x.work.Does (applyChange settings.grace x.change)
  /-- They were handled one after the other, and at most one more is under way. -/
  oneByOne : ∃ current, (σ.stations .listener).deeds = handled.flatMap Handling.deeds ++ current ∧
    (current.filterMap Deed.took?).length ≤ 1 ∧ current.filterMap Deed.answered? = []
  /-- Changes are taken in the order in which they came into the channel, and each at most once. -/
  inOrder : σ.taken <+: σ.entered
  once : (σ.taken.map (·.2)).Nodup
  /-- A sender is told how its change went, and then that was handled; or that the listener was closed or
  the acknowledgment lost, and then its handling was never begun. -/
  told : ∀ n ∈ σ.notifiers, ∀ ack, n.rest = .done ack →
    (¬ ack.Unheard ∧ ∃ x ∈ handled,
      n.ticket = some x.ticket ∧ n.change = x.change ∧ ack = Ledger.report x.work.result) ∨
    (ack.Unheard ∧ ∀ e ∈ σ.taken, n.ticket ≠ some e.2)
  /-- However the handling of a change goes, the listener goes on until it is told to end, -/
  goesOn : (∃ rest, (σ.stations .listener).progress = .active rest) ∨ σ.isStopping ∨ σ.isDeserted
  /-- comes to acknowledge what it has taken, and then waits for the next change, holding nothing. -/
  comes : ∀ rest, (σ.stations .listener).progress = .active rest →
    rest = listen settings.grace ∧ (σ.stations .listener).held = [] ∨
    ∃ e, σ.taken = handled.map (fun x => (x.change, x.ticket)) ++ [e] ∧
      rest.Comes fun r => ∃ ack, r = .acknowledge e.2 ack
  /-- Nothing keeps it but a lock that another task holds and an empty channel. -/
  able : ∀ r k, (σ.stations .listener).progress = .active (.ask r k) →
    σ.MayGoOn .listener r ∨ r = .nextChange ∧ σ.channel.queue = []

section Telling

variable {handled : List Handling} {grace : Nat} {now : Ledger} {ended : Prop} {s : Station}

theorem filterMap_handled : (handled.flatMap Handling.deeds).filterMap Deed.took? =
      handled.map (fun x => (x.change, x.ticket)) ∧
    (handled.flatMap Handling.deeds).filterMap Deed.answered? =
      handled.map fun x => (x.ticket, Ledger.report x.work.result) := by
  induction handled with
  | nil => exact ⟨rfl, rfl⟩
  | cons x rest ih =>
    rw [List.flatMap_cons, List.filterMap_append, List.filterMap_append, x.filterMap_deeds.1,
      x.filterMap_deeds.2, ih.1, ih.2]
    exact ⟨rfl, rfl⟩

theorem oneByOne_of_listening (h : Listening grace now ended handled s) :
    ∃ current, s.deeds = handled.flatMap Handling.deeds ++ current ∧
      (current.filterMap Deed.took?).length ≤ 1 ∧ current.filterMap Deed.answered? = [] := by
  -- what follows the taking of a change is silent up to the acknowledgment
  have hcurrent : ∀ {change ticket more}, (∀ d ∈ more, d.Silent) →
      ((Deed.took change ticket :: more).filterMap Deed.took?).length ≤ 1 ∧
      (Deed.took change ticket :: more).filterMap Deed.answered? = [] := by
    intro change ticket more hmore
    obtain ⟨ht, ha⟩ := filterMap_silent hmore
    rw [List.filterMap_cons, List.filterMap_cons, ht, ha]
    exact ⟨Nat.le_refl 1, rfl⟩
  cases h with
  | waiting | ended => exact ⟨[], (List.append_nil _).symm, Nat.zero_le 1, rfl⟩
  | handling h =>
    cases h with
    | entering => exact ⟨_, rfl, hcurrent (List.forall_mem_nil _)⟩
    | within => exact ⟨_, (List.append_cons ..).symm, hcurrent silent_section⟩
  | concluding => exact ⟨_, rfl, hcurrent silent_work⟩

theorem comes_concluding {ticket : Ticket} (res : Except Fault (Except ConnectorError Unit)) :
    (concluding ticket res).Comes fun r => ∃ ack, r = .acknowledge ticket ack :=
  .inl ⟨_, rfl⟩

theorem filterMap_taking {change : Change} {ticket : Ticket} {more : List Deed}
    (hmore : ∀ d ∈ more, d.Silent) :
    (handled.flatMap Handling.deeds ++ .took change ticket :: more).filterMap Deed.took? =
      handled.map (fun x => (x.change, x.ticket)) ++ [(change, ticket)] := by
  rw [List.filterMap_append, filterMap_handled.1, List.filterMap_cons, (filterMap_silent hmore).1]
  rfl

theorem comes_of_listening (h : Listening grace now ended handled s) {rest : Routine Bool}
    (hactive : s.progress = .active rest) : rest = listen grace ∧ s.held = [] ∨
    ∃ e, s.deeds.filterMap Deed.took? = handled.map (fun x => (x.change, x.ticket)) ++ [e] ∧
      rest.Comes fun r => ∃ ack, r = .acknowledge e.2 ack := by
  cases h with
  | waiting =>
    cases hactive
    exact .inl ⟨rfl, rfl⟩
  | @handling change ticket rest held deeds h =>
    cases hactive
    refine .inr ⟨(change, ticket), ?_⟩
    cases h with
    | entering =>
      exact ⟨filterMap_taking (List.forall_mem_nil _),
        .inr fun _ => comes_inside (.inr comes_concluding)⟩
    | within =>
      refine ⟨?_, comes_inside (.inr comes_concluding)⟩
      rw [← List.append_cons]
      exact filterMap_taking silent_section
  | concluding =>
    cases hactive
    exact .inr ⟨_, filterMap_taking silent_work, comes_concluding _⟩
  | ended => cases hactive

theorem goesOn_of_listening (h : Listening grace now ended handled s) :
    (∃ rest, s.progress = .active rest) ∨ ended := by
  cases h with
  | waiting | handling | concluding => exact .inl ⟨_, rfl⟩
  | ended htold => exact .inr htold

theorem able_of_listening
    (h : Listening grace now ended handled (σ.stations .listener)) {k : r.Answer → Routine Bool}
    (hactive : (σ.stations .listener).progress = .active (.ask r k)) :
    σ.MayGoOn .listener r ∨ r = .nextChange ∧ σ.channel.queue = [] := by
  generalize hs : σ.stations .listener = s at h hactive
  cases h with
  | waiting =>
    rw [listen_eq] at hactive
    cases hactive
    cases hstop : σ.isStopping with
    | true => exact .inl (.inl ⟨none, σ, .stopped (.inl hstop)⟩)
    | false =>
      cases hqueue : σ.channel.queue with
      | nil => exact .inr ⟨rfl, rfl⟩
      | cons e queue => exact .inl (.inl ⟨some e, _, .nextChange hstop hqueue⟩)
  | handling h =>
    cases hactive
    exact .inl (h.mayGoOn (congrArg Station.held hs))
  | concluding =>
    cases hactive
    exact .inl (.inl ⟨(), _, .acknowledge⟩)
  | ended => cases hactive

end Telling

theorem Reachable.channelled (h : Reachable settings σ) : ∃ lost, σ.Channelled lost := by
  obtain ⟨memory, capacity, hsteps⟩ := h
  induction hsteps with
  | refl => exact ⟨[], rfl, rfl, fun _ => rfl, nofun, nofun⟩
  | tail _ hstep ih =>
    obtain ⟨lost, h⟩ := ih
    exact h.step hstep

theorem Reachable.stands (h : Reachable settings σ) : ∀ n ∈ σ.notifiers, σ.Stands n := by
  obtain ⟨memory, capacity, hsteps⟩ := h
  induction hsteps with
  | refl => exact List.forall_mem_nil _
  | tail _ hstep ih => exact stands_step ih hstep

/-- Every change in the channel has a number of its own. -/
theorem Channelled.nodup {lost : List (Change × Ticket)} (h : σ.Channelled lost) :
    (σ.entered.map (·.2)).Nodup :=
  h.issued ▸ List.nodup_range

theorem Channelled.told {lost : List (Change × Ticket)} {handled : List Handling} {n : Notifier} {ack : Ack}
    (h : σ.Channelled lost)
    (htaken : ∀ x ∈ handled, (x.change, x.ticket) ∈ σ.taken)
    (hanswered : σ.answered = handled.map fun x => (x.ticket, Ledger.report x.work.result))
    (hn : σ.Stands n) (hdone : n.rest = .done ack) :
    (¬ ack.Unheard ∧ ∃ x ∈ handled,
      n.ticket = some x.ticket ∧ n.change = x.change ∧ ack = Ledger.report x.work.result) ∨
    (ack.Unheard ∧ ∀ e ∈ σ.taken, n.ticket ≠ some e.2) := by
  cases hn with
  | @told change ticket ack' hentered hans =>
    cases hdone
    obtain hans | ⟨hlost, rfl⟩ := h.answers _ _ hans
    · rw [hanswered] at hans
      obtain ⟨x, hx, heq⟩ := List.mem_map.mp hans
      obtain ⟨rfl, rfl⟩ := Prod.mk.inj heq
      have hentered' : (x.change, x.ticket) ∈ σ.entered := by
        rw [h.entered]
        exact List.mem_append_left _ (List.mem_append_left _ (htaken x hx))
      obtain ⟨rfl, -⟩ := Prod.mk.inj (List.inj_on_of_nodup_map h.nodup hentered hentered' rfl)
      exact .inl ⟨heard_report, x, hx, rfl, rfl, rfl⟩
    · refine .inr ⟨.inr rfl, fun e he heq => ?_⟩
      have hnodup := h.nodup
      rw [h.entered, List.map_append, List.map_append] at hnodup
      have hdisjoint := List.disjoint_of_nodup_append (List.nodup_append.mp hnodup).1
      exact hdisjoint (List.mem_map_of_mem he) (Option.some.inj heq ▸ hlost)
  | refused =>
    cases hdone
    exact .inr ⟨.inl rfl, fun e _ => nofun⟩
  | sending =>
    rw [notify_eq] at hdone
    cases hdone
  | waiting => cases hdone

/-- However senders, the listener, a shutdown and other tasks follow on each other, and however calls end,
changes are handled in order and at most once, and senders are told what became of theirs. -/
theorem attends_of_reachable (h : Reachable settings σ) : ∃ handled, σ.Attends settings handled := by
  obtain ⟨handled, complete, hlistening⟩ := h.working.listening
  obtain ⟨lost, hchannel⟩ := h.channelled
  obtain ⟨current, hdeeds, htook, hans⟩ := oneByOne_of_listening hlistening
  have hbegins : σ.taken <+: σ.entered := by
    rw [hchannel.entered, List.append_assoc]
    exact List.prefix_append _ _
  have htaken : ∀ x ∈ handled, (x.change, x.ticket) ∈ σ.taken := by
    intro x hx
    rw [taken, hdeeds, List.filterMap_append, filterMap_handled.1]
    exact List.mem_append_left _ (List.mem_map_of_mem hx)
  have hanswered : σ.answered = handled.map fun x => (x.ticket, Ledger.report x.work.result) := by
    rw [answered, hdeeds, List.filterMap_append, filterMap_handled.2, hans, List.append_nil]
  exact ⟨handled, {
    complete
    oneByOne := ⟨current, hdeeds, htook, hans⟩
    inOrder := hbegins
    once := hchannel.nodup.sublist (hbegins.sublist.map _)
    told := fun n hn ack => hchannel.told htaken hanswered (h.stands n hn)
    goesOn := goesOn_of_listening hlistening
    comes := fun rest => comes_of_listening hlistening
    able := fun r k => able_of_listening hlistening }⟩

/-- One was told that its change was handled, another one that it came after the stop. -/
def visitors : List Notifier :=
  let change := Change.created { resource := "r" }
  [⟨change, .done (.ok ()), some 0⟩, ⟨change, .done (.error .listenerClosed), none⟩]

theorem exists_reachable_visitors : ∃ σ, Reachable {} σ ∧ σ.notifiers = visitors :=
  ⟨_, ⟨default, 1,
    .head (.notify _ rfl) <| .head (.send (i := 0) rfl rfl rfl (by decide)) <|
    .head (.serve .listener rfl (.nextChange rfl rfl)) <|
    .head (.serve .listener rfl (.acquire ⟨fun who => by cases who <;> exact List.not_mem_nil,
      List.not_mem_nil⟩)) <|
    .head (.serve .listener rfl .release) <| .head (.serve .listener rfl .acknowledge) <|
    .head (.answer (i := 0) rfl rfl rfl) <| .head (.notify _ rfl) <| .head .stop <|
    .head (.serve .listener rfl (.stopped (.inl rfl))) <|
    .head (.sendClosed (i := 1) rfl rfl rfl) .refl⟩, rfl⟩

theorem attends_visitors : ∃ σ handled,
    Reachable {} σ ∧ σ.notifiers = visitors ∧ σ.Attends {} handled := by
  obtain ⟨σ, hσ, hvisitors⟩ := exists_reachable_visitors
  obtain ⟨handled, hattends⟩ := attends_of_reachable hσ
  exact ⟨σ, handled, hσ, hvisitors, hattends⟩

end Service

end SensorBridge
