import SensorBridge.Proofs.Outages

/-!
How a session tells that its connection was lost, and that it is back. One count of failures says whether
a loss was reported already and how long to wait before the next attempt. A DISCONNECT of the broker is
reported whatever the count, and what still arrives after it may set the count to zero, so that one outage
may be reported more than once.
-/
namespace SensorBridge

namespace SessionEvent

def isLost : SessionEvent → Bool
  | .lost _ => true
  | _ => false

def isConnected : SessionEvent → Bool
  | .connected _ => true
  | _ => false

/-- Losses and reconnects come in turns. `up` says which one is due. -/
def alternate : Bool → List SessionEvent → Bool
  | _, [] => true
  | up, .message _ :: rest => alternate up rest
  | up, .lost _ :: rest => up && alternate false rest
  | up, .connected _ :: rest => !up && alternate true rest

/-- Whether the connection is up after the events, as they tell it. -/
def upAfter : Bool → List SessionEvent → Bool
  | up, [] => up
  | up, .message _ :: rest => upAfter up rest
  | _, .lost _ :: rest => upAfter false rest
  | _, .connected _ :: rest => upAfter true rest

variable {up : Bool} {es es' : List SessionEvent}

theorem upAfter_append : upAfter up (es ++ es') = upAfter (upAfter up es) es' := by
  induction es generalizing up with
  | nil => rfl
  | cons e es ih => cases e <;> exact ih

theorem alternate_append :
    alternate up (es ++ es') = (alternate up es && alternate (upAfter up es) es') := by
  induction es generalizing up with
  | nil => rfl
  | cons e es ih =>
    cases e with
    | message m => exact ih
    | lost reason => simp only [List.cons_append, alternate, upAfter, ih, Bool.and_assoc]
    | connected present => simp only [List.cons_append, alternate, upAfter, ih, Bool.and_assoc]

/-- Without a reconnect there is room for one loss, and for none if the connection is lost. -/
theorem alternate_iff_countP (hconnected : ∀ e ∈ es, e.isConnected = false) :
    alternate up es = true ↔ es.countP isLost ≤ up.toNat := by
  induction es generalizing up with
  | nil => exact iff_of_true rfl (Nat.zero_le _)
  | cons e es ih =>
    obtain ⟨he, hes⟩ := List.forall_mem_cons.mp hconnected
    cases e with
    | message m => exact ih hes
    | lost reason =>
      have hrest : alternate false es = true ↔ es.countP isLost ≤ 0 := ih hes
      rw [alternate, List.countP_cons_of_pos rfl]
      cases up with
      | false => exact iff_of_false nofun (Nat.not_succ_le_zero _)
      | true => exact hrest.trans Nat.succ_le_succ_iff.symm
    | connected present => cases he

end SessionEvent

namespace Mqtt

namespace Effect

def events (effects : List Effect) : List SessionEvent :=
  effects.filterMap fun
    | .report e => some e
    | _ => none

/-- How long the loop waits, each time it does. -/
def pauses (effects : List Effect) : List Nat :=
  effects.filterMap fun
    | .pause millis => some millis
    | _ => none

variable {es es' : List Effect} {settled : Settled}

theorem events_append : events (es ++ es') = events es ++ events es' :=
  List.filterMap_append

theorem pauses_append : pauses (es ++ es') = pauses es ++ pauses es' :=
  List.filterMap_append

theorem of_ofSettled : events (ofSettled settled) = [] ∧ pauses (ofSettled settled) = [] := by
  constructor
  · rw [events, ofSettled, List.filterMap_map]
    exact List.filterMap_eq_nil_iff.mpr fun _ _ => rfl
  · rw [pauses, ofSettled, List.filterMap_map]
    exact List.filterMap_eq_nil_iff.mpr fun _ _ => rfl

end Effect

/-- What is reported of a result, after some failures in a row. -/
def Polled.events (errors : Nat) : Polled → List SessionEvent
  | .connAck .success present => [.connected present]
  | .publish m => [.message m]
  | .disconnect => [.lost EventLoop.brokerDisconnect]
  | .failed reason => if errors = 0 then [.lost reason] else []
  | _ => []

def Polled.pauses (maxDelay errors : Nat) : Polled → List Nat
  | .failed _ => [EventLoop.retryDelay maxDelay (min (errors + 1) EventLoop.maxErrors)]
  | _ => []

namespace Input

def events (errors : Nat) : Input → List SessionEvent
  | .request _ => []
  | .result polled => polled.events errors

def pauses (maxDelay errors : Nat) : Input → List Nat
  | .request _ => []
  | .result polled => polled.pauses maxDelay errors

/-- The connection is lost, or the broker says that it will be. -/
def breaks : Input → Bool
  | .result .disconnect | .result (.failed _) => true
  | _ => false

/-- The connection is back. -/
def reconnects : Input → Bool
  | .result (.connAck .success _) => true
  | _ => false

/-- A result after which failures are counted anew. -/
def restarts (x : Input) : Bool :=
  x.resets || x == .result .disconnect

/-- Only a connection that is lost comes back. -/
def Returns (earlier : List Input) (x : Input) : Prop :=
  x.reconnects = true → lineAfter earlier ≠ .up

end Input

namespace Post

def events (p : Post) : List SessionEvent :=
  Effect.events p.effects

def pauses (p : Post) : List Nat :=
  Effect.pauses p.effects

end Post

/-- An outage up to some point of it: it begins with the first sign of a loss on an established connection
and lasts until the connection is back. -/
structure Outage (before : List Input) (first : Input) (during : List Input) : Prop where
  established : lineAfter before = .up
  breaks : first.breaks = true
  lasting : ∀ x ∈ during, x.reconnects = false

/-- After the first sign of a loss there is no DISCONNECT, and nothing that resets the count comes before a
failure. -/
structure Undisturbed (during : List Input) : Prop where
  silent : .result .disconnect ∉ during
  steady : during.Pairwise fun x y => ¬ (x.resets = true ∧ y.fails = true)

/-- After a failure the count goes on. -/
def Counted (xs : List Input) : Prop :=
  xs.Pairwise fun x y => ¬ (x.fails = true ∧ y.restarts = true)

section Alternation

variable {maxDelay errors : Nat} {x first : Input} {xs before during inputs : List Input}
  {polled : Polled} {es : List SessionEvent}

/-! ### What one input leads to -/

theorem EventLoop.of_lose {l : EventLoop} {reason : String} :
    Effect.events (l.lose reason).2 = [.lost reason] ∧ Effect.pauses (l.lose reason).2 = [] := by
  rw [lose, Effect.events_append, Effect.pauses_append, onAcks, Effect.of_ofSettled.1,
    Effect.of_ofSettled.2]
  exact ⟨rfl, rfl⟩

theorem EventLoop.step_effects {l : EventLoop} (h : l.ended = false) :
    Effect.events (l.step maxDelay polled).2 = polled.events l.errors ∧
      Effect.pauses (l.step maxDelay polled).2 = polled.pauses maxDelay l.errors := by
  unfold step
  rw [h, if_neg Bool.false_ne_true]
  cases polled with
  | connAck code => cases code <;> exact ⟨rfl, rfl⟩
  | publish | other => exact ⟨rfl, rfl⟩
  | subAck | unsubAck | sent | sentDisconnect => exact Effect.of_ofSettled
  | disconnect => exact of_lose
  | failed reason =>
    dsimp only
    rw [Effect.events_append, Effect.pauses_append, Polled.events, Polled.pauses]
    split
    · rename_i hone
      rw [of_lose.1, of_lose.2, if_pos (min_maxErrors_eq_one.mp hone)]
      exact ⟨rfl, rfl⟩
    · rename_i hone
      rw [if_neg (mt min_maxErrors_eq_one.mpr hone)]
      exact ⟨rfl, rfl⟩

theorem Post.effects_concat (hxs : .result .sentDisconnect ∉ xs) :
    (Post.after maxDelay (xs ++ [x])).events = (Post.after maxDelay xs).events ++
        x.events (Post.after maxDelay xs).loop.errors ∧
      (Post.after maxDelay (xs ++ [x])).pauses = (Post.after maxDelay xs).pauses ++
        x.pauses maxDelay (Post.after maxDelay xs).loop.errors := by
  have hrunning := (keeps_after maxDelay hxs).running
  rw [after_concat]
  generalize Post.after maxDelay xs = p at hrunning ⊢
  cases x with
  | request kind =>
    have heffects : (p.take maxDelay (.request kind)).effects = p.effects := by
      rw [take]
      split <;> rfl
    rw [events, pauses, heffects]
    exact ⟨(List.append_nil _).symm, (List.append_nil _).symm⟩
  | result polled =>
    obtain ⟨hevents, hpauses⟩ := @EventLoop.step_effects maxDelay polled _ hrunning
    constructor
    · exact Effect.events_append.trans (congrArg _ hevents)
    · exact Effect.pauses_append.trans (congrArg _ hpauses)

theorem Input.countP_events : (x.events errors).countP SessionEvent.isLost = 0 ↔
    x ≠ .result .disconnect ∧ (x.fails = true → errors ≠ 0) := by
  cases x with
  | request => exact iff_of_true rfl ⟨nofun, nofun⟩
  | result polled =>
    cases polled with
    | connAck code => cases code <;> exact iff_of_true rfl ⟨nofun, nofun⟩
    | publish | subAck | unsubAck | sent | sentDisconnect | other =>
      exact iff_of_true rfl ⟨nofun, nofun⟩
    | disconnect => exact iff_of_false nofun fun h => h.1 rfl
    | failed reason =>
      rw [events, Polled.events]
      split
      · exact iff_of_false nofun fun h => h.2 rfl ‹_›
      · exact iff_of_true rfl ⟨nofun, fun _ => ‹_›⟩

theorem Input.not_connected (hx : x.reconnects = false) :
    ∀ e ∈ x.events errors, e.isConnected = false := by
  cases x with
  | request => exact fun _ he => absurd he List.not_mem_nil
  | result polled =>
    cases polled with
    | connAck code =>
      cases code with
      | success => cases hx
      | _ => exact fun _ he => absurd he List.not_mem_nil
    | publish | disconnect => exact List.forall_mem_singleton.mpr rfl
    | subAck | unsubAck | sent | sentDisconnect | other => exact fun _ he => absurd he List.not_mem_nil
    | failed reason =>
      rw [events, Polled.events]
      split
      · exact List.forall_mem_singleton.mpr rfl
      · exact fun _ he => absurd he List.not_mem_nil

theorem Input.of_breaks (h : x.breaks = true) :
    x = .result .disconnect ∨ ∃ reason, x = .result (.failed reason) := by
  cases x with
  | request => cases h
  | result polled =>
    cases polled with
    | disconnect => exact .inl rfl
    | failed reason => exact .inr ⟨reason, rfl⟩
    | connAck | publish | subAck | unsubAck | sent | sentDisconnect | other => cases h

theorem Input.of_fails (h : x.fails = true) : ∃ reason, x = .result (.failed reason) := by
  cases x with
  | request => cases h
  | result polled =>
    cases polled with
    | failed reason => exact ⟨reason, rfl⟩
    | _ => cases h

theorem Post.exists_events (maxDelay : Nat) {ys : List Input}
    (hrun : .result .sentDisconnect ∉ xs ++ ys) :
    ∃ es, (Post.after maxDelay (xs ++ ys)).events = (Post.after maxDelay xs).events ++ es := by
  induction ys using List.reverseRecOn with
  | nil => exact ⟨[], by simp⟩
  | append_singleton ys x ih =>
    rw [← List.append_assoc] at hrun ⊢
    have hrun' := mt (List.mem_append_left _) hrun
    obtain ⟨es, hes⟩ := ih hrun'
    exact ⟨_, by rw [(effects_concat hrun').1, hes, List.append_assoc]⟩

theorem Input.length_events : (x.events errors).length ≤ 1 := by
  cases x with
  | request => exact Nat.zero_le 1
  | result polled =>
    cases polled with
    | connAck code => cases code <;> simp [events, Polled.events]
    | failed reason =>
      rw [events, Polled.events]
      split <;> simp
    | publish | subAck | unsubAck | sent | sentDisconnect | disconnect | other =>
      simp [events, Polled.events]

theorem Input.events_of_reconnects (h : x.reconnects = true) :
    ∃ present, x.events errors = [.connected present] := by
  cases x with
  | request => cases h
  | result polled =>
    cases polled with
    | connAck code present =>
      cases code with
      | success => exact ⟨present, rfl⟩
      | _ => cases h
    | _ => cases h

/-- The events tell whether the connection is up, and no failure is counted while it is. -/
theorem upAfter_events (maxDelay : Nat) (hxs : .result .sentDisconnect ∉ xs) :
    SessionEvent.upAfter true (Post.after maxDelay xs).events = (lineAfter xs == .up) ∧
      (lineAfter xs = .up → (Post.after maxDelay xs).loop.errors = 0) := by
  induction xs using List.reverseRecOn with
  | nil => exact ⟨rfl, fun _ => rfl⟩
  | append_singleton xs x ih =>
    have hxs' : .result .sentDisconnect ∉ xs := mt (List.mem_append_left _) hxs
    obtain ⟨hup, hzero⟩ := ih hxs'
    rw [(Post.effects_concat hxs').1, SessionEvent.upAfter_append, hup, lineAfter_concat,
      errors_concat hxs']
    generalize lineAfter xs = line at hzero ⊢
    generalize EventLoop.errors _ = errors at hzero ⊢
    cases x with
    | request => exact ⟨rfl, hzero⟩
    | result polled =>
      cases polled with
      | connAck code => cases code <;> exact ⟨rfl, fun _ => rfl⟩
      | publish | other => exact ⟨rfl, fun _ => rfl⟩
      | subAck | unsubAck | sent | sentDisconnect => exact ⟨rfl, hzero⟩
      | disconnect => exact ⟨rfl, nofun⟩
      | failed reason =>
        refine ⟨?_, nofun⟩
        rw [Input.events, Polled.events]
        split
        · rfl
        · rename_i herrors
          exact beq_false_of_ne (mt hzero herrors)

/-! ### Outages -/

theorem exists_outage (h : lineAfter xs ≠ .up) :
    ∃ before first during, xs = before ++ first :: during ∧ Outage before first during := by
  induction xs using List.reverseRecOn with
  | nil => exact absurd rfl h
  | append_singleton xs x ih =>
    rw [lineAfter_concat] at h
    by_cases hup : lineAfter xs = .up
    · rw [hup] at h
      refine ⟨xs, x, [], rfl, hup, ?_, by simp⟩
      cases x with
      | request => exact absurd rfl h
      | result polled =>
        cases polled with
        | connAck code => cases code <;> exact absurd rfl h
        | publish | subAck | unsubAck | sent | sentDisconnect | other => exact absurd rfl h
        | disconnect | failed => rfl
    · obtain ⟨before, first, during, rfl, houtage⟩ := ih hup
      refine ⟨before, first, during ++ [x], by simp, houtage.established, houtage.breaks,
        forall_mem_concat houtage.lasting ?_⟩
      cases x with
      | request => rfl
      | result polled =>
        cases polled with
        | connAck code =>
          cases code with
          | success => exact absurd rfl h
          | _ => rfl
        | _ => rfl

theorem undisturbed_concat : Undisturbed (during ++ [x]) ↔ Undisturbed during ∧
    x ≠ .result .disconnect ∧ (x.fails = true → ∀ y ∈ during, y.resets = false) := by
  constructor
  · rintro ⟨hsilent, hsteady⟩
    obtain ⟨hsteady, -, hlast⟩ := List.pairwise_append.mp hsteady
    rw [List.mem_append, not_or, List.mem_singleton] at hsilent
    refine ⟨⟨hsilent.1, hsteady⟩, Ne.symm hsilent.2, fun hfails y hy => ?_⟩
    exact Bool.eq_false_iff.mpr fun hresets => hlast y hy x List.mem_cons_self ⟨hresets, hfails⟩
  · rintro ⟨⟨hsilent, hsteady⟩, hx, hfails⟩
    constructor
    · rw [List.mem_append, not_or, List.mem_singleton]
      exact ⟨hsilent, Ne.symm hx⟩
    · refine List.pairwise_append.mpr ⟨hsteady, List.pairwise_singleton _ _, fun y hy z hz => ?_⟩
      obtain rfl := List.mem_singleton.mp hz
      exact fun ⟨hresets, hf⟩ => Bool.eq_false_iff.mp (hfails hf y hy) hresets

/-- What an outage has come to: the events since it began, and the count of failures. -/
structure Spell (during : List Input) (es : List SessionEvent) (errors : Nat) : Prop where
  lasting : ∀ e ∈ es, e.isConnected = false
  lost : 0 < es.countP SessionEvent.isLost
  once : es.countP SessionEvent.isLost = 1 ↔ Undisturbed during
  count : Undisturbed during → (errors = 0 ↔ ∃ x ∈ during, x.resets = true)

theorem Spell.take (h : Spell during es errors) (hx : x.reconnects = false) :
    Spell (during ++ [x]) (es ++ x.events errors) (x.count errors) where
  lasting := List.forall_mem_append.mpr ⟨h.lasting, Input.not_connected hx⟩
  lost := by
    have hlost := h.lost
    rw [List.countP_append]
    omega
  once := by
    have hlost := h.lost
    have hnone : Undisturbed during →
        ((x.events errors).countP SessionEvent.isLost = 0 ↔
          x ≠ .result .disconnect ∧ (x.fails = true → ∀ y ∈ during, y.resets = false)) := by
      intro hundisturbed
      have hzero : errors ≠ 0 ↔ ∀ y ∈ during, y.resets = false := by
        rw [ne_eq, h.count hundisturbed]
        simp
      rw [Input.countP_events, hzero]
    rw [undisturbed_concat, ← h.once, List.countP_append]
    constructor
    · intro hone
      have hone' : es.countP SessionEvent.isLost = 1 := by omega
      exact ⟨hone', (hnone (h.once.mp hone')).mp (by omega)⟩
    · rintro ⟨hone, hx⟩
      rw [hone, (hnone (h.once.mp hone)).mpr hx]
  count := by
    intro hundisturbed
    obtain ⟨hundisturbed, hne, hfails⟩ := undisturbed_concat.mp hundisturbed
    have hcount := h.count hundisturbed
    have hany : (∃ y ∈ during ++ [x], y.resets = true) ↔
        (∃ y ∈ during, y.resets = true) ∨ x.resets = true := by
      simp [or_and_right, exists_or]
    rw [hany]
    cases hturns : x.turns with
    | false =>
      rw [(of_calm .up errors hturns).2.1, ← hcount]
      cases x.resets <;> simp
    | true =>
      obtain ⟨code, present, rfl⟩ | rfl | ⟨reason, rfl⟩ := of_turns hturns
      · exact iff_of_true rfl (.inr rfl)
      · exact absurd rfl hne
      · refine iff_of_false min_maxErrors_ne_zero ?_
        rintro (⟨y, hy, hresets⟩ | hresets)
        · exact Bool.eq_false_iff.mp (hfails rfl y hy) hresets
        · cases hresets

theorem exists_spell (maxDelay : Nat) (houtage : Outage before first during)
    (hrun : .result .sentDisconnect ∉ before ++ first :: during) :
    ∃ es, (Post.after maxDelay (before ++ first :: during)).events =
        (Post.after maxDelay before).events ++ es ∧
      Spell during es (Post.after maxDelay (before ++ first :: during)).loop.errors := by
  induction during using List.reverseRecOn with
  | nil =>
    have hbefore : .result .sentDisconnect ∉ before := mt (List.mem_append_left _) hrun
    have hzero := (upAfter_events maxDelay hbefore).2 houtage.established
    have hclear : Undisturbed [] := ⟨List.not_mem_nil, .nil⟩
    rw [(Post.effects_concat hbefore).1, errors_concat hbefore, hzero]
    refine ⟨_, rfl, ?_⟩
    obtain rfl | ⟨reason, rfl⟩ := Input.of_breaks houtage.breaks
    · exact ⟨by simp [Input.events, Polled.events, SessionEvent.isConnected], Nat.one_pos,
        iff_of_true rfl hclear, fun _ => iff_of_false Nat.one_ne_zero (by simp)⟩
    · exact ⟨by simp [Input.events, Polled.events, SessionEvent.isConnected], Nat.one_pos,
        iff_of_true rfl hclear, fun _ => iff_of_false min_maxErrors_ne_zero (by simp)⟩
  | append_singleton during x ih =>
    obtain ⟨hestablished, hbreaks, hlasting⟩ := houtage
    obtain ⟨hlasting, hx⟩ := List.forall_mem_append.mp hlasting
    rw [← List.cons_append, ← List.append_assoc] at hrun ⊢
    have hrun' := mt (List.mem_append_left _) hrun
    obtain ⟨es, hes, hspell⟩ := ih ⟨hestablished, hbreaks, hlasting⟩ hrun'
    rw [(Post.effects_concat hrun').1, errors_concat hrun', hes, List.append_assoc]
    exact ⟨_, rfl, hspell.take (hx x List.mem_cons_self)⟩

/-! ### Delays -/

theorem retryDelay_le_succ (maxDelay n : Nat) : EventLoop.retryDelay maxDelay n ≤
    EventLoop.retryDelay maxDelay (min (n + 1) EventLoop.maxErrors) := by
  have hmax : 11 ≤ EventLoop.maxErrors := by decide
  have hexponent : min (n - 1) 10 ≤ min (min (n + 1) EventLoop.maxErrors - 1) 10 := by omega
  have hpow : 2 ^ min (n - 1) 10 ≤ 2 ^ min (min (n + 1) EventLoop.maxErrors - 1) 10 :=
    Nat.pow_le_pow_right Nat.two_pos hexponent
  exact Nat.le_min_of_le_of_le ((Nat.min_le_left _ _).trans (Nat.mul_le_mul_left 100 hpow))
    (Nat.min_le_right _ _)

theorem Input.pauses_le : ∀ ms ∈ x.pauses maxDelay errors, ms ≤ maxDelay := by
  cases x with
  | request => exact fun _ hms => absurd hms List.not_mem_nil
  | result polled =>
    cases polled with
    | failed reason => exact List.forall_mem_singleton.mpr (Nat.min_le_right _ _)
    | _ => exact fun _ hms => absurd hms List.not_mem_nil

theorem Post.pauses_le (maxDelay : Nat) (hxs : .result .sentDisconnect ∉ xs) :
    ∀ ms ∈ (Post.after maxDelay xs).pauses, ms ≤ maxDelay := by
  induction xs using List.reverseRecOn with
  | nil => exact fun _ hms => absurd hms List.not_mem_nil
  | append_singleton xs x ih =>
    have hxs' : .result .sentDisconnect ∉ xs := mt (List.mem_append_left _) hxs
    rw [(effects_concat hxs').2]
    exact List.forall_mem_append.mpr ⟨ih hxs', Input.pauses_le⟩

/-- The delays since some time. While failures are counted on, each is as long as the one before. -/
structure Backoff (maxDelay : Nat) (xs : List Input) (ps : List Nat) (errors : Nat) : Prop where
  failed : ps ≠ [] → ∃ x ∈ xs, x.fails = true
  rising : Counted xs → ps.Pairwise (· ≤ ·) ∧ ∀ ms ∈ ps, ms ≤ EventLoop.retryDelay maxDelay errors

variable {ps : List Nat}

theorem Backoff.take (h : Backoff maxDelay xs ps errors) :
    Backoff maxDelay (xs ++ [x]) (ps ++ x.pauses maxDelay errors) (x.count errors) := by
  have hcounted : Counted (xs ++ [x]) → Counted xs ∧ (x.restarts = true → ps = []) := by
    intro hcounted
    obtain ⟨hcounted, -, hlast⟩ := List.pairwise_append.mp hcounted
    refine ⟨hcounted, fun hrestarts => not_not.mp fun hsome => ?_⟩
    obtain ⟨y, hy, hfails⟩ := h.failed hsome
    exact hlast y hy x List.mem_cons_self ⟨hfails, hrestarts⟩
  cases hfails : x.fails with
  | true =>
    obtain ⟨reason, rfl⟩ := Input.of_fails hfails
    refine ⟨fun _ => ⟨_, List.mem_append_right _ List.mem_cons_self, rfl⟩, fun hall => ?_⟩
    obtain ⟨hpairwise, hle⟩ := h.rising (hcounted hall).1
    have hnext (ms : Nat) (hms : ms ∈ ps) : ms ≤ EventLoop.retryDelay maxDelay
        (min (errors + 1) EventLoop.maxErrors) := (hle ms hms).trans (retryDelay_le_succ maxDelay errors)
    constructor
    · refine List.pairwise_append.mpr ⟨hpairwise, List.pairwise_singleton _ _, fun ms hms ms' hms' => ?_⟩
      obtain rfl := List.mem_singleton.mp hms'
      exact hnext ms hms
    · exact List.forall_mem_append.mpr ⟨hnext, List.forall_mem_singleton.mpr le_rfl⟩
  | false =>
    have hnone : x.pauses maxDelay errors = [] := by
      cases x with
      | request => rfl
      | result polled =>
        cases polled with
        | failed => cases hfails
        | _ => rfl
    rw [hnone, List.append_nil]
    refine ⟨fun hsome => ?_, fun hall => ?_⟩
    · obtain ⟨y, hy, hfails⟩ := h.failed hsome
      exact ⟨y, List.mem_append_left _ hy, hfails⟩
    · obtain ⟨hcounted, hrestarts⟩ := hcounted hall
      cases hx : x.restarts with
      | true =>
        rw [hrestarts hx]
        exact ⟨.nil, fun _ hms => absurd hms List.not_mem_nil⟩
      | false =>
        have hsame : x.count errors = errors := by
          cases x with
          | request => rfl
          | result polled =>
            cases polled with
            | connAck | publish | other | disconnect => cases hx
            | failed => cases hfails
            | subAck | unsubAck | sent | sentDisconnect => rfl
        rw [hsame]
        exact h.rising hcounted

theorem exists_backoff (maxDelay : Nat) (hrun : .result .sentDisconnect ∉ before ++ xs) :
    ∃ ps, (Post.after maxDelay (before ++ xs)).pauses = (Post.after maxDelay before).pauses ++ ps ∧
      Backoff maxDelay xs ps (Post.after maxDelay (before ++ xs)).loop.errors := by
  induction xs using List.reverseRecOn with
  | nil =>
    refine ⟨[], by simp, fun hne => absurd rfl hne, fun _ => ⟨.nil, ?_⟩⟩
    exact fun _ hms => absurd hms List.not_mem_nil
  | append_singleton xs x ih =>
    rw [← List.append_assoc] at hrun ⊢
    have hrun' := mt (List.mem_append_left _) hrun
    obtain ⟨ps, hps, hbackoff⟩ := ih hrun'
    rw [(Post.effects_concat hrun').2, errors_concat hrun', hps, List.append_assoc]
    exact ⟨_, rfl, hbackoff.take⟩

/-! ### What the transport allows -/

theorem Input.Admitted.returns (h : x.Admitted xs) : x.Returns xs := by
  intro hx
  cases x with
  | request => cases hx
  | result polled =>
    cases polled with
    | connAck code present => exact (allows_connAck_iff.mp h).2
    | _ => cases hx

theorem of_allowed_down (h : Line.down.allows x = true) (hx : x.reconnects = false) :
    x.restarts = false ∧ Line.down.next x = .down := by
  cases x with
  | request => exact ⟨rfl, rfl⟩
  | result polled =>
    cases polled with
    | connAck code present =>
      obtain ⟨rfl, -⟩ := allows_connAck_iff.mp h
      cases hx
    | failed => exact ⟨rfl, rfl⟩
    | publish | subAck | unsubAck | disconnect | sent | sentDisconnect | other => cases h

/-- Once the connection has failed, nothing but failures comes before it is back. -/
theorem counted_of_admitted (h : Throughout Input.Admitted (before ++ first :: during))
    (houtage : Outage before first during) : Counted (first :: during) ∧
      ((∃ x ∈ first :: during, x.fails = true) → lineAfter (before ++ first :: during) = .down) := by
  induction during using List.reverseRecOn with
  | nil =>
    refine ⟨List.pairwise_singleton _ _, fun ⟨x, hx, hfails⟩ => ?_⟩
    obtain rfl := List.mem_singleton.mp hx
    rw [lineAfter_concat]
    obtain rfl | ⟨reason, rfl⟩ := Input.of_breaks houtage.breaks
    · cases hfails
    · rfl
  | append_singleton during x ih =>
    obtain ⟨hestablished, hbreaks, hlasting⟩ := houtage
    obtain ⟨hlasting, hx⟩ := List.forall_mem_append.mp hlasting
    rw [← List.cons_append, ← List.append_assoc] at h ⊢
    obtain ⟨hcounted, hdown⟩ := ih h.front ⟨hestablished, hbreaks, hlasting⟩
    have hallows : (lineAfter (before ++ first :: during)).allows x = true := h.at
    rw [lineAfter_concat]
    by_cases hfailed : ∃ y ∈ first :: during, y.fails = true
    · rw [hdown hfailed] at hallows ⊢
      obtain ⟨hrestarts, hnext⟩ := of_allowed_down hallows (hx x List.mem_cons_self)
      refine ⟨List.pairwise_append.mpr ⟨hcounted, List.pairwise_singleton _ _, ?_⟩, fun _ => hnext⟩
      intro y hy z hz hboth
      obtain rfl := List.mem_singleton.mp hz
      exact Bool.eq_false_iff.mp hrestarts hboth.2
    · refine ⟨List.pairwise_append.mpr ⟨hcounted, List.pairwise_singleton _ _, ?_⟩, ?_⟩
      · exact fun y hy z _ hboth => hfailed ⟨y, hy, hboth.1⟩
      · rintro ⟨y, hy, hfails⟩
        obtain hy | hy := List.mem_append.mp hy
        · exact absurd ⟨y, hy, hfails⟩ hfailed
        · obtain rfl := List.mem_singleton.mp hy
          obtain ⟨reason, rfl⟩ := Input.of_fails hfails
          rfl

/-! ### All inputs -/

theorem Post.effects_of_ended {p : Post} (h : p.loop.ended = true) :
    (xs.foldl (take maxDelay) p).effects = p.effects := by
  induction xs generalizing p with
  | nil => rfl
  | cons x xs ih =>
    suffices hsame : (p.take maxDelay x).loop.ended = true ∧
        (p.take maxDelay x).effects = p.effects by
      rw [List.foldl_cons, ih hsame.1, hsame.2]
    cases x with
    | request kind =>
      rw [take]
      split <;> exact ⟨h, rfl⟩
    | result polled =>
      have hstep : p.loop.step maxDelay polled = (p.loop, []) := by
        rw [EventLoop.step.eq_def, h, if_pos rfl]
      rw [take, hstep]
      exact ⟨h, List.append_nil _⟩

/-- Nothing is reported after a DISCONNECT of our own. -/
theorem effects_left {rest : List Input} (hrun : .result .sentDisconnect ∉ inputs) :
    (Post.after maxDelay (inputs ++ .result .sentDisconnect :: rest)).events =
        (Post.after maxDelay inputs).events ∧
      (Post.after maxDelay (inputs ++ .result .sentDisconnect :: rest)).pauses =
        (Post.after maxDelay inputs).pauses := by
  have hended : (Post.after maxDelay (inputs ++ [.result .sentDisconnect])).loop.ended = true := by
    have hrunning := (keeps_after maxDelay hrun).running
    rw [after_concat]
    generalize Post.after maxDelay inputs = p at hrunning
    rw [Post.take, EventLoop.step, hrunning]
    rfl
  have heffects : (Post.after maxDelay (inputs ++ .result .sentDisconnect :: rest)).effects =
      (Post.after maxDelay (inputs ++ [.result .sentDisconnect])).effects := by
    rw [List.append_cons, Post.after, List.foldl_append]
    exact Post.effects_of_ended hended
  obtain ⟨hevents, hpauses⟩ := @Post.effects_concat maxDelay (.result .sentDisconnect) _ hrun
  rw [Post.events, Post.pauses, heffects]
  exact ⟨hevents.trans (List.append_nil _), hpauses.trans (List.append_nil _)⟩

theorem alternate_front {ys : List Input} (hrun : .result .sentDisconnect ∉ xs ++ ys)
    (h : SessionEvent.alternate true (Post.after maxDelay (xs ++ ys)).events = true) :
    SessionEvent.alternate true (Post.after maxDelay xs).events = true := by
  obtain ⟨es, hes⟩ := Post.exists_events maxDelay hrun
  rw [hes, SessionEvent.alternate_append, Bool.and_eq_true] at h
  exact h.1

/-- The next input is in turn if it is a reconnect of a lost connection, or is not one and does not
disturb an outage. -/
theorem alternate_concat (hrun : .result .sentDisconnect ∉ xs) (hreturns : x.Returns xs)
    (houtages : ∀ before first during, xs ++ [x] = before ++ first :: during →
      Outage before first during → Undisturbed during) :
    SessionEvent.alternate (lineAfter xs == .up) (x.events (Post.after maxDelay xs).loop.errors) =
      true := by
  cases hx : x.reconnects with
  | true =>
    obtain ⟨present, hevents⟩ := Input.events_of_reconnects hx
    rw [hevents, beq_false_of_ne (hreturns hx)]
    rfl
  | false =>
    rw [SessionEvent.alternate_iff_countP (Input.not_connected hx)]
    by_cases hline : lineAfter xs = .up
    · rw [hline]
      exact List.countP_le_length.trans Input.length_events
    · obtain ⟨before, first, during, rfl, hestablished, hbreaks, hlasting⟩ := exists_outage hline
      have hundisturbed := houtages before first (during ++ [x]) (by simp)
        ⟨hestablished, hbreaks, forall_mem_concat hlasting hx⟩
      obtain ⟨hundisturbed, hne, hfails⟩ := undisturbed_concat.mp hundisturbed
      obtain ⟨es, -, hspell⟩ := exists_spell maxDelay ⟨hestablished, hbreaks, hlasting⟩ hrun
      have hnone := Input.countP_events.mpr ⟨hne, fun hf hzero => by
        obtain ⟨y, hy, hresets⟩ := (hspell.count hundisturbed).mp hzero
        exact Bool.eq_false_iff.mp (hfails hf y hy) hresets⟩
      rw [hnone]
      exact Nat.zero_le _

/-- Losses and reconnects come in turns if and only if only a lost connection comes back and no outage is
disturbed. -/
theorem alternate_events_iff (maxDelay : Nat) (hrun : .result .sentDisconnect ∉ inputs) :
    SessionEvent.alternate true (Post.after maxDelay inputs).events = true ↔
      Throughout Input.Returns inputs ∧ ∀ before first during rest,
        inputs = before ++ first :: (during ++ rest) → Outage before first during →
          Undisturbed during := by
  constructor
  · intro halternate
    constructor
    · intro n hn hx
      have hsplit : inputs.take n ++ [inputs[n]] ++ inputs.drop (n + 1) = inputs := by simp
      rw [← hsplit] at hrun halternate
      have hrun' := mt (List.mem_append_left _) hrun
      have hrun'' := mt (List.mem_append_left _) hrun'
      have hfront := alternate_front hrun halternate
      obtain ⟨present, hevents⟩ := @Input.events_of_reconnects
        (Post.after maxDelay (inputs.take n)).loop.errors _ hx
      rw [(Post.effects_concat hrun'').1, SessionEvent.alternate_append,
        (upAfter_events maxDelay hrun'').1, hevents, Bool.and_eq_true] at hfront
      intro hline
      rw [hline] at hfront
      cases hfront.2
    · intro before first during rest heq houtage
      obtain rfl : inputs = (before ++ first :: during) ++ rest := by simp [heq]
      have hrun' := mt (List.mem_append_left _) hrun
      have hfront := alternate_front hrun halternate
      obtain ⟨es, hes, hspell⟩ := exists_spell maxDelay houtage hrun'
      rw [hes, SessionEvent.alternate_append,
        (upAfter_events maxDelay (mt (List.mem_append_left _) hrun')).1, houtage.established,
        Bool.and_eq_true] at hfront
      have hle : es.countP SessionEvent.isLost ≤ 1 :=
        (SessionEvent.alternate_iff_countP hspell.lasting).mp hfront.2
      exact hspell.once.mp (Nat.le_antisymm hle hspell.lost)
  · rintro ⟨hreturns, houtages⟩
    induction inputs using List.reverseRecOn with
    | nil => rfl
    | append_singleton xs x ih =>
      have hrun' := mt (List.mem_append_left _) hrun
      have hfront := ih hrun' hreturns.front fun before first during rest heq =>
        houtages before first during (rest ++ [x]) (by simp [heq])
      rw [(Post.effects_concat hrun').1, SessionEvent.alternate_append, hfront, Bool.true_and,
        (upAfter_events maxDelay hrun').1]
      exact alternate_concat hrun' hreturns.at fun before first during heq =>
        houtages before first during [] (by simp [heq])

/-- The events and the delays of an outage. -/
structure Reported (maxDelay : Nat) (before : List Input) (first : Input) (during : List Input)
    (es : List SessionEvent) (ps : List Nat) : Prop where
  events : (Post.after maxDelay (before ++ first :: during)).events =
    (Post.after maxDelay before).events ++ es
  pauses : (Post.after maxDelay (before ++ first :: during)).pauses =
    (Post.after maxDelay before).pauses ++ ps
  lasting : ∀ e ∈ es, e.isConnected = false
  lost : 0 < es.countP SessionEvent.isLost
  /-- The loss is reported once if and only if the outage is not disturbed. -/
  once : es.countP SessionEvent.isLost = 1 ↔ Undisturbed during
  rising : Counted (first :: during) → ps.Pairwise (· ≤ ·)
  back : ∀ present, (Post.after maxDelay
      (before ++ first :: during ++ [.result (.connAck .success present)])).events =
    (Post.after maxDelay before).events ++ es ++ [.connected present]

theorem exists_reported (maxDelay : Nat) (houtage : Outage before first during)
    (hrun : .result .sentDisconnect ∉ before ++ first :: during) :
    ∃ es ps, Reported maxDelay before first during es ps := by
  obtain ⟨es, hes, hspell⟩ := exists_spell maxDelay houtage hrun
  obtain ⟨ps, hps, hbackoff⟩ := exists_backoff maxDelay hrun
  refine ⟨es, ps, hes, hps, hspell.lasting, hspell.lost, hspell.once,
    fun hcounted => (hbackoff.rising hcounted).1, fun present => ?_⟩
  rw [(Post.effects_concat hrun).1, hes]
  rfl

/-- For any order of results, and whatever is requested meanwhile: a session reports losses and
reconnects in turns, a loss first, if and only if only a lost connection comes back and no outage is
disturbed, and each outage is reported at least once, and once if and only if it is not disturbed. The
delays of an outage never decrease while failures are counted on, and none is longer than the bound. The
transport sees to it that only a lost connection comes back and that failures are counted on. After a
DISCONNECT of our own there are no events and no delays. -/
theorem lost_once_iff_undisturbed (maxDelay : Nat) (hrun : .result .sentDisconnect ∉ inputs) :
    (SessionEvent.alternate true (Post.after maxDelay inputs).events = true ↔
      Throughout Input.Returns inputs ∧ ∀ before first during rest,
        inputs = before ++ first :: (during ++ rest) → Outage before first during →
          Undisturbed during) ∧
    (∀ before first during rest, inputs = before ++ first :: (during ++ rest) →
      Outage before first during → ∃ es ps, Reported maxDelay before first during es ps) ∧
    (∀ ms ∈ (Post.after maxDelay inputs).pauses, ms ≤ maxDelay) ∧
    (Throughout Input.Admitted inputs → Throughout Input.Returns inputs ∧
      ∀ before first during rest, inputs = before ++ first :: (during ++ rest) →
        Outage before first during → Counted (first :: during)) ∧
    ∀ rest, (Post.after maxDelay (inputs ++ .result .sentDisconnect :: rest)).events =
        (Post.after maxDelay inputs).events ∧
      (Post.after maxDelay (inputs ++ .result .sentDisconnect :: rest)).pauses =
        (Post.after maxDelay inputs).pauses := by
  have hsplit {before during rest : List Input} {first : Input}
      (heq : inputs = before ++ first :: (during ++ rest)) :
      inputs = (before ++ first :: during) ++ rest := by simp [heq]
  refine ⟨alternate_events_iff maxDelay hrun, ?_, Post.pauses_le maxDelay hrun, ?_,
    fun rest => effects_left hrun⟩
  · intro before first during rest heq houtage
    exact exists_reported maxDelay houtage (mt (List.mem_append_left _) (hsplit heq ▸ hrun))
  · intro hadmitted
    refine ⟨fun n hn => (hadmitted n hn).returns, fun before first during rest heq houtage => ?_⟩
    rw [hsplit heq] at hadmitted
    exact (counted_of_admitted hadmitted.front houtage).1

end Alternation

/-- The broker says that it will close the connection, publishes a message that was on its way, and
closes it. Then the connection is back. -/
def farewell : List Input := [
  .result .disconnect, .result (.publish { topic := "t", payload := [], qos := .atMostOnce }),
  .result (.failed "closed"), .result (.connAck .success true)]

theorem admitted_farewell : Throughout Input.Admitted farewell := by
  decide

theorem lost_once_iff_undisturbed_farewell : .result .sentDisconnect ∉ farewell ∧
    ∃ before first during rest, farewell = before ++ first :: (during ++ rest) ∧
      Outage before first during ∧ ¬ Undisturbed during := by
  have hrun : .result .sentDisconnect ∉ farewell := by decide
  obtain ⟨halternate, -, -, hallowed, -⟩ := lost_once_iff_undisturbed 1000 hrun
  have hnot : ¬ SessionEvent.alternate true (Post.after 1000 farewell).events = true := by decide
  refine ⟨hrun, ?_⟩
  by_contra hnone
  refine hnot (halternate.mpr ⟨(hallowed admitted_farewell).1, fun before first during rest heq houtage => ?_⟩)
  by_contra hdisturbed
  exact hnone ⟨before, first, during, rest, heq, houtage, hdisturbed⟩

/-- One outage is reported twice. -/
theorem lost_twice : Throughout Input.Admitted farewell ∧ ∃ m,
    (Post.after 1000 farewell).events =
      [.lost EventLoop.brokerDisconnect, .message m, .lost "closed", .connected true] :=
  ⟨admitted_farewell, _, rfl⟩

end Mqtt

end SensorBridge
