import SensorBridge.Proofs.Waiters

/-!
What a loss of the connection does to the packets under way. The loop fails their waiters at a DISCONNECT of
the broker and at the first of several failures in a row. It counts the DISCONNECT as such a failure, so
that packets which are sent after it are overlooked when the connection goes down.
-/
namespace SensorBridge.Mqtt

open AckTracker (Step Docket packets)

/-! ### The loop, with the requests made meanwhile -/

/-- A request is made, or a result of the connection is processed. -/
inductive Input where
  | request (kind : RequestKind)
  | result (polled : Polled)
  deriving DecidableEq, Repr

/-- The loop, the requests that were taken and all that the loop has done. -/
structure Post where
  loop : EventLoop := {}
  asked : List Errand := []
  effects : List Effect := []
  deriving DecidableEq, Repr

namespace Post

def take (maxDelay : Nat) (p : Post) : Input → Post
  | .request kind =>
    if p.loop.acks.closed then p
    else
      { p with
        loop := { p.loop with acks := p.loop.acks.enqueue kind p.asked.length }
        asked := p.asked ++ [⟨kind, p.asked.length⟩] }
  | .result polled =>
    let (loop, effects) := p.loop.step maxDelay polled
    { p with loop, effects := p.effects ++ effects }

/-- From the first CONNACK on. -/
def after (maxDelay : Nat) (inputs : List Input) : Post :=
  inputs.foldl (take maxDelay) {}

def waiters (kind : RequestKind) (p : Post) : List Waiter :=
  Errand.owners kind p.asked

/-- The packets of a kind under way. -/
def inFlight (kind : RequestKind) (p : Post) : List (PacketId × Waiter) :=
  (p.loop.acks.queue kind).inFlight

def outcomes (w : Waiter) (p : Post) : List Outcome :=
  ((Effect.outcomes p.effects).filter (·.1 == w)).map (·.2)

end Post

/-! ### What the transport allows -/

/-- The connection as its results show it. -/
inductive Line where
  | up
  /-- The broker has said that it will close the connection. Packets may pass until it does. -/
  | closing
  | down
  deriving DecidableEq, Repr

namespace Line

def next : Line → Input → Line
  | _, .result (.connAck .success _) => .up
  | _, .result .disconnect => .closing
  | _, .result (.failed _) => .down
  | line, _ => line

/-- Only a successful CONNACK makes up for a lost connection, and nothing but failures comes before. -/
def allows : Line → Input → Bool
  | _, .request _ => true
  | _, .result (.failed _) => true
  | line, .result (.connAck code _) => code == .success && line != .up
  | line, .result _ => line != .down

end Line

def lineAfter (inputs : List Input) : Line :=
  inputs.foldl Line.next .up

namespace Input

def Admitted (earlier : List Input) (x : Input) : Prop :=
  (lineAfter earlier).allows x = true

/-- A packet of the kind is sent. -/
def isPacket (kind : RequestKind) : Input → Bool
  | .result (.sent kind' _) => kind' == kind
  | _ => false

/-- A packet is sent for a request that was taken. -/
def Backed (maxDelay : Nat) (earlier : List Input) : Input → Prop
  | .result (.sent kind _) =>
    earlier.countP (·.isPacket kind) < ((Post.after maxDelay earlier).waiters kind).length
  | _ => True

/-- A result after which no failure is counted. -/
def resets : Input → Bool
  | .result (.connAck ..) | .result (.publish _) | .result .other => true
  | _ => false

def fails : Input → Bool
  | .result (.failed _) => true
  | _ => false

/-- The connection goes up or down. -/
def turns : Input → Bool
  | .result (.connAck ..) | .result .disconnect | .result (.failed _) => true
  | _ => false

/-- The input decides on a packet, however many failures there were. -/
def decides (kind : RequestKind) (id : PacketId) : Input → Bool
  | .result (.subAck id' _) => .subscribe == kind && id' == id
  | .result (.unsubAck id') => .unsubscribe == kind && id' == id
  | .result (.sent kind' id') => kind' == kind && id' == id
  | .result .disconnect | .result .sentDisconnect => true
  | _ => false

instance {earlier : List Input} (x : Input) : Decidable (x.Admitted earlier) :=
  inferInstanceAs (Decidable (_ = _))

instance {maxDelay : Nat} {earlier : List Input} (x : Input) : Decidable (x.Backed maxDelay earlier) :=
  match x with
  | .result (.sent ..) => inferInstanceAs (Decidable (_ < _))
  | .request _ | .result (.connAck ..) | .result (.publish _) | .result (.subAck ..)
  | .result (.unsubAck _) | .result .disconnect | .result .sentDisconnect | .result .other
  | .result (.failed _) => inferInstanceAs (Decidable True)

end Input

/-- A packet that the loop overlooks. The broker has said that it will close the connection, which has not
failed yet when the packet is sent. Nothing decides on it, and the connection does not fail, or no result
sets the count of failures to zero before it does. -/
structure Overlooked (kind : RequestKind) (id : PacketId) (since late : List Input) : Prop where
  calm : ∀ x ∈ since, x.turns = false
  undecided : ∀ x ∈ late, x.decides kind id = false
  unnoticed : (∀ x ∈ late, x.fails = false) ∨ ∀ x ∈ since ++ late, x.resets = false

/-! ### Its results as steps of the tracker -/

/-- What a result means for the waiters, after some failures in a row. -/
def Polled.step? (errors : Nat) : Polled → Option Step
  | .subAck id granted => some (.acknowledged .subscribe id (EventLoop.grant granted))
  | .unsubAck id => some (.acknowledged .unsubscribe id .accepted)
  | .sent kind id => some (.sent kind id)
  | .disconnect => some (.lost EventLoop.brokerDisconnect)
  | .sentDisconnect => some .closed
  | .failed reason => if errors = 0 then some (.lost reason) else none
  | .connAck .. | .publish _ | .other => none

/-- How many failures in a row there have been after a result. -/
def Polled.count (errors : Nat) : Polled → Nat
  | .connAck .. | .publish _ | .other => 0
  | .disconnect => 1
  | .failed _ => min (errors + 1) EventLoop.maxErrors
  | .subAck .. | .unsubAck _ | .sent .. | .sentDisconnect => errors

namespace Input

def step? (errors : Nat) : Input → Option Step
  | .request kind => some (.request kind)
  | .result polled => polled.step? errors

def count (errors : Nat) : Input → Nat
  | .request _ => errors
  | .result polled => polled.count errors

end Input

def Post.steps (maxDelay : Nat) : Post → List Input → List Step
  | _, [] => []
  | p, x :: rest => (x.step? p.loop.errors).toList ++ (p.take maxDelay x).steps maxDelay rest

section Steps

variable {maxDelay errors : Nat} {p : Post} {d : Docket} {x : Input} {xs ys inputs : List Input}
  {kind : RequestKind} {id : PacketId} {w : Waiter} {s : Step} {polled : Polled}

theorem min_maxErrors_eq_one : min (errors + 1) EventLoop.maxErrors = 1 ↔ errors = 0 := by
  have hmax : 1 < EventLoop.maxErrors := by decide
  omega

theorem min_maxErrors_ne_zero : min (errors + 1) EventLoop.maxErrors ≠ 0 := by
  have hmax : 1 < EventLoop.maxErrors := by decide
  omega

theorem apply_act : d.apply (polled.act errors) = (polled.step? errors).toList.foldl Docket.take d := by
  have hsame : d.apply (fun t => (t, [])) = d :=
    congrArg (Docket.mk d.tracker d.asked) (List.append_nil d.settled)
  cases polled with
  | subAck | unsubAck | sent | disconnect | sentDisconnect => rfl
  | connAck | publish | other => exact hsame
  | failed reason =>
    by_cases h : errors = 0
    · rw [Polled.step?, if_pos h, h]
      rfl
    · rw [Polled.step?, if_neg h]
      refine Eq.trans (congrArg (d.apply ·) (funext fun t => ?_)) hsame
      rw [Polled.act, if_neg (mt min_maxErrors_eq_one.mp h)]

theorem EventLoop.step_errors {l : EventLoop} (h : l.ended = false) :
    (l.step maxDelay polled).1.errors = polled.count l.errors := by
  unfold step
  rw [h, if_neg Bool.false_ne_true]
  cases polled with
  | connAck code => cases code <;> rfl
  | failed reason =>
    dsimp only
    split <;> rfl
  | publish | subAck | unsubAck | sent | sentDisconnect | disconnect | other => rfl

/-- The loop goes on, and its waiters are those of a docket. -/
structure Post.Keeps (p : Post) (d : Docket) : Prop where
  acks : p.loop.acks = d.tracker
  asked : p.asked = d.asked
  settled : Effect.outcomes p.effects = d.settled
  running : p.loop.ended = false

theorem Post.Keeps.take (h : p.Keeps d) (hx : x ≠ .result .sentDisconnect) :
    (p.take maxDelay x).Keeps ((x.step? p.loop.errors).toList.foldl Docket.take d) := by
  cases x with
  | request kind =>
    change (Post.take _ _ _).Keeps (d.take (.request kind))
    rw [Post.take, Docket.take, h.acks]
    split
    · exact h
    · exact ⟨by rw [h.asked], by rw [h.asked], h.settled, h.running⟩
  | result polled =>
    obtain ⟨hacks, houtcomes, hended⟩ := EventLoop.step_acks maxDelay polled h.running
    change (Post.take _ _ _).Keeps ((polled.step? p.loop.errors).toList.foldl Docket.take d)
    rw [h.acks] at hacks houtcomes
    rw [← apply_act]
    exact {
      acks := hacks
      asked := h.asked
      settled := by
        rw [Post.take, Effect.outcomes_append, h.settled, houtcomes]
        rfl
      running := hended.trans (decide_eq_false fun heq => hx (congrArg Input.result heq)) }

theorem Post.Keeps.errors_take (h : p.Keeps d) :
    (p.take maxDelay x).loop.errors = x.count p.loop.errors := by
  cases x with
  | request kind =>
    rw [Post.take]
    split <;> rfl
  | result polled => exact EventLoop.step_errors h.running

theorem Post.Keeps.foldl (h : p.Keeps d) (hxs : .result .sentDisconnect ∉ xs) :
    (xs.foldl (Post.take maxDelay) p).Keeps ((p.steps maxDelay xs).foldl Docket.take d) := by
  induction xs generalizing p d with
  | nil => exact h
  | cons x xs ih =>
    rw [List.mem_cons, not_or] at hxs
    rw [steps, List.foldl_append]
    exact ih (h.take (Ne.symm hxs.1)) hxs.2

/-- What the inputs mean for the waiters, from the first CONNACK on. -/
def history (maxDelay : Nat) (inputs : List Input) : List Step :=
  Post.steps maxDelay {} inputs

theorem keeps_after (maxDelay : Nat) (h : .result .sentDisconnect ∉ inputs) :
    (Post.after maxDelay inputs).Keeps (Docket.after (history maxDelay inputs)) :=
  Post.Keeps.foldl ⟨rfl, rfl, rfl, rfl⟩ h

theorem steps_append : p.steps maxDelay (xs ++ ys) =
    p.steps maxDelay xs ++ (xs.foldl (Post.take maxDelay) p).steps maxDelay ys := by
  induction xs generalizing p with
  | nil => rfl
  | cons x xs ih =>
    rw [List.cons_append, Post.steps, ih, Post.steps, List.append_assoc]
    rfl

theorem history_append : history maxDelay (xs ++ ys) =
    history maxDelay xs ++ (Post.after maxDelay xs).steps maxDelay ys :=
  steps_append

theorem after_concat (maxDelay : Nat) :
    Post.after maxDelay (xs ++ [x]) = (Post.after maxDelay xs).take maxDelay x :=
  List.foldl_append

theorem history_concat : history maxDelay (xs ++ [x]) =
    history maxDelay xs ++ (x.step? (Post.after maxDelay xs).loop.errors).toList := by
  rw [history_append, Post.steps, Post.steps, List.append_nil]

theorem errors_concat (h : .result .sentDisconnect ∉ xs) :
    (Post.after maxDelay (xs ++ [x])).loop.errors = x.count (Post.after maxDelay xs).loop.errors := by
  rw [after_concat, (keeps_after _ h).errors_take]

theorem isPacket_step? :
    (x.step? errors).toList.countP (·.isPacket kind) = if x.isPacket kind then 1 else 0 := by
  cases x with
  | request => rfl
  | result polled =>
    cases polled with
    | failed reason =>
      rw [Input.step?, Polled.step?]
      split <;> rfl
    | sent => exact List.countP_singleton
    | connAck | publish | subAck | unsubAck | disconnect | sentDisconnect | other => rfl

theorem packets_history (maxDelay : Nat) (xs : List Input) :
    packets kind (history maxDelay xs) = xs.countP (·.isPacket kind) := by
  induction xs using List.reverseRecOn with
  | nil => rfl
  | append_singleton xs x ih =>
    rw [history_concat, packets, List.countP_append, List.countP_append, isPacket_step?,
      List.countP_singleton]
    exact congrArg (· + _) ih

theorem mem_steps (h : s ∈ p.steps maxDelay xs) : ∃ x ∈ xs, ∃ errors, x.step? errors = some s := by
  induction xs generalizing p with
  | nil => cases h
  | cons x xs ih =>
    obtain hx | hxs := List.mem_append.mp h
    · exact ⟨x, List.mem_cons_self, _, Option.mem_toList.mp hx⟩
    · obtain ⟨y, hy, hs⟩ := ih hxs
      exact ⟨y, List.mem_cons_of_mem _ hy, hs⟩

/-- Where the steps part, the inputs part. -/
theorem split_steps {before rest : List Step} (h : p.steps maxDelay xs = before ++ s :: rest) :
    ∃ front x late, xs = front ++ x :: late ∧ p.steps maxDelay front = before ∧
      (∃ errors, x.step? errors = some s) ∧
      (front.foldl (Post.take maxDelay) p |>.take maxDelay x).steps maxDelay late = rest := by
  induction xs generalizing p before with
  | nil => simp [Post.steps] at h
  | cons x xs ih =>
    rw [Post.steps] at h
    cases hx : x.step? p.loop.errors with
    | none =>
      rw [hx] at h
      obtain ⟨front, y, late, rfl, rfl, hs, hrest⟩ := ih h
      exact ⟨x :: front, y, late, rfl, by rw [Post.steps, hx]; rfl, hs, hrest⟩
    | some s' =>
      rw [hx] at h
      cases before with
      | nil =>
        obtain ⟨rfl, hrest⟩ := List.cons.inj h
        exact ⟨[], x, xs, rfl, rfl, ⟨_, hx⟩, hrest⟩
      | cons s'' before =>
        obtain ⟨rfl, htail⟩ := List.cons.inj h
        obtain ⟨front, y, late, rfl, rfl, hs, hrest⟩ := ih htail
        exact ⟨x :: front, y, late, rfl, by rw [Post.steps, hx]; rfl, hs, hrest⟩

/-! ### The connection and the count of failures -/

theorem lineAfter_concat : lineAfter (xs ++ [x]) = (lineAfter xs).next x :=
  List.foldl_append

/-- An input that does not turn the connection leaves it, and the count unless it resets it. -/
theorem of_calm (line : Line) (errors : Nat) (h : x.turns = false) :
    line.next x = line ∧ (x.count errors = if x.resets then 0 else errors) ∧ x.fails = false := by
  cases x with
  | request => exact ⟨rfl, rfl, rfl⟩
  | result polled =>
    cases polled with
    | connAck | disconnect | failed => cases h
    | publish | subAck | unsubAck | sent | sentDisconnect | other => exact ⟨rfl, rfl, rfl⟩

theorem of_turns (h : x.turns = true) : (∃ code present, x = .result (.connAck code present)) ∨
    x = .result .disconnect ∨ ∃ reason, x = .result (.failed reason) := by
  cases x with
  | request => cases h
  | result polled =>
    cases polled with
    | connAck code present => exact .inl ⟨code, present, rfl⟩
    | disconnect => exact .inr (.inl rfl)
    | failed reason => exact .inr (.inr ⟨reason, rfl⟩)
    | publish | subAck | unsubAck | sent | sentDisconnect | other => cases h

theorem allows_connAck_iff {line : Line} {code : ReturnCode} {present : Bool} :
    line.allows (.result (.connAck code present)) ↔ code = .success ∧ line ≠ .up := by
  have hallows : line.allows (.result (.connAck code present)) = (code == .success && line != .up) := by
    cases line <;> rfl
  rw [hallows, Bool.and_eq_true, beq_iff_eq, bne_iff_ne]

/-- While the connection is down, nothing says that it works. -/
theorem resets_of_down (h : Line.down.allows x) (hx : x.turns = false) : x.resets = false := by
  cases x with
  | request => rfl
  | result polled =>
    cases polled with
    | connAck | disconnect | failed => cases hx
    | publish | subAck | unsubAck | sent | sentDisconnect | other => cases h

theorem forall_mem_concat {P : Input → Prop} (h : ∀ y ∈ xs, P y) (hx : P x) : ∀ y ∈ xs ++ [x], P y :=
  List.forall_mem_append.mpr ⟨h, List.forall_mem_singleton.mpr hx⟩

theorem ite_resets_concat : (if (xs ++ [x]).any Input.resets then 0 else 1) =
    if x.resets then 0 else if xs.any Input.resets then 0 else 1 := by
  rw [List.any_append]
  cases hx : x.resets <;> simp [hx]

/-- How the count of failures stands to the connection. -/
inductive Standing : List Input → Line → Nat → Prop where
  | up {xs : List Input} : Standing xs .up 0
  | closing {earlier since : List Input} (calm : ∀ x ∈ since, x.turns = false) :
      Standing (earlier ++ .result .disconnect :: since) .closing
        (if since.any Input.resets then 0 else 1)
  | down {xs : List Input} {errors : Nat} (failed : errors ≠ 0) : Standing xs .down errors

theorem Standing.take {line : Line} (h : Standing xs line errors) (hline : line.allows x) :
    Standing (xs ++ [x]) (line.next x) (x.count errors) := by
  cases hturns : x.turns with
  | false =>
    obtain ⟨hnext, hcount, -⟩ := of_calm line errors hturns
    rw [hnext, hcount]
    cases h with
    | up =>
      rw [ite_self]
      exact .up
    | @closing earlier since calm =>
      have hclosing := @Standing.closing earlier _ (forall_mem_concat calm hturns)
      rw [← ite_resets_concat, List.append_assoc]
      exact hclosing
    | down failed =>
      rw [resets_of_down hline hturns]
      exact .down failed
  | true =>
    obtain ⟨code, present, rfl⟩ | rfl | ⟨reason, rfl⟩ := of_turns hturns
    · obtain ⟨rfl, -⟩ := allows_connAck_iff.mp hline
      exact .up
    · exact @Standing.closing xs [] fun _ hy => absurd hy List.not_mem_nil
    · exact .down min_maxErrors_ne_zero

theorem standing_after (maxDelay : Nat) (h : Throughout Input.Admitted inputs)
    (hrun : .result .sentDisconnect ∉ inputs) :
    Standing inputs (lineAfter inputs) (Post.after maxDelay inputs).loop.errors := by
  induction inputs using List.reverseRecOn with
  | nil => exact .up
  | append_singleton xs x ih =>
    have hrun' : .result .sentDisconnect ∉ xs := mt (List.mem_append_left _) hrun
    rw [lineAfter_concat, errors_concat hrun']
    exact (ih h.front hrun').take h.at

/-- Failures go on being counted as long as no result says that the connection works. -/
theorem errors_of_quiet (h : p.Keeps d) (hxs : .result .sentDisconnect ∉ xs) (herrors : p.loop.errors ≠ 0)
    (hquiet : ∀ x ∈ xs, x.resets = false) : (xs.foldl (Post.take maxDelay) p).loop.errors ≠ 0 := by
  induction xs generalizing p d with
  | nil => exact herrors
  | cons x xs ih =>
    rw [List.mem_cons, not_or] at hxs
    rw [List.forall_mem_cons] at hquiet
    refine ih (h.take (Ne.symm hxs.1)) hxs.2 ?_ hquiet.2
    rw [h.errors_take]
    cases hturns : x.turns with
    | false => rwa [(of_calm .up _ hturns).2.1, hquiet.1]
    | true =>
      obtain ⟨code, present, rfl⟩ | rfl | ⟨reason, rfl⟩ := of_turns hturns
      · cases hquiet.1
      · exact Nat.one_ne_zero
      · exact min_maxErrors_ne_zero

/-! ### Packets that nothing decides on -/

theorem undecided_step_iff : (x.step? errors).toList.findSome? (·.verdict? kind id) = none ↔
    x.decides kind id = false ∧ (x.fails → errors ≠ 0) := by
  have hanswer {o : Outcome} {kind' : RequestKind} {id' : PacketId} :
      (if kind' = kind ∧ id' = id then some o else none) = none ↔
        (kind' == kind && id' == id) = false ∧ (false → errors ≠ 0) := by
    simp only [ite_eq_right_iff, reduceCtorEq, imp_false, Bool.eq_false_iff, ne_eq, Bool.and_eq_true,
      beq_iff_eq, false_imp_iff, and_true]
  cases x with
  | request => exact ⟨fun _ => ⟨rfl, nofun⟩, fun _ => rfl⟩
  | result polled =>
    cases polled with
    | connAck | publish | other => exact ⟨fun _ => ⟨rfl, nofun⟩, fun _ => rfl⟩
    | subAck id' granted | unsubAck id' =>
      rw [Input.step?, Polled.step?, Option.toList_some, List.findSome?_singleton,
        AckTracker.verdict?_acknowledged, hanswer]
      rfl
    | sent kind' id' =>
      rw [Input.step?, Polled.step?, Option.toList_some, List.findSome?_singleton,
        AckTracker.verdict?_sent, hanswer]
      rfl
    | disconnect | sentDisconnect => exact iff_of_false nofun fun h => nomatch h.1
    | failed reason =>
      rw [Input.step?, Polled.step?]
      by_cases h : errors = 0
      · rw [if_pos h]
        exact iff_of_false nofun fun hnot => hnot.2 rfl h
      · rw [if_neg h]
        exact iff_of_true rfl ⟨rfl, fun _ => h⟩

theorem undecided_concat_iff : (p.steps maxDelay (xs ++ [x])).findSome? (·.verdict? kind id) = none ↔
    (p.steps maxDelay xs).findSome? (·.verdict? kind id) = none ∧ x.decides kind id = false ∧
      (x.fails → (xs.foldl (Post.take maxDelay) p).loop.errors ≠ 0) := by
  rw [steps_append, List.findSome?_append, Option.or_eq_none_iff, Post.steps, Post.steps,
    List.append_nil, undecided_step_iff]

/-- Where the connection may be after a DISCONNECT, while a packet that was sent since is not decided on. -/
inductive Sequel (since : List Input) : Line → Nat → Prop where
  | up : Sequel since .up 0
  | closing (calm : ∀ x ∈ since, x.turns = false) :
      Sequel since .closing (if since.any Input.resets then 0 else 1)
  | down {errors : Nat} (failed : errors ≠ 0) (quiet : ∀ x ∈ since, x.resets = false) :
      Sequel since .down errors

theorem Sequel.take {line : Line} {since : List Input} (h : Sequel since line errors)
    (hline : line.allows x) (hx : x.decides kind id = false) (hfails : x.fails → errors ≠ 0) :
    Sequel (since ++ [x]) (line.next x) (x.count errors) := by
  cases hturns : x.turns with
  | false =>
    obtain ⟨hnext, hcount, -⟩ := of_calm line errors hturns
    rw [hnext, hcount]
    cases h with
    | up =>
      rw [ite_self]
      exact .up
    | closing calm =>
      rw [← ite_resets_concat]
      exact .closing (forall_mem_concat calm hturns)
    | down failed quiet =>
      have hresets := resets_of_down hline hturns
      rw [hresets]
      exact .down failed (forall_mem_concat quiet hresets)
  | true =>
    obtain ⟨code, present, rfl⟩ | rfl | ⟨reason, rfl⟩ := of_turns hturns
    · obtain ⟨rfl, -⟩ := allows_connAck_iff.mp hline
      exact .up
    · cases hx
    · refine .down min_maxErrors_ne_zero (forall_mem_concat ?_ rfl)
      cases h with
      | up => exact absurd rfl (hfails rfl)
      | closing calm =>
        -- the loss is not noticed, so that the count is not zero and nothing has reset it
        have hone := hfails rfl
        simpa using hone
      | down failed quiet => exact quiet

/-- What an undecided packet leaves of the connection, from what a single input leaves. -/
theorem undecided_induction {P : List Input → Line → Nat → Prop} {front late : List Input}
    (h : Throughout Input.Admitted (front ++ late)) (hrun : .result .sentDisconnect ∉ front ++ late)
    (hlate : ((Post.after maxDelay front).steps maxDelay late).findSome? (·.verdict? kind id) = none)
    (start : P [] (lineAfter front) (Post.after maxDelay front).loop.errors)
    (take : ∀ {xs x line errors}, P xs line errors → line.allows x → x.decides kind id = false →
      (x.fails → errors ≠ 0) → P (xs ++ [x]) (line.next x) (x.count errors)) :
    P late (lineAfter (front ++ late)) (Post.after maxDelay (front ++ late)).loop.errors := by
  induction late using List.reverseRecOn with
  | nil => rwa [List.append_nil]
  | append_singleton late x ih =>
    obtain ⟨hlate, hdecides, hfails⟩ := undecided_concat_iff.mp hlate
    rw [← List.append_assoc] at h hrun ⊢
    have hrun' : .result .sentDisconnect ∉ front ++ late := mt (List.mem_append_left _) hrun
    rw [lineAfter_concat, errors_concat hrun']
    refine take (ih h.front hrun' hlate) h.at hdecides ?_
    rw [Post.after, List.foldl_append]
    exact hfails

theorem decides_eq_false {front late : List Input} (h :
    ((Post.after maxDelay front).steps maxDelay late).findSome? (·.verdict? kind id) = none) :
    ∀ x ∈ late, x.decides kind id = false := by
  induction late using List.reverseRecOn with
  | nil => exact fun _ hx => absurd hx List.not_mem_nil
  | append_singleton late x ih =>
    obtain ⟨hlate, hdecides, -⟩ := undecided_concat_iff.mp h
    exact forall_mem_concat (ih hlate) hdecides

theorem step?_eq_sent_iff : x.step? errors = some (.sent kind id) ↔ x = .result (.sent kind id) := by
  cases x with
  | request => simp [Input.step?]
  | result polled =>
    cases polled with
    | failed reason =>
      rw [Input.step?, Polled.step?]
      split <;> simp
    | connAck | publish | subAck | unsubAck | disconnect | sent | sentDisconnect | other =>
      simp [Input.step?, Polled.step?]

theorem backed_history (h : Throughout (Input.Backed maxDelay) inputs)
    (hrun : .result .sentDisconnect ∉ inputs) : Throughout Step.Backed (history maxDelay inputs) := by
  induction inputs using List.reverseRecOn with
  | nil => exact fun n hn => absurd hn (Nat.not_lt_zero n)
  | append_singleton xs x ih =>
    have hrun' : .result .sentDisconnect ∉ xs := mt (List.mem_append_left _) hrun
    rw [history_concat]
    cases hs : x.step? (Post.after maxDelay xs).loop.errors with
    | none => exact (List.append_nil (history maxDelay xs)).symm ▸ ih h.front hrun'
    | some s =>
      refine (ih h.front hrun').concat ?_
      cases s with
      | sent kind id =>
        obtain rfl := step?_eq_sent_iff.mp hs
        have hlt : _ < _ := h.at
        rw [Post.waiters, (keeps_after _ hrun').asked, ← packets_history] at hlt
        exact hlt
      | request | acknowledged | lost | closed => trivial

theorem undecided_of_quiet (h : p.Keeps d) (hxs : .result .sentDisconnect ∉ xs)
    (hdecides : ∀ x ∈ xs, x.decides kind id = false)
    (hquiet : (∀ x ∈ xs, x.fails = false) ∨ p.loop.errors ≠ 0 ∧ ∀ x ∈ xs, x.resets = false) :
    (p.steps maxDelay xs).findSome? (·.verdict? kind id) = none := by
  induction xs using List.reverseRecOn with
  | nil => rfl
  | append_singleton xs x ih =>
    rw [List.forall_mem_append, List.forall_mem_singleton] at hdecides
    rw [List.forall_mem_append, List.forall_mem_append, List.forall_mem_singleton,
      List.forall_mem_singleton] at hquiet
    have hxs' : .result .sentDisconnect ∉ xs := mt (List.mem_append_left _) hxs
    refine undecided_concat_iff.mpr ⟨ih hxs' hdecides.1 (hquiet.imp And.left (And.imp_right And.left)),
      hdecides.2, fun hfails => ?_⟩
    obtain ⟨-, hnot⟩ | ⟨herrors, hresets, -⟩ := hquiet
    · exact absurd hfails (Bool.eq_false_iff.mp hnot)
    · exact errors_of_quiet h hxs' herrors hresets

/-- On a connection that is up, a failure would be the first one. -/
theorem up_of_undecided (hline : Line.up.allows x) (hx : x.decides kind id = false)
    (hfails : x.fails → 0 ≠ 0) : Line.up.next x = .up ∧ x.count 0 = 0 := by
  cases hturns : x.turns with
  | false =>
    obtain ⟨hnext, hcount, -⟩ := of_calm .up 0 hturns
    exact ⟨hnext, hcount.trans (ite_self _)⟩
  | true =>
    obtain ⟨code, present, rfl⟩ | rfl | ⟨reason, rfl⟩ := of_turns hturns
    · exact absurd rfl (allows_connAck_iff.mp hline).2
    · cases hx
    · exact absurd rfl (hfails rfl)

/-- A packet under way was sent after a DISCONNECT, unless the connection is up. -/
theorem overlooked_of_undecided {front late : List Input}
    (h : Throughout Input.Admitted (front ++ .result (.sent kind id) :: late))
    (hrun : .result .sentDisconnect ∉ front ++ .result (.sent kind id) :: late)
    (hdown : lineAfter (front ++ .result (.sent kind id) :: late) ≠ .up)
    (hlate : ((Post.after maxDelay (front ++ [.result (.sent kind id)])).steps maxDelay late).findSome?
      (·.verdict? kind id) = none) :
    ∃ earlier since, front = earlier ++ .result .disconnect :: since ∧
      Overlooked kind id since late := by
  have hfront : .result .sentDisconnect ∉ front := mt (List.mem_append_left _) hrun
  have hallows := h.at
  have hsent : lineAfter (front ++ [.result (.sent kind id)]) = lineAfter front ∧
      (Post.after maxDelay (front ++ [.result (.sent kind id)])).loop.errors =
        (Post.after maxDelay front).loop.errors := ⟨lineAfter_concat, errors_concat hfront⟩
  have hstanding := standing_after maxDelay h.front hfront
  rw [Input.Admitted] at hallows
  rw [List.append_cons] at h hrun hdown
  generalize hline : lineAfter front = line at hsent hstanding hallows
  generalize herrors : (Post.after maxDelay front).loop.errors = errors at hsent hstanding
  cases hstanding with
  | down => cases hallows
  | up =>
    refine absurd ?_ hdown
    refine (undecided_induction (P := fun _ line errors => line = .up ∧ errors = 0) h hrun hlate
      hsent ?_).1
    rintro xs x _ _ ⟨rfl, rfl⟩ hallows hdecides hfails
    exact up_of_undecided hallows hdecides hfails
  | @closing earlier since calm =>
    have hsequel := undecided_induction
      (P := fun xs => Sequel (since ++ .result (.sent kind id) :: xs)) h hrun hlate
      (by
        have hclosing := Sequel.closing (forall_mem_concat (x := .result (.sent kind id)) calm rfl)
        rw [ite_resets_concat] at hclosing
        rw [hsent.1, hsent.2]
        exact hclosing)
      (fun hsequel hallows hdecides hfails => by
        rw [← List.cons_append, ← List.append_assoc]
        exact hsequel.take hallows hdecides hfails)
    refine ⟨earlier, since, rfl, calm, decides_eq_false hlate, ?_⟩
    generalize lineAfter _ = line at hdown hsequel
    generalize EventLoop.errors _ = errors at hsequel
    cases hsequel with
    | up => exact absurd rfl hdown
    | closing calm =>
      refine .inl fun x hx => (of_calm .up 0 (calm x ?_)).2.2
      exact List.mem_append_right _ (List.mem_cons_of_mem _ hx)
    | down failed quiet =>
      refine .inr fun x hx => quiet x ?_
      obtain hx | hx := List.mem_append.mp hx
      · exact List.mem_append_left _ hx
      · exact List.mem_append_right _ (List.mem_cons_of_mem _ hx)

/-- A packet that is overlooked is under way. -/
theorem undecided_of_overlooked (maxDelay : Nat) {earlier since late : List Input}
    (h : Overlooked kind id since late)
    (hrun : .result .sentDisconnect ∉
      (earlier ++ .result .disconnect :: since) ++ .result (.sent kind id) :: late) :
    ((Post.after maxDelay
        (earlier ++ .result .disconnect :: since ++ [.result (.sent kind id)])).steps maxDelay late).findSome?
      (·.verdict? kind id) = none := by
  have hfront : .result .sentDisconnect ∉
      earlier ++ .result .disconnect :: since ++ [.result (.sent kind id)] := fun hin =>
    hrun (List.append_cons .. ▸ List.mem_append_left _ hin)
  have hlate : .result .sentDisconnect ∉ late := fun hin =>
    hrun (List.mem_append_right _ (List.mem_cons_of_mem _ hin))
  refine undecided_of_quiet (keeps_after _ hfront) hlate h.undecided (h.unnoticed.imp_right fun hquiet => ?_)
  rw [List.forall_mem_append] at hquiet
  refine ⟨?_, hquiet.2⟩
  -- the DISCONNECT counts as the first failure
  have hlost : .result .sentDisconnect ∉ earlier := fun hin => by simp [hin] at hfront
  have hsince : .result .sentDisconnect ∉ since ++ [.result (.sent kind id)] := fun hin => by
    simp [hin] at hfront
  have hone : (Post.after maxDelay (earlier ++ [.result .disconnect])).loop.errors = 1 :=
    errors_concat hlost
  have hkeeps : (Post.after maxDelay (earlier ++ [.result .disconnect])).Keeps _ :=
    keeps_after _ (by simpa using hlost)
  have hsplit : earlier ++ .result .disconnect :: since ++ [.result (.sent kind id)] =
      (earlier ++ [.result .disconnect]) ++ (since ++ [.result (.sent kind id)]) := by simp
  rw [hsplit, Post.after, List.foldl_append]
  exact errors_of_quiet hkeeps hsince (hone ▸ Nat.one_ne_zero) (forall_mem_concat hquiet.1 rfl)

/-- How a packet is decided on before the loop ends. -/
theorem outcome_of_step {outcome : Outcome} (hx : x.step? errors = some s)
    (hs : s.verdict? kind id = some outcome) (hrun : x ≠ .result .sentDisconnect) :
    (∃ granted, x = .result (.acknowledgment kind id granted) ∧ outcome = .verdict kind granted) ∨
    (∃ reason, outcome = .refused ("connection lost: " ++ reason)) ∨
    x = .result (.sent kind id) ∧ outcome = .abandoned := by
  cases x with
  | request =>
    cases hx
    cases hs
  | result polled =>
    cases polled with
    | connAck | publish | other => cases hx
    | subAck id' granted =>
      cases hx
      rw [AckTracker.verdict?_acknowledged, Option.ite_none_right_eq_some] at hs
      obtain ⟨⟨rfl, rfl⟩, hs⟩ := hs
      exact .inl ⟨granted, rfl, (Option.some.inj hs).symm⟩
    | unsubAck id' =>
      cases hx
      rw [AckTracker.verdict?_acknowledged, Option.ite_none_right_eq_some] at hs
      obtain ⟨⟨rfl, rfl⟩, hs⟩ := hs
      exact .inl ⟨[], rfl, (Option.some.inj hs).symm⟩
    | sent kind' id' =>
      cases hx
      rw [AckTracker.verdict?_sent, Option.ite_none_right_eq_some] at hs
      obtain ⟨⟨rfl, rfl⟩, hs⟩ := hs
      exact .inr (.inr ⟨rfl, (Option.some.inj hs).symm⟩)
    | disconnect =>
      cases hx
      cases hs
      exact .inr (.inl ⟨_, rfl⟩)
    | sentDisconnect => exact absurd rfl hrun
    | failed reason =>
      rw [Input.step?, Polled.step?] at hx
      split at hx
      · cases hx
        cases hs
        exact .inr (.inl ⟨_, rfl⟩)
      · cases hx

theorem not_mem_history (h : .result .sentDisconnect ∉ xs) : .closed ∉ history maxDelay xs := by
  intro hin
  obtain ⟨x, hx, errors, hs⟩ := mem_steps hin
  cases x with
  | request => cases hs
  | result polled =>
    cases polled with
    | sentDisconnect => exact h hx
    | failed =>
      rw [Input.step?, Polled.step?] at hs
      split at hs <;> cases hs
    | connAck | publish | subAck | unsubAck | disconnect | sent | other => cases hs

theorem history_sent : history maxDelay (xs ++ .result (.sent kind id) :: ys) =
    history maxDelay xs ++ .sent kind id ::
      (Post.after maxDelay (xs ++ [.result (.sent kind id)])).steps maxDelay ys := by
  rw [history_append, after_concat]
  rfl

/-! ### When a reconnect succeeds -/

/-- The waiter of a packet is that of the request with its place. -/
theorem waiter_of_sent {front late : List Input} (hbacked : Throughout (Input.Backed maxDelay) inputs)
    (hrun : .result .sentDisconnect ∉ inputs) (heq : inputs = front ++ .result (.sent kind id) :: late) :
    .closed ∉ history maxDelay front ∧
    ((Post.after maxDelay inputs).waiters kind)[front.countP (·.isPacket kind)]? =
      ((Docket.after (history maxDelay front)).waiters kind)[packets kind (history maxDelay front)]? := by
  have hsteps := backed_history hbacked hrun
  have hwaiters : (Post.after maxDelay inputs).waiters kind =
      (Docket.after (history maxDelay inputs)).waiters kind := congrArg _ (keeps_after _ hrun).asked
  subst heq
  have hfront : .closed ∉ history maxDelay front := not_mem_history (mt (List.mem_append_left _) hrun)
  rw [history_sent] at hsteps
  obtain ⟨first, -, -, hfirst⟩ := AckTracker.first_waiter hsteps hfront
  refine ⟨hfront, ?_⟩
  rw [hwaiters, hfirst, ← packets_history maxDelay, history_sent]
  exact AckTracker.waiters_after _ hfirst

/-- While there is no connection, the packets under way are those that the loop has overlooked. -/
theorem mem_inFlight_iff (hline : Throughout Input.Admitted inputs)
    (hbacked : Throughout (Input.Backed maxDelay) inputs) (hrun : .result .sentDisconnect ∉ inputs)
    (hdown : lineAfter inputs ≠ .up) :
    (id, w) ∈ (Post.after maxDelay inputs).inFlight kind ↔ ∃ earlier since late,
      inputs = (earlier ++ .result .disconnect :: since) ++ .result (.sent kind id) :: late ∧
      ((Post.after maxDelay inputs).waiters kind)[
        (earlier ++ .result .disconnect :: since).countP (·.isPacket kind)]? = some w ∧
      Overlooked kind id since late := by
  have hsteps := backed_history hbacked hrun
  rw [Post.inFlight, (keeps_after _ hrun).acks]
  constructor
  · intro hflight
    obtain ⟨before, rest, hsplit, -, hw, hrest⟩ := (AckTracker.mem_inFlight_iff hsteps).mp hflight
    obtain ⟨front, x, late, heq, rfl, ⟨errors, hx⟩, rfl⟩ := split_steps hsplit
    obtain rfl := step?_eq_sent_iff.mp hx
    obtain ⟨earlier, since, rfl, hoverlooked⟩ := overlooked_of_undecided (heq ▸ hline)
      (heq ▸ hrun) (heq ▸ hdown) (after_concat maxDelay ▸ hrest)
    exact ⟨earlier, since, late, heq, (waiter_of_sent hbacked hrun heq).2.trans hw, hoverlooked⟩
  · rintro ⟨earlier, since, late, heq, hw, hoverlooked⟩
    obtain ⟨hclosed, hnext⟩ := waiter_of_sent hbacked hrun heq
    have hundecided := undecided_of_overlooked maxDelay hoverlooked (heq ▸ hrun)
    rw [hnext] at hw
    rw [heq, history_sent] at hsteps ⊢
    exact AckTracker.inFlight_of_undecided hsteps hclosed hw hundecided

/-- A packet is under way, or its waiter has learned one outcome. -/
theorem told_of_sent {front late : List Input} (hbacked : Throughout (Input.Backed maxDelay) inputs)
    (hrun : .result .sentDisconnect ∉ inputs) (heq : inputs = front ++ .result (.sent kind id) :: late) :
    ∃ w, ((Post.after maxDelay inputs).waiters kind)[front.countP (·.isPacket kind)]? = some w ∧
      ((id, w) ∈ (Post.after maxDelay inputs).inFlight kind ∧ (Post.after maxDelay inputs).outcomes w = [] ∨
        ∃ outcome, (Post.after maxDelay inputs).outcomes w = [outcome] ∧
          ((∃ granted, .result (.acknowledgment kind id granted) ∈ late ∧
              outcome = .verdict kind granted) ∨
            (∃ reason, outcome = .refused ("connection lost: " ++ reason)) ∨
            .result (.sent kind id) ∈ late ∧ outcome = .abandoned)) := by
  have hkeeps := keeps_after maxDelay hrun
  have hsteps := backed_history hbacked hrun
  obtain ⟨hclosed, hnext⟩ := waiter_of_sent hbacked hrun heq
  have hhistory := congrArg (history maxDelay) heq
  rw [history_sent] at hhistory
  rw [hhistory] at hkeeps hsteps
  obtain ⟨w, hw, hlearns⟩ := AckTracker.outcomes_of_packet hsteps hclosed
  rw [Docket.outcomes, ← hkeeps.settled] at hlearns
  refine ⟨w, hnext.trans hw, ?_⟩
  cases hrest : ((Post.after maxDelay (front ++ [.result (.sent kind id)])).steps maxDelay
      late).findSome? (·.verdict? kind id) with
  | none =>
    rw [hrest] at hlearns
    rw [Post.inFlight, hkeeps.acks]
    exact .inl ⟨AckTracker.inFlight_of_undecided hsteps hclosed hw hrest, hlearns⟩
  | some outcome =>
    rw [hrest] at hlearns
    obtain ⟨s, hs, hverdict⟩ := List.exists_of_findSome?_eq_some hrest
    obtain ⟨x, hx, errors, hstep⟩ := mem_steps hs
    have hne : x ≠ .result .sentDisconnect := by
      rintro rfl
      exact hrun (heq ▸ List.mem_append_right _ (List.mem_cons_of_mem _ hx))
    refine .inr ⟨outcome, hlearns, ?_⟩
    obtain ⟨granted, rfl, rfl⟩ | hlost | ⟨rfl, rfl⟩ := outcome_of_step hstep hverdict hne
    · exact .inl ⟨granted, hx, rfl⟩
    · exact .inr (.inl hlost)
    · exact .inr (.inr ⟨hx, rfl⟩)

variable {present : Bool}

/-- A successful CONNACK tells the waiters nothing. -/
theorem after_connAck (maxDelay : Nat) (present : Bool) (hrun : .result .sentDisconnect ∉ inputs) :
    let p := Post.after maxDelay inputs
    let p' := Post.after maxDelay (inputs ++ [.result (.connAck .success present)])
    (∀ kind, p'.inFlight kind = p.inFlight kind) ∧ (∀ kind, p'.waiters kind = p.waiters kind) ∧
      ∀ w, p'.outcomes w = p.outcomes w := by
  have hrun' : .result .sentDisconnect ∉ inputs ++ [.result (.connAck .success present)] := by
    simpa using hrun
  have hkeeps := keeps_after maxDelay hrun
  have hkeeps' := keeps_after maxDelay hrun'
  have hhistory : history maxDelay (inputs ++ [.result (.connAck .success present)]) =
      history maxDelay inputs := history_concat.trans (List.append_nil _)
  rw [hhistory] at hkeeps'
  refine ⟨fun kind => ?_, fun kind => ?_, fun w => ?_⟩
  · rw [Post.inFlight, Post.inFlight, hkeeps.acks, hkeeps'.acks]
  · rw [Post.waiters, Post.waiters, hkeeps.asked, hkeeps'.asked]
  · rw [Post.outcomes, Post.outcomes, hkeeps.settled, hkeeps'.settled]

/-- When a reconnect succeeds, the packets under way are those that the loop has overlooked. They were sent
between a DISCONNECT of the broker and the end of that connection. Each other packet of an earlier
connection was acknowledged, or its waiter knows that the connection was lost or that another packet took
its id. -/
theorem inFlight_reconnected_iff
    (hline : Throughout Input.Admitted (inputs ++ [.result (.connAck .success present)]))
    (hbacked : Throughout (Input.Backed maxDelay) inputs) (hrun : .result .sentDisconnect ∉ inputs) :
    let p := Post.after maxDelay (inputs ++ [.result (.connAck .success present)])
    (∀ kind id w, (id, w) ∈ p.inFlight kind ↔ ∃ earlier since late,
      inputs = (earlier ++ .result .disconnect :: since) ++ .result (.sent kind id) :: late ∧
      (p.waiters kind)[(earlier ++ .result .disconnect :: since).countP (·.isPacket kind)]? = some w ∧
      Overlooked kind id since late) ∧
    ∀ kind id earlier late, inputs = earlier ++ .result (.sent kind id) :: late → ∃ w,
      (p.waiters kind)[earlier.countP (·.isPacket kind)]? = some w ∧
      ((id, w) ∈ p.inFlight kind ∧ p.outcomes w = [] ∨ ∃ outcome, p.outcomes w = [outcome] ∧
        ((∃ granted, .result (.acknowledgment kind id granted) ∈ late ∧
            outcome = .verdict kind granted) ∨
          (∃ reason, outcome = .refused ("connection lost: " ++ reason)) ∨
          .result (.sent kind id) ∈ late ∧ outcome = .abandoned)) := by
  intro p
  obtain ⟨hinFlight, hwaiters, houtcomes⟩ := after_connAck maxDelay present hrun
  have hdown : lineAfter inputs ≠ .up := (allows_connAck_iff.mp hline.at).2
  simp only [p, hinFlight, hwaiters, houtcomes]
  exact ⟨fun kind id w => mem_inFlight_iff hline.front hbacked hrun hdown,
    fun kind id earlier late heq => told_of_sent hbacked hrun heq⟩

end Steps

/-! ### Around a DISCONNECT -/

/-- One packet is sent before a DISCONNECT of the broker, the other one after it. -/
def parting : List Input := [
  .request .subscribe, .request .unsubscribe, .result (.sent .subscribe 1), .result .disconnect,
  .result (.sent .unsubscribe 2), .result (.failed "connection closed by peer")]

theorem inFlight_reconnected_parting :
    let p := Post.after 30000 (parting ++ [.result (.connAck .success false)])
    (2, 1) ∈ p.inFlight .unsubscribe ∧ ∃ w reason, (p.waiters .subscribe)[0]? = some w ∧
      p.outcomes w = [.refused ("connection lost: " ++ reason)] := by
  intro p
  have hline : Throughout Input.Admitted (parting ++ [.result (.connAck .success false)]) := by decide
  have hbacked : Throughout (Input.Backed 30000) parting := by decide
  obtain ⟨hiff, htold⟩ := inFlight_reconnected_iff hline hbacked (by decide)
  refine ⟨(hiff .unsubscribe 2 1).mpr ⟨parting.take 3, [], parting.drop 5, rfl, rfl,
    ⟨by decide, by decide, .inr (by decide)⟩⟩, ?_⟩
  have hnone : p.inFlight .subscribe = [] := rfl
  obtain ⟨w, hw, ⟨hflight, -⟩ | ⟨outcome, houtcome, ⟨granted, hin, -⟩ | ⟨reason, rfl⟩ | ⟨hin, -⟩⟩⟩ :=
    htold .subscribe 1 (parting.take 2) (parting.drop 3) rfl
  · rw [hnone] at hflight
    cases hflight
  · simp [parting, Polled.acknowledgment] at hin
  · exact ⟨w, reason, hw, houtcome⟩
  · simp [parting] at hin

/-- The request is sent after the DISCONNECT. The failure of the connection is the second one in a row, so
that the packet is under way when the next connection is there, and its waiter has learned nothing. -/
theorem packet_overlooked :
    let inputs : List Input := [.request .subscribe, .result .disconnect, .result (.sent .subscribe 1),
      .result (.failed "connection closed by peer")]
    let p := Post.after 30000 (inputs ++ [.result (.connAck .success false)])
    Throughout Input.Admitted (inputs ++ [.result (.connAck .success false)]) ∧
      Throughout (Input.Backed 30000) inputs ∧ .result .sentDisconnect ∉ inputs ∧
      p.inFlight .subscribe = [(1, 0)] ∧ p.outcomes 0 = [] := by
  decide

end SensorBridge.Mqtt
