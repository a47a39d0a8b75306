import SensorBridge.Proofs.Discipline

/-!
What becomes of subscriptions when a session gets a new connection. Each topic of the table is
subscribed on it, is about to be, or was overtaken: it was being registered, on an earlier connection,
when the router learned of the new one.
-/
namespace SensorBridge

open Routine

/-- The worker is on its way to a SUBSCRIBE for a topic, on the `n`-th connection. -/
inductive Worker.Owes (session : SessionId) (topic : String) (n : Nat) (w : Worker) : Prop where
  | alerted {url : String} : w.role = .job (.router url session) → w.rest = alerted session →
      Owes session topic n w
  | heralding {url : String} {topics : List String} : w.role = .job (.router url session) →
      w.rest = heralding session topics → topic ∈ topics → Owes session topic n w
  | renewing {all topics : List String} : w.role = .job (.resubscribe session all) →
      w.rest = renewing session topics → topic ∈ topics → Owes session topic n w
  | looking {all topics : List String} {t : String} : w.role = .job (.resubscribe session all) →
      w.rest = looking session t topics → topic ∈ t :: topics → Owes session topic n w
  | subscribing {all topics : List String} {t : String} {qos : Qos} :
      w.role = .job (.resubscribe session all) → w.rest = subscribing session t qos topics →
      (topic = t ∧ (w.sent = none ∨ w.sent = some n)) ∨ topic ∈ topics → Owes session topic n w
  | yielding {all topics : List String} : w.role = .job (.resubscribe session all) →
      w.rest = yielding session topics → topic ∈ topics → Owes session topic n w

namespace Interplay

/-- A SUBSCRIBE on a connection of a session failed. -/
def Refused (σ : Interplay) (session : SessionId) (topic : String) (n : Nat) : Prop :=
  ∃ x ∈ σ.history, x.refuses session n && x.answers topic

instance {σ : Interplay} {session : SessionId} {topic : String} {n : Nat} :
    Decidable (σ.Refused session topic n) :=
  inferInstanceAs (Decidable (∃ x ∈ σ.history, x.refuses session n && x.answers topic))

/-- A worker is on its way to subscribe a topic on the present connection. -/
def Owed (σ : Interplay) (session : SessionId) (topic : String) : Prop :=
  ∃ (i : Nat) (w : Worker), σ.workers[i]? = some w ∧ w.Owes session topic (σ.connections session)

/-- The router is yet to learn of a connection, or the topic was overtaken when it learned of the
last one. -/
def Missed (σ : Interplay) (session : SessionId) (topic : String) : Prop :=
  0 < σ.due session ∨ topic ∈ σ.overtaken session

structure Resumed (σ : Interplay) : Prop where
  entering : ∀ (i : Nat) (w : Worker) session topic n, σ.workers[i]? = some w →
    w.entering = some (session, topic, n) → n ≤ σ.connections session ∧
      (n < σ.connections session → σ.Missed session topic)
  tables : ∀ session topic qos, σ.memory.ledger.Lists session topic qos →
    σ.Granted session topic (σ.connections session) ∨
      σ.Refused session topic (σ.connections session) ∨ σ.Missed session topic ∨ σ.Owed session topic

end Interplay

section Reconnection

variable {settings : ConnectorSettings} {read : PayloadReaders} {σ σ' : Interplay} {i n : Nat}
  {w : Worker} {session : SessionId} {topic : String} {qos : Qos} {r : Request}
  {k : r.Answer → Routine Bool} {a : r.Answer}

/-- A turn lists a topic anew only for a worker that registers it and was granted it. -/
theorem Consistent.lists_of_serving (h : Consistent read σ) (hw : σ.workers[i]? = some w)
    (hrest : w.rest = .ask r k) (hallow : σ.Allows r a)
    (hl : (σ.serving settings read i w r k a).memory.ledger.Lists session topic qos) :
    σ.memory.ledger.Lists session topic qos ∨
      ∃ n, w.entering = some (session, topic, n) ∧ σ.Granted session topic n := by
  cases r with
  | update f =>
    cases h.workers i w hw with
    | following hrole hsafe hheld =>
      rw [hrest] at hsafe
      obtain ⟨-, hlists, -⟩ := hsafe σ.memory h.proper hheld.knows
      obtain hl | rfl := hlists _ _ _ hl
      · exact .inl hl
      · exact .inr (hheld.2.2.2 topic rfl).2
    | listening hrole hroute => cases hrest.symm.trans hroute
    | alerted hrole halerted =>
      obtain ⟨hupdate, -⟩ := Routine.ask.inj (hrest.symm.trans halerted)
      obtain rfl := Request.update.inj hupdate
      exact .inl hl
    | heralding hrole hheralding => cases hrest.symm.trans hheralding
    | resubscribing hrole hnodup hsub hstage =>
      cases hstage with
      | looking h' =>
        obtain ⟨hupdate, -⟩ := Routine.ask.inj (hrest.symm.trans h')
        obtain rfl := Request.update.inj hupdate
        exact .inl hl
      | finished h' | renewing h' | subscribing h' | awaiting h' | yielding h' => cases hrest.symm.trans h'
  | call c =>
    obtain ⟨x, rfl⟩ := exists_reply hallow
    exact .inl hl
  | nextEvent s =>
    match a with
    | none | some (.message _) | some (.lost _) | some (.connected true)
    | some (.connected false) => exact .inl hl
  | _ => exact .inl hl

/-! ### What an answer leaves as it was -/

theorem Interplay.workers_affected : ∃ born, (σ.affected settings read i w r a).workers =
    σ.workers ++ born ∧ ∀ v ∈ born, v.entering = none := by
  have hnone : ∃ born, σ.workers = σ.workers ++ born ∧ ∀ v ∈ born, v.entering = none :=
    ⟨[], (List.append_nil _).symm, by simp⟩
  cases r with
  | spawn job =>
    refine ⟨_, rfl, fun v hv => ?_⟩
    obtain rfl := List.mem_singleton.mp hv
    rfl
  | call c => cases a <;> exact hnone
  | nextEvent s =>
    match a with
    | none | some (.message _) | some (.lost _) | some (.connected true)
    | some (.connected false) => exact hnone
  | _ => exact hnone

theorem Interplay.connections_affected :
    (σ.affected settings read i w r a).connections = σ.connections := by
  cases r with
  | call c => cases a <;> rfl
  | nextEvent s =>
    match a with
    | none | some (.message _) | some (.lost _) | some (.connected true)
    | some (.connected false) => rfl
  | _ => rfl

theorem Interplay.mem_history_affected {x : Note} (hx : x ∈ σ.history) :
    x ∈ (σ.affected settings read i w r a).history := by
  cases r with
  | call c =>
    cases a with
    | error f => exact hx
    | ok reply => exact List.mem_cons_of_mem _ hx
  | nextEvent s =>
    match a with
    | none | some (.message _) | some (.lost _) | some (.connected true)
    | some (.connected false) => exact hx
  | _ => exact hx

/-- Only an event changes which connections and topics were missed. -/
theorem Interplay.missed_affected (hr : ∀ s, r ≠ .nextEvent s) :
    (σ.affected settings read i w r a).Missed session topic ↔ σ.Missed session topic := by
  cases r with
  | call c => cases a <;> rfl
  | nextEvent s => exact absurd rfl (hr s)
  | _ => rfl

theorem Worker.entering_served {g : Ledger} {rest : Routine Bool} :
    (w.served r rest g).entering = w.entering ∨ (w.served r rest g).entering = none := by
  cases r with
  | release l => cases l <;> simp [Worker.served]
  | _ => exact .inl rfl

/-! ### How a worker that owes a SUBSCRIBE comes to it -/

theorem Consistent.owed_of_serving (h : Consistent read σ) (hw : σ.workers[i]? = some w)
    (hrest : w.rest = .ask r k) (hcall : r.isCall → w.sent ≠ none) (hallow : σ.Allows r a)
    (ho : w.Owes session topic (σ.connections session))
    (hl : σ.memory.ledger.Lists session topic qos) :
    (σ.serving settings read i w r k a).Granted session topic (σ.connections session) ∨
      (σ.serving settings read i w r k a).Refused session topic (σ.connections session) ∨
      (σ.serving settings read i w r k a).Owed session topic := by
  have hlt : i < σ.workers.length := (List.getElem?_eq_some_iff.mp hw).1
  have hself {v : Worker} : (σ.workers.set i v)[i]? = some v := List.getElem?_set_self hlt
  cases ho with
  | alerted hrole h' =>
    obtain ⟨rfl, hk⟩ := Routine.ask.inj (hrest.symm.trans h')
    obtain rfl := eq_of_heq hk
    obtain rfl : a = σ.memory := hallow
    exact .inr (.inr ⟨i, _, hself, .heralding hrole rfl (h.proper.mem_topicsOf hl)⟩)
  | @heralding _ topics hrole h' hmem =>
    obtain ⟨rfl, hk⟩ := Routine.ask.inj (hrest.symm.trans h')
    obtain rfl := eq_of_heq hk
    let v : Worker := { role := .job (.resubscribe session topics), rest := renewing session topics }
    have hborn (x : Worker) : (σ.workers.set i x ++ [v])[σ.workers.length]? = some v := by
      rw [List.getElem?_append_right (by simp), List.length_set, Nat.sub_self]
      rfl
    exact .inr (.inr ⟨σ.workers.length, v, hborn _, .renewing rfl rfl hmem⟩)
  | @renewing all topics hrole h' hmem =>
    cases topics with
    | nil => cases hmem
    | cons t topics =>
      rw [renewing_cons] at h'
      obtain ⟨rfl, hk⟩ := Routine.ask.inj (hrest.symm.trans h')
      obtain rfl := eq_of_heq hk
      exact .inr (.inr ⟨i, _, hself, .looking hrole rfl hmem⟩)
  | @looking all topics t hrole h' hmem =>
    obtain ⟨rfl, hk⟩ := Routine.ask.inj (hrest.symm.trans h')
    obtain rfl := eq_of_heq hk
    obtain rfl : a = σ.memory := hallow
    refine .inr (.inr ⟨i, _, hself, ?_⟩)
    cases hfind : (σ.memory.linkOf? session).bind (·.find? t) with
    | none =>
      have hne : topic ≠ t := by
        rintro rfl
        obtain ⟨l, s, hlink, hs, -⟩ := h.proper.link_of_lists hl
        simp [hlink, hs] at hfind
      have hnext := congrArg (resuming session t topics) hfind
      exact .yielding hrole hnext (List.mem_of_ne_of_mem hne hmem)
    | some s =>
      have hnext := congrArg (resuming session t topics) hfind
      refine .subscribing hrole hnext ?_
      obtain rfl | hmem := List.mem_cons.mp hmem
      · exact .inl ⟨rfl, .inl rfl⟩
      · exact .inr hmem
  | subscribing hrole h' hmem =>
    obtain ⟨rfl, hk⟩ := Routine.ask.inj (hrest.symm.trans h')
    obtain rfl := eq_of_heq hk
    obtain ⟨x, rfl⟩ := exists_reply hallow
    obtain ⟨rfl, hnone | hsent⟩ | hmem := hmem
    · exact absurd hnone (hcall rfl)
    · cases x with
      | ok u =>
        refine .inl ⟨_, List.mem_cons_self, ?_⟩
        simp [Note.grants, hsent, Except.isOk, Except.toBool]
      | error e =>
        refine .inr (.inl ⟨_, List.mem_cons_self, ?_⟩)
        simp [Note.refuses, Note.answers, hsent, Except.isOk, Except.toBool]
    · exact .inr (.inr ⟨i, _, hself, .yielding hrole rfl hmem⟩)
  | yielding hrole h' hmem =>
    obtain ⟨rfl, hk⟩ := Routine.ask.inj (hrest.symm.trans h')
    obtain rfl := eq_of_heq hk
    exact .inr (.inr ⟨i, _, hself, .renewing hrole rfl hmem⟩)

theorem Worker.Owes.sending {c : Call} {m : Nat} (ho : w.Owes session topic n)
    {k : (Request.call c).Answer → Routine Bool} (hrest : w.rest = .ask (.call c) k)
    (hm : ∀ t q, c = .subscribe session t q → m = n) : (w.sending c m).Owes session topic n := by
  have hrole : (w.sending c m).role = w.role := by cases c <;> rfl
  have hsame : (w.sending c m).rest = w.rest := by cases c <;> rfl
  cases ho with
  | alerted _ h' | heralding _ h' | looking _ h' | yielding _ h' => cases hrest.symm.trans h'
  | @renewing _ topics _ h' hmem =>
    cases topics with
    | nil => cases hmem
    | cons t topics => cases hrest.symm.trans h'
  | subscribing hr h' hmem =>
    obtain rfl := Request.call.inj (Routine.ask.inj (hrest.symm.trans h')).1
    refine .subscribing (hrole.trans hr) (hsame.trans h') ?_
    obtain ⟨rfl, -⟩ | hmem := hmem
    · exact .inl ⟨rfl, .inr (congrArg some (hm _ _ rfl))⟩
    · exact .inr hmem

/-! ### The steps -/

/-- What a worker's turn keeps: the worker enters topics on the present connection only, comes to what it
owes and lists what it was granted. -/
structure Carries (σ σ' : Interplay) (i : Nat) (w w' : Worker) : Prop where
  workers : ∃ born, σ'.workers = σ.workers.set i w' ++ born ∧ ∀ v ∈ born, v.entering = none
  connections : σ'.connections = σ.connections
  missed : ∀ session topic, σ'.Missed session topic ↔ σ.Missed session topic
  history : ∀ x ∈ σ.history, x ∈ σ'.history
  entering : ∀ session topic n, w'.entering = some (session, topic, n) →
    w.entering = some (session, topic, n) ∨ n = σ.connections session
  owed : ∀ session topic qos, σ.memory.ledger.Lists session topic qos →
    w.Owes session topic (σ.connections session) →
      σ'.Granted session topic (σ.connections session) ∨
        σ'.Refused session topic (σ.connections session) ∨ σ'.Owed session topic
  lists : ∀ session topic qos, σ'.memory.ledger.Lists session topic qos →
    σ.memory.ledger.Lists session topic qos ∨
      ∃ n, w.entering = some (session, topic, n) ∧ σ.Granted session topic n

/-- Every turn but the one in which a router takes an event goes by this. -/
theorem Interplay.Resumed.carried {w' : Worker} (h : σ.Resumed) (hw : σ.workers[i]? = some w)
    (hc : Carries σ σ' i w w') : σ'.Resumed := by
  have hlt : i < σ.workers.length := (List.getElem?_eq_some_iff.mp hw).1
  obtain ⟨born, hworkers, hborn⟩ := hc.workers
  constructor
  · intro j v s t n hv hentering
    rw [hworkers] at hv
    rw [hc.connections, hc.missed]
    obtain ⟨rfl, rfl⟩ | ⟨-, hold⟩ | hnew := Interplay.worker_of_turn hlt hv
    · obtain hold | rfl := hc.entering s t n hentering
      · exact h.entering j w s t n hw hold
      · exact ⟨le_rfl, fun hlt => absurd hlt (lt_irrefl _)⟩
    · exact h.entering j v s t n hold hentering
    · rw [hborn v hnew] at hentering
      cases hentering
  · intro s t q hl
    rw [hc.missed, hc.connections]
    obtain hold | ⟨n, hentering, x, hx, hgrants⟩ := hc.lists s t q hl
    · obtain ⟨x, hx, hgrants⟩ | ⟨x, hx, hrefuses⟩ | hmissed | ⟨j, v, hv, ho⟩ := h.tables s t q hold
      · exact .inl ⟨x, hc.history x hx, hgrants⟩
      · exact .inr (.inl ⟨x, hc.history x hx, hrefuses⟩)
      · exact .inr (.inr (.inl hmissed))
      · by_cases hji : j = i
        · subst hji
          obtain rfl := Option.some.inj (hw.symm.trans hv)
          obtain hgranted | hrefused | howed := hc.owed s t q hold ho
          · exact .inl hgranted
          · exact .inr (.inl hrefused)
          · exact .inr (.inr (.inr howed))
        · have hj : j < σ.workers.length := (List.getElem?_eq_some_iff.mp hv).1
          refine .inr (.inr (.inr ⟨j, v, ?_, hc.connections ▸ ho⟩))
          rw [hworkers, List.getElem?_append_left (by rwa [List.length_set]),
            List.getElem?_set_ne (Ne.symm hji), hv]
    · -- a topic that was granted on an earlier connection was missed since
      obtain ⟨hle, hlater⟩ := h.entering i w s t n hw hentering
      obtain rfl | hn := Nat.eq_or_lt_of_le hle
      · exact .inl ⟨x, hc.history x hx, hgrants⟩
      · exact .inr (.inr (.inl (hlater hn)))

theorem Interplay.Resumed.starting (h : σ.Resumed) (role : Role) :
    (σ.starting settings read role).Resumed where
  entering := by
    intro j v s t n hv hentering
    obtain hold | ⟨-, rfl⟩ := Interplay.worker_of_starting hv
    · exact h.entering j v s t n hold hentering
    · cases hentering
  tables := by
    intro s t q hl
    obtain hgranted | hrefused | hmissed | ⟨j, v, hv, ho⟩ := h.tables s t q hl
    · exact .inl hgranted
    · exact .inr (.inl hrefused)
    · exact .inr (.inr (.inl hmissed))
    · have hlt : j < σ.workers.length := (List.getElem?_eq_some_iff.mp hv).1
      refine .inr (.inr (.inr ⟨j, v, ?_, ho⟩))
      rw [Interplay.starting, List.getElem?_append_left hlt, hv]

theorem Interplay.Resumed.reconnected (h : σ.Resumed) (session : SessionId) :
    (σ.reconnected session).Resumed where
  entering := by
    intro j v s t n hv hentering
    obtain ⟨hle, hmissed⟩ := h.entering j v s t n hv hentering
    by_cases hs : s = session
    · subst hs
      have hconnections : (σ.reconnected s).connections s = σ.connections s + 1 :=
        Function.update_self ..
      have hdue : (σ.reconnected s).due s = σ.due s + 1 := Function.update_self ..
      exact ⟨by omega, fun _ => .inl (by omega)⟩
    · have hconnections : (σ.reconnected session).connections s = σ.connections s :=
        Function.update_of_ne hs ..
      have hdue : (σ.reconnected session).due s = σ.due s := Function.update_of_ne hs ..
      rw [Interplay.Missed, hconnections, hdue]
      exact ⟨hle, hmissed⟩
  tables := by
    intro s t q hl
    by_cases hs : s = session
    · subst hs
      have hdue : (σ.reconnected s).due s = σ.due s + 1 := Function.update_self ..
      exact .inr (.inr (.inl (.inl (by omega))))
    · have hconnections : (σ.reconnected session).connections s = σ.connections s :=
        Function.update_of_ne hs ..
      have hdue : (σ.reconnected session).due s = σ.due s := Function.update_of_ne hs ..
      rw [Interplay.Missed, Interplay.Owed, hconnections, hdue]
      exact h.tables s t q hl

theorem Interplay.Resumed.sent {c : Call} {k : (Request.call c).Answer → Routine Bool}
    (h : σ.Resumed) (hw : σ.workers[i]? = some w) (hrest : w.rest = .ask (.call c) k) :
    (σ.sending i w c).Resumed := by
  have hlt : i < σ.workers.length := (List.getElem?_eq_some_iff.mp hw).1
  have hcarries : Carries σ (σ.sending i w c) i w (w.sending c (σ.connectionOf c)) := {
    workers := ⟨[], (List.append_nil _).symm, by simp⟩
    connections := rfl
    missed := fun _ _ => Iff.rfl
    history := fun x hx => List.mem_cons_of_mem _ hx
    entering := by
      intro s t n hentering
      cases c with
      | subscribe session topic qos =>
        simp only [Worker.sending] at hentering
        split at hentering
        · obtain ⟨rfl, -, rfl⟩ : session = s ∧ topic = t ∧ σ.connections session = n := by
            simpa [Interplay.connectionOf, Call.guarded?] using hentering
          exact .inr rfl
        · exact .inl hentering
      | _ => exact .inl hentering
    owed := by
      intro s t q _ ho
      refine .inr (.inr ⟨i, _, List.getElem?_set_self hlt, ho.sending hrest fun t q hc => ?_⟩)
      rw [hc]
      rfl
    lists := fun _ _ _ => .inl }
  exact h.carried hw hcarries

theorem Interplay.Resumed.served (h : σ.Resumed) (hc : Consistent read σ)
    (hw : σ.workers[i]? = some w) (hrest : w.rest = .ask r k) (hcall : r.isCall → w.sent ≠ none)
    (hallow : σ.Allows r a) (hr : ∀ s, r ≠ .nextEvent s) :
    (σ.serving settings read i w r k a).Resumed :=
  h.carried hw {
    workers := Interplay.workers_affected
    connections := Interplay.connections_affected
    missed := fun _ _ => Interplay.missed_affected hr
    history := fun x hx => Interplay.mem_history_affected hx
    entering := by
      intro s t n hentering
      obtain hsame | hnone := w.entering_served (r := r)
      · exact .inl (hsame.symm.trans hentering)
      · rw [hnone] at hentering
        cases hentering
    owed := fun _ _ _ hl ho => hc.owed_of_serving hw hrest hcall hallow ho hl
    lists := fun _ _ _ hl => hc.lists_of_serving hw hrest hallow hl }

/-- A worker that owes nothing may be left as another one. -/
theorem Interplay.Resumed.replaced {w' : Worker} (h : σ.Resumed) (hw : σ.workers[i]? = some w)
    (he : w'.entering = w.entering) (hn : ∀ s t n, ¬ w.Owes s t n) : (σ.replaced i w').Resumed :=
  h.carried hw {
    workers := ⟨[], (List.append_nil _).symm, by simp⟩
    connections := rfl
    missed := fun _ _ => Iff.rfl
    history := fun _ => id
    entering := fun _ _ _ hentering => .inl (he.symm.trans hentering)
    owed := fun _ _ _ _ ho => absurd ho (hn _ _ _)
    lists := fun _ _ _ => .inl }

/-- A router that has learned of a connection owes it all topics. -/
theorem Interplay.Resumed.notified {url : String} (h : σ.Resumed) (hw : σ.workers[i]? = some w)
    (hrole : w.role = .job (.router url session)) (hrest : w.rest = alerted session) :
    (σ.notified session).Resumed where
  entering := by
    intro j v s t n hv hentering
    obtain ⟨hle, hmissed⟩ := h.entering j v s t n hv hentering
    refine ⟨hle, fun hn => ?_⟩
    by_cases hs : s = session
    · subst hs
      have hovertaken : (σ.notified s).overtaken s =
          σ.workers.filterMap (·.overtaken? s (σ.connections s)) := Function.update_self ..
      rw [Interplay.Missed, hovertaken]
      refine .inr (List.mem_filterMap.mpr ⟨v, List.mem_of_getElem? hv, ?_⟩)
      rw [Worker.overtaken?, hentering]
      exact if_pos ⟨rfl, hn⟩
    · have hdue : (σ.notified session).due s = σ.due s := Function.update_of_ne hs ..
      have hovertaken : (σ.notified session).overtaken s = σ.overtaken s := Function.update_of_ne hs ..
      rw [Interplay.Missed, hdue, hovertaken]
      exact hmissed hn
  tables := by
    intro s t q hl
    by_cases hs : s = session
    · subst hs
      exact .inr (.inr (.inr ⟨i, w, hw, .alerted hrole hrest⟩))
    · have hdue : (σ.notified session).due s = σ.due s := Function.update_of_ne hs ..
      have hovertaken : (σ.notified session).overtaken s = σ.overtaken s := Function.update_of_ne hs ..
      rw [Interplay.Missed, hdue, hovertaken]
      exact h.tables s t q hl

/-- A worker that owes something asks for something other than an event. -/
theorem Worker.Owes.rest_eq (h : w.Owes session topic n) :
    ∃ r k, w.rest = .ask r k ∧ ∀ s, r ≠ .nextEvent s := by
  cases h with
  | alerted _ h' | heralding _ h' | looking _ h' | subscribing _ h' | yielding _ h' =>
    exact ⟨_, _, h', fun s hs => by cases hs⟩
  | @renewing _ topics _ h' hmem =>
    cases topics with
    | nil => cases hmem
    | cons t topics => exact ⟨_, _, h'.trans renewing_cons, fun s hs => by cases hs⟩

theorem Worker.not_owes_of_route {url : String} {s : SessionId} (h : w.rest = route read url s) :
    ¬ w.Owes session topic n := by
  intro ho
  obtain ⟨r, k, hrest, hr⟩ := ho.rest_eq
  exact hr s (Routine.ask.inj (hrest.symm.trans (h.trans route_eq))).1

theorem Worker.not_owes_of_done {b : Bool} (h : w.rest = .done b) : ¬ w.Owes session topic n := by
  intro ho
  obtain ⟨r, k, hrest, -⟩ := ho.rest_eq
  cases hrest.symm.trans h

theorem Interplay.Resumed.served_event {k : (Request.nextEvent session).Answer → Routine Bool}
    {event : Option SessionEvent} (h : σ.Resumed) (hc : Consistent read σ)
    (hw : σ.workers[i]? = some w) (hrest : w.rest = .ask (.nextEvent session) k) :
    (σ.serving settings read i w (.nextEvent session) k event).Resumed := by
  cases hc.workers i w hw with
  | following hrole hsafe =>
    rw [hrest] at hsafe
    exact hsafe.elim
  | alerted hrole h' | heralding hrole h' => cases hrest.symm.trans h'
  | resubscribing hrole hnodup hsub hstage =>
    cases hstage with
    | finished h' | renewing h' | looking h' | subscribing h' | awaiting h' | yielding h' =>
      cases hrest.symm.trans h'
  | @listening url s hrole hroute =>
    have hnot (s : SessionId) (t : String) (n : Nat) : ¬ w.Owes s t n := Worker.not_owes_of_route hroute
    by_cases hevent : event = some (.connected false)
    · subst hevent
      rw [route_eq] at hroute
      change w.rest = .ask (.nextEvent s) (deal read url s) at hroute
      obtain ⟨hs, hk⟩ := Routine.ask.inj (hrest.symm.trans hroute)
      obtain rfl := Request.nextEvent.inj hs
      obtain rfl := eq_of_heq hk
      have hlt : i < σ.workers.length := (List.getElem?_eq_some_iff.mp hw).1
      have hreplaced : (σ.replaced i { w with rest := alerted session, sent := none }).Resumed :=
        h.replaced hw rfl hnot
      exact hreplaced.notified (List.getElem?_set_self hlt) hrole rfl
    · rw [serving_event hevent]
      exact h.replaced hw rfl hnot

theorem Interplay.Resumed.step (h : σ.Resumed) (hc : Consistent read σ)
    (hs : Interplay.Step settings read σ σ') : σ'.Resumed := by
  cases hs with
  | start op => exact h.starting (.operation op)
  | reconnect session => exact h.reconnected session
  | send hw hrest hsent => exact h.sent hw hrest
  | @serve i w r k a hw hrest hcall hallow =>
    by_cases hr : ∃ s, r = .nextEvent s
    · obtain ⟨s, rfl⟩ := hr
      exact h.served_event hc hw hrest
    · exact h.served hc hw hrest hcall hallow fun s hs => hr ⟨s, hs⟩
  | again hw hrest => exact h.replaced hw rfl fun _ _ _ => Worker.not_owes_of_done hrest

theorem Interplay.Reachable.resumed (h : Reachable settings read σ) : σ.Resumed := by
  obtain ⟨cache, h⟩ := h
  induction h with
  | refl =>
    exact {
      entering := by simp
      tables := by
        rintro session topic qos ⟨l, hl, -⟩
        cases hl }
  | tail hs hstep ih =>
    have hreachable : Reachable settings read _ := ⟨cache, hs⟩
    exact ih.step hreachable.consistent hstep

/-! ### What the invariant says -/

/-- No resubscription is under way here: a router waits or handles a message, and a resubscription is
over. -/
def Worker.Rests (read : PayloadReaders) (w : Worker) : Prop :=
  match w.role with
  | .job (.router url session) => w.rest = route read url session ∨
      w.rest.Every fun r => ∀ s topics, r ≠ .spawn (.resubscribe s topics)
  | .job (.resubscribe ..) => w.Over
  | _ => True

theorem Worker.Over.rests (h : w.Over) : w.Rests read := by
  obtain ⟨goesOn, hrest⟩ := h
  unfold Worker.Rests
  split
  · exact .inr (hrest ▸ trivial)
  · exact ⟨goesOn, hrest⟩
  · trivial

theorem Worker.Rests.not_owes (h : w.Rests read) : ¬ w.Owes session topic n := by
  intro ho
  have hover {all : List String} (hrole : w.role = .job (.resubscribe session all)) : False := by
    rw [Worker.Rests, hrole] at h
    obtain ⟨goesOn, hrest⟩ := h
    exact Worker.not_owes_of_done hrest ho
  cases ho with
  | alerted hrole h' =>
    rw [Worker.Rests, hrole] at h
    obtain hroute | hevery := h
    · cases hroute.symm.trans h'
    · rw [h'] at hevery
      exact (hevery.2 default).1 session _ rfl
  | heralding hrole h' hmem =>
    rw [Worker.Rests, hrole] at h
    obtain hroute | hevery := h
    · cases hroute.symm.trans h'
    · rw [h'] at hevery
      exact hevery.1 session _ rfl
  | renewing hrole | looking hrole | subscribing hrole | yielding hrole => exact hover hrole

/-- Once no resubscription is under way and the router has learned of the present connection, and no
SUBSCRIBE failed on it, every topic of the table was granted on it, but for a topic that was overtaken:
its registration had asked for it on an earlier connection and was not done when the router learned of
the present one. -/
theorem resumed_unless_overtaken (h : Interplay.Reachable settings read σ)
    (hdue : σ.due session = 0) (hrests : ∀ w ∈ σ.workers, w.Rests read)
    (hgranted : ∀ x ∈ σ.history, x.refuses session (σ.connections session) = false)
    (hl : σ.memory.ledger.Lists session topic qos) :
    σ.Granted session topic (σ.connections session) ∨ topic ∈ σ.overtaken session := by
  obtain hgrants | ⟨x, hx, hrefuses⟩ | hmissed | ⟨i, w, hw, ho⟩ := h.resumed.tables session topic qos hl
  · exact .inl hgrants
  · rw [hgranted x hx] at hrefuses
    cases hrefuses
  · obtain hpos | hovertaken := hmissed
    · omega
    · exact .inr hovertaken
  · exact absurd ho (hrests w (List.mem_of_getElem? hw)).not_owes

end Reconnection

/-! ### A registration that is overtaken -/

/-- The first topic of a session is registered, and a second one is granted. Before it is tracked, the
session gets a new connection, and its router looks up the topics. -/
def overtaking : List Interplay.Move := List.flatten [
  [.start (.register { url := "mqtt://a", topic := "a" })], List.replicate 11 (.proceed 0),
  [.start (.register { url := "mqtt://a", topic := "t" })], List.replicate 5 (.proceed 2),
  [.reconnect 0], List.replicate 3 (.proceed 1), List.replicate 3 (.proceed 2),
  List.replicate 5 (.proceed 3)]

theorem resumed_of_overtaking : ∃ σ, Interplay.Reachable {} (fun _ _ => .ok []) σ ∧
    σ.connections 0 = 1 ∧ (σ.Granted 0 "a" (σ.connections 0) ∨ "a" ∈ σ.overtaken 0) := by
  have hplay : ∃ σ ∈ ({ memory := { cache := { capacity := 1 } } } : Interplay).play? {}
      (fun _ _ => .ok []) Interplay.granting overtaking, σ.connections 0 = 1 ∧ σ.due 0 = 0 ∧
      (∀ w ∈ σ.workers, w.Over) ∧ (∀ x ∈ σ.history, x.refuses 0 (σ.connections 0) = false) ∧
      σ.memory.ledger.Lists 0 "a" .atMostOnce := by
    decide +kernel
  obtain ⟨σ, hσ, hconnections, hdue, hover, hgranted, hl⟩ := hplay
  have hreachable : Interplay.Reachable {} (fun _ _ => .ok []) σ := ⟨_, Interplay.steps_of_play hσ⟩
  exact ⟨σ, hreachable, hconnections,
    resumed_unless_overtaken hreachable hdue (fun w hw => (hover w hw).rests) hgranted hl⟩

/-- Nothing is left to do and no call failed, but a topic of the table was not subscribed on the present
connection. -/
theorem overtaken_topic_lost : ∃ σ, Interplay.Reachable {} (fun _ _ => .ok []) σ ∧ σ.due 0 = 0 ∧
    (∀ w ∈ σ.workers, w.Over) ∧ (∀ x ∈ σ.history, x.refuses 0 (σ.connections 0) = false) ∧
    σ.memory.ledger.Lists 0 "t" .atMostOnce ∧ ¬ σ.Granted 0 "t" (σ.connections 0) := by
  have hplay : ∃ σ ∈ ({ memory := { cache := { capacity := 1 } } } : Interplay).play? {}
      (fun _ _ => .ok []) Interplay.granting overtaking, σ.due 0 = 0 ∧ (∀ w ∈ σ.workers, w.Over) ∧
      (∀ x ∈ σ.history, x.refuses 0 (σ.connections 0) = false) ∧
      σ.memory.ledger.Lists 0 "t" .atMostOnce ∧ ¬ σ.Granted 0 "t" (σ.connections 0) := by
    decide +kernel
  obtain ⟨σ, hσ, hlost⟩ := hplay
  exact ⟨σ, ⟨_, Interplay.steps_of_play hσ⟩, hlost⟩

end SensorBridge
