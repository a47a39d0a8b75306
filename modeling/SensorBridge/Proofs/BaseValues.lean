import Mathlib.Data.List.Induction
import SensorBridge.Senml

/-!
The base values of a pack. The base that is handed from record to record is at each of them what was
set last, so a measurement can be told from the records up to its own, without following the base. A
pack is refused as a whole for its first record with more than one value.
-/
namespace SensorBridge.Senml

/-- The last value given by one of the records. -/
def lastGiven {α : Type} (given : Record → Option α) (records : List Record) : Option α :=
  (records.filterMap given).getLast?

/-- The record has more than one value of a number, a text and a flag. -/
def Record.Crowded (r : Record) : Prop :=
  (r.value.isSome ∧ r.text.isSome) ∨ (r.value.isSome ∧ r.flag.isSome) ∨ (r.text.isSome ∧ r.flag.isSome)

/-- The measurement of the `i`-th record `r`, with the base values given last by then. -/
structure Due (now : Float) (records : List Record) (i : Nat) (r : Record) (m : Measurement) : Prop where
  name : m.name = (lastGiven (·.baseName) (records.take (i + 1))).getD "" ++ r.name.getD ""
  unit : m.unit = r.unit.or (lastGiven (·.baseUnit) (records.take (i + 1)))
  /-- A time below 2^28 counts from now. -/
  time : ∃ time, time = (lastGiven (·.baseTime) (records.take (i + 1))).getD 0 + r.time.getD 0 ∧
    m.time = if time < 268435456 then time + now else time
  value : m.value = r.value
  text : m.text = r.text
  flag : m.flag = r.flag
  sum : m.sum = r.sum

section

variable {now : Float} {records before rest : List Record} {r : Record} {i : Nat} {m : Measurement}
  {ms : List Measurement} {α : Type} {given : Record → Option α}

theorem Record.crowded_iff : r.Crowded ↔ 1 < r.valueCount := by
  unfold Crowded valueCount
  cases r.value <;> cases r.text <;> cases r.flag <;> simp

theorem lastGiven_concat : lastGiven given (records ++ [r]) = (given r).or (lastGiven given records) := by
  unfold lastGiven
  rw [List.filterMap_append, List.getLast?_append]
  cases h : given r <;> simp [h]

/-- The base that the records leave. -/
def baseAfter (records : List Record) : Base :=
  records.foldl Base.update {}

theorem baseAfter_concat : baseAfter (records ++ [r]) = (baseAfter records).update r :=
  List.foldl_append

theorem baseAfter_eq : baseAfter records =
    ⟨(lastGiven (·.baseName) records).getD "", (lastGiven (·.baseTime) records).getD 0,
      lastGiven (·.baseUnit) records⟩ := by
  induction records using List.reverseRecOn with
  | nil => rfl
  | append_singleton records r ih =>
    rw [baseAfter_concat, ih, Base.update]
    simp only [lastGiven_concat, Option.getD_or, Option.orElse_eq_orElse, Option.orElse_eq_or]

theorem due_iff : Due now records i r m ↔ m = r.resolve (baseAfter (records.take (i + 1))) now := by
  rw [baseAfter_eq, Record.resolve]
  constructor
  · rintro ⟨hname, hunit, ⟨_, rfl, htime⟩, hvalue, htext, hflag, hsum⟩
    cases m
    simp only at hname hunit htime hvalue htext hflag hsum
    simp only [hname, hunit, htime, hvalue, htext, hflag, hsum, Option.orElse_eq_orElse,
      Option.orElse_eq_or]
    rfl
  · rintro rfl
    exact ⟨rfl, by simp, ⟨_, rfl, rfl⟩, rfl, rfl, rfl, rfl⟩

/-! ### Records after others -/

/-- Each record gets its measurement as long as none is crowded. -/
theorem resolveFrom_ok (now : Float) (before : List Record) (h : ∀ r ∈ rest, ¬ r.Crowded) :
    ∃ ms, resolveFrom now before.length (baseAfter before) rest = .ok ms ∧ ms.length = rest.length ∧
      ∀ i r, rest[i]? = some r →
        ∃ m, ms[i]? = some m ∧ Due now (before ++ rest) (before.length + i) r m := by
  induction rest generalizing before with
  | nil => exact ⟨[], rfl, rfl, fun i r hr => by simp at hr⟩
  | cons r rest ih =>
    obtain ⟨hr, hrest⟩ := List.forall_mem_cons.mp h
    obtain ⟨ms, hms, hlength, hdue⟩ := ih (before ++ [r]) hrest
    rw [List.length_append, List.length_singleton, baseAfter_concat] at hms
    rw [Record.crowded_iff] at hr
    refine ⟨r.resolve ((baseAfter before).update r) now :: ms, ?_, congrArg (· + 1) hlength,
      fun i r' hr' => ?_⟩
    · rw [resolveFrom, if_neg hr]
      simp only [hms]
    cases i with
    | zero =>
      obtain rfl : r = r' := by simpa using hr'
      refine ⟨_, rfl, due_iff.mpr ?_⟩
      rw [Nat.add_zero, List.take_length_add_append, ← baseAfter_concat]
      rfl
    | succ i =>
      obtain ⟨m, hm, hdue⟩ := hdue i r' (by simpa using hr')
      refine ⟨m, by simpa using hm, ?_⟩
      rwa [List.append_assoc, List.length_append, List.length_singleton, Nat.add_assoc,
        Nat.add_comm 1] at hdue

/-- The first crowded record is the one that is named. -/
theorem resolveFrom_error (now : Float) (before : List Record) {calm : List Record}
    (h : ∀ r ∈ calm, ¬ r.Crowded) (hr : r.Crowded) :
    resolveFrom now before.length (baseAfter before) (calm ++ r :: rest) = .error (.invalid
      ("record " ++ toString (before.length + calm.length) ++ " carries more than one value")) := by
  induction calm generalizing before with
  | nil => exact if_pos (Record.crowded_iff.mp hr)
  | cons r' calm ih =>
    obtain ⟨hr', hcalm⟩ := List.forall_mem_cons.mp h
    have hrest := ih (before ++ [r']) hcalm
    rw [List.length_append, List.length_singleton, baseAfter_concat] at hrest
    rw [Record.crowded_iff] at hr'
    rw [List.cons_append, resolveFrom, if_neg hr']
    simp only [hrest, List.length_cons, Nat.add_assoc, Nat.add_comm 1]

/-! ### Packs -/

theorem calm_or_first_crowded (records : List Record) : (∀ r ∈ records, ¬ r.Crowded) ∨
    ∃ calm r rest, records = calm ++ r :: rest ∧ r.Crowded ∧ ∀ r' ∈ calm, ¬ r'.Crowded := by
  induction records with
  | nil => exact .inl fun r hr => absurd hr List.not_mem_nil
  | cons r records ih =>
    by_cases hr : r.Crowded
    · exact .inr ⟨[], r, records, rfl, hr, fun r' hr' => absurd hr' List.not_mem_nil⟩
    · obtain hcalm | ⟨calm, r', rest, rfl, hr', hcalm⟩ := ih
      · exact .inl (List.forall_mem_cons.mpr ⟨hr, hcalm⟩)
      · exact .inr ⟨r :: calm, r', rest, rfl, hr', List.forall_mem_cons.mpr ⟨hr, hcalm⟩⟩

/-- The measurements of a pack, one for each record. -/
structure AllDue (now : Float) (records : List Record) (ms : List Measurement) : Prop where
  length : ms.length = records.length
  due : ∀ i r, records[i]? = some r → ∃ m, ms[i]? = some m ∧ Due now records i r m

theorem AllDue.unique {ms' : List Measurement} (h : AllDue now records ms) (h' : AllDue now records ms') :
    ms = ms' := by
  refine List.ext_getElem? fun i => ?_
  cases hr : records[i]? with
  | none =>
    rw [List.getElem?_eq_none_iff] at hr
    rw [List.getElem?_eq_none (h.length ▸ hr), List.getElem?_eq_none (h'.length ▸ hr)]
  | some r =>
    obtain ⟨m, hm, hdue⟩ := h.due i r hr
    obtain ⟨m', hm', hdue'⟩ := h'.due i r hr
    rw [hm, hm', due_iff.mp hdue, due_iff.mp hdue']

theorem resolve_of_calm (now : Float) (hne : records ≠ []) (h : ∀ r ∈ records, ¬ r.Crowded) :
    ∃ ms, resolve now records = .ok ms ∧ AllDue now records ms := by
  obtain ⟨ms, hms, hlength, hdue⟩ := resolveFrom_ok now [] h
  refine ⟨ms, ?_, hlength, fun i r hr => ?_⟩
  · rw [resolve, if_neg (by simpa using hne)]
    exact hms
  · obtain ⟨m, hm, hdue⟩ := hdue i r hr
    exact ⟨m, hm, by simpa using hdue⟩

theorem resolve_of_crowded {calm : List Record} (h : ∀ r ∈ calm, ¬ r.Crowded) (hr : r.Crowded) :
    resolve now (calm ++ r :: rest) = .error (.invalid
      ("record " ++ toString calm.length ++ " carries more than one value")) := by
  have herror : resolveFrom now 0 {} (calm ++ r :: rest) = _ := resolveFrom_error now [] h hr
  rw [List.length_nil, Nat.zero_add] at herror
  rw [resolve, if_neg (by simp)]
  exact herror

end

/-- A pack gives one measurement for each record, in their order, by the base values given last up to
the record. It gives none at all exactly if it is empty or a record is crowded, and then the error
names the first such record. So does a payload that reads as these records. -/
theorem resolve_eq_iff (now : Float) (records : List Record) :
    (∀ ms, resolve now records = .ok ms ↔
      records ≠ [] ∧ (∀ r ∈ records, ¬ r.Crowded) ∧ AllDue now records ms) ∧
    (∀ e, resolve now records = .error e ↔
      (records = [] ∧ e = .invalid "pack has no records") ∨
      ∃ i r, records[i]? = some r ∧ r.Crowded ∧ (∀ r' ∈ records.take i, ¬ r'.Crowded) ∧
        e = .invalid ("record " ++ toString i ++ " carries more than one value")) ∧
    ∀ payload, (Json.Reader.list Record.shape.read).run payload = .ok records →
      read now payload = resolve now records := by
  rw [← and_assoc]
  refine ⟨?_, fun payload hdecoded => by rw [read, hdecoded]⟩
  obtain rfl | hne := eq_or_ne records []
  · exact ⟨fun ms => by simp [resolve], fun e => by simp [resolve, eq_comm]⟩
  obtain hcalm | ⟨calm, r, rest, rfl, hr, hcalm⟩ := calm_or_first_crowded records
  · obtain ⟨ms, hms, hdue⟩ := resolve_of_calm now hne hcalm
    rw [hms]
    refine ⟨fun ms' => ⟨?_, fun h => congrArg _ (hdue.unique h.2.2)⟩, fun e => iff_of_false nofun ?_⟩
    · rintro ⟨⟩
      exact ⟨hne, hcalm, hdue⟩
    · rintro (⟨hempty, -⟩ | ⟨i, r, hi, hr, -⟩)
      · exact hne hempty
      · exact hcalm r (List.mem_of_getElem? hi) hr
  · rw [resolve_of_crowded hcalm hr]
    refine ⟨fun ms => iff_of_false nofun fun h => h.2.1 r (by simp) hr, fun e => ⟨?_, ?_⟩⟩
    · rintro ⟨⟩
      exact .inr ⟨calm.length, r, by simp, hr, by simpa using hcalm, rfl⟩
    · rintro (⟨hempty, -⟩ | ⟨i, r', hi, hr', hbefore, rfl⟩)
      · exact absurd hempty hne
      -- two records, each the first that is crowded
      obtain hlt | rfl | hlt := Nat.lt_trichotomy i calm.length
      · rw [List.getElem?_append_left hlt] at hi
        exact absurd hr' (hcalm r' (List.mem_of_getElem? hi))
      · rfl
      · refine absurd hr (hbefore r ?_)
        rw [List.take_append, List.take_cons (by omega)]
        simp

end SensorBridge.Senml
