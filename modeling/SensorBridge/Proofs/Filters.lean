import Mathlib.Data.List.Basic
import SensorBridge.Topic

/-!
What topic filters are and which topics they cover. `validate` takes exactly the filters of MQTT
and otherwise tells the first thing that is wrong, and `accepts` follows MQTT's rule of matching.
Both are said of the levels into which the slashes split a text.
-/
namespace SensorBridge.Topic

variable {filter topic : String} {level : List Char} {fs ts : List (List Char)} {e e' : FilterError}

theorem pieces_eq_splitOn {separator : Char} {cs : List Char} :
    Text.pieces separator cs = cs.splitOn separator := by
  induction cs with
  | nil => rfl
  | cons c cs ih =>
    obtain ⟨piece, rest, hsplit⟩ := List.exists_cons_of_ne_nil
      (List.splitOnP_ne_nil (· == separator) cs)
    have hpieces : Text.pieces separator (c :: cs) =
        Text.consPiece separator c (cs.splitOn separator) := by
      rw [← ih]
      rfl
    rw [hpieces, List.splitOn, List.splitOn, List.splitOnP_cons_eq_if_modifyHead, hsplit]
    by_cases hc : c = separator
    · simp [Text.consPiece, hc]
    · simp [Text.consPiece, hc]

theorem levels_eq_splitOn : levels filter = filter.toList.splitOn '/' :=
  pieces_eq_splitOn

/-! ### Filters -/

/-- A wildcard stands beside something else in a level. -/
def Mixed (wildcard : Char) (level : List Char) : Prop :=
  wildcard ∈ level ∧ level ≠ [wildcard]

/-- The filters of MQTT. -/
structure IsFilter (filter : String) : Prop where
  size : 1 ≤ filter.utf8ByteSize ∧ filter.utf8ByteSize ≤ 65535
  noNull : '\x00' ∉ filter.toList
  wildcards : ∀ level ∈ filter.toList.splitOn '/', ∀ c, c = '+' ∨ c = '#' → c ∈ level → level = [c]
  hashLast : ['#'] ∉ (filter.toList.splitOn '/').dropLast

/-- What is wrong with a level of a filter. -/
inductive Offends (filter : String) (level : List Char) (isLast : Bool) : FilterError → Prop where
  | plus : Mixed '+' level → Offends filter level isLast (.misplaced filter '+')
  | hash : ¬ Mixed '+' level → Mixed '#' level → Offends filter level isLast (.misplaced filter '#')
  | early : level = ['#'] → isLast = false → Offends filter level isLast (.hashNotLast filter)

/-- Why a text is no filter. Its length is looked at first, then the null characters, then the
levels from the left; the first level that offends decides. -/
inductive Refused (filter : String) : FilterError → Prop where
  | length : ¬ (1 ≤ filter.utf8ByteSize ∧ filter.utf8ByteSize ≤ 65535) → Refused filter .length
  | null : 1 ≤ filter.utf8ByteSize ∧ filter.utf8ByteSize ≤ 65535 → '\x00' ∈ filter.toList →
      Refused filter .nullCharacter
  | level {before after : List (List Char)} {level : List Char} {e : FilterError} :
      1 ≤ filter.utf8ByteSize ∧ filter.utf8ByteSize ≤ 65535 → '\x00' ∉ filter.toList →
      filter.toList.splitOn '/' = before ++ level :: after →
      (∀ l ∈ before, ∀ e', ¬ Offends filter l false e') → Offends filter level after.isEmpty e →
      Refused filter e

theorem mixes_iff {wildcard : Char} : mixes level wildcard = true ↔ Mixed wildcard level := by
  simp [mixes, Mixed]

theorem Offends.unique {isLast : Bool} (h : Offends filter level isLast e)
    (h' : Offends filter level isLast e') : e = e' := by
  have hsingle : level = ['#'] → ¬ Mixed '+' level ∧ ¬ Mixed '#' level := by
    rintro rfl
    simp [Mixed]
  cases h with
  | plus hplus =>
    cases h' with
    | plus => rfl
    | hash hno => exact absurd hplus hno
    | early he => exact absurd hplus (hsingle he).1
  | hash hno hhash =>
    cases h' with
    | plus hplus => exact absurd hplus hno
    | hash => rfl
    | early he => exact absurd hhash (hsingle he).2
  | early he =>
    cases h' with
    | plus hplus => exact absurd hplus (hsingle he).1
    | hash _ hhash => exact absurd hhash (hsingle he).2
    | early => rfl

/-- The first level either offends, and decides, or leaves the rest to decide. -/
theorem levelFault?_cons (filter : String) (level : List Char) (rest : List (List Char)) :
    (∃ e, Offends filter level rest.isEmpty e ∧ levelFault? filter (level :: rest) = some e) ∨
    ((∀ e, ¬ Offends filter level rest.isEmpty e) ∧
      levelFault? filter (level :: rest) = levelFault? filter rest) := by
  rw [levelFault?]
  by_cases hplus : mixes level '+' = true
  · exact .inl ⟨_, .plus (mixes_iff.mp hplus), if_pos hplus⟩
  rw [if_neg hplus]
  rw [mixes_iff] at hplus
  by_cases hhash : mixes level '#' = true
  · exact .inl ⟨_, .hash hplus (mixes_iff.mp hhash), if_pos hhash⟩
  rw [if_neg hhash]
  rw [mixes_iff] at hhash
  by_cases hearly : (level == ['#'] && !rest.isEmpty) = true
  · obtain ⟨hlevel, hrest⟩ : level = ['#'] ∧ rest.isEmpty = false := by simpa using hearly
    exact .inl ⟨_, .early hlevel hrest, if_pos hearly⟩
  · refine .inr ⟨fun e h => ?_, if_neg hearly⟩
    cases h with
    | plus h => exact hplus h
    | hash _ h => exact hhash h
    | early hlevel hrest => exact hearly (by simp [hlevel, hrest])

theorem levelFault?_eq_some_iff : levelFault? filter fs = some e ↔ ∃ before level after,
    fs = before ++ level :: after ∧ (∀ l ∈ before, ∀ e', ¬ Offends filter l false e') ∧
      Offends filter level after.isEmpty e := by
  induction fs with
  | nil => simp [levelFault?]
  | cons level rest ih =>
    obtain ⟨e₀, hoffends, heq⟩ | ⟨hnone, heq⟩ := levelFault?_cons filter level rest
    · rw [heq]
      constructor
      · intro h
        obtain rfl := Option.some.inj h
        exact ⟨[], level, rest, rfl, by simp, hoffends⟩
      · rintro ⟨before, level', after, hsplit, hbefore, hoffends'⟩
        obtain ⟨rfl, hcons⟩ | ⟨before', rfl, hrest⟩ := List.cons_eq_append_iff.mp hsplit
        · obtain ⟨rfl, rfl⟩ := List.cons.inj hcons
          rw [hoffends.unique hoffends']
        · have hmore : rest.isEmpty = false := by simp [hrest]
          rw [hmore] at hoffends
          exact absurd hoffends (hbefore level List.mem_cons_self e₀)
    · rw [heq, ih]
      constructor
      · rintro ⟨before, level', after, rfl, hbefore, hoffends⟩
        have hmore : (before ++ level' :: after).isEmpty = false := by simp
        rw [hmore] at hnone
        exact ⟨level :: before, level', after, rfl, List.forall_mem_cons.mpr ⟨hnone, hbefore⟩, hoffends⟩
      · rintro ⟨before, level', after, hsplit, hbefore, hoffends⟩
        obtain ⟨rfl, hcons⟩ | ⟨before', rfl, hrest⟩ := List.cons_eq_append_iff.mp hsplit
        · obtain ⟨rfl, rfl⟩ := List.cons.inj hcons
          exact absurd hoffends (hnone e)
        · exact ⟨before', level', after, hrest, (List.forall_mem_cons.mp hbefore).2, hoffends⟩

theorem not_offends_iff {isLast : Bool} : (∀ e, ¬ Offends filter level isLast e) ↔
    (∀ c, c = '+' ∨ c = '#' → c ∈ level → level = [c]) ∧ (level = ['#'] → isLast = true) := by
  constructor
  · intro h
    have hplus : ¬ Mixed '+' level := fun hm => h _ (.plus hm)
    have hhash : ¬ Mixed '#' level := fun hm => h _ (.hash hplus hm)
    refine ⟨?_, fun hlevel => ?_⟩
    · rintro c (rfl | rfl) hc
      · exact not_not.mp fun hne => hplus ⟨hc, hne⟩
      · exact not_not.mp fun hne => hhash ⟨hc, hne⟩
    · exact Bool.of_not_eq_false fun hlast => h _ (.early hlevel hlast)
  · rintro ⟨hwildcards, hlast⟩ e he
    cases he with
    | plus hm => exact hm.2 (hwildcards _ (.inl rfl) hm.1)
    | hash _ hm => exact hm.2 (hwildcards _ (.inr rfl) hm.1)
    | early hlevel hfalse =>
      rw [hlast hlevel] at hfalse
      cases hfalse

theorem levelFault?_eq_none_iff : levelFault? filter fs = none ↔
    (∀ level ∈ fs, ∀ c, c = '+' ∨ c = '#' → c ∈ level → level = [c]) ∧ ['#'] ∉ fs.dropLast := by
  induction fs with
  | nil => simp [levelFault?]
  | cons level rest ih =>
    have hdrop : ['#'] ∉ (level :: rest).dropLast ↔
        (level = ['#'] → rest.isEmpty = true) ∧ ['#'] ∉ rest.dropLast := by
      cases rest with
      | nil => simp
      | cons l rest => simp [eq_comm]
    rw [List.forall_mem_cons, hdrop]
    obtain ⟨e, hoffends, heq⟩ | ⟨hnone, heq⟩ := levelFault?_cons filter level rest
    · rw [heq]
      refine iff_of_false (by simp) fun h => ?_
      exact not_offends_iff.mpr ⟨h.1.1, h.2.1⟩ e hoffends
    · obtain ⟨hwildcards, hlast⟩ := not_offends_iff.mp hnone
      rw [heq, ih]
      exact ⟨fun h => ⟨⟨hwildcards, h.1⟩, hlast, h.2⟩, fun h => ⟨h.1.2, h.2.2⟩⟩

theorem size_iff : (filter.isEmpty || decide (filter.utf8ByteSize > maxLength)) = true ↔
    ¬ (1 ≤ filter.utf8ByteSize ∧ filter.utf8ByteSize ≤ 65535) := by
  rw [Bool.or_eq_true, String.isEmpty_iff, ← String.utf8ByteSize_eq_zero_iff, decide_eq_true_eq,
    maxLength]
  omega

theorem validate_of_size (hsize : 1 ≤ filter.utf8ByteSize ∧ filter.utf8ByteSize ≤ 65535)
    (hnull : '\x00' ∉ filter.toList) :
    validate filter = (levelFault? filter (filter.toList.splitOn '/')).elim (.ok ()) .error := by
  rw [validate, if_neg (by rwa [size_iff, not_not]), if_neg (by simpa using hnull), levels_eq_splitOn]
  cases levelFault? filter (filter.toList.splitOn '/') with
  | none => rfl
  | some fault => rfl

theorem validate_eq_ok_iff : validate filter = .ok () ↔ IsFilter filter := by
  by_cases hsize : 1 ≤ filter.utf8ByteSize ∧ filter.utf8ByteSize ≤ 65535
  · by_cases hnull : '\x00' ∈ filter.toList
    · rw [validate, if_neg (by rwa [size_iff, not_not]), if_pos (by simpa using hnull)]
      exact iff_of_false nofun fun h => h.noNull hnull
    · rw [validate_of_size hsize hnull]
      cases hfault : levelFault? filter (filter.toList.splitOn '/') with
      | none =>
        obtain ⟨hwildcards, hlast⟩ := levelFault?_eq_none_iff.mp hfault
        exact iff_of_true rfl ⟨hsize, hnull, hwildcards, hlast⟩
      | some fault =>
        refine iff_of_false nofun fun h => ?_
        rw [levelFault?_eq_none_iff.mpr ⟨h.wildcards, h.hashLast⟩] at hfault
        cases hfault
  · rw [validate, if_pos (size_iff.mpr hsize)]
    exact iff_of_false nofun fun h => hsize h.size

theorem validate_eq_error_iff : validate filter = .error e ↔ Refused filter e := by
  constructor
  · intro h
    by_cases hsize : 1 ≤ filter.utf8ByteSize ∧ filter.utf8ByteSize ≤ 65535
    · by_cases hnull : '\x00' ∈ filter.toList
      · rw [validate, if_neg (by rwa [size_iff, not_not]), if_pos (by simpa using hnull)] at h
        obtain rfl := Except.error.inj h
        exact .null hsize hnull
      · rw [validate_of_size hsize hnull] at h
        cases hfault : levelFault? filter (filter.toList.splitOn '/') with
        | none =>
          rw [hfault] at h
          cases h
        | some fault =>
          rw [hfault] at h
          obtain rfl := Except.error.inj h
          obtain ⟨before, level, after, hsplit, hbefore, hoffends⟩ :=
            levelFault?_eq_some_iff.mp hfault
          exact .level hsize hnull hsplit hbefore hoffends
    · rw [validate, if_pos (size_iff.mpr hsize)] at h
      obtain rfl := Except.error.inj h
      exact .length hsize
  · intro h
    cases h with
    | length hsize => rw [validate, if_pos (size_iff.mpr hsize)]
    | null hsize hnull =>
      rw [validate, if_neg (by rwa [size_iff, not_not]), if_pos (by simpa using hnull)]
    | level hsize hnull hsplit hbefore hoffends =>
      have hfault := levelFault?_eq_some_iff.mpr ⟨_, _, _, hsplit, hbefore, hoffends⟩
      rw [validate_of_size hsize hnull, hfault]
      rfl

/-- The texts that are taken are the filters of MQTT, and of all others it is said what is wrong
with them first. -/
theorem validate_iff (filter : String) : (validate filter = .ok () ↔ IsFilter filter) ∧
    ∀ e, validate filter = .error e ↔ Refused filter e :=
  ⟨validate_eq_ok_iff, fun _ => validate_eq_error_iff⟩

/-! ### Matching -/

/-- A level of a filter that stands for a level of a topic. -/
def Stands (f t : List Char) : Prop :=
  f = ['+'] ∨ f = t

/-- Wherever there is a level in both, the one of the filter stands for the one of the topic. -/
def Agree (fs ts : List (List Char)) : Prop :=
  ∀ (i : Nat) (f t : List Char), fs[i]? = some f → ts[i]? = some t → Stands f t

/-- The levels of a filter cover those of a topic: either all of them, one by one, or those that
come before its `#`, which covers the rest. -/
def Covers (fs ts : List (List Char)) : Prop :=
  (['#'] ∉ fs ∧ fs.length = ts.length ∧ Agree fs ts) ∨
  (fs.getLast? = some ['#'] ∧ fs.dropLast.length ≤ ts.length ∧ Agree fs.dropLast ts)

theorem agree_nil : Agree [] ts := by
  intro i f t hf
  simp at hf

theorem agree_cons {f t : List Char} : Agree (f :: fs) (t :: ts) ↔ Stands f t ∧ Agree fs ts := by
  constructor
  · intro h
    exact ⟨h 0 f t rfl rfl, fun i f' t' hf ht => h (i + 1) f' t' hf ht⟩
  · rintro ⟨hstands, h⟩ i f' t' hf ht
    cases i with
    | zero =>
      obtain rfl := Option.some.inj hf
      obtain rfl := Option.some.inj ht
      exact hstands
    | succ i => exact h i f' t' hf ht

theorem levelsAccept_nil_right {f : List Char} (hf : f ≠ ['#']) :
    levelsAccept (f :: fs) [] = false := by
  unfold levelsAccept
  split
  · simp_all
  · simp_all
  · simp_all
  · rfl

theorem levelsAccept_cons {f t : List Char} (hf : f ≠ ['#']) :
    levelsAccept (f :: fs) (t :: ts) = true ↔ Stands f t ∧ levelsAccept fs ts = true := by
  rw [levelsAccept]
  · simp [Stands]
  · simpa using hf

/-- Without a `#` the levels have to correspond one by one. -/
theorem levelsAccept_iff (h : ['#'] ∉ fs) :
    levelsAccept fs ts = true ↔ fs.length = ts.length ∧ Agree fs ts := by
  induction fs generalizing ts with
  | nil =>
    cases ts with
    | nil => simp [levelsAccept, agree_nil]
    | cons t ts => simp [levelsAccept]
  | cons f fs ih =>
    obtain ⟨hf, hfs⟩ := List.ne_and_not_mem_of_not_mem_cons h
    cases ts with
    | nil => simp [levelsAccept_nil_right (Ne.symm hf)]
    | cons t ts =>
      rw [levelsAccept_cons (Ne.symm hf), ih hfs, agree_cons, List.length_cons, List.length_cons,
        Nat.succ_inj]
      tauto

/-- A `#` at the end covers whatever is left, also nothing. -/
theorem levelsAccept_hash_iff (h : ['#'] ∉ fs) :
    levelsAccept (fs ++ [['#']]) ts = true ↔ fs.length ≤ ts.length ∧ Agree fs ts := by
  induction fs generalizing ts with
  | nil => simp [levelsAccept, agree_nil]
  | cons f fs ih =>
    obtain ⟨hf, hfs⟩ := List.ne_and_not_mem_of_not_mem_cons h
    rw [List.cons_append]
    cases ts with
    | nil => simp [levelsAccept_nil_right (Ne.symm hf)]
    | cons t ts =>
      rw [levelsAccept_cons (Ne.symm hf), ih hfs, agree_cons, List.length_cons, List.length_cons,
        Nat.succ_le_succ_iff]
      tauto

theorem levelsAccept_iff_covers (h : ['#'] ∉ fs.dropLast) :
    levelsAccept fs ts = true ↔ Covers fs ts := by
  obtain rfl | ⟨before, last, rfl⟩ := List.eq_nil_or_concat fs
  · have hmem : ['#'] ∉ ([] : List (List Char)) := List.not_mem_nil
    rw [levelsAccept_iff hmem]
    simp [Covers]
  rw [List.concat_eq_append] at h ⊢
  rw [List.dropLast_concat] at h
  by_cases hlast : last = ['#']
  · subst hlast
    rw [levelsAccept_hash_iff h]
    simp [Covers]
  · have hmem : ['#'] ∉ before ++ [last] := by simp [h, Ne.symm hlast]
    rw [levelsAccept_iff hmem]
    simp [Covers, hmem, hlast]

/-- A text starts with the first character of its first level. -/
theorem head?_eq_some_iff {cs : List Char} {c : Char} (hc : c ≠ '/') :
    cs.head? = some c ↔ ∃ rest, (cs.splitOn '/').head? = some (c :: rest) := by
  cases cs with
  | nil => simp
  | cons c' cs =>
    obtain ⟨level, levels, hsplit⟩ := List.exists_cons_of_ne_nil
      (List.splitOnP_ne_nil (· == '/') cs)
    rw [List.splitOn, List.splitOnP_cons_eq_if_modifyHead, hsplit]
    by_cases hslash : c' = '/'
    · subst hslash
      simp [Ne.symm hc]
    · simp [hslash]

theorem IsFilter.head?_iff (h : IsFilter filter) {c : Char} (hc : c = '+' ∨ c = '#') :
    filter.toList.head? = some c ↔ (filter.toList.splitOn '/').head? = some [c] := by
  have hslash : c ≠ '/' := by
    obtain rfl | rfl := hc <;> decide
  rw [head?_eq_some_iff hslash]
  constructor
  · rintro ⟨rest, hhead⟩
    have hlevel := h.wildcards _ (List.mem_of_mem_head? hhead) c hc List.mem_cons_self
    rwa [hlevel] at hhead
  · exact fun hhead => ⟨[], hhead⟩

/-- Whether a filter covers a topic is decided by their levels, but no wildcard at the start of a
filter covers a topic that starts with `$`. -/
theorem accepts_iff (h : validate filter = .ok ()) (topic : String) : accepts filter topic = true ↔
    ¬ (topic.toList.head? = some '$' ∧
      ((filter.toList.splitOn '/').head? = some ['+'] ∨
        (filter.toList.splitOn '/').head? = some ['#'])) ∧
    Covers (filter.toList.splitOn '/') (topic.toList.splitOn '/') := by
  have hfilter := validate_eq_ok_iff.mp h
  rw [← hfilter.head?_iff (.inl rfl), ← hfilter.head?_iff (.inr rfl),
    ← levelsAccept_iff_covers hfilter.hashLast, accepts, levels_eq_splitOn, levels_eq_splitOn]
  split
  · rename_i hdollar
    refine iff_of_false nofun fun hcovers => hcovers.1 ?_
    simpa using hdollar
  · rename_i hdollar
    exact (and_iff_right (by simpa using hdollar)).symm

/-- An empty level is a level, and `#` covers nothing as well. -/
theorem accepts_iff_parent : validate "p/+/#" = .ok () ∧ accepts "p/+/#" "p/" = true ∧
    Covers ("p/+/#".toList.splitOn '/') ("p/".toList.splitOn '/') := by
  have hfilter : validate "p/+/#" = .ok () := by decide
  have haccepts : accepts "p/+/#" "p/" = true := by decide
  exact ⟨hfilter, haccepts, ((accepts_iff hfilter "p/").mp haccepts).2⟩

end SensorBridge.Topic
