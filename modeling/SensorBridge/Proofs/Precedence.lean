import Mathlib.Data.List.Basic
import SensorBridge.Settings

/-!
Which of several values a variable has. The environment comes first; a file gives values only to
variables that have none, and so the file that is loaded first keeps its values.
-/
namespace SensorBridge

namespace EnvFile

variable {α β : Type}

theorem isSome_ite {p : Prop} [Decidable p] {a b : Option α} {a' b' : Option β}
    (h : a.isSome = a'.isSome) (h' : b.isSome = b'.isSome) :
    (if p then a else b).isSome = (if p then a' else b').isSome := by
  split
  · exact h
  · exact h'

/-- Whether a value is well-formed depends neither on the variables that it refers to nor on what
was read before. -/
theorem isSome_readValue (get get' : Lookup) (m : Mode) (out out' cs : List Char) :
    (readValue get m out cs).isSome = (readValue get' m out' cs).isSome := by
  induction cs generalizing m out out' with
  | nil =>
    cases m with
    | plain q | escaped q | name q => cases q <;> rfl
    | literal | braced | done => rfl
  | cons c cs ih =>
    have hrest {m out out'} : (readValue get m out cs).isSome = (readValue get' m out' cs).isSome :=
      ih _ _ _
    -- Its own equations are too deep to rewrite with, as the modes overlap.
    rw [readValue.eq_def, readValue.eq_def get']
    cases m with
    | plain q =>
      cases q <;> dsimp only
      all_goals
        iterate 6 refine isSome_ite hrest ?_
        exact hrest
    | escaped q =>
      cases q <;> dsimp only <;> cases unescape? c with
      | none => rfl
      | some d => exact hrest
    | name q rev => cases q <;> exact isSome_ite hrest (isSome_ite hrest (isSome_ite hrest hrest))
    | done => exact isSome_ite hrest (isSome_ite rfl rfl)
    | literal | braced => exact isSome_ite hrest hrest

theorem isSome_readLine (get get' : Lookup) (line : String) :
    (readLine get line).isSome = (readLine get' line).isSome := by
  rw [readLine, readLine]
  split
  · rfl
  · rfl
  · simp only [bind, Option.bind]
    cases readTarget _ with
    | none => rfl
    | some target =>
      dsimp only
      split
      · rfl
      · rfl
      · have hassign (v : Option String) :
            (v.bind fun v => some (Line.assign target.1 v)).isSome = v.isSome := by
          cases v <;> rfl
        exact (hassign _).trans ((isSome_readValue ..).trans (hassign _).symm)

/-- Every line is a text that can be read. -/
def WellFormed (lines : List (List UInt8)) : Prop :=
  ∀ l ∈ lines, ((Text.ofBytes? l).bind (readLine fun _ => "")).isSome

instance (lines : List (List UInt8)) : Decidable (WellFormed lines) :=
  inferInstanceAs (Decidable (∀ l ∈ lines, ((Text.ofBytes? l).bind (readLine fun _ => "")).isSome))

/-- What lines assign, one after another; none if one of them is malformed. A value may refer to
`vs` and to the lines before it, of which the first to assign a variable counts. -/
def assignments (vs : Variables) : List (List UInt8) → Option Variables
  | [] => some []
  | l :: ls => do
    let line ← Text.ofBytes? l
    match ← readLine (fun n => (vs.lookup n).getD "") line with
    | .blank => assignments vs ls
    | .assign name value => return (name, value) :: (← assignments (vs ++ [(name, value)]) ls)

theorem isSome_assignments {lines : List (List UInt8)} (h : WellFormed lines) (vs : Variables) :
    ∃ given, assignments vs lines = some given := by
  induction lines generalizing vs with
  | nil => exact ⟨[], rfl⟩
  | cons l ls ih =>
    obtain ⟨hline, hrest⟩ := List.forall_mem_cons.mp h
    obtain ⟨_, hbind⟩ := Option.isSome_iff_exists.mp hline
    obtain ⟨text, htext, hread⟩ := Option.bind_eq_some_iff.mp hbind
    replace hread := Option.isSome_of_eq_some hread
    rw [isSome_readLine _ fun n => (vs.lookup n).getD ""] at hread
    obtain ⟨line, hline⟩ := Option.isSome_iff_exists.mp hread
    cases line with
    | blank =>
      obtain ⟨given, hgiven⟩ := ih hrest vs
      exact ⟨given, by simp [assignments, htext, hline, hgiven]⟩
    | assign name value =>
      obtain ⟨given, hgiven⟩ := ih hrest (vs ++ [(name, value)])
      exact ⟨(name, value) :: given, by simp [assignments, htext, hline, hgiven]⟩

end EnvFile

namespace Variables

open EnvFile

theorem lookup_setDefault (vs : Variables) (name value n : String) :
    (vs.setDefault name value).lookup n = (vs ++ [(name, value)]).lookup n := by
  rw [List.lookup_append, setDefault]
  by_cases hn : n = name
  · subst hn
    cases h : vs.lookup n <;> simp [h]
  · cases vs.lookup name <;> simp [List.lookup_cons, beq_false_of_ne hn]

/-- Loading appends: of the values that the lines assign a variable the first one counts, unless it
has a value already. What earlier lines assigned is never asked, as it is set by then. -/
theorem lookup_loadLines {lines : List (List UInt8)} {vs loaded known given : Variables}
    (hloaded : ∀ n, loaded.lookup n = vs.lookup n)
    (hknown : ∀ n, vs.lookup n = none → known.lookup n = none)
    (h : assignments vs lines = some given) (n : String) :
    (loaded.loadLines known lines).lookup n = (vs ++ given).lookup n := by
  induction lines generalizing vs loaded known given with
  | nil =>
    obtain rfl : [] = given := by simpa [assignments] using h
    rw [List.append_nil]
    exact hloaded n
  | cons l ls ih =>
    -- By now a line before is seen through what is set.
    have hget : (fun n => ((loaded.lookup n).orElse fun _ => known.lookup n).getD "") =
        fun n => (vs.lookup n).getD "" := by
      funext n
      rw [hloaded n]
      cases hn : vs.lookup n with
      | none => simp [hknown n hn]
      | some v => rfl
    cases htext : Text.ofBytes? l with
    | none => simp [assignments, htext] at h
    | some text =>
      cases hline : readLine (fun n => (vs.lookup n).getD "") text with
      | none => simp [assignments, htext, hline] at h
      | some line =>
        cases line with
        | blank =>
          have hrest : assignments vs ls = some given := by
            simpa [assignments, htext, hline] using h
          simp only [loadLines, htext, hget, hline]
          exact ih hloaded hknown hrest
        | assign name value =>
          obtain ⟨rest, hrest, rfl⟩ :
              ∃ rest, assignments (vs ++ [(name, value)]) ls = some rest ∧
                (name, value) :: rest = given := by
            simpa [assignments, htext, hline, Option.bind_eq_some_iff] using h
          have hset m : (loaded.setDefault name value).lookup m =
              (vs ++ [(name, value)]).lookup m := by
            rw [lookup_setDefault, List.lookup_append, List.lookup_append, hloaded]
          have hasked m (hm : (vs ++ [(name, value)]).lookup m = none) :
              List.lookup m ((name, value) :: known) = none := by
            rw [List.lookup_append, Option.or_eq_none_iff] at hm
            by_cases hname : m = name
            · simp [hname] at hm
            · rw [List.lookup_cons, beq_false_of_ne hname]
              exact hknown m hm.1
          simp only [loadLines, htext, hget, hline]
          rw [ih hset hasked hrest, List.append_assoc]
          rfl

end Variables

/-- The lines of a file; a file that cannot be read has none. -/
def Files.lines (files : Files) (path : String) : List (List UInt8) :=
  match files.read path with
  | .ok content => EnvFile.splitLines content
  | .error _ => []

theorem Variables.loadFile_eq (vs : Variables) (files : Files) (path : String) :
    vs.loadFile files path = vs.loadLines [] (files.lines path) := by
  rw [loadFile, Files.lines]
  cases files.read path <;> rfl

namespace Settings

/-- The value that a variable has by the first of several layers to set it. One of blanks only
counts as unset, but hides the layers behind it. -/
def value? (layers : List Variables) (name : String) : Option String :=
  (layers.findSome? fun vs => vs.lookup (namespaceStem ++ name)).filter fun v => !Text.allBlank v

/-- The variables that hold numbers. -/
def numberNames : List String :=
  ["RETRY_INTERVAL_SECS", "PAGE_SIZE", "CACHE_SIZE", "KEEP_ALIVE_SECS"]

/-- The variables that hold settings. -/
def variableNames : List String :=
  numberNames ++ ["CLIENT_ID_PREFIX", "CATALOG_FILE", "LOG_LEVEL"]

/-- `n` is the number in a value, in units, or the standard one without a value. -/
def Takes (value : Option String) (standard unit n : Nat) : Prop :=
  match value with
  | none => n = standard
  | some v => ∃ k, Decimal.readUnsigned 64 (Text.trim v) = .ok k ∧ n = k * unit

/-- Each setting is the value of its variable, or the standard one if that has none. -/
structure Follows (value : String → Option String) (s : Settings) : Prop where
  retry : Takes (value "RETRY_INTERVAL_SECS") 10000 1000 s.connector.retryInterval
  positive : s.connector.retryInterval ≠ 0
  pageSize : Takes (value "PAGE_SIZE") 100 1 s.connector.pageSize
  cacheSize : Takes (value "CACHE_SIZE") 1000 1 s.connector.cacheSize
  keepAlive : Takes (value "KEEP_ALIVE_SECS") 30000 1000 s.broker.keepAlive
  clientIdStem : s.broker.clientIdStem = (value "CLIENT_ID_PREFIX").getD "hds"
  catalogFile : s.catalogFile = value "CATALOG_FILE"
  logLevel : s.logLevel = (value "LOG_LEVEL").getD "info"
  connector : s.connector =
    { retryInterval := s.connector.retryInterval, pageSize := s.connector.pageSize,
      cacheSize := s.connector.cacheSize }
  broker : s.broker = { keepAlive := s.broker.keepAlive, clientIdStem := s.broker.clientIdStem }

/-- A fault lies in the value that a variable has: it is no number, or no pause between attempts. -/
def Blames (value : String → Option String) (e : InvalidValue) : Prop :=
  ∃ name ∈ numberNames, e.name = namespaceStem ++ name ∧ ∃ v, value name = some v ∧
    ((∃ fault, Decimal.readUnsigned 64 (Text.trim v) = .error fault ∧ e.value = v ∧
        e.reason = fault.message) ∨
      name = "RETRY_INTERVAL_SECS" ∧ Decimal.readUnsigned 64 (Text.trim v) = .ok 0 ∧
        e.value = "0" ∧ e.reason = "must be positive")

variable {vs : Variables} {s : Settings} {e : InvalidValue} {name : String}

theorem number?_eq_ok_iff {n : Option Nat} : number? vs name = .ok n ↔
    match var? vs name with
    | none => n = none
    | some v => ∃ k, Decimal.readUnsigned 64 (Text.trim v) = .ok k ∧ n = some k := by
  rw [number?]
  cases var? vs name with
  | none => simp [eq_comm]
  | some v =>
    dsimp only
    cases Decimal.readUnsigned 64 (Text.trim v) <;> simp [eq_comm]

theorem number?_eq_error (h : number? vs name = .error e) :
    e.name = namespaceStem ++ name ∧ ∃ v, var? vs name = some v ∧
      ∃ fault, Decimal.readUnsigned 64 (Text.trim v) = .error fault ∧ e.value = v ∧
        e.reason = fault.message := by
  rw [number?] at h
  cases hv : var? vs name with
  | none => simp [hv] at h
  | some v =>
    cases hread : Decimal.readUnsigned 64 (Text.trim v) with
    | ok n => simp [hv, hread] at h
    | error fault =>
      obtain rfl : _ = e := by simpa [hv, hread] using h
      exact ⟨rfl, v, rfl, fault, hread, rfl, rfl⟩

theorem takes_iff {standard unit n : Nat} : Takes (var? vs name) standard unit n ↔
    ∃ k, number? vs name = .ok k ∧ n = (k.map (· * unit)).getD standard := by
  simp only [number?_eq_ok_iff, Takes]
  cases var? vs name with
  | none => simp
  | some v =>
    constructor
    · rintro ⟨k, hk, rfl⟩
      exact ⟨some k, ⟨k, hk, rfl⟩, rfl⟩
    · rintro ⟨_, ⟨k, hk, rfl⟩, rfl⟩
      exact ⟨k, hk, rfl⟩

/-- The settings with the given numbers, where they are given. -/
def assembled (vs : Variables) (retry pageSize cacheSize keepAlive : Option Nat) : Settings where
  connector :=
    { retryInterval := (retry.map (· * 1000)).getD 10000
      pageSize := pageSize.getD 100
      cacheSize := cacheSize.getD 1000 }
  broker :=
    { keepAlive := (keepAlive.map (· * 1000)).getD 30000
      clientIdStem := (var? vs "CLIENT_ID_PREFIX").getD "hds" }
  catalogFile := var? vs "CATALOG_FILE"
  logLevel := (var? vs "LOG_LEVEL").getD "info"

/-- The numbers are read one after another, and the first fault ends the reading. -/
theorem ofVariables_cases (vs : Variables) :
    (∃ retry pageSize cacheSize keepAlive,
      number? vs "RETRY_INTERVAL_SECS" = .ok retry ∧ retry ≠ some 0 ∧
      number? vs "PAGE_SIZE" = .ok pageSize ∧ number? vs "CACHE_SIZE" = .ok cacheSize ∧
      number? vs "KEEP_ALIVE_SECS" = .ok keepAlive ∧
      ofVariables vs = .ok (assembled vs retry pageSize cacheSize keepAlive)) ∨
    ∃ e, ofVariables vs = .error e ∧
      ((∃ name ∈ numberNames, number? vs name = .error e) ∨
        number? vs "RETRY_INTERVAL_SECS" = .ok (some 0) ∧
          e = ⟨namespaceStem ++ "RETRY_INTERVAL_SECS", "0", "must be positive"⟩) := by
  simp only [ofVariables, bind, Except.bind, pure, Except.pure, throw, throwThe,
    MonadExceptOf.throw]
  cases hretry : number? vs "RETRY_INTERVAL_SECS" with
  | error e => exact .inr ⟨e, rfl, .inl ⟨_, by simp [numberNames], hretry⟩⟩
  | ok retry =>
    by_cases hzero : retry = some 0
    · exact .inr ⟨_, if_pos hzero, .inr ⟨congrArg _ hzero, rfl⟩⟩
    simp only [if_neg hzero]
    cases hpage : number? vs "PAGE_SIZE" with
    | error e => exact .inr ⟨e, rfl, .inl ⟨_, by simp [numberNames], hpage⟩⟩
    | ok pageSize =>
      cases hcache : number? vs "CACHE_SIZE" with
      | error e => exact .inr ⟨e, rfl, .inl ⟨_, by simp [numberNames], hcache⟩⟩
      | ok cacheSize =>
        cases hkeep : number? vs "KEEP_ALIVE_SECS" with
        | error e => exact .inr ⟨e, rfl, .inl ⟨_, by simp [numberNames], hkeep⟩⟩
        | ok keepAlive =>
          exact .inl ⟨retry, pageSize, cacheSize, keepAlive, rfl, hzero, rfl, rfl, rfl, rfl⟩

theorem follows_iff : Follows (var? vs) s ↔
    ∃ retry pageSize cacheSize keepAlive,
      number? vs "RETRY_INTERVAL_SECS" = .ok retry ∧ retry ≠ some 0 ∧
      number? vs "PAGE_SIZE" = .ok pageSize ∧ number? vs "CACHE_SIZE" = .ok cacheSize ∧
      number? vs "KEEP_ALIVE_SECS" = .ok keepAlive ∧
      assembled vs retry pageSize cacheSize keepAlive = s := by
  constructor
  · intro h
    obtain ⟨retry, hretry, hretryInterval⟩ := takes_iff.mp h.retry
    obtain ⟨pageSize, hpage, hpageSize⟩ := takes_iff.mp h.pageSize
    obtain ⟨cacheSize, hcache, hcacheSize⟩ := takes_iff.mp h.cacheSize
    obtain ⟨keepAlive, hkeep, hkeepAlive⟩ := takes_iff.mp h.keepAlive
    have hzero : retry ≠ some 0 := by
      rintro rfl
      exact h.positive hretryInterval
    refine ⟨retry, pageSize, cacheSize, keepAlive, hretry, hzero, hpage, hcache, hkeep, ?_⟩
    have hconnector := h.connector
    have hbroker := h.broker
    rw [hretryInterval, hpageSize, hcacheSize] at hconnector
    rw [hkeepAlive, h.clientIdStem] at hbroker
    calc assembled vs retry pageSize cacheSize keepAlive
        = ⟨s.connector, s.broker, s.catalogFile, s.logLevel⟩ := by
          rw [hconnector, hbroker, h.catalogFile, h.logLevel]
          simp [assembled]
      _ = s := rfl
  · rintro ⟨retry, pageSize, cacheSize, keepAlive, hretry, hzero, hpage, hcache, hkeep, rfl⟩
    have hpositive : (retry.map (· * 1000)).getD 10000 ≠ 0 := by
      cases retry with
      | none => decide
      | some n =>
        have hn : n ≠ 0 := fun hn => hzero (congrArg some hn)
        exact Nat.mul_ne_zero hn (by decide)
    exact
      { retry := takes_iff.mpr ⟨retry, hretry, rfl⟩
        positive := hpositive
        pageSize := takes_iff.mpr ⟨pageSize, hpage, by simp [assembled]⟩
        cacheSize := takes_iff.mpr ⟨cacheSize, hcache, by simp [assembled]⟩
        keepAlive := takes_iff.mpr ⟨keepAlive, hkeep, rfl⟩
        clientIdStem := rfl
        catalogFile := rfl
        logLevel := rfl
        connector := rfl
        broker := rfl }

theorem ofVariables_eq_ok_iff : ofVariables vs = .ok s ↔ Follows (var? vs) s := by
  rw [follows_iff]
  obtain ⟨retry, pageSize, cacheSize, keepAlive, hretry, hzero, hpage, hcache, hkeep, hok⟩ |
    ⟨e, herror, hfault⟩ := ofVariables_cases vs
  · simp [hok, hretry, hpage, hcache, hkeep, hzero]
  · simp only [herror, reduceCtorEq, false_iff]
    rintro ⟨retry, pageSize, cacheSize, keepAlive, hretry, hzero, hpage, hcache, hkeep, -⟩
    obtain ⟨name, hname, hbad⟩ | ⟨hnone, -⟩ := hfault
    · simp only [numberNames, List.mem_cons, List.not_mem_nil, or_false] at hname
      obtain rfl | rfl | rfl | rfl := hname <;> simp_all
    · simp_all

theorem blames_of_error (h : ofVariables vs = .error e) : Blames (var? vs) e := by
  obtain ⟨_, _, _, _, -, -, -, -, -, hok⟩ | ⟨e', herror, hfault⟩ := ofVariables_cases vs
  · simp [hok] at h
  · obtain rfl : e' = e := by simpa [herror] using h
    obtain ⟨name, hname, hbad⟩ | ⟨hnone, rfl⟩ := hfault
    · obtain ⟨hename, v, hv, hfault⟩ := number?_eq_error hbad
      exact ⟨name, hname, hename, v, hv, .inl hfault⟩
    · rw [number?_eq_ok_iff] at hnone
      cases hv : var? vs "RETRY_INTERVAL_SECS" with
      | none => simp [hv] at hnone
      | some v =>
        obtain ⟨n, hn, hzero⟩ :
            ∃ n, Decimal.readUnsigned 64 (Text.trim v) = .ok n ∧ some 0 = some n := by
          simpa [hv] using hnone
        obtain rfl : 0 = n := Option.some.inj hzero
        exact ⟨_, List.mem_cons_self, rfl, v, hv, .inr ⟨rfl, hn, rfl, rfl⟩⟩

theorem Follows.congr {value value' : String → Option String}
    (h : ∀ name ∈ variableNames, value name = value' name) (hs : Follows value s) :
    Follows value' s where
  retry := h "RETRY_INTERVAL_SECS" (by decide) ▸ hs.retry
  positive := hs.positive
  pageSize := h "PAGE_SIZE" (by decide) ▸ hs.pageSize
  cacheSize := h "CACHE_SIZE" (by decide) ▸ hs.cacheSize
  keepAlive := h "KEEP_ALIVE_SECS" (by decide) ▸ hs.keepAlive
  clientIdStem := h "CLIENT_ID_PREFIX" (by decide) ▸ hs.clientIdStem
  catalogFile := h "CATALOG_FILE" (by decide) ▸ hs.catalogFile
  logLevel := h "LOG_LEVEL" (by decide) ▸ hs.logLevel
  connector := hs.connector
  broker := hs.broker

/-! ### The environment and two files -/

variable {files : Files} {shared own : Variables}

/-- The environment leaves a variable unset and the two files give it different values. Values of
blanks only are alike. -/
def Clash (vs shared own : Variables) (name : String) : Prop :=
  vs.lookup (namespaceStem ++ name) = none ∧
    ∃ v w, shared.lookup (namespaceStem ++ name) = some v ∧
      own.lookup (namespaceStem ++ name) = some w ∧ v ≠ w ∧ ¬(Text.allBlank v ∧ Text.allBlank w)

theorem value?_swap_iff : value? [vs, shared, own] name = value? [vs, own, shared] name ↔
    ¬ Clash vs shared own name := by
  simp only [value?, Clash, List.findSome?_cons, List.findSome?_nil]
  cases vs.lookup (namespaceStem ++ name) with
  | some v => simp
  | none =>
    cases shared.lookup (namespaceStem ++ name) with
    | none => cases own.lookup (namespaceStem ++ name) <;> simp
    | some v =>
      cases own.lookup (namespaceStem ++ name) with
      | none => simp
      | some w => grind

/-- What becomes of the environment and of the values in the two files. -/
structure FirstCounts (vs : Variables) (files : Files) (shared own : Variables) : Prop where
  settings : ∀ s, ofEnvironment vs files = .ok s ↔ Follows (value? [vs, shared, own]) s
  faults : ∀ e, ofEnvironment vs files = .error e → Blames (value? [vs, shared, own]) e
  /-- The second file overrides the first one exactly if it has nothing to override. -/
  overrides_iff :
    (∀ name ∈ variableNames,
      var? (loadEnvFiles vs files) name = value? [vs, own, shared] name) ↔
    ∀ name ∈ variableNames, ¬ Clash vs shared own name
  overridden : (∀ name ∈ variableNames, ¬ Clash vs shared own name) →
    ∀ s, ofEnvironment vs files = .ok s ↔ Follows (value? [vs, own, shared]) s

theorem lookup_loadEnvFiles (hshared : EnvFile.assignments vs (files.lines ".env") = some shared)
    (hown : EnvFile.assignments (vs ++ shared) (files.lines ".env.local") = some own)
    (n : String) : (loadEnvFiles vs files).lookup n = (vs ++ shared ++ own).lookup n := by
  simp only [loadEnvFiles, envFiles, List.foldl_cons, List.foldl_nil, Variables.loadFile_eq]
  exact Variables.lookup_loadLines
    (Variables.lookup_loadLines (fun _ => rfl) (fun _ _ => rfl) hshared) (fun _ _ => rfl) hown n

theorem var?_loadEnvFiles (hshared : EnvFile.assignments vs (files.lines ".env") = some shared)
    (hown : EnvFile.assignments (vs ++ shared) (files.lines ".env.local") = some own) :
    var? (loadEnvFiles vs files) = value? [vs, shared, own] := by
  funext name
  rw [var?, value?, lookup_loadEnvFiles hshared hown, List.lookup_append, List.lookup_append]
  congr 1
  cases h : vs.lookup (namespaceStem ++ name) <;>
    cases h' : shared.lookup (namespaceStem ++ name) <;>
      cases h'' : own.lookup (namespaceStem ++ name) <;> simp [h, h', h'']

/-- With two well-formed files a setting is read from the environment, else from the first file,
else from the second one, else it is the standard one. -/
theorem first_file_counts (vs : Variables)
    (hshared : EnvFile.WellFormed (files.lines ".env"))
    (hown : EnvFile.WellFormed (files.lines ".env.local")) :
    ∃ shared own, EnvFile.assignments vs (files.lines ".env") = some shared ∧
      EnvFile.assignments (vs ++ shared) (files.lines ".env.local") = some own ∧
      FirstCounts vs files shared own := by
  obtain ⟨shared, hshared⟩ := EnvFile.isSome_assignments hshared vs
  obtain ⟨own, hown⟩ := EnvFile.isSome_assignments hown (vs ++ shared)
  have hvalue := var?_loadEnvFiles hshared hown
  have hsettings s : ofEnvironment vs files = .ok s ↔ Follows (value? [vs, shared, own]) s := by
    rw [ofEnvironment, ofVariables_eq_ok_iff, hvalue]
  refine ⟨shared, own, hshared, hown, hsettings, ?_, ?_, ?_⟩
  · intro e he
    rw [← hvalue]
    exact blames_of_error he
  · simp only [hvalue, value?_swap_iff]
  · intro hclash s
    have hswap name (hname : name ∈ variableNames) :
        value? [vs, shared, own] name = value? [vs, own, shared] name :=
      value?_swap_iff.mpr (hclash name hname)
    rw [hsettings s]
    exact ⟨Follows.congr hswap, Follows.congr fun name hname => (hswap name hname).symm⟩

/-- A directory with two environment files. -/
def pairOfFiles (shared own : String) : Files :=
  [(".env", Text.bytes shared), (".env.local", Text.bytes own)]

/-- An environment that a value in a file refers to and that sets a variable itself. -/
def hostEnvironment : Variables :=
  [("HOST", "h"), ("MQTT_INGEST_KEEP_ALIVE_SECS", "7")]

def mixedFiles : Files :=
  pairOfFiles "MQTT_INGEST_CLIENT_ID_PREFIX=$HOST" "MQTT_INGEST_PAGE_SIZE=6"

theorem first_file_counts_mixed :
    EnvFile.WellFormed (mixedFiles.lines ".env") ∧
    EnvFile.WellFormed (mixedFiles.lines ".env.local") ∧
    (∃ shared own, EnvFile.assignments hostEnvironment (mixedFiles.lines ".env") = some shared ∧
      EnvFile.assignments (hostEnvironment ++ shared) (mixedFiles.lines ".env.local") = some own ∧
      FirstCounts hostEnvironment mixedFiles shared own) ∧
    ofEnvironment hostEnvironment mixedFiles =
      .ok { connector := { pageSize := 6 },
            broker := { clientIdStem := "h", keepAlive := 7000 } } := by
  have hshared : EnvFile.WellFormed (mixedFiles.lines ".env") := by decide +kernel
  have hown : EnvFile.WellFormed (mixedFiles.lines ".env.local") := by decide +kernel
  have hsettings : ofEnvironment hostEnvironment mixedFiles =
      .ok { connector := { pageSize := 6 },
            broker := { clientIdStem := "h", keepAlive := 7000 } } := by decide +kernel
  exact ⟨hshared, hown, first_file_counts hostEnvironment hshared hown, hsettings⟩

def clashingFiles : Files :=
  pairOfFiles "MQTT_INGEST_LOG_LEVEL=debug\n" "MQTT_INGEST_LOG_LEVEL=trace\n"

/-- The second file does not override the first one. -/
theorem second_file_ignored :
    EnvFile.WellFormed (clashingFiles.lines ".env") ∧
    EnvFile.WellFormed (clashingFiles.lines ".env.local") ∧
    EnvFile.assignments [] (clashingFiles.lines ".env") =
      some [("MQTT_INGEST_LOG_LEVEL", "debug")] ∧
    EnvFile.assignments [("MQTT_INGEST_LOG_LEVEL", "debug")] (clashingFiles.lines ".env.local") =
      some [("MQTT_INGEST_LOG_LEVEL", "trace")] ∧
    value? [[], [("MQTT_INGEST_LOG_LEVEL", "trace")], [("MQTT_INGEST_LOG_LEVEL", "debug")]]
      "LOG_LEVEL" = some "trace" ∧
    ofEnvironment [] clashingFiles = .ok { logLevel := "debug" } := by
  decide +kernel

end Settings

end SensorBridge
