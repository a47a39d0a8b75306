import SensorBridge.Proofs.QueryText
import SensorBridge.Url

/-!
Urls that go on. Blanks at the end of a url are read once something follows, the part with the host
ends at a question mark, and a fragment leaves out all that follows it.
-/
namespace SensorBridge.Url

/-! ### What is read of a text -/

/-- The characters that are left out at the ends of a url. -/
def isEdge (c : Char) : Bool :=
  c.toNat ≤ 0x20

theorem isBreak_of_not_isEdge {c : Char} (h : isEdge c = false) : isBreak c = false := by
  rw [isBreak, Bool.or_eq_false_iff, Bool.or_eq_false_iff]
  simp only [beq_eq_false_iff_ne]
  refine ⟨⟨?_, ?_⟩, ?_⟩ <;> rintro rfl <;> cases h

/-- What is read of a url that goes on. -/
def opened (text : String) : List Char :=
  (text.toList.dropWhile isEdge).filter (!isBreak ·)

/-- Of a url that ends nothing is read that would not be read if it went on. -/
theorem exists_opened (text : String) :
    ∃ padding, opened text = trimmed text ++ padding ∧ ∀ c ∈ padding, isEdge c = true := by
  let front := text.toList.dropWhile isEdge
  have hfront : front = (front.reverse.dropWhile isEdge).reverse ++
      (front.reverse.takeWhile isEdge).reverse := by
    rw [← List.reverse_append, List.takeWhile_append_dropWhile, List.reverse_reverse]
  refine ⟨(front.reverse.takeWhile isEdge).reverse.filter (!isBreak ·), ?_, fun c hc => ?_⟩
  · change front.filter _ = _
    conv_lhs => rw [hfront, List.filter_append]
    rfl
  · exact List.mem_takeWhile_imp (List.mem_reverse.mp (List.mem_filter.mp hc).1)

theorem mem_opened_iff {text : String} {c : Char} (hc : isEdge c = false) :
    c ∈ opened text ↔ c ∈ text.toList := by
  rw [opened, List.mem_filter, isBreak_of_not_isEdge hc]
  refine ⟨fun h => List.dropWhile_subset _ h.1, fun h => ⟨?_, rfl⟩⟩
  rw [← List.takeWhile_append_dropWhile (p := isEdge) (l := text.toList), List.mem_append] at h
  obtain h | h := h
  · rw [List.mem_takeWhile_imp h] at hc
    cases hc
  · exact h

/-- A url goes on with all that is read of it and of what follows. -/
theorem trimmed_append {text more : String} {c last : Char} (hc : c ∈ text.toList)
    (hedge : isEdge c = false) (hmore : more.toList.getLast? = some last)
    (hlast : isEdge last = false) :
    trimmed (text ++ more) = opened text ++ more.toList.filter (!isBreak ·) := by
  obtain ⟨before, hbefore⟩ := List.getLast?_eq_some_iff.mp hmore
  have hdrop : (text ++ more).toList.dropWhile isEdge =
      text.toList.dropWhile isEdge ++ more.toList := by
    rw [String.toList_append, dropWhile_append_of_mem hc hedge]
  have hend : ((text ++ more).toList.dropWhile isEdge).reverse.dropWhile isEdge =
      ((text ++ more).toList.dropWhile isEdge).reverse := by
    rw [hdrop, hbefore, ← List.append_assoc, List.reverse_append, List.reverse_singleton,
      List.singleton_append, List.dropWhile_cons_of_neg (by simp [hlast])]
  change (((text ++ more).toList.dropWhile isEdge).reverse.dropWhile isEdge).reverse.filter _ = _
  rw [hend, List.reverse_reverse, hdrop, List.filter_append]
  rfl

/-! ### The parts of a text -/

variable {text scheme : String} {cs ds rest more : List Char} {u : Url}

theorem scheme?_eq_some (h : scheme? cs = some (scheme, rest)) : ∃ name,
    cs = name ++ ':' :: rest ∧ (∀ c ∈ name, isSchemeChar c = true) ∧
      ∀ ds, scheme? (name ++ ':' :: ds) = some (scheme, ds) := by
  unfold scheme? at h
  split at h
  · rename_i c name tail htake hdrop
    split_ifs at h with hc
    obtain ⟨rfl, rfl⟩ := Prod.mk.inj (Option.some.inj h)
    have hname : ∀ d ∈ c :: name, isSchemeChar d = true := by
      intro d hd
      rw [← htake] at hd
      exact List.mem_takeWhile_imp hd
    refine ⟨c :: name, ?_, hname, fun ds => ?_⟩
    · rw [← htake, ← hdrop, List.takeWhile_append_dropWhile]
    · rw [scheme?, List.takeWhile_append_of_pos hname, List.dropWhile_append_of_pos hname]
      simp [hc, isSchemeChar]
  · cases h

theorem parse_eq_ok_iff : Url.parse text = .ok u ↔ ∃ scheme rest v,
    scheme? (trimmed text) = some (scheme, rest) ∧ readFront scheme rest = .ok v ∧
      u = { v with query := queryOf rest } := by
  unfold Url.parse
  constructor
  · intro h
    split at h
    · cases h
    · rename_i scheme rest hscheme
      cases hread : readFront scheme rest with
      | error e =>
        rw [hread] at h
        cases h
      | ok v =>
        rw [hread] at h
        exact ⟨scheme, rest, v, hscheme, hread, (Except.ok.inj h).symm⟩
  · rintro ⟨scheme, rest, v, hscheme, hread, rfl⟩
    rw [hscheme]
    simp only [hread]
    rfl

/-- The front of a url whose scheme has rules of its own. -/
theorem readFront_slashes (h : isWeb scheme = false) : readFront scheme ('/' :: '/' :: rest) =
    readAuthority scheme (rest.takeWhile (!endsAuthority false ·))
      (rest.any (endsAuthority false)) := by
  have hfile : (scheme == "file") = false := by
    rw [beq_eq_false_iff_ne]
    rintro rfl
    cases h
  simp only [readFront, hfile, h, Bool.false_eq_true, if_false]

theorem readFront_of_ne (h : isWeb scheme = false) (hne : ∀ rest, cs ≠ '/' :: '/' :: rest) :
    readFront scheme cs = .ok { scheme } := by
  have hfile : (scheme == "file") = false := by
    rw [beq_eq_false_iff_ne]
    rintro rfl
    cases h
  simp only [readFront, hfile, h, Bool.false_eq_true, if_false]

/-- The part with the host ends where a path, a query or a fragment starts. -/
theorem readFront_append (h : isWeb scheme = false) {c : Char}
    (hc : endsAuthority false c = true) (hrest : c ∈ rest) :
    readFront scheme ('/' :: '/' :: rest ++ more) = readFront scheme ('/' :: '/' :: rest) := by
  have hends : rest.any (endsAuthority false) = true := List.any_eq_true.mpr ⟨c, hrest, hc⟩
  rw [List.cons_append, List.cons_append, readFront_slashes h, readFront_slashes h,
    takeWhile_append_of_mem hrest (by rw [hc]; rfl), List.any_append, hends, Bool.true_or]

/-- A text that starts with something else than two slashes goes on with none of them at a question
mark. -/
theorem append_ne_slashes (h : '?' ∈ cs ∨ more.head? = some '?')
    (hne : ∀ host, cs ≠ '/' :: '/' :: host) {host : List Char} :
    cs ++ more ≠ '/' :: '/' :: host := by
  intro heq
  match cs, more, h with
  | [], _ :: _, .inr h =>
    rw [List.nil_append] at heq
    rw [heq] at h
    cases h
  | [c], _, .inl h =>
    obtain rfl := List.mem_singleton.mp h
    exact absurd (List.cons.inj heq).1 (by decide)
  | [_], _ :: _, .inr h =>
    rw [(List.cons.inj (List.cons.inj heq).2).1] at h
    cases h
  | a :: b :: cs, _, _ =>
    obtain ⟨ha, heq⟩ := List.cons.inj heq
    obtain ⟨hb, -⟩ := List.cons.inj heq
    exact hne cs (by rw [ha, hb])

theorem readFront_append_question (h : isWeb scheme = false) (hrest : '?' ∈ rest) :
    readFront scheme (rest ++ more) = readFront scheme rest := by
  by_cases hslashes : ∃ host, rest = '/' :: '/' :: host
  · obtain ⟨host, rfl⟩ := hslashes
    simp only [List.mem_cons, Char.reduceEq, false_or] at hrest
    exact readFront_append h rfl hrest
  · rw [readFront_of_ne h fun host hhost => hslashes ⟨host, hhost⟩,
      readFront_of_ne h fun host => append_ne_slashes (.inl hrest)
        fun host hhost => hslashes ⟨host, hhost⟩]

/-! ### The query of a text -/

/-- Whether the part before query and fragment goes on. -/
def isBefore (c : Char) : Bool :=
  !(c == '?' || c == '#')

theorem queryOf_eq : queryOf cs = match cs.dropWhile isBefore with
    | '?' :: query => Query.parse (query.takeWhile (· != '#'))
    | _ => [] := rfl

theorem queryOf_question (h : ∀ c ∈ cs, isBefore c = true) :
    queryOf (cs ++ '?' :: ds) = Query.parse (ds.takeWhile (· != '#')) := by
  rw [queryOf_eq, List.dropWhile_append_of_pos h, List.dropWhile_cons_of_neg (by decide)]
  rfl

theorem queryOf_hash (h : ∀ c ∈ cs, isBefore c = true) : queryOf (cs ++ '#' :: ds) = [] := by
  rw [queryOf_eq, List.dropWhile_append_of_pos h, List.dropWhile_cons_of_neg (by decide)]
  rfl

theorem queryOf_of_before (h : ∀ c ∈ cs, isBefore c = true) : queryOf cs = [] := by
  rw [queryOf_eq, List.dropWhile_eq_nil_iff.mpr h]

/-- The first character of a query or a fragment. -/
theorem exists_before {c : Char} (hc : c ∈ cs) (hbefore : isBefore c = false) :
    ∃ before d after, cs = before ++ d :: after ∧ (∀ c ∈ before, isBefore c = true) ∧
      (d = '?' ∨ d = '#') := by
  have hne : cs.dropWhile isBefore ≠ [] := by
    intro hnil
    rw [List.dropWhile_eq_nil_iff.mp hnil c hc] at hbefore
    cases hbefore
  obtain ⟨d, after, hdrop⟩ := List.exists_cons_of_ne_nil hne
  refine ⟨cs.takeWhile isBefore, d, after, ?_, fun c hc => List.mem_takeWhile_imp hc, ?_⟩
  · rw [← hdrop, List.takeWhile_append_dropWhile]
  · have hd := List.head_dropWhile_not isBefore hne
    simpa [hdrop, isBefore, Decidable.or_iff_not_imp_left] using hd

/-- A fragment leaves out what follows. -/
theorem queryOf_append_of_hash (h : '#' ∈ rest) : queryOf (rest ++ more) = queryOf rest := by
  obtain ⟨before, d, after, rfl, hbefore, rfl | rfl⟩ := exists_before h rfl
  · have hafter : '#' ∈ after := by
      obtain h | h := List.mem_append.mp h
      · cases hbefore _ h
      · simpa using h
    rw [List.append_assoc, List.cons_append, queryOf_question hbefore, queryOf_question hbefore,
      takeWhile_append_of_mem hafter rfl]
  · rw [List.append_assoc, List.cons_append, queryOf_hash hbefore, queryOf_hash hbefore]

/-- How a text goes on with a setting. -/
def jointOf (cs : List Char) : Char :=
  if '?' ∈ cs then '&' else '?'

theorem isEdge_jointOf : isEdge (jointOf cs) = false := by
  unfold jointOf
  split_ifs <;> rfl

/-- A query goes on up to the fragment. -/
theorem exists_query (hquestion : '?' ∈ rest) (hhash : '#' ∉ rest) : ∃ query, ∀ more,
    queryOf (rest ++ more) = Query.parse (query ++ more.takeWhile (· != '#')) := by
  obtain ⟨before, d, after, rfl, hbefore, rfl | rfl⟩ := exists_before hquestion rfl
  · refine ⟨after, fun more => ?_⟩
    have hafter : ∀ c ∈ after, (c != '#') = true := by
      intro c hc
      rw [bne_iff_ne]
      rintro rfl
      exact hhash (List.mem_append_right _ (List.mem_cons_of_mem _ hc))
    rw [List.append_assoc, List.cons_append, queryOf_question hbefore,
      List.takeWhile_append_of_pos hafter]
  · exact absurd (List.mem_append_right _ List.mem_cons_self) hhash

section Joint

variable {padding : List Char}

theorem ne_of_blank (h : ∀ c ∈ padding, isEdge c = true) : ∀ c ∈ padding, c ≠ '?' ∧ c ≠ '#' := by
  intro c hc
  have hedge := h c hc
  constructor <;> rintro rfl <;> cases hedge

/-- Behind a query a setting is one more. -/
theorem queryOf_ampersand (more : List Char) (hquestion : '?' ∈ rest) (hhash : '#' ∉ rest)
    (hpadding : ∀ c ∈ padding, isEdge c = true) :
    queryOf (rest ++ padding ++ '&' :: more) =
        queryOf (rest ++ padding ++ ['&']) ++ Query.parse (more.takeWhile (· != '#')) ∧
      (queryOf rest).length ≤ (queryOf (rest ++ padding ++ ['&'])).length ∧
      (padding = [] → queryOf (rest ++ ['&']) = queryOf rest) := by
  obtain ⟨query, hquery⟩ := exists_query hquestion hhash
  have hjoined : ∀ more, queryOf (rest ++ padding ++ '&' :: more) =
      Query.parse (query ++ padding) ++ Query.parse (more.takeWhile (· != '#')) := by
    intro more
    rw [List.append_assoc, hquery, List.takeWhile_append_of_pos fun c hc =>
      bne_iff_ne.mpr (ne_of_blank hpadding c hc).2, List.takeWhile_cons_of_pos (by decide),
      ← List.append_assoc, Query.parse_append]
  have hrest : queryOf rest = Query.parse query := by
    have hnil := hquery []
    rwa [List.append_nil, List.takeWhile_nil, List.append_nil] at hnil
  have hnil : Query.parse (List.takeWhile (· != '#') []) = [] := rfl
  rw [hjoined, hjoined, hnil, List.append_nil, hrest]
  refine ⟨rfl, Query.length_parse_le, ?_⟩
  rintro rfl
  have hend := hjoined []
  rwa [List.append_nil, List.append_nil, hnil, List.append_nil] at hend

/-- Without a query a setting is the first one. -/
theorem queryOf_question_joint (more : List Char) (hquestion : '?' ∉ rest) (hhash : '#' ∉ rest)
    (hpadding : ∀ c ∈ padding, isEdge c = true) :
    queryOf (rest ++ padding ++ '?' :: more) =
        queryOf (rest ++ padding ++ ['?']) ++ Query.parse (more.takeWhile (· != '#')) ∧
      (queryOf rest).length ≤ (queryOf (rest ++ padding ++ ['?'])).length ∧
      (padding = [] → queryOf (rest ++ ['?']) = queryOf rest) := by
  have hall : ∀ c, c ≠ '?' ∧ c ≠ '#' → isBefore c = true := by
    rintro c ⟨h, h'⟩
    simp [isBefore, h, h']
  have hbefore : ∀ c ∈ rest, isBefore c = true := by
    refine fun c hc => hall c ⟨?_, ?_⟩
    · rintro rfl
      exact hquestion hc
    · rintro rfl
      exact hhash hc
  have hpadded : ∀ c ∈ rest ++ padding, isBefore c = true :=
    List.forall_mem_append.mpr ⟨hbefore, fun c hc => hall c (ne_of_blank hpadding c hc)⟩
  rw [queryOf_question hpadded, queryOf_question hpadded, queryOf_of_before hbefore]
  refine ⟨rfl, Nat.zero_le _, fun _ => ?_⟩
  rw [queryOf_question hbefore]
  rfl

/-- A setting that is put behind a text comes after those that the text has, and none of them gets
lost. -/
theorem queryOf_joint (more : List Char) (hhash : '#' ∉ rest)
    (hpadding : ∀ c ∈ padding, isEdge c = true) :
    queryOf (rest ++ padding ++ jointOf rest :: more) =
        queryOf (rest ++ padding ++ [jointOf rest]) ++ Query.parse (more.takeWhile (· != '#')) ∧
      (queryOf rest).length ≤ (queryOf (rest ++ padding ++ [jointOf rest])).length ∧
      (padding = [] → queryOf (rest ++ [jointOf rest]) = queryOf rest) := by
  unfold jointOf
  split_ifs with hquestion
  · exact queryOf_ampersand more hquestion hhash hpadding
  · exact queryOf_question_joint more hquestion hhash hpadding

end Joint

/-! ### The front of a url -/

theorem bind_eq_ok {ε α β : Type} {x : Except ε α} {f : α → Except ε β} {b : β}
    (h : (x >>= f) = .ok b) : ∃ a, x = .ok a ∧ f a = .ok b := by
  cases x with
  | error e => cases h
  | ok a => exact ⟨a, rfl, h⟩

theorem bind_of_ok {ε α β : Type} {x : Except ε α} {f : α → Except ε β} {a : α} {b : β}
    (hx : x = .ok a) (h : f a = .ok b) : (x >>= f) = .ok b := by
  rw [hx]
  exact h

/-- The parts of a cut text make up the text, with the character that cuts it between them. -/
theorem eq_append_of_cutAt {p : Char → Bool} {before after : List Char}
    (h : Text.cutAt p cs = (before, some after)) :
    ∃ c, p c = true ∧ cs = before ++ c :: after := by
  have hcs := List.takeWhile_append_dropWhile (p := fun c => !p c) (l := cs)
  unfold Text.cutAt at h
  split at h
  · cases h
  · rename_i c rest hdrop
    obtain ⟨rfl, hrest⟩ := Prod.mk.inj h
    obtain rfl := Option.some.inj hrest
    have hhead := List.head_dropWhile_not (fun c => !p c) (l := cs)
      (by rw [hdrop]; exact List.cons_ne_nil _ _)
    refine ⟨c, ?_, ?_⟩
    · simpa [hdrop] using hhead
    · rw [← hdrop, hcs]

/-- A user and a host that are both empty are written as a single sign. -/
theorem eq_at_of_cutUser (h : cutUser cs = (some [], [])) : cs = ['@'] := by
  unfold cutUser at h
  split at h
  · rename_i host user hcut
    obtain ⟨c, hc, hcs⟩ := eq_append_of_cutAt hcut
    obtain ⟨huser, hhost⟩ := Prod.mk.inj h
    obtain rfl := List.reverse_eq_nil_iff.mp (Option.some.inj huser)
    obtain rfl := List.reverse_eq_nil_iff.mp hhost
    obtain rfl := beq_iff_eq.mp hc
    rw [← List.reverse_reverse cs, hcs]
    rfl
  · cases (Prod.mk.inj h).1

/-- That something follows matters only behind a user and a host that are both empty. -/
theorem readAuthority_more (h : cs ≠ ['@']) :
    readAuthority scheme cs true = readAuthority scheme cs false := by
  have hcut : ((cutUser cs).1 == some [] && (cutUser cs).2.isEmpty) = false := by
    rw [Bool.eq_false_iff]
    intro hempty
    rw [Bool.and_eq_true, beq_iff_eq, List.isEmpty_iff] at hempty
    exact h (eq_at_of_cutUser (Prod.ext hempty.1 hempty.2))
  simp only [readAuthority, hcut, Bool.false_and, Bool.false_eq_true, if_false]

theorem scheme_readAuthority {more : Bool} (h : readAuthority scheme cs more = .ok u) :
    u.scheme = scheme := by
  unfold readAuthority at h
  dsimp only at h
  split at h
  · cases h
  · obtain ⟨host, -, h⟩ := bind_eq_ok h
    split at h
    · cases h
    · obtain ⟨number, -, h⟩ := bind_eq_ok h
      split at h
      · cases h
      · cases h
        rfl

theorem scheme_readFront (h : readFront scheme cs = .ok u) : u.scheme = scheme := by
  unfold readFront at h
  dsimp only at h
  split_ifs at h with hfile hweb
  · have hscheme : scheme = "file" := beq_iff_eq.mp hfile
    split at h
    · split_ifs at h
      · unfold readFileHost at h
        split_ifs at h
        · cases h
          exact hscheme.symm
        · cases hhost : webHost (List.takeWhile (!endsAuthority true ·) _) with
          | error e =>
            rw [hhost] at h
            cases h
          | ok host =>
            rw [hhost] at h
            cases h
            exact hscheme.symm
      · cases h
        rfl
    · cases h
      rfl
  · exact scheme_readAuthority h
  · split at h
    · exact scheme_readAuthority h
    · cases h
      rfl

theorem readFront_joint (h : isWeb scheme = false) (hne : cs ≠ "//@".toList) :
    readFront scheme (cs ++ [jointOf cs]) = readFront scheme cs := by
  by_cases hquestion : '?' ∈ cs
  · exact readFront_append_question h hquestion
  have hjoint : jointOf cs = '?' := if_neg hquestion
  rw [hjoint]
  by_cases hslashes : ∃ host, cs = '/' :: '/' :: host
  · obtain ⟨host, rfl⟩ := hslashes
    by_cases hends : host.any (endsAuthority false) = true
    · obtain ⟨c, hc, hcends⟩ := List.any_eq_true.mp hends
      exact readFront_append h hcends hc
    · have hall : ∀ c ∈ host, (!endsAuthority false c) = true := by
        intro c hc
        rw [Bool.not_eq_true', Bool.eq_false_iff]
        exact fun hcends => hends (List.any_eq_true.mpr ⟨c, hc, hcends⟩)
      have htake : (host ++ ['?']).takeWhile (!endsAuthority false ·) = host := by
        rw [List.takeWhile_append_of_pos hall]
        exact List.append_nil host
      have hany : (host ++ ['?']).any (endsAuthority false) = true := by
        rw [List.any_append]
        exact Bool.or_true _
      rw [List.cons_append, List.cons_append, readFront_slashes h, readFront_slashes h, htake, hany,
        List.takeWhile_eq_self_iff.mpr hall, Bool.eq_false_iff.mpr hends]
      refine readAuthority_more ?_
      rintro rfl
      exact hne rfl
  · rw [readFront_of_ne h fun host hhost => hslashes ⟨host, hhost⟩,
      readFront_of_ne h fun host => append_ne_slashes (.inr rfl)
        fun host hhost => hslashes ⟨host, hhost⟩]

/-- The parts of a url that is read: its front and its query, and the blanks at its end, which are
read only if it goes on. -/
structure Parts (text : String) (u : Url) (scheme : String) (rest padding : List Char) (v : Url) :
    Prop where
  start : scheme? (trimmed text) = some (scheme, rest)
  front : readFront scheme rest = .ok v
  whole : u = { v with query := queryOf rest }
  opened : opened text = trimmed text ++ padding
  blank : ∀ c ∈ padding, isEdge c = true
  marks : ∀ c, c = '?' ∨ c = '#' → (c ∈ text.toList ↔ c ∈ rest)
  further : ∀ (more : String) (last : Char), more.toList.getLast? = some last →
    isEdge last = false → Url.parse (text ++ more) =
      (readFront scheme (rest ++ padding ++ more.toList.filter (!isBreak ·))).map fun v =>
        { v with query := queryOf (rest ++ padding ++ more.toList.filter (!isBreak ·)) }

theorem exists_parts (h : Url.parse text = .ok u) :
    ∃ scheme rest padding v, Parts text u scheme rest padding v := by
  obtain ⟨scheme, rest, v, hscheme, hread, hu⟩ := parse_eq_ok_iff.mp h
  obtain ⟨padding, hopened, hpadding⟩ := exists_opened text
  obtain ⟨name, htrimmed, hname, hgoes⟩ := scheme?_eq_some hscheme
  have hopened' : opened text = name ++ ':' :: (rest ++ padding) := by
    rw [hopened, htrimmed, List.append_assoc]
    rfl
  refine ⟨scheme, rest, padding, v, hscheme, hread, hu, hopened, hpadding, fun c hc => ?_,
    fun more last hmore hlast => ?_⟩
  · have hedge : isEdge c = false := by
      obtain rfl | rfl := hc <;> rfl
    have hnot : c ∉ name ∧ c ≠ ':' ∧ c ∉ padding := by
      refine ⟨fun hin => ?_, ?_, fun hin => ?_⟩
      · have hchar := hname c hin
        obtain rfl | rfl := hc <;> cases hchar
      · obtain rfl | rfl := hc <;> decide
      · rw [hpadding c hin] at hedge
        cases hedge
    rw [← mem_opened_iff hedge, hopened']
    simp [hnot]
  · have hcolon : ':' ∈ text.toList := by
      rw [← mem_opened_iff (by rfl), hopened']
      exact List.mem_append_right _ List.mem_cons_self
    rw [Url.parse, trimmed_append hcolon (by rfl) hmore hlast, hopened', List.append_assoc,
      List.cons_append, hgoes]

end SensorBridge.Url
