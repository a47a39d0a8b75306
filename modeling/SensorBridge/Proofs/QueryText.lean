import Mathlib.Data.List.TakeWhile
import SensorBridge.Proofs.Escapes

/-!
The settings in the query of a url. A setting behind an ampersand comes after those before it, and
a name is read back exactly if its stem is plain: a stem that ends the setting cuts the unique part
off, and one with an escape or a break in it comes back with less in it.
-/
namespace SensorBridge

namespace Text

variable {separator : Char} {cs ds : List Char} {q : List Char} {qs : List (List Char)}

theorem pieces_cons (c : Char) : pieces separator (c :: cs) =
    consPiece separator c (pieces separator cs) := rfl

theorem consPiece_self {ps : List (List Char)} : consPiece separator separator ps = [] :: ps :=
  if_pos rfl

theorem consPiece_of_ne {c : Char} {p : List Char} {ps : List (List Char)} (h : c ≠ separator) :
    consPiece separator c (p :: ps) = (c :: p) :: ps :=
  if_neg h

/-- The last piece of a text goes on with the first piece of what follows. -/
theorem exists_pieces_append (separator : Char) (cs : List Char) :
    ∃ ps p, pieces separator cs = ps ++ [p] ∧
    ∀ ds q qs, pieces separator ds = q :: qs →
      pieces separator (cs ++ ds) = ps ++ (p ++ q) :: qs := by
  induction cs with
  | nil => exact ⟨[], [], rfl, fun ds q qs h => h⟩
  | cons c cs ih =>
    obtain ⟨ps, p, hcs, happend⟩ := ih
    by_cases hc : c = separator
    · subst hc
      refine ⟨[] :: ps, p, ?_, fun ds q qs h => ?_⟩
      · rw [pieces_cons, hcs, consPiece_self]
        rfl
      · rw [List.cons_append, pieces_cons, happend ds q qs h, consPiece_self]
        rfl
    · cases ps with
      | nil =>
        refine ⟨[], c :: p, ?_, fun ds q qs h => ?_⟩
        · rw [pieces_cons, hcs]
          exact consPiece_of_ne hc
        · rw [List.cons_append, pieces_cons, happend ds q qs h]
          exact consPiece_of_ne hc
      | cons first ps =>
        refine ⟨(c :: first) :: ps, p, ?_, fun ds q qs h => ?_⟩
        · rw [pieces_cons, hcs]
          exact consPiece_of_ne hc
        · rw [List.cons_append, pieces_cons, happend ds q qs h]
          exact consPiece_of_ne hc

theorem exists_pieces (separator : Char) (cs : List Char) :
    ∃ q qs, pieces separator cs = q :: qs := by
  obtain ⟨ps, p, h, -⟩ := exists_pieces_append separator cs
  cases ps with
  | nil => exact ⟨p, [], h⟩
  | cons q ps => exact ⟨q, ps ++ [p], h⟩

/-- The first piece ends at the first separator. -/
theorem eq_takeWhile_of_pieces (h : pieces separator cs = q :: qs) :
    q = cs.takeWhile (· != separator) := by
  induction cs generalizing q qs with
  | nil =>
    obtain ⟨rfl, -⟩ := List.cons.inj h
    rfl
  | cons c cs ih =>
    obtain ⟨p, ps, hcs⟩ := exists_pieces separator cs
    rw [pieces_cons, hcs, consPiece] at h
    split_ifs at h with hc
    · obtain ⟨rfl, -⟩ := List.cons.inj h
      rw [List.takeWhile_cons_of_neg (by simp [hc])]
    · obtain ⟨rfl, -⟩ := List.cons.inj h
      rw [List.takeWhile_cons_of_pos (by simp [hc]), ← ih hcs]

theorem pieces_of_not_mem (h : separator ∉ cs) : pieces separator cs = [cs] := by
  induction cs with
  | nil => rfl
  | cons c cs ih =>
    rw [List.mem_cons, not_or] at h
    rw [pieces_cons, ih h.2, consPiece, if_neg (Ne.symm h.1)]

end Text

namespace Url

open Text (pieces exists_pieces_append)

namespace Query

variable {cs ds : List Char}

/-- Settings behind an ampersand come after those before it. -/
theorem parse_append : parse (cs ++ '&' :: ds) = parse cs ++ parse ds := by
  obtain ⟨ps, p, hcs, happend⟩ := exists_pieces_append '&' cs
  have hds : pieces '&' ('&' :: ds) = [] :: pieces '&' ds := by
    rw [Text.pieces_cons, Text.consPiece_self]
  rw [parse, happend _ _ _ hds, List.append_nil, parse, hcs, parse, List.append_cons,
    List.filter_append, List.map_append]

/-- No setting gets lost when the text goes on. -/
theorem length_parse_le : (parse cs).length ≤ (parse (cs ++ ds)).length := by
  obtain ⟨ps, p, hcs, happend⟩ := exists_pieces_append '&' cs
  obtain ⟨q, qs, hds⟩ := Text.exists_pieces '&' ds
  rw [parse, parse, hcs, happend _ _ _ hds, List.length_map, List.length_map, List.filter_append,
    List.filter_append, List.length_append, List.length_append]
  refine Nat.add_le_add_left ?_ _
  cases p with
  | nil => exact Nat.zero_le _
  | cons c p => simp

/-- How a client id is written as a setting. -/
def clientIdKey : List Char :=
  "client_id=".toList

theorem setting_clientIdKey : setting (clientIdKey ++ cs) = ("client_id", decode cs) := by
  have hname : decode "client_id".toList = "client_id" := by
    rw [decode_eq_iff.mpr ⟨by decide, not_hasEscape (by decide)⟩]
    rfl
  change (decode "client_id".toList, decode cs) = _
  rw [hname]

/-- The client id that is read ends where the next setting starts. -/
theorem exists_parse_clientIdKey (cs : List Char) : ∃ more, parse (clientIdKey ++ cs) =
    ("client_id", decode (cs.takeWhile (· != '&'))) :: more := by
  obtain ⟨q, qs, hcs⟩ := Text.exists_pieces '&' cs
  obtain ⟨ps, p, hkey, happend⟩ := exists_pieces_append '&' clientIdKey
  obtain ⟨rfl, rfl⟩ : ps = [] ∧ p = clientIdKey := by
    rw [Text.pieces_of_not_mem (by decide)] at hkey
    obtain ⟨h, h'⟩ := List.append_inj' ((List.nil_append _).trans hkey) rfl
    exact ⟨h.symm, (List.cons.inj h').1.symm⟩
  refine ⟨(qs.filter (!·.isEmpty)).map setting, ?_⟩
  rw [parse, happend _ _ _ hcs, ← Text.eq_takeWhile_of_pieces hcs, ← setting_clientIdKey]
  rfl

theorem parse_clientIdKey (h : '&' ∉ cs) :
    parse (clientIdKey ++ cs) = [("client_id", decode cs)] := by
  have hmem : '&' ∉ clientIdKey ++ cs := by
    rw [List.mem_append, not_or]
    exact ⟨by decide, h⟩
  rw [parse, Text.pieces_of_not_mem hmem, ← setting_clientIdKey]
  rfl

end Query

/-! ### Stretches of a text -/

theorem takeWhile_append_of_mem {p : Char → Bool} {c : Char} {cs ds : List Char} (hc : c ∈ cs)
    (hp : p c = false) : (cs ++ ds).takeWhile p = cs.takeWhile p := by
  rw [List.takeWhile_append, if_neg]
  intro hlength
  have hall := List.takeWhile_eq_self_iff.mp ((List.takeWhile_prefix p).eq_of_length hlength) c hc
  rw [hp] at hall
  cases hall

theorem dropWhile_append_of_mem {p : Char → Bool} {c : Char} {cs ds : List Char} (hc : c ∈ cs)
    (hp : p c = false) : (cs ++ ds).dropWhile p = cs.dropWhile p ++ ds := by
  rw [List.dropWhile_append, if_neg]
  intro hempty
  have hall := List.dropWhile_eq_nil_iff.mp (List.isEmpty_iff.mp hempty) c hc
  rw [hp] at hall
  cases hall

/-! ### Names -/

/-- The characters that are nowhere read in a url. -/
def isBreak (c : Char) : Bool :=
  c == '\t' || c == '\n' || c == '\r'

/-- A text that a setting of a url gives back as it is: nothing in it ends the setting or the
query, is left out, or stands for something else. -/
structure IsPlain (text : List Char) : Prop where
  whole : ∀ c ∈ text, c ≠ '&' ∧ c ≠ '#'
  unbroken : ∀ c ∈ text, isBreak c = false
  literal : '+' ∉ text ∧ ¬ HasEscape text

/-- The unique part of a name: hexadecimal digits, at least one, and hyphens. -/
structure IsUnique (text : List Char) : Prop where
  digits : ∀ c ∈ text, (Text.hexDigit? c).isSome ∨ c = '-'
  nonempty : ∃ c ∈ text, (Text.hexDigit? c).isSome

/-- Whether a character stands inside of a setting. -/
def isInside (c : Char) : Bool :=
  c != '&' && c != '#'

variable {stem unique : List Char}

theorem IsUnique.ne (h : IsUnique unique) {c d : Char} (hc : c ∈ unique)
    (hd : Text.hexDigit? d = none) (hne : d ≠ '-') : c ≠ d := by
  rintro rfl
  obtain hdigit | rfl := h.digits c hc
  · rw [hd] at hdigit
    cases hdigit
  · exact hne rfl

theorem IsUnique.isInside (h : IsUnique unique) : ∀ c ∈ '-' :: unique, isInside c = true := by
  intro c hc
  obtain rfl | hc := List.mem_cons.mp hc
  · decide
  · simp [Url.isInside, h.ne hc (d := '&') rfl (by decide), h.ne hc (d := '#') rfl (by decide)]

theorem IsUnique.percent_not_mem (h : IsUnique unique) : '%' ∉ unique :=
  fun hc => h.ne hc (d := '%') rfl (by decide) rfl

theorem isPlain_of_decode (h : IsUnique unique)
    (hdecode : Query.decode ((stem.filter (!isBreak ·) ++ '-' :: unique).takeWhile isInside) =
      String.ofList (stem ++ '-' :: unique)) : IsPlain stem := by
  have hpos : 0 < Query.weight ('-' :: unique) := by
    obtain ⟨c, hc, hdigit⟩ := h.nonempty
    exact Query.weight_pos (List.mem_cons_of_mem _ hc) hdigit
  have hle := Query.weight_decode_le
    ((stem.filter (!isBreak ·) ++ '-' :: unique).takeWhile isInside)
  rw [hdecode, String.toList_ofList, Query.weight_append] at hle
  have hfilter : Query.weight (stem.filter (!isBreak ·)) ≤ Query.weight stem :=
    Query.weight_le_of_sublist List.filter_sublist
  -- a stem that ends the setting leaves the unique part out
  have hinside : ∀ c ∈ stem.filter (!isBreak ·), isInside c = true := by
    intro c hc
    by_contra hout
    rw [takeWhile_append_of_mem hc (Bool.eq_false_iff.mpr hout)] at hle
    have hshort := Query.weight_le_of_sublist
      (List.takeWhile_sublist isInside (l := stem.filter (!isBreak ·)))
    omega
  rw [List.takeWhile_append_of_pos hinside, List.takeWhile_eq_self_iff.mpr h.isInside]
    at hle hdecode
  rw [Query.weight_append] at hle
  have hescape : ¬ HasEscape (stem.filter (!isBreak ·) ++ '-' :: unique) := by
    intro hhas
    have hlt := Query.weight_decode_lt hhas
    rw [hdecode, String.toList_ofList, Query.weight_append, Query.weight_append] at hlt
    omega
  have hlength : (stem.filter (!isBreak ·)).length = stem.length := by
    have hlength := congrArg (fun s => s.toList.length) hdecode
    simpa [Query.decode_of_not_hasEscape hescape] using hlength
  have hstem : stem.filter (!isBreak ·) = stem := List.filter_sublist.eq_of_length hlength
  rw [hstem] at hdecode hinside
  obtain ⟨hplus, hescape⟩ := Query.decode_eq_iff.mp hdecode
  refine ⟨fun c hc => ?_, fun c hc => ?_, fun hc => hplus (List.mem_append_left _ hc), ?_⟩
  · simpa [isInside] using hinside c hc
  · simpa using List.filter_eq_self.mp hstem c hc
  · rwa [hasEscape_append_hyphen h.percent_not_mem] at hescape

theorem IsPlain.decode (hstem : IsPlain stem) (h : IsUnique unique) :
    Query.decode ((stem.filter (!isBreak ·) ++ '-' :: unique).takeWhile isInside) =
      String.ofList (stem ++ '-' :: unique) := by
  have hfilter : stem.filter (!isBreak ·) = stem :=
    List.filter_eq_self.mpr fun c hc => by simp [hstem.unbroken c hc]
  have hinside : ∀ c ∈ stem, isInside c = true := by
    intro c hc
    simpa [isInside] using hstem.whole c hc
  rw [hfilter, List.takeWhile_append_of_pos hinside, List.takeWhile_eq_self_iff.mpr h.isInside,
    Query.decode_eq_iff, hasEscape_append_hyphen h.percent_not_mem]
  refine ⟨fun hc => ?_, hstem.literal.2⟩
  obtain hc | hc := List.mem_append.mp hc
  · exact hstem.literal.1 hc
  · obtain heq | hc := List.mem_cons.mp hc
    · cases heq
    · exact h.ne hc (d := '+') rfl (by decide) rfl

/-- A name comes back exactly if its stem is plain. -/
theorem decode_name_iff (h : IsUnique unique) :
    Query.decode ((stem.filter (!isBreak ·) ++ '-' :: unique).takeWhile isInside) =
      String.ofList (stem ++ '-' :: unique) ↔ IsPlain stem :=
  ⟨isPlain_of_decode h, fun hstem => hstem.decode h⟩

theorem takeWhile_clientIdKey {cs : List Char} :
    (Query.clientIdKey ++ cs).takeWhile (· != '#') = Query.clientIdKey ++ cs.takeWhile (· != '#') :=
  List.takeWhile_append_of_pos (List.all_eq_true.mp rfl)

theorem length_parse_clientIdKey (cs : List Char) :
    0 < (Query.parse ((Query.clientIdKey ++ cs).takeWhile (· != '#'))).length := by
  obtain ⟨more, hmore⟩ := Query.exists_parse_clientIdKey (cs.takeWhile (· != '#'))
  rw [takeWhile_clientIdKey, hmore]
  exact Nat.succ_pos _

/-- What is written for a name is read as one setting with the name exactly if its stem is plain. -/
theorem parse_name_iff (h : IsUnique unique) :
    Query.parse ((Query.clientIdKey ++ (stem.filter (!isBreak ·) ++ '-' :: unique)).takeWhile
      (· != '#')) = [("client_id", String.ofList (stem ++ '-' :: unique))] ↔ IsPlain stem := by
  rw [takeWhile_clientIdKey, ← decode_name_iff h]
  constructor
  · intro hparse
    obtain ⟨more, hmore⟩ := Query.exists_parse_clientIdKey
      ((stem.filter (!isBreak ·) ++ '-' :: unique).takeWhile (· != '#'))
    rw [hmore, List.takeWhile_takeWhile] at hparse
    rw [← (Prod.mk.inj (List.cons.inj hparse).1).2]
    congr 2
    funext c
    simp only [isInside, Bool.decide_and, Bool.decide_eq_true]
  · intro hdecode
    have hinside : ∀ c ∈ stem.filter (!isBreak ·) ++ '-' :: unique, isInside c = true := by
      rw [List.forall_mem_append]
      refine ⟨fun c hc => ?_, h.isInside⟩
      simpa [isInside] using ((decode_name_iff h).mp hdecode).whole c (List.mem_filter.mp hc).1
    have hwhole : ∀ c ∈ stem.filter (!isBreak ·) ++ '-' :: unique, (c != '#') = true :=
      fun c hc => (Bool.and_eq_true _ _ ▸ hinside c hc).2
    rw [List.takeWhile_eq_self_iff.mpr hinside] at hdecode
    rw [List.takeWhile_eq_self_iff.mpr hwhole, Query.parse_clientIdKey, hdecode]
    intro hmem
    cases hinside _ hmem

end Url

end SensorBridge
