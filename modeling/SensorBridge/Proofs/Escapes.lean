import SensorBridge.Proofs.Mending
import SensorBridge.Url.Query

/-!
Percent escapes in the settings of a url. A text is read back as it is written exactly if it has
neither plus signs nor escapes. Reading never makes more of what escapes are made of, and less of it
if there is an escape, so that no text with an escape in it can be read as itself.
-/
namespace SensorBridge.Url

open Text (bytes hexDigit? bytes_ofBytesMended countP_mendBytes encodeChar_of_lt
  high_of_mem_encodeChar)
open String (utf8EncodeChar)

variable {bs rest : List UInt8} {a b : UInt8} {c d : Char} {cs ds : List Char}

/-! ### Digits -/

theorem toNat_of_hexDigit? (h : (hexDigit? c).isSome) :
    48 ≤ c.toNat ∧ c.toNat ≤ 57 ∨ 97 ≤ c.toNat ∧ c.toNat ≤ 102 ∨ 65 ≤ c.toNat ∧ c.toNat ≤ 70 := by
  simp only [hexDigit?, Bool.and_eq_true, decide_eq_true_eq, Char.le_def] at h
  split_ifs at h with h1 h2 h3
  · exact .inl h1
  · exact .inr (.inl h2)
  · exact .inr (.inr h3)
  · cases h

/-- What escapes are made of. -/
def isEscaping (b : UInt8) : Bool :=
  b == 0x25 || (hexByte? b).isSome

theorem toNat_ofNat_toNat (b : UInt8) : (Char.ofNat b.toNat).toNat = b.toNat := by
  have hvalid : b.toNat.isValidChar := .inl (by have := b.toNat_lt; omega)
  rw [Char.ofNat, dif_pos hvalid]
  rfl

theorem lt_of_isEscaping (h : isEscaping b = true) : b.toNat < 0x80 := by
  simp only [isEscaping, Bool.or_eq_true, beq_iff_eq] at h
  obtain rfl | h := h
  · decide
  · have hrange := toNat_of_hexDigit? h
    rw [toNat_ofNat_toNat] at hrange
    omega

/-! ### Bytes -/

/-- The bytes start with an escape. -/
def Opens (bs : List UInt8) : Prop :=
  ∃ a b rest, bs = 0x25 :: a :: b :: rest ∧ (hexByte? a).isSome ∧ (hexByte? b).isSome

/-- A byte that starts no escape stands for itself. -/
theorem unescapeBytes_cons (h : ¬ Opens (b :: rest)) :
    unescapeBytes (b :: rest) = b :: unescapeBytes rest := by
  rw [unescapeBytes.eq_def]
  split
  · rename_i heq
    cases heq
  · rename_i a d rest heq
    split
    · rename_i x y hx hy
      exact absurd ⟨a, d, rest, heq, by rw [hx]; rfl, by rw [hy]; rfl⟩ h
    · cases heq
      rfl
  · rename_i heq
    cases heq
    rfl

/-- Reading escapes makes no more of what they are made of. -/
theorem countP_unescapeBytes_le (bs : List UInt8) :
    (unescapeBytes bs).countP isEscaping ≤ bs.countP isEscaping := by
  fun_induction unescapeBytes bs with
  | case1 => exact Nat.le_refl _
  | case2 a b rest x y hx hy ih =>
    simp only [List.countP_cons]
    have hpercent : isEscaping 0x25 = true := rfl
    rw [hpercent, if_pos rfl]
    split_ifs <;> omega
  | case3 a b rest h ih =>
    rw [List.countP_cons, List.countP_cons]
    omega
  | case4 b rest h ih =>
    rw [List.countP_cons, List.countP_cons]
    omega

/-- Reading an escape makes less of what they are made of. -/
theorem countP_unescapeBytes_lt (ha : (hexByte? a).isSome) (hb : (hexByte? b).isSome)
    {before after : List UInt8} (h : bs = before ++ 0x25 :: a :: b :: after) :
    (unescapeBytes bs).countP isEscaping < bs.countP isEscaping := by
  fun_induction unescapeBytes bs generalizing before with
  | case1 => simp at h
  | case2 a' b' rest x y hy hx ih =>
    have hle := countP_unescapeBytes_le rest
    have hpercent : isEscaping 0x25 = true := rfl
    have ha' : isEscaping a' = true := by simp [isEscaping, hx]
    have hb' : isEscaping b' = true := by simp [isEscaping, hy]
    simp only [List.countP_cons, hpercent, ha', hb', if_true]
    split_ifs <;> omega
  | case3 a' b' rest hno ih =>
    cases before with
    | nil =>
      obtain ⟨-, rfl, rfl, rfl⟩ : (0x25 : UInt8) = 0x25 ∧ a' = a ∧ b' = b ∧ rest = after := by
        simpa using h
      obtain ⟨x, hx⟩ := Option.isSome_iff_exists.mp ha
      obtain ⟨y, hy⟩ := Option.isSome_iff_exists.mp hb
      exact absurd hy (hno x y hx)
    | cons _ before =>
      have hlt := ih (List.cons.inj h).2
      rw [List.countP_cons, List.countP_cons (l := a' :: b' :: rest)]
      omega
  | case4 b' rest hno ih =>
    cases before with
    | nil =>
      obtain ⟨rfl, rfl⟩ := List.cons.inj h
      exact absurd rfl (hno a b after rfl)
    | cons _ before =>
      have hlt := ih (List.cons.inj h).2
      rw [List.countP_cons, List.countP_cons (l := rest)]
      omega

/-! ### Characters -/

/-- A byte of ASCII at the front is a character. -/
theorem exists_cons_of_flatMap (h : cs.flatMap utf8EncodeChar = b :: rest) (hb : b.toNat < 0x80) :
    ∃ c ds, cs = c :: ds ∧ c.toNat = b.toNat ∧ rest = ds.flatMap utf8EncodeChar := by
  cases cs with
  | nil => cases h
  | cons c ds =>
    rw [List.flatMap_cons] at h
    by_cases hc : c.toNat < 0x80
    · rw [encodeChar_of_lt hc] at h
      obtain ⟨rfl, rfl⟩ := List.cons.inj h
      exact ⟨c, ds, rfl, (Text.toNat_ofNat_byte (by omega)).symm, rfl⟩
    · have hhigh := high_of_mem_encodeChar (Nat.not_lt.mp hc)
      obtain ⟨b', more, henc, -⟩ := Text.leads_encodeChar c []
      rw [henc] at h hhigh
      obtain ⟨rfl, -⟩ := List.cons.inj h
      exact absurd (hhigh b' List.mem_cons_self) (by omega)

/-- A text has an escape in it. -/
def HasEscape (cs : List Char) : Prop :=
  ∃ a b, (hexDigit? a).isSome ∧ (hexDigit? b).isSome ∧ ['%', a, b] <:+: cs

theorem hexByte?_ofNat (h : (hexDigit? c).isSome) :
    hexByte? (UInt8.ofNat c.toNat) = hexDigit? c := by
  have hrange := toNat_of_hexDigit? h
  rw [hexByte?, Text.toNat_ofNat_byte (by omega), Char.ofNat_toNat]

theorem hasEscape_of_opens (h : Opens (cs.flatMap utf8EncodeChar)) : HasEscape cs := by
  obtain ⟨a, b, rest, heq, ha, hb⟩ := h
  have hdigit : ∀ {b : UInt8} {c : Char}, (hexByte? b).isSome → c.toNat = b.toNat →
      (hexDigit? c).isSome := by
    intro b c hb hc
    rw [hexByte?, ← hc, Char.ofNat_toNat] at hb
    exact hb
  have hascii : ∀ {b : UInt8}, (hexByte? b).isSome → b.toNat < 0x80 := fun hb =>
    lt_of_isEscaping (by simp [isEscaping, hb])
  obtain ⟨p, cs, rfl, hp, h⟩ := exists_cons_of_flatMap heq (by decide)
  obtain ⟨c, cs, rfl, hc, h⟩ := exists_cons_of_flatMap h.symm (hascii ha)
  obtain ⟨d, cs, rfl, hd, h⟩ := exists_cons_of_flatMap h.symm (hascii hb)
  obtain rfl : p = '%' := Char.toNat_inj.mp hp
  exact ⟨c, d, hdigit ha hc, hdigit hb hd, [], cs, rfl⟩

theorem not_hasEscape (h : '%' ∉ cs) : ¬ HasEscape cs := by
  rintro ⟨a, b, -, -, hin⟩
  exact h (hin.subset List.mem_cons_self)

theorem hasEscape_cons_iff : HasEscape (c :: cs) ↔ (∃ a b ds, c = '%' ∧ cs = a :: b :: ds ∧
    (hexDigit? a).isSome ∧ (hexDigit? b).isSome) ∨ HasEscape cs := by
  constructor
  · rintro ⟨a, b, ha, hb, hin⟩
    obtain hprefix | hin := List.infix_cons_iff.mp hin
    · obtain ⟨ds, hds⟩ := hprefix
      obtain ⟨rfl, rfl⟩ := List.cons.inj hds
      exact .inl ⟨a, b, ds, rfl, rfl, ha, hb⟩
    · exact .inr ⟨a, b, ha, hb, hin⟩
  · rintro (⟨a, b, ds, rfl, rfl, ha, hb⟩ | h)
    · exact ⟨a, b, ha, hb, [], ds, rfl⟩
    · obtain ⟨a, b, ha, hb, hin⟩ := h
      exact ⟨a, b, ha, hb, hin.trans (List.suffix_cons c cs).isInfix⟩

/-- A hyphen ends every escape. -/
theorem hasEscape_append_hyphen (h : '%' ∉ ds) :
    HasEscape (cs ++ '-' :: ds) ↔ HasEscape cs := by
  have hhyphen : ¬ (hexDigit? '-').isSome := by decide
  induction cs with
  | nil =>
    refine iff_of_false (not_hasEscape ?_) (not_hasEscape List.not_mem_nil)
    rw [List.nil_append, List.mem_cons, not_or]
    exact ⟨by decide, h⟩
  | cons c cs ih =>
    rw [List.cons_append, hasEscape_cons_iff, hasEscape_cons_iff]
    refine or_congr ⟨?_, ?_⟩ ih
    · rintro ⟨a, b, ds', rfl, hcs, ha, hb⟩
      match cs, hcs with
      | [], hcs =>
        rw [(List.cons.inj hcs).1] at hhyphen
        exact absurd ha hhyphen
      | [_], hcs =>
        rw [(List.cons.inj (List.cons.inj hcs).2).1] at hhyphen
        exact absurd hb hhyphen
      | a' :: b' :: cs, hcs =>
        rw [← (List.cons.inj hcs).1] at ha
        rw [← (List.cons.inj (List.cons.inj hcs).2).1] at hb
        exact ⟨a', b', cs, rfl, rfl, ha, hb⟩
    · rintro ⟨a, b, ds', rfl, rfl, ha, hb⟩
      exact ⟨a, b, ds' ++ '-' :: ds, rfl, rfl, ha, hb⟩

theorem unescapeBytes_append {front : List UInt8} (h : ∀ b ∈ front, b ≠ 0x25) :
    unescapeBytes (front ++ rest) = front ++ unescapeBytes rest := by
  induction front with
  | nil => rfl
  | cons b front ih =>
    obtain ⟨hb, hfront⟩ := List.forall_mem_cons.mp h
    have hopens : ¬ Opens (b :: (front ++ rest)) := fun ⟨_, _, _, heq, _⟩ =>
      hb (List.cons.inj heq).1
    rw [List.cons_append, unescapeBytes_cons hopens, ih hfront]
    rfl

/-- Without an escape a text stands for itself. -/
theorem unescapeBytes_of_not_hasEscape (h : ¬ HasEscape cs) :
    unescapeBytes (cs.flatMap utf8EncodeChar) = cs.flatMap utf8EncodeChar := by
  induction cs with
  | nil => rfl
  | cons c cs ih =>
    have hrest := ih fun hcs => h (hasEscape_cons_iff.mpr (.inr hcs))
    by_cases hc : c.toNat < 0x80
    · rw [List.flatMap_cons, encodeChar_of_lt hc, List.singleton_append, unescapeBytes_cons, hrest]
      rw [← List.singleton_append, ← encodeChar_of_lt hc, ← List.flatMap_cons]
      exact fun hopens => h (hasEscape_of_opens hopens)
    · rw [List.flatMap_cons, unescapeBytes_append, hrest]
      intro b hb heq
      have hhigh := high_of_mem_encodeChar (Nat.not_lt.mp hc) b hb
      rw [heq] at hhigh
      exact absurd hhigh (by decide)

theorem countP_unescapeBytes_lt_of_hasEscape (h : HasEscape cs) :
    (unescapeBytes (cs.flatMap utf8EncodeChar)).countP isEscaping <
      (cs.flatMap utf8EncodeChar).countP isEscaping := by
  obtain ⟨a, b, ha, hb, before, after, rfl⟩ := h
  have henc : ∀ {c : Char}, (hexDigit? c).isSome → utf8EncodeChar c = [UInt8.ofNat c.toNat] := by
    intro c hc
    have hrange := toNat_of_hexDigit? hc
    exact encodeChar_of_lt (by omega)
  have hpercent : utf8EncodeChar '%' = [0x25] := rfl
  have hbytes : (before ++ ['%', a, b] ++ after).flatMap utf8EncodeChar =
      before.flatMap utf8EncodeChar ++
        0x25 :: UInt8.ofNat a.toNat :: UInt8.ofNat b.toNat :: after.flatMap utf8EncodeChar := by
    simp [henc ha, henc hb, hpercent]
  exact countP_unescapeBytes_lt (by rw [hexByte?_ofNat ha]; exact ha)
    (by rw [hexByte?_ofNat hb]; exact hb) hbytes

/-! ### Settings -/

namespace Query

/-- A plus sign is a space. -/
def spaced (c : Char) : Char :=
  if c = '+' then ' ' else c

theorem spaced_of_ne (h : c ≠ '+') : spaced c = c :=
  if_neg h

theorem spaced_ne : spaced c ≠ '+' := by
  unfold spaced
  split_ifs with h
  · decide
  · exact h

theorem map_spaced (h : '+' ∉ cs) : cs.map spaced = cs := by
  have hmap : cs.map spaced = cs.map id :=
    List.map_congr_left fun c hc => spaced_of_ne fun heq => h (heq ▸ hc)
  rw [hmap, List.map_id]

theorem ne_plus_of_hexDigit? (h : (hexDigit? c).isSome) : c ≠ '+' := by
  rintro rfl
  cases h

theorem eq_of_spaced_eq (h : spaced c = d) (hd : d ≠ ' ') : c = d := by
  unfold spaced at h
  split_ifs at h
  · exact absurd h.symm hd
  · exact h

theorem hasEscape_map_spaced : HasEscape (cs.map spaced) ↔ HasEscape cs := by
  constructor
  · rintro ⟨a, b, ha, hb, hin⟩
    have hspace : ∀ {c : Char}, (hexDigit? c).isSome → c ≠ ' ' := by
      rintro c hc rfl
      cases hc
    obtain ⟨part, hcs, hmap⟩ := List.infix_map_iff.mp hin
    obtain ⟨p, _, rfl, hp, hmap⟩ := List.map_eq_cons_iff.mp hmap.symm
    obtain ⟨a', _, rfl, ha', hmap⟩ := List.map_eq_cons_iff.mp hmap
    obtain ⟨b', _, rfl, hb', hmap⟩ := List.map_eq_cons_iff.mp hmap
    obtain rfl := List.map_eq_nil_iff.mp hmap
    obtain rfl := eq_of_spaced_eq hp (by decide)
    obtain rfl := eq_of_spaced_eq ha' (hspace ha)
    obtain rfl := eq_of_spaced_eq hb' (hspace hb)
    exact ⟨a', b', ha, hb, hcs⟩
  · rintro ⟨a, b, ha, hb, hin⟩
    have hmap := hin.map spaced
    simp only [List.map_cons, List.map_nil, spaced_of_ne (ne_plus_of_hexDigit? ha),
      spaced_of_ne (ne_plus_of_hexDigit? hb), spaced_of_ne (show '%' ≠ '+' by decide)] at hmap
    exact ⟨a, b, ha, hb, hmap⟩

variable {p : UInt8 → Bool}

theorem countP_decode (hp : ∀ b, p b = true → b.toNat < 0x80) : (bytes (decode cs)).countP p =
    (unescapeBytes ((cs.map spaced).flatMap utf8EncodeChar)).countP p := by
  have hdecode : decode cs = Text.ofBytesMended (unescapeBytes
      ((cs.map spaced).flatMap utf8EncodeChar)) := by
    rw [decode, unescape, Text.bytes_eq, String.toList_ofList]
    rfl
  rw [hdecode, bytes_ofBytesMended, countP_mendBytes hp (Nat.le_refl _), List.countP_nil,
    Nat.zero_add]

/-- How much there is in a text of what escapes are made of. -/
def weight (cs : List Char) : Nat :=
  (cs.flatMap utf8EncodeChar).countP isEscaping

theorem weight_append (cs ds : List Char) : weight (cs ++ ds) = weight cs + weight ds := by
  rw [weight, List.flatMap_append, List.countP_append]
  rfl

theorem weight_cons (c : Char) (cs : List Char) : weight (c :: cs) = weight [c] + weight cs :=
  weight_append [c] cs

theorem weight_le_of_sublist (h : List.Sublist cs ds) : weight cs ≤ weight ds := by
  induction h with
  | slnil => exact Nat.le_refl _
  | cons c _ ih =>
    rw [weight_cons]
    exact Nat.le_add_left_of_le ih
  | @cons_cons cs ds c _ ih =>
    rw [weight_cons c cs, weight_cons c ds]
    exact Nat.add_le_add_left ih _

theorem weight_pos {c : Char} (hc : c ∈ cs) (hdigit : (hexDigit? c).isSome) :
    0 < weight cs := by
  have hle := weight_le_of_sublist (List.singleton_sublist.mpr hc)
  have hrange := toNat_of_hexDigit? hdigit
  have hone : weight [c] = 1 := by
    have hbyte : isEscaping (UInt8.ofNat c.toNat) = true := by
      simp [isEscaping, hexByte?_ofNat hdigit, hdigit]
    rw [weight, List.flatMap_singleton, encodeChar_of_lt (by omega), List.countP_singleton,
      if_pos hbyte]
  omega

theorem weight_map_spaced : weight (cs.map spaced) = weight cs := by
  induction cs with
  | nil => rfl
  | cons c cs ih =>
    have hc : weight [spaced c] = weight [c] := by
      unfold spaced
      split_ifs with h
      · subst h
        rfl
      · rfl
    rw [List.map_cons, weight_cons, ih, hc, ← weight_cons]

theorem weight_decode_le (cs : List Char) : weight (decode cs).toList ≤ weight cs := by
  rw [weight, ← Text.bytes_eq, countP_decode fun b h => lt_of_isEscaping h,
    ← weight_map_spaced]
  exact countP_unescapeBytes_le _

theorem weight_decode_lt (h : HasEscape cs) : weight (decode cs).toList < weight cs := by
  rw [weight, ← Text.bytes_eq, countP_decode fun b h => lt_of_isEscaping h,
    ← weight_map_spaced]
  exact countP_unescapeBytes_lt_of_hasEscape (hasEscape_map_spaced.mpr h)

/-- A text that has no escapes is read with its plus signs as spaces. -/
theorem decode_of_not_hasEscape (h : ¬ HasEscape cs) :
    decode cs = String.ofList (cs.map spaced) := by
  have hbytes : unescapeBytes (bytes (String.ofList (cs.map spaced))) =
      bytes (String.ofList (cs.map spaced)) := by
    rw [Text.bytes_eq, String.toList_ofList]
    exact unescapeBytes_of_not_hasEscape fun h' => h (hasEscape_map_spaced.mp h')
  change Text.ofBytesMended (unescapeBytes (bytes (String.ofList (cs.map spaced)))) = _
  rw [hbytes, Text.ofBytesMended_bytes]

/-- A text stands for itself exactly if it has neither plus signs nor escapes. -/
theorem decode_eq_iff : decode cs = String.ofList cs ↔ '+' ∉ cs ∧ ¬ HasEscape cs := by
  constructor
  · intro h
    have hescape : ¬ HasEscape cs := by
      intro hcs
      have hlt := weight_decode_lt hcs
      rw [h, String.toList_ofList] at hlt
      exact absurd hlt (Nat.lt_irrefl _)
    refine ⟨fun hplus => ?_, hescape⟩
    rw [decode_of_not_hasEscape hescape, String.ofList_inj] at h
    rw [← h] at hplus
    obtain ⟨c, -, hc⟩ := List.mem_map.mp hplus
    exact spaced_ne hc
  · rintro ⟨hplus, hescape⟩
    rw [decode_of_not_hasEscape hescape, map_spaced hplus]

end Query

end SensorBridge.Url
