import Mathlib.Tactic.IntervalCases
import SensorBridge.Json.Reader

/-!
Strings and numbers of JSON as they are written and read back: every character comes back from its
escape, and a natural number that fits in 64 bits from its digits.
-/
namespace SensorBridge

/-! ### The bytes of a text -/

theorem toList_loop_eq (bs : ByteArray) (i : Nat) (acc : List UInt8) :
    ByteArray.toList.loop bs i acc = acc.reverse ++ bs.data.toList.drop i := by
  fun_induction ByteArray.toList.loop bs i acc with
  | case1 i acc h ih =>
    have hi : i < bs.data.toList.length := by simpa using h
    rw [ih, List.drop_eq_getElem_cons hi]
    simp [ByteArray.get!, h]
  | case2 i acc h =>
    rw [List.drop_eq_nil_of_le (by simpa using Nat.le_of_not_lt h), List.append_nil]

theorem toList_toByteArray (bs : List UInt8) : bs.toByteArray.toList = bs := by
  rw [ByteArray.toList, toList_loop_eq, List.data_toByteArray]
  rfl

namespace Text

theorem bytes_eq (s : String) : bytes s = s.toList.flatMap String.utf8EncodeChar := by
  rw [bytes, String.toUTF8_eq_toByteArray]
  conv_lhs => rw [← String.ofList_toList (s := s)]
  exact toList_toByteArray _

theorem bytes_append (s t : String) : bytes (s ++ t) = bytes s ++ bytes t := by
  simp only [bytes_eq, String.toList_append, List.flatMap_append]

theorem ofBytes?_bytes (s : String) : ofBytes? (bytes s) = some s := by
  have hbytes : (bytes s).toByteArray = s.toByteArray := by
    rw [bytes_eq]
    conv_rhs => rw [← String.ofList_toList (s := s)]
    rfl
  simp only [ofBytes?, hbytes, String.fromUTF8?, dif_pos s.isValidUTF8]
  rfl

/-! ### The bytes of a character -/

variable {c : Char}

theorem toNat_ofNat_byte {n : Nat} (h : n < 256) : (UInt8.ofNat n).toNat = n :=
  UInt8.toNat_ofNat_of_lt' h

theorem encodeChar_of_lt (h : c.toNat < 0x80) :
    String.utf8EncodeChar c = [UInt8.ofNat c.toNat] := by
  have hval : c.val.toNat = c.toNat := rfl
  simp only [String.utf8EncodeChar, hval]
  rw [if_pos (by omega)]

/-- Beyond ASCII all bytes are. -/
theorem high_of_mem_encodeChar (h : 0x80 ≤ c.toNat) :
    ∀ b ∈ String.utf8EncodeChar c, 0x80 ≤ b.toNat := by
  have hhigh : ∀ n, 0x80 ≤ n → n < 256 → 0x80 ≤ (UInt8.ofNat n).toNat := by
    intro n hn hlt
    rw [toNat_ofNat_byte hlt]
    exact hn
  intro b hb
  have hval : c.val.toNat = c.toNat := rfl
  simp only [String.utf8EncodeChar, hval] at hb
  rw [if_neg (by omega)] at hb
  split_ifs at hb
  · simp only [List.mem_cons, List.not_mem_nil, or_false] at hb
    obtain rfl | rfl := hb <;> exact hhigh _ (by omega) (by omega)
  · simp only [List.mem_cons, List.not_mem_nil, or_false] at hb
    obtain rfl | rfl | rfl := hb <;> exact hhigh _ (by omega) (by omega)
  · simp only [List.mem_cons, List.not_mem_nil, or_false] at hb
    obtain rfl | rfl | rfl | rfl := hb <;> exact hhigh _ (by omega) (by omega)

end Text

namespace Json

/-! ### Strings -/

/-- A byte that stands for itself in a string. -/
def isPlain (b : UInt8) : Bool :=
  b != quote && b != backslash && 0x20 ≤ b

variable {bs acc rest : List UInt8} {c : Char}

theorem scanText_quote : scanText acc (quote :: rest) = .ok (acc.reverse, rest) := by
  rw [scanText.eq_def]
  rfl

theorem scanText_of_plain {b : UInt8} (h : isPlain b = true) :
    scanText acc (b :: rest) = scanText (b :: acc) rest := by
  simp only [isPlain, Bool.and_eq_true, bne_iff_ne, decide_eq_true_eq] at h
  obtain ⟨⟨hquote, hbackslash⟩, hcontrol⟩ := h
  have hle : ¬ b < 0x20 := UInt8.not_lt.mpr hcontrol
  rw [scanText.eq_def]
  simp only [beq_iff_eq, hquote, hbackslash, hle, if_false]

theorem scanText_of_unescape? {b e : UInt8} (h : unescape? e = some b) :
    scanText acc (backslash :: e :: rest) = scanText (b :: acc) rest := by
  rw [scanText.eq_def]
  have hquote : (backslash == quote) = false := rfl
  simp only [hquote, beq_self_eq_true, h, if_true, if_false, Bool.false_eq_true]

theorem scanText_of_hexUnit? {h₁ h₂ h₃ h₄ : UInt8} {n : Nat} (h : hexUnit? h₁ h₂ h₃ h₄ = some n)
    (hn : n < 0xd800) : scanText acc (backslash :: letterU :: h₁ :: h₂ :: h₃ :: h₄ :: rest) =
      scanText (revBytes (Char.ofNat n) ++ acc) rest := by
  have hquote : (backslash == quote) = false := rfl
  have hnone : unescape? letterU = none := rfl
  have hletter : (letterU != letterU) = false := rfl
  have hlead : isLeadUnit n = false := by
    simp [isLeadUnit, Nat.not_le.mpr hn]
  have htrail : isTrailUnit n = false := by
    have hlt : ¬ 0xdc00 ≤ n := by omega
    simp [isTrailUnit, hlt]
  rw [scanText.eq_def]
  simp only [hquote, hnone, hletter, h, hlead, htrail, beq_self_eq_true, if_true, if_false,
    Bool.false_eq_true]

theorem scanText_append_of_plain (h : ∀ b ∈ bs, isPlain b = true) :
    scanText acc (bs ++ rest) = scanText (bs.reverse ++ acc) rest := by
  induction bs generalizing acc with
  | nil => rfl
  | cons b bs ih =>
    obtain ⟨hb, hbs⟩ := List.forall_mem_cons.mp h
    rw [List.cons_append, scanText_of_plain hb, ih hbs, List.reverse_cons, List.append_assoc,
      List.singleton_append]

/-- The bytes of a character that needs no escape stand for themselves. -/
theorem isPlain_of_unescaped (h : shortEscape? c = none) (hc : 0x20 ≤ c.toNat) :
    ∀ b ∈ String.utf8EncodeChar c, isPlain b = true := by
  have hquote : c.toNat ≠ 0x22 := by
    intro heq
    obtain rfl : c = '"' := Char.toNat_inj.mp heq
    cases h
  have hbackslash : c.toNat ≠ 0x5c := by
    intro heq
    obtain rfl : c = '\\' := Char.toNat_inj.mp heq
    cases h
  have hplain : ∀ b : UInt8, b.toNat ≠ 0x22 → b.toNat ≠ 0x5c → 0x20 ≤ b.toNat →
      isPlain b = true := by
    intro b h1 h2 h3
    simp only [isPlain, quote, backslash, Bool.and_eq_true, bne_iff_ne, decide_eq_true_eq, Ne,
      ← UInt8.toNat_inj, UInt8.le_iff_toNat_le]
    exact ⟨⟨h1, h2⟩, h3⟩
  intro b hb
  -- one byte for ASCII; the bytes of all other characters are above ASCII
  by_cases hascii : c.toNat < 0x80
  · rw [Text.encodeChar_of_lt hascii, List.mem_singleton] at hb
    have hb' : b.toNat = c.toNat := by rw [hb, Text.toNat_ofNat_byte (by omega)]
    exact hplain b (by omega) (by omega) (by omega)
  · have hhigh := Text.high_of_mem_encodeChar (Nat.not_lt.mp hascii) b hb
    exact hplain b (by omega) (by omega) (by omega)

/-- The character that a two-byte escape stands for. -/
theorem scanText_of_shortEscape? {e : Char} (h : shortEscape? c = some e) :
    scanText acc (['\\', e].flatMap String.utf8EncodeChar ++ rest) =
      scanText (revBytes c ++ acc) rest := by
  have hbytes : ∃ b, ['\\', e].flatMap String.utf8EncodeChar = [backslash, b] ∧
      ∃ b', unescape? b = some b' ∧ revBytes c = [b'] := by
    unfold shortEscape? at h
    split_ifs at h with h1 h2 h3 h4 h5 h6 h7 <;> simp only [beq_iff_eq] at * <;> cases h <;> subst c <;>
      exact ⟨_, rfl, _, rfl, rfl⟩
  obtain ⟨b, hb, b', hb', hrev⟩ := hbytes
  rw [hb, hrev]
  exact scanText_of_unescape? hb'

theorem hexValue?_hexDigit {n : Nat} (h : n < 16) :
    ∃ b, String.utf8EncodeChar (hexDigit n) = [b] ∧ hexValue? b = some n := by
  interval_cases n <;> exact ⟨_, rfl, rfl⟩

theorem scanText_of_control (hc : c.toNat < 0x20) :
    scanText acc (['\\', 'u', '0', '0', hexDigit (c.toNat / 16), hexDigit (c.toNat % 16)].flatMap
      String.utf8EncodeChar ++ rest) = scanText (revBytes c ++ acc) rest := by
  obtain ⟨high, hhigh, hx⟩ := hexValue?_hexDigit (n := c.toNat / 16) (by omega)
  obtain ⟨low, hlow, hy⟩ := hexValue?_hexDigit (n := c.toNat % 16) (by omega)
  have hunit : hexUnit? 0x30 0x30 high low = some c.toNat := by
    have hzero : hexValue? 0x30 = some 0 := rfl
    have hsum : ((0 * 16 + 0) * 16 + c.toNat / 16) * 16 + c.toNat % 16 = c.toNat := by omega
    simp only [hexUnit?, hzero, hx, hy, Option.bind_eq_bind, Option.bind_some, hsum]
    rfl
  simp only [List.flatMap_cons, hhigh, hlow, List.flatMap_nil]
  rw [← Char.ofNat_toNat c]
  exact scanText_of_hexUnit? hunit (by omega)

/-- Every character comes back from what is written for it. -/
theorem scanText_escapeChar :
    scanText acc ((escapeChar c).flatMap String.utf8EncodeChar ++ rest) =
      scanText (revBytes c ++ acc) rest := by
  unfold escapeChar
  split
  · rename_i e h
    exact scanText_of_shortEscape? h
  · rename_i h
    split
    · rename_i hc
      exact scanText_of_control hc
    · rename_i hc
      rw [List.flatMap_singleton]
      exact scanText_append_of_plain (isPlain_of_unescaped h (Nat.not_lt.mp hc))

theorem scanText_escaped (cs : List Char) :
    scanText acc ((cs.flatMap escapeChar).flatMap String.utf8EncodeChar ++ quote :: rest) =
      .ok (acc.reverse ++ cs.flatMap String.utf8EncodeChar, rest) := by
  induction cs generalizing acc with
  | nil => rw [List.flatMap_nil, List.flatMap_nil, List.nil_append, scanText_quote, List.append_nil]
  | cons c cs ih =>
    rw [List.flatMap_cons, List.flatMap_append, List.append_assoc, scanText_escapeChar, ih, revBytes,
      List.reverse_append, List.reverse_reverse, List.append_assoc, List.flatMap_cons]

theorem bytes_encodeText (s : String) : Text.bytes (encodeText s) =
    quote :: (s.toList.flatMap escapeChar).flatMap String.utf8EncodeChar ++ [quote] := by
  rw [Text.bytes_eq, encodeText, String.toList_ofList, List.cons_append, List.flatMap_cons,
    List.flatMap_append]
  rfl

/-- Every string comes back from its text. -/
theorem text_encodeText (s : String) :
    Reader.text (Text.bytes (encodeText s) ++ rest) = .ok (s, rest) := by
  have hread : readText ((s.toList.flatMap escapeChar).flatMap String.utf8EncodeChar ++
      quote :: rest) = .ok (s, rest) := by
    rw [readText, scanText_escaped, List.reverse_nil, List.nil_append, ← Text.bytes_eq]
    simp only [Text.ofBytes?_bytes]
  rw [bytes_encodeText, List.cons_append, List.cons_append, List.append_assoc]
  exact hread

/-! ### Numbers -/

open Decimal

def digitByte (d : Nat) : UInt8 :=
  UInt8.ofNat (48 + d)

theorem digitByte_spec {d : Nat} (h : d < 10) :
    isDigit (digitByte d) = true ∧ digitValue (digitByte d) = d := by
  interval_cases d <;> decide

theorem bytes_toString_of_lt {n : Nat} (h : n < 10) :
    Text.bytes (toString n) = [digitByte n] := by
  rw [Text.bytes_eq, show (toString n).toList = Nat.toDigits 10 n from Nat.toList_repr,
    Nat.toDigits_of_lt_base h]
  interval_cases n <;> rfl

theorem bytes_toString_of_le {n : Nat} (h : 10 ≤ n) : Text.bytes (toString n) =
    Text.bytes (toString (n / 10)) ++ [digitByte (n % 10)] := by
  rw [← bytes_toString_of_lt (Nat.mod_lt n (by decide)), ← Text.bytes_append]
  congr 1
  rw [← String.toList_inj, String.toList_append]
  change n.repr.toList = (n / 10).repr.toList ++ (n % 10).repr.toList
  rw [Nat.toList_repr, Nat.toList_repr, Nat.toList_repr, Nat.toDigits_of_base_le (by decide) h,
    Nat.toDigits_of_lt_base (Nat.mod_lt n (by decide))]

/-- A natural number is written with digits alone. -/
theorem isDigit_of_mem_toString (n : Nat) : ∀ b ∈ Text.bytes (toString n), isDigit b = true := by
  induction n using Nat.strongRecOn with
  | ind n ih =>
    by_cases h : n < 10
    · rw [bytes_toString_of_lt h]
      simpa using (digitByte_spec h).1
    · rw [bytes_toString_of_le (Nat.not_lt.mp h)]
      intro b hb
      obtain hb | hb := List.mem_append.mp hb
      · exact ih (n / 10) (by omega) b hb
      · obtain rfl := List.mem_singleton.mp hb
        exact (digitByte_spec (Nat.mod_lt n (by decide))).1

/-- The digits of a natural number, the first one not zero unless it is the only one. -/
theorem leading_digit (n : Nat) : ∃ d ds, (Text.bytes (toString n)).map digitValue = d :: ds ∧
    (d = 0 → n = 0) ∧ (n = 0 → ds = []) := by
  induction n using Nat.strongRecOn with
  | ind n ih =>
    by_cases h : n < 10
    · rw [bytes_toString_of_lt h]
      exact ⟨n, [], congrArg (fun d => [d]) (digitByte_spec h).2, id, fun _ => rfl⟩
    · obtain ⟨d, ds, hdigits, hd, -⟩ := ih (n / 10) (by omega)
      rw [bytes_toString_of_le (Nat.not_lt.mp h), List.map_append, hdigits]
      exact ⟨d, _, rfl, fun hzero => absurd (hd hzero) (by omega), fun hzero => absurd hzero (by omega)⟩

/-- A natural number of 64 bits is the word that its digits form. -/
theorem wholePart_toString {n : Nat} (h : n < UInt64.size) :
    ((Text.bytes (toString n)).map digitValue).foldl Significand.pushWhole .zero = ⟨n, 0, false⟩ := by
  induction n using Nat.strongRecOn with
  | ind n ih =>
    by_cases hn : n < 10
    · rw [bytes_toString_of_lt hn]
      simp [(digitByte_spec hn).2, Significand.zero, Significand.pushWhole, h]
    · have hfit : n / 10 * 10 + n % 10 = n := by omega
      rw [bytes_toString_of_le (Nat.not_lt.mp hn), List.map_append, List.foldl_append,
        ih (n / 10) (by omega) (by omega)]
      simp [(digitByte_spec (Nat.mod_lt n (by decide))).2, Significand.pushWhole, hfit, h]

/-- What may follow a numeral: no byte that would go on with it. -/
def Ends (bs : List UInt8) : Prop :=
  ∀ b ∈ bs.head?, isDigit b = false ∧ b ≠ 0x2e ∧ b ≠ 0x65 ∧ b ≠ 0x45

theorem takeDigits_append {ds : List UInt8} (hds : ∀ b ∈ ds, isDigit b = true) (h : Ends rest) :
    takeDigits (ds ++ rest) = (ds.map digitValue, rest) := by
  have hrest : rest.takeWhile isDigit = [] ∧ rest.dropWhile isDigit = rest := by
    cases rest with
    | nil => exact ⟨rfl, rfl⟩
    | cons b bs => simp [(h b rfl).1]
  rw [takeDigits, List.takeWhile_append_of_pos hds, List.dropWhile_append_of_pos hds, hrest.1,
    hrest.2, List.append_nil]

theorem readFraction_of_ends (h : Ends rest) : readFraction rest = .ok ([], rest) := by
  cases rest with
  | nil => rfl
  | cons b bs => simp [readFraction, (h b rfl).2.1]

theorem readExponent_of_ends (h : Ends rest) : readExponent rest = .ok (none, rest) := by
  cases rest with
  | nil => rfl
  | cons b bs => simp [readExponent, (h b rfl).2.2.1, (h b rfl).2.2.2]

/-- Every natural number of 64 bits comes back from its digits. -/
theorem readNumber_toString {n : Nat} (hn : n < UInt64.size) (h : Ends rest) :
    readNumber (Text.bytes (toString n) ++ rest) = .ok (.integer n, rest) := by
  obtain ⟨d, ds, hdigits, hd, hds⟩ := leading_digit n
  have hsome : someDigits (Text.bytes (toString n) ++ rest) = .ok (d :: ds, rest) := by
    rw [someDigits, takeDigits_append (isDigit_of_mem_toString n) h, hdigits]
  have hwhole : readWhole (Text.bytes (toString n) ++ rest) = .ok (d :: ds, rest) := by
    rw [readWhole, hsome]
    split
    · rename_i heq
      cases heq
      cases hds (hd rfl)
    · rfl
  have hsign : ((Text.bytes (toString n) ++ rest).head? == some 0x2d) = false := by
    obtain ⟨b, bs, hbs, -⟩ := List.map_eq_cons_iff.mp hdigits
    have hb : isDigit b = true := isDigit_of_mem_toString n b (hbs ▸ List.mem_cons_self)
    rw [hbs, List.cons_append, List.head?_cons, beq_eq_false_iff_ne, Ne, Option.some.injEq]
    rintro rfl
    cases hb
  have hnumeral : readNumeral (Text.bytes (toString n) ++ rest) =
      .ok (⟨false, d :: ds, [], none⟩, rest) := by
    simp only [readNumeral, hsign, Bool.false_eq_true, if_false, hwhole, readFraction_of_ends h,
      readExponent_of_ends h, bind, Except.bind, pure, Except.pure]
  have hvalue : Number.ofNumeral? ⟨false, d :: ds, [], none⟩ = some (.integer n) := by
    have hpart := wholePart_toString hn
    rw [hdigits] at hpart
    simp [Number.ofNumeral?, Numeral.toInteger?, Numeral.wholePart, hpart]
  simp only [readNumber, hnumeral, hvalue]

end Json

end SensorBridge
