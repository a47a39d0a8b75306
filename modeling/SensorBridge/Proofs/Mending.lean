import SensorBridge.Proofs.Scalars
import SensorBridge.Text.Utf8

/-!
Bytes that are read as UTF-8 with replacement. What is UTF-8 stays as it is, what comes out is
UTF-8 in any case, and no character of ASCII is lost or gained.
-/
namespace SensorBridge.Text

open String (utf8EncodeChar)

variable {bs acc : List UInt8} {b low high : UInt8} {n : Nat} {c : Char}

theorem scalar_range (c : Char) :
    c.val.toNat < 0xd800 ∨ 0xe000 ≤ c.val.toNat ∧ c.val.toNat < 0x110000 := by
  obtain h | ⟨h, h'⟩ := c.valid
  · exact .inl h
  · exact .inr ⟨h, h'⟩

theorem exists_scalar (h : n.isValidChar) : ∃ c : Char, c.val.toNat = n :=
  ⟨Char.ofNatAux n h, rfl⟩

/-! ### First bytes and those that follow -/

/-- How many bytes follow a first byte. -/
inductive Leads : UInt8 → Nat → Prop where
  | one {b : UInt8} : b.toNat ≤ 0x7f → Leads b 0
  | two {b : UInt8} : 0xc2 ≤ b.toNat → b.toNat ≤ 0xdf → Leads b 1
  | three {b : UInt8} : 0xe0 ≤ b.toNat → b.toNat ≤ 0xef → Leads b 2
  | four {b : UInt8} : 0xf0 ≤ b.toNat → b.toNat ≤ 0xf4 → Leads b 3

/-- The least second byte. The shortest form of a character is the only one. -/
def lowest (b : UInt8) : UInt8 :=
  if b = 0xe0 then 0xa0 else if b = 0xf0 then 0x90 else 0x80

/-- The greatest second byte. Surrogates are no characters, and there is a last one. -/
def highest (b : UInt8) : UInt8 :=
  if b = 0xed then 0x9f else if b = 0xf4 then 0x8f else 0xbf

theorem lead?_of_leads (h : Leads b n) : lead? b = some (n, lowest b, highest b) := by
  simp only [lead?, lowest, highest, UInt8.le_iff_toNat_le, ← UInt8.toNat_inj, beq_iff_eq]
  simp
  cases h <;> grind

theorem leads_of_lead? (h : lead? b = some (n, low, high)) :
    Leads b n ∧ low = lowest b ∧ high = highest b := by
  simp only [lead?, UInt8.le_iff_toNat_le, ← UInt8.toNat_inj, beq_iff_eq] at h
  simp only [lowest, highest, ← UInt8.toNat_inj (a := b)]
  simp at h
  split_ifs at h <;> simp at h <;> grind [Leads]

theorem lowest_le_iff : (lowest b).toNat ≤ n ↔
    0x80 ≤ n ∧ (b.toNat = 0xe0 → 0xa0 ≤ n) ∧ (b.toNat = 0xf0 → 0x90 ≤ n) := by
  simp only [lowest, ← UInt8.toNat_inj (a := b)]
  split_ifs with h1 h2 <;> simp at * <;> omega

theorem le_highest_iff : n ≤ (highest b).toNat ↔
    n ≤ 0xbf ∧ (b.toNat = 0xed → n ≤ 0x9f) ∧ (b.toNat = 0xf4 → n ≤ 0x8f) := by
  simp only [highest, ← UInt8.toNat_inj (a := b)]
  split_ifs with h1 h2 <;> simp at * <;> omega

theorem following_cons : following (n + 1) low high (b :: bs) =
    if low.toNat ≤ b.toNat ∧ b.toNat ≤ high.toNat then following n 0x80 0xbf bs + 1 else 0 := by
  simp [following, UInt8.le_iff_toNat_le]

theorem exists_of_following (h : following (n + 1) low high bs = n + 1) : ∃ b rest, bs = b :: rest ∧
    low.toNat ≤ b.toNat ∧ b.toNat ≤ high.toNat ∧ following n 0x80 0xbf rest = n := by
  cases bs with
  | nil => cases h
  | cons b rest =>
    rw [following_cons] at h
    split_ifs at h with hrange
    exact ⟨b, rest, rfl, hrange.1, hrange.2, Nat.succ.inj h⟩

/-- The bytes of a character are a first byte and those that can follow it. -/
theorem leads_encodeChar (c : Char) (more : List UInt8) : ∃ b rest,
    utf8EncodeChar c = b :: rest ∧ Leads b rest.length ∧
      following rest.length (lowest b) (highest b) (rest ++ more) = rest.length := by
  have hrange := scalar_range c
  simp only [utf8EncodeChar]
  generalize c.val.toNat = v at hrange
  have hbyte : ∀ n, n < 256 → (UInt8.ofNat n).toNat = n := fun n h => toNat_ofNat_byte h
  split_ifs with h1 h2 h3
  · refine ⟨_, _, rfl, .one ?_, rfl⟩
    rw [hbyte _ (by omega)]
    exact h1
  · refine ⟨_, _, rfl, .two ?_ ?_, ?_⟩
    · rw [hbyte _ (by omega)]
      omega
    · rw [hbyte _ (by omega)]
      omega
    · simp only [List.length_cons, List.length_nil, List.cons_append, following_cons, lowest_le_iff,
        le_highest_iff, hbyte (v / 64 % 32 + 192) (by omega), hbyte (v % 64 + 128) (by omega)]
      rw [if_pos (by omega)]
      rfl
  · refine ⟨_, _, rfl, .three ?_ ?_, ?_⟩
    · rw [hbyte _ (by omega)]
      omega
    · rw [hbyte _ (by omega)]
      omega
    · simp only [List.length_cons, List.length_nil, List.cons_append, following_cons, lowest_le_iff,
        le_highest_iff, hbyte (v / 4096 % 16 + 224) (by omega),
        hbyte (v / 64 % 64 + 128) (by omega), hbyte (v % 64 + 128) (by omega)]
      rw [if_pos (by omega), if_pos (by simp; omega)]
      rfl
  · refine ⟨_, _, rfl, .four ?_ ?_, ?_⟩
    · rw [hbyte _ (by omega)]
      omega
    · rw [hbyte _ (by omega)]
      omega
    · simp only [List.length_cons, List.length_nil, List.cons_append, following_cons, lowest_le_iff,
        le_highest_iff, hbyte (v / 262144 % 8 + 240) (by omega),
        hbyte (v / 4096 % 64 + 128) (by omega), hbyte (v / 64 % 64 + 128) (by omega),
        hbyte (v % 64 + 128) (by omega)]
      rw [if_pos (by omega), if_pos (by simp; omega), if_pos (by simp; omega)]
      rfl

/-- A first byte and as many bytes as can follow it are those of a character. -/
theorem exists_encodeChar (h : Leads b n) (hall : following n (lowest b) (highest b) bs = n) :
    ∃ c, utf8EncodeChar c = b :: bs.take n := by
  have hbyte : ∀ n (b : UInt8), n = b.toNat → UInt8.ofNat n = b := by
    intro n b h
    rw [h, UInt8.ofNat_toNat]
  cases h with
  | one h1 =>
    obtain ⟨c, hc⟩ := exists_scalar (n := b.toNat) (.inl (by omega))
    refine ⟨c, ?_⟩
    simp only [utf8EncodeChar, hc, if_pos h1, UInt8.ofNat_toNat]
    rfl
  | two h1 h2 =>
    obtain ⟨b1, rest, rfl, h3, h4, -⟩ := exists_of_following hall
    rw [lowest_le_iff] at h3
    rw [le_highest_iff] at h4
    obtain ⟨c, hc⟩ := exists_scalar (n := (b.toNat - 0xc0) * 64 + (b1.toNat - 0x80))
      (.inl (by omega))
    refine ⟨c, ?_⟩
    simp only [utf8EncodeChar, hc]
    rw [if_neg (by omega), if_pos (by omega), hbyte _ b (by omega), hbyte _ b1 (by omega)]
    rfl
  | three h1 h2 =>
    obtain ⟨b1, rest, rfl, h3, h4, hall⟩ := exists_of_following hall
    obtain ⟨b2, rest, rfl, h5, h6, -⟩ := exists_of_following hall
    rw [lowest_le_iff] at h3
    rw [le_highest_iff] at h4
    simp at h5 h6
    obtain ⟨c, hc⟩ := exists_scalar
      (n := (b.toNat - 0xe0) * 4096 + (b1.toNat - 0x80) * 64 + (b2.toNat - 0x80))
      (by simp only [Nat.isValidChar]; omega)
    refine ⟨c, ?_⟩
    simp only [utf8EncodeChar, hc]
    rw [if_neg (by omega), if_neg (by omega), if_pos (by omega), hbyte _ b (by omega),
      hbyte _ b1 (by omega), hbyte _ b2 (by omega)]
    rfl
  | four h1 h2 =>
    obtain ⟨b1, rest, rfl, h3, h4, hall⟩ := exists_of_following hall
    obtain ⟨b2, rest, rfl, h5, h6, hall⟩ := exists_of_following hall
    obtain ⟨b3, rest, rfl, h7, h8, -⟩ := exists_of_following hall
    rw [lowest_le_iff] at h3
    rw [le_highest_iff] at h4
    simp at h5 h6 h7 h8
    obtain ⟨c, hc⟩ := exists_scalar
      (n := (b.toNat - 0xf0) * 262144 + (b1.toNat - 0x80) * 4096 + (b2.toNat - 0x80) * 64 +
        (b3.toNat - 0x80))
      (by simp only [Nat.isValidChar]; omega)
    refine ⟨c, ?_⟩
    simp only [utf8EncodeChar, hc]
    rw [if_neg (by omega), if_neg (by omega), if_neg (by omega), hbyte _ b (by omega),
      hbyte _ b1 (by omega), hbyte _ b2 (by omega), hbyte _ b3 (by omega)]
    rfl

theorem high_of_lead?_eq_none (h : lead? b = none) : 0x80 ≤ b.toNat := by
  by_contra hb
  rw [lead?_of_leads (.one (by omega))] at h
  cases h

/-- The bytes that follow a first byte are not ASCII. -/
theorem high_of_mem_following (hlow : 0x80 ≤ low.toNat) :
    ∀ b ∈ bs.take (following n low high bs), 0x80 ≤ b.toNat := by
  induction n generalizing bs low high with
  | zero => simp [following]
  | succ n ih =>
    cases bs with
    | nil => simp
    | cons b bs =>
      rw [following_cons]
      split_ifs with hb
      · rw [List.take_succ_cons, List.forall_mem_cons]
        exact ⟨Nat.le_trans hlow hb.1, ih (by decide)⟩
      · simp

/-! ### Mending -/

/-- A whole character is copied. -/
theorem mendBytes_char {fuel : Nat} : mendBytes (fuel + 1) acc (utf8EncodeChar c ++ bs) =
    mendBytes fuel ((utf8EncodeChar c).reverse ++ acc) bs := by
  obtain ⟨b, rest, henc, hleads, hfollowing⟩ := leads_encodeChar c bs
  rw [henc, List.cons_append, mendBytes, lead?_of_leads hleads]
  simp only [hfollowing, if_true, List.take_left, List.drop_left]

theorem mendBytes_chars {fuel : Nat} {cs : List Char}
    (h : (cs.flatMap utf8EncodeChar).length ≤ fuel) :
    mendBytes fuel acc (cs.flatMap utf8EncodeChar) = acc.reverse ++ cs.flatMap utf8EncodeChar := by
  induction cs generalizing fuel acc with
  | nil => cases fuel <;> simp [mendBytes]
  | cons c cs ih =>
    have hpos : 0 < (utf8EncodeChar c).length := by
      obtain ⟨b, rest, henc, -⟩ := leads_encodeChar c []
      rw [henc]
      exact Nat.succ_pos _
    rw [List.flatMap_cons, List.length_append] at h
    obtain ⟨fuel, rfl⟩ := Nat.exists_eq_succ_of_ne_zero (show fuel ≠ 0 by omega)
    rw [List.flatMap_cons, mendBytes_char, ih (by omega), List.reverse_append, List.reverse_reverse,
      List.append_assoc]

/-- What is UTF-8 stays as it is. -/
theorem ofBytesMended_bytes (s : String) : ofBytesMended (bytes s) = s := by
  have hmend : mendBytes (bytes s).length [] (bytes s) = bytes s := by
    rw [bytes_eq, mendBytes_chars (Nat.le_refl _)]
    rfl
  rw [ofBytesMended, hmend, ofBytes?_bytes]
  rfl

/-- What is mended is UTF-8 at every stage. -/
theorem exists_mendBytes (fuel : Nat) (bs : List UInt8) (cs : List Char) : ∃ ds : List Char,
    mendBytes fuel (cs.flatMap utf8EncodeChar).reverse bs = ds.flatMap utf8EncodeChar := by
  induction fuel generalizing bs cs with
  | zero => exact ⟨cs, List.reverse_reverse _⟩
  | succ fuel ih =>
    have hsnoc : ∀ c, (utf8EncodeChar c).reverse ++ (cs.flatMap utf8EncodeChar).reverse =
        ((cs ++ [c]).flatMap utf8EncodeChar).reverse := by
      intro c
      rw [List.flatMap_append, List.reverse_append, List.flatMap_singleton]
    have hreplacement : replacement = utf8EncodeChar (Char.ofNat 0xfffd) := by decide
    cases bs with
    | nil => exact ⟨cs, List.reverse_reverse _⟩
    | cons b bs =>
      rw [mendBytes]
      split
      · rw [hreplacement, hsnoc]
        exact ih _ _
      · rename_i n low high hlead
        obtain ⟨hleads, rfl, rfl⟩ := leads_of_lead? hlead
        dsimp only
        split_ifs with hall
        · obtain ⟨c, hc⟩ := exists_encodeChar hleads hall
          rw [hall, ← hc, hsnoc]
          exact ih _ _
        · rw [hreplacement, hsnoc]
          exact ih _ _

theorem bytes_ofBytesMended : bytes (ofBytesMended bs) = mendBytes bs.length [] bs := by
  obtain ⟨ds, hds⟩ := exists_mendBytes bs.length bs []
  have hs : mendBytes bs.length [] bs = bytes (String.ofList ds) := by
    rw [bytes_eq, String.toList_ofList]
    exact hds
  rw [ofBytesMended, hs, ofBytes?_bytes]
  rfl

/-- Mending keeps the ASCII. -/
theorem countP_mendBytes {fuel : Nat} {p : UInt8 → Bool} (hp : ∀ b, p b = true → b.toNat < 0x80)
    (h : bs.length ≤ fuel) : (mendBytes fuel acc bs).countP p = acc.countP p + bs.countP p := by
  have hhigh : ∀ b : UInt8, 0x80 ≤ b.toNat → ¬ p b = true :=
    fun b hb h => absurd (hp b h) (by omega)
  have hreplacement : replacement.reverse.countP p = 0 := by
    rw [List.countP_eq_zero]
    intro b hb
    simp only [replacement, List.mem_reverse, List.mem_cons, List.not_mem_nil, or_false] at hb
    obtain rfl | rfl | rfl := hb <;> exact hhigh _ (by decide)
  have hsplit : ∀ k (l : List UInt8), l.countP p = (l.take k).countP p + (l.drop k).countP p := by
    intro k l
    rw [← List.countP_append, List.take_append_drop]
  induction fuel generalizing bs acc with
  | zero =>
    obtain rfl := List.length_eq_zero_iff.mp (Nat.le_zero.mp h)
    simp [mendBytes]
  | succ fuel ih =>
    cases bs with
    | nil => simp [mendBytes]
    | cons b bs =>
      rw [List.length_cons] at h
      rw [mendBytes]
      split
      · rename_i hlead
        rw [ih (by omega), List.countP_append, hreplacement,
          List.countP_cons_of_neg (hhigh b (high_of_lead?_eq_none hlead)), Nat.zero_add]
      · rename_i n low high hlead
        obtain ⟨hleads, rfl, rfl⟩ := leads_of_lead? hlead
        have hk := hsplit (following n (lowest b) (highest b) bs) bs
        have hlow : 0x80 ≤ (lowest b).toNat := (lowest_le_iff.mp (Nat.le_refl _)).1
        dsimp only
        split_ifs with hall
        · rw [ih (by rw [List.length_drop]; omega), List.countP_append, List.countP_reverse,
            List.countP_cons, List.countP_cons]
          omega
        · have hb : 0x80 ≤ b.toNat := by
            cases hleads with
            | one => exact absurd rfl hall
            | two h => omega
            | three h => omega
            | four h => omega
          have htail : (bs.take (following n (lowest b) (highest b) bs)).countP p = 0 := by
            rw [List.countP_eq_zero]
            exact fun b hb => hhigh b (high_of_mem_following hlow b hb)
          rw [ih (by rw [List.length_drop]; omega), List.countP_append, hreplacement,
            List.countP_cons_of_neg (hhigh b hb)]
          omega

end SensorBridge.Text
