import SensorBridge.Proofs.Scalars
import SensorBridge.Source.Json

/-!
A data source comes back from its text, whatever its fields hold.
-/
namespace SensorBridge

namespace Json

variable {α β : Type} {bs rest : List UInt8} {r : Reader α} {x : α}

namespace Reader

/-- The reader takes the value off the front of its text, before anything that may follow a
value. -/
def Takes (r : Reader α) (text : String) (x : α) : Prop :=
  ∀ rest, Ends rest → r (Text.bytes text ++ rest) = .ok (x, rest)

theorem bind_ok {f : α → Reader β} (h : r bs = .ok (x, rest)) : (r >>= f) bs = f x rest := by
  simp only [bind, StateT.bind, h, Except.bind]

theorem Takes.map {text : String} (h : r.Takes text x) (f : α → β) :
    Takes (do let x ← r; return f x) text (f x) := by
  intro rest hrest
  rw [bind_ok (h rest hrest)]
  rfl

theorem peek_cons {b : UInt8} (h : isSpace b = false) : peek (b :: bs) = .ok (b, b :: bs) := by
  simp [peek, h]

theorem advance_cons {b : UInt8} : advance (b :: bs) = .ok ((), bs) := rfl

theorem bytes_encodeText_append (s : String) (rest : List UInt8) :
    ∃ content, Text.bytes (encodeText s) ++ rest = quote :: content := by
  rw [bytes_encodeText]
  exact ⟨_, rfl⟩

theorem peek_encodeText (s : String) :
    peek (Text.bytes (encodeText s) ++ rest) = .ok (quote, Text.bytes (encodeText s) ++ rest) := by
  obtain ⟨content, h⟩ := bytes_encodeText_append s rest
  rw [h]
  exact peek_cons rfl

theorem takes_string (s : String) : string.Takes (encodeText s) s := by
  intro rest _
  rw [string, bind_ok (peek_encodeText s)]
  exact text_encodeText s

theorem takes_variant {names : List (String × α)} {name : String} (h : names.lookup name = some x) :
    (variant names).Takes (encodeText name) x := by
  intro rest _
  rw [variant, bind_ok (peek_encodeText name), beq_self_eq_true, if_pos rfl, known,
    bind_ok (peek_encodeText name), beq_self_eq_true, if_pos rfl, bind_ok (text_encodeText name), h]
  rfl

theorem isSpace_of_isDigit {b : UInt8} (h : isDigit b = true) : isSpace b = false := by
  rw [Bool.eq_false_iff]
  intro hspace
  simp only [isSpace, Bool.or_eq_true, beq_iff_eq] at hspace
  obtain ((rfl | rfl) | rfl) | rfl := hspace <;> cases h

theorem takes_byte (b : UInt8) : byte.Takes (toString b.toNat) b := by
  intro rest hrest
  obtain ⟨d, ds, hdigits, -⟩ := leading_digit b.toNat
  obtain ⟨c, cs, hbytes, -⟩ := List.map_eq_cons_iff.mp hdigits
  have hdigit : isDigit c = true := isDigit_of_mem_toString _ c (hbytes ▸ List.mem_cons_self)
  have hspace : isSpace c = false := isSpace_of_isDigit hdigit
  have hpeek : peek (Text.bytes (toString b.toNat) ++ rest) =
      .ok (c, Text.bytes (toString b.toNat) ++ rest) := by
    rw [hbytes]
    exact peek_cons hspace
  have hnumber : number (Text.bytes (toString b.toNat) ++ rest) = .ok (.integer b.toNat, rest) :=
    readNumber_toString (lt_of_lt_of_le b.toNat_lt (by decide)) hrest
  have hrange : (0 ≤ (b.toNat : Int) && (b.toNat : Int) < 256) = true := by
    have hlt := b.toNat_lt
    simp
    omega
  rw [byte, bind_ok hpeek, hdigit, Bool.or_true, if_pos rfl, bind_ok hnumber]
  simp only [hrange, if_true]
  simp
  rfl

theorem takes_optional {text : String} {b : UInt8} (h : r.Takes text x)
    (hb : Text.bytes text = b :: bs) (hspace : isSpace b = false) (hnull : b ≠ 0x6e) :
    (optional r).Takes text (some x) := by
  intro rest hrest
  have hread := h.map some rest hrest
  rw [hb, List.cons_append] at hread ⊢
  rw [optional, List.dropWhile_cons_of_neg (by simp [hspace])]
  simp only [beq_iff_eq, hnull, if_false]
  exact hread

end Reader

/-! ### Records -/

open Reader

/-- The bytes between the brackets of an object. Each member but the first has a comma before it. -/
def memberBytes : Bool → List (String × String) → List UInt8
  | _, [] => []
  | first, (name, value) :: members =>
    (if first then [] else [0x2c]) ++ (Text.bytes (encodeText name) ++ 0x3a ::
      (Text.bytes value ++ memberBytes false members))

theorem bytes_colon : Text.bytes ":" = [0x3a] := (Text.bytes_eq ":").trans rfl

theorem bytes_comma : Text.bytes "," = [0x2c] := (Text.bytes_eq ",").trans rfl

theorem bytes_opening : Text.bytes "\x7b" = [0x7b] := (Text.bytes_eq "\x7b").trans rfl

theorem bytes_closing : Text.bytes "\x7d" = [0x7d] := (Text.bytes_eq "\x7d").trans rfl

theorem bytes_members (member : String × String) (members : List (String × String)) :
    Text.bytes (",".intercalate ((member :: members).map fun (k, v) => encodeText k ++ ":" ++ v)) =
      memberBytes true (member :: members) := by
  induction members generalizing member with
  | nil =>
    simp only [List.map_cons, List.map_nil, String.intercalate_singleton, Text.bytes_append,
      bytes_colon, memberBytes, if_true, List.nil_append, List.append_nil, List.append_assoc,
      List.singleton_append]
  | cons next members ih =>
    have hnext := ih next
    rw [List.map_cons] at hnext
    rw [List.map_cons, List.map_cons, String.intercalate_cons_cons, Text.bytes_append, hnext]
    simp only [Text.bytes_append, bytes_colon, bytes_comma, memberBytes, if_true, if_false,
      Bool.false_eq_true, List.nil_append, List.append_assoc, List.cons_append]

theorem bytes_object (members : List (String × String)) :
    Text.bytes (object members) = 0x7b :: (memberBytes true members ++ [0x7d]) := by
  have hinside : Text.bytes (",".intercalate (members.map fun (k, v) => encodeText k ++ ":" ++ v)) =
      memberBytes true members := by
    cases members with
    | nil => exact Text.bytes_eq ""
    | cons member members => exact bytes_members member members
  rw [object, Text.bytes_append, Text.bytes_append, hinside, bytes_opening, bytes_closing,
    List.append_assoc, List.singleton_append]

namespace Shape

variable {shape : Shape α} {field : Field α} {name value : String} {seen seen' : List String}
  {members : List (String × String)} {z : α}

/-- Members of an object that are different fields of a record, each written as it is read. -/
inductive Fills (shape : Shape α) :
    List String → α → List (String × String) → List String → α → Prop where
  | done {seen : List String} {x : α} : Fills shape seen x [] seen x
  | member {field : Field α} {name value : String} {members : List (String × String)}
      {seen seen' : List String} {x y z : α} :
      shape.fields.find? (·.name == name) = some field → seen.contains name = false →
      (field.read x).Takes value y → Fills shape (name :: seen) y members seen' z →
      Fills shape seen x ((name, value) :: members) seen' z

theorem nextKey_member (first : Bool) :
    nextKey first (memberBytes first ((name, value) :: members) ++ rest) =
      .ok (some name, 0x3a :: (Text.bytes value ++ (memberBytes false members ++ rest))) := by
  have hname : ∀ bs, (do return some (← text) : Reader (Option String))
      (Text.bytes (encodeText name) ++ bs) = .ok (some name, bs) := by
    intro bs
    rw [bind_ok (text_encodeText name)]
    rfl
  simp only [memberBytes, List.append_assoc, List.cons_append]
  cases first with
  | true =>
    have hquote : (quote == 0x7d) = false := rfl
    rw [if_pos rfl, List.nil_append, nextKey, bind_ok (peek_encodeText name)]
    simp only [hquote, Bool.false_eq_true, if_false, if_true]
    rw [bind_ok (x := quote) rfl, beq_self_eq_true, if_pos rfl]
    exact hname _
  | false =>
    have hcomma : ((0x2c : UInt8) == 0x7d) = false := rfl
    rw [if_neg (by decide), List.singleton_append, nextKey, bind_ok (peek_cons rfl)]
    simp only [hcomma, Bool.false_eq_true, if_false, beq_self_eq_true, if_true]
    rw [bind_ok advance_cons, bind_ok (peek_encodeText name), beq_self_eq_true, if_pos rfl]
    exact hname _

theorem nextKey_end (first : Bool) : nextKey first (0x7d :: rest) = .ok (none, rest) := by
  cases first <;> rfl

theorem colon_cons : colon (0x3a :: rest) = .ok ((), rest) := rfl

theorem ends_member : Ends (memberBytes false members ++ 0x7d :: rest) := by
  cases members with
  | nil =>
    rintro _ ⟨⟩
    decide
  | cons member members =>
    rintro _ ⟨⟩
    decide

theorem members_of_fills (rounds : Rounds) (first : Bool) (rest : List UInt8)
    (h : Fills shape seen x members seen' z) (hrounds : members.length < rounds.length) :
    shape.members rounds first seen x (memberBytes first members ++ 0x7d :: rest) =
      .ok ((seen', z), rest) := by
  induction h generalizing rounds first with
  | done =>
    obtain ⟨_, more, rfl⟩ := List.exists_cons_of_length_pos (Nat.zero_lt_of_lt hrounds)
    rw [memberBytes, List.nil_append, Shape.members, bind_ok (nextKey_end first)]
    rfl
  | member hfind hseen htakes _ ih =>
    obtain ⟨_, more, rfl⟩ := List.exists_cons_of_length_pos (Nat.zero_lt_of_lt hrounds)
    rw [Shape.members, bind_ok (nextKey_member first)]
    simp only [hfind, hseen, Bool.false_eq_true, if_false]
    rw [bind_ok colon_cons, bind_ok (htakes _ ends_member)]
    exact ih more false (Nat.lt_of_succ_lt_succ hrounds)

theorem length_le_memberBytes (first : Bool) (members : List (String × String)) :
    members.length ≤ (memberBytes first members).length := by
  induction members generalizing first with
  | nil => exact Nat.zero_le _
  | cons member members ih =>
    have hrest := ih false
    simp only [memberBytes, List.length_append, List.length_cons]
    omega

/-- An object of different fields, all the required ones among them, is read as the record. -/
theorem takes_object (h : Fills shape [] shape.blank members seen z)
    (hmissing : shape.missing? seen = none) : shape.read.Takes (object members) z := by
  intro rest hrest
  have hopen : Text.bytes (object members) ++ rest =
      0x7b :: (memberBytes true members ++ 0x7d :: rest) := by
    rw [bytes_object, List.cons_append, List.append_assoc]
    rfl
  have hlength := length_le_memberBytes true members
  have hmembers := members_of_fills (0 :: (memberBytes true members ++ 0x7d :: rest)) true rest h
    (by simp; omega)
  rw [hopen, read, bind_ok (peek_cons rfl), beq_self_eq_true, if_pos rfl]
  change shape.readObject (memberBytes true members ++ 0x7d :: rest) = _
  rw [readObject, bind_ok (x := 0 :: (memberBytes true members ++ 0x7d :: rest)) rfl,
    bind_ok hmembers]
  simp only [hmissing]
  rfl

end Shape

/-- The text of a value ends with it. -/
theorem Reader.Takes.run {text : String} (h : r.Takes text x) : r.run (Text.bytes text) = .ok x := by
  have hread := h [] (by rintro _ ⟨⟩)
  rw [List.append_nil] at hread
  simp [Reader.run, hread]

end Json

open Json Json.Reader

theorem ValueKind.takes_read (k : ValueKind) : ValueKind.read.Takes (encodeText k.name) k :=
  takes_variant (by cases k <;> rfl)

theorem Credentials.takes_read (c : Credentials) : Credentials.shape.read.Takes c.toJson c :=
  Shape.takes_object
    (.member rfl rfl ((takes_string c.username).map _) <|
      .member rfl rfl ((takes_string c.password).map _) .done) rfl

theorem Feed.takes_read (f : Feed) : Feed.shape.read.Takes f.toJson f := by
  obtain ⟨url, topic, level, credentials⟩ := f
  cases credentials with
  | none =>
    exact Shape.takes_object
      (.member rfl rfl ((takes_string url).map _) <|
        .member rfl rfl ((takes_string topic).map _) <|
        .member rfl rfl ((takes_byte level).map _) .done) rfl
  | some c =>
    exact Shape.takes_object
      (.member rfl rfl ((takes_string url).map _) <|
        .member rfl rfl ((takes_string topic).map _) <|
        .member rfl rfl ((takes_byte level).map _) <|
        .member rfl rfl ((takes_optional c.takes_read (bytes_object _) rfl (by decide)).map _) .done)
      rfl

theorem Source.takes_read (s : Source) : Source.shape.read.Takes s.toJson s := by
  obtain ⟨id, resource, retention, kind, feed⟩ := s
  cases feed with
  | none =>
    exact Shape.takes_object
      (.member rfl rfl ((takes_string id).map _) <|
        .member rfl rfl ((takes_string resource).map _) <|
        .member rfl rfl ((takes_string retention).map _) <|
        .member rfl rfl (kind.takes_read.map _) .done) rfl
  | some f =>
    exact Shape.takes_object
      (.member rfl rfl ((takes_string id).map _) <|
        .member rfl rfl ((takes_string resource).map _) <|
        .member rfl rfl ((takes_string retention).map _) <|
        .member rfl rfl (kind.takes_read.map _) <|
        .member rfl rfl ((takes_optional f.takes_read (bytes_object _) rfl (by decide)).map _) .done)
      rfl

/-- Every data source comes back from its text. What was read from a text is read again from the
text written for it. -/
theorem Source.ofJson_toJson : (∀ s : Source, ofJson (Text.bytes s.toJson) = .ok s) ∧
    ∀ bs : List UInt8, ((ofJson bs).bind fun s => ofJson (Text.bytes s.toJson)) = ofJson bs := by
  have hback : ∀ s : Source, ofJson (Text.bytes s.toJson) = .ok s := fun s => s.takes_read.run
  refine ⟨hback, fun bs => ?_⟩
  cases ofJson bs with
  | error e => rfl
  | ok s => exact hback s

end SensorBridge
