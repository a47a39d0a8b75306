/-!
Bytes read as UTF-8: strictly, where every byte has to belong to a character, and with
replacement, where each stretch that cannot belong to one becomes U+FFFD.
-/
namespace SensorBridge.Text

def bytes (s : String) : List UInt8 :=
  s.toUTF8.toList

/-- The text whose bytes these are, if every one of them belongs to a character. -/
def ofBytes? (bs : List UInt8) : Option String :=
  String.fromUTF8? bs.toByteArray

/-- How many bytes follow the first byte of a character, and the range of the second one. -/
def lead? (b : UInt8) : Option (Nat × UInt8 × UInt8) :=
  if b ≤ 0x7f then some (0, 0x80, 0xbf)
  else if 0xc2 ≤ b && b ≤ 0xdf then some (1, 0x80, 0xbf)
  else if b == 0xe0 then some (2, 0xa0, 0xbf)
  else if b == 0xed then some (2, 0x80, 0x9f)
  else if 0xe1 ≤ b && b ≤ 0xef then some (2, 0x80, 0xbf)
  else if b == 0xf0 then some (3, 0x90, 0xbf)
  else if b == 0xf4 then some (3, 0x80, 0x8f)
  else if 0xf1 ≤ b && b ≤ 0xf3 then some (3, 0x80, 0xbf)
  else none

/-- How many of the bytes after a first byte can belong to its character: at most `n`, the first
of them between `low` and `high`. -/
def following : Nat → UInt8 → UInt8 → List UInt8 → Nat
  | 0, _, _, _ => 0
  | _, _, _, [] => 0
  | n + 1, low, high, b :: bs =>
    if low ≤ b && b ≤ high then following n 0x80 0xbf bs + 1 else 0

def replacement : List UInt8 :=
  [0xef, 0xbf, 0xbd]

/-- Copies whole characters and writes one replacement character for each longest stretch that
starts a character without completing it. -/
def mendBytes : Nat → List UInt8 → List UInt8 → List UInt8
  | 0, acc, _ => acc.reverse
  | _, acc, [] => acc.reverse
  | fuel + 1, acc, b :: bs =>
    match lead? b with
    | none => mendBytes fuel (replacement.reverse ++ acc) bs
    | some (n, low, high) =>
      let k := following n low high bs
      if k = n then mendBytes fuel ((b :: bs.take k).reverse ++ acc) (bs.drop k)
      else mendBytes fuel (replacement.reverse ++ acc) (bs.drop k)

/-- The text of the bytes, with U+FFFD for what is no UTF-8. -/
def ofBytesMended (bs : List UInt8) : String :=
  (ofBytes? (mendBytes bs.length [] bs)).getD ""

end SensorBridge.Text
