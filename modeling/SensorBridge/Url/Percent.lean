import SensorBridge.Text.Utf8
import SensorBridge.Url.Address

/-!
Percent escapes: a byte may be written as a percent sign and two hexadecimal digits.
-/
namespace SensorBridge.Url

def escapeByte (b : UInt8) : List Char :=
  let digit (n : Nat) : Char := Char.ofNat (if n < 10 then 48 + n else 55 + n)
  ['%', digit (b.toNat / 16), digit (b.toNat % 16)]

/-- Control characters and all beyond ASCII. -/
def isControl (c : Char) : Bool :=
  c.toNat < 0x20 || 0x7f ≤ c.toNat

/-- Writes the characters of a class, byte by byte, as escapes. -/
def escape (inClass : Char → Bool) (cs : List Char) : String :=
  String.ofList (cs.flatMap fun c =>
    if inClass c then (String.utf8EncodeChar c).flatMap escapeByte else [c])

def hexByte? (b : UInt8) : Option Nat :=
  Text.hexDigit? (Char.ofNat b.toNat)

/-- Reads escapes; a percent sign without two digits behind it stands for itself. -/
def unescapeBytes : List UInt8 → List UInt8
  | [] => []
  | 0x25 :: a :: b :: rest =>
    match hexByte? a, hexByte? b with
    | some x, some y => UInt8.ofNat (x * 16 + y) :: unescapeBytes rest
    | _, _ => 0x25 :: unescapeBytes (a :: b :: rest)
  | b :: rest => b :: unescapeBytes rest

def unescape (text : String) : String :=
  Text.ofBytesMended (unescapeBytes (Text.bytes text))

end SensorBridge.Url
