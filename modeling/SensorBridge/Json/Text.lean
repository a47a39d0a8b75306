import SensorBridge.Json.Error
import SensorBridge.Text.Utf8

/-!
Strings of JSON: written between quotes with the short escapes where there is one, and read back
strictly. `skipText` passes over a string whose content is of no interest, where a surrogate
without its partner and bytes that are no UTF-8 are let through.
-/
namespace SensorBridge.Json

def quote : UInt8 := 0x22
def backslash : UInt8 := 0x5c
def letterU : UInt8 := 0x75

/-- The second byte of the two-byte escape of a byte, if it has one. -/
def shortEscape? (c : Char) : Option Char :=
  if c == '"' then some '"'
  else if c == '\\' then some '\\'
  else if c == '\x08' then some 'b'
  else if c == '\x0c' then some 'f'
  else if c == '\n' then some 'n'
  else if c == '\r' then some 'r'
  else if c == '\t' then some 't'
  else none

def hexDigit (n : Nat) : Char :=
  if n < 10 then Char.ofNat (48 + n) else Char.ofNat (87 + n)

/-- A character inside a string: controls are escaped, all else stands as it is. -/
def escapeChar (c : Char) : List Char :=
  match shortEscape? c with
  | some e => ['\\', e]
  | none =>
    if c.toNat < 0x20 then ['\\', 'u', '0', '0', hexDigit (c.toNat / 16), hexDigit (c.toNat % 16)]
    else [c]

/-- The text of a string value, quotes included. -/
def encodeText (s : String) : String :=
  String.ofList ('"' :: s.toList.flatMap escapeChar ++ ['"'])

/-- The byte a two-byte escape stands for. -/
def unescape? (b : UInt8) : Option UInt8 :=
  if b == quote || b == backslash || b == 0x2f then some b
  else if b == 0x62 then some 0x08
  else if b == 0x66 then some 0x0c
  else if b == 0x6e then some 0x0a
  else if b == 0x72 then some 0x0d
  else if b == 0x74 then some 0x09
  else none

def hexValue? (b : UInt8) : Option Nat :=
  if 0x30 ≤ b && b ≤ 0x39 then some (b.toNat - 0x30)
  else if 0x41 ≤ b && b ≤ 0x46 then some (b.toNat - 55)
  else if 0x61 ≤ b && b ≤ 0x66 then some (b.toNat - 87)
  else none

/-- The number that four hexadecimal digits write. -/
def hexUnit? (a b c d : UInt8) : Option Nat := do
  let a ← hexValue? a
  let b ← hexValue? b
  let c ← hexValue? c
  let d ← hexValue? d
  return ((a * 16 + b) * 16 + c) * 16 + d

def isLeadUnit (n : Nat) : Bool := 0xd800 ≤ n && n ≤ 0xdbff
def isTrailUnit (n : Nat) : Bool := 0xdc00 ≤ n && n ≤ 0xdfff

/-- The character that two surrogates stand for. -/
def joinUnits (lead trail : Nat) : Char :=
  Char.ofNat ((lead - 0xd800) * 0x400 + (trail - 0xdc00) + 0x10000)

/-- The bytes of a character, last one first. -/
def revBytes (c : Char) : List UInt8 :=
  (String.utf8EncodeChar c).reverse

/-- The bytes of a string up to its closing quote, after `acc` in reverse, and what follows it. -/
def scanText (acc : List UInt8) : List UInt8 → Except Error (List UInt8 × List UInt8)
  | [] => .error .truncated
  | b :: rest =>
    if b == quote then .ok (acc.reverse, rest)
    else if b == backslash then
      match rest with
      | [] => .error .truncated
      | e :: rest =>
        match unescape? e with
        | some c => scanText (c :: acc) rest
        | none =>
          if e != letterU then .error .malformed
          else match rest with
            | h₁ :: h₂ :: h₃ :: h₄ :: rest =>
              match hexUnit? h₁ h₂ h₃ h₄ with
              | none => .error .malformed
              | some n =>
                if isTrailUnit n then .error .malformed
                else if isLeadUnit n then
                  match rest with
                  | [] => .error .truncated
                  | [b] => .error (if b == backslash then .truncated else .malformed)
                  | b :: u :: rest =>
                    if b != backslash || u != letterU then .error .malformed
                    else match rest with
                      | k₁ :: k₂ :: k₃ :: k₄ :: rest =>
                        match hexUnit? k₁ k₂ k₃ k₄ with
                        | none => .error .malformed
                        | some m =>
                          if isTrailUnit m then scanText (revBytes (joinUnits n m) ++ acc) rest
                          else .error .malformed
                      | _ => .error .truncated
                else scanText (revBytes (Char.ofNat n) ++ acc) rest
            | _ => .error .truncated
    else if b < 0x20 then .error .malformed
    else scanText (b :: acc) rest

/-- Reads what follows an opening quote; the content has to be UTF-8. -/
def readText (bs : List UInt8) : Except Error (String × List UInt8) :=
  match scanText [] bs with
  | .error e => .error e
  | .ok (content, rest) =>
    match SensorBridge.Text.ofBytes? content with
    | some s => .ok (s, rest)
    | none => .error .malformed

/-- Passes over what follows an opening quote, whatever characters it stands for. -/
def skipText : List UInt8 → Except Error (List UInt8)
  | [] => .error .truncated
  | b :: rest =>
    if b == quote then .ok rest
    else if b == backslash then
      match rest with
      | [] => .error .truncated
      | e :: rest =>
        if (unescape? e).isSome then skipText rest
        else if e != letterU then .error .malformed
        else match rest with
          | h₁ :: h₂ :: h₃ :: h₄ :: rest =>
            if (hexUnit? h₁ h₂ h₃ h₄).isSome then skipText rest else .error .malformed
          | _ => .error .truncated
    else if b < 0x20 then .error .malformed
    else skipText rest

end SensorBridge.Json
