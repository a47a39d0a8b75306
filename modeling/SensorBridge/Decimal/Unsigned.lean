/-!
Unsigned decimal numbers of a bounded width, read from the whole of a text.
-/
namespace SensorBridge.Decimal

inductive UnsignedFault where
  | empty
  | digit
  | tooLarge
  deriving DecidableEq, Repr

def UnsignedFault.message : UnsignedFault → String
  | .empty => "cannot parse integer from empty string"
  | .digit => "invalid digit found in string"
  | .tooLarge => "number too large to fit in target type"

/-- Reads digits from left to right on top of `n` and stops at the first problem. -/
def readDigits (bits : Nat) (n : Nat) : List Char → Except UnsignedFault Nat
  | [] => .ok n
  | c :: cs =>
    if !c.isDigit then .error .digit
    else
      let m := n * 10 + (c.toNat - 48)
      if Nat.pow 2 bits ≤ m then .error .tooLarge else readDigits bits m cs

/-- A number below `2 ^ bits`, which may have a plus sign. -/
def readUnsigned (bits : Nat) (text : String) : Except UnsignedFault Nat :=
  match text.toList with
  | [] => .error .empty
  | ['+'] => .error .digit
  | '+' :: cs => readDigits bits 0 cs
  | cs => readDigits bits 0 cs

end SensorBridge.Decimal
