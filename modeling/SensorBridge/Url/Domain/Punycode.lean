import SensorBridge.Text.Pieces

/-!
Names in ASCII letters, digits and hyphens that stand for names with other characters: the plain
characters come first, then, behind the last hyphen, where which other characters are put in.
-/
namespace SensorBridge.Url.Domain.Punycode

/-- Letters are the digits below 26, decimal digits those after them. -/
def digit? (c : Char) : Option Nat :=
  if 'a' ≤ c && c ≤ 'z' then some (c.toNat - 97)
  else if '0' ≤ c && c ≤ '9' then some (c.toNat - 48 + 26)
  else none

/-- The digits below this one end a number. Places are counted in steps of 36. -/
def threshold (place bias : Nat) : Nat :=
  max 1 (min 26 (place - bias))

/-- Adds a number, least digit first, to `sum`; also returns what follows. All has to fit into 32
bits. -/
def addNumber? (bias : Nat) : Nat → Nat → Nat → List Char → Option (Nat × List Char)
  | _, _, _, [] => none
  | place, weight, sum, c :: cs => do
    let digit ← digit? c
    let sum := sum + digit * weight
    if UInt32.size ≤ sum || UInt32.size ≤ weight then none
    else if digit < threshold place bias then some (sum, cs)
    else addNumber? bias (place + 36) (weight * (36 - threshold place bias)) sum cs

/-- Divides a distance down to what two digits hold, and counts the places. -/
def shrink : Nat → Nat → Nat × Nat
  | 0, delta => (delta, 0)
  | fuel + 1, delta =>
    if 455 < delta then
      let (rest, places) := shrink fuel (delta / 35)
      (rest, places + 36)
    else (delta, 0)

/-- The bias for the next number, which is expected to be about as large as the last one. -/
def adapt (delta length : Nat) (isFirst : Bool) : Nat :=
  let delta := if isFirst then delta / 700 else delta / 2
  let (rest, places) := shrink 7 (delta + delta / length)
  places + 36 * rest / (rest + 38)

/-- Puts in one character after the other. A number says how many places further the next one
goes; counting goes through all places for one code point, then for the next. -/
def insertAll : Nat → Nat → Nat → Nat → List Char → List Char → Option (List Char)
  | _, _, _, _, text, [] => some text
  | 0, _, _, _, _, _ => none
  | fuel + 1, bias, code, place, text, cs => do
    let (sum, rest) ← addNumber? bias 36 1 place cs
    let length := text.length + 1
    let code := code + sum / length
    if code.isValidChar then
      insertAll fuel (adapt (sum - place) length (place == 0)) code (sum % length + 1)
        (text.insertIdx (sum % length) (Char.ofNat code)) rest
    else none

def decode (cs : List Char) : Option (List Char) :=
  match Text.cutAt (· == '-') cs.reverse with
  | (code, some (c :: plain)) => insertAll cs.length 72 128 0 (c :: plain).reverse code.reverse
  | _ => insertAll cs.length 72 128 0 [] cs

end SensorBridge.Url.Domain.Punycode
