import SensorBridge.Text.Numeral
import SensorBridge.Text.Pieces

/-!
Internet addresses as they are written in a url: four numbers between dots, where the last one may
stand for several bytes, and eight groups between colons, where one run of zeros may be left out.
-/
namespace SensorBridge.Url

open Text (numeral?)

/-- A part of an address: hexadecimal after `0x`, octal after another zero, else decimal. -/
def part? : List Char → Option Nat
  | [] => none
  | '0' :: 'x' :: cs => numeral? 16 cs
  | '0' :: 'X' :: cs => numeral? 16 cs
  | '0' :: c :: cs => numeral? 8 (c :: cs)
  | cs => numeral? 10 cs

/-- The parts of a name between its dots, a dot at the end aside. -/
def parts (cs : List Char) : List (List Char) :=
  let ps := Text.pieces '.' cs
  if 1 < ps.length && ps.getLast? == some [] then ps.dropLast else ps

/-- Whether a name is to be read as an address: its last part is a number. -/
def endsInNumber (cs : List Char) : Bool :=
  match (parts cs).getLast? with
  | some part => (!part.isEmpty && part.all Char.isDigit) || (part? part).isSome
  | none => false

/-- The address of four bytes. All parts but the last are single bytes, and the last one fills
the bytes that are left. -/
def ipv4? (cs : List Char) : Option Nat := do
  let numbers ← (parts cs).mapM part?
  let last ← numbers.getLast?
  let front := numbers.dropLast
  let room := 4 - front.length
  if front.length ≤ 3 && front.all (· ≤ 255) && last < Nat.pow 256 room then
    return front.foldl (· * 256 + ·) 0 * Nat.pow 256 room + last
  else none

/-- A byte in plain decimal, without leading zeros. -/
def plainByte? (cs : List Char) : Option Nat :=
  match cs with
  | [] => none
  | '0' :: _ :: _ => none
  | _ => (numeral? 10 cs).filter (· ≤ 255)

def group? (cs : List Char) : Option Nat :=
  if cs.isEmpty || 4 < cs.length then none else numeral? 16 cs

/-- The groups between colons. The last one may be written as four bytes between dots, which make
two groups, if `tail` allows it. -/
def groups? (tail : Bool) : List (List Char) → Option (List Nat)
  | [] => some []
  | [last] =>
    if tail && last.contains '.' then do
      let [a, b, c, d] ← (Text.pieces '.' last).mapM plainByte? | none
      return [a * 256 + b, c * 256 + d]
    else (group? last).map ([·])
  | g :: gs => do
    let n ← group? g
    let ns ← groups? tail gs
    return n :: ns

/-- The groups of a stretch of an address; an empty stretch has none. -/
def stretch? (tail : Bool) (cs : List Char) : Option (List Nat) :=
  if cs.isEmpty then some [] else groups? tail (Text.pieces ':' cs)

/-- What stands before and after the first double colon. -/
def cutAtGap : List Char → Option (List Char × List Char)
  | [] => none
  | ':' :: ':' :: rest => some ([], rest)
  | c :: rest => (cutAtGap rest).map fun (before, after) => (c :: before, after)

/-- The eight groups of an address. A double colon stands for at least one group of zero. -/
def ipv6? (cs : List Char) : Option (List Nat) :=
  match cutAtGap cs with
  | none => (stretch? true cs).filter (·.length == 8)
  | some (before, after) => do
    let front ← stretch? false before
    let back ← stretch? true after
    if front.length + back.length ≤ 7 then
      return front ++ List.replicate (8 - front.length - back.length) 0 ++ back
    else none

end SensorBridge.Url
