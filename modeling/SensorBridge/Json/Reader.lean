import SensorBridge.Json.Number
import SensorBridge.Json.Text

/-!
Readers take a value of a wanted type off the front of a text. Each one reports the first problem
it meets, and a value of another type by what was found and what was expected.
-/
namespace SensorBridge.Json

/-- Takes a value off the front of the text. -/
abbrev Reader (α : Type) : Type := StateT (List UInt8) (Except Error) α

def isSpace (b : UInt8) : Bool :=
  b == 0x20 || b == 0x0a || b == 0x09 || b == 0x0d

namespace Reader

variable {α : Type}

def fail (e : Error) : Reader α := fun _ => .error e

/-- The next byte after blanks, left in place. -/
def peek : Reader UInt8 := fun bs =>
  match bs.dropWhile isSpace with
  | [] => .error .truncated
  | b :: rest => .ok (b, b :: rest)

def advance : Reader Unit := fun bs => .ok ((), bs.tail)

/-- How often a loop may go round: once for every byte that is left, and once to see the end. The
bytes themselves do the counting. -/
abbrev Rounds : Type := List UInt8

def rounds : Reader Rounds := fun bs => .ok (0 :: bs, bs)

def word : List UInt8 → Reader Unit
  | [], bs => .ok ((), bs)
  | _ :: _, [] => .error .truncated
  | w :: ws, b :: bs => if b == w then word ws bs else .error .malformed

def nullWord : Reader Unit := word [0x6e, 0x75, 0x6c, 0x6c]
def trueWord : Reader Unit := word [0x74, 0x72, 0x75, 0x65]
def falseWord : Reader Unit := word [0x66, 0x61, 0x6c, 0x73, 0x65]

def number : Reader Number := readNumber

/-- A string from its opening quote on. -/
def text : Reader String := do
  advance
  readText

/-- Reports the value that starts with `b` as one of the wrong type. A list or an object is
reported as soon as it opens; any other value is read first. -/
def mismatch (b : UInt8) (expected : String) : Reader α := do
  let found : Found ←
    if b == 0x6e then do nullWord; pure Found.null
    else if b == 0x74 then do trueWord; pure (Found.boolean true)
    else if b == 0x66 then do falseWord; pure (Found.boolean false)
    else if b == 0x2d || isDigit b then do pure (← number).found
    else if b == quote then do pure (Found.string (← text))
    else if b == 0x5b then pure Found.sequence
    else if b == 0x7b then pure Found.map
    else fail .malformed
  fail (.data (.wrongType found expected))

def string : Reader String := do
  let b ← peek
  if b == quote then text else mismatch b "a string"

def boolean : Reader Bool := do
  let b ← peek
  if b == 0x74 then do trueWord; pure true
  else if b == 0x66 then do falseWord; pure false
  else mismatch b "a boolean"

def double : Reader Float := do
  let b ← peek
  if b == 0x2d || isDigit b then pure (← number).toDouble else mismatch b "f64"

def byte : Reader UInt8 := do
  let b ← peek
  if b == 0x2d || isDigit b then
    match ← number with
    | .integer n =>
      if 0 ≤ n && n < 256 then pure (UInt8.ofNat n.toNat)
      else fail (.data (.outOfRange n "u8"))
    | .float x => fail (.data (.wrongType (.float x) "u8"))
  else mismatch b "u8"

def null (expected : String) : Reader Unit := do
  let b ← peek
  if b == 0x6e then nullWord else mismatch b expected

def optional (item : Reader α) : Reader (Option α) := fun bs =>
  match bs.dropWhile isSpace with
  | b :: rest =>
    if b == 0x6e then (do nullWord; pure none : Reader (Option α)) (b :: rest)
    else (some <$> item) (b :: rest)
  | [] => (some <$> item) []

/-- Whether another element follows in a list; the closing bracket is left in place. -/
def moreElements (first : Bool) : Reader Bool := do
  let b ← peek
  if b == 0x5d then pure false
  else if first then pure true
  else if b == 0x2c then do
    advance
    if (← peek) == 0x5d then fail .malformed else pure true
  else fail .malformed

def closeList : Reader Unit := do
  if (← peek) == 0x5d then advance else fail .malformed

def elements (item : Reader α) : Rounds → Bool → List α → Reader (List α)
  | [], _, _ => fail .malformed
  | _ :: more, first, acc => do
    if ← moreElements first then
      let x ← item
      elements item more false (x :: acc)
    else pure acc.reverse

def list (item : Reader α) : Reader (List α) := do
  let b ← peek
  if b == 0x5b then
    advance
    let xs ← elements item (← rounds) true []
    closeList
    pure xs
  else mismatch b "a sequence"

/-- The next key of an object with its colon, none at the end of the object, which is taken. -/
def nextKey (first : Bool) : Reader (Option String) := do
  let b ← peek
  if b == 0x7d then do
    advance
    pure none
  else do
    let b ← if first then pure b else if b == 0x2c then do { advance; peek } else fail .malformed
    if b == quote then pure (some (← text)) else fail .malformed

def colon : Reader Unit := do
  if (← peek) == 0x3a then advance else fail .malformed

/-- Reads a whole text: one value with nothing but blanks around it. -/
def run (r : Reader α) (bs : List UInt8) : Except Error α :=
  match r bs with
  | .error e => .error e
  | .ok (x, rest) => if (rest.dropWhile isSpace).isEmpty then .ok x else .error .malformed

end Reader

end SensorBridge.Json
