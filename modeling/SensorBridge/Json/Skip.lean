import SensorBridge.Json.Reader

/-!
Passing over a value of any shape and depth. The open brackets are kept in a list, so that depth
is limited by the text alone.
-/
namespace SensorBridge.Json

inductive Bracket where
  | square
  | curly
  deriving DecidableEq, Repr

def Bracket.close : Bracket → UInt8
  | .square => 0x5d
  | .curly => 0x7d

/-- Where the reading stands: behind an opening bracket, or behind a value. -/
inductive Place where
  | opened
  | closed
  deriving DecidableEq, Repr

namespace Reader

/-- A key with its colon, of which only the grammar counts. -/
def skipKey : Reader Unit := do
  if (← peek) == quote then
    advance
    (fun bs => (skipText bs).map fun rest => ((), rest) : Reader Unit)
    colon
  else fail .malformed

/-- A value that is no list and no object. -/
def skipScalar (b : UInt8) : Reader Unit :=
  if b == 0x6e then nullWord
  else if b == 0x74 then trueWord
  else if b == 0x66 then falseWord
  else if b == 0x2d || isDigit b then fun bs => (skipNumeral bs).map fun rest => ((), rest)
  else if b == quote then fun bs => (skipText bs.tail).map fun rest => ((), rest)
  else fail .malformed

/-- Goes on with a key where an object is open. -/
def skipKeyIn : Bracket → Reader Unit
  | .square => pure ()
  | .curly => skipKey

/-- The start of a value: an opening bracket, or all of a value without brackets. -/
def skipStart (stack : List Bracket) : Reader (Place × List Bracket) := do
  let b ← peek
  if b == 0x5b then do
    advance
    pure (.opened, .square :: stack)
  else if b == 0x7b then do
    advance
    pure (.opened, .curly :: stack)
  else do
    skipScalar b
    pure (.closed, stack)

/-- One step inside a bracket: its end, or the start of the next value in it. -/
def skipStep (place : Place) (bracket : Bracket) (stack : List Bracket) :
    Reader (Place × List Bracket) := do
  let b ← peek
  if b == bracket.close then do
    advance
    pure (.closed, stack)
  else if place == .opened then do
    skipKeyIn bracket
    skipStart (bracket :: stack)
  else if b == 0x2c then do
    advance
    skipKeyIn bracket
    skipStart (bracket :: stack)
  else fail .malformed

/-- Reads on until all brackets are closed; the innermost one is the first. -/
def skipFrom : Rounds → Place × List Bracket → Reader Unit
  | _, (_, []) => pure ()
  | [], _ => fail .malformed
  | _ :: more, (place, bracket :: stack) => do
    skipFrom more (← skipStep place bracket stack)

def skip : Reader Unit := do
  let rounds ← rounds
  skipFrom rounds (← skipStart [])

end Reader

end SensorBridge.Json
