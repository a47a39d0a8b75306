import SensorBridge.Text.Direction
import SensorBridge.Text.Joining
import SensorBridge.Text.Normal
import SensorBridge.Url.Domain.Mapping
import SensorBridge.Url.Domain.Punycode

/-!
Domain names: labels between points, in any script. A name is brought into its one form before it
is looked at, and every label has to be written in one direction.
-/
namespace SensorBridge.Url.Domain

open Text (Direction direction)

/-- The characters of ASCII that no name holds. -/
def isForbidden (c : Char) : Bool :=
  c.toNat ≤ 0x20 || c.toNat == 0x7f || "%#/:<>?@[\\]^|".toList.contains c

def isAscii (cs : List Char) : Bool :=
  cs.all (·.toNat < 0x80)

/-- The one form of a text. -/
def normalized? (cs : List Char) : Option (List Char) :=
  (cs.mapM image).map fun images => Text.composed images.flatten

/-- How long a label in ASCII may be that stands for another one. -/
def maxCodeLength : Nat := 2000

/-- The label that is meant. One that starts with `xn--` stands for another, which has to be in its
one form. -/
def meant? : List Char → Option (List Char)
  | 'x' :: 'n' :: '-' :: '-' :: code =>
    if !isAscii code || maxCodeLength < code.length || [none, some '-'].contains code.getLast? then
      none
    else (Punycode.decode code).filter fun label =>
      label.all isPlain && Text.composed label == label
  | label => some label

/-- Whether the letters on both sides of a place are joined across it. -/
def isJoined (before after : List Char) : Bool :=
  let next (cs : List Char) : Option Char := (cs.dropWhile Text.isTransparent).head?
  (next before).any Text.isJoinedToNext && (next after).any Text.isJoinedToPrevious

/-- The class of signs that take the vowel off a letter. -/
def viramaClass : Nat := 9

/-- Whether joiners stand only where they make a difference: behind such a sign, and the one that
separates also between letters that are joined. `before` is what comes before, the last first. -/
def hasFittingJoiners (before : List Char) : List Char → Bool
  | [] => true
  | c :: cs =>
    let isFitting :=
      if c.toNat == 0x200c || c.toNat == 0x200d then
        before.head?.any (Text.combiningClass · == viramaClass) ||
          (c.toNat == 0x200c && isJoined before cs)
      else true
    isFitting && hasFittingJoiners (c :: before) cs

/-- How long a label with characters beyond ASCII may be. -/
def maxLength : Nat := 1000

def isLabel (cs : List Char) : Bool :=
  !cs.any isForbidden && !cs.head?.any Text.isMark && hasFittingJoiners [] cs &&
    (isAscii cs || cs.length ≤ maxLength)

def isRightToLeft (c : Char) : Bool :=
  direction c == .right || direction c == .arabicNumber

/-- Whether a label is written in the direction of its first letter. From right to left, it may
hold digits of one kind only. -/
def hasOneDirection (cs : List Char) : Bool :=
  let directions := cs.map direction
  let last := directions.reverse.find? (· != .mark)
  match directions with
  | [] => true
  | .left :: rest =>
    rest.all [Direction.left, .europeanNumber, .neutral, .mark].contains &&
      last.any [Direction.left, .europeanNumber].contains
  | .right :: rest =>
    rest.all (· != .left) &&
      last.any [Direction.right, .europeanNumber, .arabicNumber].contains &&
      !(rest.contains .europeanNumber && rest.contains .arabicNumber)
  | _ => false

/-- The labels of a name. Where one letter is written from right to left, all labels are checked
for their direction. -/
def labels? (cs : List Char) : Option (List (List Char)) := do
  let text ← normalized? cs
  let labels ← (Text.pieces '.' text).mapM meant?
  if labels.all isLabel && (labels.all hasOneDirection || !labels.any (·.any isRightToLeft)) then
    return labels
  else none

end SensorBridge.Url.Domain
