import SensorBridge.Text.Pieces

/-!
Topic filters. `validate` decides which texts are filters a broker takes, and `accepts` which
topics a filter covers. Both work on the levels of a text, the stretches between its slashes.
-/
namespace SensorBridge.Topic

def maxLength : Nat := 65535

inductive FilterError where
  | length
  | nullCharacter
  | misplaced (filter : String) (wildcard : Char)
  | hashNotLast (filter : String)
  deriving DecidableEq, Repr

def FilterError.message : FilterError → String
  | .length => "Topic filter is empty or too long"
  | .nullCharacter => "Topic filter contains a null character"
  | .misplaced filter wildcard =>
    "Wildcard '" ++ wildcard.toString ++ "' must occupy a whole level in '" ++ filter ++ "'"
  | .hashNotLast filter =>
    "Multi-level wildcard must be the last level in '" ++ filter ++ "'"

/-- The stretches between the slashes of a text; the empty text has one empty level. -/
def levels (text : String) : List (List Char) :=
  Text.pieces '/' text.toList

/-- A level in which the wildcard stands beside other characters. -/
def mixes (level : List Char) (wildcard : Char) : Bool :=
  level.contains wildcard && level != [wildcard]

/-- The first fault among the levels, from the left; in one level `+` is looked for before `#`. -/
def levelFault? (filter : String) : List (List Char) → Option FilterError
  | [] => none
  | level :: rest =>
    if mixes level '+' then some (.misplaced filter '+')
    else if mixes level '#' then some (.misplaced filter '#')
    else if level == ['#'] && !rest.isEmpty then some (.hashNotLast filter)
    else levelFault? filter rest

/-- Accepts the filters of MQTT: 1 to 65535 bytes, no null character, each wildcard a level of its
own, and `#` only as the last one. -/
def validate (filter : String) : Except FilterError Unit :=
  if filter.isEmpty || filter.utf8ByteSize > maxLength then .error .length
  else if filter.toList.contains '\x00' then .error .nullCharacter
  else match levelFault? filter (levels filter) with
    | some fault => .error fault
    | none => .ok ()

/-- Compares level by level: `#` covers all that is left, also nothing, and `+` any one level. -/
def levelsAccept : List (List Char) → List (List Char) → Bool
  | ['#'] :: _, _ => true
  | [], [] => true
  | f :: fs, t :: ts => (f == ['+'] || f == t) && levelsAccept fs ts
  | _, _ => false

/-- Whether a message published to `topic` belongs to a subscription of `filter`. A topic that
starts with `$` is not covered by a filter that starts with a wildcard. -/
def accepts (filter topic : String) : Bool :=
  if topic.toList.head? == some '$' &&
      (filter.toList.head? == some '+' || filter.toList.head? == some '#') then false
  else levelsAccept (levels filter) (levels topic)

end SensorBridge.Topic
