import SensorBridge.Json.Skip

/-!
Records: values with named fields, written as an object or, by position, as a list. An object may
hold members that are no fields; they are passed over. A field may not occur twice.
-/
namespace SensorBridge.Json

/-- Where a field may be left out. -/
inductive Presence where
  | required
  /-- May be missing from an object, not from a list. -/
  | nullable
  | defaulted
  deriving DecidableEq, Repr

/-- A field: its name and how its value is read into a record. -/
structure Field (α : Type) where
  name : String
  presence : Presence
  read : α → Reader α

/-- How a record is read: its description in messages, the record without any field read, and the
fields in the order of the list form. -/
structure Shape (α : Type) where
  description : String
  blank : α
  fields : List (Field α)

namespace Shape

open Reader

variable {α : Type}

def expected (shape : Shape α) : String :=
  shape.description ++ " with " ++ toString shape.fields.length ++ " elements"

/-- The members of an object up to its end; `seen` holds the names of the fields met so far. -/
def members (shape : Shape α) : Rounds → Bool → List String → α → Reader (List String × α)
  | [], _, _, _ => fail .malformed
  | _ :: more, first, seen, x => do
    match ← nextKey first with
    | none => pure (seen, x)
    | some key =>
      match shape.fields.find? (·.name == key) with
      | some field =>
        if seen.contains key then fail (.data (.duplicateField key))
        else
          colon
          let x ← field.read x
          members shape more false (key :: seen) x
      | none =>
        colon
        skip
        members shape more false seen x

/-- The first required field that is not among those met. -/
def missing? (shape : Shape α) (seen : List String) : Option String :=
  (shape.fields.find? fun f => f.presence == .required && !seen.contains f.name).map (·.name)

def readObject (shape : Shape α) : Reader α := do
  let (seen, x) ← members shape (← rounds) true [] shape.blank
  match shape.missing? seen with
  | some name => fail (.data (.missingField name))
  | none => pure x

/-- The fields by position, from the `index`-th on. Where the list ends early, only fields with a
default may be left. -/
def positions (shape : Shape α) : List (Field α) → Nat → α → Reader α
  | [], _, x => pure x
  | field :: rest, index, x => do
    if ← moreElements (index == 0) then
      let x ← field.read x
      positions shape rest (index + 1) x
    else if field.presence == .defaulted then positions shape rest (index + 1) x
    else fail (.data (.wrongLength index shape.expected))

def readList (shape : Shape α) : Reader α := do
  let x ← positions shape shape.fields 0 shape.blank
  closeList
  pure x

def read (shape : Shape α) : Reader α := do
  let b ← peek
  if b == 0x7b then do
    advance
    shape.readObject
  else if b == 0x5b then do
    advance
    shape.readList
  else mismatch b shape.description

end Shape

namespace Reader

variable {α : Type}

/-- A name out of a list of known ones. -/
def known (names : List (String × α)) (expected : String) : Reader α := do
  let b ← peek
  if b == quote then
    let name ← text
    match names.lookup name with
    | some x => pure x
    | none => fail (.data (.unknownVariant name (names.map (·.1))))
  else mismatch b expected

/-- A name out of a list of known ones, alone or as the only key of an object with the value
`null`. -/
def variant (names : List (String × α)) : Reader α := do
  let b ← peek
  if b == quote then known names "variant identifier"
  else if b == 0x7b then do
    advance
    let x ← known names "variant identifier"
    colon
    null "unit"
    if (← peek) == 0x7d then advance else fail .malformed
    pure x
  else fail .malformed

end Reader

end SensorBridge.Json
