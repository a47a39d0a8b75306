import SensorBridge.Observer
import SensorBridge.Text.Blank

/-!
The catalog of data sources. Resources are unique, and what is stored has passed `validate`. A
mutation yields the change it made, which goes to the observers; when one of them fails to apply
it, the mutation stands and the failure is reported.
-/
namespace SensorBridge

inductive CatalogError where
  | notFound (id : String)
  | conflict (reason : String)
  | invalid (reason : String)
  | backend (reason : String)
  | observer (reasons : String)
  deriving DecidableEq, Repr

namespace CatalogError

def message : CatalogError → String
  | notFound id => "Data source '" ++ id ++ "' not found"
  | conflict reason => "Conflict: " ++ reason
  | invalid reason => "Invalid data source: " ++ reason
  | backend reason => "Catalog backend error: " ++ reason
  | observer reasons => "Observer failed to apply change: " ++ reasons

def isNotFound : CatalogError → Bool
  | notFound _ => true
  | _ => false

end CatalogError

def Source.fault? (s : Source) : Option String :=
  if Text.allBlank s.resource then some "resource name is empty"
  else if !Source.isPeriod s.retention then
    some ("unsupported retention period '" ++ s.retention ++ "'")
  else match s.feed with
    | none => none
    | some feed =>
      if feed.url.isEmpty || feed.topic.isEmpty then some "broker url and topic are required"
      else if feed.qos?.isNone then some ("unsupported QoS " ++ toString feed.level.toNat)
      else none

/-- Data sources in ascending order of their ids. -/
structure Catalog where
  entries : List Source := []
  deriving Repr, Inhabited

namespace Catalog

def maxPerPage : Nat := 1000

def get? (c : Catalog) (id : String) : Option Source :=
  c.entries.find? (·.id == id)

def get (c : Catalog) (id : String) : Except CatalogError Source :=
  match c.get? id with
  | some s => .ok s
  | none => .error (.notFound id)

def lookup (c : Catalog) (resource : String) : Option Source :=
  c.entries.find? (·.resource == resource)

/-- Stores a data source at its place, instead of one with the same id. -/
def put (s : Source) : List Source → List Source
  | [] => [s]
  | e :: rest =>
    if e.id == s.id then s :: rest
    else if s.id < e.id then s :: e :: rest
    else e :: put s rest

def validate (s : Source) : Except CatalogError Unit :=
  match s.fault? with
  | some reason => .error (.invalid reason)
  | none => .ok ()

/-- No other data source may have the resource. -/
def checkUnique (c : Catalog) (s : Source) : Except CatalogError Unit :=
  if c.entries.any fun e => e.resource == s.resource && e.id != s.id then
    .error (.conflict ("resource '" ++ s.resource ++ "' is already registered"))
  else .ok ()

/-- Stores a new data source under an id that is not in use. -/
def add (c : Catalog) (id : String) (s : Source) : Except CatalogError (Catalog × Change) := do
  validate s
  let s := s.withId id
  c.checkUnique s
  return (⟨put s c.entries⟩, .created s)

/-- Replaces all of a data source but its id. -/
def update (c : Catalog) (id : String) (s : Source) : Except CatalogError (Catalog × Change) := do
  validate s
  let s := s.withId id
  let old ← c.get id
  c.checkUnique s
  return (⟨put s c.entries⟩, .updated old s)

def delete (c : Catalog) (id : String) : Except CatalogError (Catalog × Change) := do
  let old ← c.get id
  return (⟨c.entries.filter (·.id != id)⟩, .deleted old)

/-- One page of the data sources, counted from 1, and the number of all of them. A page holds at
least one and at most `maxPerPage`. -/
def enumerate (c : Catalog) (page perPage : Nat) : List Source × Nat :=
  let size := max 1 (min perPage maxPerPage)
  ((c.entries.drop ((max page 1 - 1) * size)).take size, c.entries.length)

/-- How a mutation ends, given what the observers answered to its change. -/
def afterDelivery (results : List Ack) : Except CatalogError Unit :=
  match failures results with
  | [] => .ok ()
  | fs => .error (.observer ("; ".intercalate (fs.map AckError.message)))

end Catalog

end SensorBridge
