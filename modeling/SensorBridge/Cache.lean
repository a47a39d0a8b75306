import SensorBridge.Source

/-!
The resolutions of resource names that are kept between lookups. Names are kept in the order of
their last use, and the least recently used one makes room for a new one. Every invalidation
starts a new generation; a resolution fetched in an earlier one is not taken.
-/
namespace SensorBridge

/-- Resolutions by name, the most recently used one first. -/
structure Cache where
  capacity : Nat
  entries : List (String × Source) := []
  generation : UInt64 := 0
  deriving Repr, Inhabited

namespace Cache

def size (c : Cache) : Nat :=
  c.entries.length

def without (name : String) (entries : List (String × Source)) : List (String × Source) :=
  entries.filter (·.1 != name)

/-- The resolution of a name, which thereby becomes the most recently used one. -/
def get (c : Cache) (name : String) : Option Source × Cache :=
  match c.entries.lookup name with
  | some s => (some s, { c with entries := (name, s) :: without name c.entries })
  | none => (none, c)

/-- Puts a resolution in front. A name that is not there yet may push out the last one. -/
def put (c : Cache) (name : String) (s : Source) : Cache :=
  { c with entries := ((name, s) :: without name c.entries).take c.capacity }

/-- Takes a resolution fetched in `generation` unless that one is over; says whether it did. -/
def insert (c : Cache) (name : String) (s : Source) (generation : UInt64) : Bool × Cache :=
  if c.generation == generation then (true, c.put name s) else (false, c)

/-- Forgets a name, known or not, and ends the generation. -/
def remove (c : Cache) (name : String) : Cache :=
  { c with entries := without name c.entries, generation := c.generation + 1 }

def clear (c : Cache) : Cache :=
  { c with entries := [], generation := c.generation + 1 }

end Cache

end SensorBridge
