import SensorBridge.Measurement
import SensorBridge.Source

/-!
Where accepted measurements go: batches grouped by data source, and a sink that keeps them all.
-/
namespace SensorBridge

/-- Lists under keys, in the order in which the keys first came. -/
abbrev Groups (α : Type) : Type := List (String × List α)

namespace Groups

variable {α : Type}

def get (g : Groups α) (key : String) : List α :=
  (g.lookup key).getD []

def append (g : Groups α) (key : String) (xs : List α) : Groups α :=
  match g with
  | [] => [(key, xs)]
  | (k, ys) :: rest => if k == key then (k, ys ++ xs) :: rest else (k, ys) :: append rest key xs

def count (g : Groups α) : Nat :=
  g.foldl (fun n kv => n + kv.2.length) 0

end Groups

/-- What is stored in one call: measurements by the id of their data source, and these sources. -/
structure Batch where
  points : Groups Measurement := []
  sources : List (String × Source) := []
  deriving Inhabited

/-- One more measurement for a data source; the source is noted at its first one. -/
def Batch.push (b : Batch) (s : Source) (m : Measurement) : Batch where
  points := b.points.append s.id [m]
  sources := if (b.sources.lookup s.id).isSome then b.sources else b.sources ++ [(s.id, s)]

structure StorageError where
  reason : String
  deriving DecidableEq, Repr

def StorageError.message (e : StorageError) : String :=
  "Storage backend error: " ++ e.reason

structure Sink where
  points : Groups Measurement := []
  submissions : Nat := 0
  deriving Inhabited

namespace Sink

def submit (sink : Sink) (points : Groups Measurement) : Sink where
  points := points.foldl (fun g (id, ms) => g.append id ms) sink.points
  submissions := sink.submissions + 1

end Sink

end SensorBridge
