import SensorBridge.Catalog

/-!
A catalog together with its observers. A mutation delivers its change to every observer before it
ends, whatever they answer; one that fails delivers nothing.
-/
namespace SensorBridge

structure ObservedCatalog where
  catalog : Catalog := {}
  observers : List Observer := []
  created : Nat := 0
  deriving Inhabited

namespace ObservedCatalog

/-- The id of the `n`-th data source stored: a number of four digits or more. -/
def nthId (n : Nat) : String :=
  let digits := toString n
  "id-" ++ String.ofList (List.replicate (4 - digits.length) '0') ++ digits

def observe (c : ObservedCatalog) (o : Observer) : ObservedCatalog :=
  { c with observers := c.observers ++ [o] }

/-- How a mutation went: its result, and the change with what became of it at each observer. -/
structure Outcome (α : Type) where
  result : Except CatalogError α
  change : Option Change := none
  deliveries : List (Ack × Bool) := []

/-- Stores what a mutation made and delivers its change. -/
def commit {α : Type} (c : ObservedCatalog) (x : α) (catalog : Catalog) (change : Change) :
    Outcome α × ObservedCatalog :=
  let (deliveries, observers) := broadcast c.observers
  ({ result := (Catalog.afterDelivery (deliveries.map (·.1))).map fun _ => x
     change := some change
     deliveries },
   { c with catalog, observers })

def add (c : ObservedCatalog) (s : Source) : Outcome String × ObservedCatalog :=
  let id := nthId (c.created + 1)
  match c.catalog.add id s with
  | .error e => ({ result := .error e }, c)
  | .ok (catalog, change) => { c with created := c.created + 1 }.commit id catalog change

def update (c : ObservedCatalog) (id : String) (s : Source) : Outcome Unit × ObservedCatalog :=
  match c.catalog.update id s with
  | .error e => ({ result := .error e }, c)
  | .ok (catalog, change) => c.commit () catalog change

def delete (c : ObservedCatalog) (id : String) : Outcome Unit × ObservedCatalog :=
  match c.catalog.delete id with
  | .error e => ({ result := .error e }, c)
  | .ok (catalog, change) => c.commit () catalog change

end ObservedCatalog

end SensorBridge
