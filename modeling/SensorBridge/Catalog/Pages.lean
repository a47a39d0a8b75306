import SensorBridge.Catalog

/-!
All pages of a catalog, one after the other.
-/
namespace SensorBridge.Catalog

/-- The pages from `page` on up to and with the first empty one, at most `fuel` of them. -/
def pagesFrom (c : Catalog) (perPage : Nat) : Nat → Nat → List (List Source)
  | 0, _ => []
  | fuel + 1, page =>
    let (items, _) := c.enumerate page perPage
    if items.isEmpty then [items] else items :: pagesFrom c perPage fuel (page + 1)

/-- The pages from the first on up to and with the first empty one. A page before that holds an
entry at least, which bounds their number. -/
def pages (c : Catalog) (perPage : Nat) : List (List Source) :=
  c.pagesFrom perPage (c.entries.length + 1) 1

end SensorBridge.Catalog
