/-!
Sets of characters given as tables of inclusive ranges of code points in ascending order.
-/
namespace SensorBridge.Text

/-- The row of a table whose range holds a code point, looked for from position `low` to below
`high`. The fuel bounds the halvings. -/
def findIn {α : Type} (range : α → Nat × Nat) (rows : Array α) (n : Nat) :
    Nat → Nat → Nat → Option α
  | 0, _, _ => none
  | fuel + 1, low, high =>
    if high ≤ low then none
    else
      let mid := (low + high) / 2
      match rows[mid]? with
      | none => none
      | some row =>
        if n < (range row).1 then findIn range rows n fuel low mid
        else if (range row).2 < n then findIn range rows n fuel (mid + 1) high
        else some row

def mem (ranges : Array (Nat × Nat)) (n : Nat) : Bool :=
  (findIn id ranges n (ranges.size + 1) 0 ranges.size).isSome

end SensorBridge.Text
