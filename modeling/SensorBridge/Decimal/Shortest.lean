/-!
The shortest decimal text that reads back as a given double.

A finite double is `m * 2 ^ q`. The reals that round to it form an interval around it, whose ends
belong to it when `m` is even. `digits` takes the coarsest decimal grid that has a point in that
interval, and of two points the nearer one.
-/
namespace SensorBridge.Decimal

/-- A finite positive double, taken apart: the value is `mantissa * 2 ^ exponent`. `narrowBelow`
says that the gap to the next smaller double is half the gap to the next larger one. -/
structure Binary where
  mantissa : Nat
  exponent : Int
  narrowBelow : Bool
  deriving DecidableEq, Repr

/-- The bit of a mantissa that is not written, above 52 others. -/
def hidden : Nat := 4503599627370496

def Binary.ofBits (bits : UInt64) : Binary :=
  let e := (bits >>> 52).toNat % 2048
  let f := bits.toNat % hidden
  if e = 0 then ⟨f, -1074, false⟩
  else ⟨hidden + f, (e : Int) - 1075, f = 0 && 1 < e⟩

/-- The value, the lower end and the upper end of the interval as fractions with one positive
denominator: four times the value's own unit leaves room for the narrow gap. -/
structure Interval where
  low : Nat
  value : Nat
  high : Nat
  den : Nat
  closed : Bool
  deriving DecidableEq, Repr

def Binary.interval (b : Binary) : Interval :=
  let up := if 0 ≤ b.exponent then Nat.pow 2 b.exponent.natAbs else 1
  let down := if 0 ≤ b.exponent then 1 else Nat.pow 2 b.exponent.natAbs
  { low := (4 * b.mantissa - if b.narrowBelow then 1 else 2) * up
    value := 4 * b.mantissa * up
    high := (4 * b.mantissa + 2) * up
    den := 4 * down
    closed := b.mantissa % 2 == 0 }

/-- Whether `n * 10 ^ k` rounds to the double. -/
def Interval.holds (i : Interval) (n : Nat) (k : Int) : Bool :=
  let num := if 0 ≤ k then n * Nat.pow 10 k.natAbs * i.den else n * i.den
  let unit := if 0 ≤ k then 1 else Nat.pow 10 k.natAbs
  if i.closed then i.low * unit ≤ num && num ≤ i.high * unit
  else i.low * unit < num && num < i.high * unit

/-- The points of the grid `10 ^ k` just below and just above the value, the nearer one first; a
tie puts the even one first. -/
def Interval.neighbours (i : Interval) (k : Int) : List Nat :=
  let num := if 0 ≤ k then i.value else i.value * Nat.pow 10 k.natAbs
  let den := if 0 ≤ k then i.den * Nat.pow 10 k.natAbs else i.den
  let n := num / den
  let r := num % den
  if 2 * r < den || (2 * r == den && n % 2 == 0) then [n, n + 1] else [n + 1, n]

/-- The first grid, from coarse to fine, with a point in the interval. -/
def Interval.search (i : Interval) : Nat → Int → Nat × Int
  | 0, k => ((i.neighbours k).headD 0, k)
  | fuel + 1, k =>
    match (i.neighbours k).find? (fun n => 0 < n && i.holds n k) with
    | some n => (n, k)
    | none => i.search fuel (k - 1)

/-- Drops the zeros at the end of `n * 10 ^ k`. -/
def stripZeros : Nat → Nat → Int → Nat × Int
  | 0, n, k => (n, k)
  | fuel + 1, n, k => if n % 10 == 0 && 0 < n then stripZeros fuel (n / 10) (k + 1) else (n, k)

/-- `n` and `k` with `n * 10 ^ k` the shortest decimal that rounds to the positive double; `n` has
at most 17 digits. -/
def shortest (bits : UInt64) : Nat × Int :=
  let i := (Binary.ofBits bits).interval
  let (n, k) := i.search 640 309
  stripZeros 20 n k

/-- A double in positional notation from `10 ^ -5` up to below `10 ^ 16`, always with a point, and
otherwise with a signed exponent. -/
def display (x : Float) : String :=
  let bits := x.toBits
  let sign := if bits >>> 63 == 1 then "-" else ""
  let size := bits &&& 0x7fffffffffffffff
  if size == 0 then sign ++ "0.0"
  else
    let (n, k) := shortest size
    let digits := toString n
    let top := (digits.length : Int) - 1 + k
    let zeros (count : Nat) := String.ofList (List.replicate count '0')
    let body :=
      if 0 ≤ k && top < 16 then digits ++ zeros k.natAbs ++ ".0"
      else if 0 ≤ top && top < 16 then
        String.ofList (digits.toList.take (top.natAbs + 1)) ++ "." ++
          String.ofList (digits.toList.drop (top.natAbs + 1))
      else if -5 ≤ top && top < 0 then "0." ++ zeros (top.natAbs - 1) ++ digits
      else
        let first := String.ofList (digits.toList.take 1)
        let rest := String.ofList (digits.toList.drop 1)
        let mark := if top < 0 then "e-" else "e+"
        first ++ (if rest.isEmpty then "" else "." ++ rest) ++ mark ++ toString top.natAbs
    sign ++ body

end SensorBridge.Decimal
