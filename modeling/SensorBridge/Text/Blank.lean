/-!
White space at the ends of a text, in the sense of Unicode's property `White_Space`.
-/
namespace SensorBridge.Text

/-- The characters with the property `White_Space`. -/
def isBlank (c : Char) : Bool :=
  let n := c.toNat
  (9 ≤ n && n ≤ 13) || n == 0x20 || n == 0x85 || n == 0xa0 || n == 0x1680 ||
    (0x2000 ≤ n && n ≤ 0x200a) || n == 0x2028 || n == 0x2029 || n == 0x202f ||
    n == 0x205f || n == 0x3000

def trim (s : String) : String :=
  String.ofList (((s.toList.dropWhile isBlank).reverse.dropWhile isBlank).reverse)

/-- A text of blanks only, the empty text among them. -/
def allBlank (s : String) : Bool :=
  s.toList.all isBlank

end SensorBridge.Text
