/-!
The stretches of a text between the occurrences of one character.
-/
namespace SensorBridge.Text

/-- One character more in front of the pieces: a separator opens an empty piece. -/
def consPiece (separator c : Char) (pieces : List (List Char)) : List (List Char) :=
  if c = separator then [] :: pieces
  else match pieces with
    | [] => [[c]]
    | p :: ps => (c :: p) :: ps

/-- The stretches between the separators; the empty text has one empty piece. -/
def pieces (separator : Char) (cs : List Char) : List (List Char) :=
  cs.foldr (consPiece separator) [[]]

/-- What stands before the first character that meets `p`, and what follows it, if there is one. -/
def cutAt (p : Char → Bool) (cs : List Char) : List Char × Option (List Char) :=
  match cs.dropWhile (!p ·) with
  | [] => (cs, none)
  | _ :: rest => (cs.takeWhile (!p ·), some rest)

end SensorBridge.Text
