import SensorBridge.Text.Alphanumeric
import SensorBridge.Text.Blank

/-!
Lines of an environment file. A line is blank, a comment, or assigns a value to a name. A value is
made of bare, singly quoted and doubly quoted stretches; outside single quotes it may refer to
other variables.
-/
namespace SensorBridge.EnvFile

inductive Line where
  | blank
  | assign (name value : String)
  deriving DecidableEq, Repr

/-- The values of variables; unknown ones are empty. -/
abbrev Lookup : Type := String → String

/-- Where the reading of a value stands. `quoted` tells whether a double quote is open. -/
inductive Mode where
  | plain (quoted : Bool)
  | escaped (quoted : Bool)
  | literal
  /-- Behind a dollar sign and the letters and digits of a name, in reverse. -/
  | name (quoted : Bool) (rev : List Char)
  /-- Inside braces behind a dollar sign. -/
  | braced (quoted : Bool) (rev : List Char)
  /-- Behind the value, where only blanks and a comment may follow. -/
  | done
  deriving DecidableEq, Repr

def nameOf (rev : List Char) : String :=
  String.ofList rev.reverse

/-- The characters that a backslash stands in front of, and what they mean there. -/
def unescape? : Char → Option Char
  | '\\' => some '\\'
  | '\'' => some '\''
  | '"' => some '"'
  | '$' => some '$'
  | ' ' => some ' '
  | 'n' => some '\n'
  | _ => none

/-- The value of a text; `out` holds in reverse what was read so far. None if it is malformed. The
character that ends the name of a variable is taken as it is, whatever it is. -/
def readValue (get : Lookup) : Mode → List Char → List Char → Option String
  | .plain false, out, [] => some (nameOf out)
  | .escaped false, out, [] => some (nameOf out)
  | .done, out, [] => some (nameOf out)
  | .name false rev, out, [] => some (nameOf out ++ get (nameOf rev))
  | _, _, [] => none
  | .done, out, c :: cs =>
    if c = ' ' || c = '\t' then readValue get .done out cs
    else if c = '#' then some (nameOf out)
    else none
  | .escaped q, out, c :: cs =>
    match unescape? c with
    | some d => readValue get (.plain q) (d :: out) cs
    | none => none
  | .literal, out, c :: cs =>
    if c = '\'' then readValue get (.plain false) out cs
    else readValue get .literal (c :: out) cs
  | .name q rev, out, c :: cs =>
    if Text.isAlphanumeric c then readValue get (.name q (c :: rev)) out cs
    else if c = '\x7b' && rev.isEmpty then readValue get (.braced q []) out cs
    else
      let out := (get (nameOf rev)).toList.reverse ++ out
      if c = '$' then readValue get (.name q []) out cs
      else readValue get (.plain q) (c :: out) cs
  | .braced q rev, out, c :: cs =>
    if c = '\x7d' then
      readValue get (.plain q) ((get (nameOf rev)).toList.reverse ++ out) cs
    else readValue get (.braced q (c :: rev)) out cs
  | .plain q, out, c :: cs =>
    if c = '$' then readValue get (.name q []) out cs
    else if c = '\\' then readValue get (.escaped q) out cs
    else if c = '"' then readValue get (.plain !q) out cs
    else if q then readValue get (.plain q) (c :: out) cs
    else if c = '\'' then readValue get .literal out cs
    else if c = ' ' || c = '\t' then readValue get .done out cs
    else readValue get (.plain q) (c :: out) cs

def isNameStart (c : Char) : Bool :=
  c.isAlpha || c = '_'

def isNamePart (c : Char) : Bool :=
  c.isAlphanum || c = '_' || c = '.'

def skipBlanks (cs : List Char) : List Char :=
  cs.dropWhile Text.isBlank

/-- The name at the front of a text, and what follows it and the blanks behind it. -/
def readName (cs : List Char) : Option (String × List Char) :=
  match cs with
  | c :: _ =>
    if isNameStart c then
      some (String.ofList (cs.takeWhile isNamePart), skipBlanks (cs.dropWhile isNamePart))
    else none
  | [] => none

/-- A name up to its equals sign, with the word `export` in front of it or not; `export` may also
be the name. -/
def readTarget (cs : List Char) : Option (String × List Char) := do
  let (name, rest) ← readName cs
  match rest with
  | '=' :: rest => return (name, rest)
  | _ =>
    if name = "export" then
      let (name, rest) ← readName rest
      match rest with
      | '=' :: rest => return (name, rest)
      | _ => none
    else none

/-- What a line says; none if it is malformed. -/
def readLine (get : Lookup) (line : String) : Option Line :=
  let cs := skipBlanks (Text.trim line).toList
  match cs with
  | [] => some .blank
  | '#' :: _ => some .blank
  | _ => do
    let (name, rest) ← readTarget cs
    match skipBlanks rest with
    | [] => return .assign name ""
    | '#' :: _ => return .assign name ""
    | value => return .assign name (← readValue get (.plain false) [] value)

/-- One byte more in front of the lines: a line feed opens an empty one. -/
def consByte (b : UInt8) (lines : List (List UInt8)) : List (List UInt8) :=
  if b == 0x0a then [] :: lines
  else match lines with
    | [] => [[b]]
    | l :: ls => (b :: l) :: ls

/-- The stretches between the line feeds of a file. Blanks at the end of a line do not count, so a
carriage return may stay. -/
def splitLines (bs : List UInt8) : List (List UInt8) :=
  bs.foldr consByte [[]]

end SensorBridge.EnvFile
