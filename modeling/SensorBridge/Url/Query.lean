import SensorBridge.Url.Percent

/-!
The query of a url as a list of settings: `name=value` between ampersands, with a plus sign for a
space and percent escapes.
-/
namespace SensorBridge.Url

/-- The settings of a url, in the order in which they are written. -/
abbrev Query : Type := List (String × String)

namespace Query

def decode (cs : List Char) : String :=
  unescape (String.ofList (cs.map fun c => if c = '+' then ' ' else c))

/-- A setting ends its name at the first equals sign; without one its value is empty. -/
def setting (cs : List Char) : String × String :=
  let (name, value) := Text.cutAt (· == '=') cs
  (decode name, decode (value.getD []))

def parse (cs : List Char) : Query :=
  ((Text.pieces '&' cs).filter (!·.isEmpty)).map setting

/-- The value of a setting; of several the last one counts. -/
def get? (q : Query) (name : String) : Option String :=
  (q.reverse.find? (·.1 == name)).map (·.2)

/-- A name that is none of the known ones. -/
def unknown? (q : Query) (known : List String) : Option String :=
  (q.find? fun s => !known.contains s.1).map (·.1)

end Query

end SensorBridge.Url
