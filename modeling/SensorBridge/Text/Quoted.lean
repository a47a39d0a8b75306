import SensorBridge.Text.Printable

/-!
A text between double quotes, with escapes for what cannot be shown as it is.
-/
namespace SensorBridge.Text

def hexDigits (n : Nat) : String :=
  String.ofList (Nat.toDigits 16 n)

/-- A character as it stands between double quotes. A mark that would join the character before it
is escaped like one that cannot be shown. -/
def quotedChar (c : Char) : String :=
  if c == '\x00' then "\\0"
  else if c == '\t' then "\\t"
  else if c == '\n' then "\\n"
  else if c == '\r' then "\\r"
  else if c == '"' then "\\\""
  else if c == '\\' then "\\\\"
  else if joinsPrevious c || !isPrintable c then
    "\\u\x7b" ++ hexDigits c.toNat ++ "\x7d"
  else c.toString

def quoted (s : String) : String :=
  "\"" ++ String.join (s.toList.map quotedChar) ++ "\""

end SensorBridge.Text
