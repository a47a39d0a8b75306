import SensorBridge.Json.Record
import SensorBridge.Source

/-!
Data sources as JSON. `render` writes the fields in the order of their declaration and leaves out
what is absent; `read` takes an object or a list of the fields.
-/
namespace SensorBridge

open Json Json.Reader

def ValueKind.read : Reader ValueKind :=
  variant (ValueKind.all.map fun k => (k.name, k))

def Credentials.shape : Shape Credentials where
  description := "struct Credentials"
  blank := { username := "", password := "" }
  fields :=
    [⟨"username", .required, fun c => return { c with username := ← string }⟩,
     ⟨"password", .defaulted, fun c => return { c with password := ← string }⟩]

def Feed.shape : Shape Feed where
  description := "struct BrokerConfig"
  blank := { url := "", topic := "" }
  fields :=
    [⟨"url", .required, fun f => return { f with url := ← string }⟩,
     ⟨"topic", .required, fun f => return { f with topic := ← string }⟩,
     ⟨"qos", .defaulted, fun f => return { f with level := ← byte }⟩,
     ⟨"credentials", .defaulted,
       fun f => return { f with credentials := ← optional Credentials.shape.read }⟩]

def Source.shape : Shape Source where
  description := "struct DataSource"
  blank := { resource := "" }
  fields :=
    [⟨"id", .defaulted, fun s => return { s with id := ← string }⟩,
     ⟨"resource", .required, fun s => return { s with resource := ← string }⟩,
     ⟨"retention", .defaulted, fun s => return { s with retention := ← string }⟩,
     ⟨"type", .defaulted, fun s => return { s with kind := ← ValueKind.read }⟩,
     ⟨"broker", .defaulted, fun s => return { s with feed := ← optional Feed.shape.read }⟩]

def Source.ofJson (bs : List UInt8) : Except Json.Error Source :=
  Source.shape.read.run bs

def Source.listOfJson (bs : List UInt8) : Except Json.Error (List Source) :=
  (list Source.shape.read).run bs

/-- Members between the brackets of an object, from keys and written values. -/
def Json.object (members : List (String × String)) : String :=
  "\x7b" ++ ",".intercalate (members.map fun (k, v) => encodeText k ++ ":" ++ v) ++ "\x7d"

def Credentials.toJson (c : Credentials) : String :=
  Json.object [("username", encodeText c.username), ("password", encodeText c.password)]

def Feed.toJson (f : Feed) : String :=
  Json.object <|
    [("url", encodeText f.url), ("topic", encodeText f.topic), ("qos", toString f.level.toNat)] ++
      (f.credentials.map fun c => ("credentials", c.toJson)).toList

def Source.toJson (s : Source) : String :=
  Json.object <|
    [("id", encodeText s.id), ("resource", encodeText s.resource),
      ("retention", encodeText s.retention), ("type", encodeText s.kind.name)] ++
      (s.feed.map fun f => ("broker", f.toJson)).toList

end SensorBridge
