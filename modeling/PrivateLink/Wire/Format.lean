import PrivateLink.Dictionary
import PrivateLink.Json.Printer
import PrivateLink.Json.Reader

/-!
# Wire formats

A wire format writes a value as a JSON document and reads it back. Texts, truth values, lists and
dictionaries of texts have one; records get theirs from their fields. The body of a message is the
text of such a document.
-/

namespace PrivateLink.Wire

/-- How the values of a type are written as JSON documents and read back. -/
class Format (α : Type) where
  encode : α → Json
  decode? : Json → Option α

export Format (encode decode?)

/-- A field that is absent, null or written in the format of its type. -/
def field? {α : Type} [Format α] (json : Option Json) : Option (Option α) :=
  Json.optional? decode? json

/-- A member that is left out when its value is absent. -/
def present {α : Type} [Format α] (name : String) (value : Option α) : String × Option Json :=
  (name, value.map encode)

instance : Format String where
  encode := .text
  decode? := Json.text?

instance : Format Bool where
  encode := .bool
  decode?
    | .bool value => some value
    | _ => none

/-- The values of a list of documents. -/
def decodeItems? {α : Type} [Format α] (items : List Json) : Option (List α) :=
  items.mapM decode?

instance {α : Type} [Format α] : Format (List α) where
  encode items := .array (items.map encode)
  decode?
    | .array items => decodeItems? items
    | _ => none

/-- The text entries of an object. -/
def decodeTexts? (members : List (Json.Literal × Json)) : Option (List (String × String)) :=
  members.mapM fun member => do
    let name ← member.1
    let text ← member.2.text?
    return (name, text)

instance : Format (Dictionary String) where
  encode dictionary := .ofMembers (dictionary.entries.map fun entry => (entry.1, .text entry.2))
  decode?
    | .object members => (decodeTexts? members).map .ofList
    | _ => none

/-! ### Bodies of messages -/

/-- The body that carries a value. -/
def body {α : Type} [Format α] (value : α) : String :=
  (encode value).compact

/-- The value that a body carries. -/
def ofBody? {α : Type} [Format α] (body : String) : Option α :=
  (Json.read? body).bind decode?

end PrivateLink.Wire
