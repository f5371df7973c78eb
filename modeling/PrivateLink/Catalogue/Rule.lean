import PrivateLink.Attribute.Value
import PrivateLink.Text.Quoted
import PrivateLink.Text.WordCharacter

/-!
# Rules for attribute texts

What the service demands of names, messages and tags. Each rule gives the first fault it finds;
`Fault.message` puts it into words. Lengths are counted in characters, except that of the name of a
resource group, which is counted in the bytes of its UTF-8 form.
-/

namespace PrivateLink.Catalogue

/-- How a text or a map of tags breaks a rule. -/
inductive Fault where
  /-- The text holds nothing but white space. -/
  | blank
  /-- The request message is empty or too long. -/
  | messageLength (length : Nat)
  /-- The request message holds nothing but white space. -/
  | messageBlank
  | groupTooLong (name : String)
  | groupEndsWithPeriod (name : String)
  | groupCharacters (name : String)
  | tooManyTags (count : Nat)
  | tagKeyTooLong (key : String)
  | tagValueTooLong (key : String)
  /-- A rule for texts is applied to another kind of value. -/
  | notText
  /-- A rule for maps is applied to another kind of value. -/
  | notMap
deriving DecidableEq, Repr

/-- The most characters of a request message. -/
def messageLimit : Nat := 140

/-- The most bytes of the name of a resource group. -/
def groupLimit : Nat := 90

/-- The most tags of a resource. -/
def tagLimit : Nat := 50

/-- The most characters of the key of a tag. -/
def tagKeyLimit : Nat := 512

/-- The most characters of the value of a tag. -/
def tagValueLimit : Nat := 256

/-- The fault in words. -/
def Fault.message : Fault → String
  | .blank => "value must not be empty or consist only of whitespace"
  | .messageLength length =>
    "request_message must be between 1 and " ++ toString messageLimit ++
      " characters in length, got " ++ toString length
  | .messageBlank => "request_message must not consist only of whitespace"
  | .groupTooLong name =>
    "resource group name " ++ Text.quoted name ++ " may not exceed " ++ toString groupLimit ++
      " characters in length"
  | .groupEndsWithPeriod name =>
    "resource group name " ++ Text.quoted name ++ " may not end with a period"
  | .groupCharacters name =>
    "resource group name " ++ Text.quoted name ++
      " may only contain alphanumeric characters, dash, underscores, parentheses and periods"
  | .tooManyTags count =>
    "a maximum of " ++ toString tagLimit ++ " tags can be applied to each ARM resource, got " ++
      toString count
  | .tagKeyTooLong key =>
    "the maximum length for a tag key is " ++ toString tagKeyLimit ++ " characters: " ++
      Text.quoted key
  | .tagValueTooLong key =>
    "the maximum length for a tag value is " ++ toString tagValueLimit ++
      " characters: value for " ++ Text.quoted key
  | .notText => "Expected string"
  | .notMap => "Expected map"

/-- The text holds more than white space. -/
def checkNonBlank (text : String) : Except Fault Unit :=
  if Text.isBlankText text then .error .blank else .ok ()

/-- The message has one to `messageLimit` characters, not all of them white space. -/
def checkRequestMessage (text : String) : Except Fault Unit :=
  if text.length = 0 ∨ messageLimit < text.length then .error (.messageLength text.length)
  else if Text.isBlankText text then .error .messageBlank
  else .ok ()

/-- A character that the name of a resource group may hold. -/
def isGroupCharacter (c : Char) : Bool :=
  c == '-' || c == '.' || c == '_' || c == '(' || c == ')' || Text.isWordCharacter c

/-- The name is at most `groupLimit` bytes long, does not end with a period and holds at least one
character and no other than those allowed. -/
def checkGroupName (name : String) : Except Fault Unit :=
  if groupLimit < name.utf8ByteSize then .error (.groupTooLong name)
  else if name.toList.getLast? = some '.' then .error (.groupEndsWithPeriod name)
  else if name.toList.isEmpty || !name.toList.all isGroupCharacter then
    .error (.groupCharacters name)
  else .ok ()

/-- The key of the tag is not too long, and neither is its value if that is a text. -/
def checkTag (tag : String × Value) : Except Fault Unit :=
  if tagKeyLimit < tag.1.length then .error (.tagKeyTooLong tag.1)
  else
    match tag.2 with
    | .string value =>
      if tagValueLimit < value.length then .error (.tagValueTooLong tag.1) else .ok ()
    | _ => .ok ()

/-- There are not too many tags, and each of them is fine. Tags are checked in ascending order. -/
def checkTags (tags : Attributes) : Except Fault Unit :=
  if tagLimit < tags.length then .error (.tooManyTags tags.length)
  else tags.forM checkTag

/-- The rule for texts, applied to any value. -/
def onText (rule : String → Except Fault Unit) : Value → Except Fault Unit
  | .string text => rule text
  | _ => .error .notText

/-- The rule for maps, applied to any value. -/
def onMap (rule : Attributes → Except Fault Unit) : Value → Except Fault Unit
  | .map entries => rule entries
  | _ => .error .notMap

end PrivateLink.Catalogue
