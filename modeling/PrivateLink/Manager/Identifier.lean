import PrivateLink.Text.Quoted

/-!
# Identifiers of resources

The resource manager names a resource by keys and values that alternate between slashes:
`/subscriptions/{subscription}/resourceGroups/{group}/providers/{namespace}/{type}/{name}`.
`Identifier.parse` reads such a name; what it does not keep as subscription, group or namespace
stays in the path, in its order.
-/

namespace PrivateLink.Manager

/-- The components of an identifier. -/
structure Identifier where
  subscription : String
  resourceGroup : String
  /-- The namespace of the resource type. -/
  provider : Option String
  /-- The remaining keys and values in their order. -/
  path : List (String × String)
deriving DecidableEq, Repr

namespace Identifier

/-- Why a text is no identifier. -/
inductive Fault where
  | empty
  | notAbsolute
  | oddSegments
  | emptyKey
  | emptyValue (key : String)
  | missingSubscription
  | missingResourceGroup
deriving DecidableEq, Repr

/-- The fault of the text `id` in words. -/
def Fault.message (id : String) : Fault → String
  | .empty => "Resource ID must not be empty"
  | .notAbsolute => "Resource ID " ++ Text.quoted id ++ " must start with '/'"
  | .oddSegments => "Resource ID " ++ Text.quoted id ++ " must contain an even number of segments"
  | .emptyKey => "Resource ID " ++ Text.quoted id ++ " contains an empty key"
  | .emptyValue key =>
    "Resource ID " ++ Text.quoted id ++ " has an empty value for " ++ Text.quoted key
  | .missingSubscription => "No subscription ID found in " ++ Text.quoted id
  | .missingResourceGroup => "No resource group name found in " ++ Text.quoted id

/-! ### Segments -/

/-- The parts of the text between slashes, always at least one. -/
def segments : List Char → List (List Char)
  | [] => [[]]
  | c :: rest =>
    match segments rest with
    | [] => [[]]
    | head :: tail => if c = '/' then [] :: head :: tail else (c :: head) :: tail

/-- The characters without the slashes at the end. -/
def dropFinalSlashes (chars : List Char) : List Char :=
  (chars.reverse.dropWhile (· == '/')).reverse

/-- Neighbouring segments paired up, if their number is even. -/
def pairs? : List (List Char) → Option (List (List Char × List Char))
  | [] => some []
  | [_] => none
  | key :: value :: rest => (pairs? rest).map ((key, value) :: ·)

/-- The keys and values, if none of them is empty. -/
def named : List (List Char × List Char) → Except Fault (List (String × String))
  | [] => .ok []
  | (key, value) :: rest =>
    if key.isEmpty then .error .emptyKey
    else if value.isEmpty then .error (.emptyValue (String.ofList key))
    else (named rest).map ((String.ofList key, String.ofList value) :: ·)

/-! ### Components -/

/-- What has been found of an identifier so far; the path is kept in its order. -/
structure Parts where
  subscription : Option String := none
  resourceGroup : Option String := none
  provider : Option String := none
  path : List (String × String) := []

/-- The parts with one more key and value. Only the first subscription, the first resource group and
the first namespace are taken out of the path. -/
def Parts.add (parts : Parts) (pair : String × String) : Parts :=
  if pair.1 = "subscriptions" ∧ parts.subscription = none then
    { parts with subscription := some pair.2 }
  else if Text.equalIgnoringCase pair.1 "resourceGroups" ∧ parts.resourceGroup = none then
    { parts with resourceGroup := some pair.2 }
  else if pair.1 = "providers" ∧ parts.provider = none then
    { parts with provider := some pair.2 }
  else { parts with path := parts.path ++ [pair] }

/-- The identifier, if subscription and resource group were found. -/
def Parts.identifier (parts : Parts) : Except Fault Identifier :=
  match parts.subscription, parts.resourceGroup with
  | none, _ => .error .missingSubscription
  | some _, none => .error .missingResourceGroup
  | some subscription, some resourceGroup =>
    .ok { subscription, resourceGroup, provider := parts.provider, path := parts.path }

/-- The components of the identifier that the text writes. -/
def parse (id : String) : Except Fault Identifier :=
  match id.toList with
  | [] => .error .empty
  | '/' :: rest =>
    match pairs? (segments (dropFinalSlashes rest)) with
    | none => .error .oddSegments
    | some pairs => do
      let named ← named pairs
      (named.foldl Parts.add {}).identifier
  | _ => .error .notAbsolute

/-- The first value in the path under `key`. -/
def get? (identifier : Identifier) (key : String) : Option String :=
  identifier.path.lookup key

/-- The text of an identifier, namespace before path. -/
def render (identifier : Identifier) : String :=
  "/subscriptions/" ++ identifier.subscription ++ "/resourceGroups/" ++ identifier.resourceGroup ++
    (match identifier.provider with
      | some provider => "/providers/" ++ provider
      | none => "") ++
    String.join (identifier.path.map fun pair => "/" ++ pair.1 ++ "/" ++ pair.2)

end Identifier

end PrivateLink.Manager
