/-!
# Commands

`Command.parse` reads the arguments of the program: the name of a command, and then plain arguments,
options with a value, and flags in any order. Behind `--` everything is plain. Plain arguments
before it, and the values of options that stand apart, do not begin with a hyphen unless they are
nothing else.
-/

namespace PrivateLink.CommandLine

/-- What the program is asked to do. -/
inductive Command where
  | validate (file : String)
  | apply (file : String) (identifier : Option String)
  | read (identifier type : String)
  | importExisting (identifier type name : String)
  | destroy (identifier type : String) (approved : Bool)
deriving DecidableEq, Repr

/-- Why the arguments give no command. -/
inductive Refusal where
  /-- The user asked for help. -/
  | help
  | usage
deriving DecidableEq, Repr

/-- What may follow the name of a command, apart from one plain argument. -/
structure Form where
  /-- The names of the options. -/
  options : List String := []
  /-- The names of the flags. -/
  flags : List String := []
  /-- The plain argument is the path of a file, which is never empty. -/
  path : Bool := false

/-- What followed the name of a command. -/
structure Given where
  plain : Option String := none
  options : List (String × String) := []
  flags : List String := []
deriving DecidableEq, Repr

namespace Given

/-- Take a plain argument, of which there is at most one. -/
def takePlain (form : Form) (given : Given) (argument : String) : Except Refusal Given :=
  if given.plain.isSome || (form.path && argument.isEmpty) then .error .usage
  else .ok { given with plain := some argument }

/-- Take the value of an option, which is given at most once. -/
def takeOption (given : Given) (name value : String) : Except Refusal Given :=
  if (given.options.lookup name).isSome then .error .usage
  else .ok { given with options := (name, value) :: given.options }

/-- Take a flag, which is given at most once. -/
def takeFlag (given : Given) (name : String) : Except Refusal Given :=
  if given.flags.contains name then .error .usage
  else .ok { given with flags := name :: given.flags }

/-- The value of an option, or what it is when it is not given. -/
def option (given : Given) (name default : String) : String :=
  (given.options.lookup name).getD default

end Given

/-- How an argument begins. -/
inductive Shape where
  /-- The argument is `--`. -/
  | terminator
  /-- The argument begins with two hyphens and names an option or a flag, with or without a value.
  -/
  | named (name : String) (value : Option String)
  /-- The argument begins with one hyphen, which the letter follows. -/
  | short (letter : Char)
  | plain
deriving DecidableEq, Repr

/-- The shape of an argument. -/
def Shape.of (argument : String) : Shape :=
  match argument.toList with
  | ['-', '-'] => .terminator
  | '-' :: '-' :: rest =>
    .named (String.ofList (rest.takeWhile (· ≠ '=')))
      (match rest.dropWhile (· ≠ '=') with
       | [] => none
       | _ :: value => some (String.ofList value))
  | '-' :: letter :: _ => .short letter
  | _ => .plain

/-- Take all arguments as plain ones. -/
def takeAllPlain (form : Form) (given : Given) (arguments : List String) : Except Refusal Given :=
  arguments.foldlM (Given.takePlain form) given

/-- Take the arguments that follow the name of a command. -/
def take (form : Form) (given : Given) : List String → Except Refusal Given
  | [] => .ok given
  | argument :: rest =>
    match Shape.of argument with
    | .terminator => takeAllPlain form given rest
    | .plain => do take form (← given.takePlain form argument) rest
    | .short letter => .error (if letter = 'h' then .help else .usage)
    | .named name value =>
      if form.options.contains name then
        match value, rest with
        | some value, rest => do take form (← given.takeOption name value) rest
        | none, value :: rest =>
          if Shape.of value = .plain then do take form (← given.takeOption name value) rest
          else .error .usage
        | none, [] => .error .usage
      else if value.isSome then .error .usage
      else if form.flags.contains name then do take form (← given.takeFlag name) rest
      else .error (if name = "help" then .help else .usage)

/-- The plain argument that a command needs. -/
def Given.required (given : Given) : Except Refusal String :=
  given.plain.elim (.error .usage) .ok

namespace Command

/-- The file that is read when none is named. -/
def defaultFile : String := "main.json"

/-- The type of resource that is meant when none is named. -/
def defaultType : String := "private_link_endpoint"

/-- The name under which a resource goes when none is given. -/
def defaultName : String := "main"

/-- The file that a command reads. -/
def file? : Command → Option String
  | .validate file | .apply file _ => some file
  | _ => none

/-- The commands by their names. -/
def ofName? : String → Option (Form × (Given → Except Refusal Command))
  | "validate" => some
      ({ path := true }, fun given => .ok (.validate (given.plain.getD defaultFile)))
  | "apply" => some
      ({ path := true, options := ["identifier"] }, fun given =>
        .ok (.apply (given.plain.getD defaultFile) (given.options.lookup "identifier")))
  | "read" => some
      ({ options := ["resource-type"] }, fun given => do
        return .read (← given.required) (given.option "resource-type" defaultType))
  | "import" => some
      ({ options := ["resource-type", "name"] }, fun given => do
        return .importExisting (← given.required) (given.option "resource-type" defaultType)
          (given.option "name" defaultName))
  | "destroy" => some
      ({ options := ["resource-type"], flags := ["auto-approve"] }, fun given => do
        return .destroy (← given.required) (given.option "resource-type" defaultType)
          (given.flags.contains "auto-approve"))
  | _ => none

/-- The refusal of a request for help on something, which may be a command. -/
def helpOn : List String → Refusal
  | [] => .help
  | [name] => if name = "help" || (ofName? name).isSome then .help else .usage
  | _ => .usage

/-- The command that the arguments of the program give. -/
def parse : List String → Except Refusal Command
  | [] => .error .usage
  | name :: rest =>
    match ofName? name with
    | some (form, command) => do command (← take form {} rest)
    | none =>
      if name = "help" then .error (helpOn rest)
      else if Shape.of name = .short 'h' ∨ Shape.of name = .named "help" none then .error .help
      else .error .usage

end Command

end PrivateLink.CommandLine
