import PrivateLink.CommandLine.Command
import PrivateLink.CommandLine.Folder
import PrivateLink.CommandLine.Style
import PrivateLink.Manager.Access
import PrivateLink.ResourceFile

/-!
# Running commands

`run` carries out a command on a machine: it gives what is printed and with which code the program
ends, and the server as the command leaves it. A command that has to be confirmed first asks, and
goes on with the answer.
-/

namespace PrivateLink.CommandLine

open Manager

/-- The machine on which a command runs. -/
structure Machine where
  /-- The content of the file at a path. -/
  file : String → Except FileFault String
  environment : String → Option String
  server : Server

/-- What a command has printed so far, and the server as it has left it. -/
structure Console where
  coloured : Bool
  output : String := ""
  server : Server

/-- A job prints, talks to the server, and ends well or with a message. -/
abbrev Job := ExceptT String (StateM Console)

/-- The text in a style, if styles are shown. -/
def styled (coloured : Bool) (style : Style) (text : String) : String :=
  if coloured then style.paint text else text

/-- What a command printed and how it ended. -/
structure Report where
  code : Nat
  output : String
  errors : String
  server : Server

/-- A command that is done, or that waits for an answer to what it has printed. -/
inductive Progress where
  | done (report : Report)
  | asking (output : String) (answered : String → Report)

namespace Job

/-- The text in a style. -/
def paint (colour : Colour) (bold : Bool) (text : String) : Job String := do
  return styled (← get).coloured { colour, bold } text

/-- Print a line. -/
def line (text : String) : Job Unit :=
  modify fun console => { console with output := console.output ++ text ++ "\n" }

/-- Print a line in a style. -/
def paintedLine (colour : Colour) (bold : Bool) (text : String) : Job Unit := do
  line (← paint colour bold text)

/-- Go on with a result, or end with its error in words. -/
def expect {ε α : Type} (words : ε → String) : Except ε α → Job α
  | .ok result => return result
  | .error error => throw (words error)

/-- Do something with the provider, or end with its error in words. -/
def ask {α : Type} (words : Provider.Error → String)
    (work : StateM Server (Except Provider.Error α)) : Job α := do
  let console ← get
  let (result, server) := work console.server
  set { console with server }
  expect words result

/-- Run a job to its end. -/
def report (job : Job Unit) (machine : Machine) : Report :=
  let coloured := isColoured machine.environment
  let (result, console) := job { coloured, server := machine.server }
  let interruption :=
    if console.server.clock.stopAt.isSome then
      styled coloured { colour := .yellow } "Interrupted, stopping..." ++ "\n"
    else ""
  let (code, failure) :=
    match result with
    | .ok () => (0, "")
    | .error message =>
      (1, styled coloured { colour := .red, bold := true } "Error:" ++ " " ++ message ++ "\n")
  { code, output := console.output, errors := interruption ++ failure, server := console.server }

end Job

/-- The resource that the file at a path describes. -/
def loadResource (machine : Machine) (path : String) : Except String Resource := do
  let content ← (machine.file path).mapError fun fault =>
    "Failed to read " ++ path ++ ": " ++ fault.message
  (ResourceFile.read content).mapError ResourceFile.Fault.message

/-- The resource has no problem. -/
def checkResource (resource : Resource) : Except String Unit :=
  match resource.problem? with
  | some problem => .error problem.message
  | none => .ok ()

/-- The provider for the variables of the machine. It stops when the user asks to. -/
def provider (machine : Machine) : Except String (Provider Server) := do
  let settings ← (Settings.ofEnvironment machine.environment).mapError Settings.Fault.message
  (connect machine.environment settings { signalled := true }).mapError Provider.Error.display

/-- The address and its parts as they are printed. -/
def addressText (address : Address) : String :=
  address.type ++ "." ++ address.name

/-- The message that a state could not be read. -/
def unreadState (error : Provider.Error) : String :=
  "Failed to read state: " ++ error.display

open Job

/-- Check a resource file. -/
def validate (machine : Machine) (path : String) : Job Unit := do
  let resource ← expect id (loadResource machine path)
  paintedLine .cyan false "Validating..."
  expect id (checkResource resource)
  paintedLine .green true ("✓ " ++ addressText resource.address ++ " validated successfully.")

/-- Bring a resource about, anew or in place of what has the identifier. -/
def applyResource (provider : Provider Server) (resource : Resource) :
    Option String → Job State
  | none => ask Provider.Error.display (provider.create resource)
  | some identifier => do
    let current ← ask unreadState (provider.read resource.address (some identifier))
    if current.found then
      ask Provider.Error.display (provider.update resource.address identifier current resource)
    else throw ("Resource " ++ identifier ++ " does not exist")

/-- Apply a resource file. -/
def apply (machine : Machine) (path : String) (identifier : Option String) : Job Unit := do
  let resource ← expect id (loadResource machine path)
  expect id (checkResource resource)
  let provider ← expect id (provider machine)
  paintedLine .cyan true "Applying changes..."
  let state ← applyResource provider resource identifier
  line ("  " ++ (← paint .green false "✓") ++ " " ++ addressText resource.address)
  line state.lines

/-- Show the state of a resource. -/
def read (machine : Machine) (identifier type : String) : Job Unit := do
  let provider ← expect id (provider machine)
  let state ← ask unreadState (provider.read { type, name := "main" } (some identifier))
  if state.found then line state.lines
  else paintedLine .yellow false (identifier ++ " does not exist.")

/-- Start to manage a resource that exists already. -/
def importExisting (machine : Machine) (identifier type name : String) : Job Unit := do
  let provider ← expect id (provider machine)
  let state ← ask Provider.Error.display (provider.importExisting { type, name } identifier)
  paintedLine .green true ("Imported " ++ type ++ "." ++ name)
  line state.lines

/-- Destroy a resource. -/
def destroy (machine : Machine) (identifier type : String) : Job Unit := do
  let provider ← expect id (provider machine)
  paintedLine .red true "Destroying resources..."
  let cross ← paint .red false "✗"
  ask (fun error => cross ++ " " ++ identifier ++ " - " ++ error.display)
    (provider.delete { type, name := "main" } identifier)
  line ("  " ++ (← paint .green false "✓") ++ " " ++ identifier)
  paintedLine .green true "Destroy complete!"

/-- The question whether to destroy a resource. -/
def question (coloured : Bool) (identifier : String) : String :=
  styled coloured { colour := .yellow, bold := true }
      ("Do you really want to destroy " ++ identifier ++ "?") ++ "\n  " ++
    styled coloured { colour := .yellow }
      "This action cannot be undone. Type 'yes' to confirm." ++ "\n\n  Enter a value: "

/-- The first line of the answer is "yes". -/
def isConfirmation (answer : String) : Bool :=
  Text.trimChars (answer.toList.takeWhile (· ≠ '\n')) == "yes".toList

/-- Destroy a resource if the answer allows it. -/
def destroyConfirmed (machine : Machine) (identifier type answer : String) : Job Unit := do
  line ""
  if isConfirmation answer then destroy machine identifier type
  else paintedLine .yellow false "Destroy cancelled."

/-- Carry out a command. -/
def run (machine : Machine) : Command → Progress
  | .validate path => .done ((validate machine path).report machine)
  | .apply path identifier => .done ((apply machine path identifier).report machine)
  | .read identifier type => .done ((read machine identifier type).report machine)
  | .importExisting identifier type name =>
    .done ((importExisting machine identifier type name).report machine)
  | .destroy identifier type true => .done ((destroy machine identifier type).report machine)
  | .destroy identifier type false =>
    .asking (question (isColoured machine.environment) identifier) fun answer =>
      (destroyConfirmed machine identifier type answer).report machine

end PrivateLink.CommandLine
