import PrivateLink.CommandLine.Run

/-!
# The program

The outer layer of the command line: it gathers what a command needs from the machine, runs it, and
prints what it reports. No source of access tokens is built in, so a command that talks to the
service ends with the error that says so.
-/

namespace PrivateLink.CommandLine

/-- The variables that commands look at. -/
def variableNames : List String :=
  ["ARM_SUBSCRIPTION_ID", "ARM_TENANT_ID", "ARM_CLIENT_ID", "ARM_CLIENT_SECRET",
   "ARM_RESOURCE_MANAGER_ENDPOINT", "ARM_PROVIDER_STRICT", "ARM_POLL_INTERVAL_SECONDS",
   "ARM_OPERATION_TIMEOUT_MINUTES", "CLICOLOR_FORCE", Manager.clusterVariable]

/-- How the program is called. -/
def summary : String :=
  "Usage:\n  validate [FILE]\n  apply [FILE] [--identifier ID]\n" ++
    "  read ID [--resource-type TYPE]\n  import ID [--resource-type TYPE] [--name NAME]\n" ++
    "  destroy ID [--resource-type TYPE] [--auto-approve]\n"

/-- The values of the variables that are set. -/
def gatherVariables : IO (List (String × String)) :=
  variableNames.filterMapM fun name => do
    return (← IO.getEnv name).map (name, ·)

/-- The content of a file. -/
def gatherFile (path : String) : IO (Except FileFault String) := do
  try
    return .ok (← IO.FS.readFile path)
  catch error =>
    match error with
    | .noFileOrDirectory .. => return .error .missing
    | error => return .error (.other (toString error))

/-- The machine as a command finds it. -/
def gatherMachine (command : Command) : IO Machine := do
  let environment ← gatherVariables
  let file ←
    match command.file? with
    | some path => gatherFile path
    | none => pure (.error .missing)
  return {
    file := fun _ => file
    environment := fun name => environment.lookup name
    server := { token := .error "no source of access tokens is built in", turns := [] } }

/-- Print what a command reports. -/
def printReport (report : Report) : IO UInt32 := do
  IO.print report.output
  IO.eprint report.errors
  return report.code.toUInt32

/-- Run the command that the arguments give, and return the code with which the program ends. -/
def runArguments (arguments : List String) : IO UInt32 := do
  match Command.parse arguments with
  | .error .help => do
    IO.print summary
    return 0
  | .error .usage => do
    IO.eprint summary
    return 2
  | .ok command =>
    match run (← gatherMachine command) command with
    | .done report => printReport report
    | .asking question answered => do
      IO.print question
      (← IO.getStdout).flush
      printReport (answered (← (← IO.getStdin).getLine))

end PrivateLink.CommandLine

/-- The program. -/
def main (arguments : List String) : IO UInt32 :=
  PrivateLink.CommandLine.runArguments arguments
