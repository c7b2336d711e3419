import MysqlMetrics.CommandLine.Help
import MysqlMetrics.CommandLine.Reader
import MysqlMetrics.Http.Message
import MysqlMetrics.Launch

/-!
# The command

Reads the command line and the environment and prints what they ask for: the help, the version, or
what is wrong. An exporter that starts answers the requests on its standard input, as behind a
daemon that hands its connections over. It has no connection to a database, so a scrape reports the
server as down.
-/

namespace MysqlMetrics.Command

open MysqlMetrics.CommandLine

/-- The environment as far as it matters. -/
def environment : IO (String → Option String) := do
  let values ← Setting.all.mapM fun s => do return (s.variableName, ← IO.getEnv s.variableName)
  return fun name => (values.find? fun v => v.1 = name).bind Prod.snd

/-- The lines of a request up to the empty one; none at the end of the input. -/
partial def readHead (input : IO.FS.Stream) (lines : List String) : IO (List String) := do
  let line ← input.getLine
  let text := String.ofList (Text.trimEnd line.toList)
  if text.isEmpty then return lines.reverse
  else readHead input (text :: lines)

/-- Answers requests until there is none. -/
partial def serve (service : Service) (served : Nat) : IO Unit := do
  let head ← readHead (← IO.getStdin) []
  match Request.ofHead? head with
  | none => return
  | some request =>
    let now : Duration := ⟨← IO.monoNanosNow⟩
    let (service, response) := service.respond Server.down now request
    let output ← IO.getStdout
    output.putStr (response.wire (toString served))
    output.flush
    serve service (served + 1)

/-- Prints why nothing is started; only a fault is a failure. -/
def report (environment : String → Option String) : Stop → IO UInt32
  | .help => do
    IO.println (help environment)
    return 0
  | .version => do
    IO.println (versionLine Service.programVersion)
    return 0
  | .fault error => do
    IO.eprintln ("error: " ++ error.message)
    return 2

/-- Carries out a command line. -/
def run (args : List String) : IO UInt32 := do
  let environment ← environment
  match Reader.read environment args with
  | .error stop => report environment stop
  | .ok invocation =>
    match Launch.start invocation with
    | .error error =>
      IO.eprintln ("Error: " ++ error.message)
      return 1
    | .ok launch =>
      serve launch.service 0
      return 0

end MysqlMetrics.Command

/-- The entry of the program. -/
def main (args : List String) : IO UInt32 := MysqlMetrics.Command.run args
