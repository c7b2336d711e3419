import MysqlMetrics.CommandLine.Options
import MysqlMetrics.Text.Pieces
import MysqlMetrics.Text.Terminal

/-!
# Help and version

What the command line prints about itself: the usage, and for every option its names and, on the
next line, what it is, the variable of the environment with its present value, and its default.

The names of options have colours, which the plain help lacks. They matter to it all the same: a
variable may hold the beginning of a sequence, which takes text along up to the next colour.
-/

namespace MysqlMetrics.CommandLine

open MysqlMetrics.Text

/-- The program's name. -/
def programName : String := "mysqld_exporter"

/-- The line that names the version. -/
def versionLine (version : String) : String := programName ++ " " ++ version

/-- The blank place before what an option is. -/
def margin : String := "          "

/-- Text that may have lines of its own, each behind the margin. -/
def indented (text : String) : String :=
  margin ++ ("\n" ++ margin).intercalate ((pieces '\n' text.toList).map String.ofList)

namespace Choice

/-- The names of an option; without a short name its place stays blank. -/
def namesLine (o : Choice) : String :=
  let literal := Terminal.coloured 34
  let placeholder := Terminal.coloured 32
  (match o.letter? with
    | some c => "  " ++ literal ("-" ++ String.singleton c) ++ ", "
    | none => "      ") ++
    literal ("--" ++ o.name) ++ String.join (o.marks.map placeholder)

/-- The variable of a setting and, unless it is to be kept secret, its present value. -/
def variableNote (environment : String → Option String) (s : Setting) : String :=
  " [env: " ++ s.variableName ++
    (if s.showsVariable then "=" ++ (environment s.variableName).getD "" else "") ++ "]"

/-- The default of a setting, if it has one. -/
def defaultNote (s : Setting) : String :=
  match s.default? with
  | some text => " [default: " ++ text ++ "]"
  | none => ""

/-- What an option is. -/
def purpose (environment : String → Option String) : Choice → String
  | setting s => s.help ++ variableNote environment s ++ defaultNote s
  | flag f => f.purpose

end Choice

/-- The lines before the options. -/
def usage : List String :=
  ["Prometheus exporter for MySQL server metrics", "", "Usage: " ++ programName ++ " [OPTIONS]", "",
    "Options:"]

/-- The help for a terminal. -/
def colouredHelp (environment : String → Option String) : String :=
  "\n".intercalate
    (usage ++ Choice.all.flatMap fun o => [o.namesLine, indented (o.purpose environment)])

/-- The help. -/
def help (environment : String → Option String) : String :=
  Terminal.plain (colouredHelp environment)

end MysqlMetrics.CommandLine
