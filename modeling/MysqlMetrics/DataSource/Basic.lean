import MysqlMetrics.DataSource.Locator
import MysqlMetrics.Text.Numeral
import MysqlMetrics.Text.Percent

/-!
# Data sources

The name of a data source says where the database server is and how to log in to it. It is checked
before the exporter starts, although nothing is connected until the first scrape. A fault is
reported without its cause, since the name holds a password.

* `DataSource.read` reads a name.
-/

namespace MysqlMetrics

open MysqlMetrics.Text

/-- How far a connection is to be encrypted. -/
inductive Encryption where
  | disabled
  | preferred
  | required
  | verifyAuthority
  | verifyIdentity
  deriving DecidableEq, Repr

/-- The encryption of a name, in either case. -/
def Encryption.ofName? (name : String) : Option Encryption :=
  match String.ofList (name.toList.map Char.toLower) with
  | "disabled" => some disabled
  | "preferred" => some preferred
  | "required" => some required
  | "verify_ca" => some verifyAuthority
  | "verify_identity" => some verifyIdentity
  | _ => none

/-- A data source. -/
structure DataSource where
  user : Option String
  password : Option String
  host : Option Host
  port : Option Nat
  database : Option String
  encryption : Encryption := .preferred
  statementCapacity : Nat := 100
  deriving DecidableEq, Repr

/-- What is wrong with the name of a data source. -/
inductive DataSourceError where
  | otherScheme
  | invalid
  deriving DecidableEq, Repr

/-- The wording of a fault in the name of a data source. -/
def DataSourceError.message : DataSourceError → String
  | .otherScheme => "DSN must start with mysql:// or mariadb://"
  | .invalid => "invalid DSN"

namespace DataSource

/-- The beginnings that a name may have. -/
def schemes : List String := ["mysql://", "mariadb://"]

/-- The text behind one of the beginnings. -/
def behindScheme? (text : List Char) : Option (List Char) :=
  (schemes.find? fun scheme => scheme.toList.isPrefixOf text).map fun scheme =>
    text.drop scheme.length

/-- A part of a locator: none if it is empty, and otherwise its text, which has to be UTF-8. -/
def part? (text : List Char) : Option (Option String) :=
  if text = [] then some none else (percentDecode? text).map some

/-- The name and the value of a parameter; bytes that are not UTF-8 leave no text. -/
def parameter (text : List Char) : Option String × Option String :=
  (formDecode? (text.takeWhile (· ≠ '=')), formDecode? ((text.dropWhile (· ≠ '=')).drop 1))

/-- Sets a parameter; those that are not looked at here may have any value. -/
def set? (source : DataSource) (name value : Option String) : Option DataSource :=
  if name ∈ [some "sslmode", some "ssl-mode"] then do
    return { source with encryption := ← Encryption.ofName? (← value) }
  else if name = some "statement-cache-capacity" then do
    let value ← value
    return { source with
      statementCapacity := ← (Natural.read maxNatural64 value.toList).toOption }
  else some source

/-- Sets parameters one after another. -/
def setAll? (source : DataSource) : List (List Char) → Option DataSource
  | [] => some source
  | text :: rest =>
    match source.set? (parameter text).1 (parameter text).2 with
    | some source => source.setAll? rest
    | none => none

/-- The data source that a locator describes. -/
def ofLocator? (l : Locator) : Option DataSource := do
  let user ← part? l.user
  let password ← part? l.password
  let database ← part? l.path
  let source : DataSource := { user, password, host := l.host, port := l.port, database }
  source.setAll? (pieces '&' l.query)

/-- Reads the name of a data source. -/
def read (name : String) : Except DataSourceError DataSource :=
  match behindScheme? name.toList with
  | none => .error .otherScheme
  | some text =>
    match (Locator.read? text).bind ofLocator? with
    | some source => .ok source
    | none => .error .invalid

end DataSource

end MysqlMetrics
