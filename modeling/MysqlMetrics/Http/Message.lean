import MysqlMetrics.Http
import MysqlMetrics.Text.Blank
import MysqlMetrics.Text.Pieces

/-!
# Requests and responses as text

The head of a request is a line with method and target and a line for every header. A response is a
status line, its headers, an empty line and the body.

* `Request.ofHead?` reads a request; `HttpResponse.wire` writes a response.
-/

namespace MysqlMetrics

open MysqlMetrics.Text

namespace Request

/-- A header, its name and its value behind a colon. -/
def headerOf (line : String) : String × String :=
  (String.ofList (line.toList.takeWhile (· ≠ ':')),
    String.ofList (trim ((line.toList.dropWhile (· ≠ ':')).drop 1)))

/-- The request of a request line and headers. -/
def ofHead? : List String → Option Request
  | [] => none
  | line :: headers =>
    match pieces ' ' (trim line.toList) with
    | [method, target, _] =>
      some ⟨String.ofList method, String.ofList target, headers.map headerOf⟩
    | _ => none

end Request

namespace HttpResponse

/-- The phrase behind a status. -/
def reason : Nat → String
  | 200 => "OK"
  | 404 => "Not Found"
  | 405 => "Method Not Allowed"
  | _ => "Internal Server Error"

/-- The first line of a response. -/
def statusLine (r : HttpResponse) : String :=
  "HTTP/1.1 " ++ toString r.status ++ " " ++ reason r.status

/-- A header, if it has a value. -/
def headerLine (name : String) : Option String → List String
  | some value => [name ++ ": " ++ value]
  | none => []

/-- The lines before the body; `fresh` identifies a request that did not identify itself. -/
def head (r : HttpResponse) (fresh : String) : List String :=
  let id :=
    match r.requestId with
    | .sent id => id
    | .fresh => fresh
  r.statusLine :: headerLine "content-type" r.contentType ++ headerLine "allow" r.allow ++
    ["x-request-id: " ++ id, "content-length: " ++ toString r.body.utf8ByteSize]

/-- The whole response. -/
def wire (r : HttpResponse) (fresh : String) : String :=
  "\r\n".intercalate (r.head fresh ++ ["", ""]) ++ r.body

end HttpResponse

end MysqlMetrics
