import MysqlMetrics.Http.Target
import MysqlMetrics.Scrape.Exporter

/-!
# The service over HTTP

Three resources can be read, by GET or HEAD: the landing page, a health check and the metrics.
Reading the metrics is one scrape, with the time that the request's header announces. Every response
carries a request identifier: the request's own, or a fresh one.

* `Service.respond` answers one request and remembers the scrape.
-/

namespace MysqlMetrics

/-- A request: method, target, and headers in order. -/
structure Request where
  method : String
  target : String
  headers : List (String × String)
  deriving DecidableEq, Repr

/-- The identifier of a request: sent with it, or made up for it. -/
inductive RequestId where
  | sent (id : String)
  | fresh
  deriving DecidableEq, Repr

/-- A response. -/
structure HttpResponse where
  status : Nat
  contentType : Option String
  allow : Option String
  requestId : RequestId
  body : String
  deriving DecidableEq, Repr

/-- The resources that can be read. -/
inductive Resource where
  | landingPage
  | health
  | metrics
  deriving DecidableEq, Repr

namespace Request

/-- The name of the header that announces the timeout of a scrape. -/
def timeoutHeader : String := "x-prometheus-scrape-timeout-seconds"

/-- The name of the header that identifies a request. -/
def idHeader : String := "x-request-id"

/-- The value of the first header of a name in lower case; the names of headers have no case. -/
def header? (r : Request) (name : String) : Option String :=
  (r.headers.find? fun h => String.ofList (h.1.toList.map Char.toLower) = name).map Prod.snd

/-- A header's value is plain text: visible ASCII, spaces and tabs. -/
def isPlain (value : String) : Bool :=
  value.toList.all fun c => (0x20 ≤ c.toNat && c.toNat < 0x7F) || c = '\t'

/-- The announced timeout; a value that is not plain text counts as none. -/
def timeout? (r : Request) : Option String :=
  (r.header? timeoutHeader).filter isPlain

/-- The identifier of the request. -/
def id (r : Request) : RequestId :=
  match r.header? idHeader with
  | some id => .sent id
  | none => .fresh

/-- The path of the target, if it has one. -/
def path? (r : Request) : Option String := (Target.path? r.target.toList).map String.ofList

/-- The resource that the path names. -/
def resource? (r : Request) : Option Resource :=
  match r.path? with
  | some "/" => some .landingPage
  | some "/health" => some .health
  | some "/metrics" => some .metrics
  | _ => none

end Request

/-- The exporter behind the service, and the texts executed on its server. -/
structure Service where
  exporter : Exporter
  log : Log := []

namespace Service

/-- The program's version. -/
def programVersion : String := "0.1.0"

/-- The landing page. -/
def landingPage : String :=
  "<html><head><title>MySQLd Exporter</title></head><body>" ++
  "<h1>MySQLd Exporter</h1><p>" ++ programVersion ++ "</p>" ++
  "<p><a href=\"/metrics\">Metrics</a></p>" ++
  "<p><a href=\"/health\">Health</a></p>" ++
  "</body></html>"

/-- The methods by which a resource can be read. -/
def readMethods : List String := ["GET", "HEAD"]

/-- A resource as it was read. -/
def found (r : Request) (contentType body : String) (status : Nat) : HttpResponse where
  status := status
  contentType := some contentType
  allow := none
  requestId := r.id
  body := if r.method = "HEAD" then "" else body

/-- A response without content. -/
def bare (r : Request) (status : Nat) (allow : Option String) : HttpResponse where
  status := status
  contentType := none
  allow := allow
  requestId := r.id
  body := ""

/-- The metrics of a scrape; families that can not be shown are a fault of the service. -/
def metrics (r : Request) (page : Page) : HttpResponse :=
  match page.text with
  | .ok text => found r "text/plain; version=0.0.4" text 200
  | .error _ => found r "text/plain; charset=utf-8" "failed to encode metrics" 500

/-- Answers a request at a time, reading the server if the metrics are asked for. -/
def respond (s : Service) (server : Server) (now : Duration) (r : Request) :
    Service × HttpResponse :=
  match r.resource? with
  | none => (s, bare r 404 none)
  | some resource =>
    if r.method ∉ readMethods then (s, bare r 405 (some (",".intercalate readMethods)))
    else
      match resource with
      | .landingPage => (s, found r "text/html; charset=utf-8" landingPage 200)
      | .health => (s, found r "text/plain; charset=utf-8" "ok" 200)
      | .metrics =>
        let budget := s.exporter.settings.budget r.timeout?
        let (exporter, page) := s.exporter.scrape server s.log now budget
        (⟨exporter, s.log ++ page.scrape.executed⟩, metrics r page)

end Service

end MysqlMetrics
