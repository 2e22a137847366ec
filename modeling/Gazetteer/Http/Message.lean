import Gazetteer.Json.Value
import Gazetteer.Text.Percent

/-!
# Requests and responses

* `Request`: method, target, headers and body, with `path`, `query` and `header?`.
* `Response`: a status and its content.
-/

set_option autoImplicit false

namespace Gazetteer.Http

structure Request where
  method : String
  /-- The path and the query as they were sent, perhaps behind a scheme and a host. -/
  target : String
  headers : List (String × String)
  body : List UInt8

namespace Request

/-- A target from its path on: `http://host/health?x` becomes `/health?x`. A target that has neither
a slash in front nor a scheme names no path. -/
def fromPath : List Char → List Char
  | '/' :: rest => '/' :: rest
  | target =>
    match target.dropWhile (· != ':') with
    | ':' :: '/' :: '/' :: rest => rest.dropWhile fun c => c != '/' && c != '?' && c != '#'
    | _ => []

/-- Path and query, without a fragment. -/
def resource (r : Request) : List Char := (fromPath r.target.toList).takeWhile (· != '#')

/-- The path, not decoded. -/
def path (r : Request) : List Char := r.resource.takeWhile (· != '?')

/-- The query, not decoded. -/
def query (r : Request) : String := String.ofList ((r.resource.dropWhile (· != '?')).drop 1)

/-- The first header of a name, in any letter case; `name` is lowercase. -/
def header? (r : Request) (name : String) : Option String :=
  (r.headers.find? fun h => String.ofList (h.1.toList.map Char.toLower) == name).map Prod.snd

/-- The first header of a name as text. A value that is not printable ASCII has none. -/
def headerText? (r : Request) (name : String) : Option String :=
  (r.header? name).filter fun v =>
    v.toList.all fun c => c = '\t' || (32 ≤ c.toNat && c.toNat < 127)

end Request

/-- What a response carries. -/
inductive Content where
  | empty
  | json (j : Json)
  /-- A text to be saved under a name. -/
  | file (mediaType disposition text : String)

/-- The content of a response to a question for its headers only. -/
def Content.headersOnly : Content → Content
  | .file mediaType disposition _ => .file mediaType disposition ""
  | _ => .empty

structure Response where
  status : Nat
  content : Content

end Gazetteer.Http
