import Gazetteer.Access
import Gazetteer.Decimal.Scientific
import Gazetteer.Failure
import Gazetteer.Http.MediaType
import Gazetteer.Http.Message
import Gazetteer.Json.Bytes
import Gazetteer.Paging
import Gazetteer.Text.Blank

/-!
# What a request says

The caller, the ids, the query and the body of a request, and why they may be refused.

* `Refusal`: why a request is not carried out, with its response.
* `principal`, `pathId`, `jsonBody`, `uploadBody`: the parts of a request.
* `Query`: the names and values of a query, each name given at most once.
-/

set_option autoImplicit false

namespace Gazetteer.Http

open Gazetteer.Json (Decoder)

/-! ## Refusals -/

/-- Why a request is not carried out. -/
inductive Refusal where
  | noSuchPath
  | noSuchMethod
  | unauthorized
  | badPath
  | badQuery
  | tooLarge
  | notJson
  | malformedJson
  | unexpectedJson
  deriving DecidableEq, Repr

/-- The header that carries the id of the caller. -/
def userIdHeader : String := "x-user-id"

/-- The header that carries the name of the caller. -/
def usernameHeader : String := "x-username"

/-- A response that carries an error: its code and its message. -/
def errorResponse (status : Nat) (code message : String) : Response :=
  ⟨status, .json (.object [("error",
    .object [("code", .text code), ("message", .text message)])])⟩

def Refusal.response : Refusal → Response
  | .noSuchPath => ⟨404, .empty⟩
  | .noSuchMethod => ⟨405, .empty⟩
  | .unauthorized =>
    errorResponse 401 "unauthorized" ("missing or invalid " ++ userIdHeader ++ " header")
  | .badPath => ⟨400, .empty⟩
  | .badQuery => ⟨400, .empty⟩
  | .tooLarge => ⟨413, .empty⟩
  | .notJson => ⟨415, .empty⟩
  | .malformedJson => ⟨400, .empty⟩
  | .unexpectedJson => ⟨422, .empty⟩

/-- The status and the code of a failure. A crash of the handler has the status of an error inside
the server here; a server that does not catch it closes the connection without a response. -/
def statusOf : Failure → Nat × String
  | .validation _ => (400, "validation_error")
  | .csv _ => (400, "invalid_csv")
  | .notFound _ => (404, "not_found")
  | .accessDenied _ => (403, "access_denied")
  | .lookup .emptyAddress => (400, "validation_error")
  | .lookup _ => (502, "geocoding_failed")
  | .storage _ | .serialization _ | .crash => (500, "internal_error")

/-- The response to a call that failed. Nothing is said about a failure of the server itself. -/
def failureResponse (e : Failure) : Response :=
  let (status, code) := statusOf e
  errorResponse status code (if status = 500 then "internal server error" else e.message)

/-! ## The caller and the path -/

/-- The caller, who must give an id and may give a name. -/
def principal (r : Request) : Except Refusal Principal :=
  match (r.headerText? userIdHeader).bind fun v => Text.readSigned? (Text.trim v) with
  | none => .error .unauthorized
  | some id =>
    let name := ((r.headerText? usernameHeader).map Text.trim).filter (!·.isEmpty)
    .ok ⟨id, name.getD ("user-" ++ toString id)⟩

/-- The id that stands in the path. -/
def pathId (part : String) : Except Refusal Int :=
  let id := (Text.Utf8.decode? (Text.Percent.decode (Text.Utf8.encode part))).bind Text.readSigned?
  match id with
  | some id => .ok id
  | none => .error .badPath

/-! ## The query -/

/-- The names and values of a query. -/
abbrev Query : Type := List (String × String)

def query (r : Request) : Query := Text.Percent.formPairs r.query

namespace Query

/-- The value of a name, which is given at most once. -/
def get? (q : Query) (name : String) : Except Refusal (Option String) :=
  match q.filter (·.1 == name) with
  | [] => .ok none
  | [(_, value)] => .ok (some value)
  | _ => .error .badQuery

/-- The value of a name, if it is given, as `read` reads it. -/
def read? {α : Type} (q : Query) (name : String) (read : String → Option α) :
    Except Refusal (Option α) := do
  match ← get? q name with
  | none => return none
  | some s =>
    match read s with
    | some a => return some a
    | none => .error .badQuery

/-- The value of a name that must be given, as `read` reads it. -/
def require {α : Type} (q : Query) (name : String) (read : String → Option α) :
    Except Refusal α := do
  match ← read? q name read with
  | some a => return a
  | none => .error .badQuery

/-- The page that is asked for. -/
def paging (q : Query) : Except Refusal Paging := do
  let page ← read? q "page" Text.readWord?
  let perPage ← read? q "per_page" Text.readWord?
  return ⟨page.getD 0, perPage.getD 0⟩

end Query

/-- A truth value. -/
def readBool? (s : String) : Option Bool :=
  if s = "true" then some true else if s = "false" then some false else none

/-! ## The body -/

/-- The longest body that is read, uploads apart. -/
def maxBodyBytes : Nat := 2 * 1024 * 1024

/-- The body is declared to be JSON. -/
def declaresJson (r : Request) : Bool :=
  ((r.headerText? "content-type").bind MediaType.read?).any MediaType.isJson

/-- A body of limited length. -/
def uploadBody (most : Nat) (r : Request) : Except Refusal (List UInt8) :=
  if most < r.body.length then .error .tooLarge else .ok r.body

/-- A body that is JSON. What follows its first value is not read. -/
def jsonBody {α : Type} (d : Decoder α) (r : Request) : Except Refusal α := do
  if !declaresJson r then .error .notJson
  else
    let bytes ← uploadBody maxBodyBytes r
    match d.ofBytes bytes with
    | .ok a => return a
    | .error .malformed => .error .malformedJson
    | .error .mismatch => .error .unexpectedJson

end Gazetteer.Http
