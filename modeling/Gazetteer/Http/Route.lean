import Gazetteer.Http.Message
import Gazetteer.Text.Split

/-!
# Routes

The path of a request says what it is about, and the method what is asked for. Fixed names win over
ids. An id at the end of a path is not empty, so a slash at the end leads nowhere; an id with a name
behind it may be, and is then refused where it is read.

* `Route`: what a path is about.
* `Route.ofPath?`: the route of a path.
* `Call`: what a request asks for.
* `Route.call?`: the call of a method on a route.
-/

set_option autoImplicit false

namespace Gazetteer.Http

/-- What a path is about. Ids are given as they stand in the path. -/
inductive Route where
  | health
  | merchants
  | import
  | importTemplate
  | merchant (id : String)
  | merchantGeocode (id : String)
  | merchantPoints (id : String)
  | nearby
  | point (id : String)
  | tags
  | tag (id : String)
  | geocode
  deriving DecidableEq, Repr

namespace Route

/-- The route of an id at the end of a path, which is not empty. -/
def under (route : String → Route) (id : String) : Option Route :=
  if id.isEmpty then none else some (route id)

/-- The route of the parts behind the version of the interface. -/
def ofParts : List String → Option Route
  | ["merchants"] => some .merchants
  | ["merchants", "import"] => some .import
  | ["merchants", "import", "template"] => some .importTemplate
  | ["merchants", id] => under .merchant id
  | ["merchants", id, "geocode"] => some (.merchantGeocode id)
  | ["merchants", id, "geopoints"] => some (.merchantPoints id)
  | ["geopoints", "nearby"] => some .nearby
  | ["geopoints", id] => under .point id
  | ["merchant-tags"] => some .tags
  | ["merchant-tags", id] => under .tag id
  | ["geocode"] => some .geocode
  | _ => none

/-- The route of a path. -/
def ofPath? (path : List Char) : Option Route :=
  match (Text.splitOn '/' path).map String.ofList with
  | ["", "health"] => some .health
  | "" :: "api" :: "v1" :: parts => ofParts parts
  | _ => none

end Route

/-- What a request asks for. -/
inductive Call where
  | health
  | createMerchant
  | listMerchants
  | importMerchants
  | importTemplate
  | findMerchant (id : String)
  | updateMerchant (id : String)
  | deleteMerchant (id : String)
  | geocodeMerchant (id : String)
  | createPoint (merchant : String)
  | listPoints (merchant : String)
  | nearby
  | findPoint (id : String)
  | updatePoint (id : String)
  | deletePoint (id : String)
  | createTag
  | listTags
  | findTag (id : String)
  | updateTag (id : String)
  | deleteTag (id : String)
  | geocode
  deriving DecidableEq, Repr

/-- The call of a method on a route. -/
def Route.call? (method : String) : Route → Option Call
  | .health => if method = "GET" then some .health else none
  | .merchants =>
    if method = "POST" then some .createMerchant
    else if method = "GET" then some .listMerchants
    else none
  | .import => if method = "POST" then some .importMerchants else none
  | .importTemplate => if method = "GET" then some .importTemplate else none
  | .merchant id =>
    if method = "GET" then some (.findMerchant id)
    else if method = "PUT" then some (.updateMerchant id)
    else if method = "DELETE" then some (.deleteMerchant id)
    else none
  | .merchantGeocode id => if method = "POST" then some (.geocodeMerchant id) else none
  | .merchantPoints id =>
    if method = "POST" then some (.createPoint id)
    else if method = "GET" then some (.listPoints id)
    else none
  | .nearby => if method = "GET" then some .nearby else none
  | .point id =>
    if method = "GET" then some (.findPoint id)
    else if method = "PUT" then some (.updatePoint id)
    else if method = "DELETE" then some (.deletePoint id)
    else none
  | .tags =>
    if method = "POST" then some .createTag
    else if method = "GET" then some .listTags
    else none
  | .tag id =>
    if method = "GET" then some (.findTag id)
    else if method = "PUT" then some (.updateTag id)
    else if method = "DELETE" then some (.deleteTag id)
    else none
  | .geocode => if method = "POST" then some .geocode else none

end Gazetteer.Http
