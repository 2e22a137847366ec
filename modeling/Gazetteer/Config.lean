import Gazetteer.Text.Blank
import Gazetteer.Text.Lowercase
import Gazetteer.Text.Split
import Gazetteer.Text.Whole

/-!
# Settings

The program is set up by named settings. One that is not given, or a number that cannot be read, has
a value all the same; only an unknown kind of storage is refused.

* `StorageKind`: where the tables are kept.
* `Config`: the settings.
* `Config.load`: the settings as given by name.
-/

set_option autoImplicit false

namespace Gazetteer

/-- Where the tables are kept. -/
inductive StorageKind where
  | sqlite
  | memory
  deriving DecidableEq, Repr

namespace StorageKind

/-- The kind of a name, in any letter case. -/
def ofName? (name : String) : Option StorageKind :=
  let name := Text.lowercase (Text.trim name)
  if name = "sqlite" then some .sqlite
  else if name = "memory" ∨ name = "mem" ∨ name = "dashmap" then some .memory
  else none

def name : StorageKind → String
  | .sqlite => "sqlite"
  | .memory => "memory"

end StorageKind

/-- The settings. -/
structure Config where
  listenAddress : String
  maxUploadBytes : Nat
  storage : StorageKind
  databasePath : String
  /-- The names of the providers, in the order they are asked. -/
  providers : List String
  nominatimUrl : String
  baiduUrl : String
  baiduKey : Option String
  timeoutSeconds : Nat
  userAgent : String
  batchDelayMillis : Nat
  workers : Nat
  debug : Bool

namespace Config

/-- The settings when none is given. -/
def usual : Config :=
  { listenAddress := "0.0.0.0:8080", maxUploadBytes := 20 * 1024 * 1024, storage := .sqlite,
    databasePath := "merchants.db", providers := ["nominatim", "baidu"],
    nominatimUrl := "https://nominatim.openstreetmap.org", baiduUrl := "https://api.map.baidu.com",
    baiduKey := none, timeoutSeconds := 30, userAgent := "merchant-geo/0.1.0",
    batchDelayMillis := 100, workers := 4, debug := false }

/-- A kind of storage that is not known. -/
structure UnknownStorage where
  name : String

def UnknownStorage.message (e : UnknownStorage) : String := "unknown storage backend: " ++ e.name

/-- The name of a setting. -/
def settingName (s : String) : String := "MERCHANT_GEO_" ++ s

/-- Names between commas, lowercase and without blanks around them. -/
def readNames (s : String) : List String :=
  let parts := (Text.splitOn ',' s.toList).map String.ofList
  (parts.map fun part => Text.lowercase (Text.trim part)).filter (!·.isEmpty)

/-- A text without slashes at its end. -/
def dropSlashes (s : String) : String :=
  String.ofList (s.toList.reverse.dropWhile (· == '/')).reverse

/-- The kind of storage, if it is known. -/
def readStorage (given : Option String) : Except UnknownStorage StorageKind :=
  match given with
  | none => .ok usual.storage
  | some s =>
    match StorageKind.ofName? s with
    | some kind => .ok kind
    | none => .error ⟨s⟩

/-- The settings as given by name. -/
def load (given : String → Option String) : Except UnknownStorage Config := do
  let setting s := given (settingName s)
  let number s := (setting s).bind Text.readWord?
  let storage ← readStorage (setting "STORAGE")
  return {
    listenAddress := (setting "LISTEN_ADDR").getD usual.listenAddress
    maxUploadBytes := (number "MAX_UPLOAD_BYTES").getD usual.maxUploadBytes
    storage := storage
    databasePath := (setting "DB_PATH").getD usual.databasePath
    providers := ((setting "PROVIDERS").map readNames).getD usual.providers
    nominatimUrl := ((setting "NOMINATIM_URL").map dropSlashes).getD usual.nominatimUrl
    baiduUrl := ((setting "BAIDU_URL").map dropSlashes).getD usual.baiduUrl
    baiduKey := (setting "BAIDU_API_KEY").filter (!Text.isBlankText ·)
    timeoutSeconds := (number "HTTP_TIMEOUT_SECS").getD usual.timeoutSeconds
    userAgent := (setting "USER_AGENT").getD usual.userAgent
    batchDelayMillis := (number "BATCH_DELAY_MS").getD usual.batchDelayMillis
    workers := ((number "GEOCODE_WORKERS").filter (0 < ·)).getD usual.workers
    debug := (given "DEBUG").isSome }

end Config

end Gazetteer
