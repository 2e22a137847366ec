import Gazetteer.Config
import Gazetteer.Json.Decode

/-!
# The wire form of the settings

* `storageKindDecoder`: a kind of storage, by the name that it has in data.
* `configJson`: the settings.
-/

set_option autoImplicit false

namespace Gazetteer.Wire

open Gazetteer.Json (Decoder)

/-- The kind of storage with a name in data. -/
def storageKind (name : String) : Except Json.Fault StorageKind :=
  if name = StorageKind.sqlite.name then .ok .sqlite
  else if name = StorageKind.memory.name then .ok .memory
  else .error .mismatch

/-- A kind of storage is its name, or an object with its name and `null`. -/
def storageKindDecoder : Decoder StorageKind := fun room s =>
  match s with
  | .object [(some name, .null)] true => storageKind name
  | other => (Decoder.text room other).bind storageKind

def configJson (c : Config) : Json :=
  .object [("listen_addr", .text c.listenAddress), ("max_upload_bytes", .int c.maxUploadBytes),
    ("storage", .text c.storage.name), ("db_path", .text c.databasePath),
    ("providers", .list (c.providers.map .text)), ("nominatim_url", .text c.nominatimUrl),
    ("baidu_url", .text c.baiduUrl), ("baidu_api_key", Json.ofOption .text c.baiduKey),
    ("http_timeout_secs", .int c.timeoutSeconds), ("user_agent", .text c.userAgent),
    ("batch_delay_ms", .int c.batchDelayMillis), ("geocode_workers", .int c.workers),
    ("debug", .bool c.debug)]

end Gazetteer.Wire
