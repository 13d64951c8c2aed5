import VoterSession.Config.Error
import VoterSession.Text.Blank
import VoterSession.Text.Decimal
import VoterSession.Text.Json
import VoterSession.Text.Separated
set_option autoImplicit false

/-!
The configuration file: a JSON object with a section for each part. A section, and the whole file, may
also be an array of its fields in order, with the last ones left out. Unknown and repeated names and
values of the wrong kind are refused; `null` stands for a setting that is not set, but for no section.
Values are handed on as the texts that an environment variable would hold, and the environment comes
first.
-/
namespace VoterSession.Config

open Text (Json)

structure FileTls where
  cert : Option String := none
  key : Option String := none
  clientCa : Option String := none
deriving DecidableEq

structure FileStore where
  backend : Option String := none
  etcdEndpoints : Option (List String) := none
  etcdConnectTimeout : Option Nat := none
  etcdCa : Option String := none
  etcdCert : Option String := none
  etcdKey : Option String := none
  opTimeout : Option Nat := none
  maxRetries : Option Nat := none
  retryBackoff : Option Nat := none
deriving DecidableEq

structure FileTtls where
  auth : Option Nat := none
  choice : Option Nat := none
  vote : Option Nat := none
  verify : Option Nat := none
deriving DecidableEq

structure FileWindow where
  notBefore : Option Nat := none
  notAfter : Option Nat := none
deriving DecidableEq

structure FileClient where
  endpoint : Option String := none
  serverName : Option String := none
  ca : Option String := none
  cert : Option String := none
  key : Option String := none
  requestTimeout : Option Nat := none
  connectTimeout : Option Nat := none
  voteCompletion : Option String := none
deriving DecidableEq

structure FileConfig where
  bind : Option String := none
  insecurePlaintext : Option Bool := none
  tls : FileTls := {}
  store : FileStore := {}
  ttls : FileTtls := {}
  window : FileWindow := {}
  client : FileClient := {}
deriving DecidableEq

namespace FileConfig

abbrev Fields := String → Option Json

/-- The fields of a section that may have these names. -/
def fields? (names : List String) : Json → Option Fields
  | .object members =>
    let present := members.map Prod.fst
    if present.all names.contains && decide present.Nodup then some fun name => members.lookup name
    else none
  | .array items =>
    if items.length ≤ names.length then some fun name => (names.zip items).lookup name else none
  | _ => none

/-- A setting of some kind, where it is given and not `null`. -/
def optional? {α : Type} (read : Json → Option α) : Option Json → Option (Option α)
  | none => some none
  | some .null => some none
  | some json => (read json).map some

def text? : Json → Option String
  | .text s => some s
  | _ => none

def bool? : Json → Option Bool
  | .bool b => some b
  | _ => none

def texts? : Json → Option (List String)
  | .array items => items.mapM text?
  | _ => none

def natural? (max : Nat) : Json → Option Nat
  | .natural n => if n ≤ max then some n else none
  | _ => none

def word32? : Option Json → Option (Option Nat) := optional? (natural? Text.Decimal.maxWord32)

def word64? : Option Json → Option (Option Nat) := optional? (natural? Text.Decimal.maxWord64)

def section? {α : Type} (read : Json → Option α) (empty : α) : Option Json → Option α
  | none => some empty
  | some json => read json

def tls? (json : Json) : Option FileTls := do
  let field ← fields? ["cert", "key", "client_ca"] json
  return {
    cert := ← optional? text? (field "cert")
    key := ← optional? text? (field "key")
    clientCa := ← optional? text? (field "client_ca") }

def store? (json : Json) : Option FileStore := do
  let field ← fields? ["backend", "etcd_endpoints", "etcd_connect_timeout_ms", "etcd_ca", "etcd_cert",
    "etcd_key", "op_timeout_ms", "max_retries", "retry_backoff_ms"] json
  return {
    backend := ← optional? text? (field "backend")
    etcdEndpoints := ← optional? texts? (field "etcd_endpoints")
    etcdConnectTimeout := ← word64? (field "etcd_connect_timeout_ms")
    etcdCa := ← optional? text? (field "etcd_ca")
    etcdCert := ← optional? text? (field "etcd_cert")
    etcdKey := ← optional? text? (field "etcd_key")
    opTimeout := ← word64? (field "op_timeout_ms")
    maxRetries := ← word32? (field "max_retries")
    retryBackoff := ← word64? (field "retry_backoff_ms") }

def ttls? (json : Json) : Option FileTtls := do
  let field ← fields? ["auth", "choice", "vote", "verify"] json
  return {
    auth := ← word32? (field "auth")
    choice := ← word32? (field "choice")
    vote := ← word32? (field "vote")
    verify := ← word32? (field "verify") }

def window? (json : Json) : Option FileWindow := do
  let field ← fields? ["not_before", "not_after"] json
  return {
    notBefore := ← word64? (field "not_before")
    notAfter := ← word64? (field "not_after") }

def client? (json : Json) : Option FileClient := do
  let field ← fields? ["endpoint", "server_name", "ca", "cert", "key", "request_timeout_ms",
    "connect_timeout_ms", "vote_completion"] json
  return {
    endpoint := ← optional? text? (field "endpoint")
    serverName := ← optional? text? (field "server_name")
    ca := ← optional? text? (field "ca")
    cert := ← optional? text? (field "cert")
    key := ← optional? text? (field "key")
    requestTimeout := ← word64? (field "request_timeout_ms")
    connectTimeout := ← word64? (field "connect_timeout_ms")
    voteCompletion := ← optional? text? (field "vote_completion") }

def ofJson? (json : Json) : Option FileConfig := do
  let field ← fields? ["bind", "insecure_plaintext", "tls", "store", "session_ttl", "service_window",
    "client"] json
  return {
    bind := ← optional? text? (field "bind")
    insecurePlaintext := ← optional? bool? (field "insecure_plaintext")
    tls := ← section? tls? {} (field "tls")
    store := ← section? store? {} (field "store")
    ttls := ← section? ttls? {} (field "session_ttl")
    window := ← section? window? {} (field "service_window")
    client := ← section? client? {} (field "client") }

def ofText (path text : String) : Except ConfigError FileConfig :=
  match (Json.ofText? text).bind ofJson? with
  | some config => .ok config
  | none => .error (.parse path)

def load (disk : Disk) (path : String) : Except ConfigError FileConfig := do
  ofText path (← (disk.readText path).mapError (.read path))

def boolText (b : Bool) : String := if b then "true" else "false"

def commaSeparated (texts : List String) : String :=
  String.ofList (Text.Separated.join ',' (texts.map String.toList))

def lookup (config : FileConfig) : Source
  | .bind => config.bind
  | .tlsCert => config.tls.cert
  | .tlsKey => config.tls.key
  | .tlsClientCa => config.tls.clientCa
  | .insecurePlaintext => config.insecurePlaintext.map boolText
  | .storeBackend => config.store.backend
  | .etcdEndpoints => config.store.etcdEndpoints.map commaSeparated
  | .etcdConnectTimeout => config.store.etcdConnectTimeout.map toString
  | .etcdCa => config.store.etcdCa
  | .etcdCert => config.store.etcdCert
  | .etcdKey => config.store.etcdKey
  | .storeOpTimeout => config.store.opTimeout.map toString
  | .storeMaxRetries => config.store.maxRetries.map toString
  | .storeRetryBackoff => config.store.retryBackoff.map toString
  | .authTtl => config.ttls.auth.map toString
  | .choiceTtl => config.ttls.choice.map toString
  | .voteTtl => config.ttls.vote.map toString
  | .verifyTtl => config.ttls.verify.map toString
  | .notBefore => config.window.notBefore.map toString
  | .notAfter => config.window.notAfter.map toString
  | .endpoint => config.client.endpoint
  | .serverName => config.client.serverName
  | .clientCa => config.client.ca
  | .clientCert => config.client.cert
  | .clientKey => config.client.key
  | .requestTimeout => config.client.requestTimeout.map toString
  | .connectTimeout => config.client.connectTimeout.map toString
  | .voteCompletion => config.client.voteCompletion

end FileConfig

abbrev Environment := String → Option String

def configPathName : String := "COLLECTOR_CONFIG_PATH"

/-- The settings of an environment over those of a file. -/
def layered (environment : Environment) (file : FileConfig) : Source :=
  fun setting => environment setting.name <|> file.lookup setting

def sourceOf (disk : Disk) (environment : Environment) : Except ConfigError Source :=
  match environment configPathName with
  | none => .ok (layered environment {})
  | some path =>
    if Text.allBlank path.toList then .ok (layered environment {})
    else (FileConfig.load disk (Text.trimmed path)).map (layered environment)

end VoterSession.Config
