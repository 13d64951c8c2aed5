import VoterSession.Config.Setting
import VoterSession.Network.Address
import VoterSession.Service.Window
import VoterSession.Store.Retry
import VoterSession.Text.Separated
set_option autoImplicit false

/-!
The configuration of a session status server. Settings are read in a fixed order, and the first one
that is wrong is reported. Plaintext has to be asked for and is only for the local host.
-/
namespace VoterSession.Config

structure ServerTlsPaths where
  cert : String
  key : String
  clientCa : String
deriving DecidableEq

inductive ServerTransport where
  | mutualTls (paths : ServerTlsPaths)
  | plaintext
deriving DecidableEq

def ServerTransport.isTls : ServerTransport → Bool
  | mutualTls _ => true
  | plaintext => false

structure ClusterTlsPaths where
  ca : String
  cert : String
  key : String
deriving DecidableEq

structure ClusterSettings where
  endpoints : List String
  /-- In milliseconds. -/
  connectTimeout : Nat
  tls : Option ClusterTlsPaths
deriving DecidableEq

inductive StoreBackend where
  | etcd (settings : ClusterSettings)
  | memory
deriving DecidableEq

def StoreBackend.name : StoreBackend → String
  | etcd _ => "etcd"
  | memory => "memory"

structure ServerConfig where
  bind : Network.SocketAddress
  transport : ServerTransport
  backend : StoreBackend
  store : RetryPolicy
  window : ServiceWindow

namespace ServerConfig

def standardBind : String := "127.0.0.1:50061"

def standardConnectTimeout : Nat := 5000

def bindAddress (source : Source) : Except ConfigError Network.SocketAddress :=
  let text := (nonBlank (source .bind)).getD standardBind
  match Network.SocketAddress.ofChars? (Text.trim text.toList) with
  | some address => .ok address
  | none => .error (.invalidVar .bind (shown text ++ " is not a socket address"))

/-- Mutual TLS with all three files, or plaintext on the local host by request. -/
def transportFor (source : Source) (bind : Network.SocketAddress) : Except ConfigError ServerTransport := do
  let files ← paths "COLLECTOR_SESSIONSTATUS_TLS_*" (nonBlank (source .tlsCert)) (nonBlank (source .tlsKey))
    (nonBlank (source .tlsClientCa))
  let plaintext ← flag .insecurePlaintext (source .insecurePlaintext)
  match files, plaintext with
  | some (cert, key, clientCa), false => return .mutualTls { cert, key, clientCa }
  | some _, true =>
    throw (.invalidVar .insecurePlaintext "cannot be combined with COLLECTOR_SESSIONSTATUS_TLS_*")
  | none, true =>
    if bind.isLoopback then return .plaintext
    else throw (.invalidVar .bind
      (bind.text ++ " is not a loopback address; plaintext is loopback only"))
  | none, false => throw (.tlsRequired "COLLECTOR_SESSIONSTATUS_TLS_CERT, _TLS_KEY and _TLS_CLIENT_CA")

/-- The addresses in a list divided by commas; blanks around them and empty ones do not count. -/
def endpointList (text : String) : List String :=
  ((Text.Separated.split ',' text.toList).map Text.trim).filterMap fun endpoint =>
    if endpoint.isEmpty then none else some (String.ofList endpoint)

def cluster (source : Source) : Except ConfigError ClusterSettings := do
  let endpoints := ((nonBlank (source .etcdEndpoints)).map endpointList).getD []
  if endpoints.isEmpty then
    throw (.invalidVar .etcdEndpoints
      "required with the etcd store backend (or set COLLECTOR_STORE_BACKEND=memory)")
  let connectTimeout ← numberOr source .etcdConnectTimeout 1 maxTimeout standardConnectTimeout
  let files ← paths "COLLECTOR_ETCD_CA, _CERT and _KEY" (nonBlank (source .etcdCa))
    (nonBlank (source .etcdCert)) (nonBlank (source .etcdKey))
  return { endpoints, connectTimeout, tls := files.map fun (ca, cert, key) => { ca, cert, key } }

/-- The store: a cluster unless another one is named. -/
def storeBackend (source : Source) : Except ConfigError StoreBackend :=
  match (nonBlank (source .storeBackend)).map fun value => Text.lowered (Text.trimmed value) with
  | none => (cluster source).map .etcd
  | some name =>
    if name = "etcd" then (cluster source).map .etcd
    else if name = "memory" then .ok .memory
    else .error (.invalidVar .storeBackend (shown name ++ " is not 'etcd' or 'memory'"))

def retryPolicy (source : Source) : Except ConfigError RetryPolicy := do
  let standard := RetryPolicy.standard
  let opTimeout ← numberOr source .storeOpTimeout 1 RetryPolicy.maxOpTimeout standard.opTimeout
  let maxRetries ← numberOr source .storeMaxRetries 0 RetryPolicy.maxMaxRetries standard.maxRetries
  let backoff ← numberOr source .storeRetryBackoff 0 RetryPolicy.maxBackoff standard.backoff
  (RetryPolicy.ofNumbers opTimeout maxRetries backoff).mapError .contract

def serviceWindow (source : Source) : Except ConfigError ServiceWindow := do
  let notBefore ← number? source .notBefore 0 Text.Decimal.maxWord64
  let notAfter ← number? source .notAfter 0 Text.Decimal.maxWord64
  (ServiceWindow.ofBounds notBefore notAfter).mapError .contract

def ofSource (source : Source) : Except ConfigError ServerConfig := do
  let bind ← bindAddress source
  let transport ← transportFor source bind
  let backend ← storeBackend source
  let store ← retryPolicy source
  let window ← serviceWindow source
  return { bind, transport, backend, store, window }

end ServerConfig

end VoterSession.Config
