import VoterSession.Config.Client
import VoterSession.Config.File
import VoterSession.Config.Server
import VoterSession.Store.Memory
import VoterSession.Wire.Remote
set_option autoImplicit false

/-!
From an environment to a configuration, and from there to what it describes: the files of a TLS
identity, the store behind a server, and the channel of a front end. Files are read in a fixed order
and the first that cannot be read is reported; nothing is dialled here.
-/
namespace VoterSession.Config

def ServerConfig.ofEnvironment (disk : Disk) (environment : Environment) :
    Except ConfigError ServerConfig := do
  ofSource (← sourceOf disk environment)

def ClientConfig.ofEnvironment (disk : Disk) (environment : Environment) :
    Except ConfigError ClientConfig := do
  ofSource (← sourceOf disk environment)

def sourceOver (environment : Environment) (path text : String) : Except ConfigError Source :=
  (FileConfig.ofText path text).map (layered environment)

structure PemBundle where
  ca : Bytes
  cert : Bytes
  key : Bytes
deriving DecidableEq

namespace PemBundle

/-- What a log may show: the lengths of the certificates, and nothing of the key. -/
def redacted (bundle : PemBundle) : String :=
  "EtcdTlsPem \x7b ca_len: " ++ toString bundle.ca.length ++ ", cert_len: " ++
    toString bundle.cert.length ++ ", key: \"<redacted>\" \x7d"

/-- Whether each file holds a block at all, without which no connection can be set up. -/
def hasBlocks (bundle : PemBundle) : Bool :=
  let opening := (Bytes.ofText "-----BEGIN ").map fun b => Char.ofNat b.toNat
  [bundle.ca, bundle.cert, bundle.key].all fun file =>
    Text.contains (file.map fun b => Char.ofNat b.toNat) opening

end PemBundle

def readPem (disk : Disk) (path : String) : Except ConfigError Bytes :=
  (disk.read path).mapError (.read path)

/-- The files of a server; `ca` is the authority of its clients. -/
def loadServerTls (disk : Disk) (paths : ServerTlsPaths) : Except ConfigError PemBundle := do
  let cert ← readPem disk paths.cert
  let key ← readPem disk paths.key
  let ca ← readPem disk paths.clientCa
  return { ca, cert, key }

def loadClientTls (disk : Disk) (paths : ClientTlsPaths) : Except ConfigError PemBundle := do
  let ca ← readPem disk paths.ca
  let cert ← readPem disk paths.cert
  let key ← readPem disk paths.key
  return { ca, cert, key }

def loadClusterTls (disk : Disk) (paths : ClusterTlsPaths) : Except ConfigError PemBundle := do
  let ca ← readPem disk paths.ca
  let cert ← readPem disk paths.cert
  let key ← readPem disk paths.key
  return { ca, cert, key }

inductive OpenedStore where
  | memory (store : LeaseStore)
  | cluster (settings : ClusterSettings) (tls : Option PemBundle)

def openStore (disk : Disk) : StoreBackend → Except ConfigError OpenedStore
  | .memory => .ok (.memory .empty)
  | .etcd settings => do
    match settings.tls with
    | none => return .cluster settings none
    | some paths => return .cluster settings (some (← loadClusterTls disk paths))

structure LazyChannel where
  uri : Network.HttpUri
  tls : Option PemBundle
deriving DecidableEq

/-- The channel that a front end is configured with. The endpoint is read before the files. -/
def connectLazy (disk : Disk) (config : ClientConfig) : Except ConfigError LazyChannel := do
  match Network.HttpUri.ofText? config.endpoint with
  | none => throw .endpoint
  | some uri =>
    match config.transport with
    | .plaintext => return { uri, tls := none }
    | .mutualTls paths =>
      let bundle ← loadClientTls disk paths
      if bundle.hasBlocks then return { uri, tls := some bundle } else throw .endpoint

end VoterSession.Config
