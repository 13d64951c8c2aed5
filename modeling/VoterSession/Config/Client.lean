import VoterSession.Config.Setting
import VoterSession.Network.Uri
import VoterSession.Service.Verifier
set_option autoImplicit false

/-!
The configuration of a front end: how it reaches the session status, how long its calls may take, and
the lifetimes and the vote completion of its verifiers.
-/
namespace VoterSession.Config

structure ClientTlsPaths where
  ca : String
  cert : String
  key : String
deriving DecidableEq

inductive ClientTransport where
  | mutualTls (paths : ClientTlsPaths)
  | plaintext
deriving DecidableEq

def ClientTransport.isTls : ClientTransport → Bool
  | mutualTls _ => true
  | plaintext => false

/-- The configuration of a front end; times are milliseconds. -/
structure ClientConfig where
  endpoint : String := "http://127.0.0.1:50061"
  serverName : Option String := none
  transport : ClientTransport := .plaintext
  requestTimeout : Nat := 5000
  connectTimeout : Nat := 2000
  ttls : StageTtls := .standard
  voteCompletion : VoteCompletion := .delete
deriving DecidableEq

namespace ClientConfig

def standard : ClientConfig := {}

def isHttp (endpoint : String) : Bool := "http://".toList.isPrefixOf endpoint.toList

def isHttps (endpoint : String) : Bool := "https://".toList.isPrefixOf endpoint.toList

def isLoopback (endpoint : String) : Bool :=
  (Network.HttpUri.ofText? endpoint).any Network.HttpUri.isLoopback

def endpointFor (source : Source) : Except ConfigError String :=
  match nonBlank (source .endpoint) with
  | none => .ok standard.endpoint
  | some value =>
    let endpoint := Text.trimmed value
    if isHttp endpoint || isHttps endpoint then .ok endpoint
    else .error (.invalidVar .endpoint "must start with http:// or https://")

def tlsGroup : String := "COLLECTOR_SESSIONSTATUS_CA, _CLIENT_CERT and _CLIENT_KEY"

/-- Mutual TLS with all three files, or plaintext to the local host by request. -/
def transportFor (source : Source) (endpoint : String) : Except ConfigError ClientTransport := do
  let files ← paths tlsGroup (nonBlank (source .clientCa)) (nonBlank (source .clientCert))
    (nonBlank (source .clientKey))
  let plaintext ← flag .insecurePlaintext (source .insecurePlaintext)
  match files, plaintext with
  | some (ca, cert, key), false =>
    if isHttps endpoint then return .mutualTls { ca, cert, key }
    else throw (.invalidVar .endpoint "must use https:// with TLS")
  | some _, true => throw (.invalidVar .insecurePlaintext "cannot be combined with client TLS paths")
  | none, true =>
    if isLoopback endpoint then return .plaintext
    else throw (.invalidVar .endpoint
      (endpoint ++ " is not a loopback endpoint; plaintext is loopback only"))
  | none, false => throw (.tlsRequired tlsGroup)

def stageTtls (source : Source) : Except ConfigError StageTtls := do
  let auth ← numberOr source .authTtl 1 Ttl.maxSeconds StageTtls.standard.auth.seconds
  let choice ← numberOr source .choiceTtl 1 Ttl.maxSeconds StageTtls.standard.choice.seconds
  let vote ← numberOr source .voteTtl 1 Ttl.maxSeconds StageTtls.standard.vote.seconds
  let verify ← numberOr source .verifyTtl 1 Ttl.maxSeconds StageTtls.standard.verify.seconds
  (StageTtls.ofSeconds auth choice vote verify).mapError .contract

def completionFor (source : Source) : Except ConfigError VoteCompletion :=
  match source .voteCompletion with
  | none => .ok standard.voteCompletion
  | some value =>
    match VoteCompletion.ofText? (Text.lowered value) with
    | some completion => .ok completion
    | none => .error (.invalidVar .voteCompletion "must be 'delete' or 'handoff'")

def ofSource (source : Source) : Except ConfigError ClientConfig := do
  let endpoint ← endpointFor source
  let serverName := (nonBlank (source .serverName)).map Text.trimmed
  let transport ← transportFor source endpoint
  let requestTimeout ← numberOr source .requestTimeout 1 maxTimeout standard.requestTimeout
  let connectTimeout ← numberOr source .connectTimeout 1 maxTimeout standard.connectTimeout
  let ttls ← stageTtls source
  let voteCompletion ← completionFor source
  return { endpoint, serverName, transport, requestTimeout, connectTimeout, ttls, voteCompletion }

def verifier (config : ClientConfig) (kind : WorkflowKind) : Except ConfigError Verifier := do
  let table ← (WorkflowTable.ofKind kind config.voteCompletion).mapError .contract
  return { table, ttls := config.ttls }

end ClientConfig

end VoterSession.Config
