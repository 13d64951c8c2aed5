set_option autoImplicit false

/-!
The settings of a server and a client by the names of their environment variables.
-/
namespace VoterSession.Config

inductive Variable where
  | bind
  | tlsCert
  | tlsKey
  | tlsClientCa
  | insecurePlaintext
  | storeBackend
  | etcdEndpoints
  | etcdConnectTimeout
  | etcdCa
  | etcdCert
  | etcdKey
  | storeOpTimeout
  | storeMaxRetries
  | storeRetryBackoff
  | authTtl
  | choiceTtl
  | voteTtl
  | verifyTtl
  | notBefore
  | notAfter
  | endpoint
  | serverName
  | clientCa
  | clientCert
  | clientKey
  | requestTimeout
  | connectTimeout
  | voteCompletion
deriving DecidableEq

namespace Variable

def all : List Variable :=
  [bind, tlsCert, tlsKey, tlsClientCa, insecurePlaintext, storeBackend, etcdEndpoints, etcdConnectTimeout,
    etcdCa, etcdCert, etcdKey, storeOpTimeout, storeMaxRetries, storeRetryBackoff, authTtl, choiceTtl,
    voteTtl, verifyTtl, notBefore, notAfter, endpoint, serverName, clientCa, clientCert, clientKey,
    requestTimeout, connectTimeout, voteCompletion]

def name : Variable → String
  | bind => "COLLECTOR_SESSIONSTATUS_BIND"
  | tlsCert => "COLLECTOR_SESSIONSTATUS_TLS_CERT"
  | tlsKey => "COLLECTOR_SESSIONSTATUS_TLS_KEY"
  | tlsClientCa => "COLLECTOR_SESSIONSTATUS_TLS_CLIENT_CA"
  | insecurePlaintext => "COLLECTOR_SESSIONSTATUS_INSECURE_PLAINTEXT"
  | storeBackend => "COLLECTOR_STORE_BACKEND"
  | etcdEndpoints => "COLLECTOR_ETCD_ENDPOINTS"
  | etcdConnectTimeout => "COLLECTOR_ETCD_CONNECT_TIMEOUT_MS"
  | etcdCa => "COLLECTOR_ETCD_CA"
  | etcdCert => "COLLECTOR_ETCD_CERT"
  | etcdKey => "COLLECTOR_ETCD_KEY"
  | storeOpTimeout => "COLLECTOR_STORE_OP_TIMEOUT_MS"
  | storeMaxRetries => "COLLECTOR_STORE_MAX_RETRIES"
  | storeRetryBackoff => "COLLECTOR_STORE_RETRY_BACKOFF_MS"
  | authTtl => "COLLECTOR_SESSION_AUTH_TTL"
  | choiceTtl => "COLLECTOR_SESSION_CHOICE_TTL"
  | voteTtl => "COLLECTOR_SESSION_VOTE_TTL"
  | verifyTtl => "COLLECTOR_SESSION_VERIFY_TTL"
  | notBefore => "COLLECTOR_SESSIONSTATUS_NOT_BEFORE"
  | notAfter => "COLLECTOR_SESSIONSTATUS_NOT_AFTER"
  | endpoint => "COLLECTOR_SESSIONSTATUS_ENDPOINT"
  | serverName => "COLLECTOR_SESSIONSTATUS_SERVER_NAME"
  | clientCa => "COLLECTOR_SESSIONSTATUS_CA"
  | clientCert => "COLLECTOR_SESSIONSTATUS_CLIENT_CERT"
  | clientKey => "COLLECTOR_SESSIONSTATUS_CLIENT_KEY"
  | requestTimeout => "COLLECTOR_SESSIONSTATUS_REQUEST_TIMEOUT_MS"
  | connectTimeout => "COLLECTOR_SESSIONSTATUS_CONNECT_TIMEOUT_MS"
  | voteCompletion => "COLLECTOR_VOTE_COMPLETION"

def ofName? (s : String) : Option Variable := all.find? fun setting => setting.name == s

end Variable

/-- The texts of the settings that are set. -/
abbrev Source := Variable → Option String

end VoterSession.Config
