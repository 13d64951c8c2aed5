import VoterSession.Config.Client
import VoterSession.Config.Server
import VoterSession.Proofs.Config.Setting
set_option autoImplicit false

/-!
What the builders of the two configurations accept, part by part, and what their transports come to: mutual TLS
with three files and no word for plaintext, or plaintext by request, without a file, and only on the local host.
Main statement: `plaintext_only_by_request`.
-/
namespace VoterSession

/-! ### The local host -/

namespace Network

def IpAddress.OfLocalHost : IpAddress → Prop
  | .v4 address => address.a = 127
  | .v6 address => address.groups = [0, 0, 0, 0, 0, 0, 0, 1]

theorem IpAddress.isLoopback_iff {address : IpAddress} : address.isLoopback = true ↔ address.OfLocalHost := by
  cases address with
  | v4 address => exact beq_iff_eq
  | v6 address => exact beq_iff_eq

def SocketAddress.ip : SocketAddress → IpAddress
  | .v4 address _ => .v4 address
  | .v6 address _ _ => .v6 address

theorem SocketAddress.isLoopback_iff {address : SocketAddress} :
    address.isLoopback = true ↔ address.ip.OfLocalHost := by
  cases address with
  | v4 address => exact @IpAddress.isLoopback_iff (.v4 address)
  | v6 address => exact @IpAddress.isLoopback_iff (.v6 address)

/-- The host of the address, without brackets, is the local host by its name or by one of its numbers. -/
def HttpUri.LeadsHome (uri : HttpUri) : Prop :=
  (bare uri.host).map Char.toLower = "localhost".toList ∨
    ∃ address, IpAddress.ofChars? (bare uri.host) = some address ∧ address.OfLocalHost

theorem HttpUri.isLoopback_iff {uri : HttpUri} : uri.isLoopback = true ↔ uri.LeadsHome := by
  simp only [isLoopback, LeadsHome, Bool.or_eq_true, beq_iff_eq, Option.any_eq_true, IpAddress.isLoopback_iff]

end Network

namespace Config

/-! ### Servers -/

namespace ServerConfig

variable {source : Source}

/-- The address that a server is told to listen on, or the standard one when it is told none. -/
def ListensOn (source : Source) (bind : Network.SocketAddress) : Prop :=
  ∃ text, (Given (source .bind) text ∨ Blank (source .bind) ∧ text = "127.0.0.1:50061") ∧
    Network.SocketAddress.ofChars? (Text.trim text.toList) = some bind

theorem text_of_standard {value? : Option String} {standard text : String} :
    (nonBlank value?).getD standard = text ↔ Given value? text ∨ Blank value? ∧ text = standard := by
  rw [← nonBlank_eq_some_iff, ← nonBlank_eq_none_iff]
  cases nonBlank value? <;> simp [eq_comm]

theorem bindAddress_eq_ok_iff {bind : Network.SocketAddress} :
    bindAddress source = .ok bind ↔ ListensOn source bind := by
  have listens : ListensOn source bind ↔
      Network.SocketAddress.ofChars? (Text.trim ((nonBlank (source .bind)).getD standardBind).toList) = some bind := by
    simp only [ListensOn, ← text_of_standard, exists_eq_left']
    rfl
  rw [listens, bindAddress]
  split <;> simp [*]

inductive Granted (source : Source) (bind : Network.SocketAddress) : ServerTransport → Prop
  | mutualTls {cert key clientCa : String} (hcert : Given (source .tlsCert) cert) (hkey : Given (source .tlsKey) key)
      (hca : Given (source .tlsClientCa) clientCa) (off : SwitchedOff (source .insecurePlaintext)) :
      Granted source bind (.mutualTls { cert, key, clientCa })
  | plaintext (hcert : Blank (source .tlsCert)) (hkey : Blank (source .tlsKey)) (hca : Blank (source .tlsClientCa))
      (on : SwitchedOn (source .insecurePlaintext)) (home : bind.ip.OfLocalHost) : Granted source bind .plaintext

theorem transportFor_eq_ok_iff {bind : Network.SocketAddress} {transport : ServerTransport} :
    transportFor source bind = .ok transport ↔ Granted source bind transport := by
  constructor
  · intro h
    obtain ⟨files, hfiles, h⟩ := bind_eq_ok_iff.1 h
    obtain ⟨on, hflag, h⟩ := bind_eq_ok_iff.1 h
    have files_given := paths_eq_ok_iff.1 hfiles
    have flag_given := flag_eq_ok_iff.1 hflag
    match files, on with
    | some (cert, key, clientCa), false =>
      cases h
      exact .mutualTls files_given.1 files_given.2.1 files_given.2.2 flag_given
    | some _, true => cases h
    | none, true =>
      dsimp only at h
      split at h <;> cases h
      exact .plaintext files_given.1 files_given.2.1 files_given.2.2 flag_given
        (Network.SocketAddress.isLoopback_iff.1 ‹_›)
    | none, false => cases h
  · rintro (⟨hcert, hkey, hca, off⟩ | ⟨hcert, hkey, hca, on, home⟩)
    · refine bind_eq_ok_iff.2 ⟨some (_, _, _), paths_eq_ok_iff.2 ⟨hcert, hkey, hca⟩, ?_⟩
      exact bind_eq_ok_iff.2 ⟨false, flag_eq_ok_iff.2 off, rfl⟩
    · refine bind_eq_ok_iff.2 ⟨none, paths_eq_ok_iff.2 ⟨hcert, hkey, hca⟩, ?_⟩
      refine bind_eq_ok_iff.2 ⟨true, flag_eq_ok_iff.2 on, ?_⟩
      exact if_pos (Network.SocketAddress.isLoopback_iff.2 home)

theorem ofSource_eq_ok_iff {config : ServerConfig} :
    ofSource source = .ok config ↔
      ListensOn source config.bind ∧ Granted source config.bind config.transport ∧
        storeBackend source = .ok config.backend ∧ retryPolicy source = .ok config.store ∧
        serviceWindow source = .ok config.window := by
  rw [← bindAddress_eq_ok_iff, ← transportFor_eq_ok_iff]
  constructor
  · intro h
    obtain ⟨bind, hbind, h⟩ := bind_eq_ok_iff.1 h
    obtain ⟨transport, htransport, h⟩ := bind_eq_ok_iff.1 h
    obtain ⟨backend, hbackend, h⟩ := bind_eq_ok_iff.1 h
    obtain ⟨store, hstore, h⟩ := bind_eq_ok_iff.1 h
    obtain ⟨window, hwindow, h⟩ := bind_eq_ok_iff.1 h
    cases h
    exact ⟨hbind, htransport, hbackend, hstore, hwindow⟩
  · rintro ⟨hbind, htransport, hbackend, hstore, hwindow⟩
    refine bind_eq_ok_iff.2 ⟨_, hbind, bind_eq_ok_iff.2 ⟨_, htransport, ?_⟩⟩
    refine bind_eq_ok_iff.2 ⟨_, hbackend, bind_eq_ok_iff.2 ⟨_, hstore, ?_⟩⟩
    exact bind_eq_ok_iff.2 ⟨_, hwindow, rfl⟩

end ServerConfig

/-! ### Front ends -/

namespace ClientConfig

variable {source : Source}

def Calls (source : Source) (endpoint : String) : Prop :=
  (Blank (source .endpoint) ∧ endpoint = "http://127.0.0.1:50061") ∨
    ∃ value, Given (source .endpoint) value ∧ endpoint = Text.trimmed value ∧
      ("http://".toList <+: endpoint.toList ∨ "https://".toList <+: endpoint.toList)

theorem endpointFor_eq_ok_iff {endpoint : String} : endpointFor source = .ok endpoint ↔ Calls source endpoint := by
  simp only [Calls, ← nonBlank_eq_none_iff, ← nonBlank_eq_some_iff]
  cases hvalue : nonBlank (source .endpoint) with
  | none => simp [endpointFor, hvalue, standard, eq_comm]
  | some value =>
    have reading : endpointFor source = if (isHttp (Text.trimmed value) || isHttps (Text.trimmed value)) = true then
        .ok (Text.trimmed value) else .error (.invalidVar .endpoint "must start with http:// or https://") := by
      simp only [endpointFor, hvalue]
    have schemes : (isHttp (Text.trimmed value) || isHttps (Text.trimmed value)) = true ↔
        "http://".toList <+: (Text.trimmed value).toList ∨ "https://".toList <+: (Text.trimmed value).toList := by
      rw [Bool.or_eq_true, isHttp, isHttps, List.isPrefixOf_iff_prefix, List.isPrefixOf_iff_prefix]
    rw [reading]
    simp only [schemes, reduceCtorEq, false_and, Option.some.injEq, exists_eq_left', false_or]
    constructor
    · intro h
      split at h <;> cases h
      exact ⟨rfl, ‹_›⟩
    · rintro ⟨rfl, schemed⟩
      exact if_pos schemed

def LeadsHome (endpoint : String) : Prop := ∃ uri, Network.HttpUri.ofText? endpoint = some uri ∧ uri.LeadsHome

theorem isLoopback_iff {endpoint : String} : isLoopback endpoint = true ↔ LeadsHome endpoint := by
  simp only [isLoopback, LeadsHome, Option.any_eq_true, Network.HttpUri.isLoopback_iff]

inductive Granted (source : Source) (endpoint : String) : ClientTransport → Prop
  | mutualTls {ca cert key : String} (hca : Given (source .clientCa) ca) (hcert : Given (source .clientCert) cert)
      (hkey : Given (source .clientKey) key) (off : SwitchedOff (source .insecurePlaintext))
      (https : "https://".toList <+: endpoint.toList) : Granted source endpoint (.mutualTls { ca, cert, key })
  | plaintext (hca : Blank (source .clientCa)) (hcert : Blank (source .clientCert)) (hkey : Blank (source .clientKey))
      (on : SwitchedOn (source .insecurePlaintext)) (home : LeadsHome endpoint) : Granted source endpoint .plaintext

theorem transportFor_eq_ok_iff {endpoint : String} {transport : ClientTransport} :
    transportFor source endpoint = .ok transport ↔ Granted source endpoint transport := by
  constructor
  · intro h
    obtain ⟨files, hfiles, h⟩ := bind_eq_ok_iff.1 h
    obtain ⟨on, hflag, h⟩ := bind_eq_ok_iff.1 h
    have files_given := paths_eq_ok_iff.1 hfiles
    have flag_given := flag_eq_ok_iff.1 hflag
    match files, on with
    | some (ca, cert, key), false =>
      dsimp only at h
      split at h <;> cases h
      exact .mutualTls files_given.1 files_given.2.1 files_given.2.2 flag_given (List.isPrefixOf_iff_prefix.1 ‹_›)
    | some _, true => cases h
    | none, true =>
      dsimp only at h
      split at h <;> cases h
      exact .plaintext files_given.1 files_given.2.1 files_given.2.2 flag_given (isLoopback_iff.1 ‹_›)
    | none, false => cases h
  · rintro (⟨hca, hcert, hkey, off, https⟩ | ⟨hca, hcert, hkey, on, home⟩)
    · refine bind_eq_ok_iff.2 ⟨some (_, _, _), paths_eq_ok_iff.2 ⟨hca, hcert, hkey⟩, ?_⟩
      refine bind_eq_ok_iff.2 ⟨false, flag_eq_ok_iff.2 off, ?_⟩
      exact if_pos (List.isPrefixOf_iff_prefix.2 https)
    · refine bind_eq_ok_iff.2 ⟨none, paths_eq_ok_iff.2 ⟨hca, hcert, hkey⟩, ?_⟩
      refine bind_eq_ok_iff.2 ⟨true, flag_eq_ok_iff.2 on, ?_⟩
      exact if_pos (isLoopback_iff.2 home)

/-- A server name is used without blanks at its ends, and only if it is not blank. -/
def serverNameFor (source : Source) : Option String := (nonBlank (source .serverName)).map Text.trimmed

theorem ofSource_eq_ok_iff {config : ClientConfig} :
    ofSource source = .ok config ↔
      Calls source config.endpoint ∧ Granted source config.endpoint config.transport ∧
        config.serverName = serverNameFor source ∧
        numberOr source .requestTimeout 1 maxTimeout standard.requestTimeout = .ok config.requestTimeout ∧
        numberOr source .connectTimeout 1 maxTimeout standard.connectTimeout = .ok config.connectTimeout ∧
        stageTtls source = .ok config.ttls ∧ completionFor source = .ok config.voteCompletion := by
  rw [← endpointFor_eq_ok_iff, ← transportFor_eq_ok_iff]
  constructor
  · intro h
    obtain ⟨endpoint, hendpoint, h⟩ := bind_eq_ok_iff.1 h
    obtain ⟨transport, htransport, h⟩ := bind_eq_ok_iff.1 h
    obtain ⟨requestTimeout, hrequest, h⟩ := bind_eq_ok_iff.1 h
    obtain ⟨connectTimeout, hconnect, h⟩ := bind_eq_ok_iff.1 h
    obtain ⟨ttls, httls, h⟩ := bind_eq_ok_iff.1 h
    obtain ⟨completion, hcompletion, h⟩ := bind_eq_ok_iff.1 h
    cases h
    exact ⟨hendpoint, htransport, rfl, hrequest, hconnect, httls, hcompletion⟩
  · rintro ⟨hendpoint, htransport, hname, hrequest, hconnect, httls, hcompletion⟩
    refine bind_eq_ok_iff.2 ⟨_, hendpoint, bind_eq_ok_iff.2 ⟨_, htransport, ?_⟩⟩
    refine bind_eq_ok_iff.2 ⟨_, hrequest, bind_eq_ok_iff.2 ⟨_, hconnect, ?_⟩⟩
    refine bind_eq_ok_iff.2 ⟨_, httls, bind_eq_ok_iff.2 ⟨_, hcompletion, ?_⟩⟩
    cases config
    cases hname
    rfl

end ClientConfig

/-! ### No plaintext by accident -/

theorem exists_error {ε α : Type} {outcome : Except ε α} (never : ∀ a, outcome ≠ .ok a) :
    ∃ failure, outcome = .error failure := by
  cases outcome with
  | ok a => exact absurd rfl (never a)
  | error failure => exact ⟨failure, rfl⟩

/-- A configuration has the transport that its settings grant, and settings that grant none have no configuration. -/
theorem plaintext_only_by_request (source : Source) :
    (∀ config : ServerConfig, ServerConfig.ofSource source = .ok config ↔
      ServerConfig.ListensOn source config.bind ∧ ServerConfig.Granted source config.bind config.transport ∧
        ServerConfig.storeBackend source = .ok config.backend ∧ ServerConfig.retryPolicy source = .ok config.store ∧
        ServerConfig.serviceWindow source = .ok config.window) ∧
    ((∀ bind transport, ServerConfig.ListensOn source bind → ¬ServerConfig.Granted source bind transport) →
      ∃ failure, ServerConfig.ofSource source = .error failure) ∧
    (∀ config : ClientConfig, ClientConfig.ofSource source = .ok config ↔
      ClientConfig.Calls source config.endpoint ∧ ClientConfig.Granted source config.endpoint config.transport ∧
        config.serverName = ClientConfig.serverNameFor source ∧
        numberOr source .requestTimeout 1 maxTimeout 5000 = .ok config.requestTimeout ∧
        numberOr source .connectTimeout 1 maxTimeout 2000 = .ok config.connectTimeout ∧
        ClientConfig.stageTtls source = .ok config.ttls ∧ ClientConfig.completionFor source = .ok config.voteCompletion) ∧
    ((∀ endpoint transport, ClientConfig.Calls source endpoint → ¬ClientConfig.Granted source endpoint transport) →
      ∃ failure, ClientConfig.ofSource source = .error failure) := by
  refine ⟨fun _ => ServerConfig.ofSource_eq_ok_iff, ?_, fun _ => ClientConfig.ofSource_eq_ok_iff, ?_⟩
  · intro ungranted
    refine exists_error fun config h => ?_
    obtain ⟨listens, granted, _⟩ := ServerConfig.ofSource_eq_ok_iff.1 h
    exact ungranted _ _ listens granted
  · intro ungranted
    refine exists_error fun config h => ?_
    obtain ⟨calls, granted, _⟩ := ClientConfig.ofSource_eq_ok_iff.1 h
    exact ungranted _ _ calls granted

def atHome : Source
  | .bind => some " [::1]:50061"
  | .insecurePlaintext => some "Yes "
  | .storeBackend => some "memory"
  | _ => none

def toAnyone : Source
  | .bind => some "0.0.0.0:50061"
  | .endpoint => some "http://10.0.0.4:50061"
  | setting => atHome setting

/-- Mutual TLS at both ends, and a store cluster of two members. -/
def identified : Source
  | .bind => some "0.0.0.0:50061"
  | .tlsCert => some "/etc/collector/server.pem"
  | .tlsKey => some "/etc/collector/server.key"
  | .tlsClientCa => some "/etc/collector/front-ends.pem"
  | .etcdEndpoints => some "10.0.0.5:2379, 10.0.0.6:2379,"
  | .etcdConnectTimeout => some "1500"
  | .endpoint => some " https://sessionstatus.internal:50061"
  | .serverName => some "sessionstatus "
  | .clientCa => some "/etc/collector/ca.pem"
  | .clientCert => some "/etc/collector/client.pem"
  | .clientKey => some "/etc/collector/client.key"
  | _ => none

def identifiedServer : ServerConfig where
  bind := .v4 ⟨0, 0, 0, 0⟩ 50061
  transport := .mutualTls
    ⟨"/etc/collector/server.pem", "/etc/collector/server.key", "/etc/collector/front-ends.pem"⟩
  backend := .etcd ⟨["10.0.0.5:2379", "10.0.0.6:2379"], 1500, none⟩
  store := .standard
  window := .always

def identifiedFrontEnd : ClientConfig where
  endpoint := "https://sessionstatus.internal:50061"
  serverName := some "sessionstatus"
  transport := .mutualTls ⟨"/etc/collector/ca.pem", "/etc/collector/client.pem", "/etc/collector/client.key"⟩

theorem plaintext_at_home :
    (∃ config, ServerConfig.ofSource atHome = .ok config ∧ config.transport = .plaintext) ∧
    (∃ config, ClientConfig.ofSource atHome = .ok config ∧ config.transport = .plaintext) ∧
    (∃ failure, ServerConfig.ofSource toAnyone = .error failure) ∧
    (∃ failure, ClientConfig.ofSource toAnyone = .error failure) ∧
    ServerConfig.ofSource identified = .ok identifiedServer ∧
    ClientConfig.ofSource identified = .ok identifiedFrontEnd := by
  obtain ⟨served, _, called, _⟩ := plaintext_only_by_request atHome
  obtain ⟨_, unserved, _, uncalled⟩ := plaintext_only_by_request toAnyone
  obtain ⟨servedTls, _, calledTls, _⟩ := plaintext_only_by_request identified
  refine ⟨?_, ?_, ?_, ?_, ?_, ?_⟩
  · let config : ServerConfig := ⟨.v6 ⟨[0, 0, 0, 0, 0, 0, 0, 1], rfl⟩ 0 50061, .plaintext, .memory, .standard, .always⟩
    have listens : ServerConfig.ListensOn atHome config.bind := ServerConfig.bindAddress_eq_ok_iff.1 rfl
    have granted : ServerConfig.Granted atHome config.bind .plaintext := ServerConfig.transportFor_eq_ok_iff.1 rfl
    exact ⟨config, (served config).2 ⟨listens, granted, rfl, rfl, rfl⟩, rfl⟩
  · have calls : ClientConfig.Calls atHome ClientConfig.standard.endpoint := ClientConfig.endpointFor_eq_ok_iff.1 rfl
    have granted : ClientConfig.Granted atHome ClientConfig.standard.endpoint .plaintext :=
      ClientConfig.transportFor_eq_ok_iff.1 rfl
    exact ⟨.standard, (called .standard).2 ⟨calls, granted, rfl, rfl, rfl, rfl, rfl⟩, rfl⟩
  · refine unserved fun bind transport listens granted => ?_
    have address : ServerConfig.bindAddress toAnyone = .ok (.v4 ⟨0, 0, 0, 0⟩ 50061) := rfl
    cases address.symm.trans (ServerConfig.bindAddress_eq_ok_iff.2 listens)
    cases ServerConfig.transportFor_eq_ok_iff.2 granted
  · refine uncalled fun endpoint transport calls granted => ?_
    have address : ClientConfig.endpointFor toAnyone = .ok "http://10.0.0.4:50061" := rfl
    cases address.symm.trans (ClientConfig.endpointFor_eq_ok_iff.2 calls)
    cases ClientConfig.transportFor_eq_ok_iff.2 granted
  · have listens : ServerConfig.ListensOn identified identifiedServer.bind := ServerConfig.bindAddress_eq_ok_iff.1 rfl
    have granted : ServerConfig.Granted identified identifiedServer.bind identifiedServer.transport :=
      ServerConfig.transportFor_eq_ok_iff.1 rfl
    exact (servedTls identifiedServer).2 ⟨listens, granted, rfl, rfl, rfl⟩
  · have calls : ClientConfig.Calls identified identifiedFrontEnd.endpoint := ClientConfig.endpointFor_eq_ok_iff.1 rfl
    have opened : ClientConfig.transportFor identified "https://sessionstatus.internal:50061" =
        .ok identifiedFrontEnd.transport := rfl
    have granted := ClientConfig.transportFor_eq_ok_iff.1 opened
    exact (calledTls identifiedFrontEnd).2 ⟨calls, granted, rfl, rfl, rfl, rfl, rfl⟩

end Config

end VoterSession
