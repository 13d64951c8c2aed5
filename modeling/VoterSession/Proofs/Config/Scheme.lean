import VoterSession.Config.Open
import VoterSession.Proofs.Config.Builder
set_option autoImplicit false

/-!
The scheme of an accepted endpoint beside its transport. Mutual TLS asks for `https://`, but plaintext asks only where
the endpoint leads: an `https://` endpoint on the local host is accepted for plaintext, and its channel is opened
without TLS. Everything else that is accepted fits. Main statement: `scheme_fits_but_for_secure_home`.
-/
namespace VoterSession.Config.ClientConfig

/-- The endpoints of mutual TLS start with `https://`, and those of plaintext with `http://`. -/
def SchemeFits (config : ClientConfig) : Prop :=
  ((∃ paths, config.transport = .mutualTls paths) ↔ "https://".toList <+: config.endpoint.toList) ∧
    (config.transport = .plaintext ↔ "http://".toList <+: config.endpoint.toList)

theorem schemes_apart {endpoint : List Char} (http : "http://".toList <+: endpoint) :
    ¬"https://".toList <+: endpoint := by
  rintro ⟨rest, rfl⟩
  revert http
  simp

variable {source : Source} {config : ClientConfig}

theorem Calls.scheme {endpoint : String} (calls : Calls source endpoint) :
    "http://".toList <+: endpoint.toList ∨ "https://".toList <+: endpoint.toList := by
  obtain ⟨_, rfl⟩ | ⟨value, _, _, scheme⟩ := calls
  · exact .inl (by decide)
  · exact scheme

theorem http_iff_not_https {endpoint : String}
    (scheme : "http://".toList <+: endpoint.toList ∨ "https://".toList <+: endpoint.toList) :
    "http://".toList <+: endpoint.toList ↔ ¬"https://".toList <+: endpoint.toList :=
  ⟨schemes_apart, scheme.resolve_right⟩

theorem schemeFits_of_mutualTls {paths : ClientTlsPaths} (tls : config.transport = .mutualTls paths)
    (https : "https://".toList <+: config.endpoint.toList) : SchemeFits config := by
  refine ⟨⟨fun _ => https, fun _ => ⟨paths, tls⟩⟩, ?_⟩
  rw [tls]
  exact ⟨nofun, fun http => absurd https (schemes_apart http)⟩

theorem schemeFits_iff_of_plaintext (plaintext : config.transport = .plaintext)
    (scheme : "http://".toList <+: config.endpoint.toList ∨ "https://".toList <+: config.endpoint.toList) :
    SchemeFits config ↔ ¬"https://".toList <+: config.endpoint.toList := by
  rw [SchemeFits, plaintext, http_iff_not_https scheme]
  simp

theorem connectLazy_of_plaintext (plaintext : config.transport = .plaintext) (home : LeadsHome config.endpoint)
    (disk : Disk) : ∃ uri, connectLazy disk config = .ok { uri, tls := none } := by
  obtain ⟨uri, read, _⟩ := home
  refine ⟨uri, ?_⟩
  rw [connectLazy, read, plaintext]
  rfl

/-- The scheme of every accepted endpoint fits its transport, unless plaintext is switched on for an endpoint that
starts with `https://`. Such an endpoint is on the local host, and its channel is opened without TLS all the same. -/
theorem scheme_fits_but_for_secure_home (source : Source) (config : ClientConfig)
    (built : ofSource source = .ok config) :
    (∀ paths, config.transport = .mutualTls paths → "https://".toList <+: config.endpoint.toList) ∧
    ("http://".toList <+: config.endpoint.toList → config.transport = .plaintext) ∧
    (SchemeFits config ↔
      ¬(SwitchedOn (source .insecurePlaintext) ∧ "https://".toList <+: config.endpoint.toList)) ∧
    (¬SchemeFits config →
      LeadsHome config.endpoint ∧ ∀ disk, ∃ uri, connectLazy disk config = .ok { uri, tls := none }) := by
  obtain ⟨calls, granted, _⟩ := ofSource_eq_ok_iff.1 built
  generalize same : config.transport = transport at granted
  cases granted with
  | mutualTls _ _ _ off https =>
    have fits := schemeFits_of_mutualTls same https
    refine ⟨fun _ _ => https, fun http => absurd https (schemes_apart http), ?_, fun misfit => absurd fits misfit⟩
    exact iff_of_true fits fun ⟨on, _⟩ => on.not_off off
  | plaintext _ _ _ on home =>
    -- the grant says where the endpoint leads and nothing of its scheme
    have fits := schemeFits_iff_of_plaintext same calls.scheme
    refine ⟨nofun, fun _ => rfl, ?_, fun _ => ⟨home, connectLazy_of_plaintext same home⟩⟩
    rw [fits]
    exact not_congr ⟨fun https => ⟨on, https⟩, And.right⟩

def certified : Source
  | .endpoint => some "https://sessionstatus.internal:50061"
  | .clientCa => some "/etc/collector/ca.pem"
  | .clientCert => some "/etc/collector/client.pem"
  | .clientKey => some "/etc/collector/client.key"
  | _ => none

theorem certified_scheme_fits : ∃ config, ofSource certified = .ok config ∧ SchemeFits config := by
  let config : ClientConfig := {
    endpoint := "https://sessionstatus.internal:50061"
    transport := .mutualTls ⟨"/etc/collector/ca.pem", "/etc/collector/client.pem", "/etc/collector/client.key"⟩ }
  have built : ofSource certified = .ok config := rfl
  obtain ⟨_, _, fits, _⟩ := scheme_fits_but_for_secure_home certified config built
  refine ⟨config, built, fits.2 ?_⟩
  rintro ⟨⟨value, set, _⟩, _⟩
  cases set

def secureHome : Source
  | .endpoint => some "https://localhost"
  | .insecurePlaintext => some "1"
  | _ => none

theorem plaintext_to_secure_home :
    ofSource secureHome = .ok { endpoint := "https://localhost" } ∧
      ¬SchemeFits { endpoint := "https://localhost" } := by
  refine ⟨rfl, fun fits => ?_⟩
  have http : "http://".toList <+: "https://localhost".toList := fits.2.1 rfl
  revert http
  decide

end VoterSession.Config.ClientConfig
