import VoterSession.Proofs.Config.Builder
import VoterSession.Proofs.Session.Spelling
set_option autoImplicit false

/-!
The numbers of a configuration. Each is the value of its text, within its range, or its standard when it is not
set, and a type that checks the same bounds once more finds nothing to refuse: the only broken contract that a
builder reports is a window that ends before it starts. Main statement: `numbers_exact_or_refused`.
-/
namespace VoterSession

/-! ### The second checks -/

theorem RetryPolicy.ofNumbers_self (policy : RetryPolicy) :
    ofNumbers policy.opTimeout policy.maxRetries policy.backoff = .ok policy := by
  have timeout_ok : 1 ≤ policy.opTimeout ∧ policy.opTimeout ≤ maxOpTimeout := ⟨policy.opTimeout_pos, policy.opTimeout_le⟩
  have retries_ok : policy.maxRetries ≤ maxMaxRetries := policy.maxRetries_le
  have backoff_ok : policy.backoff ≤ maxBackoff := policy.backoff_le
  rw [ofNumbers, dif_pos timeout_ok, dif_pos retries_ok, dif_pos backoff_ok]

theorem RetryPolicy.ofNumbers_within {opTimeout maxRetries backoff : Nat}
    (timeout_ok : 1 ≤ opTimeout ∧ opTimeout ≤ 60000) (retries_ok : maxRetries ≤ 10) (backoff_ok : backoff ≤ 10000) :
    ofNumbers opTimeout maxRetries backoff =
      .ok ⟨opTimeout, maxRetries, backoff, timeout_ok.1, timeout_ok.2, retries_ok, backoff_ok⟩ :=
  ofNumbers_self ⟨opTimeout, maxRetries, backoff, timeout_ok.1, timeout_ok.2, retries_ok, backoff_ok⟩

theorem ServiceWindow.ofBounds_self (window : ServiceWindow) :
    ofBounds window.notBefore window.notAfter = .ok window := dif_pos window.ordered

theorem ServiceWindow.ofBounds_eq_error_iff {notBefore notAfter : Option Nat} {violation : Violation} :
    ofBounds notBefore notAfter = .error violation ↔
      (∃ start stop, notBefore = some start ∧ notAfter = some stop ∧ stop ≤ start) ∧
        violation = .invalidValue "service_window" "not_before must be earlier than not_after" := by
  have disordered : ¬Ordered notBefore notAfter ↔
      ∃ start stop, notBefore = some start ∧ notAfter = some stop ∧ stop ≤ start := by
    cases notBefore <;> cases notAfter <;> simp [Ordered]
  rw [← disordered, ofBounds]
  split <;> simp [*, eq_comm]

theorem StageTtls.ofSeconds_self (ttls : StageTtls) :
    ofSeconds ttls.auth.seconds ttls.choice.seconds ttls.vote.seconds ttls.verify.seconds = .ok ttls := by
  simp only [ofSeconds, Ttl.ofSeconds_seconds]
  rfl

theorem StageTtls.ofSeconds_within {auth choice vote verify : Nat} (auth_ok : 1 ≤ auth ∧ auth ≤ 86400)
    (choice_ok : 1 ≤ choice ∧ choice ≤ 86400) (vote_ok : 1 ≤ vote ∧ vote ≤ 86400)
    (verify_ok : 1 ≤ verify ∧ verify ≤ 86400) :
    ofSeconds auth choice vote verify = .ok
      { auth := ⟨auth, auth_ok.1, auth_ok.2⟩, choice := ⟨choice, choice_ok.1, choice_ok.2⟩
        vote := ⟨vote, vote_ok.1, vote_ok.2⟩, verify := ⟨verify, verify_ok.1, verify_ok.2⟩ } :=
  ofSeconds_self { auth := ⟨auth, auth_ok.1, auth_ok.2⟩, choice := ⟨choice, choice_ok.1, choice_ok.2⟩,
                   vote := ⟨vote, vote_ok.1, vote_ok.2⟩, verify := ⟨verify, verify_ok.1, verify_ok.2⟩ }

namespace Config

theorem KeepsContract.of_ok {α : Type} {check : Except Violation α} {a : α} (accepted : check = .ok a) :
    KeepsContract (check.mapError .contract) := by
  intro violation h
  rw [accepted] at h
  cases h

theorem mapError_eq_ok_iff {ε ε' α : Type} {f : ε → ε'} {outcome : Except ε α} {a : α} :
    outcome.mapError f = .ok a ↔ outcome = .ok a := by
  cases outcome with
  | error failure => exact ⟨nofun, nofun⟩
  | ok b => exact ⟨fun | rfl => rfl, fun | rfl => rfl⟩

theorem mapError_contract_iff {α : Type} {check : Except Violation α} {violation : Violation} :
    check.mapError ConfigError.contract = .error (.contract violation) ↔ check = .error violation := by
  cases check with
  | error other => exact ⟨fun | rfl => rfl, fun | rfl => rfl⟩
  | ok a => exact ⟨nofun, nofun⟩

/-! ### Servers -/

namespace ServerConfig

variable {source : Source}

theorem opTimeout_eq_ok_iff {n : Nat} :
    numberOr source .storeOpTimeout 1 RetryPolicy.maxOpTimeout RetryPolicy.standard.opTimeout = .ok n ↔
      Taken source .storeOpTimeout 1 60000 5000 n :=
  numberOr_eq_ok_iff (by decide) (by decide)

theorem maxRetries_eq_ok_iff {n : Nat} :
    numberOr source .storeMaxRetries 0 RetryPolicy.maxMaxRetries RetryPolicy.standard.maxRetries = .ok n ↔
      Taken source .storeMaxRetries 0 10 3 n :=
  numberOr_eq_ok_iff (by decide) (by decide)

theorem backoff_eq_ok_iff {n : Nat} :
    numberOr source .storeRetryBackoff 0 RetryPolicy.maxBackoff RetryPolicy.standard.backoff = .ok n ↔
      Taken source .storeRetryBackoff 0 10000 200 n :=
  numberOr_eq_ok_iff (by decide) (by decide)

theorem retryPolicy_eq_ok_iff {policy : RetryPolicy} :
    retryPolicy source = .ok policy ↔
      Taken source .storeOpTimeout 1 60000 5000 policy.opTimeout ∧
        Taken source .storeMaxRetries 0 10 3 policy.maxRetries ∧
        Taken source .storeRetryBackoff 0 10000 200 policy.backoff := by
  rw [← opTimeout_eq_ok_iff, ← maxRetries_eq_ok_iff, ← backoff_eq_ok_iff]
  constructor
  · intro h
    obtain ⟨opTimeout, htimeout, h⟩ := bind_eq_ok_iff.1 h
    obtain ⟨maxRetries, hretries, h⟩ := bind_eq_ok_iff.1 h
    obtain ⟨backoff, hbackoff, h⟩ := bind_eq_ok_iff.1 h
    have taken := RetryPolicy.ofNumbers_within (opTimeout_eq_ok_iff.1 htimeout).range
      (maxRetries_eq_ok_iff.1 hretries).range.2 (backoff_eq_ok_iff.1 hbackoff).range.2
    cases taken.symm.trans (mapError_eq_ok_iff.1 h)
    exact ⟨htimeout, hretries, hbackoff⟩
  · rintro ⟨htimeout, hretries, hbackoff⟩
    refine bind_eq_ok_iff.2 ⟨_, htimeout, bind_eq_ok_iff.2 ⟨_, hretries, bind_eq_ok_iff.2 ⟨_, hbackoff, ?_⟩⟩⟩
    exact mapError_eq_ok_iff.2 (RetryPolicy.ofNumbers_self policy)

theorem retryPolicy_keeps (source : Source) : KeepsContract (retryPolicy source) := by
  refine .bind (numberOr_keeps _ _ _ _ _) fun opTimeout htimeout => ?_
  refine .bind (numberOr_keeps _ _ _ _ _) fun maxRetries hretries => ?_
  refine .bind (numberOr_keeps _ _ _ _ _) fun backoff hbackoff => ?_
  exact .of_ok (RetryPolicy.ofNumbers_within (opTimeout_eq_ok_iff.1 htimeout).range
    (maxRetries_eq_ok_iff.1 hretries).range.2 (backoff_eq_ok_iff.1 hbackoff).range.2)

theorem serviceWindow_eq_ok_iff {window : ServiceWindow} :
    serviceWindow source = .ok window ↔
      TakenIfSet source .notBefore 0 18446744073709551615 window.notBefore ∧
        TakenIfSet source .notAfter 0 18446744073709551615 window.notAfter := by
  constructor
  · intro h
    obtain ⟨notBefore, hbefore, h⟩ := bind_eq_ok_iff.1 h
    obtain ⟨notAfter, hafter, h⟩ := bind_eq_ok_iff.1 h
    have accepted := mapError_eq_ok_iff.1 h
    unfold ServiceWindow.ofBounds at accepted
    split at accepted <;> cases accepted
    exact ⟨(number?_eq_ok_iff (by decide)).1 hbefore, (number?_eq_ok_iff (by decide)).1 hafter⟩
  · rintro ⟨hbefore, hafter⟩
    refine bind_eq_ok_iff.2 ⟨_, (number?_eq_ok_iff (by decide)).2 hbefore, ?_⟩
    refine bind_eq_ok_iff.2 ⟨_, (number?_eq_ok_iff (by decide)).2 hafter, ?_⟩
    exact mapError_eq_ok_iff.2 (ServiceWindow.ofBounds_self window)

/-- Both bounds of the window are given, and it ends no later than it starts. -/
def Empty (source : Source) : Prop :=
  ∃ start stop, TakenIfSet source .notBefore 0 18446744073709551615 (some start) ∧
    TakenIfSet source .notAfter 0 18446744073709551615 (some stop) ∧ stop ≤ start

theorem serviceWindow_eq_contract_iff {violation : Violation} :
    serviceWindow source = .error (.contract violation) ↔
      Empty source ∧ violation = .invalidValue "service_window" "not_before must be earlier than not_after" := by
  constructor
  · intro h
    obtain refused | ⟨notBefore, hbefore, h⟩ := bind_eq_error_iff.1 h
    · exact absurd refused (number?_keeps _ _ _ _ violation)
    obtain refused | ⟨notAfter, hafter, h⟩ := bind_eq_error_iff.1 h
    · exact absurd refused (number?_keeps _ _ _ _ violation)
    obtain ⟨⟨start, stop, rfl, rfl, ended⟩, reason⟩ := ServiceWindow.ofBounds_eq_error_iff.1 (mapError_contract_iff.1 h)
    exact ⟨⟨start, stop, (number?_eq_ok_iff (by decide)).1 hbefore, (number?_eq_ok_iff (by decide)).1 hafter, ended⟩,
      reason⟩
  · rintro ⟨⟨start, stop, hbefore, hafter, ended⟩, reason⟩
    refine bind_eq_error_iff.2 (.inr ⟨some start, (number?_eq_ok_iff (by decide)).2 hbefore, ?_⟩)
    refine bind_eq_error_iff.2 (.inr ⟨some stop, (number?_eq_ok_iff (by decide)).2 hafter, ?_⟩)
    exact mapError_contract_iff.2 (ServiceWindow.ofBounds_eq_error_iff.2 ⟨⟨start, stop, rfl, rfl, ended⟩, reason⟩)

theorem connectTimeout_of_cluster {settings : ClusterSettings} (h : cluster source = .ok settings) :
    Taken source .etcdConnectTimeout 1 60000 5000 settings.connectTimeout := by
  dsimp only [cluster] at h
  split at h
  · cases h
  · obtain ⟨connectTimeout, htimeout, h⟩ := bind_eq_ok_iff.1 h
    obtain ⟨files, _, h⟩ := bind_eq_ok_iff.1 h
    cases h
    exact (numberOr_eq_ok_iff (by decide) (by decide)).1 htimeout

theorem cluster_of_backend {settings : ClusterSettings} (h : storeBackend source = .ok (.etcd settings)) :
    cluster source = .ok settings := by
  have opened : (cluster source).map StoreBackend.etcd = .ok (.etcd settings) → cluster source = .ok settings := by
    cases cluster source <;> simp [Except.map]
  unfold storeBackend at h
  split at h
  · exact opened h
  · split at h
    · exact opened h
    · split at h <;> cases h

theorem bindAddress_keeps (source : Source) : KeepsContract (bindAddress source) := by
  intro violation h
  dsimp only [bindAddress] at h
  split at h <;> cases h

theorem transportFor_keeps (source : Source) (bind : Network.SocketAddress) : KeepsContract (transportFor source bind) := by
  refine .bind (paths_keeps _ _ _ _) fun files _ => .bind (flag_keeps _ _) fun plaintext _ => ?_
  intro violation h
  match files, plaintext with
  | some _, false => cases h
  | some _, true => cases h
  | none, true =>
    dsimp only at h
    split at h <;> cases h
  | none, false => cases h

theorem cluster_keeps (source : Source) : KeepsContract (cluster source) := by
  dsimp only [cluster]
  split
  · nofun
  · refine .bind (numberOr_keeps _ _ _ _ _) fun connectTimeout _ => ?_
    exact .bind (paths_keeps _ _ _ _) fun files _ => .ok _

theorem storeBackend_keeps (source : Source) : KeepsContract (storeBackend source) := by
  unfold storeBackend
  split
  · exact (cluster_keeps source).map _
  · split
    · exact (cluster_keeps source).map _
    · split
      · exact .ok _
      · nofun

theorem ofSource_eq_contract {violation : Violation} (h : ofSource source = .error (.contract violation)) :
    Empty source ∧ violation = .invalidValue "service_window" "not_before must be earlier than not_after" := by
  obtain refused | ⟨bind, _, h⟩ := bind_eq_error_iff.1 h
  · exact absurd refused (bindAddress_keeps _ violation)
  obtain refused | ⟨transport, _, h⟩ := bind_eq_error_iff.1 h
  · exact absurd refused (transportFor_keeps _ _ violation)
  obtain refused | ⟨backend, _, h⟩ := bind_eq_error_iff.1 h
  · exact absurd refused (storeBackend_keeps _ violation)
  obtain refused | ⟨store, _, h⟩ := bind_eq_error_iff.1 h
  · exact absurd refused (retryPolicy_keeps _ violation)
  obtain refused | ⟨window, _, h⟩ := bind_eq_error_iff.1 h
  · exact serviceWindow_eq_contract_iff.1 refused
  · cases h

structure Numbers (source : Source) (config : ServerConfig) : Prop where
  opTimeout : Taken source .storeOpTimeout 1 60000 5000 config.store.opTimeout
  maxRetries : Taken source .storeMaxRetries 0 10 3 config.store.maxRetries
  backoff : Taken source .storeRetryBackoff 0 10000 200 config.store.backoff
  connectTimeout : ∀ settings, config.backend = .etcd settings →
    Taken source .etcdConnectTimeout 1 60000 5000 settings.connectTimeout
  notBefore : TakenIfSet source .notBefore 0 18446744073709551615 config.window.notBefore
  notAfter : TakenIfSet source .notAfter 0 18446744073709551615 config.window.notAfter

theorem numbers_of_ok {config : ServerConfig} (h : ofSource source = .ok config) : Numbers source config := by
  obtain ⟨_, _, hbackend, hstore, hwindow⟩ := ofSource_eq_ok_iff.1 h
  obtain ⟨opTimeout, maxRetries, backoff⟩ := retryPolicy_eq_ok_iff.1 hstore
  obtain ⟨notBefore, notAfter⟩ := serviceWindow_eq_ok_iff.1 hwindow
  refine { opTimeout, maxRetries, backoff, notBefore, notAfter, connectTimeout := fun settings same => ?_ }
  exact connectTimeout_of_cluster (cluster_of_backend (same ▸ hbackend))

end ServerConfig

/-! ### Front ends -/

namespace ClientConfig

variable {source : Source}

theorem ttl_eq_ok_iff {setting : Variable} {standard : Ttl} {n : Nat} :
    numberOr source setting 1 Ttl.maxSeconds standard.seconds = .ok n ↔
      Taken source setting 1 86400 standard.seconds n :=
  numberOr_eq_ok_iff (by decide) ⟨standard.positive, standard.bounded⟩

theorem stageTtls_eq_ok_iff {ttls : StageTtls} :
    stageTtls source = .ok ttls ↔
      Taken source .authTtl 1 86400 300 ttls.auth.seconds ∧ Taken source .choiceTtl 1 86400 900 ttls.choice.seconds ∧
        Taken source .voteTtl 1 86400 900 ttls.vote.seconds ∧
        Taken source .verifyTtl 1 86400 1800 ttls.verify.seconds := by
  constructor
  · intro h
    obtain ⟨auth, hauth, h⟩ := bind_eq_ok_iff.1 h
    obtain ⟨choice, hchoice, h⟩ := bind_eq_ok_iff.1 h
    obtain ⟨vote, hvote, h⟩ := bind_eq_ok_iff.1 h
    obtain ⟨verify, hverify, h⟩ := bind_eq_ok_iff.1 h
    rw [ttl_eq_ok_iff] at hauth hchoice hvote hverify
    have taken := StageTtls.ofSeconds_within hauth.range hchoice.range hvote.range hverify.range
    cases taken.symm.trans (mapError_eq_ok_iff.1 h)
    exact ⟨hauth, hchoice, hvote, hverify⟩
  · rintro ⟨hauth, hchoice, hvote, hverify⟩
    refine bind_eq_ok_iff.2 ⟨_, ttl_eq_ok_iff.2 hauth, bind_eq_ok_iff.2 ⟨_, ttl_eq_ok_iff.2 hchoice, ?_⟩⟩
    refine bind_eq_ok_iff.2 ⟨_, ttl_eq_ok_iff.2 hvote, bind_eq_ok_iff.2 ⟨_, ttl_eq_ok_iff.2 hverify, ?_⟩⟩
    exact mapError_eq_ok_iff.2 (StageTtls.ofSeconds_self ttls)

theorem stageTtls_keeps (source : Source) : KeepsContract (stageTtls source) := by
  refine .bind (numberOr_keeps _ _ _ _ _) fun auth hauth => .bind (numberOr_keeps _ _ _ _ _) fun choice hchoice => ?_
  refine .bind (numberOr_keeps _ _ _ _ _) fun vote hvote => .bind (numberOr_keeps _ _ _ _ _) fun verify hverify => ?_
  rw [ttl_eq_ok_iff] at hauth hchoice hvote hverify
  exact .of_ok (StageTtls.ofSeconds_within hauth.range hchoice.range hvote.range hverify.range)

theorem endpointFor_keeps (source : Source) : KeepsContract (endpointFor source) := by
  intro violation h
  unfold endpointFor at h
  split at h
  · cases h
  · dsimp only at h
    split at h <;> cases h

theorem transportFor_keeps (source : Source) (endpoint : String) : KeepsContract (transportFor source endpoint) := by
  refine .bind (paths_keeps _ _ _ _) fun files _ => .bind (flag_keeps _ _) fun plaintext _ => ?_
  intro violation h
  match files, plaintext with
  | some _, false =>
    dsimp only at h
    split at h <;> cases h
  | some _, true => cases h
  | none, true =>
    dsimp only at h
    split at h <;> cases h
  | none, false => cases h

theorem completionFor_keeps (source : Source) : KeepsContract (completionFor source) := by
  intro violation h
  unfold completionFor at h
  split at h
  · cases h
  · split at h <;> cases h

theorem ofSource_keeps (source : Source) : KeepsContract (ofSource source) := by
  refine .bind (endpointFor_keeps source) fun endpoint _ => .bind (transportFor_keeps source endpoint) fun transport _ => ?_
  refine .bind (numberOr_keeps _ _ _ _ _) fun requestTimeout _ => .bind (numberOr_keeps _ _ _ _ _) fun connectTimeout _ => ?_
  exact .bind (stageTtls_keeps source) fun ttls _ => .bind (completionFor_keeps source) fun completion _ => .ok _

/-- Every workflow has a verifier, a flow on a phone without a phone's tag apart. -/
theorem verifier_eq_ok_iff {config : ClientConfig} {kind : WorkflowKind} :
    (∃ verifier, config.verifier kind = .ok verifier) ↔
      ∀ tag, kind = .mobileIdFlow tag → tag = .mobileId ∨ tag = .smartId := by
  have built : (∃ verifier, config.verifier kind = .ok verifier) ↔
      ∃ table, WorkflowTable.ofKind kind config.voteCompletion = .ok table := by
    constructor
    · rintro ⟨verifier, h⟩
      obtain ⟨table, htable, _⟩ := bind_eq_ok_iff.1 h
      exact ⟨table, mapError_eq_ok_iff.1 htable⟩
    · rintro ⟨table, h⟩
      exact ⟨_, bind_eq_ok_iff.2 ⟨table, mapError_eq_ok_iff.2 h, rfl⟩⟩
  rw [built]
  cases kind with
  | mobileIdFlow tag =>
    constructor
    · rintro ⟨table, h⟩ other same
      cases same
      by_cases phone : tag = .mobileId ∨ tag = .smartId
      · exact phone
      · rw [WorkflowTable.ofKind, if_neg phone] at h
        cases h
    · intro phone
      exact ⟨_, if_pos (phone tag rfl)⟩
  | choiceSelection => exact ⟨nofun, fun _ => ⟨_, rfl⟩⟩
  | webEid => exact ⟨nofun, fun _ => ⟨_, rfl⟩⟩
  | voteCasting => exact ⟨nofun, fun _ => ⟨_, rfl⟩⟩
  | verification => exact ⟨nofun, fun _ => ⟨_, rfl⟩⟩

structure Numbers (source : Source) (config : ClientConfig) : Prop where
  requestTimeout : Taken source .requestTimeout 1 60000 5000 config.requestTimeout
  connectTimeout : Taken source .connectTimeout 1 60000 2000 config.connectTimeout
  authTtl : Taken source .authTtl 1 86400 300 config.ttls.auth.seconds
  choiceTtl : Taken source .choiceTtl 1 86400 900 config.ttls.choice.seconds
  voteTtl : Taken source .voteTtl 1 86400 900 config.ttls.vote.seconds
  verifyTtl : Taken source .verifyTtl 1 86400 1800 config.ttls.verify.seconds

theorem numbers_of_ok {config : ClientConfig} (h : ofSource source = .ok config) : Numbers source config := by
  obtain ⟨_, _, _, hrequest, hconnect, httls, _⟩ := ofSource_eq_ok_iff.1 h
  obtain ⟨authTtl, choiceTtl, voteTtl, verifyTtl⟩ := stageTtls_eq_ok_iff.1 httls
  exact { authTtl, choiceTtl, voteTtl, verifyTtl
          requestTimeout := (numberOr_eq_ok_iff (by decide) (by decide)).1 hrequest
          connectTimeout := (numberOr_eq_ok_iff (by decide) (by decide)).1 hconnect }

end ClientConfig

/-! ### Both configurations -/

/-- What a builder returns has every number as it was set, and passes each check a second time; and the only broken
contract that a builder reports is an empty window. -/
theorem numbers_exact_or_refused (source : Source) :
    (∀ config, ServerConfig.ofSource source = .ok config →
      ServerConfig.Numbers source config ∧
      RetryPolicy.ofNumbers config.store.opTimeout config.store.maxRetries config.store.backoff = .ok config.store ∧
      ServiceWindow.ofBounds config.window.notBefore config.window.notAfter = .ok config.window) ∧
    (∀ violation, ServerConfig.ofSource source = .error (.contract violation) →
      ServerConfig.Empty source ∧
      violation = .invalidValue "service_window" "not_before must be earlier than not_after") ∧
    (∀ config, ClientConfig.ofSource source = .ok config →
      ClientConfig.Numbers source config ∧
      StageTtls.ofSeconds config.ttls.auth.seconds config.ttls.choice.seconds config.ttls.vote.seconds
        config.ttls.verify.seconds = .ok config.ttls ∧
      ∀ kind, (∃ verifier, config.verifier kind = .ok verifier) ↔
        ∀ tag, kind = .mobileIdFlow tag → tag = .mobileId ∨ tag = .smartId) ∧
    (∀ violation, ClientConfig.ofSource source ≠ .error (.contract violation)) ∧
    (∀ violation, ServerConfig.retryPolicy source ≠ .error (.contract violation)) ∧
    (∀ violation, ClientConfig.stageTtls source ≠ .error (.contract violation)) := by
  refine ⟨fun config built => ⟨ServerConfig.numbers_of_ok built, ?_, ?_⟩, ?_, ?_, ?_, ?_, ?_⟩
  · exact RetryPolicy.ofNumbers_self config.store
  · exact ServiceWindow.ofBounds_self config.window
  · exact fun violation => ServerConfig.ofSource_eq_contract
  · intro config built
    exact ⟨ClientConfig.numbers_of_ok built, StageTtls.ofSeconds_self config.ttls,
      fun kind => ClientConfig.verifier_eq_ok_iff⟩
  · exact ClientConfig.ofSource_keeps source
  · exact ServerConfig.retryPolicy_keeps source
  · exact ClientConfig.stageTtls_keeps source

/-- A local port with a short timeout, no repetition and a window of four seconds. -/
def tuned : Source
  | .storeOpTimeout => some " +250 "
  | .storeMaxRetries => some "000"
  | .notBefore => some "5"
  | .notAfter => some "9"
  | .authTtl => some "86400"
  | setting => atHome setting

def neverOpen : Source
  | .notBefore => some "9"
  | .notAfter => some "9"
  | setting => atHome setting

theorem tuned_numbers :
    (∃ config, ServerConfig.ofSource tuned = .ok config ∧ ServerConfig.Numbers tuned config ∧
      config.store.opTimeout = 250 ∧ config.store.backoff = 200 ∧ config.window.notAfter = some 9) ∧
    (ServerConfig.ofSource identified = .ok identifiedServer ∧ ServerConfig.Numbers identified identifiedServer ∧
      ∃ cluster, identifiedServer.backend = .etcd cluster ∧ cluster.connectTimeout = 1500) ∧
    ServerConfig.Empty neverOpen ∧
    ∃ config, ClientConfig.ofSource tuned = .ok config ∧ ClientConfig.Numbers tuned config ∧
      config.ttls.auth.seconds = 86400 ∧ (∃ verifier, config.verifier (.mobileIdFlow .smartId) = .ok verifier) ∧
      ¬∃ verifier, config.verifier (.mobileIdFlow .webEid) = .ok verifier := by
  obtain ⟨served, _, called, _⟩ := numbers_exact_or_refused tuned
  refine ⟨?_, ?_, ?_, ?_⟩
  · let config : ServerConfig := ⟨.v6 ⟨[0, 0, 0, 0, 0, 0, 0, 1], rfl⟩ 0 50061, .plaintext, .memory,
      { opTimeout := 250, maxRetries := 0 }, { notBefore := some 5, notAfter := some 9, ordered := by decide }⟩
    have built : ServerConfig.ofSource tuned = .ok config := rfl
    exact ⟨config, built, (served config built).1, rfl, rfl, rfl⟩
  · have built : ServerConfig.ofSource identified = .ok identifiedServer := rfl
    exact ⟨built, ((numbers_exact_or_refused identified).1 identifiedServer built).1, _, rfl, rfl⟩
  · exact ((numbers_exact_or_refused neverOpen).2.1 _ rfl).1
  · let config : ClientConfig := { ttls := { auth := ⟨86400, by decide, by decide⟩ } }
    have built : ClientConfig.ofSource tuned = .ok config := rfl
    obtain ⟨numbers, _, verifiers⟩ := called config built
    refine ⟨config, built, numbers, rfl, (verifiers _).2 ?_, fun exists_one => ?_⟩
    · rintro _ ⟨⟩
      exact .inr rfl
    · obtain phone | phone := (verifiers _).1 exists_one _ rfl <;> cases phone

end Config

end VoterSession
