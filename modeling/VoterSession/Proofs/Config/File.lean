import VoterSession.Config.File
import VoterSession.Proofs.Config.Number
import VoterSession.Proofs.Text.Separated
set_option autoImplicit false

/-!
The settings of a file on their way into a configuration. Each becomes the text that an environment variable would
hold and is read again from there: a number comes back as it was, a truth value too, and a list of endpoints without
the blanks in it. Main statement: `file_settings_kept`.
-/
namespace VoterSession

theorem VoteCompletion.trimmed_of_ofText? {s : String} {completion : VoteCompletion} (h : ofText? s = some completion) :
    Text.trimmed s = completion.name := by
  unfold ofText? at h
  have found := List.find?_some h
  rw [beq_iff_eq] at found
  rw [← String.toList_inj, Text.toList_trimmed, found]

namespace Config

variable {source : Source} {setting : Variable}

/-! ### Values through their texts -/

theorem spells_toString {m n : Nat} : Spells (toString m) n ↔ n = m := by
  -- a bound above both numbers, so that one reader decides between them
  have within : m ≤ max m n := Nat.le_max_left m n
  have read := Text.Decimal.unsigned?_toDigits within
  rw [Spells, Text.Decimal.toList_toString, Text.Decimal.trim_toDigits]
  constructor
  · intro natural
    have same := Text.Decimal.unsigned?_eq_some_iff.2 ⟨natural, Nat.le_max_right m n⟩
    exact Option.some.inj (same.symm.trans read)
  · rintro rfl
    exact (Text.Decimal.unsigned?_eq_some_iff.1 read).1

theorem Taken.eq_getD {low high standard n : Nat} (taken : Taken source setting low high standard n)
    {given : Option Nat} (set : source setting = given.map toString) : n = given.getD standard := by
  cases given with
  | none => exact taken.unset set
  | some m => exact spells_toString.1 (taken.given _ set)

theorem TakenIfSet.eq {low high : Nat} {n? : Option Nat} (taken : TakenIfSet source setting low high n?)
    {given : Option Nat} (set : source setting = given.map toString) : n? = given := by
  cases n? with
  | none =>
    have unset : source setting = none := taken
    rw [unset] at set
    exact (Option.map_eq_none_iff.1 set.symm).symm
  | some n =>
    obtain ⟨value, hvalue, spells, _⟩ := taken
    obtain ⟨m, hm, rfl⟩ := Option.map_eq_some_iff.1 (set.symm.trans hvalue)
    rw [spells_toString.1 spells, hm]

theorem switchedOn_boolText {b? : Option Bool} : SwitchedOn (b?.map FileConfig.boolText) ↔ b? = some true := by
  constructor
  · rintro ⟨value, hvalue, on⟩
    obtain ⟨b, rfl, rfl⟩ := Option.map_eq_some_iff.1 hvalue
    cases b with
    | true => rfl
    | false => exact absurd on (by decide)
  · rintro rfl
    exact ⟨_, rfl, by decide⟩

theorem completionFor_eq_ok {completion : VoteCompletion} (h : ClientConfig.completionFor source = .ok completion) :
    completion.name = ((source .voteCompletion).map word).getD "delete" := by
  unfold ClientConfig.completionFor at h
  split at h
  · rename_i unset
    cases h
    rw [unset]
    rfl
  · rename_i value set
    split at h
    · rename_i found
      cases h
      have lowered : Text.trimmed (Text.lowered value) = word value := by
        simp only [Text.trimmed, Text.lowered, word, String.toList_ofList, Text.trim_map_toLower]
      rw [set, ← VoteCompletion.trimmed_of_ofText? found, lowered]
      rfl
    · cases h

/-! ### The endpoints of a cluster -/

namespace ServerConfig

def clusterEndpoints (source : Source) : List String := ((nonBlank (source .etcdEndpoints)).map endpointList).getD []

theorem endpointList_of_blank {text : String} (blank : ∀ c ∈ text.toList, Text.isBlank c = true) :
    endpointList text = [] := by
  have comma : ',' ∉ text.toList := fun h => absurd (blank ',' h) (by decide)
  rw [endpointList, Text.Separated.split_of_notMem ',' _ comma, List.map_singleton, Text.trim_eq_nil_iff.2 blank]
  rfl

theorem clusterEndpoints_eq (source : Source) :
    clusterEndpoints source = ((source .etcdEndpoints).map endpointList).getD [] := by
  unfold clusterEndpoints
  cases htext : source .etcdEndpoints with
  | none => rfl
  | some text =>
    -- a blank list is passed over as if it were not set, and no endpoint is lost by that
    cases hgiven : nonBlank (some text) with
    | none => exact (endpointList_of_blank (nonBlank_eq_none_iff.1 hgiven text rfl)).symm
    | some value =>
      obtain ⟨same, _⟩ := nonBlank_eq_some_iff.1 hgiven
      cases same
      rfl

theorem endpointList_commaSeparated {endpoints : List String} (clean : ∀ endpoint ∈ endpoints, ',' ∉ endpoint.toList) :
    endpointList (FileConfig.commaSeparated endpoints) = (endpoints.map Text.trimmed).filter (· ≠ "") := by
  by_cases empty : endpoints = []
  · subst empty
    rfl
  have fields :
      Text.Separated.split ',' (FileConfig.commaSeparated endpoints).toList = endpoints.map String.toList := by
    rw [FileConfig.commaSeparated, String.toList_ofList]
    refine Text.Separated.split_join ',' _ (by simpa using empty) fun field hfield => ?_
    obtain ⟨endpoint, listed, rfl⟩ := List.mem_map.1 hfield
    exact clean endpoint listed
  have counts (endpoint : String) :
      (if (Text.trim endpoint.toList).isEmpty then none else some (String.ofList (Text.trim endpoint.toList))) =
        Option.guard (fun kept => decide (kept ≠ "")) (Text.trimmed endpoint) := by
    rw [Text.trimmed]
    cases Text.trim endpoint.toList <;> simp [Option.guard]
  rw [endpointList, fields, List.map_map, List.filterMap_map, ← List.filterMap_eq_filter, List.filterMap_map]
  exact congrArg (List.filterMap · endpoints) (funext counts)

theorem endpoints_of_cluster {settings : ClusterSettings} (h : cluster source = .ok settings) :
    settings.endpoints = clusterEndpoints source := by
  dsimp only [cluster] at h
  split at h
  · cases h
  · obtain ⟨connectTimeout, _, h⟩ := bind_eq_ok_iff.1 h
    obtain ⟨files, _, h⟩ := bind_eq_ok_iff.1 h
    cases h
    rfl

theorem cluster_refuses_iff {reason : String} :
    cluster source = .error (.invalidVar .etcdEndpoints reason) ↔
      clusterEndpoints source = [] ∧
        reason = "required with the etcd store backend (or set COLLECTOR_STORE_BACKEND=memory)" := by
  dsimp only [cluster]
  split
  · rename_i empty
    constructor
    · intro h
      cases h
      exact ⟨List.isEmpty_iff.1 empty, rfl⟩
    · rintro ⟨_, rfl⟩
      rfl
  · rename_i listed
    -- what is read after the endpoints is refused in other names
    refine iff_of_false (fun h => ?_) fun ⟨empty, _⟩ => listed (List.isEmpty_iff.2 empty)
    refine Acquits.bind ((numberOr_blames _ _ _ _ _).acquits (by decide)) (fun connectTimeout => ?_) reason h
    exact .bind (paths_acquits _ _ _ _ _) fun files => nofun

theorem retryPolicy_acquits (source : Source) : Acquits .etcdEndpoints (retryPolicy source) := by
  refine .bind ((numberOr_blames _ _ _ _ _).acquits (by decide)) fun opTimeout => ?_
  refine .bind ((numberOr_blames _ _ _ _ _).acquits (by decide)) fun maxRetries => ?_
  exact .bind ((numberOr_blames _ _ _ _ _).acquits (by decide)) fun backoff => .contract _ _

theorem serviceWindow_acquits (source : Source) : Acquits .etcdEndpoints (serviceWindow source) := by
  refine .bind ((number?_blames _ _ _ _).acquits (by decide)) fun notBefore => ?_
  exact .bind ((number?_blames _ _ _ _).acquits (by decide)) fun notAfter => .contract _ _

def ChoosesCluster (source : Source) : Prop :=
  Blank (source .storeBackend) ∨ ∃ name, Given (source .storeBackend) name ∧ word name = "etcd"

theorem storeBackend_of_chosen (chosen : ChoosesCluster source) : storeBackend source = (cluster source).map .etcd := by
  unfold storeBackend
  obtain blank | ⟨name, given, same⟩ := chosen
  · rw [nonBlank_eq_none_iff.2 blank]
    rfl
  · have named : Text.lowered (Text.trimmed name) = "etcd" := same
    rw [nonBlank_eq_some_iff.2 given, Option.map_some, named]
    rfl

/-- Where all that is read before the cluster is in order, a server is refused in the name of the endpoints when the
cluster is. -/
theorem ofSource_refuses_iff {bind : Network.SocketAddress} {transport : ServerTransport}
    (listens : ListensOn source bind) (granted : Granted source bind transport) (chosen : ChoosesCluster source)
    {reason : String} :
    ofSource source = .error (.invalidVar .etcdEndpoints reason) ↔
      cluster source = .error (.invalidVar .etcdEndpoints reason) := by
  have hbind := bindAddress_eq_ok_iff.2 listens
  have htransport := transportFor_eq_ok_iff.2 granted
  have hbackend := storeBackend_of_chosen chosen
  constructor
  · intro h
    obtain refused | ⟨bind', same, h⟩ := bind_eq_error_iff.1 h
    · cases hbind.symm.trans refused
    cases hbind.symm.trans same
    obtain refused | ⟨transport', same, h⟩ := bind_eq_error_iff.1 h
    · cases htransport.symm.trans refused
    obtain refused | ⟨backend, _, h⟩ := bind_eq_error_iff.1 h
    · rw [hbackend] at refused
      cases hcluster : cluster source <;> rw [hcluster] at refused <;> cases refused
      rfl
    refine absurd h (Acquits.bind (retryPolicy_acquits source) (fun store => ?_) reason)
    exact .bind (serviceWindow_acquits source) fun window => nofun
  · intro refused
    refine bind_eq_error_iff.2 (.inr ⟨bind, hbind, bind_eq_error_iff.2 (.inr ⟨transport, htransport, ?_⟩)⟩)
    refine bind_eq_error_iff.2 (.inl ?_)
    rw [hbackend, refused]
    rfl

end ServerConfig

/-! ### Files -/

theorem layered_eq_lookup {environment : Environment} (unset : ∀ setting : Variable, environment setting.name = none)
    (file : FileConfig) : layered environment file = file.lookup := by
  funext setting
  rw [layered, unset]
  rfl

/-- No endpoint holds the comma that stands between endpoints. -/
def FileConfig.Commaless (file : FileConfig) : Prop :=
  ∀ endpoints, file.store.etcdEndpoints = some endpoints → ∀ endpoint ∈ endpoints, ',' ∉ endpoint.toList

/-- The endpoints of a file without the blanks at their ends; those that are blank altogether do not count. -/
def FileConfig.endpoints (file : FileConfig) : List String :=
  ((file.store.etcdEndpoints.getD []).map Text.trimmed).filter (· ≠ "")

/-- The configuration of a server has what its file sets, and the standard values elsewhere. -/
structure ServerConfig.Carries (config : ServerConfig) (file : FileConfig) : Prop where
  opTimeout : config.store.opTimeout = file.store.opTimeout.getD 5000
  maxRetries : config.store.maxRetries = file.store.maxRetries.getD 3
  backoff : config.store.backoff = file.store.retryBackoff.getD 200
  notBefore : config.window.notBefore = file.window.notBefore
  notAfter : config.window.notAfter = file.window.notAfter
  plaintext : config.transport = .plaintext ↔ file.insecurePlaintext = some true
  connectTimeout : ∀ settings, config.backend = .etcd settings →
    settings.connectTimeout = file.store.etcdConnectTimeout.getD 5000
  endpoints : ∀ settings, config.backend = .etcd settings → settings.endpoints = file.endpoints

structure ClientConfig.Carries (config : ClientConfig) (file : FileConfig) : Prop where
  requestTimeout : config.requestTimeout = file.client.requestTimeout.getD 5000
  connectTimeout : config.connectTimeout = file.client.connectTimeout.getD 2000
  authTtl : config.ttls.auth.seconds = file.ttls.auth.getD 300
  choiceTtl : config.ttls.choice.seconds = file.ttls.choice.getD 900
  voteTtl : config.ttls.vote.seconds = file.ttls.vote.getD 900
  verifyTtl : config.ttls.verify.seconds = file.ttls.verify.getD 1800
  voteCompletion : config.voteCompletion.name = (file.client.voteCompletion.map word).getD "delete"

variable {file : FileConfig}

theorem ServerConfig.clusterEndpoints_lookup (commaless : file.Commaless) :
    clusterEndpoints file.lookup = file.endpoints := by
  have set : file.lookup .etcdEndpoints = file.store.etcdEndpoints.map FileConfig.commaSeparated := rfl
  rw [clusterEndpoints_eq, set, FileConfig.endpoints]
  cases hlist : file.store.etcdEndpoints with
  | none => rfl
  | some endpoints => exact endpointList_commaSeparated (commaless endpoints hlist)

theorem ServerConfig.plaintext_iff_of_granted {bind : Network.SocketAddress} {transport : ServerTransport}
    (granted : Granted file.lookup bind transport) :
    transport = .plaintext ↔ file.insecurePlaintext = some true := by
  rw [← switchedOn_boolText]
  cases granted with
  | mutualTls _ _ _ off => exact iff_of_false nofun fun on => on.not_off off
  | plaintext _ _ _ on _ => exact iff_of_true rfl on

theorem ServerConfig.carries_of_ok (commaless : file.Commaless) {config : ServerConfig}
    (built : ofSource file.lookup = .ok config) : config.Carries file := by
  have numbers := numbers_of_ok built
  obtain ⟨_, granted, hbackend, _⟩ := ofSource_eq_ok_iff.1 built
  exact {
    opTimeout := numbers.opTimeout.eq_getD rfl
    maxRetries := numbers.maxRetries.eq_getD rfl
    backoff := numbers.backoff.eq_getD rfl
    notBefore := numbers.notBefore.eq rfl
    notAfter := numbers.notAfter.eq rfl
    plaintext := plaintext_iff_of_granted granted
    connectTimeout := fun settings same => (numbers.connectTimeout settings same).eq_getD rfl
    endpoints := fun settings same =>
      (endpoints_of_cluster (cluster_of_backend (same ▸ hbackend))).trans (clusterEndpoints_lookup commaless) }

theorem ClientConfig.carries_of_ok {config : ClientConfig} (built : ofSource file.lookup = .ok config) :
    config.Carries file := by
  have numbers := numbers_of_ok built
  obtain ⟨_, _, _, _, _, _, hcompletion⟩ := ofSource_eq_ok_iff.1 built
  exact {
    requestTimeout := numbers.requestTimeout.eq_getD rfl
    connectTimeout := numbers.connectTimeout.eq_getD rfl
    authTtl := numbers.authTtl.eq_getD rfl
    choiceTtl := numbers.choiceTtl.eq_getD rfl
    voteTtl := numbers.voteTtl.eq_getD rfl
    verifyTtl := numbers.verifyTtl.eq_getD rfl
    voteCompletion := completionFor_eq_ok hcompletion }

/-- Where no variable of the environment sets anything, a configuration has what the file sets; and of the endpoints
of a cluster the builder complains if and only if nothing is left of them. -/
theorem file_settings_kept (file : FileConfig) (commaless : file.Commaless) (environment : Environment)
    (unset : ∀ setting : Variable, environment setting.name = none) :
    (∀ config, ServerConfig.ofSource (layered environment file) = .ok config → config.Carries file) ∧
    (∀ bind transport, ServerConfig.ListensOn (layered environment file) bind →
      ServerConfig.Granted (layered environment file) bind transport →
      ServerConfig.ChoosesCluster (layered environment file) → ∀ reason,
        ServerConfig.ofSource (layered environment file) = .error (.invalidVar .etcdEndpoints reason) ↔
          file.endpoints = [] ∧
            reason = "required with the etcd store backend (or set COLLECTOR_STORE_BACKEND=memory)") ∧
    ∀ config, ClientConfig.ofSource (layered environment file) = .ok config → config.Carries file := by
  rw [layered_eq_lookup unset]
  refine ⟨fun config => ServerConfig.carries_of_ok commaless, ?_, fun config => ClientConfig.carries_of_ok⟩
  intro bind transport listens granted chosen reason
  rw [ServerConfig.ofSource_refuses_iff listens granted chosen, ServerConfig.cluster_refuses_iff,
    ServerConfig.clusterEndpoints_lookup commaless]

/-- Plaintext at home, numbers at the ends of their ranges, and a list of endpoints written without care. -/
def careless : FileConfig where
  insecurePlaintext := some true
  store := {
    etcdEndpoints := some [" etcd-0:2379", "\t", "etcd-0:2379"]
    etcdConnectTimeout := some 60000
    opTimeout := some 1
    maxRetries := some 10
    retryBackoff := some 0 }
  ttls := { verify := some 86400 }
  window := { notBefore := some 0, notAfter := some 18446744073709551615 }
  client := { requestTimeout := some 60000, voteCompletion := some " HandOff " }

def drained : FileConfig where
  insecurePlaintext := some true
  store := { etcdEndpoints := some ["", " "] }

def namesFile : Environment := fun name => if name = configPathName then some "/etc/collector.json" else none

theorem namesFile_unset (setting : Variable) : namesFile setting.name = none := by
  cases setting <;> rfl

theorem careless_settings_kept :
    (∃ config settings, ServerConfig.ofSource (layered namesFile careless) = .ok config ∧
      config.backend = .etcd settings ∧ settings.endpoints = ["etcd-0:2379", "etcd-0:2379"] ∧
      config.store.opTimeout = 1 ∧ config.window.notAfter = some 18446744073709551615) ∧
    (∃ reason, ServerConfig.ofSource (layered namesFile drained) = .error (.invalidVar .etcdEndpoints reason)) ∧
    ∃ config, ClientConfig.ofSource (layered namesFile careless) = .ok config ∧
      config.requestTimeout = 60000 ∧ config.voteCompletion.name = "handoff" := by
  have careless_commaless : careless.Commaless := by
    rintro _ ⟨⟩
    decide
  have drained_commaless : drained.Commaless := by
    rintro _ ⟨⟩
    decide
  obtain ⟨served, _, called⟩ := file_settings_kept careless careless_commaless namesFile namesFile_unset
  refine ⟨?_, ?_, ?_⟩
  · let settings : ClusterSettings := ⟨["etcd-0:2379", "etcd-0:2379"], 60000, none⟩
    let config : ServerConfig := ⟨.v4 ⟨127, 0, 0, 1⟩ 50061, .plaintext, .etcd settings,
      { opTimeout := 1, maxRetries := 10, backoff := 0 },
      { notBefore := some 0, notAfter := some 18446744073709551615, ordered := by decide }⟩
    have built : ServerConfig.ofSource (layered namesFile careless) = .ok config := rfl
    have carries := served config built
    exact ⟨config, settings, built, rfl, carries.endpoints settings rfl, carries.opTimeout, carries.notAfter⟩
  · obtain ⟨_, refused, _⟩ := file_settings_kept drained drained_commaless namesFile namesFile_unset
    let bind : Network.SocketAddress := .v4 ⟨127, 0, 0, 1⟩ 50061
    have listens : ServerConfig.ListensOn (layered namesFile drained) bind := ServerConfig.bindAddress_eq_ok_iff.1 rfl
    have granted : ServerConfig.Granted (layered namesFile drained) bind .plaintext :=
      ServerConfig.transportFor_eq_ok_iff.1 rfl
    exact ⟨_, (refused bind .plaintext listens granted (.inl nofun) _).2 ⟨by decide, rfl⟩⟩
  · let config : ClientConfig := {
      requestTimeout := 60000
      ttls := { verify := ⟨86400, by decide, by decide⟩ }
      voteCompletion := .handoff }
    have built : ClientConfig.ofSource (layered namesFile careless) = .ok config := rfl
    have carries := called config built
    exact ⟨config, built, carries.requestTimeout, carries.voteCompletion⟩

end Config

end VoterSession
