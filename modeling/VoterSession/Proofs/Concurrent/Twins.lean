import VoterSession.Proofs.Concurrent.Ledger
import VoterSession.Proofs.Concurrent.Renaming
set_option autoImplicit false

/-!
Two states that one session cannot tell apart. Their stores number the leases differently and show the
session alike otherwise; its calls have got equally far in both. Main statements: `Twins.read` and
`Twins.write`, where a message of the session is carried out in both states, and `Twins.read_apart` and
`Twins.write_apart`, where one of another session is carried out in the second alone.
-/
namespace VoterSession.Concurrent

structure StoresAlike (labels : Labels) (id : SessionId) (now : Nat) (own whole : LeaseStore) : Prop where
  matching : labels.Matching own.lastLease whole.lastLease
  shown : Option.Rel (HoldingAlike labels.Pair) (own.seen now (Sessions.key id))
    (whole.seen now (Sessions.key id))

structure JobAlike (R : LeaseId → LeaseId → Prop) (job other : Job) : Prop where
  plan : Option.Rel (PlanAlike R job.call) job.plan other.plan
  result : Option.Rel (OutcomeAlike R) job.result other.result

/-- The same calls, and those of the session have got equally far. -/
structure JobsAlike (R : LeaseId → LeaseId → Prop) (id : SessionId) (jobs others : List Job) : Prop where
  calls : jobs.map Job.call = others.map Job.call
  alike : ∀ {i : Nat} {job other : Job}, jobs[i]? = some job → others[i]? = some other →
    job.call.session = id → JobAlike R job other

structure Twins (labels : Labels) (id : SessionId) (own whole : State) : Prop where
  time : own.now = whole.now
  stores : StoresAlike labels id own.now own.store whole.store
  jobs : JobsAlike labels.Pair id own.jobs whole.jobs

structure DeliveredAlike (labels : Labels) (id : SessionId) (now : Nat)
    (delivered delivered' : Except ClientError Ack × LeaseStore) : Prop where
  answers : AckAlike labels.Pair delivered.1 delivered'.1
  stores : StoresAlike labels id now delivered.2 delivered'.2

variable {labels : Labels} {id : SessionId} {R : LeaseId → LeaseId → Prop}

namespace StoresAlike

variable {now : Nat} {own whole own' whole' : LeaseStore}

theorem later (alike : StoresAlike labels id now own whole) (sound : own.Sound) (sound' : whole.Sound)
    {time : Nat} (order : now ≤ time) : StoresAlike labels id time own whole where
  matching := alike.matching
  shown := by
    rw [sound.seen_later order, sound'.seen_later order]
    obtain ⟨none, none'⟩ | ⟨holding, other, some, some', related⟩ := rel_cases alike.shown
    · rw [none, none']
      exact .none
    · rw [some, some']
      simp only [Option.filter, related.deadline]
      split
      · exact .some related
      · exact .none

theorem unmoved (alike : StoresAlike labels id now own whole) (kept : LeaseStore.Unmoved now own own')
    (kept' : LeaseStore.Unmoved now whole whole') : StoresAlike labels id now own' whole' where
  matching := by
    rw [kept.counted, kept'.counted]
    exact alike.matching
  shown := by
    rw [kept.seen, kept'.seen]
    exact alike.shown

end StoresAlike

theorem JobAlike.mono {S : LeaseId → LeaseId → Prop} (more : ∀ {lease other}, R lease other → S lease other)
    {job other : Job} (alike : JobAlike R job other) : JobAlike S job other where
  plan := rel_mono (fun related => related.mono more) alike.plan
  result := rel_mono (fun related => related.mono more) alike.result

theorem calls_set {jobs : List Job} {i : Nat} {job next : Job} (hjob : jobs[i]? = some job)
    (same : next.call = job.call) : (jobs.set i next).map Job.call = jobs.map Job.call := by
  obtain ⟨inside, rfl⟩ := List.getElem?_eq_some_iff.1 hjob
  have inside' : i < (jobs.map Job.call).length := by rwa [List.length_map]
  have unchanged := List.set_getElem_self inside'
  rwa [List.getElem_map, ← same, ← List.map_set] at unchanged

namespace JobsAlike

variable {jobs others : List Job}

theorem mono {S : LeaseId → LeaseId → Prop} (more : ∀ {lease other}, R lease other → S lease other)
    (alike : JobsAlike R id jobs others) : JobsAlike S id jobs others :=
  ⟨alike.calls, fun hjob hother mine => (alike.alike hjob hother mine).mono more⟩

theorem length_eq (alike : JobsAlike R id jobs others) : jobs.length = others.length := by
  have lengths := congrArg List.length alike.calls
  rwa [List.length_map, List.length_map] at lengths

theorem other (alike : JobsAlike R id jobs others) {i : Nat} {job : Job} (hjob : jobs[i]? = some job) :
    ∃ other, others[i]? = some other ∧ other.call = job.call := by
  have calls := congrArg (fun calls : List Call => calls[i]?) alike.calls
  simp only [List.getElem?_map, hjob, Option.map_some] at calls
  obtain ⟨other, hother, same⟩ := Option.map_eq_some_iff.1 calls.symm
  exact ⟨other, hother, same⟩

theorem none (alike : JobsAlike R id jobs others) {i : Nat} (hjob : jobs[i]? = none) :
    others[i]? = none := by
  rw [List.getElem?_eq_none_iff] at hjob ⊢
  rw [← alike.length_eq]
  exact hjob

theorem set (alike : JobsAlike R id jobs others) {i : Nat} {job other next next' : Job}
    (hjob : jobs[i]? = some job) (hother : others[i]? = some other) (same : next.call = job.call)
    (same' : next'.call = other.call) (news : job.call.session = id → JobAlike R next next') :
    JobsAlike R id (jobs.set i next) (others.set i next') where
  calls := by
    rw [calls_set hjob same, calls_set hother same', alike.calls]
  alike := by
    intro j found found' hfound hfound' mine
    by_cases here : i = j
    · subst here
      rw [List.getElem?_set_self (List.getElem?_eq_some_iff.1 hjob).1] at hfound
      rw [List.getElem?_set_self (List.getElem?_eq_some_iff.1 hother).1] at hfound'
      cases hfound
      cases hfound'
      rw [same] at mine
      exact news mine
    · rw [List.getElem?_set_ne here] at hfound hfound'
      exact alike.alike hfound hfound' mine

theorem set_apart (alike : JobsAlike R id jobs others) {i : Nat} {other next : Job}
    (hother : others[i]? = some other) (same : next.call = other.call) (apart : other.call.session ≠ id) :
    JobsAlike R id jobs (others.set i next) where
  calls := by
    rw [calls_set hother same, alike.calls]
  alike := by
    intro j found found' hfound hfound' mine
    by_cases here : i = j
    · subst here
      obtain ⟨twin, htwin, shared⟩ := alike.other hfound
      rw [hother] at htwin
      cases htwin
      rw [← shared] at mine
      exact absurd mine apart
    · rw [List.getElem?_set_ne here] at hfound'
      exact alike.alike hfound hfound' mine

theorem concat (alike : JobsAlike R id jobs others) {job other : Job} (same : job.call = other.call)
    (news : JobAlike R job other) : JobsAlike R id (jobs ++ [job]) (others ++ [other]) where
  calls := by
    simp only [List.map_append, alike.calls, List.map_cons, List.map_nil, same]
  alike := by
    intro i found found' hfound hfound' mine
    rw [List.getElem?_append] at hfound hfound'
    rw [← alike.length_eq] at hfound'
    split at hfound
    · rename_i inside
      rw [if_pos inside] at hfound'
      exact alike.alike hfound hfound' mine
    · rename_i outside
      rw [if_neg outside] at hfound'
      cases List.mem_singleton.1 (List.mem_of_getElem? hfound)
      cases List.mem_singleton.1 (List.mem_of_getElem? hfound')
      exact news

end JobsAlike

theorem JobAlike.opened (call : Call) : JobAlike R (.opened call) (.opened call) where
  plan := by
    rw [Job.opened_plan]
    exact .none
  result := by
    unfold Job.opened
    cases h : Verifier.opening call.header with
    | ok request => exact .none
    | error failure =>
      unfold Verifier.opening at h
      cases built : ReadRequest.ofHeader call.header with
      | ok request =>
        rw [built] at h
        cases h
      | error violation =>
        rw [built] at h
        cases h
        exact .some (.failed (invalid_silent violation))

namespace Twins

variable {own whole : State} {window : ServiceWindow}

theorem start (id : SessionId) : Twins [(.none, .none)] id {} {} where
  time := rfl
  stores := by
    refine ⟨Labels.matching_start, ?_⟩
    rw [LeaseStore.seen_empty]
    exact .none
  jobs := ⟨rfl, by simp⟩

theorem wait (twins : Twins labels id own whole) (sound : own.store.Sound) (sound' : whole.store.Sound)
    (millis : Nat) : Twins labels id (own.step window (.wait millis)) (whole.step window (.wait millis)) where
  time := congrArg (· + millis) twins.time
  stores := twins.stores.later sound sound' (Nat.le_add_right _ _)
  jobs := twins.jobs

theorem started (twins : Twins labels id own whole) (call : Call) :
    Twins labels id (own.step window (.start call)) (whole.step window (.start call)) where
  time := twins.time
  stores := twins.stores
  jobs := twins.jobs.concat rfl (JobAlike.opened call)

/-! ### The messages of the session -/

section Mine

variable {call : Call} {tag : AuthTag} {serviceNow : Nat} (twins : Twins labels id own whole)
  (kept : own.store.Sound ∧ Ledger own) (kept' : whole.store.Sound ∧ Ledger whole)
include twins kept kept'

theorem read_alike (valid : call.header.validate = .ok ()) (mine : call.session = id) (serviceNow : Nat) :
    DecisionAlike labels.Pair call
      (call.verifier.decision call.header call.method call.transport
        (({ header := call.header } : ReadRequest).deliver window serviceNow own.now own.store).1)
      (call.verifier.decision call.header call.method call.transport
        (({ header := call.header } : ReadRequest).deliver window serviceNow own.now whole.store).1) ∧
    StoresAlike labels id own.now
      (({ header := call.header } : ReadRequest).deliver window serviceNow own.now own.store).2
      (({ header := call.header } : ReadRequest).deliver window serviceNow own.now whole.store).2 := by
  cases opened : window.contains serviceNow with
  | false =>
    rw [ReadRequest.deliver_closed _ opened, ReadRequest.deliver_closed _ opened]
    refine ⟨.failed ?_, twins.stores⟩
    rintro ⟨other, lease, same⟩
    exact closed_silent serviceNow other lease (Option.some.inj same)
  | true =>
    have stores := twins.stores.unmoved (kept.1.unmoved_purge own.now) (kept'.1.unmoved_purge own.now)
    subst mine
    obtain ⟨absent, absent'⟩ | ⟨holding, other, present, present', related⟩ := rel_cases twins.stores.shown
    · rw [ReadRequest.deliver_empty kept.1 valid opened absent,
        ReadRequest.deliver_empty kept'.1 valid opened absent']
      exact ⟨call.judge_empty_alike twins.stores.matching.unnamed, stores⟩
    · obtain ⟨landing, _, _, value, _⟩ := kept.2.granted present
      rw [ReadRequest.deliver_record kept.1 valid opened present value,
        ReadRequest.deliver_record kept'.1 valid opened present' (related.value.symm.trans value)]
      have ⟨⟨counted, _⟩, counted', _⟩ := twins.stores.matching.counted related.lease
      exact ⟨Call.judge_alike twins.stores.matching.unnamed valid _ _ related.lease counted counted', stores⟩

theorem fresh_alike (opened : window.contains serviceNow = true)
    (valid : (call.request tag .none).validate = .ok ()) (mine : call.session = id) :
    ∃ more : Labels, labels ⊆ more ∧ DeliveredAlike more id own.now
      ((SessionWrite.update (call.request tag .none)).deliver window serviceNow own.now own.store)
      ((SessionWrite.update (call.request tag .none)).deliver window serviceNow own.now whole.store) := by
  have granted : ∀ {store : LeaseStore}, store.Sound → ∃ after,
      (SessionWrite.update (call.request tag .none)).deliver window serviceNow own.now store =
        (.ok .done, after) ∧ after.lastLease = store.lastLease + 1 ∧
        after.seen own.now (Sessions.key id) = some ⟨RecordText.encode (some call.method) tag,
          ⟨store.lastLease + 1⟩, call.lifetime.millis, own.now + call.lifetime.millis⟩ := by
    intro store sound
    obtain ⟨after, delivered, written⟩ := SessionWrite.deliver_fresh sound own.now opened valid rfl
    refine ⟨after, delivered, ?_, ?_⟩
    · obtain ⟨_, _, _, counted⟩ | ⟨named, _⟩ := written.source
      · exact counted
      · exact absurd rfl named
    · rw [written.seen]
      exact if_pos (congrArg Sessions.key mine.symm)
  obtain ⟨after, delivered, counted, shown⟩ := granted kept.1
  obtain ⟨after', delivered', counted', shown'⟩ := granted kept'.1
  refine ⟨(⟨own.store.lastLease + 1⟩, ⟨whole.store.lastLease + 1⟩) :: labels, List.subset_cons_self _ _, ?_⟩
  rw [delivered, delivered']
  refine ⟨.done, ?_, ?_⟩
  · rw [counted, counted']
    exact twins.stores.matching.grant
  · rw [shown, shown']
    exact .some ⟨rfl, List.mem_cons_self, rfl, rfl⟩

theorem named_alike {lease other : LeaseId} {stage stage' : Stage} {tag' tag'' : AuthTag}
    (opened : window.contains serviceNow = true)
    (valid : (call.request tag lease).validate = .ok ()) (valid' : (call.request tag other).validate = .ok ())
    (mine : call.session = id) (named : lease ≠ .none) (related : labels.Pair lease other)
    (granted : Granted own.history lease id tag' stage)
    (granted' : Granted whole.history other id tag'' stage') :
    DeliveredAlike labels id own.now
      ((SessionWrite.update (call.request tag lease)).deliver window serviceNow own.now own.store)
      ((SessionWrite.update (call.request tag other)).deliver window serviceNow own.now whole.store) := by
  have matching := twins.stores.matching
  have named' : other ≠ .none := fun none => named ((matching.single related matching.unnamed).2 none)
  have alive := kept.2.alive_iff granted
  have alive' := kept'.2.alive_iff granted'
  rw [← twins.time] at alive'
  have gone : ¬ own.store.Alive own.now lease → ¬ whole.store.Alive own.now other →
      DeliveredAlike labels id own.now
        ((SessionWrite.update (call.request tag lease)).deliver window serviceNow own.now own.store)
        ((SessionWrite.update (call.request tag other)).deliver window serviceNow own.now whole.store) := by
    intro dead dead'
    rw [SessionWrite.deliver_dead kept.1 opened valid named dead,
      SessionWrite.deliver_dead kept'.1 opened valid' named' dead']
    exact ⟨.lapsed call.session related,
      twins.stores.unmoved (kept.1.unmoved_purge _) (kept'.1.unmoved_purge _)⟩
  obtain ⟨absent, absent'⟩ | ⟨holding, twin, present, present', alike⟩ := rel_cases twins.stores.shown
  · rw [alive, alive', absent, absent'] at gone
    exact gone nofun nofun
  · rw [alive, alive', present, present'] at gone
    by_cases same : holding.lease = lease
    · subst same
      have same' : twin.lease = other := (matching.single alike.lease related).1 rfl
      subst same'
      have renewed : ∀ {store : LeaseStore} {found : Holding}, store.Sound →
          store.seen own.now (Sessions.key id) = some found →
          (call.request tag found.lease).validate = .ok () → found.lease ≠ .none → ∃ after,
          (SessionWrite.update (call.request tag found.lease)).deliver window serviceNow own.now store =
            (.ok .done, after) ∧ after.lastLease = store.lastLease ∧
          after.seen own.now (Sessions.key id) = some ⟨RecordText.encode (some call.method) tag,
            found.lease, found.ttl, own.now + found.ttl⟩ := by
        intro store found sound shown valid named
        obtain ⟨after, delivered, written⟩ := SessionWrite.deliver_alive sound opened valid shown rfl
        refine ⟨after, delivered, ?_, ?_⟩
        · obtain ⟨fresh, _⟩ | ⟨_, _, counted, _⟩ := written.source
          · exact absurd fresh named
          · exact counted
        · rw [written.seen]
          exact if_pos (congrArg Sessions.key mine.symm)
      obtain ⟨after, delivered, counted, shown⟩ := renewed kept.1 present valid named
      obtain ⟨after', delivered', counted', shown'⟩ := renewed kept'.1 present' valid' named'
      rw [delivered, delivered']
      refine ⟨.done, ?_, ?_⟩
      · rw [counted, counted']
        exact matching
      · rw [shown, shown']
        exact .some ⟨rfl, related, alike.ttl, congrArg (own.now + ·) alike.ttl⟩
    · have same' : twin.lease ≠ other := fun same' => same ((matching.single alike.lease related).2 same')
      refine gone ?_ ?_
      · rintro ⟨found, shown, here⟩
        cases shown
        exact same here
      · rintro ⟨found, shown, here⟩
        cases shown
        exact same' here

theorem removal_alike (opened : window.contains serviceNow = true)
    (valid : call.header.validate = .ok ()) (mine : call.session = id) :
    DeliveredAlike labels id own.now
      ((SessionWrite.delete { header := call.header }).deliver window serviceNow own.now own.store)
      ((SessionWrite.delete { header := call.header }).deliver window serviceNow own.now whole.store) := by
  have here : Sessions.key id = Sessions.key call.header.sessionId := congrArg Sessions.key mine.symm
  obtain ⟨after, delivered, removed⟩ := @SessionWrite.deliver_delete window serviceNow own.now own.store
    kept.1 { header := call.header } opened valid
  obtain ⟨after', delivered', removed'⟩ := @SessionWrite.deliver_delete window serviceNow own.now whole.store
    kept'.1 { header := call.header } opened valid
  rw [delivered, delivered']
  refine ⟨.done, ?_, ?_⟩
  · rw [removed.counted, removed'.counted]
    exact twins.stores.matching
  · rw [removed.seen, removed'.seen, if_pos here, if_pos here]
    exact .none

theorem write_alike {i : Nat} {plan other : Plan} (grounded : Grounded own.history i call plan)
    (grounded' : Grounded whole.history i call other) (alike : PlanAlike labels.Pair call plan other)
    (mine : call.session = id) (serviceNow : Nat) :
    ∃ more : Labels, labels ⊆ more ∧ DeliveredAlike more id own.now
      (plan.write.deliver window serviceNow own.now own.store)
      (other.write.deliver window serviceNow own.now whole.store) := by
  cases opened : window.contains serviceNow with
  | false =>
    rw [SessionWrite.deliver_closed _ opened, SessionWrite.deliver_closed _ opened]
    exact ⟨labels, List.Subset.refl _, .failed (closed_silent serviceNow), twins.stores⟩
  | true =>
    cases alike with
    | deleting tag related =>
      obtain ⟨valid, _⟩ := kept.2.chronicle.plan_cases grounded
      exact ⟨labels, List.Subset.refl _, twins.removal_alike kept kept' opened valid mine⟩
    | @updating tag lease other related =>
      obtain ⟨valid, _, _, granted⟩ := kept.2.chronicle.update_asked grounded rfl
      obtain ⟨valid', _, _, granted'⟩ := kept'.2.chronicle.update_asked grounded' rfl
      have none := twins.stores.matching.single related twins.stores.matching.unnamed
      by_cases fresh : lease = .none
      · obtain rfl := none.1 fresh
        subst fresh
        exact twins.fresh_alike kept kept' opened valid mine
      · have granted := granted fresh
        have granted' := granted' fun fresh' => fresh (none.2 fresh')
        rw [mine] at granted granted'
        exact ⟨labels, List.Subset.refl _,
          twins.named_alike kept kept' opened valid valid' mine fresh related granted granted'⟩

end Mine

end Twins

/-! ### The messages of other sessions -/

/-- A store that goes on granting leases and shows the session as before. -/
structure Aside (id : SessionId) (now : Nat) (store after : LeaseStore) : Prop where
  counted : store.lastLease ≤ after.lastLease
  shown : after.seen now (Sessions.key id) = store.seen now (Sessions.key id)

theorem Aside.of_unmoved {now : Nat} {store after : LeaseStore} (kept : LeaseStore.Unmoved now store after) :
    Aside id now store after :=
  ⟨Int.le_of_eq kept.counted.symm, kept.seen _⟩

theorem StoresAlike.aside {now : Nat} {own whole after : LeaseStore}
    (alike : StoresAlike labels id now own whole) (aside : Aside id now whole after) :
    StoresAlike labels id now own after where
  matching := alike.matching.grow (Int.le_refl _) aside.counted
  shown := by
    rw [aside.shown]
    exact alike.shown

section Others

variable {state : State} {window : ServiceWindow} (kept : state.store.Sound ∧ Ledger state)
include kept

theorem read_aside {call : Call} (valid : call.header.validate = .ok ()) (serviceNow : Nat) :
    LeaseStore.Unmoved state.now state.store
      (({ header := call.header } : ReadRequest).deliver window serviceNow state.now state.store).2 := by
  cases opened : window.contains serviceNow with
  | false =>
    rw [ReadRequest.deliver_closed _ opened]
    exact kept.1.unmoved _
  | true =>
    rw [ReadRequest.deliver_open kept.1 valid opened]
    exact kept.1.unmoved_purge _

theorem write_aside {i : Nat} {call : Call} {plan : Plan} (planned : state.Planned i call plan)
    (apart : call.session ≠ id) (serviceNow : Nat) :
    Aside id state.now state.store (plan.write.deliver window serviceNow state.now state.store).2 := by
  have grounded := kept.2.plans planned
  have elsewhere : Sessions.key id ≠ Sessions.key call.session := fun same =>
    apart (Sessions.key_injective same).symm
  cases asks : plan.write with
  | delete request =>
    obtain ⟨rfl, _⟩ := kept.2.chronicle.delete_asked grounded asks
    obtain ⟨_, after, delivered, unmoved⟩ | ⟨after, delivered, removed⟩ :=
      SessionWrite.deliver_delete_cases kept.1 window serviceNow state.now { header := call.header }
    · rw [delivered]
      exact .of_unmoved unmoved
    · rw [delivered]
      exact ⟨Int.le_of_eq removed.counted.symm, (removed.seen _).trans (if_neg elsewhere)⟩
  | update request =>
    obtain ⟨_, shape, _⟩ := kept.2.chronicle.update_asked grounded asks
    obtain ⟨_, after, delivered, unmoved⟩ | ⟨after, held, ttl, delivered, written⟩ :=
      SessionWrite.deliver_update_cases kept.1 window serviceNow state.now request
    · rw [delivered]
      exact .of_unmoved unmoved
    · rw [delivered]
      refine ⟨?_, ?_⟩
      · obtain ⟨_, _, _, counted⟩ | ⟨_, _, counted, _⟩ := written.source <;> simp only <;> omega
      · have header : Sessions.key request.header.sessionId = Sessions.key call.session := by
          rw [shape]
          rfl
        rw [written.seen, header, if_neg elsewhere]
        cases shown : state.store.seen state.now (Sessions.key id) with
        | none => rfl
        | some holding =>
          -- the lease of the session was never on another one
          obtain ⟨_, _, _, _, granted⟩ := kept.2.granted shown
          have other : holding.lease ≠ held := by
            rintro rfl
            have before := @Ledger.held_before state { state with store := after } i call plan request
              holding.lease ttl kept.2 planned asks written _ _ _ granted
            exact apart before.1.symm
          rw [Option.map_some, Holding.renewed_of_ne _ other]

end Others

/-! ### One event -/

def Job.Waits (job : Job) : Prop :=
  job.plan = none ∧ job.result = none ∧ job.call.header.validate = .ok ()

namespace State

variable {state : State} {window : ServiceWindow} {i : Nat} {job : Job}

theorem read_of_waits (hjob : state.jobs[i]? = some job) (waits : job.Waits) (serviceNow : Nat)
    (answered : Bool) : ∃ history, state.read window i serviceNow answered =
      { now := state.now
        store :=
          (({ header := job.call.header } : ReadRequest).deliver window serviceNow state.now state.store).2
        jobs := if answered then state.jobs.set i (job.judged
          (({ header := job.call.header } : ReadRequest).deliver window serviceNow state.now
            state.store).1) else state.jobs
        history } := by
  obtain ⟨no_plan, no_result, valid⟩ := waits
  have opening := Verifier.opening_eq_ok_iff.2 ⟨valid, rfl⟩
  simp only [State.read, hjob, no_plan, no_result, opening]
  cases answered <;> exact ⟨_, rfl⟩

theorem read_of_not_waits (hjob : ∀ job, state.jobs[i]? = some job → ¬ job.Waits) (serviceNow : Nat)
    (answered : Bool) : state.read window i serviceNow answered = state := by
  unfold State.read
  split
  · rfl
  · rename_i job found
    split
    · rename_i request no_plan no_result opening
      exact absurd ⟨no_plan, no_result, (Verifier.opening_eq_ok_iff.1 opening).1⟩ (hjob job found)
    · rfl

end State

section Alike

variable {job other : Job}

theorem JobAlike.waits_iff (alike : JobAlike R job other) (same : other.call = job.call) :
    job.Waits ↔ other.Waits := by
  unfold Job.Waits
  rw [same]
  obtain ⟨plan, plan'⟩ | ⟨_, _, plan, plan', _⟩ := rel_cases alike.plan <;>
    obtain ⟨result, result'⟩ | ⟨_, _, result, result', _⟩ := rel_cases alike.result <;>
      simp [plan, plan', result, result']

theorem JobAlike.judged {answer answer' : Except ClientError ReadResponse} (alike : JobAlike R job other)
    (same : other.call = job.call) (decided : DecisionAlike R job.call
      (job.call.verifier.decision job.call.header job.call.method job.call.transport answer)
      (job.call.verifier.decision job.call.header job.call.method job.call.transport answer')) :
    JobAlike R (job.judged answer) (other.judged answer') := by
  unfold Job.judged
  rw [same]
  generalize job.call.verifier.decision job.call.header job.call.method job.call.transport answer = decision
    at decided
  generalize job.call.verifier.decision job.call.header job.call.method job.call.transport answer' = decision'
    at decided
  cases decided with
  | planned related => exact ⟨.some related, alike.result⟩
  | failed silent => exact ⟨alike.plan, .some (.failed silent)⟩

theorem JobAlike.concluded {plan plan' : Plan} {answer answer' : Except ClientError Ack}
    (alike : JobAlike R job other) (outcome : OutcomeAlike R (plan.conclude answer) (plan'.conclude answer')) :
    JobAlike R (job.concluded plan answer) (other.concluded plan' answer') := by
  unfold Job.concluded
  obtain ⟨result, result'⟩ | ⟨_, _, result, result', _⟩ := rel_cases alike.result
  · rw [result, result']
    exact ⟨alike.plan, .some outcome⟩
  · rw [result, result']
    exact alike

end Alike

namespace Twins

variable {own whole : State} {window : ServiceWindow} {i : Nat} (twins : Twins labels id own whole)
  (kept' : whole.store.Sound ∧ Ledger whole)
include twins kept'

theorem read_apart (apart : ∀ job, whole.jobs[i]? = some job → job.call.session ≠ id) (serviceNow : Nat)
    (answered : Bool) : Twins labels id own (whole.read window i serviceNow answered) := by
  by_cases waiting : ∃ job, whole.jobs[i]? = some job ∧ job.Waits
  · obtain ⟨job, hjob, waits⟩ := waiting
    obtain ⟨_, read⟩ := @State.read_of_waits whole window i job hjob waits serviceNow answered
    rw [read]
    refine ⟨twins.time, ?_, ?_⟩
    · have unmoved := @read_aside whole window kept' job.call waits.2.2 serviceNow
      rw [← twins.time] at unmoved ⊢
      exact twins.stores.aside (.of_unmoved unmoved)
    · cases answered with
      | false => exact twins.jobs
      | true => exact twins.jobs.set_apart hjob (job.judged_call _) (apart job hjob)
  · rw [State.read_of_not_waits fun job hjob waits => waiting ⟨job, hjob, waits⟩]
    exact twins

theorem write_apart (apart : ∀ job, whole.jobs[i]? = some job → job.call.session ≠ id) (serviceNow : Nat)
    (answered : Bool) : Twins labels id own (whole.write window i serviceNow answered) := by
  cases hjob : whole.jobs[i]? with
  | none =>
    simp only [State.write, hjob]
    exact twins
  | some job =>
    cases planned : job.plan with
    | none =>
      simp only [State.write, hjob, planned]
      exact twins
    | some plan =>
      have aside := @write_aside id whole window kept' i job.call plan ⟨job, hjob, rfl, planned⟩
        (apart job hjob) serviceNow
      rw [State.write_of_job serviceNow answered hjob planned]
      refine ⟨twins.time, ?_, ?_⟩
      · rw [← twins.time] at aside ⊢
        exact twins.stores.aside aside
      · cases answered with
        | false => exact twins.jobs
        | true => exact twins.jobs.set_apart hjob (job.concluded_call _ _) (apart job hjob)

variable (kept : own.store.Sound ∧ Ledger own)
include kept

theorem read (mine : ∀ job, own.jobs[i]? = some job → job.call.session = id) (serviceNow : Nat)
    (answered : Bool) :
    Twins labels id (own.read window i serviceNow answered) (whole.read window i serviceNow answered) := by
  cases hjob : own.jobs[i]? with
  | none =>
    have hother := twins.jobs.none hjob
    rw [State.read_of_not_waits (by simp [hjob]), State.read_of_not_waits (by simp [hother])]
    exact twins
  | some job =>
    obtain ⟨other, hother, same⟩ := twins.jobs.other hjob
    have alike := twins.jobs.alike hjob hother (mine job hjob)
    by_cases waits : job.Waits
    · obtain ⟨_, read⟩ := @State.read_of_waits own window i job hjob waits serviceNow answered
      obtain ⟨_, read'⟩ := @State.read_of_waits whole window i other hother
        ((alike.waits_iff same).1 waits) serviceNow answered
      rw [read, read', ← twins.time, same]
      obtain ⟨decided, stores⟩ := twins.read_alike kept kept' waits.2.2 (mine job hjob) serviceNow
      refine ⟨rfl, stores, ?_⟩
      cases answered with
      | false => exact twins.jobs
      | true =>
        exact twins.jobs.set hjob hother (job.judged_call _) (other.judged_call _) fun _ =>
          alike.judged same decided
    · have waits' := fun h => waits ((alike.waits_iff same).2 h)
      rw [State.read_of_not_waits (by simpa [hjob] using waits),
        State.read_of_not_waits (by simpa [hother] using waits')]
      exact twins

theorem write (mine : ∀ job, own.jobs[i]? = some job → job.call.session = id) (serviceNow : Nat)
    (answered : Bool) : ∃ more : Labels, labels ⊆ more ∧
      Twins more id (own.write window i serviceNow answered) (whole.write window i serviceNow answered) := by
  cases hjob : own.jobs[i]? with
  | none =>
    have hother := twins.jobs.none hjob
    simp only [State.write, hjob, hother]
    exact ⟨labels, List.Subset.refl _, twins⟩
  | some job =>
    obtain ⟨other, hother, same⟩ := twins.jobs.other hjob
    have alike := twins.jobs.alike hjob hother (mine job hjob)
    obtain ⟨no_plan, no_plan'⟩ | ⟨plan, plan', planned, planned', related⟩ := rel_cases alike.plan
    · simp only [State.write, hjob, hother, no_plan, no_plan']
      exact ⟨labels, List.Subset.refl _, twins⟩
    · have grounded := kept.2.plans ⟨job, hjob, rfl, planned⟩
      have grounded' := kept'.2.plans ⟨other, hother, same, planned'⟩
      obtain ⟨more, grown, answers, stores⟩ :=
        @Twins.write_alike labels id own whole window _ twins kept kept' i plan plan' grounded grounded' related
          (mine job hjob) serviceNow
      rw [State.write_of_job serviceNow answered hjob planned,
        State.write_of_job serviceNow answered hother planned', ← twins.time]
      refine ⟨more, grown, rfl, stores, ?_⟩
      have jobs := twins.jobs.mono fun h => grown h
      cases answered with
      | false => exact jobs
      | true =>
        refine jobs.set hjob hother (job.concluded_call _ _) (other.concluded_call _ _) fun _ => ?_
        refine (alike.mono fun h => grown h).concluded ?_
        exact (related.mono fun h => grown h).conclude answers

end Twins

end VoterSession.Concurrent
