import VoterSession.Proofs.Scenario.Passage
import VoterSession.Proofs.Store.Beside
set_option autoImplicit false

/-!
Writes and removals that are repeated until one of them is acknowledged. An attempt may take effect without its
caller hearing of it, and every attempt that asks for a new lease may be granted one. Main statement:
`lost_answers_leave_one_write`.
-/
namespace VoterSession.Scenario

open Timed LeaseStore

/-! ### Removing -/

variable {store : LeaseStore} {begun life now : Nat} {key : String} {lease : LeaseId} {trial : Trial}

/-- Since `begun`, the store has seen nothing but operations on the key that name the lease. -/
structure Pending (store : LeaseStore) (begun : Nat) (key : String) (lease : LeaseId) (life now : Nat)
    (trial : Trial) : Prop where
  past : begun ≤ now
  beside : ∃ due, Beside store begun key lease life due now trial.store

theorem Pending.waits (pending : Pending store begun key lease life now trial) {later : Nat}
    (order : now ≤ later) : Pending store begun key lease life later trial := by
  obtain ⟨past, due, beside⟩ := pending
  exact ⟨Nat.le_trans past order, due, beside.later order⟩

theorem Pending.others (sound : store.Sound) (pending : Pending store begun key .none life now trial) {k : String}
    (other : k ≠ key) : trial.store.seen now k = store.seen now k := by
  obtain ⟨past, due, beside⟩ := pending
  rw [beside.others k other, sound.map_endingAt_none, sound.seen_later past]

theorem repeatable_delete (store : LeaseStore) (begun life : Nat) (key : String) :
    Repeatable (.delete key) (Pending store begun key .none life)
      fun _ now trial => Pending store begun key .none life now trial ∧ trial.store.seen now key = none where
  waits now later trial pending order := pending.waits order
  lasts := by
    rintro _ now later trial ⟨pending, removed⟩ order
    obtain ⟨due, beside⟩ := pending.beside
    refine ⟨pending.waits order, ?_⟩
    rw [beside.sound.seen_later order, removed]
    rfl
  weakens _ now trial h := h.1
  departs now trial pending := ⟨pending.past, pending.beside⟩
  arrives number now trial _ pending := by
    obtain ⟨due, beside⟩ := pending.beside
    obtain ⟨after, hstep, removed, beside'⟩ := beside.delete
    simp only [Trial.arrived, hstep]
    exact ⟨⟨pending.past, due, beside'⟩, removed⟩

/-! ### Writing -/

/-- Every lease that was granted meanwhile was granted to this write. -/
structure Writing (store : LeaseStore) (begun : Nat) (key : String) (lease : LeaseId) (life now : Nat)
    (trial : Trial) : Prop extends Pending store begun key lease life now trial where
  counted : store.lastLease ≤ trial.store.lastLease
  granted : ∀ arrival ∈ trial.arrivals, ∀ id, arrival.granted = some id →
    lease = .none ∧ store.lastLease < id.number ∧ id.number ≤ trial.store.lastLease

def Terms (store : LeaseStore) (lease : LeaseId) (ttl : Ttl) (granted : Option LeaseId) (held : LeaseId)
    (life : Nat) : Prop :=
  (lease = .none → granted = some held ∧ life = ttl.millis) ∧
  (lease ≠ .none → granted = none ∧ held = lease ∧ store.slots[lease]?.map LeaseSlot.ttl = some life)

/-- The last attempt is the last that the store saw, the key is as that one left it, and every lease that was
granted before is numbered below the one that it left. -/
structure Written (store : LeaseStore) (begun : Nat) (key : String) (value : Bytes) (lease : LeaseId) (ttl : Ttl)
    (life : Nat) (earlier : List Arrival) (last : Arrival) (held : LeaseId) (term now : Nat) (trial : Trial) :
    Prop where
  arrivals : trial.arrivals = earlier ++ [last]
  latest : last.attempt + 1 = trial.attempts
  past : begun ≤ last.time
  before : last.time ≤ now
  shown : trial.store.seen last.time key = some ⟨value, held, term, last.time + term⟩
  terms : Terms store lease ttl last.granted held term
  others : ∀ k, k ≠ key → trial.store.seen last.time k =
    ((store.seen begun k).map (Holding.renewed last.time lease)).filter fun holding =>
      last.time < holding.deadline
  beside : ∃ due, Beside store begun key lease life due last.time trial.store
  counted : store.lastLease ≤ trial.store.lastLease
  granted : ∀ arrival ∈ trial.arrivals, ∀ id, arrival.granted = some id →
    lease = .none ∧ store.lastLease < id.number ∧ id.number ≤ held.number
  below : ∀ arrival ∈ earlier, ∀ id, arrival.granted = some id → id.number < held.number

namespace Written

variable {value : Bytes} {ttl : Ttl} {earlier : List Arrival} {last : Arrival} {held : LeaseId} {term : Nat}
variable (written : Written store begun key value lease ttl life earlier last held term now trial)

include written

theorem sound : trial.store.Sound := by
  obtain ⟨due, beside⟩ := written.beside
  exact beside.sound

theorem writing : Writing store begun key lease life now trial := by
  obtain ⟨due, beside⟩ := written.beside
  have numbered : held.number ≤ trial.store.lastLease := (beside.sound.seen_numbered written.shown).2
  refine ⟨⟨Nat.le_trans written.past written.before, due, beside.later written.before⟩, written.counted, ?_⟩
  intro arrival member id granted
  obtain ⟨unnamed, above, below⟩ := written.granted arrival member id granted
  exact ⟨unnamed, above, Int.le_trans below numbered⟩

theorem ended (sound : store.Sound) {arrival : Arrival} (member : arrival ∈ earlier) {id : LeaseId}
    (granted : arrival.granted = some id) {time : Nat} (order : last.time ≤ time) :
    (trial.store.timeToLive time id).1 = none := by
  rw [written.sound.timeToLive_eq_none_iff]
  intro alive
  obtain ⟨k, holding, shown, rfl⟩ := written.sound.alive_of_later order alive
  have below := written.below arrival member _ granted
  by_cases own : k = key
  · rw [own, written.shown] at shown
    cases shown
    exact Int.lt_irrefl _ below
  · -- what is on another key was on it before the first attempt
    rw [written.others k own] at shown
    obtain ⟨former, hold, rfl⟩ := Option.map_eq_some_iff.1 (Option.filter_eq_some_iff.1 shown).1
    have listed : arrival ∈ trial.arrivals := written.arrivals ▸ List.mem_append_left _ member
    obtain ⟨_, above, _⟩ := written.granted arrival listed _ granted
    have numbered := (sound.seen_numbered hold).2
    rw [Holding.renewed_lease] at above
    omega

theorem others_later {k : String} (other : k ≠ key) {time : Nat} (order : last.time ≤ time) :
    trial.store.seen time k = ((store.seen begun k).map (Holding.renewed last.time lease)).filter
      fun holding => time < holding.deadline := by
  rw [written.sound.seen_later order, written.others k other]
  exact filter_until Holding.deadline order _

end Written

theorem Writing.arrives_unnamed (sound : store.Sound) (lasts : store.LastsFor begun .none life) (value : Bytes)
    (ttl : Ttl) {number : Nat} (latest : number + 1 = trial.attempts)
    (writing : Writing store begun key .none life now trial) :
    ∃ after, trial.store.step now (.put key value .none ttl) = (.ok (), after) ∧
      ∃ earlier last held term, Written store begun key value .none ttl life earlier last held term now
        (trial.arrived number now (.put key value .none ttl)) := by
  obtain ⟨due, beside⟩ := writing.beside
  obtain ⟨after, hstep, counted, shown, beside'⟩ := beside.put_none value ttl
  have above := writing.counted
  refine ⟨after, hstep, trial.arrivals, ⟨number, now, some ⟨trial.store.lastLease + 1⟩⟩,
    ⟨trial.store.lastLease + 1⟩, ttl.millis, ?_⟩
  have arrived : trial.arrived number now (.put key value .none ttl) =
      ⟨after, trial.attempts, trial.arrivals ++ [⟨number, now, some ⟨trial.store.lastLease + 1⟩⟩]⟩ := by
    simp only [Trial.arrived, hstep, StoreOp.action, beside.sound.issue_put_none]
  rw [arrived]
  refine {
    arrivals := rfl
    latest := latest
    past := writing.past
    before := Nat.le_refl now
    shown := shown
    terms := ⟨fun _ => ⟨rfl, rfl⟩, fun named => absurd rfl named⟩
    others := ?_
    beside := ⟨due, beside'⟩
    counted := by rw [counted]; omega
    granted := ?_
    below := ?_ }
  · intro k other
    rw [beside'.others k other, ← map_endingAt_add lasts, sound.map_endingAt_none, sound.map_endingAt_none]
  · intro arrival member id granted
    obtain earlier | own := List.mem_append.1 member
    · obtain ⟨_, fresh, old⟩ := writing.granted arrival earlier id granted
      exact ⟨rfl, fresh, by simp only; omega⟩
    · rw [List.mem_singleton.1 own] at granted
      cases granted
      exact ⟨rfl, by simp only; omega, Int.le_refl _⟩
  · intro arrival earlier id granted
    have old := (writing.granted arrival earlier id granted).2.2
    simp only
    omega

theorem Writing.ungranted (writing : Writing store begun key lease life now trial) (named : lease ≠ .none)
    (number : Nat) {arrival : Arrival} (member : arrival ∈ trial.arrivals ++ [⟨number, now, none⟩]) :
    arrival.granted = none := by
  obtain earlier | own := List.mem_append.1 member
  · cases granted : arrival.granted with
    | none => rfl
    | some id => exact absurd (writing.granted arrival earlier id granted).1 named
  · rw [List.mem_singleton.1 own]

theorem Writing.arrives_named (lasts : store.LastsFor begun lease life) (value : Bytes) (ttl : Ttl) {number : Nat}
    (latest : number + 1 = trial.attempts) (writing : Writing store begun key lease life now trial)
    (named : lease ≠ .none) (alive : trial.store.Alive now lease) :
    ∃ after, trial.store.step now (.put key value lease ttl) = (.ok (), after) ∧
      ∃ earlier last held term, Written store begun key value lease ttl life earlier last held term now
        (trial.arrived number now (.put key value lease ttl)) := by
  obtain ⟨due, beside⟩ := writing.beside
  obtain ⟨after, hstep, counted, before, shown, beside'⟩ := beside.put_alive lasts alive value ttl
  refine ⟨after, hstep, trial.arrivals, ⟨number, now, none⟩, lease, life, ?_⟩
  have arrived : trial.arrived number now (.put key value lease ttl) =
      ⟨after, trial.attempts, trial.arrivals ++ [⟨number, now, none⟩]⟩ := by
    simp only [Trial.arrived, hstep, StoreOp.action, issue_put_named now key value ttl named]
  rw [arrived]
  refine {
    arrivals := rfl
    latest := latest
    past := writing.past
    before := Nat.le_refl now
    shown := shown
    terms := ⟨fun unnamed => absurd unnamed named, fun _ => ⟨rfl, rfl, lasts.ttl before⟩⟩
    others := ?_
    beside := ⟨_, beside'⟩
    counted := by rw [counted]; exact writing.counted
    granted := ?_
    below := fun arrival earlier id granted => absurd (writing.granted arrival earlier id granted).1 named }
  · intro k other
    rw [beside'.others k other, map_endingAt_add lasts]
  · intro arrival member id granted
    rw [writing.ungranted named number member] at granted
    cases granted

theorem Writing.arrives_refused (value : Bytes) (ttl : Ttl) (number : Nat)
    (writing : Writing store begun key lease life now trial) (named : lease ≠ .none)
    (dead : ¬ trial.store.Alive now lease) :
    trial.store.step now (.put key value lease ttl) = (.error (.leaseNotFound lease), trial.store.purge now) ∧
      Writing store begun key lease life now (trial.arrived number now (.put key value lease ttl)) := by
  obtain ⟨due, beside⟩ := writing.beside
  have refused := beside.sound.step_put_dead key value ttl named dead
  have arrived : trial.arrived number now (.put key value lease ttl) =
      ⟨trial.store.purge now, trial.attempts, trial.arrivals ++ [⟨number, now, none⟩]⟩ := by
    simp only [Trial.arrived, refused, StoreOp.action, issue_put_named now key value ttl named]
  rw [arrived]
  refine ⟨refused, ⟨writing.past, due, beside.purge⟩, writing.counted, ?_⟩
  intro arrival member id granted
  rw [writing.ungranted named number member] at granted
  cases granted

theorem repeatable_put (sound : store.Sound) (lasts : store.LastsFor begun lease life) (key : String)
    (value : Bytes) (ttl : Ttl) :
    Repeatable (.put key value lease ttl) (Writing store begun key lease life) fun _ now trial =>
      ∃ earlier last held term, Written store begun key value lease ttl life earlier last held term now trial where
  waits now later trial writing order := { writing with toPending := writing.toPending.waits order }
  lasts := by
    rintro _ now later trial ⟨earlier, last, held, term, written⟩ order
    exact ⟨earlier, last, held, term, { written with before := Nat.le_trans written.before order }⟩
  weakens := by
    rintro _ now trial ⟨earlier, last, held, term, written⟩
    exact written.writing
  departs now trial writing := { past := writing.past, beside := writing.beside, counted := writing.counted,
                                 granted := writing.granted }
  arrives number now trial latest writing := by
    by_cases unnamed : lease = .none
    · subst unnamed
      obtain ⟨after, hstep, written⟩ := writing.arrives_unnamed sound lasts value ttl latest
      rw [hstep]
      exact written
    · by_cases alive : trial.store.Alive now lease
      · obtain ⟨after, hstep, written⟩ := writing.arrives_named lasts value ttl latest unnamed alive
        rw [hstep]
        exact written
      · obtain ⟨refused, writing'⟩ := writing.arrives_refused value ttl number unnamed alive
        rw [refused]
        exact writing'

/-- A write or a removal whose attempts may take effect without an answer, and may be answered too late: it always
returns. If a write returns a success, its last attempt is the last that the store saw, and the key is as that
one left it: it has the value, on the lease that was named or else on the one that the last attempt was granted,
with all of its lifetime from then on. No lease that an earlier attempt was granted is alive any more. If a
removal returns a success, the key is gone. Every other key is as it was, until its own lease ends. -/
theorem lost_answers_leave_one_write {since : Nat} {store : LeaseStore} (reached : Reached since store)
    (policy : RetryPolicy) (schedule : Nat → Passage) {start : Moment Trial} (running : start.Running none)
    (fresh : start.state = { store }) :
    (∀ key value lease ttl, ∃ outcome stop,
      ((policy.guard Timed.timing (Trial.remote schedule)).call (.put key value lease ttl)).runFrom start =
        (.ok outcome, stop) ∧
      (outcome = .ok () → ∃ earlier last held life,
        stop.state.arrivals = earlier ++ [last] ∧ last.attempt + 1 = stop.state.attempts ∧
        start.now ≤ last.time ∧ last.time ≤ stop.now ∧
        stop.state.store.seen last.time key = some ⟨value, held, life, last.time + life⟩ ∧
        Terms store lease ttl last.granted held life ∧
        (∀ arrival ∈ earlier, ∀ id, arrival.granted = some id → ∀ now, last.time ≤ now →
          (stop.state.store.timeToLive now id).1 = none) ∧
        ∀ k, k ≠ key → ∀ now, last.time ≤ now → stop.state.store.seen now k =
          ((store.seen start.now k).map (Holding.renewed last.time lease)).filter fun holding =>
            now < holding.deadline)) ∧
    ∀ key, ∃ outcome stop,
      ((policy.guard Timed.timing (Trial.remote schedule)).call (.delete key)).runFrom start =
        (.ok outcome, stop) ∧
      (outcome = .ok () → ∀ k now, stop.now ≤ now →
        stop.state.store.seen now k = if k = key then none else store.seen now k) := by
  have sound := reached.upheld.toSound
  have stored : start.state.store = store := by rw [fresh]
  refine ⟨?_, ?_⟩
  · intro key value lease ttl
    obtain ⟨life, due, lasts, beside⟩ := sound.beside_start start.now key lease
    have writing : Writing store start.now key lease life start.now start.state := by
      rw [fresh]
      exact ⟨⟨Nat.le_refl _, due, beside⟩, Int.le_refl _, nofun⟩
    obtain ⟨outcome, stop, run, follows⟩ :=
      (repeatable_put sound lasts key value ttl).total policy schedule running writing
    refine ⟨outcome, stop, run, ?_⟩
    rintro rfl
    obtain ⟨earlier, last, held, term, written⟩ := follows
    refine ⟨earlier, last, held, term, written.arrivals, written.latest, written.past, written.before,
      written.shown, written.terms, ?_, ?_⟩
    · intro arrival member id granted now order
      exact written.ended sound member granted order
    · intro k other now order
      exact written.others_later other order
  · intro key
    obtain ⟨life, due, _, beside⟩ := sound.beside_start start.now key .none
    have pending : Pending store start.now key .none life start.now start.state := by
      rw [fresh]
      exact ⟨Nat.le_refl _, due, beside⟩
    obtain ⟨outcome, stop, run, follows⟩ :=
      (repeatable_delete store start.now life key).total policy schedule running pending
    refine ⟨outcome, stop, run, ?_⟩
    rintro rfl
    intro k now order
    obtain ⟨pending, removed⟩ := (repeatable_delete store start.now life key).lasts () _ now _ follows order
    by_cases own : k = key
    · rw [if_pos own, own]
      exact removed
    · rw [if_neg own]
      exact pending.others sound own

def oneVoter : LeaseStore := .through [(10, .put "other" [7] .none { seconds := 90 })] .empty

/-- The first answer is lost, the second comes too late, and the third comes back. -/
def lossyPassages : Nat → Passage
  | 0 => .unheard 10 20 (.unavailable "reset")
  | 1 => .answered 30 6000
  | _ => .answered 5 5

def lossyWrite : Except CutOff (Except StoreError Unit) × Moment Trial :=
  ((RetryPolicy.standard.guard Timed.timing (Trial.remote lossyPassages)).call
    (.put "key" [1] .none { seconds := 30 })).runFrom { now := 100, state := { store := oneVoter } }

theorem third_lease_kept : Reached 10 oneVoter ∧
    ({ now := 100, state := { store := oneVoter } } : Moment Trial).Running none ∧
    ∃ stop, lossyWrite = (.ok (.ok ()), stop) ∧
      stop.state.arrivals = [⟨0, 110, some ⟨2⟩⟩, ⟨1, 360, some ⟨3⟩⟩, ⟨2, 5535, some ⟨4⟩⟩] ∧
      stop.state.store.seen 5535 "key" = some ⟨[1], ⟨4⟩, 30000, 35535⟩ ∧
      (stop.state.store.timeToLive 5535 ⟨3⟩).1 = none ∧
      stop.state.store.seen 5535 "other" = some ⟨[7], ⟨1⟩, 90000, 90010⟩ := by
  have reached : Reached 10 oneVoter := .act .start (Nat.zero_le 10) _
  have running : ({ now := 100, state := { store := oneVoter } } : Moment Trial).Running none :=
    ⟨Nat.zero_le 100, rfl, nofun⟩
  have answered : lossyWrite.1 = .ok (.ok ()) := by decide +kernel
  have arrivals : lossyWrite.2.state.arrivals =
      [⟨0, 110, some ⟨2⟩⟩, ⟨1, 360, some ⟨3⟩⟩, ⟨2, 5535, some ⟨4⟩⟩] := by decide +kernel
  have other : oneVoter.seen 100 "other" = some ⟨[7], ⟨1⟩, 90000, 90010⟩ := by decide +kernel
  obtain ⟨outcome, stop, run, stands⟩ :=
    (lost_answers_leave_one_write reached .standard lossyPassages running rfl).1 "key" [1] .none { seconds := 30 }
  have same : lossyWrite = (.ok outcome, stop) := run
  rw [same] at answered arrivals
  cases answered
  obtain ⟨earlier, last, held, life, listed, _, _, _, shown, terms, ended, others⟩ := stands rfl
  have split : earlier ++ [last] = [⟨0, 110, some ⟨2⟩⟩, ⟨1, 360, some ⟨3⟩⟩] ++ [⟨2, 5535, some ⟨4⟩⟩] :=
    listed.symm.trans arrivals
  obtain ⟨rfl, latest⟩ := List.append_inj' split rfl
  cases latest
  obtain ⟨granted, rfl⟩ := terms.1 rfl
  cases granted
  refine ⟨reached, running, stop, same, arrivals, shown, ?_, ?_⟩
  · exact ended ⟨1, 360, some ⟨3⟩⟩ (by decide) ⟨3⟩ rfl 5535 (Nat.le_refl _)
  · rw [others "other" (by decide) 5535 (Nat.le_refl _), other]
    rfl

end VoterSession.Scenario
