import VoterSession.Proofs.Store.Book
import VoterSession.Proofs.Store.Step
set_option autoImplicit false

/-!
The lease store behaves like the book that never forgets: that it strikes expired leases and their keys,
and when it does so, cannot be told from its answers. Main statement: `expiry_unobservable`.
-/
namespace VoterSession

inductive StoreAction where
  | get (key : String)
  | put (key : String) (value : Bytes) (lease : LeaseId) (ttl : Ttl)
  | delete (key : String)
  | timeToLive (lease : LeaseId)
  | liveKeys
  | liveLeases
  | expire
deriving DecidableEq

def StoreAction.observes : StoreAction → Bool
  | put .. | delete _ => false
  | _ => true

inductive StoreReply where
  | found (stored : Option StoredValue)
  | done
  | failed (error : StoreError)
  | remaining (millis : Option Nat)
  | count (n : Nat)
  | nothing
deriving DecidableEq

def StoreReply.ofResult {α : Type} (shown : α → StoreReply) : Except StoreError α → StoreReply
  | .ok result => shown result
  | .error error => .failed error

/-- An action on the store that forgets what has expired. -/
def LeaseStore.perform (now : Nat) (action : StoreAction) (store : LeaseStore) : StoreReply × LeaseStore :=
  match action with
  | .get key => (store.step now (.get key)).map (.ofResult .found) id
  | .put key value lease ttl =>
    (store.step now (.put key value lease ttl)).map (.ofResult fun _ => .done) id
  | .delete key => (store.step now (.delete key)).map (.ofResult fun _ => .done) id
  | .timeToLive lease => (store.timeToLive now lease).map .remaining id
  | .liveKeys => (store.liveKeys now).map .count id
  | .liveLeases => (store.liveLeases now).map .count id
  | .expire => (.nothing, store.purge now)

/-- An action on the book that never forgets. -/
def LeaseBook.perform (now : Nat) (action : StoreAction) (book : LeaseBook) : StoreReply × LeaseBook :=
  match action with
  | .get key => (.found (book.get now key), book)
  | .put key value lease ttl => (book.put now key value lease ttl).map (.ofResult fun _ => .done) id
  | .delete key => (.done, book.delete key)
  | .timeToLive lease => (.remaining (book.timeToLive now lease), book)
  | .liveKeys => (.count (book.liveKeys now), book)
  | .liveLeases => (.count (book.liveLeases now), book)
  | .expire => (.nothing, book)

def replies {σ : Type} (perform : Nat → StoreAction → σ → StoreReply × σ) :
    σ → List (Nat × StoreAction) → List StoreReply
  | _, [] => []
  | state, (now, action) :: rest =>
    (perform now action state).1 :: replies perform (perform now action state).2 rest

/-- The store has kept of the book what is live. -/
structure Refines (now : Nat) (store : LeaseStore) (book : LeaseBook) : Prop where
  sound : store.Sound
  numbered : book.Numbered
  counted : store.lastLease = book.grants.size
  shown : ∀ key, store.seen now key = book.seen now key

namespace Refines

variable {now : Nat} {store : LeaseStore} {book : LeaseBook}

theorem start : Refines 0 .empty .empty where
  sound := LeaseStore.sound_empty
  numbered := LeaseBook.numbered_empty
  counted := rfl
  shown := by
    intro key
    rw [LeaseStore.seen_empty]
    simp [LeaseBook.seen, LeaseBook.holding?, LeaseBook.empty]

theorem later (refines : Refines now store book) {time : Nat} (order : now ≤ time) :
    Refines time store book where
  sound := refines.sound
  numbered := refines.numbered
  counted := refines.counted
  shown := by
    intro key
    rw [refines.sound.seen_later order, refines.shown]
    unfold LeaseBook.seen
    rw [Option.filter_filter]
    congr 1
    funext holding
    rw [← Bool.decide_and]
    exact decide_eq_decide.2 ⟨fun h => h.2, fun h => ⟨by omega, h⟩⟩

theorem next_eq (refines : Refines now store book) : book.next = ⟨store.lastLease + 1⟩ := by
  rw [LeaseBook.next, refines.counted]

theorem purge (refines : Refines now store book) : Refines now (store.purge now) book where
  sound := refines.sound.purge now
  numbered := refines.numbered
  counted := refines.counted
  shown := fun key => (refines.sound.seen_now_purge now key).trans (refines.shown key)

/-! ### What is live -/

theorem alive_iff (refines : Refines now store book) (lease : LeaseId) :
    store.Alive now lease ↔ (book.live? now lease).isSome = true := by
  rw [Option.isSome_iff_exists]
  constructor
  · rintro ⟨key, holding, hseen, rfl⟩
    rw [refines.shown] at hseen
    exact ⟨_, LeaseBook.live?_eq_some_iff_seen.2 ⟨key, holding, hseen, rfl, rfl⟩⟩
  · rintro ⟨grant, live⟩
    obtain ⟨key, holding, hseen, same, _⟩ := LeaseBook.live?_eq_some_iff_seen.1 live
    exact ⟨key, holding, (refines.shown key).trans hseen, same⟩

theorem slot_eq (refines : Refines now store book) (lease : LeaseId) :
    ((store.purge now).slots[lease]?.map fun slot => Grant.mk slot.ttl slot.deadline) =
      book.live? now lease := by
  cases hslot : (store.purge now).slots[lease]? with
  | none =>
    have dead : ¬ store.Alive now lease := by
      rw [← refines.sound.slot_iff_alive, hslot]
      exact Bool.false_ne_true
    rw [refines.alive_iff, Option.not_isSome_iff_eq_none] at dead
    exact dead.symm
  | some slot =>
    obtain ⟨key, value, hseen, _⟩ := (refines.sound.purge now).holding?_of_slot hslot
    have shown := (refines.shown key).symm.trans hseen
    exact (LeaseBook.live?_eq_some_iff_seen.2 ⟨key, _, shown, rfl, rfl⟩).symm

theorem entry_eq (refines : Refines now store book) (key : String) :
    (store.purge now).entries[key]? = book.get now key := by
  rw [(refines.sound.purge now).entry_eq, LeaseBook.get_eq, ← refines.shown]
  rfl

theorem timeToLive (refines : Refines now store book) (lease : LeaseId) :
    (store.timeToLive now lease).1 = book.timeToLive now lease := by
  rw [LeaseBook.timeToLive, ← refines.slot_eq, Option.map_map]
  rfl

theorem liveKeys (refines : Refines now store book) :
    (store.liveKeys now).1 = book.liveKeys now := by
  have same : (store.purge now).entries =
      book.keys.filter fun _ stored => (book.live? now stored.lease).isSome := by
    apply Std.ExtTreeMap.ext_getElem?
    intro key
    rw [refines.entry_eq, Std.ExtTreeMap.getElem?_filter']
    rfl
  exact congrArg Std.ExtTreeMap.size same

theorem liveLeases (refines : Refines now store book) :
    (store.liveLeases now).1 = book.liveLeases now := by
  have same : ((store.purge now).slots.map fun _ slot => Grant.mk slot.ttl slot.deadline) =
      book.grants.filter fun lease _ => (book.live? now lease).isSome := by
    apply Std.ExtTreeMap.ext_getElem?
    intro lease
    rw [Std.ExtTreeMap.getElem?_map, refines.slot_eq, Std.ExtTreeMap.getElem?_filter']
    cases live : book.live? now lease with
    | none => simp
    | some grant =>
      rw [(LeaseBook.live?_eq_some_iff.1 live).1]
      rfl
  have sizes := congrArg Std.ExtTreeMap.size same
  rw [Std.ExtTreeMap.size_map] at sizes
  exact sizes

/-! ### One action -/

theorem put_none (refines : Refines now store book) (key : String) (value : Bytes) (ttl : Ttl) :
    ∃ after, store.step now (.put key value .none ttl) = (.ok (), after) ∧
      Refines now after (book.enter key ⟨value, book.next⟩ ⟨ttl.millis, now + ttl.millis⟩) := by
  obtain ⟨after, hstep, sound, counted, seen⟩ := refines.sound.step_put_none now key value ttl
  refine ⟨after, hstep, sound, refines.numbered.enter_next key value _, ?_, ?_⟩
  · rw [LeaseBook.size_enter_next refines.numbered, counted, refines.counted]
    rfl
  · intro k
    rw [seen, LeaseBook.seen]
    by_cases here : k = key
    · have positive := ttl.millis_pos
      rw [if_pos here, here, LeaseBook.holding?_enter_self, refines.next_eq]
      simp [Option.filter, positive]
    · rw [if_neg here, refines.numbered.holding?_enter_next here, refines.shown, LeaseBook.seen]

theorem put_alive (refines : Refines now store book) (key : String) (value : Bytes) {lease : LeaseId}
    (ttl : Ttl) {grant : Grant} (live : book.live? now lease = some grant) :
    ∃ after, store.step now (.put key value lease ttl) = (.ok (), after) ∧
      Refines now after (book.enter key ⟨value, lease⟩ ⟨grant.ttl, now + grant.ttl⟩) := by
  obtain ⟨granted, alive, _⟩ := LeaseBook.live?_eq_some_iff.1 live
  obtain ⟨old, holding, hseen, rfl, rfl⟩ := LeaseBook.live?_eq_some_iff_seen.1 live
  obtain ⟨after, hstep, sound, counted, seen⟩ :=
    @LeaseStore.Sound.step_put_alive store refines.sound now key old holding value ttl
      ((refines.shown old).trans hseen)
  have member := Std.ExtTreeMap.mem_iff_isSome_getElem?.2 (Option.isSome_of_eq_some granted)
  have lasting : 0 < holding.ttl := by
    have own := seen key
    rw [if_pos rfl] at own
    have ends := sound.seen_alive own
    simp only at ends
    omega
  refine ⟨after, hstep, sound, refines.numbered.enter_renewed member key value _, ?_, ?_⟩
  · rw [LeaseBook.size_enter_renewed member, counted, refines.counted]
  · intro k
    rw [seen, LeaseBook.seen]
    by_cases here : k = key
    · rw [if_pos here, here, LeaseBook.holding?_enter_self]
      simp [Option.filter, lasting]
    · rw [if_neg here, LeaseBook.holding?_enter_renewed granted here, refines.shown, LeaseBook.seen]
      cases hother : book.holding? k with
      | none => rfl
      | some other =>
        -- the lease was live before and is so for as long again, whatever its key
        by_cases same : other.lease = holding.lease
        · have grants := (LeaseBook.holding?_eq_some_iff.1 hother).2
          rw [same, granted, Option.some.injEq, Grant.mk.injEq] at grants
          obtain ⟨ttl, deadline⟩ := grants
          simp [Option.filter, Holding.renewed, same, ← ttl, ← deadline, alive, lasting]
        · rw [Option.map_some, Holding.renewed_of_ne now same]
          by_cases ends : now < other.deadline <;>
            simp [Option.filter, ends, Holding.renewed_of_ne now same]

theorem put (refines : Refines now store book) (key : String) (value : Bytes) (lease : LeaseId)
    (ttl : Ttl) : (store.step now (.put key value lease ttl)).1 = (book.put now key value lease ttl).1 ∧
      Refines now (store.step now (.put key value lease ttl)).2 (book.put now key value lease ttl).2 := by
  unfold LeaseBook.put
  by_cases unnamed : lease.isNone = true
  · obtain rfl : lease = .none := by
      cases lease
      rw [LeaseId.isNone, beq_iff_eq] at unnamed
      rw [LeaseId.none, ← unnamed]
    obtain ⟨after, hstep, kept⟩ := refines.put_none key value ttl
    rw [if_pos unnamed, hstep]
    exact ⟨rfl, kept⟩
  · rw [if_neg unnamed]
    cases live : book.live? now lease with
    | some grant =>
      obtain ⟨after, hstep, kept⟩ := refines.put_alive key value ttl live
      rw [hstep]
      exact ⟨rfl, kept⟩
    | none =>
      have named : lease ≠ .none := by
        rintro rfl
        exact unnamed rfl
      have dead : ¬ store.Alive now lease := by
        rw [refines.alive_iff, live]
        exact Bool.false_ne_true
      rw [refines.sound.step_put_dead key value ttl named dead]
      exact ⟨rfl, refines.purge⟩

theorem delete (refines : Refines now store book) (key : String) :
    ∃ after, store.step now (.delete key) = (.ok (), after) ∧ Refines now after (book.delete key) := by
  obtain ⟨after, hstep, sound, counted, seen⟩ := refines.sound.step_delete now key
  refine ⟨after, hstep, sound, refines.numbered.delete key, counted.trans refines.counted, ?_⟩
  intro k
  rw [seen, LeaseBook.seen, LeaseBook.holding?_delete]
  by_cases here : k = key
  · rw [if_pos here, if_pos here]
    rfl
  · rw [if_neg here, if_neg here, refines.shown, LeaseBook.seen]

theorem perform (refines : Refines now store book) (action : StoreAction) :
    (store.perform now action).1 = (book.perform now action).1 ∧
      Refines now (store.perform now action).2 (book.perform now action).2 := by
  cases action with
  | get key =>
    exact ⟨congrArg StoreReply.found (refines.entry_eq key), refines.purge⟩
  | put key value lease ttl =>
    obtain ⟨answer, kept⟩ := refines.put key value lease ttl
    exact ⟨congrArg (StoreReply.ofResult fun _ => .done) answer, kept⟩
  | delete key =>
    obtain ⟨after, hstep, kept⟩ := refines.delete key
    simp only [LeaseStore.perform, hstep]
    exact ⟨rfl, kept⟩
  | timeToLive lease => exact ⟨congrArg StoreReply.remaining (refines.timeToLive lease), refines.purge⟩
  | liveKeys => exact ⟨congrArg StoreReply.count refines.liveKeys, refines.purge⟩
  | liveLeases => exact ⟨congrArg StoreReply.count refines.liveLeases, refines.purge⟩
  | expire => exact ⟨rfl, refines.purge⟩

theorem replies_eq (refines : Refines now store book) {actions : List (Nat × StoreAction)}
    (ordered : (now :: actions.map Prod.fst).Pairwise (· ≤ ·)) :
    replies LeaseStore.perform store actions = replies LeaseBook.perform book actions := by
  induction actions generalizing now store book with
  | nil => rfl
  | cons first rest ih =>
    obtain ⟨time, action⟩ := first
    obtain ⟨first, ordered⟩ := List.pairwise_cons.1 ordered
    obtain ⟨answer, kept⟩ := (refines.later (first time List.mem_cons_self)).perform action
    rw [replies, replies, answer, ih kept ordered]

end Refines

/-! ### What only looks -/

theorem LeaseBook.perform_observes (now : Nat) {action : StoreAction} (looks : action.observes = true)
    (book : LeaseBook) : (book.perform now action).2 = book := by
  cases action <;> first | rfl | cases looks

/-- An observation in the book has its own answer and changes no other. -/
theorem LeaseBook.replies_eraseIdx (book : LeaseBook) {actions : List (Nat × StoreAction)} {i : Nat}
    {now : Nat} {action : StoreAction} (here : actions[i]? = some (now, action))
    (looks : action.observes = true) : (replies LeaseBook.perform book actions).eraseIdx i =
      replies LeaseBook.perform book (actions.eraseIdx i) := by
  induction actions generalizing book i with
  | nil => cases here
  | cons first rest ih =>
    cases i with
    | zero =>
      cases here
      rw [replies, List.eraseIdx_cons_zero, List.eraseIdx_cons_zero, book.perform_observes now looks]
    | succ i =>
      rw [replies, List.eraseIdx_cons_succ, List.eraseIdx_cons_succ, replies, ih _ here]

/-- Asked anything at times that do not go back, the store that forgets replies as the book does; and an
observation, that of expiry itself included, changes no reply but its own. -/
theorem expiry_unobservable (actions : List (Nat × StoreAction))
    (ordered : (actions.map Prod.fst).Pairwise (· ≤ ·)) :
    replies LeaseStore.perform .empty actions = replies LeaseBook.perform .empty actions ∧
    ∀ i now action, actions[i]? = some (now, action) → action.observes = true →
      (replies LeaseStore.perform .empty actions).eraseIdx i =
        replies LeaseStore.perform .empty (actions.eraseIdx i) := by
  have refined : ∀ actions : List (Nat × StoreAction), (actions.map Prod.fst).Pairwise (· ≤ ·) →
      replies LeaseStore.perform .empty actions = replies LeaseBook.perform .empty actions := by
    intro actions ordered
    exact Refines.start.replies_eq (List.pairwise_cons.2 ⟨fun time _ => Nat.zero_le time, ordered⟩)
  refine ⟨refined actions ordered, ?_⟩
  intro i now action here looks
  have fewer : ((actions.eraseIdx i).map Prod.fst).Pairwise (· ≤ ·) :=
    ordered.sublist ((List.eraseIdx_sublist actions i).map Prod.fst)
  rw [refined actions ordered, refined _ fewer, LeaseBook.replies_eraseIdx .empty here looks]

def leaseTraffic : List (Nat × StoreAction) :=
  [(0, .put "first" [1] .none { seconds := 1 }), (400, .put "second" [2] ⟨1⟩ { seconds := 60 }),
    (1399, .get "first"), (1400, .put "first" [3] ⟨1⟩ { seconds := 60 }),
    (1500, .put "first" [4] .none { seconds := 2 }), (1600, .put "first" [5] .none { seconds := 3 }),
    (1600, .expire), (1700, .timeToLive ⟨2⟩), (1700, .timeToLive ⟨3⟩), (1800, .delete "first"),
    (1800, .liveKeys)]

theorem lease_traffic_observed : (leaseTraffic.map Prod.fst).Pairwise (· ≤ ·) ∧
    replies LeaseStore.perform .empty leaseTraffic =
      [.done, .done, .found (some ⟨[1], ⟨1⟩⟩), .failed (.leaseNotFound ⟨1⟩), .done, .done, .nothing,
        .remaining none, .remaining (some 2900), .done, .count 0] ∧
    (replies LeaseStore.perform .empty leaseTraffic).eraseIdx 2 =
      replies LeaseStore.perform .empty (leaseTraffic.eraseIdx 2) := by
  have ordered : (leaseTraffic.map Prod.fst).Pairwise (· ≤ ·) := by decide
  obtain ⟨refined, erased⟩ := expiry_unobservable leaseTraffic ordered
  refine ⟨ordered, refined.trans ?_, erased 2 1399 (.get "first") rfl rfl⟩
  decide +kernel

end VoterSession
