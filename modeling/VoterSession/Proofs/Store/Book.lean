import VoterSession.Store.Memory
import VoterSession.Proofs.Store.Holding
set_option autoImplicit false

/-!
A lease store that never forgets. The book keeps the last write of every key that was not deleted, and
every lease that was ever granted; what is live is worked out from the clock when somebody asks. Main
statements: `live?_eq_some_iff_seen` and `get_eq`, which say in holdings what the book answers.
-/
namespace VoterSession

structure Grant where
  ttl : Nat
  deadline : Nat
deriving DecidableEq

/-- The keys with their values and leases, and the leases that were ever granted. -/
structure LeaseBook where
  keys : Std.ExtTreeMap String StoredValue := ∅
  grants : Std.ExtTreeMap LeaseId Grant := ∅

namespace LeaseBook

def empty : LeaseBook := {}

def attached (lease : LeaseId) (book : LeaseBook) : Bool :=
  book.keys.toList.any fun entry => entry.2.lease == lease

/-- A lease that is live: its deadline is still to come, and some key is on it. -/
def live? (now : Nat) (lease : LeaseId) (book : LeaseBook) : Option Grant :=
  book.grants[lease]?.filter fun grant => now < grant.deadline && book.attached lease

def get (now : Nat) (key : String) (book : LeaseBook) : Option StoredValue :=
  book.keys[key]?.filter fun stored => (book.live? now stored.lease).isSome

def next (book : LeaseBook) : LeaseId := ⟨book.grants.size + 1⟩

def enter (key : String) (stored : StoredValue) (grant : Grant) (book : LeaseBook) : LeaseBook where
  keys := book.keys.insert key stored
  grants := book.grants.insert stored.lease grant

/-- A write on a new lease when it names none, and otherwise on a live lease, which starts anew. -/
def put (now : Nat) (key : String) (value : Bytes) (lease : LeaseId) (ttl : Ttl) (book : LeaseBook) :
    Except StoreError Unit × LeaseBook :=
  if lease.isNone then
    (.ok (), book.enter key ⟨value, book.next⟩ ⟨ttl.millis, now + ttl.millis⟩)
  else match book.live? now lease with
    | none => (.error (.leaseNotFound lease), book)
    | some grant => (.ok (), book.enter key ⟨value, lease⟩ ⟨grant.ttl, now + grant.ttl⟩)

def delete (key : String) (book : LeaseBook) : LeaseBook := { book with keys := book.keys.erase key }

def timeToLive (now : Nat) (lease : LeaseId) (book : LeaseBook) : Option Nat :=
  (book.live? now lease).map fun grant => grant.deadline - now

def liveKeys (now : Nat) (book : LeaseBook) : Nat :=
  (book.keys.filter fun _ stored => (book.live? now stored.lease).isSome).size

def liveLeases (now : Nat) (book : LeaseBook) : Nat :=
  (book.grants.filter fun lease _ => (book.live? now lease).isSome).size

/-! ### What the book shows -/

def holding? (key : String) (book : LeaseBook) : Option Holding :=
  book.keys[key]?.bind fun stored => book.grants[stored.lease]?.map fun grant =>
    { value := stored.value, lease := stored.lease, ttl := grant.ttl, deadline := grant.deadline }

def seen (now : Nat) (key : String) (book : LeaseBook) : Option Holding :=
  (book.holding? key).filter fun holding => now < holding.deadline

/-- Every key is on a lease that was granted, and the leases are numbered from one without a gap. -/
structure Numbered (book : LeaseBook) : Prop where
  kept : ∀ {key : String} {stored : StoredValue}, book.keys[key]? = some stored →
    stored.lease ∈ book.grants
  counted : ∀ {lease : LeaseId}, lease ∈ book.grants →
    1 ≤ lease.number ∧ lease.number ≤ book.grants.size

variable {book : LeaseBook} {now : Nat} {lease : LeaseId}

theorem attached_iff : book.attached lease = true ↔
    ∃ (key : String) (stored : StoredValue), book.keys[key]? = some stored ∧ stored.lease = lease := by
  simp only [attached, List.any_eq_true, beq_iff_eq, Prod.exists,
    Std.ExtTreeMap.mem_toList_iff_getElem?_eq_some]

theorem live?_eq_some_iff {grant : Grant} : book.live? now lease = some grant ↔
    book.grants[lease]? = some grant ∧ now < grant.deadline ∧
      ∃ (key : String) (stored : StoredValue), book.keys[key]? = some stored ∧ stored.lease = lease := by
  rw [live?, Option.filter_eq_some_iff, Bool.and_eq_true, decide_eq_true_eq, attached_iff]

theorem holding?_eq_some_iff {key : String} {holding : Holding} :
    book.holding? key = some holding ↔ book.keys[key]? = some holding.stored ∧
      book.grants[holding.lease]? = some ⟨holding.ttl, holding.deadline⟩ := by
  unfold holding?
  constructor
  · intro h
    obtain ⟨stored, hkey, h⟩ := Option.bind_eq_some_iff.1 h
    obtain ⟨grant, hgrant, rfl⟩ := Option.map_eq_some_iff.1 h
    exact ⟨hkey, hgrant⟩
  · rintro ⟨hkey, hgrant⟩
    cases holding
    simp only [Holding.stored] at hkey hgrant
    simp [hkey, hgrant]

theorem seen_eq_some_iff {key : String} {holding : Holding} :
    book.seen now key = some holding ↔
      book.holding? key = some holding ∧ now < holding.deadline := by
  rw [seen, Option.filter_eq_some_iff, decide_eq_true_eq]

theorem live?_eq_some_iff_seen {grant : Grant} : book.live? now lease = some grant ↔
    ∃ key holding, book.seen now key = some holding ∧ holding.lease = lease ∧
      grant = ⟨holding.ttl, holding.deadline⟩ := by
  rw [live?_eq_some_iff]
  constructor
  · rintro ⟨hgrant, alive, key, stored, hkey, rfl⟩
    refine ⟨key, ⟨stored.value, stored.lease, grant.ttl, grant.deadline⟩, ?_, rfl, rfl⟩
    exact seen_eq_some_iff.2 ⟨holding?_eq_some_iff.2 ⟨hkey, hgrant⟩, alive⟩
  · rintro ⟨key, holding, hseen, rfl, rfl⟩
    obtain ⟨hholding, alive⟩ := seen_eq_some_iff.1 hseen
    obtain ⟨hkey, hgrant⟩ := holding?_eq_some_iff.1 hholding
    exact ⟨hgrant, alive, key, _, hkey, rfl⟩

theorem get_eq (now : Nat) (key : String) (book : LeaseBook) :
    book.get now key = (book.seen now key).map Holding.stored := by
  ext stored
  rw [get, Option.filter_eq_some_iff, Option.isSome_iff_exists, Option.map_eq_some_iff]
  constructor
  · rintro ⟨hkey, grant, hlive⟩
    obtain ⟨hgrant, alive, _⟩ := live?_eq_some_iff.1 hlive
    refine ⟨⟨stored.value, stored.lease, grant.ttl, grant.deadline⟩, ?_, rfl⟩
    exact seen_eq_some_iff.2 ⟨holding?_eq_some_iff.2 ⟨hkey, hgrant⟩, alive⟩
  · rintro ⟨holding, hseen, rfl⟩
    exact ⟨(holding?_eq_some_iff.1 (seen_eq_some_iff.1 hseen).1).1, _,
      live?_eq_some_iff_seen.2 ⟨key, holding, hseen, rfl, rfl⟩⟩

/-! ### What an entry changes -/

theorem getElem?_keys_enter (key : String) (stored : StoredValue) (grant : Grant) (book : LeaseBook)
    (k : String) : (book.enter key stored grant).keys[k]? =
      if k = key then some stored else book.keys[k]? := by
  simp only [enter, Std.ExtTreeMap.getElem?_insert, Std.LawfulEqCmp.compare_eq_iff_eq]
  exact if_congr eq_comm rfl rfl

theorem getElem?_grants_enter (key : String) (stored : StoredValue) (grant : Grant) (book : LeaseBook)
    (l : LeaseId) : (book.enter key stored grant).grants[l]? =
      if l = stored.lease then some grant else book.grants[l]? := by
  simp only [enter, Std.ExtTreeMap.getElem?_insert, Std.LawfulEqCmp.compare_eq_iff_eq]
  exact if_congr eq_comm rfl rfl

theorem mem_grants_enter {key : String} {stored : StoredValue} {grant : Grant} {l : LeaseId} :
    l ∈ (book.enter key stored grant).grants ↔ l = stored.lease ∨ l ∈ book.grants := by
  rw [enter, Std.ExtTreeMap.mem_insert, Std.LawfulEqCmp.compare_eq_iff_eq, eq_comm]

theorem holding?_enter_self (key : String) (stored : StoredValue) (grant : Grant) (book : LeaseBook) :
    (book.enter key stored grant).holding? key =
      some ⟨stored.value, stored.lease, grant.ttl, grant.deadline⟩ := by
  simp [holding?, getElem?_keys_enter, getElem?_grants_enter]

theorem Numbered.holding?_enter_next (numbered : book.Numbered) {key k : String} (other : k ≠ key)
    (value : Bytes) (grant : Grant) :
    (book.enter key ⟨value, book.next⟩ grant).holding? k = book.holding? k := by
  unfold holding?
  rw [getElem?_keys_enter, if_neg other]
  cases hkey : book.keys[k]? with
  | none => rfl
  | some stored =>
    have bound := (numbered.counted (numbered.kept hkey)).2
    have elsewhere : stored.lease ≠ book.next := by
      intro same
      rw [same, next] at bound
      simp only at bound
      omega
    rw [Option.bind_some, Option.bind_some, getElem?_grants_enter, if_neg elsewhere]

theorem holding?_enter_renewed {grant : Grant} (granted : book.grants[lease]? = some grant)
    {key k : String} (other : k ≠ key) (value : Bytes) (now : Nat) :
    (book.enter key ⟨value, lease⟩ ⟨grant.ttl, now + grant.ttl⟩).holding? k =
      (book.holding? k).map (Holding.renewed now lease) := by
  unfold holding?
  rw [getElem?_keys_enter, if_neg other]
  cases hkey : book.keys[k]? with
  | none => rfl
  | some stored =>
    rw [Option.bind_some, Option.bind_some, getElem?_grants_enter]
    by_cases here : stored.lease = lease
    · rw [if_pos here, here, granted]
      simp [Holding.renewed]
    · rw [if_neg here]
      cases book.grants[stored.lease]? with
      | none => rfl
      | some old => simp [Holding.renewed, here]

theorem holding?_delete (key k : String) (book : LeaseBook) :
    (book.delete key).holding? k = if k = key then none else book.holding? k := by
  unfold holding? delete
  simp only [Std.ExtTreeMap.getElem?_erase, Std.LawfulEqCmp.compare_eq_iff_eq]
  by_cases here : key = k
  · rw [if_pos here, if_pos here.symm]
    rfl
  · rw [if_neg here, if_neg fun same => here same.symm]

theorem numbered_empty : empty.Numbered where
  kept := by simp [empty]
  counted := by simp [empty]

theorem next_notMem (numbered : book.Numbered) : book.next ∉ book.grants := by
  intro granted
  have bound := (numbered.counted granted).2
  rw [next] at bound
  simp only at bound
  omega

theorem size_enter_next (numbered : book.Numbered) (key : String) (value : Bytes) (grant : Grant) :
    (book.enter key ⟨value, book.next⟩ grant).grants.size = book.grants.size + 1 := by
  rw [enter, Std.ExtTreeMap.size_insert, if_neg]
  rw [Std.ExtTreeMap.contains_iff_mem]
  exact next_notMem numbered

theorem size_enter_renewed (granted : lease ∈ book.grants) (key : String) (value : Bytes)
    (grant : Grant) : (book.enter key ⟨value, lease⟩ grant).grants.size = book.grants.size := by
  rw [enter, Std.ExtTreeMap.size_insert, if_pos (Std.ExtTreeMap.contains_iff_mem.2 granted)]

theorem kept_enter (numbered : book.Numbered) {key : String} {stored : StoredValue} {grant : Grant}
    {k : String} {found : StoredValue} (h : (book.enter key stored grant).keys[k]? = some found) :
    found.lease ∈ (book.enter key stored grant).grants := by
  rw [getElem?_keys_enter] at h
  rw [mem_grants_enter]
  split at h
  · cases h
    exact .inl rfl
  · exact .inr (numbered.kept h)

theorem Numbered.enter_next (numbered : book.Numbered) (key : String) (value : Bytes) (grant : Grant) :
    (book.enter key ⟨value, book.next⟩ grant).Numbered where
  kept := kept_enter numbered
  counted := by
    intro l h
    rw [size_enter_next numbered]
    obtain rfl | earlier := mem_grants_enter.1 h
    · simp only [next]
      omega
    · have bound := numbered.counted earlier
      omega

theorem Numbered.enter_renewed (numbered : book.Numbered) (granted : lease ∈ book.grants) (key : String)
    (value : Bytes) (grant : Grant) : (book.enter key ⟨value, lease⟩ grant).Numbered where
  kept := kept_enter numbered
  counted := by
    intro l h
    rw [size_enter_renewed granted]
    obtain rfl | earlier := mem_grants_enter.1 h
    · exact numbered.counted granted
    · exact numbered.counted earlier

theorem Numbered.delete (numbered : book.Numbered) (key : String) : (book.delete key).Numbered where
  kept := by
    intro k stored h
    unfold LeaseBook.delete at h
    simp only [Std.ExtTreeMap.getElem?_erase] at h
    split at h
    · cases h
    · exact numbered.kept h
  counted := numbered.counted

end LeaseBook

end VoterSession
