import Mathlib.Data.List.Chain
import VoterSession.Proofs.Workflow.Course
set_option autoImplicit false

/-!
The language of a lifecycle. A word takes every step of the route once and in order, and each poll as
often as the voter lets it wait; after a hand-over it may go on with checks of the vote. Main statement:
`begun_iff`, by which the beginnings of words are the walks along the course, step by step.
-/
namespace VoterSession

structure Counts (completion : VoteCompletion) (times : Method → Nat) : Prop where
  once : ∀ method, method.polls = false → times method = 1
  polled : ∀ method, method.polls = true → method ≠ .verify → 1 ≤ times method
  unchecked : completion = .delete → times .verify = 0

/-- Only the checks may be left out. -/
theorem Counts.skipped {completion : VoteCompletion} {times : Method → Nat} {method : Method}
    (counts : Counts completion times) (absent : times method = 0) : method = .verify := by
  by_contra other
  cases polls : method.polls with
  | true =>
    have polled := counts.polled method polls other
    omega
  | false =>
    have once := counts.once method polls
    omega

/-- The methods of a route, each as often as it is counted. -/
def spelled (times : Method → Nat) (route : List Method) : List Method :=
  route.flatMap fun method => List.replicate (times method) method

def recounted (times : Method → Nat) (method : Method) (count : Nat) (m : Method) : Nat :=
  if m = method then count else times m

theorem recounted_self (times : Method → Nat) (method : Method) (count : Nat) :
    recounted times method count method = count := if_pos rfl

theorem recounted_of_ne {times : Method → Nat} {method m : Method} {count : Nat} (h : m ≠ method) :
    recounted times method count m = times m := if_neg h

namespace AuthTag

def Word (tag : AuthTag) (completion : VoteCompletion) (word : List Method) : Prop :=
  ∃ times, Counts completion times ∧ word = spelled times tag.course

def Begun (tag : AuthTag) (completion : VoteCompletion) (word : List Method) : Prop :=
  ∃ full, tag.Word completion full ∧ word <+: full

/-- The methods start the course and follow each other on it. -/
structure Walk (tag : AuthTag) (word : List Method) : Prop where
  start : ∀ method ∈ word.head?, tag.course.head? = some method
  steps : word.IsChain tag.Follows

variable {tag : AuthTag} {completion : VoteCompletion} {word full : List Method} {method prior : Method}

theorem spelled_append (times : Method → Nat) (route rest : List Method) :
    spelled times (route ++ rest) = spelled times route ++ spelled times rest :=
  List.flatMap_append

theorem spelled_singleton (times : Method → Nat) (method : Method) :
    spelled times [method] = List.replicate (times method) method := by
  simp [spelled]

theorem spelled_congr {times times' : Method → Nat} {route : List Method}
    (same : ∀ method ∈ route, times method = times' method) :
    spelled times route = spelled times' route := by
  induction route with
  | nil => rfl
  | cons first rest ih =>
    have here := same first List.mem_cons_self
    have there := ih fun method member => same method (List.mem_cons_of_mem _ member)
    simp only [spelled, List.flatMap_cons] at there ⊢
    rw [here, there]

theorem Walk.nil (tag : AuthTag) : tag.Walk [] := ⟨by simp, List.isChain_nil⟩

theorem walk_concat_iff : tag.Walk (word ++ [prior] ++ [method]) ↔
    tag.Walk (word ++ [prior]) ∧ tag.Follows prior method := by
  have head : (word ++ [prior] ++ [method]).head? = (word ++ [prior]).head? := by
    cases word <;> rfl
  have chain : (word ++ [prior] ++ [method]).IsChain tag.Follows ↔
      (word ++ [prior]).IsChain tag.Follows ∧ tag.Follows prior method := by
    rw [List.isChain_append]
    simp
  constructor
  · rintro ⟨start, steps⟩
    rw [head] at start
    exact ⟨⟨start, (chain.1 steps).1⟩, (chain.1 steps).2⟩
  · rintro ⟨⟨start, steps⟩, follows⟩
    exact ⟨by rw [head]; exact start, chain.2 ⟨steps, follows⟩⟩

theorem walk_singleton_iff : tag.Walk [method] ↔ tag.course.head? = some method := by
  constructor
  · intro walk
    exact walk.start method rfl
  · intro start
    refine ⟨?_, List.isChain_singleton _⟩
    rintro _ ⟨⟩
    exact start

theorem Walk.of_prefix (walk : tag.Walk full) (within : word <+: full) : tag.Walk word := by
  refine ⟨?_, walk.steps.prefix within⟩
  intro first member
  obtain ⟨rest, rfl⟩ := within
  apply walk.start
  rw [List.head?_append, Option.mem_def.1 member]
  rfl

/-! ### Words are walks -/

theorem after_verify {front back : List Method} (place : tag.course = front ++ .verify :: back) :
    back = [] := by
  have last : tag.course = tag.route ++ .verify :: [] := rfl
  exact (place_unique place last).2

theorem spelled_chain {times : Method → Nat} (counts : Counts completion times) :
    ∀ {route front : List Method}, tag.course = front ++ route →
      (spelled times route).IsChain tag.Follows ∧
        ∀ first ∈ (spelled times route).head?, route.head? = some first := by
  intro route
  induction route with
  | nil =>
    intro front _
    exact ⟨List.isChain_nil, by simp [spelled]⟩
  | cons first rest ih =>
    intro front place
    have place' : tag.course = (front ++ [first]) ++ rest := by rw [place]; simp
    obtain ⟨chain, head⟩ := ih place'
    have split : spelled times (first :: rest) =
        List.replicate (times first) first ++ spelled times rest := rfl
    have repeated : (List.replicate (times first) first).IsChain tag.Follows := by
      cases polls : first.polls with
      | true => exact List.isChain_replicate_of_rel _ (.inl ⟨rfl, polls⟩)
      | false =>
        rw [counts.once first polls]
        exact List.isChain_singleton _
    rw [split]
    refine ⟨List.isChain_append.2 ⟨repeated, chain, ?_⟩, ?_⟩
    · intro last hlast next hnext
      have same : last = first := List.eq_of_mem_replicate (List.mem_of_mem_getLast? hlast)
      obtain ⟨rest', rfl⟩ : ∃ rest', rest = next :: rest' := by
        have := head next hnext
        cases rest with
        | nil => cases this
        | cons other rest' =>
          cases this
          exact ⟨rest', rfl⟩
      rw [same]
      refine .inr ⟨front, rest', ?_⟩
      rw [place]
      simp
    · intro found hfound
      cases hcount : times first with
      | succ count =>
        rw [hcount, List.replicate_succ] at hfound
        cases hfound
        rfl
      | zero =>
        -- Only the checks may be left out, and nothing comes after them.
        have checks := counts.skipped hcount
        subst checks
        rw [after_verify place, hcount] at hfound
        cases hfound

theorem Begun.walk (begun : tag.Begun completion word) : tag.Walk word := by
  obtain ⟨full, isWord, within⟩ := begun
  obtain ⟨times, counts, rfl⟩ := isWord
  have whole : tag.course = [] ++ tag.course := rfl
  obtain ⟨chain, head⟩ := spelled_chain counts whole
  exact Walk.of_prefix ⟨head, chain⟩ within

theorem Begun.unchecked (begun : tag.Begun completion word) (removing : completion = .delete) :
    .verify ∉ word := by
  intro member
  obtain ⟨full, ⟨times, counts, rfl⟩, within⟩ := begun
  have spells := within.subset member
  rw [spelled, List.mem_flatMap] at spells
  obtain ⟨method, _, repeated⟩ := spells
  obtain ⟨some_times, rfl⟩ := List.mem_replicate.1 repeated
  exact some_times (counts.unchecked removing)

/-! ### Walks begin words -/

/-- A method is reached on the course by spelling what comes before it; only what was spelled is counted
more than once. -/
structure Reached (tag : AuthTag) (times : Method → Nat) (front : List Method) (method : Method)
    (back word : List Method) : Prop where
  place : tag.course = front ++ method :: back
  positive : ∀ m, 1 ≤ times m
  once : ∀ m, m.polls = false → times m = 1
  rest : ∀ m, m ∉ front ++ [method] → times m = 1
  spells : word = spelled times (front ++ [method])

section Reached

variable {times : Method → Nat} {front back : List Method}

theorem Reached.again (reached : tag.Reached times front method back word) (polls : method.polls = true) :
    tag.Reached (recounted times method (times method + 1)) front method back (word ++ [method]) where
  place := reached.place
  positive m := by
    have before := reached.positive m
    by_cases here : m = method
    · subst here
      rw [recounted_self]
      omega
    · rw [recounted_of_ne here]
      exact before
  once m unpolled := by
    have other : m ≠ method := by
      rintro rfl
      rw [polls] at unpolled
      cases unpolled
    rw [recounted_of_ne other]
    exact reached.once m unpolled
  rest m absent := by
    have other : m ≠ method := by
      rintro rfl
      exact absent (by simp)
    rw [recounted_of_ne other]
    exact reached.rest m absent
  spells := by
    have once_each := tag.course_nodup
    rw [reached.place, List.nodup_append] at once_each
    have apart : ∀ m ∈ front, m ≠ method := fun m member =>
      once_each.2.2 m member method List.mem_cons_self
    rw [reached.spells, spelled_append, spelled_append, spelled_singleton, spelled_singleton,
      recounted_self, List.replicate_succ', List.append_assoc]
    congr 1
    exact spelled_congr fun m member => (recounted_of_ne (apart m member)).symm

theorem Reached.onward (reached : tag.Reached times front prior (method :: back) word) :
    tag.Reached times (front ++ [prior]) method back (word ++ [method]) := by
  have place : tag.course = (front ++ [prior]) ++ method :: back := by
    rw [reached.place]
    simp
  have once_each := tag.course_nodup
  rw [place, List.nodup_append] at once_each
  have absent : method ∉ front ++ [prior] := fun member =>
    once_each.2.2 method member method List.mem_cons_self rfl
  refine ⟨place, reached.positive, reached.once, ?_, ?_⟩
  · intro m outside
    exact reached.rest m fun member => outside (List.mem_append_left _ member)
  · rw [spelled_append, spelled_singleton, ← reached.spells, reached.rest method absent]
    rfl

end Reached

theorem walk_reached (walk : tag.Walk (word ++ [method])) : ∃ times front back,
    tag.Reached times front method back (word ++ [method]) := by
  induction word using List.reverseRecOn generalizing method with
  | nil =>
    obtain ⟨back, place⟩ := List.head?_eq_some_iff.1 (walk_singleton_iff.1 walk)
    exact ⟨fun _ => 1, [], back, place, fun _ => Nat.le_refl 1, fun _ _ => rfl, fun _ _ => rfl, rfl⟩
  | append_singleton word prior ih =>
    obtain ⟨walk, follows⟩ := walk_concat_iff.1 walk
    obtain ⟨times, front, back, reached⟩ := ih walk
    obtain ⟨rfl, polls⟩ | ⟨before, after, hcourse⟩ := follows
    · exact ⟨_, front, back, reached.again polls⟩
    · have place : tag.course = before ++ prior :: (method :: after) := by
        rw [← hcourse]
        simp
      obtain ⟨rfl, rfl⟩ := place_unique reached.place place
      exact ⟨times, _, after, reached.onward⟩

theorem not_verify_of_spelled {times : Method → Nat} {front : List Method} (positive : ∀ m, 1 ≤ times m)
    (unchecked : .verify ∉ spelled times front) : ∀ m ∈ front, m ≠ .verify := by
  rintro m member rfl
  rw [spelled, List.mem_flatMap] at unchecked
  have counted := positive .verify
  exact unchecked ⟨.verify, member, List.mem_replicate.2 ⟨by omega, rfl⟩⟩

theorem begun_spelled {times : Method → Nat} {front back : List Method} (place : tag.course = front ++ back)
    (positive : ∀ m, 1 ≤ times m) (once : ∀ m, m.polls = false → times m = 1)
    (unchecked : completion = .delete → .verify ∉ spelled times front) :
    tag.Begun completion (spelled times front) := by
  cases completion with
  | handoff =>
    refine ⟨_, ⟨times, ⟨once, fun m _ _ => positive m, nofun⟩, rfl⟩, ?_⟩
    rw [place, spelled_append]
    exact List.prefix_append _ _
  | delete =>
    -- the counts ask for checks, which this word has none of: without them the same is spelled
    have absent := not_verify_of_spelled positive (unchecked rfl)
    refine ⟨_, ⟨recounted times .verify 0, ⟨?_, ?_, fun _ => recounted_self _ _ _⟩, rfl⟩, ?_⟩
    · intro m unpolled
      have other : m ≠ .verify := by
        rintro rfl
        cases unpolled
      rw [recounted_of_ne other]
      exact once m unpolled
    · intro m _ other
      rw [recounted_of_ne other]
      exact positive m
    · rw [place, spelled_append, spelled_congr fun m member => (recounted_of_ne (absent m member)).symm]
      exact List.prefix_append _ _

/-- Every walk is the beginning of a word; without checks, also where the vote ends the session. -/
theorem Walk.begun (walk : tag.Walk word) (unchecked : completion = .delete → .verify ∉ word) :
    tag.Begun completion word := by
  obtain rfl | ⟨word, method, rfl⟩ := word.eq_nil_or_concat'
  · exact @begun_spelled tag completion (fun _ => 1) [] tag.course rfl (fun _ => Nat.le_refl 1) (fun _ _ => rfl) unchecked
  · obtain ⟨times, front, back, reached⟩ := walk_reached walk
    have place : tag.course = (front ++ [method]) ++ back := by
      rw [reached.place]
      simp
    rw [reached.spells] at unchecked ⊢
    exact begun_spelled place reached.positive reached.once unchecked

theorem begun_iff : tag.Begun completion word ↔
    tag.Walk word ∧ (completion = .delete → .verify ∉ word) := by
  constructor
  · intro begun
    exact ⟨begun.walk, begun.unchecked⟩
  · rintro ⟨walk, unchecked⟩
    exact walk.begun unchecked

end AuthTag

end VoterSession
