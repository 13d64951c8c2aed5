import VoterSession.Scenario.Fault
set_option autoImplicit false

/-!
Triples over virtual time: what holds of the state before a computation, of its answer and the state after
it, and of the state in which a deadline cuts it off. Waiting changes no state, so a triple says nothing of
the time.
-/
namespace VoterSession.Scenario.Timed

variable {σ α β : Type}

/-- From a state with `before`, the computation answers and leaves a state with `after`, or is cut off in a
state with `cut`. -/
structure Triple (before : σ → Prop) (computation : Timed σ α) (after : α → σ → Prop) (cut : σ → Prop) :
    Prop where
  answered : ∀ {start stop : Moment σ} {answer : α}, before start.state →
    computation.runFrom start = (.ok answer, stop) → after answer stop.state
  ended : ∀ {start stop : Moment σ} {why : CutOff}, before start.state →
    computation.runFrom start = (.error why, stop) → cut stop.state

theorem await_state (answer : Option (Nat × α)) (start : Moment σ) :
    ((await answer).runFrom start).2.state = start.state := by
  rw [await, runFrom_ofStep]
  dsimp only
  split
  · rfl
  · split <;> rfl

theorem wait_state (millis : Nat) (start : Moment σ) :
    ((wait millis).runFrom start).2.state = start.state := by
  rw [wait, runFrom_ofStep]
  dsimp only
  split
  · rfl
  · exact await_state _ start

theorem advance_state (millis : Nat) (start : Moment σ) :
    ((advance millis).runFrom start).2.state = start.state := by
  rw [advance, runFrom_ofStep]
  exact await_state _ _

theorem runFrom_hang (start : Moment σ) :
    ∃ why, ((hang : Timed σ α).runFrom start).1 = .error why := by
  rw [hang, await, runFrom_ofStep]
  dsimp only
  split
  · exact ⟨_, rfl⟩
  · exact ⟨_, rfl⟩

theorem runFrom_within (millis : Nat) (computation : Timed σ α) (start : Moment σ) :
    ∃ inside result stop, inside.state = start.state ∧ computation.runFrom inside = (result, stop) ∧
      (within millis computation).runFrom start =
        (match result with
          | .ok answer => .ok (some answer)
          | .error why => if start.now + millis ≤ why.passed then .ok none else .error why,
          { stop with deadline := start.deadline }) := by
  let own := start.now + millis
  let inside := { start with deadline := some (start.deadline.elim own (min own)) }
  rcases inner : computation.runFrom inside with ⟨_ | _, stop⟩
  · refine ⟨inside, _, stop, rfl, inner, ?_⟩
    simp only [within, runFrom_ofStep, inner, own, inside]
    split <;> rfl
  · refine ⟨inside, _, stop, rfl, inner, ?_⟩
    simp only [within, runFrom_ofStep, inner, own, inside]

theorem runFrom_map (f : α → β) (computation : Timed σ α) (start : Moment σ) :
    (f <$> computation).runFrom start =
      ((computation.runFrom start).1.map f, (computation.runFrom start).2) := by
  rw [map_eq_pure_bind, runFrom_bind]
  rcases computation.runFrom start with ⟨_ | _, stop⟩ <;> rfl

namespace Triple

variable {before cut : σ → Prop} {after : α → σ → Prop} {computation : Timed σ α}

theorem mono {before' cut' : σ → Prop} {after' : α → σ → Prop} (triple : Triple before computation after cut)
    (hbefore : ∀ state, before' state → before state)
    (hafter : ∀ answer state, after answer state → after' answer state)
    (hcut : ∀ state, cut state → cut' state) : Triple before' computation after' cut' where
  answered h run := hafter _ _ (triple.answered (hbefore _ h) run)
  ended h run := hcut _ (triple.ended (hbefore _ h) run)

theorem pure {answer : α} (h : ∀ state, before state → after answer state) :
    Triple before (pure answer : Timed σ α) after cut where
  answered hbefore run := by
    cases run
    exact h _ hbefore
  ended _ run := by cases run

theorem bind {middle : α → σ → Prop} {next : α → Timed σ β} {after : β → σ → Prop}
    (first : Triple before computation middle cut)
    (rest : ∀ answer, Triple (middle answer) (next answer) after cut) :
    Triple before (computation >>= next) after cut where
  answered {start stop answer} h run := by
    rw [runFrom_bind] at run
    split at run
    · rename_i halfway hfirst
      exact (rest _).answered (first.answered h hfirst) run
    · cases run
  ended {start stop why} h run := by
    rw [runFrom_bind] at run
    split at run
    · rename_i halfway hfirst
      exact (rest _).ended (first.answered h hfirst) run
    · rename_i hfirst
      cases run
      exact first.ended h hfirst

theorem given {fact : Prop} (known : ∀ state, before state → fact) (triple : fact → Triple before computation after cut) :
    Triple before computation after cut where
  answered hbefore run := (triple (known _ hbefore)).answered hbefore run
  ended hbefore run := (triple (known _ hbefore)).ended hbefore run

theorem change {f : Nat → σ → α × σ}
    (h : ∀ now state, before state → after (f now state).1 (f now state).2) :
    Triple before (change f) after cut where
  answered hbefore run := by
    cases run
    exact h _ _ hbefore
  ended _ run := by cases run

theorem of_state (unchanged : ∀ start, (computation.runFrom start).2.state = start.state)
    (h : ∀ state, before state → cut state) :
    Triple before computation (fun _ => before) cut where
  answered {start stop answer} hbefore run := by
    have same := unchanged start
    rw [run] at same
    exact same ▸ hbefore
  ended {start stop why} hbefore run := by
    have same := unchanged start
    rw [run] at same
    exact same ▸ h _ hbefore

theorem wait (millis : Nat) (h : ∀ state, before state → cut state) :
    Triple before (wait millis) (fun _ => before) cut := of_state (wait_state millis) h

theorem advance (millis : Nat) (h : ∀ state, before state → cut state) :
    Triple before (advance millis) (fun _ => before) cut := of_state (advance_state millis) h

theorem hang (h : ∀ state, before state → cut state) : Triple before (hang : Timed σ α) after cut where
  answered {start stop answer} _ run := by
    obtain ⟨why, never⟩ := runFrom_hang (σ := σ) (α := α) start
    rw [run] at never
    cases never
  ended hbefore run := (of_state (await_state none) h).ended hbefore run

/-- What was done before a deadline stays done: without an answer the state is one that the deadline cut the
computation off in. -/
theorem within (millis : Nat) (triple : Triple before computation after cut) :
    Triple before (within millis computation)
      (fun answer state => answer.elim (cut state) fun answer => after answer state) cut where
  answered {start stop answer} hbefore run := by
    obtain ⟨inside, result, stop, same, inner, outer⟩ := runFrom_within millis computation start
    rw [← same] at hbefore
    rw [outer] at run
    cases result with
    | ok answer =>
      have kept := triple.answered hbefore inner
      cases run
      exact kept
    | error why =>
      have kept := triple.ended hbefore inner
      simp only at run
      split at run <;> cases run
      exact kept
  ended {start stop why} hbefore run := by
    obtain ⟨inside, result, stop, same, inner, outer⟩ := runFrom_within millis computation start
    rw [← same] at hbefore
    rw [outer] at run
    cases result with
    | ok answer => cases run
    | error why =>
      have kept := triple.ended hbefore inner
      simp only at run
      split at run <;> cases run
      exact kept

end Triple

end VoterSession.Scenario.Timed
