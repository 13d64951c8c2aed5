import VoterSession.Proofs.Scenario.Triple
set_option autoImplicit false

/-!
Triples that speak of the time. A computation runs under a known deadline or under none: under a deadline it
answers by then or is cut off at that very time, and under none it always answers. Main statement:
`Timely.total`.
-/
namespace VoterSession.Scenario

/-- The deadline around a moment is `limit`, which has not passed, and nothing later than now was noticed. -/
structure Moment.Running {σ : Type} (limit : Option Nat) (moment : Moment σ) : Prop where
  seen : moment.seen ≤ moment.now
  deadline : moment.deadline = limit
  ahead : ∀ due, limit = some due → moment.now ≤ due

theorem Moment.Running.inside {σ : Type} {start : Moment σ} (running : start.Running none) (millis : Nat) :
    ({ start with deadline := some (start.now + millis) } : Moment σ).Running
      (some (start.now + millis)) := by
  refine ⟨running.seen, rfl, ?_⟩
  rintro due ⟨⟩
  exact Nat.le_add_right _ _

namespace Timed

variable {σ α β : Type}

/-- An answer with `after` by the deadline `limit`, or a cut at that deadline with `cut`. -/
def Ends (limit : Option Nat) (after : α → Nat → σ → Prop) (cut : Nat → σ → Prop) :
    Except CutOff α × Moment σ → Prop
  | (.ok answer, stop) => stop.Running limit ∧ after answer stop.now stop.state
  | (.error why, stop) => limit = some why.passed ∧ stop.now = why.passed ∧ stop.seen ≤ stop.now ∧
      cut stop.now stop.state

/-- From a time and a state with `before`, under the deadline `limit`, the computation ends in this way. -/
def Timely (limit : Option Nat) (before : Nat → σ → Prop) (computation : Timed σ α)
    (after : α → Nat → σ → Prop) (cut : Nat → σ → Prop) : Prop :=
  ∀ start : Moment σ, start.Running limit → before start.now start.state →
    Ends limit after cut (computation.runFrom start)

/-! ### Waiting under a deadline -/

theorem runFrom_wait_in_time {start : Moment σ} {limit : Option Nat} {millis : Nat}
    (running : start.Running limit) (in_time : ∀ due, limit = some due → start.now + millis ≤ due) :
    (wait millis).runFrom start =
      (.ok (), { start with now := start.now + millis, seen := start.now + millis }) := by
  obtain ⟨seen, rfl, _⟩ := running
  rcases start with ⟨now, earlier, limit, state⟩
  simp only at seen in_time
  rw [wait, runFrom_ofStep]
  dsimp only
  split
  · obtain rfl : earlier = now := by omega
    obtain rfl : millis = 0 := by omega
    rfl
  · rw [await, runFrom_ofStep]
    cases limit with
    | none =>
      simp [Option.filter]
    | some due =>
      have bound := in_time due rfl
      have unnoticed : ¬ due ≤ earlier := by omega
      have first : max now (min (now + millis) due) = now + millis := by omega
      simp [unnoticed, first, Option.filter]

theorem runFrom_await_late {start : Moment σ} {due : Nat} (running : start.Running (some due))
    {answer : Option (Nat × α)} (late : ∀ time value, answer = some (time, value) → due < time) :
    ∃ stop, (await answer).runFrom start = (.error ⟨due⟩, stop) ∧ stop.now = due ∧ stop.seen ≤ due ∧
      stop.state = start.state := by
  obtain ⟨seen, deadline, ahead⟩ := running
  have bound := ahead due rfl
  rw [await, runFrom_ofStep, deadline]
  by_cases noticed : due ≤ start.seen
  · have same : start.seen = due ∧ start.now = due := by omega
    simp only [Option.any_some, noticed, decide_true, if_true]
    exact ⟨start, by rw [same.1], same.2, by omega, rfl⟩
  · rcases answer with _ | ⟨time, value⟩
    · have first : max start.now due = due := by omega
      simp [noticed, first, Option.filter]
    · have beyond := late time value rfl
      have missed : ¬ time ≤ due := by omega
      have first : max start.now (min time due) = due := by omega
      simp [noticed, first, missed, Option.filter]

theorem runFrom_wait_late {start : Moment σ} {due millis : Nat} (running : start.Running (some due))
    (late : due < start.now + millis) :
    ∃ stop, (wait millis).runFrom start = (.error ⟨due⟩, stop) ∧ stop.now = due ∧ stop.seen ≤ due ∧
      stop.state = start.state := by
  have bound := running.ahead due rfl
  have seen := running.seen
  have waiting : ¬ start.now + millis ≤ start.seen := by omega
  rw [wait, runFrom_ofStep]
  dsimp only
  rw [if_neg waiting]
  refine runFrom_await_late running ?_
  rintro _ _ ⟨⟩
  exact late

theorem runFrom_within_free {start : Moment σ} (running : start.Running none) (millis : Nat)
    (computation : Timed σ α) :
    (within millis computation).runFrom start =
      (match (computation.runFrom { start with deadline := some (start.now + millis) }).1 with
        | .ok answer => .ok (some answer)
        | .error why => if start.now + millis ≤ why.passed then .ok none else .error why,
        { (computation.runFrom { start with deadline := some (start.now + millis) }).2 with
          deadline := none }) := by
  rw [within, runFrom_ofStep, running.deadline]
  simp only [Option.elim_none]
  rcases computation.runFrom { start with deadline := some (start.now + millis) } with ⟨why | answer, stop⟩
  · dsimp only
    split <;> rfl
  · rfl

namespace Timely

variable {limit : Option Nat} {before : Nat → σ → Prop} {computation : Timed σ α}
  {after : α → Nat → σ → Prop} {cut : Nat → σ → Prop}

theorem total (timely : Timely none before computation after cut) {start : Moment σ}
    (running : start.Running none) (h : before start.now start.state) :
    ∃ answer stop, computation.runFrom start = (.ok answer, stop) ∧ stop.Running none ∧
      after answer stop.now stop.state := by
  have ends := timely start running h
  rcases run : computation.runFrom start with ⟨why | answer, stop⟩ <;> rw [run] at ends
  · cases ends.1
  · exact ⟨answer, stop, rfl, ends⟩

theorem mono {before' cut' : Nat → σ → Prop} {after' : α → Nat → σ → Prop}
    (timely : Timely limit before computation after cut)
    (hbefore : ∀ now state, before' now state → before now state)
    (hafter : ∀ answer now state, after answer now state → after' answer now state)
    (hcut : ∀ now state, cut now state → cut' now state) : Timely limit before' computation after' cut' := by
  intro start running h
  have ends := timely start running (hbefore _ _ h)
  rcases run : computation.runFrom start with ⟨why | answer, stop⟩ <;> rw [run] at ends
  · obtain ⟨limited, now, seen, holds⟩ := ends
    exact ⟨limited, now, seen, hcut _ _ holds⟩
  · exact ⟨ends.1, hafter _ _ _ ends.2⟩

theorem of_start (timely : ∀ time begun, before time begun →
      Timely limit (fun now state => now = time ∧ state = begun) computation after cut) :
    Timely limit before computation after cut :=
  fun start running h => timely _ _ h start running ⟨rfl, rfl⟩

theorem given {fact : Prop} (known : ∀ now state, before now state → fact)
    (timely : fact → Timely limit before computation after cut) :
    Timely limit before computation after cut :=
  fun start running h => timely (known _ _ h) start running h

theorem unreachable (never : ∀ now state, ¬ before now state) : Timely limit before computation after cut :=
  fun _ _ h => absurd h (never _ _)

theorem pure {answer : α} (h : ∀ now state, before now state → after answer now state) :
    Timely limit before (pure answer : Timed σ α) after cut :=
  fun _ running hbefore => ⟨running, h _ _ hbefore⟩

theorem bind {middle : α → Nat → σ → Prop} {next : α → Timed σ β} {after : β → Nat → σ → Prop}
    (first : Timely limit before computation middle cut)
    (rest : ∀ answer, Timely limit (middle answer) (next answer) after cut) :
    Timely limit before (computation >>= next) after cut := by
  intro start running h
  have ends := first start running h
  rw [runFrom_bind]
  rcases run : computation.runFrom start with ⟨why | answer, halfway⟩ <;> rw [run] at ends
  · exact ends
  · exact rest answer halfway ends.1 ends.2

theorem bind_known {known : α} {middle : Nat → σ → Prop} {next : α → Timed σ β}
    {after : β → Nat → σ → Prop}
    (first : Timely limit before computation (fun answer now state => answer = known ∧ middle now state) cut)
    (rest : Timely limit middle (next known) after cut) :
    Timely limit before (computation >>= next) after cut := by
  refine first.bind fun answer => given (fun _ _ h => h.1) ?_
  rintro rfl
  exact rest.mono (fun _ _ h => h.2) (fun _ _ _ h => h) fun _ _ h => h

theorem change {f : Nat → σ → α × σ}
    (h : ∀ now state, before now state → after (f now state).1 now (f now state).2) :
    Timely limit before (change f) after cut :=
  fun _ running hbefore => ⟨⟨running.seen, running.deadline, running.ahead⟩, h _ _ hbefore⟩

theorem wait {after : Nat → σ → Prop} (millis : Nat)
    (in_time : ∀ now state, before now state → (∀ due, limit = some due → now + millis ≤ due) →
      after (now + millis) state)
    (late : ∀ now due state, before now state → limit = some due → now ≤ due → due < now + millis →
      cut due state) :
    Timely limit before (wait millis) (fun _ => after) cut := by
  intro start running h
  by_cases fits : ∀ due, limit = some due → start.now + millis ≤ due
  · rw [runFrom_wait_in_time running fits]
    exact ⟨⟨Nat.le_refl _, running.deadline, fits⟩, in_time _ _ h fits⟩
  · simp only [Classical.not_forall] at fits
    obtain ⟨due, rfl, missed⟩ := fits
    have bound := running.ahead due rfl
    obtain ⟨stop, hwait, now, seen, state⟩ := runFrom_wait_late running (Nat.lt_of_not_le missed)
    rw [hwait, Ends, now, state]
    exact ⟨rfl, rfl, seen, late _ _ _ h rfl bound (Nat.lt_of_not_le missed)⟩

/-- What holds on as time passes holds after a wait, and when the wait is cut off. -/
theorem wait_lasting {lasting : Nat → σ → Prop} (millis : Nat)
    (lasts : ∀ now later state, lasting now state → now ≤ later → lasting later state)
    (hcut : ∀ now state, lasting now state → cut now state) :
    Timely limit lasting (Timed.wait millis) (fun _ => lasting) cut :=
  wait millis (fun _ _ h _ => lasts _ _ _ h (Nat.le_add_right _ _))
    fun _ _ _ h _ order _ => hcut _ _ (lasts _ _ _ h order)

theorem hang {due : Nat} (h : ∀ now state, before now state → now ≤ due → cut due state) :
    Timely (some due) before (hang : Timed σ α) after cut := by
  intro start running hbefore
  have never : ∀ time (value : α), none = some (time, value) → due < time := nofun
  obtain ⟨stop, hhang, now, seen, state⟩ := runFrom_await_late running never
  rw [Timed.hang, hhang, Ends, now, state]
  exact ⟨rfl, rfl, seen, h _ _ hbefore (running.ahead due rfl)⟩

theorem within {after : Option α → Nat → σ → Prop} (millis : Nat)
    (inner : ∀ time, Timely (some (time + millis)) (fun now state => now = time ∧ before now state)
      computation (fun answer => after (some answer)) (after none)) :
    Timely none before (within millis computation) after cut := by
  intro start running h
  have ends := inner start.now _ (running.inside millis) ⟨rfl, h⟩
  rw [runFrom_within_free running]
  rcases run : computation.runFrom { start with deadline := some (start.now + millis) } with
    ⟨why | answer, stop⟩ <;> rw [run] at ends
  · obtain ⟨limited, _, seen, holds⟩ := ends
    dsimp only
    rw [if_pos (Nat.le_of_eq (Option.some.inj limited))]
    exact ⟨⟨seen, rfl, nofun⟩, holds⟩
  · exact ⟨⟨ends.1.seen, rfl, nofun⟩, ends.2⟩

end Timely

end Timed

end VoterSession.Scenario
