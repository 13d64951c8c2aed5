import VoterSession.Proofs.Wire.Seam
set_option autoImplicit false

/-!
Steps that happen in the middle of other steps. Whatever a step asks for, and whatever is interleaved in it,
however deep, it keeps the store sound and takes back no lease. Main statement: `Setup.orderly_interleaved`.
-/
namespace VoterSession.Scenario

open Timed Wire

theorem Steady.of_kept {α : Type} {computation : Timed World α} {told : α → World → Prop}
    (triple : ∀ floor, Triple (Numbered floor) computation (fun answer world => Numbered floor world ∧ told answer world)
      (Numbered floor)) : Steady computation :=
  fun floor => (triple floor).mono (fun _ numbered => numbered) (fun _ _ kept => kept.1) fun _ numbered => numbered

theorem Steady.map {α β : Type} {computation : Timed World α} (steady : Steady computation) (f : α → β) :
    Steady (f <$> computation) := by
  rw [map_eq_pure_bind]
  exact steady.bind fun _ => Steady.pure _

/-! ### Steps that may be refused -/

/-- A step that is steady, whether or not one of the layers refuses it. -/
def Calm {α : Type} (attempted : Attempted α) : Prop := Steady attempted.run

namespace Calm

variable {α β ε : Type}

theorem pure (a : α) : Calm (pure a) := Steady.pure _

theorem bind {first : Attempted α} {next : α → Attempted β} (calm : Calm first) (rest : ∀ a, Calm (next a)) :
    Calm (first >>= next) := by
  rw [Calm, ExceptT.run_bind]
  refine Steady.bind calm fun answer => ?_
  cases answer with
  | ok a => exact rest a
  | error failure => exact Steady.pure _

theorem lift {computation : Timed World α} (steady : Steady computation) : Calm (liftM computation : Attempted α) :=
  steady.map Except.ok

theorem require (layer : ε → Failure) (check : Except ε α) : Calm (require layer check) := Steady.pure _

theorem ask {layer : ε → Failure} {call : Timed World (Except ε α)} (steady : Steady call) : Calm (ask layer call) :=
  steady.bind fun _ => Steady.pure _

end Calm

theorem steady_look {α : Type} (look : Nat → LeaseStore → α) :
    Steady (World.withStore fun now store => (look now store, store.purge now)) :=
  fun _ => Triple.change fun now _ numbered => ⟨numbered.sound.purge now, numbered.granted⟩

theorem steady_read {store : StoreClient (Timed World)} (orderly : Orderly store) (id : SessionId) :
    Steady (Sessions.read store id) := .of_kept (triple_read orderly id)

/-! ### One step over an orderly stack -/

theorem steady_dispatch {ε : Type} {answer : {α : Type} → StatusCall α → Timed World (Except ε α)}
    (steady : ∀ {α : Type} (call : StatusCall α), Steady (answer call)) (request : Request) :
    Steady (request.dispatch answer) := by
  cases request <;> exact (steady _).bind fun _ => Steady.pure _

section

variable {service : StatusService (Timed World)} (orderly : Orderly service.store)
  (ticking : service.clock = World.clock)

include orderly ticking

theorem steady_serve {α : Type} (call : StatusCall α) : Steady (service.serve call) :=
  .of_kept (triple_serve orderly ticking call)

theorem steady_handle {α : Type} (call : WireCall α) : Steady (handle service call) := by
  have answered {β : Type} (call : StatusCall β) (f : Except ServiceError β → Except Status α) :
      Steady (service.serve call >>= fun answer => Pure.pure (f answer)) :=
    (steady_serve orderly ticking call).bind fun _ => Steady.pure _
  cases call with
  | read message =>
    rw [handle]
    split
    · exact Steady.pure _
    · exact answered _ _
  | update message =>
    rw [handle]
    split
    · exact Steady.pure _
    · exact answered _ _
  | delete message =>
    rw [handle]
    split
    · exact Steady.pure _
    · exact answered _ _

end

theorem steady_unreachable {α : Type} (call : StatusCall α) :
    Steady ((Channel.unreachable : Channel (Timed World)).client.call call) := by
  cases call <;>
  · refine (Steady.pure _).bind fun answer => ?_
    cases answer <;> exact Steady.pure _

section

variable {setup : Setup} {interleave : Step → Timed World Unit} (steady : ∀ step, Steady (interleave step))

include steady

theorem steady_client {α : Type} (call : StatusCall α) : Steady ((setup.stack interleave).client.call call) := by
  have inProcess := @steady_call (setup.stack interleave).service (setup.orderly_stack steady) rfl α call
  simp only [Setup.stack] at inProcess ⊢
  cases setup.seam with
  | inProcess => exact inProcess
  | unreachable => exact steady_unreachable call

theorem steady_storeFor (direct : Bool) {α : Type} (op : StoreOp α) :
    Steady (((setup.stack interleave).storeFor direct).call op) := by
  have regular : Regular op (((setup.stack interleave).storeFor direct).call op) := by
    cases direct with
    | true => exact regular_memory op
    | false => exact (setup.orderly_stack steady).call op
  exact .of_kept regular

theorem calm_perform (ttls : StageTtls) (step : Step) : Calm (perform ttls (setup.stack interleave) step) := by
  have orderly := setup.orderly_stack steady
  cases step with
  | advance millis => exact (Calm.lift (Steady.advance millis)).bind fun _ => Calm.pure _
  | setNow seconds => exact (Calm.lift (steady_setNow seconds)).bind fun _ => Calm.pure _
  | events events =>
    have scheduled : Steady (World.update fun world => { world with events }) := .change fun _ _ => rfl
    exact (Calm.lift scheduled).bind fun _ => Calm.pure _
  | put key value lease ttl direct =>
    refine (Calm.require _ _).bind fun ttl => ?_
    exact (Calm.ask (steady_storeFor steady direct _)).bind fun _ => Calm.pure _
  | get key direct => exact (Calm.ask (steady_storeFor steady direct _)).bind fun _ => Calm.pure _
  | delete key direct => exact (Calm.ask (steady_storeFor steady direct _)).bind fun _ => Calm.pure _
  | timeToLive lease => exact (Calm.lift (steady_look _)).bind fun _ => Calm.pure _
  | readSession id =>
    refine (Calm.require _ _).bind fun id => ?_
    exact (Calm.ask (steady_read orderly id)).bind fun _ => Calm.pure _
  | updateSession id caller auth lease ttl =>
    refine (Calm.require _ _).bind fun ttl => (Calm.require _ _).bind fun id => ?_
    exact (Calm.ask (steady_update orderly id caller auth lease ttl)).bind fun _ => Calm.pure _
  | deleteSession id =>
    refine (Calm.require _ _).bind fun id => ?_
    exact (Calm.ask (steady_delete orderly id)).bind fun _ => Calm.pure _
  | service draft =>
    refine (Calm.require _ _).bind fun request => ?_
    exact (Calm.ask (steady_dispatch (steady_serve orderly rfl) request)).bind fun _ => Calm.pure _
  | client draft =>
    refine (Calm.require _ _).bind fun request => ?_
    exact (Calm.ask (steady_dispatch (steady_client steady) request)).bind fun _ => Calm.pure _
  | remote request =>
    have served : Steady (request.dispatch (handle (setup.stack interleave).service)) := by
      cases request <;> exact (steady_handle orderly rfl _).bind fun _ => Steady.pure _
    exact (Calm.ask served).bind fun _ => Calm.pure _
  | verify kind completion method transport header =>
    refine (Calm.require _ _).bind fun verifier => (Calm.require _ _).bind fun header => ?_
    exact (Calm.ask (steady_verify (steady_client steady) verifier header method transport)).bind
      fun _ => Calm.pure _

end

theorem steady_conclude (result : Except Failure Outcome) : Steady (conclude result) := by
  have unchanged {α : Type} (answer : Nat → World → α) : Steady (Timed.change fun now world => (answer now world, world)) :=
    .change fun _ _ => rfl
  have taken : Steady World.takeNested := .change fun _ _ => rfl
  refine (steady_look _).bind fun keys => (steady_look _).bind fun leases => taken.bind fun nested => ?_
  refine Steady.bind (unchanged fun now _ => now) fun clock => ?_
  exact Steady.bind (unchanged fun _ world => world.attempts) fun attempts => Steady.pure _

/-! ### Steps in steps -/

/-- Carries out an interleaved step, with steps interleaved in it to this depth. -/
def Setup.interleave (setup : Setup) : (depth : Nat) → Step → Timed World Unit
  | 0 => fun _ => pure ()
  | depth + 1 => fun step => do World.addNested (← answerWithin setup depth step)

theorem answerWithin_eq (setup : Setup) (depth : Nat) (step : Step) :
    answerWithin setup depth step =
      (perform setup.ttls (setup.stack (setup.interleave depth)) step).run >>= conclude := by
  cases depth <;> rfl

theorem Setup.steady_interleave (setup : Setup) (depth : Nat) (step : Step) : Steady (setup.interleave depth step) := by
  induction depth generalizing step with
  | zero => exact Steady.pure ()
  | succ depth ih =>
    have noted (answer : StepAnswer) :
        Steady (World.update fun world => { world with nested := world.nested ++ [answer] }) := .change fun _ _ => rfl
    have answered : Steady (answerWithin setup depth step) := by
      rw [answerWithin_eq]
      exact Steady.bind (calm_perform ih setup.ttls step) steady_conclude
    exact answered.bind noted

theorem Setup.orderly_interleaved (setup : Setup) (depth : Nat) :
    Orderly (setup.stack (setup.interleave depth)).service.store :=
  setup.orderly_stack (setup.steady_interleave depth)

end VoterSession.Scenario
