import TurtleFleet.Proofs.Atomicity
import TurtleFleet.Rehearsal.World

/-! Standstill: a step that fails has not been taken, whatever the world answers and wherever one of its
calls breaks off. The step is run call by call; after each of them the turtle is still what it was,
until the new entity is known to be right. From there on only one call is left, which removes the old
entity, and if that one breaks off the turtle stays in the new one. -/

namespace TurtleFleet

variable {W α β : Type}

namespace Action

/-- The ending of the action in a scene is one of those that are meant. -/
def Meets (action : Action W α) (scene : Scene W) (meant : Except Stop α → Scene W → Prop) : Prop :=
  meant (action.outcome scene).1 (action.outcome scene).2

namespace Meets

variable {scene left : Scene W}

theorem of_eq {action : Action W α} {result : Except Stop α} {meant : Except Stop α → Scene W → Prop}
    (ran : action.outcome scene = (result, left)) (holds : meant result left) :
    action.Meets scene meant := by
  rwa [Meets, ran]

theorem mono {action : Action W α} {meant other : Except Stop α → Scene W → Prop}
    (meets : action.Meets scene meant) (implies : ∀ result left, meant result left → other result left) :
    action.Meets scene other :=
  implies _ _ meets

theorem bind {action : Action W α} {next : α → Action W β} {meant : Except Stop β → Scene W → Prop}
    (first : action.Meets scene fun result left =>
      match result with
      | .ok value => (next value).Meets left meant
      | .error stop => meant (.error stop) left) :
    (action >>= next).Meets scene meant := by
  rcases ran : action.outcome scene with ⟨stop | value, left⟩
  · rw [Meets, ran] at first
    exact of_eq (outcome_bind_error ran) first
  · rw [Meets, ran] at first
    rwa [Meets, outcome_bind_ok ran]

theorem ite {condition : Prop} [Decidable condition] {action other : Action W α}
    {meant : Except Stop α → Scene W → Prop} (meets : condition → action.Meets scene meant)
    (otherwise : ¬ condition → other.Meets scene meant) :
    (if condition then action else other).Meets scene meant := by
  split
  · exact meets ‹_›
  · exact otherwise ‹_›

/-- A call breaks off or is answered. Whatever the world does meanwhile, the turtle is left alone. -/
theorem ask [World W] {call : WorldCall} {meant : Except Stop call.Reply → Scene W → Prop}
    (broken : ∀ fault world, meant (.error (.fault fault))
      { scene with world, effects := scene.effects ++ [.world call .broken scene.movers] })
    (answered : ∀ reply world effects, meant (.ok reply) { scene with world, effects }) :
    (Action.ask call).Meets scene meant := by
  rcases ended : World.answer call scene.movers scene.world with ⟨fault | reply, world⟩
  · exact of_eq (by simp only [outcome, Action.ask, ended]) (broken fault world)
  · have ran : (Action.ask call).outcome scene = (.ok reply, { scene with
        world, effects := scene.effects ++ [.world call
          (if call.fulfilled reply then .fulfilled else .refused) scene.movers] }) := by
      simp only [outcome, Action.ask, ended]
    exact of_eq ran (answered reply world _)

theorem latched {action : Action W α} {meant : Except Stop α → Scene W → Prop}
    (meets : action.Meets { scene with turtle := { scene.turtle with latch := true } }
      fun result left => meant result { left with turtle := { left.turtle with latch := false } }) :
    (Action.latched action).Meets scene meant := by
  rw [Meets, outcome_latched]
  exact meets

end Meets

/-! ### Relocating -/

/-- The last of the calls was to remove an entity from a place, and it broke off. -/
def Botches (effects : List Effect) (world : WorldId) (pos : BlockPos) : Prop :=
  ∃ movers, effects.getLast? = some (.world (.remove world pos) .broken movers)

/-- The ways in which a relocation can end in any world. -/
inductive Resettles (turtle : Turtle) (world : WorldId) (pos : BlockPos) :
    Except Stop Bool → Scene W → Prop where
  | failed {result : Except Stop Bool} {left : Scene W} (failed : result ≠ .ok true)
      (still : left.turtle = turtle) : Resettles turtle world pos result left
  | arrived {left : Scene W} {entity : EntityRef} (there : entity.world = world ∧ entity.pos = pos)
      (same : left.turtle = { turtle with entity }) : Resettles turtle world pos (.ok true) left
  | stranded {left : Scene W} {entity : EntityRef} {fault : Fault}
      (there : entity.world = world ∧ entity.pos = pos) (same : left.turtle = { turtle with entity })
      (botches : Botches left.effects turtle.world turtle.pos) :
      Resettles turtle world pos (.error (.fault fault)) left

/-- Engaging the latch and releasing it again makes no difference. -/
theorem Resettles.released {turtle : Turtle} {world : WorldId} {pos : BlockPos}
    {result : Except Stop Bool} {left : Scene W} (free : turtle.latch = false)
    (resettles : Resettles { turtle with latch := true } world pos result left) :
    Resettles turtle world pos result { left with turtle := { left.turtle with latch := false } } := by
  have same : { turtle with latch := false } = turtle := by rw [← free]
  cases resettles with
  | failed failed still => exact .failed failed (by rw [still, ← same])
  | @arrived _ entity there moved =>
    exact .arrived there (by rw [moved]; exact congrArg (fun turtle => { turtle with entity }) same)
  | @stranded _ entity fault there moved botches =>
    exact .stranded there
      (by rw [moved]; exact congrArg (fun turtle => { turtle with entity }) same) botches

variable [World W]

theorem meets_replaceEntity (world : WorldId) (pos : BlockPos) (scene : Scene W) :
    (replaceEntity world pos : Action W Bool).Meets scene (Resettles scene.turtle world pos) := by
  refine .bind (.of_eq rfl (.bind (.ask (fun fault world => ?_) fun reply between effects => ?_)))
  · exact .failed nofun rfl
  rcases reply with cause | entity
  · exact .of_eq rfl (.failed nofun rfl)
  refine .ite (fun right => ?_) fun _ => ?_
  · obtain ⟨_, there⟩ := isTurtleAt_iff.mp right
    refine .bind (.of_eq rfl (.bind (.of_eq rfl (.bind (.ask (fun fault world => ?_) ?_)))))
    · exact .stranded there rfl ⟨_, List.getLast?_concat⟩
    · exact fun _ _ _ => .of_eq rfl (.arrived there rfl)
  · refine .bind (.ask (fun fault world => ?_) fun _ _ _ => ?_)
    · exact .failed nofun rfl
    · exact .of_eq rfl (.failed nofun rfl)

theorem meets_relocate (world : WorldId) (pos : BlockPos) (scene : Scene W) :
    (relocate world pos : Action W Bool).Meets scene (Resettles scene.turtle world pos) := by
  refine .bind (.of_eq rfl (.ite (fun here => .of_eq rfl (.arrived here rfl)) fun away => ?_))
  refine .bind (.ask (fun _ _ => .failed nofun rfl) fun loaded _ _ => .ite (fun _ => ?_) fun _ => ?_)
  · refine .bind (.ask (fun _ _ => .failed nofun rfl) fun bounded _ _ => .ite (fun _ => ?_) fun _ => ?_)
    · refine .ite (fun moving => .of_eq rfl (.failed nofun rfl)) fun still => ?_
      refine .ite (fun engaged => .of_eq rfl (.failed nofun rfl)) fun free => .latched ?_
      refine (meets_replaceEntity world pos _).mono fun result left resettles => ?_
      exact resettles.released (by simpa using free)
    · exact .of_eq rfl (.failed nofun rfl)
  · exact .of_eq rfl (.failed nofun rfl)

/-! ### Stepping -/

omit [World W] in
/-- The ways in which a step can end in any world. -/
inductive Steps (turtle : Turtle) (direction : MoveDirection) :
    Except Stop (List Json) → Scene W → Prop where
  | failed {stop : Stop} {left : Scene W} (still : left.turtle = turtle) :
      Steps turtle direction (.error stop) left
  | taken {left : Scene W} {entity : EntityRef}
      (there : entity.world = turtle.world ∧ entity.pos = direction.target turtle.facing turtle.pos)
      (fuelled : turtle.fuel.has moveCost = true)
      (same : left.turtle = (Turtle.beginning
        { turtle with entity, fuel := (turtle.fuel.consume moveCost).2 } direction.animation).2) :
      Steps turtle direction (.ok []) left
  | stranded {left : Scene W} {entity : EntityRef} {fault : Fault}
      (there : entity.world = turtle.world ∧ entity.pos = direction.target turtle.facing turtle.pos)
      (same : left.turtle = { turtle with entity })
      (botches : Botches left.effects turtle.world turtle.pos) :
      Steps turtle direction (.error (.fault fault)) left

theorem meets_move (direction : MoveDirection) (scene : Scene W)
    (idle : scene.turtle.animation.playing = false) :
    (move direction : Action W (List Json)).Meets scene (Steps scene.turtle direction) := by
  have rejected {message : String} {next : Unit → Action W (List Json)} {between : Scene W}
      (still : between.turtle = scene.turtle) :
      (reject message >>= next).Meets between (Steps scene.turtle direction) := .of_eq rfl (.failed still)
  refine .bind (.of_eq rfl (.bind (.ask (fun _ _ => .failed rfl) fun _ _ _ => ?_)))
  refine .ite (fun bounded => ?_) fun _ => rejected rfl
  refine .bind (.ask (fun _ _ => .failed rfl) fun _ _ _ => .ite (fun loaded => ?_) fun _ => rejected rfl)
  refine .bind (.ask (fun _ _ => .failed rfl) fun _ _ _ => .ite (fun free => ?_) fun _ => rejected rfl)
  refine .bind (.bind (.of_eq rfl (.ask (fun _ _ => .failed rfl) fun _ _ _ => ?_)))
  refine .ite (fun _ => rejected rfl) fun _ => .ite (fun fuelled => ?_) fun _ => rejected rfl
  refine .bind ((meets_relocate _ _ _).mono fun result left resettles => ?_)
  cases resettles with
  | failed failed still =>
    rcases result with stop | there
    · exact .failed still
    · refine .ite (fun arrived => (failed (congrArg _ arrived)).elim) fun _ => rejected still
  | @arrived _ entity there moved =>
    refine .ite (fun _ => .bind (.of_eq rfl ?_)) fun missed => (missed rfl).elim
    refine .of_eq (outcome_beginAnimation direction.animation) ?_
    rw [Turtle.beginning_of_idle (by rw [moved]; exact idle)]
    exact .taken there fuelled (by rw [moved])
  | stranded there moved botches => exact .stranded there moved botches

end Action

theorem Turtle.playing_beginning {turtle : Turtle} (idle : turtle.animation.playing = false)
    {kind : AnimationKind} (some : kind ≠ .none) :
    (turtle.beginning kind).2.animation.playing = true := by
  rw [beginning, Animation.begin_of_still idle some]
  exact decide_eq_true some

theorem MoveDirection.animation_ne_none (direction : MoveDirection) : direction.animation ≠ .none := by
  cases direction <;> decide

namespace Round

section

variable {C M : Type} [Command C] [World W] (round : Round C M W) (id : TurtleId) (member : Member C)
  (entry : QueueEntry C)

/-- What the command of an entry works on when the fleet runs it for a member. -/
def scene : Scene W :=
  { turtle := member.turtle, world := round.stage.world,
    otherMovers := round.stage.fleet.moversExcept id }

/-- What an onlooker sees while the fleet runs the command of an entry for a member. -/
def effects : List Effect :=
  ((Command.execute entry.command round.stage.fleet.context).outcome (round.scene id member)).2.effects

variable [WorkMonitor M] {round id member entry} {result : Except Stop (List Json)} {left : Scene W}

/-- If the turtle is idle after its command, the response goes out at once. -/
theorem execute_unheld
    (ran : (Command.execute entry.command round.stage.fleet.context).outcome (round.scene id member) =
      (result, left)) (idle : left.turtle.animation.playing = false) (nanos : Nat) :
    (round.execute id member entry nanos).stage.fleet.members.get? id =
        some { member with turtle := left.turtle } ∧
      (round.execute id member entry nanos).stage.signals =
        round.stage.signals ++ left.effects.map .effect ++
          [.published ((Response.ofResult entry.id result).toEvent id)] := by
  rw [execute_of_ran round member ran nanos, idle]
  exact ⟨Keyed.get?_insert_self .., rfl⟩

/-- If the turtle is animated after its command, the response is held back. -/
theorem execute_held
    (ran : (Command.execute entry.command round.stage.fleet.context).outcome (round.scene id member) =
      (result, left)) (playing : left.turtle.animation.playing = true) (nanos : Nat) :
    (round.execute id member entry nanos).stage.fleet.members.get? id =
      some { member with turtle := left.turtle, pending := some (.ofResult entry.id result) } := by
  rw [execute_of_ran round member ran nanos, playing]
  exact Keyed.get?_insert_self ..

end

variable {M : Type} [World W] [WorkMonitor M]

/-- A step that fails has not been taken, in any world, whatever its calls are answered and wherever
one of them breaks off. The failure goes out at once, and facing, slots, fuel and all else but the
entity are what they were before the command. The entity is, too, unless the last of the calls was to
remove it and broke off. A step that succeeds is animated, has brought the turtle ahead and has been
paid for; with the same exception nothing else gives it another entity. -/
theorem failed_steps_are_not_taken (round : Round TurtleCommand M W) (id : TurtleId)
    (member : Member TurtleCommand) (entry : QueueEntry TurtleCommand) (nanos : Nat)
    {direction : MoveDirection} (command : entry.command = .move direction)
    (idle : member.turtle.animation.playing = false) :
    let ending := round.ending id member entry
    let after := (round.execute id member entry nanos).stage
    let botched := Action.Botches (round.effects id member entry) member.turtle.world member.turtle.pos
    ∃ served, after.fleet.members.get? id = some served ∧
      (∀ stop, ending = .error stop →
        after.signals = round.stage.signals ++ (round.effects id member entry).map .effect ++
          [.published ((Response.ofResult entry.id (.error stop)).toEvent id)] ∧
        (∃ entity, served = { member with turtle := { member.turtle with entity } }) ∧
        (¬ botched → served = member)) ∧
      (∀ payload, ending = .ok payload → payload = [] ∧
        served.pending = some (.ofResult entry.id (.ok [])) ∧
        member.turtle.fuel.has Action.moveCost = true ∧
        ∃ entity, entity.world = member.turtle.world ∧
          entity.pos = direction.target member.turtle.facing member.turtle.pos ∧
          served.turtle = (Turtle.beginning { member.turtle with
            entity, fuel := (member.turtle.fuel.consume Action.moveCost).2 } direction.animation).2) ∧
      (served.turtle.entity ≠ member.turtle.entity → ¬ botched →
        ending = .ok [] ∧
          served.turtle.fuel = (member.turtle.fuel.consume Action.moveCost).2) := by
  intro ending after botched
  have steps : (Command.execute entry.command round.stage.fleet.context : Action W _).Meets
      (round.scene id member) (Action.Steps member.turtle direction) := by
    rw [command]
    exact Action.meets_move direction _ idle
  rcases ran : (Command.execute entry.command round.stage.fleet.context).outcome
    (round.scene id member) with ⟨result, left⟩
  rw [Action.Meets, ran] at steps
  have ended : ending = result := congrArg Prod.fst ran
  have seen : round.effects id member entry = left.effects := congrArg (·.2.effects) ran
  rw [ended, seen]
  cases steps with
  | @failed stop _ still =>
    obtain ⟨found, signals⟩ := execute_unheld ran (by rw [still]; exact idle) nanos
    rw [still] at found
    refine ⟨member, found, ?_, nofun, fun moved => (moved rfl).elim⟩
    rintro _ ⟨⟩
    exact ⟨signals, ⟨member.turtle.entity, rfl⟩, fun _ => rfl⟩
  | @taken _ entity there fuelled same =>
    have found := execute_held ran
      (by rw [same]; exact Turtle.playing_beginning (by exact idle) direction.animation_ne_none) nanos
    refine ⟨_, found, nofun, ?_, fun _ _ => ⟨rfl, ?_⟩⟩
    · rintro _ ⟨⟩
      exact ⟨rfl, rfl, fuelled, entity, there.1, there.2, same⟩
    · obtain ⟨animation, begun⟩ := Turtle.beginning_turtle { member.turtle with
        entity, fuel := (member.turtle.fuel.consume Action.moveCost).2 } direction.animation
      dsimp only
      rw [same, begun]
  | @stranded _ entity fault there same botches =>
    obtain ⟨found, signals⟩ := execute_unheld ran (by rw [same]; exact idle) nanos
    have broken : botched := by
      show Action.Botches (round.effects id member entry) _ _
      rwa [seen]
    refine ⟨_, found, ?_, nofun, fun _ whole => (whole broken).elim⟩
    rintro _ ⟨⟩
    exact ⟨signals, ⟨entity, by rw [same]⟩, fun whole => (whole broken).elim⟩

/-- A turtle with fuel for ten steps. -/
def walker : Member TurtleCommand :=
  { registration := 0, queue := {}
    turtle := Turtle.unplaced { Sample.scout with fuelLevel := 10 } Sample.fleet.settings }

/-- The walker in a world of which the next call of a kind breaks off. -/
def shaky (edit : Edit) : Round TurtleCommand WorkBudget RehearsalWorld :=
  { report := { time := 1 }
    stage :=
      { fleet := Sample.fleet.setMember "scout" walker
        world := ({ memory := Sample.stage.world } : RehearsalWorld).breakNext edit "out of order" } }

def stride : QueueEntry TurtleCommand := { id := 1, command := .move .forward }

theorem failed_steps_are_not_taken_shaky :
    walker.turtle.animation.playing = false ∧
      (shaky .spawn).ending "scout" walker stride = .error (.fault (.raised (some "out of order"))) ∧
      ¬ Action.Botches ((shaky .spawn).effects "scout" walker stride) "overworld" ⟨0, 64, 0⟩ ∧
      ((shaky .spawn).execute "scout" walker stride 0).stage.fleet.members.get? "scout" =
        some walker ∧
      (shaky .setBlock).ending "scout" walker stride = .ok [] ∧
      ∃ served, ((shaky .setBlock).execute "scout" walker stride 0).stage.fleet.members.get? "scout" =
          some served ∧
        served.turtle.pos = ⟨0, 64, -1⟩ ∧ served.turtle.fuel.level = 9 := by
  have idle : walker.turtle.animation.playing = false := rfl
  have failed : (shaky .spawn).ending "scout" walker stride =
      .error (.fault (.raised (some "out of order"))) := by rfl
  have last : ((shaky .spawn).effects "scout" walker stride).getLast? = some
      (.world (.spawn "overworld" ⟨0, 64, -1⟩ walker.turtle.snapshot) .broken ["scout"]) := by rfl
  have whole : ¬ Action.Botches ((shaky .spawn).effects "scout" walker stride) "overworld"
      ⟨0, 64, 0⟩ := by
    rintro ⟨movers, other⟩
    cases last.symm.trans other
  have done : (shaky .setBlock).ending "scout" walker stride = .ok [] := by rfl
  obtain ⟨still, found, stopped, _⟩ :=
    failed_steps_are_not_taken (shaky .spawn) "scout" walker stride 0 rfl idle
  obtain ⟨served, known, _, taken, _⟩ :=
    failed_steps_are_not_taken (shaky .setBlock) "scout" walker stride 0 rfl idle
  obtain ⟨_, _, _, entity, _, ahead, same⟩ := taken [] done
  rw [(stopped _ failed).2.2 whole] at found
  refine ⟨idle, failed, whole, found, done, served, known, ?_, by rw [same]; rfl⟩
  rw [same, Turtle.pos, Turtle.entity_beginning]
  exact ahead

/-- The old entity is not removed. The step fails and costs nothing, but the turtle has gone ahead. -/
theorem failed_steps_may_be_taken_shaky :
    (shaky .remove).ending "scout" walker stride = .error (.fault (.raised (some "out of order"))) ∧
      ∃ served, ((shaky .remove).execute "scout" walker stride 0).stage.fleet.members.get? "scout" =
          some served ∧
        walker.turtle.pos = ⟨0, 64, 0⟩ ∧ served.turtle.pos = ⟨0, 64, -1⟩ ∧
        served.turtle.fuel = walker.turtle.fuel ∧
        ((shaky .remove).execute "scout" walker stride 0).stage.signals.getLast? =
          some (.published ((Response.failure 1 "out of order").toEvent "scout")) :=
  ⟨by rfl, _, rfl, by rfl, by rfl, by rfl, by rfl⟩

end Round

end TurtleFleet
