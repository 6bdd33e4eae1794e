import TurtleFleet.Proofs.Endings
import TurtleFleet.Proofs.Memory

/-! Atomicity: whatever is rejected has changed nothing. A command may find out late that it cannot go
on, with items in hand or an entity already made; by then it has put back all that it took. -/

namespace TurtleFleet

variable {C M : Type}

/-! ### Spawns that come to nothing -/

/-- A new record that is taken away again leaves no trace. -/
theorem Dimension.removeEntity_addEntity {dimension : Dimension} {pos : BlockPos}
    (free : dimension.entityAt? pos = none) (record : EntityRecord) :
    (dimension.addEntity pos record).removeEntity pos = dimension := by
  have kept : ((pos, record) :: dimension.entities).filter (·.1 ≠ pos) = dimension.entities := by
    rw [List.filter_cons_of_neg (by simp)]
    refine List.filter_eq_self.mpr fun entry listed => ?_
    have apart : pos ≠ entry.1 := by simpa using List.lookup_eq_none_iff.mp free entry listed
    simpa using Ne.symm apart
  rw [removeEntity, addEntity, kept]

namespace MemoryWorld

variable {memory after : MemoryWorld} {world : WorldId} {pos : BlockPos} {template : TurtleSnapshot}

theorem dimensions_of_spawn_error {cause : WorldError}
    (refused : memory.spawn world pos template = (.error cause, after)) :
    after.dimensions = memory.dimensions := by
  unfold spawn at refused
  dsimp only at refused
  split at refused
  · cases refused
    rfl
  · split at refused
    · cases refused
      rfl
    · split at refused <;> cases refused
      rfl

/-- An entity that was just made leaves no trace when it is removed, since its place was free. -/
theorem dimensions_remove_of_spawned {entity : EntityRef}
    (spawned : memory.spawn world pos template = (.ok entity, after)) :
    (after.remove entity.world entity.pos).dimensions = memory.dimensions := by
  unfold spawn at spawned
  dsimp only at spawned
  split at spawned
  · cases spawned
  · split at spawned
    · cases spawned
    · rename_i unarmed dimension loaded
      split at spawned
      · cases spawned
      · rename_i free
        cases spawned
        show (memory.dimensions.adjust world _).adjust world (·.removeEntity pos) = _
        refine Keyed.adjust_adjust_of_undone fun known found => ?_
        have same : known = dimension := by
          unfold loadedDimension at loaded
          rw [found] at loaded
          dsimp only at loaded
          split at loaded <;> cases loaded
          rfl
        exact Dimension.removeEntity_addEntity (same ▸ by simpa using free) _

end MemoryWorld

/-! ### Rejected commands -/

theorem Turtle.beginning_of_idle {turtle : Turtle} (idle : turtle.animation.playing = false)
    (kind : AnimationKind) : (turtle.beginning kind).1 = .ok [] := by
  have begun : ∃ animation, turtle.animation.begin kind = .ok animation := by
    rw [Animation.begin, if_neg (by simp [idle])]
    split <;> exact ⟨_, rfl⟩
  obtain ⟨animation, begun⟩ := begun
  rw [beginning, begun]

theorem Turtle.beginning_turtle (turtle : Turtle) (kind : AnimationKind) :
    ∃ animation, (turtle.beginning kind).2 = { turtle with animation } := by
  unfold beginning
  split
  · exact ⟨_, rfl⟩
  · exact ⟨turtle.animation, rfl⟩

/-- A relocation that does not bring the turtle to another place has left no trace. -/
theorem Action.Relocates.unmoved {turtle left : Turtle} {memory after : MemoryWorld}
    {world : WorldId} {pos : BlockPos} {ending : Except Stop Bool}
    (relocates : Relocates turtle memory world pos ending left after) (failed : ending ≠ .ok true) :
    left = turtle ∧ after.dimensions = memory.dimensions := by
  cases relocates with
  | hindered hindered => exact ⟨rfl, rfl⟩
  | refused clear spawned => exact ⟨rfl, MemoryWorld.dimensions_of_spawn_error spawned⟩
  | discarded clear spawned wrong =>
    exact ⟨rfl, MemoryWorld.dimensions_remove_of_spawned spawned⟩
  | replaced clear spawned right => exact (failed rfl).elim

/-- A command that an idle turtle does not carry out has left no trace, unless the fault of a fuel
level above its cap broke it off. -/
theorem TurtleCommand.Ending.unchanged {context : Context} {turtle left : Turtle}
    {memory after : MemoryWorld} {command : TurtleCommand} {result : Except Stop (List Json)}
    {notices : List EquipmentNotice} {stop : Stop}
    (ending : command.Ending context turtle memory result left after notices)
    (idle : turtle.animation.playing = false) (sound : turtle.inventory.Sound)
    (stopped : result = .error stop) (whole : stop ≠ .fault (.overflow .subtract)) :
    left = turtle ∧ after.dimensions = memory.dimensions ∧ notices = [] := by
  have begun {turtle : Turtle} {kind : AnimationKind}
      (stopped : (turtle.beginning kind).1 = .error stop)
      (idle : turtle.animation.playing = false) : False := by
    rw [turtle.beginning_of_idle idle kind] at stopped
    cases stopped
  have unmoved {pos : BlockPos} {there : Except Stop Bool} {left : Turtle} {after : MemoryWorld}
      (relocated : Action.relocation turtle memory turtle.world pos = (there, left, after))
      (failed : there ≠ .ok true) : left = turtle ∧ after.dimensions = memory.dimensions := by
    exact (Action.Relocates.of_eq relocated).unmoved failed
  cases ending with
  | obstructed first => exact ⟨rfl, rfl, rfl⟩
  | unmoved clear refused =>
    obtain ⟨same, kept⟩ := unmoved refused (by simp)
    exact ⟨same, kept, rfl⟩
  | broken clear broken =>
    obtain ⟨same, kept⟩ := unmoved broken (by simp)
    exact ⟨same, kept, rfl⟩
  | moved clear relocated =>
    obtain ⟨entity, same⟩ := Action.relocation_turtle relocated
    subst same
    exact (begun stopped idle).elim
  | turned direction => exact (begun stopped idle).elim
  | refused other stop => exact ⟨rfl, rfl, rfl⟩
  | dug tool solid free stowed written => exact (begun stopped idle).elim
  | placed held placeable written => exact (begun stopped idle).elim
  | detected direction => cases stopped
  | inspected seen some => cases stopped
  | selected small => cases stopped
  | unburnt idle => cases stopped
  | @overflown limit gain burnt inventory fault taken overflow =>
    cases stopped
    simp only [FuelTank.add, checkedSub] at overflow
    split at overflow <;> cases overflow
    exact (whole rfl).elim
  | burnt required more held burns taken => exact (begun stopped idle).elim
  | untransferred small idle => cases stopped
  | returned apart took moves =>
    have same := moves.eq_of_none rfl (sound turtle.selectedSlot) took apart
    subst same
    exact ⟨rfl, rfl, rfl⟩
  | transferred small apart took arrived moves => exact (begun stopped idle).elim
  | unequipped empty free => cases stopped
  | equipped offered stowed => exact (begun stopped idle).elim
  | told => cases stopped

/-! ### Refused registrations -/

theorem Operation.unchanged_of_register {stage left : Stage C M MemoryWorld} {spec : TurtleSpec}
    {failure : Failure} (failed : Operation.register spec stage = .error failure left) :
    left.fleet = stage.fleet ∧ left.world.dimensions = stage.world.dimensions ∧
      noticesIn left.signals = noticesIn stage.signals := by
  have registers := Operation.registers_register stage spec
  rw [failed] at registers
  cases registers with
  | duplicate known => exact ⟨rfl, rfl, rfl⟩
  | unspawned absent spawned quiet untold =>
    refine ⟨rfl, ?_, by simp [untold]⟩
    exact MemoryWorld.dimensions_of_spawn_error (Stage.spawn_of_answers spawned)
  | discarded absent spawned foreign removed quiet untold =>
    refine ⟨rfl, ?_, by simp [untold]⟩
    rw [Stage.world_of_removed removed]
    exact MemoryWorld.dimensions_remove_of_spawned (Stage.spawn_of_answers spawned)
  | broken fault left => exact (Unbroken.register spec stage ⟨fault, left, failed⟩).elim

namespace Round

variable [WorkMonitor M]

/-- A rejected operation changes nothing. If an idle turtle with sound slots does not carry out a
command, the turtle is what it was, blocks and entities are what they were in every dimension, and
nothing is told of the equipment. Left out is only the fault of refuelling a turtle whose fuel level
already exceeds its cap: it breaks the command off and rejects nothing. If a registration is refused,
the fleet, the blocks and entities and the equipment are left alone in the same way. -/
theorem rejections_change_nothing :
    (∀ (round : Round TurtleCommand M MemoryWorld) (id : TurtleId) (member : Member TurtleCommand)
        (entry : QueueEntry TurtleCommand) (nanos : Nat) (stop : Stop),
      member.turtle.animation.playing = false → member.turtle.inventory.Sound →
      round.ending id member entry = .error stop → stop ≠ .fault (.overflow .subtract) →
      ∃ served, (round.execute id member entry nanos).stage.fleet.members.get? id = some served ∧
        served.turtle = member.turtle ∧
        (round.execute id member entry nanos).stage.world.dimensions = round.stage.world.dimensions ∧
        noticesIn (round.execute id member entry nanos).stage.signals =
          noticesIn round.stage.signals) ∧
    ∀ (stage left : Stage C M MemoryWorld) (spec : TurtleSpec) (failure : Failure),
      Operation.register spec stage = .error failure left →
      left.fleet = stage.fleet ∧ left.world.dimensions = stage.world.dimensions ∧
        noticesIn left.signals = noticesIn stage.signals := by
  refine ⟨fun round id member entry nanos stop idle sound rejected whole => ?_,
    fun _ _ _ _ failed => Operation.unchanged_of_register failed⟩
  obtain ⟨served, notices, found, ending, told⟩ := round.execute_ends id member entry nanos
  obtain ⟨same, kept, none⟩ := ending.unchanged idle sound rejected whole
  exact ⟨served, found, same, kept, by rw [told, none, List.append_nil]⟩

/-- A turtle that could take a step. -/
def hiker : Member TurtleCommand :=
  { registration := 0
    turtle := Turtle.unplaced { Sample.scout with fuelLevel := 1 } Sample.fleet.settings
    queue := {} }

/-- A world in which the next entity is no turtle. -/
def haunted : Round TurtleCommand WorkBudget MemoryWorld :=
  { stage := { Sample.stage with
      fleet := Sample.fleet.setMember "scout" hiker
      world := Sample.stage.world.spawnNextAs (.other "boat") }
    report := { time := 1 } }

/-- The haunted world after the hiker tried to take a step. -/
def tried : Stage TurtleCommand WorkBudget MemoryWorld :=
  (haunted.execute "scout" hiker { id := 1, command := .move .forward } 0).stage

theorem rejections_change_nothing_haunted :
    haunted.ending "scout" hiker { id := 1, command := .move .forward } =
        .error (.rejected "Cannot leave loaded world") ∧
      tried.world.spawnCalls = 1 ∧ tried.world.removeCalls = 1 ∧
      (∃ served, tried.fleet.members.get? "scout" = some served ∧ served.turtle = hiker.turtle ∧
        tried.world.dimensions = haunted.stage.world.dimensions ∧
        noticesIn tried.signals = noticesIn haunted.stage.signals) ∧
      ∃ failure left, Operation.register { Sample.scout with turtleId := "pilot", pos := ⟨2, 64, 0⟩ }
          haunted.stage = .error failure left ∧
        left.world.removeCalls = 1 ∧ left.fleet = haunted.stage.fleet ∧
        left.world.dimensions = haunted.stage.world.dimensions ∧
        noticesIn left.signals = noticesIn haunted.stage.signals := by
  have rejected : haunted.ending "scout" hiker { id := 1, command := .move .forward } =
      .error (.rejected "Cannot leave loaded world") := by rfl
  obtain ⟨commands, registrations⟩ :=
    @rejections_change_nothing TurtleCommand WorkBudget inferInstance
  obtain ⟨failure, left, failed, discarded⟩ : ∃ failure left,
      Operation.register { Sample.scout with turtleId := "pilot", pos := ⟨2, 64, 0⟩ } haunted.stage =
        .error failure left ∧ left.world.removeCalls = 1 := ⟨_, _, rfl, rfl⟩
  exact ⟨rejected, rfl, rfl,
    commands haunted "scout" hiker _ 0 _ rfl (by decide) rejected nofun,
    failure, left, failed, discarded, registrations haunted.stage left _ failure failed⟩

end Round

end TurtleFleet
