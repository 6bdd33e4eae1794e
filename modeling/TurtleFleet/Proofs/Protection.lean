import TurtleFleet.Proofs.Career
import TurtleFleet.Proofs.Conservation
import TurtleFleet.Proofs.Footing
import TurtleFleet.Proofs.Ground

/-! Protection of the world: where commands change blocks and entities. The guards are spread over the
commands and the calls to the world, but whatever a command does, it has passed all of them: it changes
a block only where it digs or places and where that is allowed, it takes its turtle only where turtles
may go, and it leaves the entities of others alone. Over a whole course nothing else gets at the
ground. -/

namespace TurtleFleet

variable {M : Type}

/-- The place is loaded and not protected, and no entity is in it. -/
structure MemoryWorld.Permits (memory : MemoryWorld) (world : WorldId) (pos : BlockPos) : Prop where
  loaded : memory.isLoaded world pos = true
  free : memory.isProtected world pos = false
  vacant : memory.entityAt? world pos = none

namespace TurtleCommand

/-- Digging makes a solid block air, and placing makes air or a liquid a solid block. -/
def Alters (before after : Block) : TurtleCommand → Prop
  | dig .. => before.kind = .solid ∧ after = .air
  | place _ => (before.kind = .air ∨ before.kind = .liquid) ∧ after.kind = .solid
  | _ => False

/-- What a command does to the ground: it changes at most the block where it digs or places, if that is
permitted there. -/
structure Works (turtle : Turtle) (memory after : MemoryWorld) (command : TurtleCommand) : Prop where
  changed : ∀ world pos, after.terrain world pos ≠ memory.terrain world pos →
    world = turtle.world ∧ command.reach? turtle = some pos ∧ memory.Permits world pos ∧
      command.Alters (memory.terrain world pos) (after.terrain world pos)
  guards : memory.SameGuards after

/-- The command makes the turtle enter the place ahead, where turtles may go. -/
structure Enters (turtle : Turtle) (memory : MemoryWorld) (left : Turtle) (command : TurtleCommand)
    (direction : MoveDirection) : Prop where
  step : command = .move direction
  home : left.world = turtle.world
  ahead : left.pos = direction.target turtle.facing turtle.pos
  bounded : memory.isInBounds left.world left.pos = true
  passable : (memory.block left.world left.pos).isPassable = true
  permits : memory.Permits left.world left.pos

end TurtleCommand

/-- Wherever the entities differ, there was no entity but that of the turtle before, and there is no
entity but that of the turtle afterwards. -/
structure Turtle.Shifts (turtle : Turtle) (memory : MemoryWorld) (left : Turtle) (after : MemoryWorld) :
    Prop where
  before : ∀ world pos record, after.entityAt? world pos ≠ memory.entityAt? world pos →
    memory.entityAt? world pos = some record →
    record.Houses turtle ∧ world = turtle.world ∧ pos = turtle.pos
  afterwards : ∀ world pos record, after.entityAt? world pos ≠ memory.entityAt? world pos →
    after.entityAt? world pos = some record →
    record.Houses left ∧ world = left.world ∧ pos = left.pos

theorem Turtle.Shifts.of_same {turtle left : Turtle} {memory after : MemoryWorld}
    (same : memory.SameEntities after) : turtle.Shifts memory left after where
  before world pos _ changed := (changed (same.records world pos)).elim
  afterwards world pos _ changed := (changed (same.records world pos)).elim

/-- What becomes of the turtle apart from its id and its entity does not matter. -/
theorem Turtle.Shifts.refit {turtle left refitted : Turtle} {memory after : MemoryWorld}
    (shifts : turtle.Shifts memory left after) (named : refitted.id = left.id)
    (entity : refitted.entity = left.entity) : turtle.Shifts memory refitted after where
  before := shifts.before
  afterwards world pos record changed found := by
    obtain ⟨houses, home, there⟩ := shifts.afterwards world pos record changed found
    have serial := congrArg EntityRef.serial entity
    refine ⟨⟨houses.kind, houses.serial.trans serial.symm, houses.template.trans named.symm⟩, ?_, ?_⟩
    · exact home.trans (congrArg EntityRef.world entity).symm
    · exact there.trans (congrArg EntityRef.pos entity).symm

/-- A turtle without an obstacle ahead may go there, and there is room. -/
theorem Turtle.clear_of_obstacle? {turtle : Turtle} {memory : MemoryWorld}
    {direction : MoveDirection} (clear : turtle.obstacle? memory direction = none) :
    let target := direction.target turtle.facing turtle.pos
    memory.isInBounds turtle.world target = true ∧ memory.isLoaded turtle.world target = true ∧
      (memory.block turtle.world target).isPassable = true ∧
      memory.isProtected turtle.world target = false := by
  unfold obstacle? at clear
  grind

/-! ### Relocations -/

namespace Action.Relocates

variable {turtle left : Turtle} {memory after : MemoryWorld} {pos : BlockPos}
  {ending : Except Stop Bool}

theorem sameGround (relocates : Relocates turtle memory turtle.world pos ending left after) :
    memory.SameGround after := by
  cases relocates with
  | hindered hindered => exact .of_dimensions rfl
  | refused clear spawned => exact MemoryWorld.sameGround_of_spawn spawned
  | discarded clear spawned wrong =>
    exact (MemoryWorld.sameGround_of_spawn spawned).trans (MemoryWorld.sameGround_remove ..)
  | replaced clear spawned right =>
    exact (MemoryWorld.sameGround_of_spawn spawned).trans (MemoryWorld.sameGround_remove ..)

theorem shifts (relocates : Relocates turtle memory turtle.world pos ending left after)
    (stands : turtle.StandsIn memory) : turtle.Shifts memory left after := by
  cases relocates with
  | hindered hindered => exact .of_same (.of_dimensions rfl)
  | refused clear spawned =>
    cases MemoryWorld.Spawns.of_eq spawned with
    | refused same => exact .of_same same
  | discarded clear spawned wrong =>
    exact .of_same (.of_dimensions (MemoryWorld.dimensions_remove_of_spawned spawned))
  | @replaced _ between clear spawned right =>
    cases MemoryWorld.Spawns.of_eq spawned with
    | @made kind serial _ gains =>
      obtain ⟨record, houses, there⟩ := stands
      have records (world : WorldId) (place : BlockPos) :
          (between.remove turtle.world turtle.pos).entityAt? world place =
            if world = turtle.world ∧ place = turtle.pos then none
            else if world = turtle.world ∧ place = pos then
              some { serial, kind, template := turtle.snapshot }
            else memory.entityAt? world place := by
        rw [MemoryWorld.entityAt?_remove, gains.records]
      constructor
      · intro world place other changed found
        rw [records] at changed
        split at changed
        · rename_i own
          rw [own.1, own.2, there] at found
          cases found
          exact ⟨houses, own⟩
        · split at changed
          · rename_i target
            rw [target.1, target.2, gains.free] at found
            cases found
          · exact (changed rfl).elim
      · intro world place other changed found
        rw [records] at changed found
        split at found
        · cases found
        · rename_i away
          rw [if_neg away] at changed
          split at found
          · rename_i target
            cases found
            exact ⟨⟨(isTurtleAt_iff.mp right).1, rfl, rfl⟩, target⟩
          · rename_i elsewhere
            rw [if_neg elsewhere] at changed
            exact (changed rfl).elim

end Action.Relocates

/-! ### Commands -/

namespace TurtleCommand

variable {context : Context} {turtle left : Turtle} {memory after : MemoryWorld}
  {command : TurtleCommand} {result : Except Stop (List Json)} {notices : List EquipmentNotice}

theorem Works.of_sameGround (same : memory.SameGround after) : command.Works turtle memory after where
  changed world pos changed := (changed (same.terrain world pos)).elim
  guards := same.guards

/-- A command may write the block of the place that it reaches, if that is permitted there. -/
theorem Works.of_setBlock {pos : BlockPos} {block : Block}
    (written : memory.setBlock turtle.world pos block = (.ok (), after))
    (reached : command.reach? turtle = some pos)
    (free : memory.isProtected turtle.world pos = false)
    (vacant : memory.entityAt? turtle.world pos = none)
    (alters : command.Alters (memory.terrain turtle.world pos) block) :
    command.Works turtle memory after := by
  have writes := MemoryWorld.writes_setBlock written
  refine ⟨fun world place changed => ?_, writes.guards⟩
  rw [writes.terrain] at changed ⊢
  split at changed
  · rename_i target
    obtain ⟨rfl, rfl⟩ := target
    rw [if_pos ⟨rfl, rfl⟩]
    exact ⟨rfl, reached, ⟨writes.loaded, free, vacant⟩, alters⟩
  · exact (changed rfl).elim

namespace Ending

theorem works (ending : command.Ending context turtle memory result left after notices) :
    command.Works turtle memory after := by
  have relocated {pos : BlockPos} {there : Except Stop Bool} {left : Turtle} {after : MemoryWorld}
      (ended : Action.relocation turtle memory turtle.world pos = (there, left, after)) :
      memory.SameGround after := (Action.Relocates.of_eq ended).sameGround
  have kept : memory.SameGround memory := .of_dimensions rfl
  cases ending with
  | unmoved clear refused => exact .of_sameGround (relocated refused)
  | broken clear stopped => exact .of_sameGround (relocated stopped)
  | moved clear arrived => exact .of_sameGround (relocated arrived)
  | @dug direction wanted side inventory _ tool solid free stowed written =>
    obtain ⟨vacant, seen⟩ := MemoryWorld.vacant_of_block (by rw [solid]; decide)
    exact .of_setBlock written rfl free vacant ⟨by rw [seen]; exact solid, rfl⟩
  | @placed direction stack _ held placeable written =>
    simp only [MemoryWorld.isPlaceable, Bool.and_eq_true, Bool.not_eq_true'] at placeable
    obtain ⟨⟨_, passable⟩, free⟩ := placeable
    obtain ⟨vacant, seen⟩ := MemoryWorld.vacant_of_passable passable
    simp only [Block.isPassable, Bool.or_eq_true, decide_eq_true_eq] at passable
    exact .of_setBlock written rfl free vacant ⟨by rw [seen]; exact passable, rfl⟩
  | _ => exact .of_sameGround kept

/-- A step that succeeds, and whatever else moves a turtle, makes it enter the place ahead. -/
theorem enters (ending : command.Ending context turtle memory result left after notices)
    (moved : command.isStep = true ∧ result.isOk = true ∨ left.entity ≠ turtle.entity) :
    ∃ direction, command.Enters turtle memory left direction := by
  have stays {pos : BlockPos} {there : Except Stop Bool} {left : Turtle} {after : MemoryWorld}
      (ended : Action.relocation turtle memory turtle.world pos = (there, left, after))
      (failed : there ≠ .ok true) : left.entity = turtle.entity := by
    rw [((Action.Relocates.of_eq ended).unmoved failed).1]
  have still (idle : command.isStep = true → result.isOk = false)
      (same : left.entity = turtle.entity) :
      ∃ direction, command.Enters turtle memory left direction := by
    rcases moved with ⟨step, done⟩ | away
    · rw [idle step] at done
      cases done
    · exact (away same).elim
  cases ending with
  | obstructed first => exact still (fun _ => rfl) rfl
  | unmoved clear refused => exact still (fun _ => rfl) (stays refused (by simp))
  | broken clear stopped => exact still (fun _ => rfl) (stays stopped (by simp))
  | @moved direction between _ clear arrived =>
    obtain ⟨home, ahead⟩ := (Action.Relocates.of_eq arrived).arrives
    obtain ⟨bounded, loaded, passable, free⟩ := Turtle.clear_of_obstacle? clear
    have entity := Turtle.entity_beginning
      { between with fuel := (between.fuel.consume Action.moveCost).2 } direction.animation
    have world := (congrArg EntityRef.world entity).trans home
    have pos := (congrArg EntityRef.pos entity).trans ahead
    refine ⟨direction, rfl, world, pos, ?_, ?_, ?_⟩
    all_goals rw [Turtle.world, Turtle.pos, world, pos]
    · exact bounded
    · exact passable
    · exact ⟨loaded, free, (MemoryWorld.vacant_of_passable passable).1⟩
  | refused other stop => exact still (fun _ => rfl) rfl
  | equipped offered stowed =>
    exact still (fun step => by cases step) (Turtle.entity_beginning ..)
  | told => exact still (fun step => by cases step) rfl
  | _ => exact still (fun step => by cases step) (by simp)

/-- Commands change no entity but that of their turtle. -/
theorem shifts (ending : command.Ending context turtle memory result left after notices)
    (stands : turtle.StandsIn memory) : turtle.Shifts memory left after := by
  have relocated {pos : BlockPos} {there : Except Stop Bool} {left : Turtle} {after : MemoryWorld}
      (ended : Action.relocation turtle memory turtle.world pos = (there, left, after)) :
      turtle.Shifts memory left after := (Action.Relocates.of_eq ended).shifts stands
  cases ending with
  | unmoved clear refused => exact relocated refused
  | broken clear stopped => exact relocated stopped
  | @moved direction between _ clear arrived =>
    obtain ⟨animation, same⟩ := Turtle.beginning_turtle
      { between with fuel := (between.fuel.consume Action.moveCost).2 } direction.animation
    rw [same]
    exact (relocated arrived).refit rfl rfl
  | dug tool solid free stowed wrote => exact .of_same (.of_setBlock wrote)
  | placed held placeable wrote => exact .of_same (.of_setBlock wrote)
  | _ => exact .of_same (.of_dimensions rfl)

end Ending

end TurtleCommand

/-! ### Places that no command gets at -/

/-- The place is protected or not loaded, or no tool breaks its block. -/
def MemoryWorld.Shielded (memory : MemoryWorld) (world : WorldId) (pos : BlockPos) : Prop :=
  memory.isProtected world pos = true ∨ memory.isLoaded world pos = false ∨
    (memory.terrain world pos).kind = .unbreakable

/-- The block of a shielded place. -/
structure MemoryWorld.Keeps (world : WorldId) (pos : BlockPos) (block : Block)
    (memory : MemoryWorld) : Prop where
  block : memory.terrain world pos = block
  shielded : memory.Shielded world pos

namespace MemoryWorld.Keeps

variable {world : WorldId} {pos : BlockPos} {block : Block} {memory after : MemoryWorld}

theorem of_same (keeps : Keeps world pos block memory)
    (same : after.terrain world pos = memory.terrain world pos) (guards : memory.SameGuards after) :
    Keeps world pos block after where
  block := same.trans keeps.block
  shielded := by
    rw [Shielded, same, guards.guarded, guards.loaded]
    exact keeps.shielded

theorem sameGround (keeps : Keeps world pos block memory) (same : memory.SameGround after) :
    Keeps world pos block after :=
  keeps.of_same (same.terrain world pos) same.guards

theorem works (keeps : Keeps world pos block memory) {turtle : Turtle} {command : TurtleCommand}
    (works : command.Works turtle memory after) : Keeps world pos block after := by
  refine keeps.of_same (Classical.byContradiction fun changed => ?_) works.guards
  obtain ⟨_, _, permits, alters⟩ := works.changed world pos changed
  rcases keeps.shielded with guarded | unloaded | unbreakable
  · rw [permits.free] at guarded
    cases guarded
  · rw [permits.loaded] at unloaded
    cases unloaded
  · cases command <;> simp [TurtleCommand.Alters, unbreakable] at alters

end MemoryWorld.Keeps

namespace Stage

variable [WorkMonitor M] {world : WorldId} {pos : BlockPos} {block : Block}

theorem keeps_lastsTicks : LastsTicks fun stage : Stage TurtleCommand M MemoryWorld =>
    stage.world.Keeps world pos block where
  paced _ _ _ keeps := keeps
  takeIn _ keeps := keeps
  visit {round} id nanos keeps := by
    rcases task : round.task? id with _ | task
    · rw [round.world_visit task]
      exact keeps
    · obtain ⟨_, _, _, _, _, _, ending⟩ := round.ending_visit task nanos
      exact keeps.works ending.works

/-- No deed disturbs a shielded place but one that reshapes the world. -/
theorem keeps_next {stage : Stage TurtleCommand M MemoryWorld}
    (keeps : stage.world.Keeps world pos block) {deed : Deed TurtleCommand MemoryWorld}
    (settled : ∀ change, deed ≠ .reshape change) : (stage.next deed).world.Keeps world pos block := by
  have does := stage.does_next deed (stage.whole_of_memory deed)
  generalize left : stage.next deed = after at does ⊢
  cases does with
  | ticked arrivals nanos => exact left ▸ keeps_lastsTicks.next keeps arrivals nanos
  | unspawned absent spawned quiet =>
    exact keeps.sameGround (MemoryWorld.sameGround_of_spawn (spawn_of_answers spawned))
  | discarded absent spawned foreign removed quiet =>
    rw [world_of_removed removed]
    exact keeps.sameGround ((MemoryWorld.sameGround_of_spawn (spawn_of_answers spawned)).trans
      (MemoryWorld.sameGround_remove ..))
  | enrolled absent spawned kind quiet =>
    exact keeps.sameGround (MemoryWorld.sameGround_of_spawn (spawn_of_answers spawned))
  | removed found answered quiet =>
    rw [world_of_removed answered]
    exact keeps.sameGround (MemoryWorld.sameGround_remove ..)
  | reshaped change => exact (settled change rfl).elim
  | _ => exact keeps

theorem keeps_of_leads {stage last : Stage TurtleCommand M MemoryWorld}
    {course : List (Deed TurtleCommand MemoryWorld)} (keeps : stage.world.Keeps world pos block)
    (led : stage.Leads course last) (settled : ∀ change, .reshape change ∉ course) :
    last.world.Keeps world pos block := by
  induction led with
  | rest stage => exact keeps
  | @step stage last deed deeds whole later ih =>
    apply ih
    · apply keeps_next keeps
      rintro change rfl
      exact settled change List.mem_cons_self
    · exact fun change listed => settled change (List.mem_cons_of_mem _ listed)

/-- The world is protected. Along every course whose edits are those of the owner of the world, a
visit changes the world only if its turtle carries out a command. Such a command changes at most the
block where it digs or places, which is loaded and neither protected nor hidden by an entity; digging
makes a solid block air, and placing makes air or a liquid solid. A step that succeeds, and whatever
else moves the turtle, brings it to the place ahead, which is in bounds, loaded, passable, not
protected and not occupied. No entity but that of the turtle is made, removed or altered. So nothing
but an edit of the owner ever changes a block that is protected, not loaded or unbreakable. -/
theorem world_is_protected {start last : Stage TurtleCommand M MemoryWorld}
    {course : List (Deed TurtleCommand MemoryWorld)} (opening : start.Opening)
    (led : start.Leads course last)
    (edits : ∀ change, .reshape change ∈ course → MemoryWorld.OwnerEdit change) :
    (∀ (arrivals : TurtleId → List (Submitter × TurtleCommand)) (nanos : TurtleId → Nat)
        (id : TurtleId),
      let round := Operation.reached arrivals nanos last id
      let after := round.visit id (nanos id)
      (round.task? id = none → after.stage.world = round.stage.world) ∧
      ∀ entry result, round.task? id = some (entry, result) → ∃ member served,
        round.stage.fleet.members.get? id = some member ∧
        after.stage.fleet.members.get? id = some served ∧
        let turtle := (member.woken id round.stage.fleet.time).turtle
        entry.command.Works turtle round.stage.world after.stage.world ∧
        (entry.command.isStep = true ∧ result.isOk = true ∨ served.turtle.entity ≠ turtle.entity →
          ∃ direction, entry.command.Enters turtle round.stage.world served.turtle direction) ∧
        turtle.Shifts round.stage.world served.turtle after.stage.world) ∧
    ∀ (later : List (Deed TurtleCommand MemoryWorld)) (final : Stage TurtleCommand M MemoryWorld),
      last.Leads later final → (∀ change, .reshape change ∉ later) → ∀ world pos,
      last.world.Shielded world pos →
      final.world.terrain world pos = last.world.terrain world pos ∧
        final.world.Shielded world pos := by
  have rooted := opening.rooted.of_leads led edits
  refine ⟨fun arrivals nanos id => ⟨fun idle => Round.world_visit idle _, ?_⟩, ?_⟩
  · intro entry result task
    obtain ⟨member, served, notices, found, known, _, ending⟩ := Round.ending_visit task (nanos id)
    have there := Operation.lasts_reached arrivals nanos Rooted.lastsTicks rooted id
    have stands (time : Nat) : (member.woken id time).turtle.StandsIn
        (Operation.reached arrivals nanos last id).stage.world := by
      rw [Member.turtle_woken]
      exact (there.stands found).of_same rfl rfl (.of_dimensions rfl)
    exact ⟨member, served, found, known, ending.works, ending.enters,
      ending.shifts (stands _)⟩
  · intro later final further settled world pos shielded
    have keeps := keeps_of_leads ⟨rfl, shielded⟩ further settled
    exact ⟨keeps.block, keeps.shielded⟩

/-- Between a stone that may be dug out and one that may not. -/
def quarrySite : Stage TurtleCommand WorkBudget MemoryWorld :=
  { Sample.stage with
    world := ((Sample.stage.world.putBlock "overworld" ⟨0, 64, -1⟩ (.solid "stone")).putBlock
      "overworld" ⟨0, 65, 0⟩ (.solid "stone")).protect "overworld" ⟨0, 65, 0⟩ }

/-- The scout gets a pickaxe, and is to dig out both. -/
def quarryCourse : List (Deed TurtleCommand MemoryWorld) :=
  [.register Sample.scout, .setUpgrade "scout" .right (some (.tool "diamond_pickaxe")),
    .submit "scout" (.dig .front none), .submit "scout" (.dig .up none)]

/-- The round in which the scout comes to dig. -/
def quarryVisit : Round TurtleCommand WorkBudget MemoryWorld :=
  Operation.reached (fun _ => []) (fun _ => 0) (quarrySite.run quarryCourse) "scout"

theorem world_is_protected_quarryCourse :
    quarrySite.Opening ∧ quarrySite.Leads quarryCourse (quarrySite.run quarryCourse) ∧
      (∀ change, .reshape change ∈ quarryCourse → MemoryWorld.OwnerEdit change) ∧
      quarryVisit.task? "scout" = some ({ id := 1, command := .dig .front none }, .ok []) ∧
      quarryVisit.stage.world.Permits "overworld" ⟨0, 64, -1⟩ ∧
      (quarryVisit.visit "scout" 0).stage.world.terrain "overworld" ⟨0, 64, -1⟩ = .air ∧
      ((quarrySite.run quarryCourse).run [Sample.tick, Sample.tick, Sample.tick]).world.terrain
        "overworld" ⟨0, 65, 0⟩ = .solid "stone" := by
  have opening : quarrySite.Opening := Sample.opening_in _
  have led := leads_run quarrySite quarryCourse
  have edits : ∀ change, .reshape change ∈ quarryCourse → MemoryWorld.OwnerEdit change := by
    simp [quarryCourse]
  obtain ⟨commands, rest⟩ := world_is_protected opening led edits
  have task : quarryVisit.task? "scout" =
      some ({ id := 1, command := .dig .front none }, .ok []) := by rfl
  have dug : (quarryVisit.visit "scout" 0).stage.world.terrain "overworld" ⟨0, 64, -1⟩ = .air := by
    rfl
  have stone : quarryVisit.stage.world.terrain "overworld" ⟨0, 64, -1⟩ = .solid "stone" := by rfl
  obtain ⟨member, served, _, _, works, _⟩ :=
    (commands (fun _ => []) (fun _ => 0) "scout").2 _ _ task
  have changed : (quarryVisit.visit "scout" 0).stage.world.terrain "overworld" ⟨0, 64, -1⟩ ≠
      quarryVisit.stage.world.terrain "overworld" ⟨0, 64, -1⟩ := by
    rw [dug, stone]
    decide
  have shielded : (quarrySite.run quarryCourse).world.Shielded "overworld" ⟨0, 65, 0⟩ :=
    .inl (by rfl)
  have ticks := leads_run (quarrySite.run quarryCourse) [Sample.tick, Sample.tick, Sample.tick]
  exact ⟨opening, led, edits, task, (works.changed _ _ changed).2.2.1, dug,
    (rest _ _ ticks (by simp [Sample.tick]) _ _ shielded).1⟩

end Stage

end TurtleFleet
