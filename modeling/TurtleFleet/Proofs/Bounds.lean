import TurtleFleet.Proofs.Deferral
import TurtleFleet.Proofs.Protection

/-! Bounds of the world: which blocks commands change beyond them. A step and a placement ask for the
bounds of the place ahead, and digging does not. So the only block beyond the bounds that is ever
edited is one that is dug out; apart from that, only a turtle that stands out there itself can be seen
to leave. Turtles that are registered within bounds which stay as they are never get out. -/

namespace TurtleFleet

variable {M : Type}

/-- A relocation is seen only where the turtle stood and in the place where it goes, which is in
bounds. -/
theorem Action.Relocates.seen {turtle left : Turtle} {memory after : MemoryWorld} {pos : BlockPos}
    {ending : Except Stop Bool} (relocates : Relocates turtle memory turtle.world pos ending left after)
    {world : WorldId} {place : BlockPos}
    (changed : after.block world place ≠ memory.block world place) :
    world = turtle.world ∧ (place = turtle.pos ∨ memory.isInBounds world place = true) := by
  have ground := relocates.sameGround
  have moved : after.entityAt? world place ≠ memory.entityAt? world place := fun same =>
    changed (MemoryWorld.block_of_same same (ground.terrain world place))
  cases relocates with
  | hindered hindered => exact (moved rfl).elim
  | refused clear spawned =>
    cases MemoryWorld.Spawns.of_eq spawned with
    | refused same => exact (moved (same.records world place)).elim
  | discarded clear spawned wrong =>
    have same := MemoryWorld.SameEntities.of_dimensions
      (MemoryWorld.dimensions_remove_of_spawned spawned)
    exact (moved (same.records world place)).elim
  | @replaced _ between clear spawned right =>
    cases MemoryWorld.Spawns.of_eq spawned with
    | made gains =>
      rw [MemoryWorld.entityAt?_remove, gains.records] at moved
      split at moved
      · rename_i own
        exact ⟨own.1, .inl own.2⟩
      · split at moved
        · rename_i target
          rw [target.1, target.2]
          exact ⟨rfl, .inr (hindrance_eq_none_iff.mp clear).2.2.1⟩
        · exact (moved rfl).elim

namespace TurtleCommand

/-- The command digs out the solid block of the place. -/
def DigsOut (turtle : Turtle) (memory after : MemoryWorld) (pos : BlockPos) (command : TurtleCommand) :
    Prop :=
  ∃ direction wanted, command = .dig direction wanted ∧ pos = direction.target turtle ∧
    (memory.block turtle.world pos).kind = .solid ∧ after.block turtle.world pos = .air

/-- What a command does beyond the bounds: it edits no block but one that it digs out, and nothing
else is seen to change but the place that the turtle leaves by a step. -/
structure StaysWithin (turtle : Turtle) (memory after : MemoryWorld) (command : TurtleCommand) :
    Prop where
  edits : ∀ world pos, after.terrain world pos ≠ memory.terrain world pos → world = turtle.world ∧
    (memory.isInBounds world pos = true ∨ command.DigsOut turtle memory after pos)
  seen : ∀ world pos, after.block world pos ≠ memory.block world pos → world = turtle.world ∧
    (memory.isInBounds world pos = true ∨ command.DigsOut turtle memory after pos ∨
      command.isStep = true ∧ pos = turtle.pos)
  bounds : ∀ world pos, after.isInBounds world pos = memory.isInBounds world pos

variable {context : Context} {turtle left : Turtle} {memory after : MemoryWorld}
  {command : TurtleCommand} {result : Except Stop (List Json)} {notices : List EquipmentNotice}

/-- A command that leaves the entities alone is seen only where it edits a block. -/
theorem StaysWithin.of_edits (entities : memory.SameEntities after)
    (works : command.Works turtle memory after)
    (edits : ∀ world pos, after.terrain world pos ≠ memory.terrain world pos →
      memory.isInBounds world pos = true ∨ command.DigsOut turtle memory after pos) :
    command.StaysWithin turtle memory after where
  edits world pos changed := ⟨(works.changed world pos changed).1, edits world pos changed⟩
  seen world pos changed := by
    have edited : after.terrain world pos ≠ memory.terrain world pos := fun same =>
      changed (MemoryWorld.block_of_same (entities.records world pos) same)
    refine ⟨(works.changed world pos edited).1, ?_⟩
    rcases edits world pos edited with inside | digs
    · exact .inl inside
    · exact .inr (.inl digs)
  bounds := works.guards.bounded

theorem Ending.staysWithin (ending : command.Ending context turtle memory result left after notices) :
    command.StaysWithin turtle memory after := by
  have works := ending.works
  have relocated {direction : MoveDirection} {there : Except Stop Bool} {left : Turtle}
      {after : MemoryWorld}
      (ended : Action.relocation turtle memory turtle.world
        (direction.target turtle.facing turtle.pos) = (there, left, after)) :
      (move direction).StaysWithin turtle memory after := by
    have relocates := Action.Relocates.of_eq ended
    have ground := relocates.sameGround
    refine ⟨fun world pos changed => (changed (ground.terrain world pos)).elim,
      fun world pos changed => ?_, ground.guards.bounded⟩
    obtain ⟨home, stood | inside⟩ := relocates.seen changed
    · exact ⟨home, .inr (.inr ⟨rfl, stood⟩)⟩
    · exact ⟨home, .inl inside⟩
  cases ending with
  | unmoved clear refused => exact relocated refused
  | broken clear stopped => exact relocated stopped
  | moved clear arrived => exact relocated arrived
  | @dug direction wanted side inventory _ tool solid free stowed wrote =>
    apply StaysWithin.of_edits (.of_setBlock wrote) works
    intro world pos changed
    obtain ⟨rfl, reached, permits, alters⟩ := works.changed world pos changed
    cases reached
    refine .inr ⟨direction, wanted, rfl, rfl, solid, ?_⟩
    have entities := MemoryWorld.SameEntities.of_setBlock wrote
    rw [MemoryWorld.block_eq_ite, entities.records, permits.vacant]
    exact alters.2
  | @placed direction stack _ held placeable wrote =>
    apply StaysWithin.of_edits (.of_setBlock wrote) works
    intro world pos changed
    obtain ⟨rfl, reached, _⟩ := works.changed world pos changed
    cases reached
    simp only [MemoryWorld.isPlaceable, Bool.and_eq_true] at placeable
    exact .inl placeable.1.1.2
  | _ =>
    exact .of_edits (.of_dimensions rfl) works fun _ _ changed => (changed rfl).elim

end TurtleCommand

/-! ### Turtles within bounds -/

namespace Stage

/-- The bounds are as given, and every turtle stands within them. -/
structure Inside (limits : WorldId → BlockPos → Bool) (stage : Stage TurtleCommand M MemoryWorld) :
    Prop where
  bounds : ∀ world pos, stage.world.isInBounds world pos = limits world pos
  stands : ∀ {id member}, stage.fleet.members.get? id = some member →
    limits member.turtle.world member.turtle.pos = true

namespace Inside

variable {limits : WorldId → BlockPos → Bool} {stage after : Stage TurtleCommand M MemoryWorld}

theorem of_entity (inside : stage.Inside limits) {id : TurtleId} {member : Member TurtleCommand}
    (found : stage.fleet.members.get? id = some member) {turtle : Turtle}
    (entity : turtle.entity = member.turtle.entity) : limits turtle.world turtle.pos = true := by
  rw [Turtle.world, Turtle.pos, entity]
  exact inside.stands found

theorem sameGround (inside : stage.Inside limits) (members : after.fleet.members = stage.fleet.members)
    (ground : stage.world.SameGround after.world) : after.Inside limits where
  bounds world pos := (ground.guards.bounded world pos).trans (inside.bounds world pos)
  stands found := inside.stands (members ▸ found)

/-- A member may be replaced by one whose turtle stands within the bounds. -/
theorem insert (inside : stage.Inside limits) {id : TurtleId} {member : Member TurtleCommand}
    (bounds : ∀ world pos, after.world.isInBounds world pos = stage.world.isInBounds world pos)
    (members : after.fleet.members = stage.fleet.members.insert id member)
    (stands : limits member.turtle.world member.turtle.pos = true) : after.Inside limits where
  bounds world pos := (bounds world pos).trans (inside.bounds world pos)
  stands {other neighbour} found := by
    rw [members, Keyed.get?_insert] at found
    split at found
    · cases found
      exact stands
    · exact inside.stands found

theorem takeIn (inside : stage.Inside limits) (arrivals : List (Submitter × TurtleCommand)) :
    Inside limits { stage with fleet := stage.fleet.takeIn arrivals } := by
  refine ⟨inside.bounds, fun {id member} found => ?_⟩
  rw [Fleet.get?_takeIn] at found
  obtain ⟨old, known, same⟩ := Option.map_eq_some_iff.mp found
  rw [← same]
  exact inside.of_entity known rfl

variable [WorkMonitor M]

theorem lastsTicks : LastsTicks (Inside (M := M) limits) where
  paced _ _ _ inside := ⟨inside.bounds, inside.stands⟩
  takeIn arrivals inside := inside.takeIn arrivals
  visit {round} id nanos inside := by
    have bounds : ∀ world pos, (round.visit id nanos).stage.world.isInBounds world pos =
        round.stage.world.isInBounds world pos := by
      rcases task : round.task? id with _ | task
      · rw [Round.world_visit task]
        exact fun _ _ => rfl
      · obtain ⟨_, _, _, _, _, _, ending⟩ := Round.ending_visit task nanos
        exact ending.works.guards.bounded
    refine ⟨fun world pos => (bounds world pos).trans (inside.bounds world pos), ?_⟩
    intro other neighbour known
    by_cases own : other = id
    · subst own
      have registered := round.visit_registered other nanos other
      rw [known] at registered
      obtain ⟨member, found⟩ := Option.isSome_iff_exists.mp registered.symm
      have career : round.stage.Career
          (fun _ memory => ∀ world pos, memory.isInBounds world pos = limits world pos)
          member.turtle (round.task? other).toList neighbour.turtle :=
        Round.career_visit found inside.bounds rfl nanos known
      generalize (round.task? other).toList = tasks at career
      generalize neighbour.turtle = left at career ⊢
      cases career with
      | rested => exact inside.stands found
      | @worked _ _ _ _ _ _ _ _ _ fit idle settings ending =>
        by_cases stays : left.entity = member.turtle.entity
        · exact inside.of_entity found stays
        · obtain ⟨direction, enters⟩ := ending.enters (.inr stays)
          rw [← fit]
          exact enters.bounded
    · rw [(round.visit_of_ne own nanos).1] at known
      exact inside.stands known

theorem next (inside : stage.Inside limits) (deed : Deed TurtleCommand MemoryWorld)
    (placed : ∀ spec, deed = .register spec → limits spec.world spec.pos = true)
    (settled : ∀ change, deed = .reshape change → ∀ memory world pos,
      (change memory).isInBounds world pos = memory.isInBounds world pos) :
    (stage.next deed).Inside limits := by
  have does := stage.does_next deed (stage.whole_of_memory deed)
  generalize left : stage.next deed = after at does ⊢
  cases does with
  | declined silent untimed lasting => exact inside
  | unremoved missing => exact inside
  | submitted submitter command => exact inside.takeIn [(submitter, command)]
  | submittedFor command found => exact inside.takeIn [(_, command)]
  | ticked arrivals nanos =>
    rw [← left]
    exact lastsTicks.next inside arrivals nanos
  | unspawned absent spawned quiet =>
    exact inside.sameGround rfl (MemoryWorld.sameGround_of_spawn (spawn_of_answers spawned))
  | discarded absent spawned foreign removed quiet =>
    rw [world_of_removed removed]
    exact inside.sameGround rfl ((MemoryWorld.sameGround_of_spawn (spawn_of_answers spawned)).trans
      (MemoryWorld.sameGround_remove ..))
  | enrolled absent spawned kind quiet =>
    have ground := MemoryWorld.sameGround_of_spawn (spawn_of_answers spawned)
    cases spawns_of_answers spawned with
    | made gains => exact inside.insert ground.guards.bounded rfl (placed _ rfl)
  | upgraded side upgrade found =>
    exact inside.insert (fun _ _ => rfl) rfl (inside.of_entity found rfl)
  | attached found apart => exact inside.insert (fun _ _ => rfl) rfl (inside.of_entity found rfl)
  | detached found joined => exact inside.insert (fun _ _ => rfl) rfl (inside.of_entity found rfl)
  | @removed id member _ _ found answered quiet =>
    rw [world_of_removed answered]
    have ground := stage.world.sameGround_remove member.turtle.world member.turtle.pos
    refine ⟨fun world pos => (ground.guards.bounded world pos).trans (inside.bounds world pos), ?_⟩
    intro other neighbour known
    rw [Fleet.release, Keyed.get?_erase] at known
    split at known
    · cases known
    · exact inside.stands known
  | reshaped change =>
    exact ⟨fun world pos => (settled change rfl _ world pos).trans (inside.bounds world pos),
      inside.stands⟩

theorem of_leads {last : Stage TurtleCommand M MemoryWorld}
    {course : List (Deed TurtleCommand MemoryWorld)} (inside : stage.Inside limits)
    (led : stage.Leads course last)
    (placed : ∀ spec, .register spec ∈ course → limits spec.world spec.pos = true)
    (settled : ∀ change, .reshape change ∈ course → ∀ memory world pos,
      (change memory).isInBounds world pos = memory.isInBounds world pos) : last.Inside limits := by
  induction led with
  | rest stage => exact inside
  | @step stage last deed deeds whole later ih =>
    apply ih
    · apply inside.next deed
      · rintro spec rfl
        exact placed spec List.mem_cons_self
      · rintro change rfl
        exact settled change List.mem_cons_self
    · exact fun spec listed => placed spec (List.mem_cons_of_mem _ listed)
    · exact fun change listed => settled change (List.mem_cons_of_mem _ listed)

end Inside

variable [WorkMonitor M]

/-- Commands stay in bounds, but for digging. On every course a visit changes the world only if its
turtle carries out a command, and such a command keeps the bounds and edits only blocks within them,
or one solid block beyond them that it digs out; apart from these, at most the place that the turtle
leaves by a step can look different. As long as turtles are registered within the bounds and the
bounds stay as they are, every turtle stands within them, so that the only place beyond them that can
ever look different is one that is dug out. -/
theorem commands_stay_in_bounds_but_for_digging {start last : Stage TurtleCommand M MemoryWorld}
    {course : List (Deed TurtleCommand MemoryWorld)} (opening : start.Opening)
    (led : start.Leads course last) (arrivals : TurtleId → List (Submitter × TurtleCommand))
    (nanos : TurtleId → Nat) (id : TurtleId) :
    let round := Operation.reached arrivals nanos last id
    let after := (round.visit id (nanos id)).stage.world
    (round.task? id = none → after = round.stage.world) ∧
    ∀ entry result, round.task? id = some (entry, result) → ∃ member,
      round.stage.fleet.members.get? id = some member ∧
      let turtle := (member.woken id round.stage.fleet.time).turtle
      entry.command.StaysWithin turtle round.stage.world after ∧
      ((∀ spec, .register spec ∈ course → start.world.isInBounds spec.world spec.pos = true) →
        (∀ change, .reshape change ∈ course → ∀ memory world pos,
          (change memory).isInBounds world pos = memory.isInBounds world pos) →
        round.stage.world.isInBounds turtle.world turtle.pos = true ∧
        ∀ world pos, after.block world pos ≠ round.stage.world.block world pos →
          world = turtle.world ∧ (round.stage.world.isInBounds world pos = true ∨
            entry.command.DigsOut turtle round.stage.world after pos)) := by
  refine ⟨fun idle => Round.world_visit idle _, fun entry result task => ?_⟩
  obtain ⟨member, served, notices, found, known, _, ending⟩ := Round.ending_visit task (nanos id)
  have within := ending.staysWithin
  refine ⟨member, found, within, fun placed settled => ?_⟩
  have begun : start.Inside start.world.isInBounds := by
    refine ⟨fun _ _ => rfl, fun {id member} found => ?_⟩
    rw [opening.members] at found
    cases found
  have there := Operation.lasts_reached arrivals nanos Inside.lastsTicks
    (begun.of_leads led placed settled) id
  have stands : (Operation.reached arrivals nanos last id).stage.world.isInBounds
      (member.woken id (Operation.reached arrivals nanos last id).stage.fleet.time).turtle.world
      (member.woken id (Operation.reached arrivals nanos last id).stage.fleet.time).turtle.pos = true := by
    rw [there.bounds, Member.turtle_woken]
    exact there.of_entity found rfl
  refine ⟨stands, fun world pos changed => ?_⟩
  obtain ⟨rfl, inside | digs | ⟨_, rfl⟩⟩ := within.seen world pos changed
  · exact ⟨rfl, .inl inside⟩
  · exact ⟨rfl, .inr digs⟩
  · exact ⟨rfl, .inl stands⟩

/-- Below the lowest layer of the world lies a stone. -/
def cliffSite : Stage TurtleCommand WorkBudget MemoryWorld :=
  { Sample.stage with
    world := Sample.stage.world.putBlock "overworld" ⟨0, -65, 0⟩ (.solid "stone") }

/-- The scout stands in the lowest layer with a pickaxe, and is to dig down. -/
def cliffCourse : List (Deed TurtleCommand MemoryWorld) :=
  [.register { Sample.scout with pos := ⟨0, -64, 0⟩ },
    .setUpgrade "scout" .right (some (.tool "diamond_pickaxe")), .submit "scout" (.dig .down none)]

/-- The round in which the scout comes to dig. -/
def cliffVisit : Round TurtleCommand WorkBudget MemoryWorld :=
  Operation.reached (fun _ => []) (fun _ => 0) (cliffSite.run cliffCourse) "scout"

theorem commands_stay_in_bounds_but_for_digging_cliffCourse :
    cliffSite.Opening ∧ cliffSite.Leads cliffCourse (cliffSite.run cliffCourse) ∧
      cliffVisit.task? "scout" = some ({ id := 1, command := .dig .down none }, .ok []) ∧
      (∀ world pos, (cliffVisit.visit "scout" 0).stage.world.block world pos ≠
        cliffVisit.stage.world.block world pos →
          world = "overworld" ∧ (cliffVisit.stage.world.isInBounds world pos = true ∨
            ∃ direction wanted, TurtleCommand.dig .down none = .dig direction wanted)) := by
  have opening : cliffSite.Opening := Sample.opening_in _
  have led := leads_run cliffSite cliffCourse
  have task : cliffVisit.task? "scout" = some ({ id := 1, command := .dig .down none }, .ok []) := by
    rfl
  obtain ⟨member, found, _, inside⟩ :=
    (commands_stay_in_bounds_but_for_digging opening led (fun _ => []) (fun _ => 0) "scout").2 _ _ task
  have placed : ∀ spec, .register spec ∈ cliffCourse →
      cliffSite.world.isInBounds spec.world spec.pos = true := by
    intro spec listed
    simp only [cliffCourse, List.mem_cons, Deed.register.injEq, reduceCtorEq, List.not_mem_nil,
      or_false] at listed
    rw [listed]
    rfl
  have settled : ∀ change, .reshape change ∈ cliffCourse → ∀ memory world pos,
      (change memory).isInBounds world pos = memory.isInBounds world pos := by
    simp [cliffCourse]
  have home : (member.woken "scout" cliffVisit.stage.fleet.time).turtle.world = "overworld" := by
    have known : (cliffVisit.stage.fleet.members.get? "scout").map (·.turtle.world) =
        some "overworld" := by rfl
    rw [show cliffVisit.stage.fleet.members.get? "scout" = _ from found] at known
    rw [Member.turtle_woken]
    exact Option.some.inj known
  refine ⟨opening, led, task, fun world pos changed => ?_⟩
  obtain ⟨there, bounded | ⟨direction, wanted, same, _⟩⟩ :=
    (inside placed settled).2 world pos changed
  · exact ⟨there.trans home, .inl bounded⟩
  · exact ⟨there.trans home, .inr ⟨direction, wanted, same⟩⟩

/-- The stone below the lowest layer is dug out, although no step leads there and nothing may be
placed there. -/
theorem digging_goes_beyond_the_bounds_cliffCourse :
    cliffSite.Leads cliffCourse (cliffSite.run cliffCourse) ∧
      cliffVisit.task? "scout" = some ({ id := 1, command := .dig .down none }, .ok []) ∧
      cliffVisit.stage.world.isInBounds "overworld" ⟨0, -65, 0⟩ = false ∧
      cliffVisit.stage.world.block "overworld" ⟨0, -65, 0⟩ = .solid "stone" ∧
      (cliffVisit.visit "scout" 0).stage.world.block "overworld" ⟨0, -65, 0⟩ = .air :=
  ⟨leads_run cliffSite cliffCourse, by rfl, by rfl, by rfl, by rfl⟩

end Stage

end TurtleFleet
