import TurtleFleet.Proofs.Latches
import TurtleFleet.Proofs.Mirror
import TurtleFleet.Proofs.Protection

/-! Passage: when a step is taken. What it demands is checked ahead of the relocation; the relocation
checks some of it again, and so does the world when it makes the new entity. These checks agree, so a
step is taken whenever its demands are met. -/

namespace TurtleFleet

variable {C M : Type}

/-! ### Worlds without a surprise -/

namespace MemoryWorld

variable {memory after : MemoryWorld} {world : WorldId} {pos : BlockPos}

theorem isFree_of_vacant (loaded : memory.isLoaded world pos = true)
    (vacant : memory.entityAt? world pos = none) : memory.isFree world pos = true := by
  unfold isFree
  unfold isLoaded at loaded
  unfold entityAt? at vacant
  cases found : memory.dimensions.get? world with
  | none => simp [found] at loaded
  | some dimension =>
    rw [found] at loaded vacant
    simp only [Option.any_some, Option.bind_some] at loaded vacant ⊢
    simp [loaded, vacant]

theorem Unarmed.setBlock (unarmed : memory.Unarmed) {block : Block} {reply : Except WorldError Unit}
    (written : memory.setBlock world pos block = (reply, after)) : after.Unarmed := by
  unfold MemoryWorld.setBlock at written
  split at written <;> cases written
  · exact unarmed
  · exact unarmed

end MemoryWorld

theorem Action.Relocates.unarmed {turtle left : Turtle} {memory after : MemoryWorld} {world : WorldId}
    {pos : BlockPos} {there : Except Stop Bool}
    (relocates : Relocates turtle memory world pos there left after) (unarmed : memory.Unarmed) :
    after.Unarmed := by
  have calm := unarmed.spawn world pos turtle.snapshot
  cases relocates with
  | hindered hindered => exact unarmed
  | refused clear spawned =>
    rw [spawned] at calm
    exact calm
  | discarded clear spawned wrong =>
    rw [spawned] at calm
    exact calm
  | replaced clear spawned right =>
    rw [spawned] at calm
    exact calm

theorem TurtleCommand.Ending.unarmed {context : Context} {turtle left : Turtle}
    {memory after : MemoryWorld} {command : TurtleCommand} {result : Except Stop (List Json)}
    {notices : List EquipmentNotice}
    (ending : command.Ending context turtle memory result left after notices)
    (unarmed : memory.Unarmed) : after.Unarmed := by
  cases ending with
  | unmoved clear refused => exact (Action.Relocates.of_eq refused).unarmed unarmed
  | broken clear stopped => exact (Action.Relocates.of_eq stopped).unarmed unarmed
  | moved clear relocated => exact (Action.Relocates.of_eq relocated).unarmed unarmed
  | dug tool solid free stowed written => exact unarmed.setBlock written
  | placed held placeable written => exact unarmed.setBlock written
  | _ => exact unarmed

/-- A world that has no surprise in store before a tick has none when a turtle is visited. -/
theorem Stage.unarmed_lastsTicks [WorkMonitor M] :
    LastsTicks fun stage : Stage TurtleCommand M MemoryWorld => stage.world.Unarmed where
  paced _ _ _ unarmed := unarmed
  takeIn _ unarmed := unarmed
  visit {round} id nanos unarmed := by
    rcases task : round.task? id with _ | task
    · rw [Round.world_visit task]
      exact unarmed
    · obtain ⟨_, _, _, _, _, _, ending⟩ := Round.ending_visit task nanos
      exact ending.unarmed unarmed

/-! ### Demands -/

/-- Something that has to be so before a step is taken, and what is said if it is not. -/
structure Demand where
  met : Bool
  complaint : String

/-- The complaint about the first demand that is not met. -/
def Demand.complaint? (demands : List Demand) : Option String :=
  (demands.find? (!·.met)).map (·.complaint)

theorem Demand.complaint?_cons (demand : Demand) (rest : List Demand) :
    complaint? (demand :: rest) = if !demand.met then some demand.complaint else complaint? rest := by
  unfold complaint?
  rw [List.find?_cons]
  cases demand.met <;> rfl

theorem Demand.complaint?_eq_none_iff {demands : List Demand} :
    complaint? demands = none ↔ ∀ demand ∈ demands, demand.met = true := by
  simp [complaint?]

/-- What a step demands, in the order in which the complaints win: one block further there has to be a
place within the bounds, loaded, without an entity, passable and not protected, and fuel for the step,
where fuel is required. -/
def Turtle.demands (turtle : Turtle) (memory : MemoryWorld) (direction : MoveDirection) : List Demand :=
  let target := direction.target turtle.facing turtle.pos
  [{ met := memory.isInBounds turtle.world target
     complaint := Action.beyondBounds direction },
   { met := memory.isLoaded turtle.world target
     complaint := "Cannot leave loaded world" },
   { met := (memory.entityAt? turtle.world target).isNone &&
       (memory.terrain turtle.world target).isPassable
     complaint := "Movement obstructed" },
   { met := !memory.isProtected turtle.world target
     complaint := "Cannot enter protected area" },
   { met := !turtle.fuel.required || 1 ≤ turtle.fuel.level
     complaint := "Out of fuel" }]

/-- The ending of a step is decided by its demands. -/
structure Turtle.Heeds (turtle : Turtle) (memory : MemoryWorld) (direction : MoveDirection)
    (ending : Except Stop (List Json)) : Prop where
  taken : ending = .ok [] ↔ ∀ demand ∈ turtle.demands memory direction, demand.met = true
  refused : ∀ message, Demand.complaint? (turtle.demands memory direction) = some message →
    ending = .error (.rejected message)

/-- The turtle can be brought to a place: a turtle is made there, and relocation succeeds. -/
structure Turtle.Relocatable (turtle : Turtle) (memory : MemoryWorld) (target : BlockPos) : Prop where
  spawned : ∃ serial after, memory.spawn turtle.world target turtle.snapshot =
    (.ok { world := turtle.world, pos := target, kind := .turtle, serial }, after)
  relocated : ∃ left after,
    (Action.relocate turtle.world target).Ends turtle memory (.ok true) left after [] ∧
      left.world = turtle.world ∧ left.pos = target

namespace Turtle

variable {turtle : Turtle} {memory : MemoryWorld} {direction : MoveDirection}

/-- The demands are checked ahead of the relocation, each in its turn. -/
theorem obstacle?_eq_complaint? (turtle : Turtle) (memory : MemoryWorld) (direction : MoveDirection) :
    turtle.obstacle? memory direction = Demand.complaint? (turtle.demands memory direction) := by
  unfold obstacle? demands
  simp only [Demand.complaint?_cons, MemoryWorld.isPassable_block, FuelTank.has, Action.moveCost,
    Bool.not_not]
  rfl

/-- Whatever can be moved through in a loaded place has room for an entity. -/
theorem room_of_clear (clear : turtle.obstacle? memory direction = none) :
    memory.isFree turtle.world (direction.target turtle.facing turtle.pos) = true := by
  obtain ⟨_, loaded, passable, _⟩ := clear_of_obstacle? clear
  exact MemoryWorld.isFree_of_vacant loaded (MemoryWorld.vacant_of_passable passable).1

/-- None of the checks of the relocation fails that come after those of the step. -/
theorem relocation_of_clear (idle : turtle.animation.playing = false) (free : turtle.latch = false)
    (unarmed : memory.Unarmed) (clear : turtle.obstacle? memory direction = none) :
    (Action.relocation turtle memory turtle.world
      (direction.target turtle.facing turtle.pos)).1 = .ok true := by
  have room := room_of_clear clear
  obtain ⟨bounded, loaded, _⟩ := clear_of_obstacle? clear
  generalize direction.target turtle.facing turtle.pos = target at room bounded loaded ⊢
  have still : turtle.animation.kind.isMovement = false := by
    have none : turtle.animation.kind = .none := by simpa [Animation.playing] using idle
    rw [none]
    rfl
  unfold Action.relocation
  by_cases there : turtle.pos = target
  · -- a step against the end of an axis is over before it has begun
    have hindered : Action.hindrance turtle memory turtle.world target = some (.ok true) :=
      if_pos ⟨rfl, there⟩
    rw [hindered]
  · have unhindered : Action.hindrance turtle memory turtle.world target = none :=
      Action.hindrance_eq_none_iff.mpr ⟨fun same => there same.2, loaded, bounded, still, free⟩
    obtain ⟨serial, after, replaced, _⟩ := Action.replacement_of_free unarmed turtle room
    rw [unhindered, replaced]

theorem relocatable_of_clear (idle : turtle.animation.playing = false) (free : turtle.latch = false)
    (unarmed : memory.Unarmed) (clear : turtle.obstacle? memory direction = none) :
    turtle.Relocatable memory (direction.target turtle.facing turtle.pos) := by
  have succeeds := relocation_of_clear idle free unarmed clear
  have ends : (Action.relocate turtle.world (direction.target turtle.facing turtle.pos)).Ends turtle
    memory _ _ _ [] := .relocate _ _
  have relocates := Action.relocates_relocation turtle memory turtle.world
    (direction.target turtle.facing turtle.pos)
  rw [succeeds] at ends relocates
  obtain ⟨serial, after, spawned, _⟩ :=
    MemoryWorld.spawn_of_free unarmed (room_of_clear clear) turtle.snapshot
  exact ⟨⟨serial, after, spawned⟩, _, _, ends, relocates.arrives⟩

/-- Where a turtle stands it does not step: its own entity is in the way. -/
theorem StandsIn.target_ne (stands : turtle.StandsIn memory)
    (clear : turtle.obstacle? memory direction = none) :
    direction.target turtle.facing turtle.pos ≠ turtle.pos := by
  obtain ⟨_, _, passable, _⟩ := clear_of_obstacle? clear
  intro same
  rw [same] at passable
  obtain ⟨record, _, there⟩ := stands
  rw [(MemoryWorld.vacant_of_passable passable).1] at there
  cases there

theorem Heeds.of_clear (clear : turtle.obstacle? memory direction = none) :
    turtle.Heeds memory direction (.ok []) := by
  rw [obstacle?_eq_complaint?] at clear
  refine ⟨iff_of_true rfl (Demand.complaint?_eq_none_iff.mp clear), fun message first => ?_⟩
  rw [clear] at first
  cases first

theorem Heeds.of_obstacle {message : String}
    (first : turtle.obstacle? memory direction = some message) :
    turtle.Heeds memory direction (.error (.rejected message)) := by
  rw [obstacle?_eq_complaint?] at first
  constructor
  · rw [← Demand.complaint?_eq_none_iff, first]
    exact iff_of_false nofun nofun
  · intro other found
    rw [first] at found
    rw [Option.some.inj found]

end Turtle

/-- Of all the ways in which a step of an idle turtle could end, two are left. -/
theorem TurtleCommand.Ending.heeds {context : Context} {turtle left : Turtle}
    {memory after : MemoryWorld} {direction : MoveDirection} {result : Except Stop (List Json)}
    {notices : List EquipmentNotice}
    (ending : (move direction).Ending context turtle memory result left after notices)
    (idle : turtle.animation.playing = false) (free : turtle.latch = false)
    (unarmed : memory.Unarmed) : turtle.Heeds memory direction result := by
  cases ending with
  | obstructed first => exact .of_obstacle first
  | unmoved clear refused =>
    have succeeds := Turtle.relocation_of_clear idle free unarmed clear
    rw [refused] at succeeds
    cases succeeds
  | broken clear stopped =>
    have succeeds := Turtle.relocation_of_clear idle free unarmed clear
    rw [stopped] at succeeds
    cases succeeds
  | moved clear relocated =>
    obtain ⟨entity, same⟩ := Action.relocation_turtle relocated
    subst same
    rw [Turtle.beginning_of_idle (by exact idle)]
    exact .of_clear clear
  | refused other stop => cases other

namespace Stage

variable [WorkMonitor M]

/-- Steps are taken when they should be. Along every course, whatever the owner does to the world, a
world without a surprise in store has none when a turtle is visited. There a step of an idle turtle
succeeds exactly if all of its demands are met, and otherwise it is rejected with the complaint about
the first that is not. Once they are met, the turtle can be brought to the place ahead; and if the
owner has left the entities to the fleet, this is a place other than its own. A step that a turtle comes
to take on its visit ends in the same way. -/
theorem steps_are_taken_when_demands_are_met {start last : Stage TurtleCommand M MemoryWorld}
    {course : List (Deed TurtleCommand MemoryWorld)} (opening : start.Opening)
    (led : start.Leads course last) (arrivals : TurtleId → List (Submitter × TurtleCommand))
    (nanos : TurtleId → Nat) (id : TurtleId) :
    let round := Operation.reached arrivals nanos last id
    (last.world.Unarmed → round.stage.world.Unarmed) ∧
    (round.stage.world.Unarmed → ∀ member, round.stage.fleet.members.get? id = some member →
      let woken := member.woken id round.stage.fleet.time
      woken.turtle.animation.playing = false → ∀ direction : MoveDirection,
        (∀ entry : QueueEntry TurtleCommand, entry.command = .move direction →
          woken.turtle.Heeds round.stage.world direction (round.ending id woken entry)) ∧
        ((∀ demand ∈ woken.turtle.demands round.stage.world direction, demand.met = true) →
          let target := direction.target woken.turtle.facing woken.turtle.pos
          woken.turtle.Relocatable round.stage.world target ∧
          ((∀ change, .reshape change ∈ course → MemoryWorld.OwnerEdit change) →
            target ≠ woken.turtle.pos))) ∧
    (round.stage.world.Unarmed → ∀ entry direction result,
      round.task? id = some (entry, result) → entry.command = .move direction →
      ∃ member, round.stage.fleet.members.get? id = some member ∧
        (member.woken id round.stage.fleet.time).turtle.Heeds round.stage.world direction result) := by
  intro round
  have unlatched : round.stage.fleet.All Turtle.Unlatched :=
    Operation.lasts_reached arrivals nanos TurtleCommand.trait_unlatched.lastsTicks
      (TurtleCommand.trait_unlatched.of_opening opening led) id
  have free {member : Member TurtleCommand} (found : round.stage.fleet.members.get? id = some member)
      (time : Nat) : (member.woken id time).turtle.latch = false := by
    rw [Member.turtle_woken]
    exact (unlatched id member found).2
  refine ⟨fun unarmed => Operation.lasts_reached arrivals nanos unarmed_lastsTicks unarmed id, ?_, ?_⟩
  · intro unarmed member found woken idle direction
    refine ⟨fun entry command => ?_, fun met => ?_⟩
    · obtain ⟨_, _, _, ending, _⟩ := round.execute_ends id woken entry (nanos id)
      rw [command] at ending
      exact ending.heeds idle (free found _) unarmed
    · have clear : woken.turtle.obstacle? round.stage.world direction = none := by
        rw [Turtle.obstacle?_eq_complaint?]
        exact Demand.complaint?_eq_none_iff.mpr met
      refine ⟨Turtle.relocatable_of_clear idle (free found _) unarmed clear, fun edits => ?_⟩
      have rooted := Operation.lasts_reached arrivals nanos Rooted.lastsTicks
        (opening.rooted.of_leads led edits) id
      have stands : woken.turtle.StandsIn round.stage.world := by
        rw [Member.turtle_woken]
        exact (rooted.stands found).of_same rfl rfl (.of_dimensions rfl)
      exact stands.target_ne clear
  · intro unarmed entry direction result task command
    obtain ⟨member, served, notices, found, _, idle, ending⟩ := Round.ending_visit task (nanos id)
    rw [command] at ending
    exact ⟨member, found, ending.heeds idle (free found _) unarmed⟩

/-- A place with a stone overhead. -/
def cave : Stage TurtleCommand WorkBudget MemoryWorld :=
  { Sample.stage with
    world := Sample.stage.world.putBlock "overworld" ⟨0, 65, 0⟩ (.solid "stone") }

/-- A turtle with fuel for one step is to leave it. -/
def caveCourse : List (Deed TurtleCommand MemoryWorld) :=
  [.register { Sample.scout with fuelLevel := 1 }, .submit "scout" (.move .forward)]

def caveVisit : Round TurtleCommand WorkBudget MemoryWorld :=
  Operation.reached (fun _ => []) (fun _ => 0) (cave.run caveCourse) "scout"

theorem steps_are_taken_when_demands_are_met_caveCourse :
    cave.Opening ∧ cave.Leads caveCourse (cave.run caveCourse) ∧
      (∀ change, .reshape change ∈ caveCourse → MemoryWorld.OwnerEdit change) ∧
      caveVisit.stage.world.Unarmed ∧
      caveVisit.task? "scout" = some ({ id := 1, command := .move .forward }, .ok []) ∧
      ∃ member, caveVisit.stage.fleet.members.get? "scout" = some member ∧
        let woken := member.woken "scout" caveVisit.stage.fleet.time
        woken.turtle.animation.playing = false ∧
        (∀ demand ∈ woken.turtle.demands caveVisit.stage.world .forward, demand.met = true) ∧
        woken.turtle.Relocatable caveVisit.stage.world ⟨0, 64, -1⟩ ∧
        caveVisit.ending "scout" woken { id := 2, command := .move .up } =
          .error (.rejected "Movement obstructed") := by
  have opening : cave.Opening := Sample.opening_in _
  have led := leads_run cave caveCourse
  have edits : ∀ change, .reshape change ∈ caveCourse → MemoryWorld.OwnerEdit change := by
    simp [caveCourse]
  obtain ⟨calm, idlers, workers⟩ := steps_are_taken_when_demands_are_met opening led (fun _ => [])
    (fun _ => 0) "scout"
  have unarmed : caveVisit.stage.world.Unarmed := calm ⟨rfl, rfl⟩
  have task : caveVisit.task? "scout" = some ({ id := 1, command := .move .forward }, .ok []) := by
    rfl
  obtain ⟨member, found, heeds⟩ := workers unarmed _ _ _ task rfl
  have ahead : ((caveVisit.stage.fleet.members.get? "scout").map fun member =>
      let turtle := (member.woken "scout" caveVisit.stage.fleet.time).turtle
      (turtle.animation.playing, MoveDirection.forward.target turtle.facing turtle.pos,
        Demand.complaint? (turtle.demands caveVisit.stage.world .up))) =
      some (false, ⟨0, 64, -1⟩, some "Movement obstructed") := by rfl
  unfold caveVisit at ahead
  rw [found] at ahead
  obtain ⟨idle, target, obstructed⟩ := by simpa using ahead
  have met := heeds.taken.mp rfl
  have able := (idlers unarmed member found idle .forward).2 met
  rw [target] at able
  refine ⟨opening, led, edits, unarmed, task, member, found, idle, met, able.1, ?_⟩
  exact ((idlers unarmed member found idle .up).1 _ rfl).refused _ obstructed

end Stage

end TurtleFleet
