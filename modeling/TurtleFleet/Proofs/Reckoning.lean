import Mathlib.Algebra.BigOperators.Group.List.Basic
import Mathlib.Algebra.Group.Prod
import Mathlib.Algebra.Ring.Int.Defs
import TurtleFleet.Proofs.Career
import TurtleFleet.Proofs.Footing
import TurtleFleet.Proofs.Ground
import TurtleFleet.Proofs.Responses

/-! Dead reckoning: where a turtle is follows from where it was registered and from the commands that
it carried out. Coordinates stop at the ends of their word, but the turtle never does so unnoticed:
there the place ahead is its own, and its own entity is in the way. -/

namespace TurtleFleet

/-! ### Steps in whole numbers -/

def BlockPos.coordinates (pos : BlockPos) : Int × Int × Int :=
  (pos.x.toInt, pos.y.toInt, pos.z.toInt)

/-- The step of a direction in whole numbers. -/
def MoveDirection.stride (direction : MoveDirection) (facing : Facing) : Int × Int × Int :=
  match direction with
  | forward => (facing.delta.1, 0, facing.delta.2)
  | back => (facing.opposite.delta.1, 0, facing.opposite.delta.2)
  | up => (0, 1, 0)
  | down => (0, -1, 0)

theorem MoveDirection.stride_unit (direction : MoveDirection) (facing : Facing) :
    (direction.stride facing).1.natAbs + (direction.stride facing).2.1.natAbs +
      (direction.stride facing).2.2.natAbs = 1 := by
  cases direction <;> cases facing <;> rfl

theorem advance_zero (coordinate : Int32) : advance coordinate 0 = coordinate := by
  simp [advance]

/-- One block further is exact, unless the coordinate is at the end of its word and stays there. -/
theorem advance_one (coordinate : Int32) {distance : Int}
    (short : distance = 1 ∨ distance = -1) :
    (advance coordinate distance).toInt = coordinate.toInt + distance ∨
      advance coordinate distance = coordinate := by
  have low := coordinate.minValue_le_toInt
  have high := coordinate.toInt_le
  by_cases fits : Int32.minValue.toInt ≤ coordinate.toInt + distance ∧
      coordinate.toInt + distance ≤ Int32.maxValue.toInt
  · left
    exact Int32.toInt_ofIntClamp fits.1 fits.2
  · right
    unfold advance Int32.ofIntClamp
    apply Int32.toInt_inj.mp
    split
    · rename_i least
      rw [dif_neg fun most => fits ⟨least, most⟩]
      omega
    · omega

/-- A move by one block is exact, unless it ends where it began. -/
theorem BlockPos.coordinates_offset (pos : BlockPos) {dx dy dz : Int}
    (unit : dx.natAbs + dy.natAbs + dz.natAbs = 1) :
    (pos.offset dx dy dz).coordinates = pos.coordinates + (dx, dy, dz) ∨
      pos.offset dx dy dz = pos := by
  obtain ⟨short, rfl, rfl⟩ | ⟨rfl, short, rfl⟩ | ⟨rfl, rfl, short⟩ :
      ((dx = 1 ∨ dx = -1) ∧ dy = 0 ∧ dz = 0) ∨ (dx = 0 ∧ (dy = 1 ∨ dy = -1) ∧ dz = 0) ∨
        (dx = 0 ∧ dy = 0 ∧ (dz = 1 ∨ dz = -1)) := by
    omega
  · refine (advance_one pos.x short).imp (fun exact => ?_) fun stays => ?_
    · simp [offset, coordinates, advance_zero, exact]
    · simp [offset, advance_zero, stays]
  · refine (advance_one pos.y short).imp (fun exact => ?_) fun stays => ?_
    · simp [offset, coordinates, advance_zero, exact]
    · simp [offset, advance_zero, stays]
  · refine (advance_one pos.z short).imp (fun exact => ?_) fun stays => ?_
    · simp [offset, coordinates, advance_zero, exact]
    · simp [offset, advance_zero, stays]

/-- A step is exact, unless the turtle would stay where it is. -/
theorem MoveDirection.coordinates_target (direction : MoveDirection) (facing : Facing)
    (pos : BlockPos) :
    (direction.target facing pos).coordinates = pos.coordinates + direction.stride facing ∨
      direction.target facing pos = pos := by
  have target : direction.target facing pos = pos.offset (direction.stride facing).1
      (direction.stride facing).2.1 (direction.stride facing).2.2 := by
    cases direction <;> cases facing <;> rfl
  rw [target]
  exact pos.coordinates_offset (direction.stride_unit facing)

/-! ### What commands are meant to do -/

namespace TurtleCommand

def heading (facing : Facing) : TurtleCommand → Facing
  | turn direction => direction.turn facing
  | _ => facing

/-- The selected slot after a command. -/
def choice (slot : Nat) : TurtleCommand → Nat
  | select chosen => chosen
  | _ => slot

/-- The steps of some commands, each with the facing at that moment. -/
def strides : Facing → List TurtleCommand → List (Int × Int × Int)
  | _, [] => []
  | facing, move direction :: rest => direction.stride facing :: strides facing rest
  | facing, command :: rest => strides (command.heading facing) rest

theorem strides_cons (facing : Facing) (command : TurtleCommand) (rest : List TurtleCommand) :
    strides facing (command :: rest) =
      strides facing [command] ++ strides (command.heading facing) rest := by
  cases command <;> rfl

theorem strides_append (facing : Facing) (first second : List TurtleCommand) :
    strides facing (first ++ second) =
      strides facing first ++ strides (first.foldl heading facing) second := by
  induction first generalizing facing with
  | nil => rfl
  | cons command rest ih =>
    rw [List.cons_append, strides_cons, ih, strides_cons facing command rest, List.foldl_cons,
      List.append_assoc]

theorem strides_unit (facing : Facing) (done : List TurtleCommand) :
    ∀ stride ∈ strides facing done,
      stride.1.natAbs + stride.2.1.natAbs + stride.2.2.natAbs = 1 := by
  induction done generalizing facing with
  | nil => simp [strides]
  | cons command rest ih =>
    intro stride listed
    rw [strides_cons] at listed
    rcases List.mem_append.mp listed with own | later
    · cases command with
      | move direction =>
        rw [List.mem_singleton.mp own]
        exact direction.stride_unit facing
      | _ => cases own
    · exact ih _ stride later

end TurtleCommand

/-- A turtle is where some commands that were done bring it from where it was. -/
structure Turtle.Reckons (before after : Turtle) (done : List TurtleCommand) : Prop where
  world : after.world = before.world
  facing : after.facing = done.foldl TurtleCommand.heading before.facing
  slot : after.selectedSlot = done.foldl TurtleCommand.choice before.selectedSlot
  pos : after.pos.coordinates =
    before.pos.coordinates + (TurtleCommand.strides before.facing done).sum

namespace Turtle.Reckons

/-- A turtle that stays in its entity, with its facing and its slot, after commands that are not meant
to change them. -/
theorem of_still {before after : Turtle} {done : List TurtleCommand}
    (entity : after.entity = before.entity) (facing : after.facing = before.facing)
    (slot : after.selectedSlot = before.selectedSlot)
    (ahead : done.foldl TurtleCommand.heading before.facing = before.facing)
    (chosen : done.foldl TurtleCommand.choice before.selectedSlot = before.selectedSlot)
    (still : TurtleCommand.strides before.facing done = []) : before.Reckons after done := by
  constructor
  · rw [Turtle.world, entity, Turtle.world]
  · rw [facing, ahead]
  · rw [slot, chosen]
  · rw [still, Turtle.pos, entity, Turtle.pos, List.sum_nil, add_zero]

theorem trans {first second third : Turtle} {done more : List TurtleCommand}
    (earlier : first.Reckons second done) (later : second.Reckons third more) :
    first.Reckons third (done ++ more) := by
  constructor
  · rw [later.world, earlier.world]
  · rw [later.facing, earlier.facing, List.foldl_append]
  · rw [later.slot, earlier.slot, List.foldl_append]
  · rw [later.pos, earlier.pos, earlier.facing, TurtleCommand.strides_append, List.sum_append,
      add_assoc]

theorem of_same {before after start left : Turtle} {done : List TurtleCommand}
    (reckons : start.Reckons left done) (startSame : before.entity = start.entity ∧
      before.facing = start.facing ∧ before.selectedSlot = start.selectedSlot)
    (leftSame : after.entity = left.entity ∧ after.facing = left.facing ∧
      after.selectedSlot = left.selectedSlot) : before.Reckons after done := by
  have begun : before.Reckons start [] :=
    of_still startSame.1.symm startSame.2.1.symm startSame.2.2.symm rfl rfl rfl
  have ended : left.Reckons after [] := of_still leftSame.1 leftSame.2.1 leftSame.2.2 rfl rfl rfl
  have whole := begun.trans (reckons.trans ended)
  rwa [List.nil_append, List.append_nil] at whole

end Turtle.Reckons

/-! ### What commands do -/

/-- A turtle that takes a step gets one block further: where its step would not lead away, its own
entity would be in the way. -/
theorem Turtle.coordinates_of_step {turtle left : Turtle} {memory after : MemoryWorld}
    {direction : MoveDirection} (stands : turtle.StandsIn memory)
    (clear : turtle.obstacle? memory direction = none)
    (relocated : Action.relocation turtle memory turtle.world
      (direction.target turtle.facing turtle.pos) = (.ok true, left, after)) :
    left.world = turtle.world ∧
      left.pos.coordinates = turtle.pos.coordinates + direction.stride turtle.facing := by
  obtain ⟨world, pos⟩ := (Action.Relocates.of_eq relocated).arrives
  refine ⟨world, ?_⟩
  rw [pos]
  rcases direction.coordinates_target turtle.facing turtle.pos with exact | stays
  · exact exact
  · have passable : (memory.block turtle.world
        (direction.target turtle.facing turtle.pos)).isPassable = true := by
      unfold obstacle? at clear
      grind
    have free := (MemoryWorld.vacant_of_passable passable).1
    obtain ⟨record, _, there⟩ := stands
    rw [stays, there] at free
    cases free

/-- Commands do with an idle turtle what they are meant to do, or else nothing that counts. -/
theorem TurtleCommand.Ending.reckons {context : Context} {turtle left : Turtle}
    {memory after : MemoryWorld} {entry : QueueEntry TurtleCommand}
    {result : Except Stop (List Json)} {notices : List EquipmentNotice}
    (ending : entry.command.Ending context turtle memory result left after notices)
    (idle : turtle.animation.playing = false) (stands : turtle.StandsIn memory) :
    turtle.Reckons left (Task.succeeded [(entry, result)]) := by
  obtain ⟨id, command⟩ := entry
  have failed {stop : Stop} : Task.succeeded [(⟨id, command⟩, .error stop)] = [] := rfl
  have done {payload : List Json} : Task.succeeded [(⟨id, command⟩, .ok payload)] = [command] := rfl
  -- a command that ends with an animation, of which nothing counts but what came before
  have begun {between : Turtle} {kind : AnimationKind}
      (still : between.animation.playing = false) (reckons : turtle.Reckons between [command]) :
      turtle.Reckons (between.beginning kind).2
        (Task.succeeded [(⟨id, command⟩, (between.beginning kind).1)]) := by
    rw [between.beginning_of_idle still kind, done]
    obtain ⟨animation, same⟩ := between.beginning_turtle kind
    rw [same]
    exact reckons.of_same ⟨rfl, rfl, rfl⟩ ⟨rfl, rfl, rfl⟩
  have unmoved {pos : BlockPos} {there : Except Stop Bool} {left : Turtle} {after : MemoryWorld}
      (relocated : Action.relocation turtle memory turtle.world pos = (there, left, after))
      (failed : there ≠ .ok true) : turtle.Reckons left [] := by
    have stayed : left = turtle := ((Action.Relocates.of_eq relocated).unmoved failed).1
    rw [stayed]
    exact .of_still rfl rfl rfl rfl rfl rfl
  dsimp only at ending
  cases ending with
  | obstructed first =>
    rw [failed]
    exact .of_still rfl rfl rfl rfl rfl rfl
  | unmoved clear refused =>
    rw [failed]
    exact unmoved refused (by simp)
  | broken clear stopped =>
    rw [failed]
    exact unmoved stopped (by simp)
  | @moved direction between _ clear relocated =>
    obtain ⟨entity, same⟩ := Action.relocation_turtle relocated
    obtain ⟨world, pos⟩ := Turtle.coordinates_of_step stands clear relocated
    subst same
    apply begun
    · exact idle
    constructor
    · exact world
    · rfl
    · rfl
    · rw [TurtleCommand.strides, TurtleCommand.strides, List.sum_singleton]
      exact pos
  | turned direction =>
    apply begun
    · exact idle
    constructor
    · rfl
    · rfl
    · rfl
    · exact (add_zero _).symm
  | refused other stop =>
    rw [failed]
    exact .of_still rfl rfl rfl rfl rfl rfl
  | dug tool solid free stowed written => exact begun idle (.of_still rfl rfl rfl rfl rfl rfl)
  | placed held placeable written => exact begun idle (.of_still rfl rfl rfl rfl rfl rfl)
  | detected direction => exact .of_still rfl rfl rfl rfl rfl rfl
  | inspected seen some => exact .of_still rfl rfl rfl rfl rfl rfl
  | selected small =>
    rw [done]
    constructor
    · rfl
    · rfl
    · rfl
    · exact (add_zero _).symm
  | unburnt free => exact .of_still rfl rfl rfl rfl rfl rfl
  | overflown taken overflow =>
    rw [failed]
    exact .of_still rfl rfl rfl rfl rfl rfl
  | burnt required more held burns taken => exact begun idle (.of_still rfl rfl rfl rfl rfl rfl)
  | untransferred small nothing => exact .of_still rfl rfl rfl rfl rfl rfl
  | returned apart took moves =>
    rw [failed]
    exact .of_still rfl rfl rfl rfl rfl rfl
  | transferred small apart took arrived moves =>
    exact begun idle (.of_still rfl rfl rfl rfl rfl rfl)
  | unequipped empty free => exact .of_still rfl rfl rfl rfl rfl rfl
  | equipped offered stowed => exact begun idle (.of_still rfl rfl rfl rfl rfl rfl)
  | told => exact .of_still rfl rfl rfl rfl rfl rfl

/-! ### Whole courses -/

namespace Stage

variable {M : Type}

theorem Career.reckons {stage : Stage TurtleCommand M MemoryWorld} {turtle left : Turtle}
    {tasks : List (Task TurtleCommand)} (career : stage.Career Turtle.StandsIn turtle tasks left) :
    turtle.Reckons left (Task.succeeded tasks) := by
  cases career with
  | rested equipment animation attached => exact .of_still rfl rfl rfl rfl rfl rfl
  | @worked context equipment animation memory after entry result left notices stands idle settings
      ending =>
    have ready : Turtle.StandsIn { turtle with equipment, animation } memory :=
      stands.of_same rfl rfl (.of_dimensions rfl)
    exact (ending.reckons idle ready).of_same ⟨rfl, rfl, rfl⟩ ⟨rfl, rfl, rfl⟩

variable [WorkMonitor M]

/-- As long as a registration lasts, its turtle is where its commands bring it. -/
theorem reckons_of_leads {stage last : Stage TurtleCommand M MemoryWorld}
    {course : List (Deed TurtleCommand MemoryWorld)} (booked : stage.Booked) (rooted : stage.Rooted)
    (led : stage.Leads course last)
    (edits : ∀ change, .reshape change ∈ course → MemoryWorld.OwnerEdit change)
    {handle : Submitter} {was now : Member TurtleCommand}
    (held : stage.fleet.holder? handle = some was) (heldLast : last.fleet.holder? handle = some now) :
    was.turtle.Reckons now.turtle (Task.succeeded (stage.work handle course)) := by
  induction led generalizing was with
  | rest stage =>
    cases held.symm.trans heldLast
    exact .of_still rfl rfl rfl rfl rfl rfl
  | @step stage last deed deeds whole led ih =>
    obtain ⟨member, heldNext⟩ := booked.held_between whole led held heldLast
    have career : stage.Career Turtle.StandsIn was.turtle (workIn handle stage deed) member.turtle :=
      career_next Rooted.lastsTicks (fun rooted found => rooted.stands found) rooted deed held heldNext
    have rootedNext := rooted.next deed fun change same => edits change (by simp [same])
    have later := ih (booked.next whole) rootedNext
      (fun change listed => edits change (List.mem_cons_of_mem _ listed)) heldNext heldLast
    have both := career.reckons.trans later
    rwa [← Task.succeeded_append] at both

/-- Dead reckoning is sound. Every turtle of a fleet in a world whose entities are changed by the
fleet only was registered by a deed of the course. It never left its world since, its facing is that
of its registration turned by just the turns that it carried out with success, and its slot is the one
that it selected last. It is as many blocks away from where it was registered as its steps amount to
in whole numbers, each one block long in the direction of the facing at that moment. -/
theorem dead_reckoning {start last : Stage TurtleCommand M MemoryWorld} (opening : start.Opening)
    {course : List (Deed TurtleCommand MemoryWorld)} (led : start.Leads course last)
    (edits : ∀ change, .reshape change ∈ course → MemoryWorld.OwnerEdit change)
    {handle : Submitter} {member : Member TurtleCommand}
    (held : last.fleet.holder? handle = some member) :
    ∃ earlier spec later before placed, course = earlier ++ .register spec :: later ∧
      start.Leads earlier before ∧ Operation.register spec before = .ok handle placed ∧
      placed.Leads later last ∧
      let done := Task.succeeded (placed.work handle later)
      member.turtle.world = spec.world ∧
        member.turtle.facing = done.foldl TurtleCommand.heading spec.facing ∧
        member.turtle.selectedSlot = done.foldl TurtleCommand.choice 0 ∧
        member.turtle.pos.coordinates =
          spec.pos.coordinates + (TurtleCommand.strides spec.facing done).sum ∧
        ∀ stride ∈ TurtleCommand.strides spec.facing done,
          stride.1.natAbs + stride.2.1.natAbs + stride.2.2.natAbs = 1 := by
  have bookedStart : start.Booked := .of_leads opening (.rest start)
  obtain ⟨earlier, spec, later, before, placed, split, first, registered, second⟩ :=
    bookedStart.registered_of_leads led (opening.holder? handle) held
  refine ⟨earlier, spec, later, before, placed, split, first, registered, second, ?_⟩
  obtain ⟨next, was, entity, heldPlaced, turtle, world, pos⟩ :=
    Operation.career_of_register registered
  have bookedPlaced : placed.Booked := by
    rw [next]
    exact (Booked.of_leads opening first).next (before.whole_of_memory _)
  have rootedPlaced : placed.Rooted := by
    rw [next]
    refine (opening.rooted.of_leads first ?_).next (.register spec) nofun
    intro change listed
    apply edits
    rw [split]
    exact List.mem_append_left _ listed
  have reckons := reckons_of_leads bookedPlaced rootedPlaced second
    (fun change listed => edits change (by simp [split, listed])) heldPlaced held
  rw [turtle] at reckons
  refine ⟨reckons.world.trans world, reckons.facing, reckons.slot, ?_,
    TurtleCommand.strides_unit spec.facing _⟩
  rw [reckons.pos, Turtle.pos, pos]
  rfl

/-- A turtle at the end of the coordinates, in a world without a border before it, which tries to step
on, steps back, turns and steps again. -/
def shoreCourse : List (Deed TurtleCommand MemoryWorld) :=
  [.reshape (·.addWorld "overworld" { border := -2147483648 }),
    .register { Sample.scout with pos := ⟨2147483647, 64, 0⟩, facing := .east, fuelLevel := 5 },
    .submit "scout" (.move .forward), .submit "scout" (.move .back), .submit "scout" (.turn .left),
    .submit "scout" (.select 3), .submit "scout" (.move .forward), Sample.tick, Sample.tick,
    Sample.tick, Sample.tick, Sample.tick, Sample.tick, Sample.tick]

theorem dead_reckoning_shoreCourse :
    Sample.stage.Opening ∧ Sample.stage.Leads shoreCourse (Sample.stage.run shoreCourse) ∧
      (∀ change, .reshape change ∈ shoreCourse → MemoryWorld.OwnerEdit change) ∧
      ∃ member, (Sample.stage.run shoreCourse).fleet.holder? ⟨"scout", 0⟩ = some member ∧
        ∃ earlier spec later, ∃ placed : Stage TurtleCommand WorkBudget MemoryWorld,
          shoreCourse = earlier ++ .register spec :: later ∧
          (2147483646, 64, -1) = spec.pos.coordinates + (TurtleCommand.strides spec.facing
            (Task.succeeded (placed.work ⟨"scout", 0⟩ later))).sum ∧
          3 = (Task.succeeded (placed.work ⟨"scout", 0⟩ later)).foldl TurtleCommand.choice 0 := by
  have edits : ∀ change, .reshape change ∈ shoreCourse → MemoryWorld.OwnerEdit change := by
    intro change listed
    simp only [shoreCourse, Sample.tick, List.mem_cons, reduceCtorEq, Deed.reshape.injEq,
      List.not_mem_nil, or_false] at listed
    subst listed
    exact .addWorld _ _
  have led : Sample.stage.Leads shoreCourse (Sample.stage.run shoreCourse) := leads_run ..
  obtain ⟨member, held, there, chosen⟩ : ∃ member,
      (Sample.stage.run shoreCourse).fleet.holder? ⟨"scout", 0⟩ = some member ∧
        member.turtle.pos.coordinates = (2147483646, 64, -1) ∧ member.turtle.selectedSlot = 3 :=
    ⟨_, rfl, rfl, rfl⟩
  obtain ⟨earlier, spec, later, _, placed, split, _, _, _, _, _, slot, pos, _⟩ :=
    dead_reckoning Sample.opening led edits held
  exact ⟨Sample.opening, led, edits, member, held, earlier, spec, later, placed, split,
    there.symm.trans pos, chosen.symm.trans slot⟩

end Stage

end TurtleFleet
