import TurtleFleet.Proofs.Atomicity
import TurtleFleet.Proofs.Career
import TurtleFleet.Proofs.Conservation

/-! The fuel of the turtles is accounted for. A level never exceeds the cap of its tier, a step costs
just what it costs, and what burnt items give is only cut off at the cap: where the arithmetic of the
words would stop, the cap has stopped the level before. -/

namespace TurtleFleet

namespace Settings

theorem fuelLimit_le (settings : Settings) (tier : Tier) :
    settings.fuelLimit tier ≤ settings.maxFuelLimit :=
  Nat.min_le_right _ _

end Settings

/-- The tank of a turtle is that of its tier, and no fuller than it can be. -/
structure Turtle.Fuelled (settings : Settings) (turtle : Turtle) : Prop where
  required : turtle.fuel.required = settings.fuelRequired
  cap : turtle.fuel.cap = settings.fuelLimit turtle.tier
  within : turtle.fuel.level ≤ turtle.fuel.cap

/-- What a command and its result mean for the fuel of a turtle and for the slots it burns from. -/
inductive Turtle.Burns (settings : Settings) (turtle : Turtle) :
    TurtleCommand → Except Stop (List Json) → Turtle → Prop where
  /-- Any command but a step and a refuelling, and any command that fails. -/
  | kept {command : TurtleCommand} {result : Except Stop (List Json)} {left : Turtle}
      (other : result.isOk = true → command.isStep = false ∧ command.isRefuel = false)
      (fuel : left.fuel = turtle.fuel)
      (stored : command.isRefuel = true → left.inventory = turtle.inventory) :
      Burns settings turtle command result left
  | stepped {direction : MoveDirection} {left : Turtle}
      (enough : turtle.fuel.has Action.moveCost = true)
      (fuel : left.fuel = (turtle.fuel.consume Action.moveCost).2) :
      Burns settings turtle (.move direction) (.ok []) left
  /-- Fuel is not required, or no item is to be burnt. -/
  | spared {limit : Nat} {left : Turtle} (idle : turtle.fuel.required = true → limit = 0)
      (fuel : left.fuel = turtle.fuel) (stored : left.inventory = turtle.inventory) :
      Burns settings turtle (.refuel limit) (.ok []) left
  | burnt {limit value : Nat} {stack : ItemStack} {left : Turtle}
      (required : turtle.fuel.required = true) (more : limit ≠ 0)
      (held : turtle.inventory.get? turtle.selectedSlot = some stack)
      (burns : settings.fuelValue? stack.id = some value) (some : 0 < min limit stack.count)
      (fuel : left.fuel = (turtle.fuel.add (min (value * min limit stack.count) (word32 - 1))).2)
      (stored : left.inventory =
        turtle.inventory.put turtle.selectedSlot (stack.less (min limit stack.count))) :
      Burns settings turtle (.refuel limit) (.ok []) left

theorem FuelTank.add_of_within {tank : FuelTank} (within : tank.level ≤ tank.cap) (amount : Nat) :
    ∃ gain, (tank.add amount).1 = .ok gain := by
  have less : tank.level ≤ min (tank.level + amount) tank.cap := by omega
  exact ⟨_, checkedSub_of_le less⟩

/-- Every ending of a command of an idle turtle, seen from the tank. The fault of a level above its
cap is out of the question. -/
theorem TurtleCommand.Ending.burns {context : Context} {turtle left : Turtle}
    {memory after : MemoryWorld} {command : TurtleCommand} {result : Except Stop (List Json)}
    {notices : List EquipmentNotice}
    (ending : command.Ending context turtle memory result left after notices)
    (idle : turtle.animation.playing = false) (within : turtle.fuel.level ≤ turtle.fuel.cap) :
    left.tier = turtle.tier ∧ turtle.Burns context.settings command result left := by
  have failed {stop : Stop} {left : Turtle} (tier : left.tier = turtle.tier)
      (fuel : left.fuel = turtle.fuel)
      (stored : command.isRefuel = true → left.inventory = turtle.inventory) :
      left.tier = turtle.tier ∧ turtle.Burns context.settings command (.error stop) left :=
    ⟨tier, .kept nofun fuel stored⟩
  have begun {between : Turtle} {kind : AnimationKind}
      (still : between.animation.playing = false)
      (burns : ∀ animation, between.tier = turtle.tier ∧
        turtle.Burns context.settings command (.ok []) { between with animation }) :
      (between.beginning kind).2.tier = turtle.tier ∧
        turtle.Burns context.settings command (between.beginning kind).1
          (between.beginning kind).2 := by
    obtain ⟨animation, same⟩ := between.beginning_turtle kind
    rw [between.beginning_of_idle still kind, same]
    exact burns animation
  have displaced {pos : BlockPos} {there : Except Stop Bool} {left : Turtle} {after : MemoryWorld}
      (relocated : Action.relocation turtle memory turtle.world pos = (there, left, after)) :
      left.tier = turtle.tier ∧ left.fuel = turtle.fuel ∧ left.inventory = turtle.inventory := by
    obtain ⟨entity, same⟩ := Action.relocation_turtle relocated
    rw [same]
    exact ⟨rfl, rfl, rfl⟩
  cases ending with
  | obstructed first => exact failed rfl rfl fun _ => rfl
  | unmoved clear refused =>
    obtain ⟨tier, fuel, stored⟩ := displaced refused
    exact failed tier fuel fun _ => stored
  | broken clear stopped =>
    obtain ⟨tier, fuel, stored⟩ := displaced stopped
    exact failed tier fuel fun _ => stored
  | @moved direction between _ clear relocated =>
    have enough : turtle.fuel.has Action.moveCost = true := by
      unfold Turtle.obstacle? at clear
      grind
    obtain ⟨entity, same⟩ := Action.relocation_turtle relocated
    subst same
    apply begun
    · exact idle
    · intro animation
      exact ⟨rfl, .stepped enough rfl⟩
  | turned direction =>
    apply begun
    · exact idle
    · intro animation
      exact ⟨rfl, .kept (fun _ => ⟨rfl, rfl⟩) rfl nofun⟩
  | refused other stop => exact failed rfl rfl fun _ => rfl
  | dug tool solid free stowed written =>
    exact begun idle fun animation => ⟨rfl, .kept (fun _ => ⟨rfl, rfl⟩) rfl nofun⟩
  | placed held placeable written =>
    exact begun idle fun animation => ⟨rfl, .kept (fun _ => ⟨rfl, rfl⟩) rfl nofun⟩
  | detected direction => exact ⟨rfl, .kept (fun _ => ⟨rfl, rfl⟩) rfl nofun⟩
  | inspected seen some => exact ⟨rfl, .kept (fun _ => ⟨rfl, rfl⟩) rfl nofun⟩
  | selected small => exact ⟨rfl, .kept (fun _ => ⟨rfl, rfl⟩) rfl nofun⟩
  | unburnt free => exact ⟨rfl, .spared free rfl rfl⟩
  | overflown taken overflow =>
    obtain ⟨gain, gained⟩ := FuelTank.add_of_within within _
    rw [gained] at overflow
    cases overflow
  | @burnt limit value stack taken inventory required more held burns took =>
    obtain ⟨found, there, some, counted, _, left⟩ := Inventory.take_eq_some took
    cases held.symm.trans there
    rw [counted] at some left ⊢
    apply begun
    · exact idle
    · intro animation
      exact ⟨rfl, .burnt required more held burns some rfl left⟩
  | untransferred small nothing => exact ⟨rfl, .kept (fun _ => ⟨rfl, rfl⟩) rfl nofun⟩
  | returned apart took moves => exact failed rfl rfl nofun
  | transferred small apart took arrived moves =>
    exact begun idle fun animation => ⟨rfl, .kept (fun _ => ⟨rfl, rfl⟩) rfl nofun⟩
  | unequipped empty free => exact ⟨rfl, .kept (fun _ => ⟨rfl, rfl⟩) rfl nofun⟩
  | equipped offered stowed =>
    exact begun idle fun animation => ⟨rfl, .kept (fun _ => ⟨rfl, rfl⟩) rfl nofun⟩
  | told => exact ⟨rfl, .kept (fun _ => ⟨rfl, rfl⟩) rfl nofun⟩

/-! ### The tanks along a course -/

/-- Whatever is burnt, the tank stays one of its tier and no fuller than it can be. -/
theorem Turtle.Burns.fuelled {settings : Settings} {turtle left : Turtle} {command : TurtleCommand}
    {result : Except Stop (List Json)} (burns : turtle.Burns settings command result left)
    (fuelled : turtle.Fuelled settings) (tier : left.tier = turtle.tier) : left.Fuelled settings := by
  have same (fuel : left.fuel = turtle.fuel) : left.Fuelled settings := by
    constructor
    · rw [fuel, fuelled.required]
    · rw [fuel, tier, fuelled.cap]
    · rw [fuel]
      exact fuelled.within
  cases burns with
  | kept other fuel stored => exact same fuel
  | spared idle fuel stored => exact same fuel
  | stepped enough fuel =>
    unfold FuelTank.consume at fuel
    split at fuel
    · exact same fuel
    · split at fuel
      · have less : left.fuel.level = turtle.fuel.level - Action.moveCost := by rw [fuel]
        have kept : left.fuel.cap = turtle.fuel.cap := by rw [fuel]
        constructor
        · rw [fuel]
          exact fuelled.required
        · rw [kept, tier, fuelled.cap]
        · have within := fuelled.within
          omega
      · exact same fuel
  | burnt required more held burns some fuel stored =>
    constructor
    · rw [fuel]
      exact fuelled.required
    · rw [fuel, tier]
      exact fuelled.cap
    · rw [fuel]
      exact Nat.min_le_right _ _

/-- The changes of the fuel that are accounted for by what a turtle carries out. -/
structure Turtle.Accounts (settings : Settings) (before : Turtle) (tasks : List (Task TurtleCommand))
    (after : Turtle) : Prop where
  /-- A turtle carries out one command at a time. -/
  one : tasks.length ≤ 1
  /-- Nothing else than steps and refuellings that succeed changes the fuel. -/
  kept : (∀ command ∈ Task.succeeded tasks, command.isStep = false ∧ command.isRefuel = false) →
    after.fuel = before.fuel
  /-- A step costs one, which is there to be spent. -/
  stepped : settings.fuelRequired = true → ∀ direction, .move direction ∈ Task.succeeded tasks →
    0 < before.fuel.level ∧ after.fuel.level + 1 = before.fuel.level
  /-- Burning items gives their value in whole numbers, cut off at the cap. -/
  refuelled : settings.fuelRequired = true → ∀ limit, .refuel limit ∈ Task.succeeded tasks →
    if limit = 0 then after.fuel = before.fuel ∧ after.inventory = before.inventory
    else ∃ stack value, before.inventory.get? before.selectedSlot = some stack ∧
      settings.fuelValue? stack.id = some value ∧ 0 < min limit stack.count ∧
      after.inventory = before.inventory.put before.selectedSlot (stack.less (min limit stack.count)) ∧
      after.fuel.level = min (before.fuel.level + value * min limit stack.count) before.fuel.cap
  /-- Where fuel is not required it does not change, and no item is burnt. -/
  free : settings.fuelRequired = false → after.fuel = before.fuel ∧
    ∀ task ∈ tasks, task.1.command.isRefuel = true → after.inventory = before.inventory

/-- The gain stays within its word, or else is beyond the cap. -/
theorem FuelTank.level_add_of_small {tank : FuelTank} (small : tank.cap < word32) (amount : Nat) :
    (tank.add (min amount (word32 - 1))).2.level = min (tank.level + amount) tank.cap := by
  show min (tank.level + min amount (word32 - 1)) tank.cap = _
  omega

theorem Turtle.Burns.accounts {settings : Settings} {turtle left : Turtle}
    {entry : QueueEntry TurtleCommand} {result : Except Stop (List Json)}
    (burns : turtle.Burns settings entry.command result left) (fuelled : turtle.Fuelled settings)
    (fits : settings.maxFuelLimit < word32) : turtle.Accounts settings [(entry, result)] left := by
  obtain ⟨id, command⟩ := entry
  have small : turtle.fuel.cap < word32 := by
    rw [fuelled.cap]
    exact Nat.lt_of_le_of_lt (settings.fuelLimit_le _) fits
  constructor
  · exact Nat.le_refl 1
  · intro other
    cases burns with
    | kept _ fuel _ => exact fuel
    | spared _ fuel _ => exact fuel
    | stepped _ _ => exact absurd (other _ (Task.mem_succeeded_singleton.mpr ⟨rfl, rfl⟩)).1 nofun
    | burnt _ _ _ _ _ _ _ =>
      exact absurd (other _ (Task.mem_succeeded_singleton.mpr ⟨rfl, rfl⟩)).2 nofun
  · intro required direction done
    obtain ⟨same, succeeds⟩ := Task.mem_succeeded_singleton.mp done
    dsimp only at same
    subst same
    cases burns with
    | kept other _ _ => cases (other succeeds).1
    | stepped enough fuel =>
      rw [← fuelled.required] at required
      have some : Action.moveCost ≤ turtle.fuel.level := by
        simpa [FuelTank.has, required] using enough
      have less : left.fuel.level = turtle.fuel.level - Action.moveCost := by
        simp [fuel, FuelTank.consume, required, some]
      unfold Action.moveCost at some less
      omega
  · intro required limit done
    obtain ⟨same, succeeds⟩ := Task.mem_succeeded_singleton.mp done
    dsimp only at same
    subst same
    rw [← fuelled.required] at required
    cases burns with
    | kept other _ _ => cases (other succeeds).2
    | spared idle fuel stored =>
      rw [if_pos (idle required)]
      exact ⟨fuel, stored⟩
    | @burnt _ value stack _ _ more held burns some fuel stored =>
      rw [if_neg more]
      refine ⟨stack, value, held, burns, some, stored, ?_⟩
      rw [fuel]
      exact FuelTank.level_add_of_small small _
  · intro free
    rw [← fuelled.required] at free
    cases burns with
    | kept _ fuel stored =>
      refine ⟨fuel, ?_⟩
      intro task listed refuels
      rw [List.mem_singleton.mp listed] at refuels
      exact stored refuels
    | spared _ fuel stored => exact ⟨fuel, fun _ _ _ => stored⟩
    | stepped enough fuel =>
      have unspent : (turtle.fuel.consume Action.moveCost).2 = turtle.fuel := by
        simp [FuelTank.consume, free]
      refine ⟨fuel.trans unspent, ?_⟩
      intro task listed refuels
      rw [List.mem_singleton.mp listed] at refuels
      cases refuels
    | burnt required _ _ _ _ _ _ =>
      rw [free] at required
      cases required

/-- A new turtle gets the tank of its tier, filled as far as it goes. -/
theorem Turtle.fuelled_unplaced (spec : TurtleSpec) (settings : Settings) :
    (Turtle.unplaced spec settings).Fuelled settings where
  required := rfl
  cap := rfl
  within := Nat.min_le_right _ _

namespace Stage

variable {M : Type}

/-- The settings of a stage, and that all its turtles are fuelled accordingly. -/
structure Fuelled (settings : Settings) (stage : Stage TurtleCommand M MemoryWorld) : Prop where
  settled : stage.fleet.settings = settings
  fuelled : ∀ {id member}, stage.fleet.members.get? id = some member →
    member.turtle.Fuelled settings

theorem fuelled_iff {settings : Settings} {stage : Stage TurtleCommand M MemoryWorld} :
    stage.Fuelled settings ↔ stage.Upholds settings (Turtle.Fuelled settings) :=
  ⟨fun fit => ⟨fit.settled, fit.fuelled⟩, fun upholds => ⟨upholds.settled, upholds.turtles⟩⟩

theorem Opening.fuelled {stage : Stage TurtleCommand M MemoryWorld} (opening : stage.Opening) :
    stage.Fuelled stage.fleet.settings :=
  fuelled_iff.mpr (.of_opening opening)

theorem Career.accounts {stage : Stage TurtleCommand M MemoryWorld} {settings : Settings}
    {turtle left : Turtle} {tasks : List (Task TurtleCommand)}
    (career : stage.Career (fun turtle _ => turtle.Fuelled settings) turtle tasks left)
    (fuelled : turtle.Fuelled settings) (settled : stage.fleet.settings = settings)
    (fits : settings.maxFuelLimit < word32) : turtle.Accounts settings tasks left := by
  cases career with
  | rested equipment animation attached =>
    constructor
    · exact Nat.zero_le 1
    · intro other
      rfl
    · intro required direction done
      cases done
    · intro required limit done
      cases done
    · intro free
      refine ⟨rfl, ?_⟩
      intro task listed
      cases listed
  | @worked context equipment animation memory after entry result left notices fit idle same ending =>
    obtain ⟨tier, burns⟩ := ending.burns idle fuelled.within
    rw [same, settled] at burns
    have accounts := burns.accounts ⟨fuelled.required, fuelled.cap, fuelled.within⟩ fits
    exact ⟨accounts.one, accounts.kept, accounts.stepped, accounts.refuelled, accounts.free⟩

theorem Career.fuelled {stage : Stage TurtleCommand M MemoryWorld} {settings : Settings}
    {turtle left : Turtle} {tasks : List (Task TurtleCommand)}
    (career : stage.Career (fun turtle _ => turtle.Fuelled settings) turtle tasks left)
    (fuelled : turtle.Fuelled settings) (settled : stage.fleet.settings = settings) :
    left.Fuelled settings := by
  cases career with
  | rested equipment animation attached =>
    exact ⟨fuelled.required, fuelled.cap, fuelled.within⟩
  | @worked context equipment animation memory after entry result left notices fit idle same ending =>
    obtain ⟨tier, burns⟩ := ending.burns idle fuelled.within
    rw [same, settled] at burns
    exact burns.fuelled ⟨fuelled.required, fuelled.cap, fuelled.within⟩ tier

variable [WorkMonitor M]

theorem careersKeep_fuelled (settings : Settings) :
    CareersKeep M settings (Turtle.Fuelled settings) :=
  fun settled fuelled career => career.fuelled fuelled settled

theorem Fuelled.lastsTicks (settings : Settings) : LastsTicks (Fuelled (M := M) settings) := by
  have lasts := Upholds.lastsTicks (careersKeep_fuelled (M := M) settings)
  constructor
  · intro stage time monitor cursor fit
    exact fuelled_iff.mpr (lasts.paced time monitor cursor (fuelled_iff.mp fit))
  · intro stage arrivals fit
    exact fuelled_iff.mpr (lasts.takeIn arrivals (fuelled_iff.mp fit))
  · intro round id nanos fit
    exact fuelled_iff.mpr (lasts.visit id nanos (fuelled_iff.mp fit))

/-- The turtles that are registered in a course are fuelled from the beginning, and stay so. -/
theorem Fuelled.of_leads {start last : Stage TurtleCommand M MemoryWorld}
    {course : List (Deed TurtleCommand MemoryWorld)} {settings : Settings}
    (fit : start.Fuelled settings) (booked : start.Booked) (led : start.Leads course last) :
    last.Fuelled settings := by
  refine fuelled_iff.mpr
    (Upholds.of_leads (careersKeep_fuelled settings) (fuelled_iff.mp fit) booked led ?_)
  intro spec entity _
  have fresh := Turtle.fuelled_unplaced spec settings
  exact ⟨fresh.required, fresh.cap, fresh.within⟩

/-- Fuel is accounted for exactly. After every course the tank of each turtle has the cap of its tier,
which does not exceed the ceiling of the settings, and is no fuller than that. A turtle that is
registered then starts with the fuel of its specification, as far as it goes. Whatever is done next,
the fuel of a turtle that stays registered changes only as what it carries out accounts for. -/
theorem fuel_is_accounted_for {start last : Stage TurtleCommand M MemoryWorld}
    (opening : start.Opening) {course : List (Deed TurtleCommand MemoryWorld)}
    (led : start.Leads course last) (fits : start.fleet.settings.maxFuelLimit < word32) :
    (∀ id turtle, last.fleet.turtle? id = some turtle →
      turtle.fuel.required = start.fleet.settings.fuelRequired ∧
      turtle.fuel.cap = start.fleet.settings.fuelLimit turtle.tier ∧
      turtle.fuel.cap ≤ start.fleet.settings.maxFuelLimit ∧ turtle.fuel.level ≤ turtle.fuel.cap) ∧
    (∀ spec handle placed, Operation.register spec last = .ok handle placed →
      ∃ member, placed.fleet.holder? handle = some member ∧ member.turtle.tier = spec.tier ∧
        member.turtle.fuel.level = min spec.fuelLevel member.turtle.fuel.cap) ∧
    ∀ deed handle was now, last.fleet.holder? handle = some was →
      (last.next deed).fleet.holder? handle = some now →
      was.turtle.Accounts start.fleet.settings (workIn handle last deed) now.turtle := by
  have booked : start.Booked := .of_leads opening (.rest start)
  have fit := opening.fuelled.of_leads booked led
  refine ⟨?_, ?_, ?_⟩
  · intro id turtle found
    obtain ⟨member, known, same⟩ := Option.map_eq_some_iff.mp found
    have fuelled := fit.fuelled known
    rw [← same]
    refine ⟨fuelled.required, fuelled.cap, ?_, fuelled.within⟩
    rw [fuelled.cap]
    exact start.fleet.settings.fuelLimit_le _
  · intro spec handle placed registered
    obtain ⟨_, member, entity, held, turtle, _⟩ := Operation.career_of_register registered
    refine ⟨member, held, ?_, ?_⟩
    · rw [turtle]
      rfl
    · rw [turtle]
      show min (min 0 _ + spec.fuelLevel) _ = _
      rw [Nat.zero_min, Nat.zero_add]
      rfl
  · intro deed handle was now held heldNext
    have fuelled := fit.fuelled (Fleet.holder?_eq_some_iff.mp held).1
    have career : last.Career (fun turtle _ => turtle.Fuelled start.fleet.settings) was.turtle
        (workIn handle last deed) now.turtle :=
      career_next (Fuelled.lastsTicks _) (fun fit found => fit.fuelled found) fit deed held heldNext
    exact career.accounts fuelled fit.settled fits

/-- A turtle with some coal, which took a step and is about to refuel. -/
def coalCourse : List (Deed TurtleCommand MemoryWorld) :=
  [.register { Sample.scout with fuelLevel := 3, inventory := { slots := [some ⟨"coal", 5⟩] } },
    .submit "scout" (.move .up), .submit "scout" (.refuel 2), Sample.tick, Sample.tick]

theorem fuel_is_accounted_for_coalCourse :
    let last := Sample.stage.run coalCourse
    Sample.stage.Opening ∧ Sample.stage.Leads coalCourse last ∧
      Sample.stage.fleet.settings.maxFuelLimit < word32 ∧
      Task.succeeded (workIn ⟨"scout", 0⟩ last Sample.tick) = [.refuel 2] ∧
      ∃ was now, last.fleet.holder? ⟨"scout", 0⟩ = some was ∧
        (last.next Sample.tick).fleet.holder? ⟨"scout", 0⟩ = some now ∧
        was.turtle.fuel.level = 2 ∧ was.turtle.fuel.cap ≤ 1000000 ∧
        ∃ stack value, was.turtle.inventory.get? 0 = some stack ∧
          Sample.stage.fleet.settings.fuelValue? stack.id = some value ∧
          now.turtle.fuel.level = min (2 + value * min 2 stack.count) was.turtle.fuel.cap := by
  intro last
  have led : Sample.stage.Leads coalCourse last := leads_run ..
  have fits : Sample.stage.fleet.settings.maxFuelLimit < word32 := by decide
  have refuels : Task.succeeded (workIn ⟨"scout", 0⟩ last Sample.tick) = [.refuel 2] := by rfl
  obtain ⟨was, now, held, heldNext, left, slot⟩ : ∃ was now,
      last.fleet.holder? ⟨"scout", 0⟩ = some was ∧
        (last.next Sample.tick).fleet.holder? ⟨"scout", 0⟩ = some now ∧
        was.turtle.fuel.level = 2 ∧ was.turtle.selectedSlot = 0 := ⟨_, _, rfl, rfl, rfl, rfl⟩
  obtain ⟨tanks, _, accounts⟩ := fuel_is_accounted_for Sample.opening led fits
  obtain ⟨_, _, ceiling, _⟩ := tanks "scout" was.turtle
    (by rw [Fleet.turtle?, (Fleet.holder?_eq_some_iff.mp held).1]; rfl)
  obtain ⟨stack, value, found, burns, _, _, level⟩ :=
    (accounts Sample.tick _ was now held heldNext).refuelled rfl 2 (by rw [refuels]; simp)
  rw [slot] at found
  rw [left] at level
  exact ⟨Sample.opening, led, fits, refuels, was, now, held, heldNext, left, ceiling, stack, value,
    found, burns, level⟩

end Stage

end TurtleFleet
