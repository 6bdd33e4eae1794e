import TurtleFleet.Proofs.Career
import TurtleFleet.Proofs.Sanitizing
import TurtleFleet.Proofs.Standstill

/-! Refuelling, in any world: items are burnt before it is known how much fuel still fits into the
tank. As long as the tank is not full, something does, and the turtle waits just for that; a turtle with
a full tank burns its items for nothing. -/

namespace TurtleFleet

variable {M W : Type}

/-! ### Fuels -/

/-- Whatever burns gives fuel. -/
def Settings.Burning (settings : Settings) : Prop :=
  ∀ item value, settings.fuelValue? item = some value → 0 < value

theorem Settings.Sane.burning {settings : Settings} (sane : settings.Sane) : settings.Burning :=
  fun _ _ burns => sane.fuels _ (Keyed.get?_eq_some_iff.mp burns)

/-- Sanitizing takes the fuels without value away. -/
theorem Settings.burning_of_sanitized {settings sanitized : Settings}
    (made : settings.sanitized = .ok sanitized) : sanitized.Burning := by
  rcases rounded : evenDuration settings.animationDuration with fault | duration
  · rw [Settings.sanitized, rounded] at made
    cases made
  · rw [sanitized_of_duration rounded] at made
    cases made
    exact fun _ _ burns =>
      of_decide_eq_true (Keyed.mem_filter.mp (Keyed.get?_eq_some_iff.mp burns)).2

namespace Stage

variable {C : Type}

theorem Opening.burning {stage : Stage C M W} (opening : stage.Opening) :
    stage.fleet.settings.Burning := by
  obtain ⟨made, catalog, world⟩ := opening
  obtain ⟨sanitized, sane, same⟩ := Fleet.new_eq made
  rw [same]
  exact Settings.burning_of_sanitized sane

variable [Command C] [World W] [WorkMonitor M]

theorem burning_lastsTicks :
    LastsTicks fun stage : Stage C M W => stage.fleet.settings.Burning where
  paced _ _ _ burning := burning
  takeIn {stage} arrivals burning := by
    obtain ⟨members, retired, same⟩ := stage.fleet.takeIn_eq arrivals
    show (stage.fleet.takeIn arrivals).settings.Burning
    rw [same]
    exact burning
  visit {round} id nanos burning := by
    obtain ⟨members, monitor, same⟩ := round.visit_fleet_eq id nanos
    rw [same]
    exact burning

theorem burning_of_leads {start last : Stage C M W} {course : List (Deed C W)}
    (burning : start.fleet.settings.Burning) (led : start.Leads course last) :
    last.fleet.settings.Burning := by
  induction led with
  | rest stage => exact burning
  | @step stage last deed deeds whole led ih =>
    apply ih
    rw [(stage.fleet_next deed whole).1]
    exact burning

end Stage

/-! ### Refuelling -/

/-- What a refuelling that succeeds makes of an idle turtle. -/
structure Turtle.Refuels (turtle left : Turtle) : Prop where
  /-- Only items of the selected slot are burnt. -/
  burns : left.inventory ≠ turtle.inventory →
    left.inventory.countAt turtle.selectedSlot < turtle.inventory.countAt turtle.selectedSlot ∧
      ∀ slot, slot ≠ turtle.selectedSlot → left.inventory.get? slot = turtle.inventory.get? slot
  /-- The turtle waits exactly if items were burnt. -/
  waits : left.animation.kind = .wait ↔ left.inventory ≠ turtle.inventory
  /-- Burning items raises the level, unless the tank was full. -/
  gains : turtle.fuel.level < left.fuel.level ↔
    left.inventory ≠ turtle.inventory ∧ turtle.fuel.level ≠ turtle.fuel.cap

/-- The turtle waits exactly if its level has risen, and only then were items of its slot burnt. -/
structure Turtle.Profits (turtle left : Turtle) : Prop where
  waits : left.animation.kind = .wait ↔ turtle.fuel.level < left.fuel.level
  burns : left.inventory.countAt turtle.selectedSlot < turtle.inventory.countAt turtle.selectedSlot →
    turtle.fuel.level < left.fuel.level

theorem Turtle.Refuels.profits {turtle left : Turtle} (refuels : turtle.Refuels left)
    (room : turtle.fuel.level ≠ turtle.fuel.cap) : turtle.Profits left where
  waits := by rw [refuels.waits, refuels.gains, and_iff_left room]
  burns less := refuels.gains.mpr ⟨fun same => Nat.lt_irrefl _ (same ▸ less), room⟩

theorem Inventory.countAt_of_take {inventory spared : Inventory} {slot count : Nat} {taken : ItemStack}
    (took : inventory.take slot count = (some taken, spared)) :
    spared.countAt slot < inventory.countAt slot := by
  obtain ⟨stack, held, some, counted, _, left⟩ := take_eq_some took
  have there : slot < inventory.size := lt_size_of_get? held
  rw [countAt, countAt, left, held, get?_put_self there, ItemStack.less]
  split <;> simp <;> omega

theorem FuelTank.lt_level_add_iff {tank : FuelTank} {amount gain : Nat} (some : 0 < amount)
    (added : (tank.add amount).1 = .ok gain) :
    tank.level < (tank.add amount).2.level ↔ tank.level ≠ tank.cap := by
  have within : tank.level ≤ min (tank.level + amount) tank.cap := by
    refine Nat.le_of_not_lt fun less => ?_
    rw [add, checkedSub, if_neg (Nat.not_le_of_lt less)] at added
    cases added
  show tank.level < min (tank.level + amount) tank.cap ↔ _
  omega

/-- A turtle that did nothing has neither waited nor burnt anything. -/
theorem Turtle.Refuels.refl {turtle : Turtle} (idle : turtle.animation.playing = false) :
    turtle.Refuels turtle := by
  have still : turtle.animation.kind = .none := by simpa [Animation.playing] using idle
  exact { burns := fun burnt => (burnt rfl).elim, waits := by simp [still], gains := by simp }

/-- Items are burnt, and what they give fits into the tank or not. -/
theorem Turtle.Refuels.of_take {turtle : Turtle} (idle : turtle.animation.playing = false)
    {limit amount gain : Nat} {burnt : ItemStack} {inventory : Inventory}
    (took : turtle.inventory.take turtle.selectedSlot limit = (some burnt, inventory))
    (some : 0 < amount) (added : (turtle.fuel.add amount).1 = .ok gain) :
    turtle.Refuels
      (Turtle.beginning { turtle with inventory, fuel := (turtle.fuel.add amount).2 } .wait).2 := by
  have less := Inventory.countAt_of_take took
  have changed : inventory ≠ turtle.inventory := fun same => Nat.lt_irrefl _ (same ▸ less)
  have begun : turtle.animation.begin .wait =
      .ok { turtle.animation with kind := .wait, progress := 0 } :=
    Animation.begin_of_still idle nofun
  rw [Turtle.beginning, begun]
  refine { burns := fun _ => ⟨less, fun slot apart => ?_⟩, waits := iff_of_true rfl changed
           gains := ?_ }
  · obtain ⟨stack, _, _, _, _, put⟩ := Inventory.take_eq_some took
    rw [put, Inventory.get?_put_of_ne _ apart]
  · rw [and_iff_right changed]
    exact FuelTank.lt_level_add_iff some added

theorem Action.meets_refuel {settings : Settings} (burning : settings.Burning) (limit : Nat)
    {scene : Scene W} (idle : scene.turtle.animation.playing = false) :
    (refuel settings limit : Action W (List Json)).Meets scene fun result left =>
      ∀ payload, result = .ok payload → scene.turtle.Refuels left.turtle := by
  have unburnt {result : Except Stop (List Json)} :
      ∀ payload, result = .ok payload → scene.turtle.Refuels scene.turtle :=
    fun _ _ => .refl idle
  refine .bind (.of_eq rfl (.ite (fun required => ?_) fun free => .of_eq rfl unburnt))
  dsimp only
  rcases held : scene.turtle.inventory.get? scene.turtle.selectedSlot with _ | stack
  · exact .of_eq rfl nofun
  dsimp only
  rcases burns : settings.fuelValue? stack.id with _ | value
  · exact .of_eq rfl nofun
  refine .ite (fun none => .of_eq rfl unburnt) fun more => ?_
  rcases took : scene.turtle.inventory.take scene.turtle.selectedSlot limit with ⟨_ | burnt, inventory⟩
  · exact .of_eq rfl nofun
  have positive : 0 < min (value * burnt.count) (word32 - 1) := by
    obtain ⟨_, _, some, _⟩ := Inventory.take_eq_some took
    have gives : 0 < value * burnt.count := Nat.mul_pos (burning _ _ burns) some
    have one : 0 < word32 - 1 := by decide
    omega
  -- the items have left their slot by now, and only the tank can tell what they were worth
  refine .bind (.of_eq rfl (.bind (.of_eq rfl ?_)))
  rcases added : (scene.turtle.fuel.add (min (value * burnt.count) (word32 - 1))).1 with fault | gain
  · exact .bind (.of_eq rfl nofun)
  · refine .bind (.of_eq rfl (.of_eq (outcome_beginAnimation .wait) fun payload _ => ?_))
    exact .of_take idle took positive added

/-! ### Refuelling turtles of a fleet -/

variable [World W] [WorkMonitor M]

namespace Round

theorem refuels_execute {round : Round TurtleCommand M W} {id : TurtleId}
    {member : Member TurtleCommand} {entry : QueueEntry TurtleCommand} {limit : Nat}
    (burning : round.stage.fleet.settings.Burning) (command : entry.command = .refuel limit)
    (idle : member.turtle.animation.playing = false) {payload : List Json}
    (succeeds : round.ending id member entry = .ok payload) (nanos : Nat) :
    ∃ served, (round.execute id member entry nanos).stage.fleet.members.get? id = some served ∧
      member.turtle.Refuels served.turtle := by
  have meets : (Command.execute entry.command round.stage.fleet.context : Action W _).Meets
      (round.scene id member) fun result left =>
        ∀ payload, result = .ok payload → member.turtle.Refuels left.turtle := by
    rw [command]
    exact Action.meets_refuel burning limit idle
  rcases ran : (Command.execute entry.command round.stage.fleet.context).outcome
    (round.scene id member) with ⟨result, left⟩
  rw [Action.Meets, ran] at meets
  have ended : round.ending id member entry = result := congrArg Prod.fst ran
  have executed : round.execute id member entry nanos = _ := execute_of_ran round member ran nanos
  rw [executed]
  exact ⟨_, Keyed.get?_insert_self .., meets payload (ended.symm.trans succeeds)⟩

theorem refuels_visit {round : Round TurtleCommand M W} {id : TurtleId}
    {entry : QueueEntry TurtleCommand} {limit : Nat}
    (burning : round.stage.fleet.settings.Burning) (command : entry.command = .refuel limit)
    {payload : List Json} (works : round.task? id = some (entry, .ok payload)) (nanos : Nat) :
    ∃ member served, round.stage.fleet.members.get? id = some member ∧
      (round.visit id nanos).stage.fleet.members.get? id = some served ∧
      member.turtle.Refuels served.turtle := by
  have attends := round.attends_visit id nanos
  rw [works] at attends
  generalize round.visit id nanos = left at attends
  generalize carried : some (entry, Except.ok payload) = task at attends
  cases attends with
  | absent missing => cases carried
  | waits found => cases carried
  | @works member _ rest monitor found still waiting =>
    obtain ⟨same, succeeds⟩ := Prod.mk.inj (Option.some.inj carried)
    subst same
    have ended := (round.ending_wake id member { member.queue with entries := rest } monitor
      entry).trans succeeds.symm
    obtain ⟨served, known, refuels⟩ := @refuels_execute M W _ _
      ((round.wake id member).2.watched monitor) id { member.woken id round.stage.fleet.time with
        queue := { member.queue with entries := rest } } entry limit burning command still payload
      ended nanos
    rw [Member.turtle_woken] at refuels
    exact ⟨member, served, found, known, ⟨refuels.burns, refuels.waits, refuels.gains⟩⟩

end Round

namespace Stage

/-- Refuelling is not for nothing, in any world, whatever the inventory, the tank and the limit, unless
the tank is full already. An idle turtle that refuels with success waits exactly if it has burnt items,
and burns only items of the selected slot. If its tank was not full, this is exactly if its level has
risen. So it is for every turtle, and for those that come to refuel along a course. -/
theorem fuel_is_not_burnt_for_nothing {start last : Stage TurtleCommand M W}
    {course : List (Deed TurtleCommand W)} (opening : start.Opening) (led : start.Leads course last)
    (arrivals : TurtleId → List (Submitter × TurtleCommand)) (nanos : TurtleId → Nat)
    (id : TurtleId) {entry : QueueEntry TurtleCommand} {limit : Nat}
    (command : entry.command = .refuel limit) (payload : List Json) :
    let round := Operation.reached arrivals nanos last id
    (∀ member, member.turtle.animation.playing = false →
      round.ending id member entry = .ok payload →
      ∃ served, (round.execute id member entry (nanos id)).stage.fleet.members.get? id = some served ∧
        member.turtle.Refuels served.turtle ∧
        (member.turtle.fuel.level ≠ member.turtle.fuel.cap → member.turtle.Profits served.turtle)) ∧
    (round.task? id = some (entry, .ok payload) →
      ∃ member served, round.stage.fleet.members.get? id = some member ∧
        (round.visit id (nanos id)).stage.fleet.members.get? id = some served ∧
        member.turtle.Refuels served.turtle ∧
        (member.turtle.fuel.level ≠ member.turtle.fuel.cap → member.turtle.Profits served.turtle)) := by
  intro round
  have burning : round.stage.fleet.settings.Burning :=
    Operation.lasts_reached arrivals nanos burning_lastsTicks (burning_of_leads opening.burning led) id
  refine ⟨fun member idle succeeds => ?_, fun works => ?_⟩
  · obtain ⟨served, known, refuels⟩ :=
      Round.refuels_execute burning command idle succeeds (nanos id)
    exact ⟨served, known, refuels, refuels.profits⟩
  · obtain ⟨member, served, found, known, refuels⟩ :=
      Round.refuels_visit burning command works (nanos id)
    exact ⟨member, served, found, known, refuels, refuels.profits⟩

/-- A turtle with some coal is to burn two pieces of it. -/
def stokeCourse (level : Nat) : List (Deed TurtleCommand MemoryWorld) :=
  [.register { Sample.scout with fuelLevel := level, inventory := { slots := [some ⟨"coal", 5⟩] } },
    .submit "scout" (.refuel 2)]

def stokeVisit (level : Nat) : Round TurtleCommand WorkBudget MemoryWorld :=
  Operation.reached (fun _ => []) (fun _ => 0) (Sample.stage.run (stokeCourse level)) "scout"

theorem fuel_is_not_burnt_for_nothing_stokeCourse :
    Sample.stage.Opening ∧ Sample.stage.Leads (stokeCourse 3) (Sample.stage.run (stokeCourse 3)) ∧
      (stokeVisit 3).task? "scout" = some ({ id := 1, command := .refuel 2 }, .ok []) ∧
      ∃ member served, (stokeVisit 3).stage.fleet.members.get? "scout" = some member ∧
        ((stokeVisit 3).visit "scout" 0).stage.fleet.members.get? "scout" = some served ∧
        member.turtle.fuel.level = 3 ∧ member.turtle.fuel.cap = 20000 ∧
        served.turtle.animation.kind = .wait ∧ member.turtle.fuel.level < served.turtle.fuel.level := by
  have led := leads_run Sample.stage (stokeCourse 3)
  have task : (stokeVisit 3).task? "scout" = some ({ id := 1, command := .refuel 2 }, .ok []) := by
    rfl
  obtain ⟨_, visits⟩ := fuel_is_not_burnt_for_nothing Sample.opening led (fun _ => []) (fun _ => 0)
    "scout" (show (⟨1, .refuel 2⟩ : QueueEntry TurtleCommand).command = .refuel 2 from rfl) []
  obtain ⟨member, served, found, known, _, profits⟩ := visits task
  have tank : ((stokeVisit 3).stage.fleet.members.get? "scout").map (·.turtle.fuel) =
      some { level := 3, cap := 20000, required := true } := by rfl
  have waiting : (((stokeVisit 3).visit "scout" 0).stage.fleet.members.get? "scout").map
      (·.turtle.animation.kind) = some .wait := by rfl
  unfold stokeVisit at tank waiting
  rw [found] at tank
  rw [known] at waiting
  have fuel : member.turtle.fuel = { level := 3, cap := 20000, required := true } :=
    Option.some.inj tank
  have waits : served.turtle.animation.kind = .wait := Option.some.inj waiting
  have room : member.turtle.fuel.level ≠ member.turtle.fuel.cap := by
    rw [fuel]
    decide
  exact ⟨Sample.opening, led, task, member, served, found, known, by rw [fuel], by rw [fuel], waits,
    (profits room).waits.mp waits⟩

/-- A full tank takes nothing, but two pieces of coal are burnt and the turtle waits. -/
theorem fuel_may_be_burnt_for_nothing_stokeCourse :
    (stokeVisit 20000).task? "scout" = some ({ id := 1, command := .refuel 2 }, .ok []) ∧
      ∃ member served, (stokeVisit 20000).stage.fleet.members.get? "scout" = some member ∧
        ((stokeVisit 20000).visit "scout" 0).stage.fleet.members.get? "scout" = some served ∧
        ¬ member.turtle.Profits served.turtle ∧ member.turtle.fuel.required = true ∧
        served.turtle.animation.kind = .wait ∧
        served.turtle.inventory.slots = [some ⟨"coal", 3⟩] ∧
        member.turtle.fuel.level = 20000 ∧ served.turtle.fuel.level = 20000 := by
  refine ⟨by rfl, _, _, rfl, rfl, fun profits => ?_, by rfl, by rfl, by rfl, by decide +kernel,
    by decide +kernel⟩
  have raised := profits.waits.mp (by rfl)
  exact absurd raised (by decide +kernel)

end Stage

end TurtleFleet
