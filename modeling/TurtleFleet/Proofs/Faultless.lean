import TurtleFleet.Proofs.Chronicle
import TurtleFleet.Proofs.Fairness
import TurtleFleet.Proofs.Fuelling

/-! No command breaks off. A command stops with a fault where a number would leave its word, where an
animation would begin during another one and where a turtle would be relocated during a step. What
rules these out is kept up elsewhere: the selected slot, the sizes of the inventories and the levels of
the tanks stay within their limits, however odd the inventories were at the start, and only idle
turtles set to work. What the commands put in place of other numbers fits its word as well. -/

namespace TurtleFleet

variable {M : Type}

/-! ### Numbers that fit -/

/-- The numbers of an inventory are words: the slots can be counted on from every one that can be
selected, and so can the items in each of them. -/
structure Inventory.Countable (inventory : Inventory) : Prop where
  slots : inventory.size + slotCount ≤ word64
  items : ∀ stack, some stack ∈ inventory.slots → stack.count < word32

namespace Inventory

variable {inventory : Inventory}

theorem Countable.get? (countable : inventory.Countable) {slot : Nat} {stack : ItemStack}
    (held : inventory.get? slot = some stack) : stack.count < word32 :=
  countable.items stack (List.mem_of_getElem? (get?_eq_some_iff.mp held))

theorem Countable.put (countable : inventory.Countable) (slot : Nat) {content : Option ItemStack}
    (few : ∀ stack, content = some stack → stack.count < word32) :
    (inventory.put slot content).Countable where
  slots := by
    rw [size_put]
    exact countable.slots
  items stack held := by
    rcases List.mem_or_eq_of_mem_set held with kept | same
    · exact countable.items stack kept
    · exact few stack same.symm

theorem Countable.take (countable : inventory.Countable) (slot count : Nat) :
    (inventory.take slot count).2.Countable := by
  unfold Inventory.take
  split
  · exact countable
  · rename_i stack held
    dsimp only
    split
    · exact countable
    · refine countable.put slot fun rest less => ?_
      unfold ItemStack.less at less
      split at less
      · cases less
        exact Nat.lt_of_le_of_lt (Nat.sub_le _ _) (countable.get? held)
      · cases less

/-- A slot takes items up to the stack limit, or keeps what it had beyond it. -/
theorem Countable.insertInto (countable : inventory.Countable) (slot : Nat) (stack : ItemStack) :
    (inventory.insertInto slot stack).2.Countable := by
  unfold Inventory.insertInto
  split
  · exact countable
  · refine countable.put slot fun filled same => ?_
    cases same
    exact Nat.lt_of_le_of_lt (Nat.min_le_right _ _) (by decide)
  · rename_i held there
    have few := countable.get? (get?_eq_some_iff.mpr there)
    split
    · refine countable.put slot fun filled same => ?_
      cases same
      have limit : stackLimit < word32 := by decide
      dsimp only
      omega
    · exact countable

theorem Countable.handled {after : Inventory} (countable : inventory.Countable)
    (handled : inventory.Handled after) : after.Countable := by
  induction handled with
  | kept => exact countable
  | took _ slot count ih => exact ih.take slot count
  | filled _ slot some ih => exact ih.insertInto slot _

end Inventory

/-- The selected slot is one of those that can be selected, and the inventory has numbers that fit. -/
structure Turtle.Sized (turtle : Turtle) : Prop where
  selected : turtle.selectedSlot < slotCount
  inventory : turtle.inventory.Countable

/-! ### How commands end -/

/-- A command that succeeds or is rejected, and did not break off. -/
inductive Plain : Except Stop (List Json) → Prop where
  | succeeded (payload : List Json) : Plain (.ok payload)
  | rejected (message : String) : Plain (.error (.rejected message))

theorem Action.Relocates.isMovement_of_error {turtle left : Turtle} {memory after : MemoryWorld}
    {world : WorldId} {pos : BlockPos} {stop : Stop}
    (relocates : Relocates turtle memory world pos (.error stop) left after) :
    turtle.animation.kind.isMovement = true := by
  cases relocates with
  | hindered hindered =>
    unfold hindrance at hindered
    grind

theorem Animation.isMovement_of_idle {animation : Animation} (idle : animation.playing = false) :
    animation.kind.isMovement = false := by
  have still : animation.kind = .none := by simpa [playing] using idle
  rw [still]
  rfl

namespace TurtleCommand.Ending

variable {context : Context} {turtle left : Turtle} {memory after : MemoryWorld}
  {command : TurtleCommand} {result : Except Stop (List Json)} {notices : List EquipmentNotice}

/-- Whatever a command does, the numbers of its turtle go on fitting. -/
theorem sized (ending : command.Ending context turtle memory result left after notices)
    (sized : turtle.Sized) : left.Sized where
  inventory := sized.inventory.handled ending.handled
  selected := by
    have begun {between : Turtle} {kind : AnimationKind} (selected : between.selectedSlot < slotCount) :
        (between.beginning kind).2.selectedSlot < slotCount := by
      obtain ⟨animation, same⟩ := between.beginning_turtle kind
      rw [same]
      exact selected
    have relocated {pos : BlockPos} {there : Except Stop Bool} {left : Turtle} {after : MemoryWorld}
        (ended : Action.relocation turtle memory turtle.world pos = (there, left, after)) :
        left.selectedSlot < slotCount := by
      obtain ⟨entity, same⟩ := Action.relocation_turtle ended
      rw [same]
      exact sized.selected
    cases ending with
    | unmoved clear refused => exact relocated refused
    | broken clear stopped => exact relocated stopped
    | moved clear arrived =>
      have there := relocated arrived
      exact begun there
    | selected small => exact small
    | turned direction => exact begun sized.selected
    | dug tool solid free stowed written => exact begun sized.selected
    | placed held placeable written => exact begun sized.selected
    | burnt required more held burns took => exact begun sized.selected
    | transferred small apart took arrived moves => exact begun sized.selected
    | equipped offered stowed => exact begun sized.selected
    | _ => exact sized.selected

/-- A command of an idle turtle whose numbers fit does not break off. -/
theorem plain (ending : command.Ending context turtle memory result left after notices)
    (idle : turtle.animation.playing = false) (sized : turtle.Sized)
    (within : turtle.fuel.level ≤ turtle.fuel.cap) : Plain result := by
  have begun {between : Turtle} {kind : AnimationKind}
      (still : between.animation.playing = false) : Plain (between.beginning kind).1 := by
    rw [between.beginning_of_idle still kind]
    exact .succeeded []
  cases ending with
  | broken clear stopped =>
    have moving := (Action.Relocates.of_eq stopped).isMovement_of_error
    rw [Animation.isMovement_of_idle idle] at moving
    cases moving
  | moved clear arrived =>
    obtain ⟨entity, same⟩ := Action.relocation_turtle arrived
    subst same
    exact begun idle
  | refused other stop cause =>
    rcases cause with ⟨message, same⟩ | beyond
    · rw [same]
      exact .rejected message
    · have selected := sized.selected
      have slots := sized.inventory.slots
      omega
  | overflown taken overflow =>
    obtain ⟨gain, gained⟩ := FuelTank.add_of_within within _
    rw [gained] at overflow
    cases overflow
  | obstructed first => exact .rejected _
  | unmoved clear refused => exact .rejected _
  | returned apart took moves => exact .rejected _
  | detected direction => exact .succeeded _
  | inspected seen some => exact .succeeded _
  | selected small => exact .succeeded _
  | unburnt spared => exact .succeeded _
  | untransferred small nothing => exact .succeeded _
  | unequipped empty free => exact .succeeded _
  | told => exact .succeeded _
  | _ => exact begun idle

end TurtleCommand.Ending

/-! ### Calls that are counted -/

/-- No serial and no removal without a call to spawn, where so many entities have not been removed. -/
structure MemoryWorld.Tallied (memory : MemoryWorld) (remaining : Nat) : Prop where
  serials : memory.lastSerial ≤ memory.spawnCalls
  removals : memory.removeCalls + remaining ≤ memory.spawnCalls

namespace MemoryWorld

variable {memory after : MemoryWorld} {remaining : Nat}

theorem Tallied.of_same (tallied : memory.Tallied remaining)
    (serial : after.lastSerial = memory.lastSerial) (spawns : after.spawnCalls = memory.spawnCalls)
    (removals : after.removeCalls = memory.removeCalls) : after.Tallied remaining where
  serials := by
    rw [serial, spawns]
    exact tallied.serials
  removals := by
    rw [removals, spawns]
    exact tallied.removals

theorem OwnerEdit.tallied {change : MemoryWorld → MemoryWorld} (edit : OwnerEdit change)
    (tallied : memory.Tallied remaining) : (change memory).Tallied remaining := by
  cases edit <;> exact tallied.of_same rfl rfl rfl

theorem Tallied.setBlock (tallied : memory.Tallied remaining) (world : WorldId) (pos : BlockPos)
    (block : Block) : (memory.setBlock world pos block).2.Tallied remaining := by
  unfold MemoryWorld.setBlock
  split
  · exact tallied
  · exact tallied.of_same rfl rfl rfl

theorem Tallied.spawn (tallied : memory.Tallied remaining) {world : WorldId} {pos : BlockPos}
    {template : TurtleSnapshot} {reply : Except WorldError EntityRef}
    (spawned : memory.spawn world pos template = (reply, after)) :
    after.Tallied (remaining + if reply.isOk then 1 else 0) := by
  have serials := tallied.serials
  have removals := tallied.removals
  unfold MemoryWorld.spawn at spawned
  dsimp only at spawned
  split at spawned
  · cases spawned
    exact ⟨Nat.le_succ_of_le serials, Nat.le_succ_of_le removals⟩
  · split at spawned
    · cases spawned
      exact ⟨Nat.le_succ_of_le serials, Nat.le_succ_of_le removals⟩
    · split at spawned
      · cases spawned
        exact ⟨Nat.le_succ_of_le serials, Nat.le_succ_of_le removals⟩
      · cases spawned
        exact ⟨Nat.succ_le_succ serials, Nat.succ_le_succ removals⟩

theorem Tallied.remove (tallied : memory.Tallied (remaining + 1)) (world : WorldId)
    (pos : BlockPos) : (memory.remove world pos).Tallied remaining where
  serials := tallied.serials
  removals := by
    have removals := tallied.removals
    show memory.removeCalls + 1 + remaining ≤ memory.spawnCalls
    omega

end MemoryWorld

/-- A relocation removes as many entities as it makes. -/
theorem Action.Relocates.tallied {turtle left : Turtle} {memory after : MemoryWorld}
    {world : WorldId} {pos : BlockPos} {ending : Except Stop Bool} {remaining : Nat}
    (relocates : Relocates turtle memory world pos ending left after)
    (tallied : memory.Tallied remaining) : after.Tallied remaining := by
  cases relocates with
  | hindered hindered => exact tallied
  | refused clear spawned => exact tallied.spawn spawned
  | discarded clear spawned wrong => exact (tallied.spawn spawned).remove ..
  | replaced clear spawned right => exact (tallied.spawn spawned).remove ..

theorem TurtleCommand.Ending.tallied {context : Context} {turtle left : Turtle}
    {memory after : MemoryWorld} {command : TurtleCommand} {result : Except Stop (List Json)}
    {notices : List EquipmentNotice} {remaining : Nat}
    (ending : command.Ending context turtle memory result left after notices)
    (tallied : memory.Tallied remaining) : after.Tallied remaining := by
  have written {pos : BlockPos} {block : Block} {after : MemoryWorld}
      (wrote : memory.setBlock turtle.world pos block = (.ok (), after)) :
      after.Tallied remaining := by
    have same := tallied.setBlock turtle.world pos block
    rwa [wrote] at same
  cases ending with
  | unmoved clear refused => exact (Action.Relocates.of_eq refused).tallied tallied
  | broken clear stopped => exact (Action.Relocates.of_eq stopped).tallied tallied
  | moved clear arrived => exact (Action.Relocates.of_eq arrived).tallied tallied
  | dug tool solid free stowed wrote => exact written wrote
  | placed held placeable wrote => exact written wrote
  | _ => exact tallied

namespace Stage

variable [WorkMonitor M]

theorem tallied_lastsTicks (remaining : Nat) : LastsTicks fun stage : Stage TurtleCommand M MemoryWorld =>
    stage.world.Tallied remaining where
  paced _ _ _ tallied := tallied
  takeIn _ tallied := tallied
  visit {round} id nanos tallied := by
    rcases task : round.task? id with _ | task
    · rw [round.world_visit task]
      exact tallied
    · obtain ⟨_, _, _, _, _, _, ending⟩ := round.ending_visit task nanos
      exact ending.tallied tallied

/-- The entities that remain are those of the registered turtles. -/
theorem tallied_next {stage : Stage TurtleCommand M MemoryWorld}
    (tallied : stage.world.Tallied stage.fleet.turtleIds.length)
    (deed : Deed TurtleCommand MemoryWorld)
    (edits : ∀ change, deed = .reshape change → MemoryWorld.OwnerEdit change) :
    (stage.next deed).world.Tallied (stage.next deed).fleet.turtleIds.length := by
  have whole := stage.whole_of_memory deed
  have kept (steady : deed.keepsRoster = true)
      (same : (stage.next deed).world.Tallied stage.fleet.turtleIds.length) :
      (stage.next deed).world.Tallied (stage.next deed).fleet.turtleIds.length := by
    rw [stage.turtleIds_next whole steady]
    exact same
  have does := stage.does_next deed whole
  generalize left : stage.next deed = after at does kept ⊢
  cases does with
  | ticked arrivals nanos =>
    exact kept rfl (left ▸ (tallied_lastsTicks _).next tallied arrivals nanos)
  | unspawned absent spawned quiet => exact tallied.spawn (spawn_of_answers spawned)
  | discarded absent spawned foreign removed quiet =>
    rw [world_of_removed removed]
    exact (tallied.spawn (spawn_of_answers spawned)).remove ..
  | @enrolled spec entity world news absent spawned kind quiet =>
    have more := Keyed.length_insert stage.fleet.members spec.turtleId
      { registration := stage.fleet.registrations
        turtle := { Turtle.unplaced spec stage.fleet.settings with entity }, queue := {} }
    rw [absent, Option.isSome_none, if_neg Bool.false_ne_true] at more
    have counted := tallied.spawn (spawn_of_answers spawned)
    rw [Fleet.turtleIds, Keyed.keys, List.length_map] at counted ⊢
    exact more ▸ counted
  | removed found answered quiet =>
    have less := Keyed.length_erase stage.fleet.members (Option.isSome_of_eq_some found)
    rw [Fleet.turtleIds, Keyed.keys, List.length_map] at tallied ⊢
    rw [world_of_removed answered]
    exact (less ▸ tallied).remove ..
  | reshaped change => exact kept rfl ((edits change rfl).tallied tallied)
  | declined silent untimed lasting => exact tallied
  | unremoved missing => exact tallied
  | _ => exact kept rfl tallied

theorem tallied_of_leads {start last : Stage TurtleCommand M MemoryWorld}
    {course : List (Deed TurtleCommand MemoryWorld)}
    (tallied : start.world.Tallied start.fleet.turtleIds.length) (led : start.Leads course last)
    (edits : ∀ change, .reshape change ∈ course → MemoryWorld.OwnerEdit change) :
    last.world.Tallied last.fleet.turtleIds.length := by
  induction led with
  | rest stage => exact tallied
  | @step stage last deed deeds whole later ih =>
    apply ih
    · apply tallied_next tallied
      rintro change rfl
      exact edits change List.mem_cons_self
    · exact fun change listed => edits change (List.mem_cons_of_mem _ listed)

/-! ### Along a course -/

theorem careersKeep_sized (settings : Settings) : CareersKeep M settings Turtle.Sized := by
  intro stage turtle left tasks settled sized career
  cases career with
  | rested equipment animation attached => exact ⟨sized.selected, sized.inventory⟩
  | worked fit idle same ending => exact ending.sized ⟨sized.selected, sized.inventory⟩

/-- Nothing that a turtle carries out breaks off. -/
theorem plain_workIn {stage : Stage TurtleCommand M MemoryWorld} {settings : Settings}
    (fit : stage.Fuelled settings) (sized : stage.Upholds settings Turtle.Sized) {handle : Submitter}
    {deed : Deed TurtleCommand MemoryWorld} {task : Task TurtleCommand}
    (listed : task ∈ workIn handle stage deed) : Plain task.2 := by
  cases deed with
  | tick arrivals nanos =>
    simp only [workIn] at listed
    split at listed
    · obtain ⟨member, served, notices, found, _, still, ending⟩ :=
        Round.ending_visit (Option.mem_toList.mp listed) 0
      have fuelled := (Operation.lasts_reached arrivals nanos (Fuelled.lastsTicks settings) fit
        handle.turtleId).fuelled found
      have fits := (Operation.lasts_reached arrivals nanos
        (Upholds.lastsTicks (careersKeep_sized settings)) sized handle.turtleId).turtles found
      rw [Member.turtle_woken] at ending
      exact ending.plain still ⟨fits.selected, fits.inventory⟩ fuelled.within
    · cases listed
  | _ => cases listed

omit [WorkMonitor M] in
/-- Where no command broke off, a failure that went out is a rejection, or tells of the removal. -/
theorem Chronicle.refusals {stage : Stage TurtleCommand M MemoryWorld} {handle : Submitter}
    {accepted : List TurtleCommand} {tasks : List (Task TurtleCommand)} {published : List Response}
    (chronicle : Chronicle stage handle accepted tasks published)
    (plain : ∀ task ∈ tasks, Plain task.2) {response : Response} (heard : response ∈ published)
    (failed : response.success = false) :
    (∃ entry message, (entry, .error (.rejected message)) ∈ tasks ∧
      response = .failure entry.id message) ∨
    stage.fleet.holder? handle = none ∧ ∃ entry ∈ numbered 0 accepted, response = entry.prevented := by
  have carried (answered : response ∈ tasks.map (·.response)) :
      ∃ entry message, (entry, .error (.rejected message)) ∈ tasks ∧
        response = .failure entry.id message := by
    obtain ⟨⟨entry, result⟩, listed, same⟩ := List.mem_map.mp answered
    have ended : Plain result := plain _ listed
    subst same
    cases ended with
    | succeeded payload => cases failed
    | rejected message => exact ⟨entry, message, listed, rfl⟩
  cases chronicle with
  | inForce held entries answers =>
    left
    apply carried
    rw [← answers]
    exact List.mem_append_left _ heard
  | @ended left gone entries answers =>
    rw [answers] at heard
    rcases List.mem_append.mp heard with answered | prevented
    · exact .inl (carried answered)
    · obtain ⟨entry, waiting, same⟩ := List.mem_map.mp prevented
      refine .inr ⟨gone, entry, ?_, same.symm⟩
      rw [← entries]
      exact List.mem_append_right _ waiting

/-- No command breaks off, whatever inventories the turtles are registered with, as long as their
numbers are words. Along every course no deed breaks off and no registration does as it fills the
tank; the numbers of all turtles stay within their words. Whatever is carried out succeeds or is
rejected, and so every failure that is published is that of a rejected command, or tells of the removal
of the turtle. If the owner of the world leaves the counters alone, they do not run ahead of the calls
to spawn. -/
theorem no_command_breaks_off {start last : Stage TurtleCommand M MemoryWorld}
    {course : List (Deed TurtleCommand MemoryWorld)} (opening : start.Opening)
    (led : start.Leads course last) (fits : start.fleet.settings.maxFuelLimit < word32)
    (words : ∀ spec, .register spec ∈ course → spec.inventory.Countable) :
    (∀ deed : Deed TurtleCommand MemoryWorld, ¬ last.Breaks deed.perform) ∧
    (∀ spec : TurtleSpec, ∃ gain,
      ((FuelTank.forTier spec.tier last.fleet.settings).add spec.fuelLevel).1 = .ok gain) ∧
    (∀ id turtle, last.fleet.turtle? id = some turtle → turtle.Sized ∧
      turtle.fuel.level ≤ turtle.fuel.cap ∧ turtle.fuel.cap < word32) ∧
    (∀ handle,
      (∀ task ∈ start.work handle course, Plain task.2) ∧
      ∀ response ∈ start.published handle course, response.success = false →
        (∃ entry message, (entry, .error (.rejected message)) ∈ start.work handle course ∧
          response = .failure entry.id message) ∨
        last.fleet.holder? handle = none ∧
          ∃ entry ∈ numbered 0 (start.accepted handle course), response = entry.prevented) ∧
    (start.world.Tallied 0 → (∀ change, .reshape change ∈ course → MemoryWorld.OwnerEdit change) →
      last.world.lastSerial ≤ last.world.spawnCalls ∧
      last.world.removeCalls ≤ last.world.spawnCalls) := by
  have booked : start.Booked := .of_leads opening (.rest start)
  have sizes {before : Stage TurtleCommand M MemoryWorld}
      {earlier later : List (Deed TurtleCommand MemoryWorld)} (split : course = earlier ++ later)
      (ledThere : start.Leads earlier before) :
      before.Upholds start.fleet.settings Turtle.Sized := by
    refine (Upholds.of_opening opening).of_leads (careersKeep_sized _) booked ledThere ?_
    intro spec entity listed
    have first : 0 < slotCount := by decide
    exact ⟨first, words spec (split ▸ List.mem_append_left _ listed)⟩
  have plain (handle : Submitter) : ∀ task ∈ start.work handle course, Plain task.2 := by
    intro task listed
    obtain ⟨earlier, deed, later, before, split, ledThere, worked⟩ := mem_collect led listed
    exact plain_workIn (opening.fuelled.of_leads booked ledThere) (sizes split ledThere) worked
  refine ⟨last.whole_of_memory, ?_, ?_, fun handle => ⟨plain handle, ?_⟩, ?_⟩
  · intro spec
    exact FuelTank.add_of_within (Nat.min_le_right _ _) _
  · intro id turtle found
    obtain ⟨member, known, same⟩ := Option.map_eq_some_iff.mp found
    have fuelled := (opening.fuelled.of_leads booked led).fuelled known
    subst same
    refine ⟨(sizes (List.append_nil _).symm led).turtles known, fuelled.within, ?_⟩
    rw [fuelled.cap]
    exact Nat.lt_of_le_of_lt (start.fleet.settings.fuelLimit_le _) fits
  · intro response heard failed
    have chronicle : Chronicle last handle (start.accepted handle course)
        (start.work handle course) (start.published handle course) :=
      .of_leads booked led (.of_opening opening handle) (.of_opening opening handle)
    exact chronicle.refusals (plain handle) heard failed
  · intro tallied edits
    have none : start.fleet.turtleIds.length = 0 := by
      rw [Fleet.turtleIds, opening.members]
      rfl
    have counts := tallied_of_leads (none ▸ tallied) led edits
    exact ⟨counts.serials, Nat.le_trans (Nat.le_add_right _ _) counts.removals⟩

/-- A stone lies below the scout. -/
def oddSite : Stage TurtleCommand WorkBudget MemoryWorld :=
  { Sample.stage with
    world := Sample.stage.world.putBlock "overworld" ⟨0, 63, 0⟩ (.solid "stone") }

/-- A turtle with more coal in a slot than any slot takes. -/
def hoarder : TurtleSpec :=
  { turtleId := "hoarder", world := "overworld", pos := ⟨5, 64, 5⟩, fuelLevel := word32 - 1
    inventory := { slots := [some ⟨"coal", word32 - 1⟩, some ⟨"coal", 63⟩] } }

/-- The scout is to dig without any slot for the stone, and is removed before it equips. -/
def oddCourse : List (Deed TurtleCommand MemoryWorld) :=
  [.register { Sample.scout with inventory := { slots := [] } }, .register hoarder,
    .setUpgrade "scout" .right (some (.tool "diamond_pickaxe")), .submit "scout" (.dig .down none),
    .submit "hoarder" (.transferTo 1 (word32 - 1)), Sample.tick, .submit "scout" (.equip .right),
    .remove "scout"]

theorem no_command_breaks_off_oddCourse :
    let last := oddSite.run oddCourse
    oddSite.Opening ∧ oddSite.Leads oddCourse last ∧
      oddSite.fleet.settings.maxFuelLimit < word32 ∧
      (∀ spec, .register spec ∈ oddCourse → spec.inventory.Countable) ∧
      (oddSite.published ⟨"scout", 0⟩ oddCourse).map (·.message) =
        [some noSpace, some turtleRemoved] ∧
      (∃ entry, (entry, .error (.rejected noSpace)) ∈ oddSite.work ⟨"scout", 0⟩ oddCourse) ∧
      (∃ turtle, last.fleet.turtle? "hoarder" = some turtle ∧
        turtle.inventory.slots = [some ⟨"coal", 64⟩, some ⟨"coal", 64⟩] ∧ turtle.Sized) ∧
      last.world.lastSerial ≤ last.world.spawnCalls := by
  intro last
  have opening : oddSite.Opening := Sample.opening_in _
  have led := leads_run oddSite oddCourse
  have fits : oddSite.fleet.settings.maxFuelLimit < word32 := by decide
  have words : ∀ spec, .register spec ∈ oddCourse → spec.inventory.Countable := by
    intro spec listed
    have which : spec = { Sample.scout with inventory := { slots := [] } } ∨ spec = hoarder := by
      simpa [oddCourse, Sample.tick] using listed
    rcases which with rfl | rfl
    · exact ⟨by decide, fun stack held => by cases held⟩
    · refine ⟨by decide, fun stack held => ?_⟩
      have few : stack.count = word32 - 1 ∨ stack.count = 63 := by
        rcases List.mem_cons.mp held with same | rest
        · cases same
          exact .inl rfl
        · cases List.mem_singleton.mp rest
          exact .inr rfl
      rcases few with same | same <;> rw [same] <;> decide
  obtain ⟨_, _, turtles, failures, counts⟩ := no_command_breaks_off opening led fits words
  have messages : (oddSite.published ⟨"scout", 0⟩ oddCourse).map (·.message) =
      [some noSpace, some turtleRemoved] := by rfl
  obtain ⟨turtle, found, slots⟩ : ∃ turtle, last.fleet.turtle? "hoarder" = some turtle ∧
      turtle.inventory.slots = [some ⟨"coal", 64⟩, some ⟨"coal", 64⟩] := ⟨_, rfl, rfl⟩
  obtain ⟨response, heard, failed, told⟩ : ∃ response ∈ oddSite.published ⟨"scout", 0⟩ oddCourse,
      response.success = false ∧ response.message = some noSpace := ⟨_, .head _, rfl, rfl⟩
  refine ⟨opening, led, fits, words, messages, ?_, ⟨turtle, found, slots, (turtles _ _ found).1⟩,
    (counts ⟨Nat.le_refl _, Nat.le_refl _⟩ (by simp [oddCourse, Sample.tick])).1⟩
  rcases (failures ⟨"scout", 0⟩).2 response heard failed with
    ⟨entry, message, rejected, same⟩ | ⟨_, entry, _, same⟩
  · rw [same] at told
    cases told
    exact ⟨entry, rejected⟩
  · have apart : some turtleRemoved ≠ some noSpace := by decide
    rw [same] at told
    exact (apart told).elim

end Stage

end TurtleFleet
