import TurtleFleet.Proofs.Fate
import TurtleFleet.Proofs.Lodging
import TurtleFleet.Proofs.Memory

/-! Turtles and entities correspond one to one. In a world whose entities are changed by the fleet
only, every registered turtle has the entity that it says it has, and there is no other entity. -/

namespace TurtleFleet

variable {C M : Type}

/-- Turtles and entities correspond one to one: every member has its entity, and every entity is
that of the member it names. -/
structure Housed (members : Keyed (Member C)) (memory : MemoryWorld) : Prop where
  count : memory.entityCount = members.entries.length
  distinct : memory.Distinct
  named : ∀ {id member}, members.get? id = some member → member.turtle.id = id
  housed : ∀ {id member}, members.get? id = some member →
    ∃ record : EntityRecord, record.Houses member.turtle ∧
      memory.entityAt? member.turtle.world member.turtle.pos = some record
  tenanted : ∀ {world pos record}, memory.entityAt? world pos = some record →
    ∃ member, members.get? record.template.turtleId = some member ∧
      member.turtle.world = world ∧ member.turtle.pos = pos

namespace Housed

variable {members : Keyed (Member C)} {memory : MemoryWorld}

/-- No two members live in the same place. -/
theorem apart (housed : Housed members memory) {id other : TurtleId} {member neighbour : Member C}
    (found : members.get? id = some member) (known : members.get? other = some neighbour)
    (world : neighbour.turtle.world = member.turtle.world)
    (pos : neighbour.turtle.pos = member.turtle.pos) : other = id := by
  obtain ⟨record, houses, there⟩ := housed.housed found
  obtain ⟨shared, housesOther, thereOther⟩ := housed.housed known
  rw [world, pos, there] at thereOther
  cases thereOther
  rw [← housed.named known, ← housesOther.template, houses.template, housed.named found]

/-- Only the ids and the entities of the members count, and the entities of the world. -/
theorem of_same (housed : Housed members memory) {others : Keyed (Member C)} {after : MemoryWorld}
    (length : others.entries.length = members.entries.length)
    (same : ∀ id, (others.get? id).map (fun member => (member.turtle.id, member.turtle.entity)) =
      (members.get? id).map fun member => (member.turtle.id, member.turtle.entity))
    (world : memory.SameEntities after) : Housed others after := by
  have before {id : TurtleId} {member : Member C} (found : others.get? id = some member) :
      ∃ old, members.get? id = some old ∧ old.turtle.id = member.turtle.id ∧
        old.turtle.entity = member.turtle.entity := by
    have kept := same id
    rw [found] at kept
    obtain ⟨old, known, equal⟩ := Option.map_eq_some_iff.mp kept.symm
    exact ⟨old, known, (Prod.mk.inj equal).1, (Prod.mk.inj equal).2⟩
  refine { count := ?_, distinct := world.distinct housed.distinct, named := ?_, housed := ?_,
           tenanted := ?_ }
  · rw [world.count, housed.count, length]
  · intro id member found
    obtain ⟨old, known, sameId, entity⟩ := before found
    exact sameId.symm.trans (housed.named known)
  · intro id member found
    obtain ⟨old, known, sameId, entity⟩ := before found
    obtain ⟨record, houses, there⟩ := housed.housed known
    refine ⟨record, ?_, ?_⟩
    · exact { kind := houses.kind, serial := by rw [← entity]; exact houses.serial,
              template := by rw [← sameId]; exact houses.template }
    · rw [world.records, Turtle.world, Turtle.pos, ← entity]
      exact there
  · intro home pos record there
    rw [world.records] at there
    obtain ⟨old, known, settled, placed⟩ := housed.tenanted there
    have kept := same record.template.turtleId
    rw [known] at kept
    obtain ⟨member, found, equal⟩ := Option.map_eq_some_iff.mp kept
    have entity : member.turtle.entity = old.turtle.entity := (Prod.mk.inj equal).2
    refine ⟨member, found, ?_, ?_⟩
    · rw [Turtle.world, entity]
      exact settled
    · rw [Turtle.pos, entity]
      exact placed

theorem sameEntities (housed : Housed members memory) {after : MemoryWorld}
    (world : memory.SameEntities after) : Housed members after :=
  housed.of_same rfl (fun _ => rfl) world

/-- A member whose turtle keeps its id and its entity may be replaced. -/
theorem refit (housed : Housed members memory) {id : TurtleId} {member refitted : Member C}
    (found : members.get? id = some member) (sameId : refitted.turtle.id = member.turtle.id)
    (entity : refitted.turtle.entity = member.turtle.entity) :
    Housed (members.insert id refitted) memory := by
  refine housed.of_same ?_ ?_ (.of_dimensions rfl)
  · simp [Keyed.length_insert, found]
  · intro other
    rw [Keyed.get?_insert]
    by_cases own : other = id
    · subst own
      simp [found, sameId, entity]
    · simp [own]

/-! ### One more turtle, or one less -/

/-- An entity that was made for a new turtle becomes its own. -/
theorem enroll (housed : Housed members memory) {member : Member C} {record : EntityRecord}
    (absent : members.get? member.turtle.id = none) (houses : record.Houses member.turtle)
    {after : MemoryWorld}
    (gains : memory.Gains after member.turtle.world member.turtle.pos record) :
    Housed (members.insert member.turtle.id member) after := by
  refine { count := ?_, distinct := gains.distinct housed.distinct, named := ?_, housed := ?_,
           tenanted := ?_ }
  · rw [gains.count, housed.count, Keyed.length_insert, absent]
    rfl
  · intro id other found
    rw [Keyed.get?_insert] at found
    split at found
    · rename_i own
      cases found
      exact own.symm
    · exact housed.named found
  · intro id other found
    rw [Keyed.get?_insert] at found
    split at found
    · cases found
      exact ⟨record, houses, by rw [gains.records, if_pos ⟨rfl, rfl⟩]⟩
    · obtain ⟨old, housesOld, there⟩ := housed.housed found
      refine ⟨old, housesOld, ?_⟩
      rw [gains.records, if_neg, there]
      rintro ⟨world, pos⟩
      have free := gains.free
      rw [← world, ← pos, there] at free
      cases free
  · intro world pos other there
    rw [gains.records] at there
    split at there
    · rename_i place
      cases there
      refine ⟨member, ?_, place.1.symm, place.2.symm⟩
      rw [houses.template, Keyed.get?_insert_self]
    · obtain ⟨old, known, place⟩ := housed.tenanted there
      refine ⟨old, ?_, place⟩
      rw [Keyed.get?_insert_of_ne, known]
      intro own
      rw [own, absent] at known
      cases known

theorem release (housed : Housed members memory) {id : TurtleId} {member : Member C}
    (found : members.get? id = some member) :
    Housed (members.erase id) (memory.remove member.turtle.world member.turtle.pos) := by
  obtain ⟨record, houses, there⟩ := housed.housed found
  have loses := MemoryWorld.loses_remove housed.distinct there
  have length := members.length_erase (Option.isSome_of_eq_some found)
  refine { count := ?_, distinct := loses.distinct, named := ?_, housed := ?_, tenanted := ?_ }
  · have less := loses.count
    have counted := housed.count
    omega
  · intro other neighbour known
    rw [Keyed.get?_erase] at known
    split at known
    · cases known
    · exact housed.named known
  · intro other neighbour known
    rw [Keyed.get?_erase] at known
    split at known
    · cases known
    · rename_i different
      obtain ⟨old, housesOld, thereOld⟩ := housed.housed known
      refine ⟨old, housesOld, ?_⟩
      rw [loses.records, if_neg, thereOld]
      rintro ⟨world, pos⟩
      exact different (housed.apart found known world pos)
  · intro world pos other thereOther
    rw [loses.records] at thereOther
    split at thereOther
    · cases thereOther
    · rename_i elsewhere
      obtain ⟨old, known, place⟩ := housed.tenanted thereOther
      refine ⟨old, ?_, place⟩
      rw [Keyed.get?_erase, if_neg, known]
      intro own
      rw [own, found] at known
      cases known
      exact elsewhere ⟨place.1.symm, place.2.symm⟩

/-! ### Commands -/

theorem lodged (housed : Housed members memory) {id : TurtleId} {member : Member C}
    (found : members.get? id = some member) (movers : List TurtleId) :
    Scene.Lodged id member.turtle.world member.turtle.attached
      (fun world pos => if world = member.turtle.world ∧ pos = member.turtle.pos then none
        else memory.entityAt? world pos)
      memory.entityCount { turtle := member.turtle, world := memory, otherMovers := movers } := by
  obtain ⟨record, houses, there⟩ := housed.housed found
  refine { named := housed.named found, settled := ⟨rfl, rfl⟩, lodges := ⟨record, houses, ?_, ?_⟩,
           count := rfl, distinct := housed.distinct }
  · exact if_pos ⟨rfl, rfl⟩
  · intro world pos
    by_cases own : world = member.turtle.world ∧ pos = member.turtle.pos
    · rw [if_pos own, own.1, own.2]
      exact there
    · rw [if_neg own, if_neg own]

/-- The scene that a command leaves behind is that of a member whose entity is its own. To the others
it is as if the turtle had left with its old entity and come back with the new one. -/
theorem of_lodged (housed : Housed members memory) {id : TurtleId} {member served : Member C}
    (found : members.get? id = some member) {scene : Scene MemoryWorld}
    (lodged : scene.Lodged id member.turtle.world member.turtle.attached
      (fun world pos => if world = member.turtle.world ∧ pos = member.turtle.pos then none
        else memory.entityAt? world pos) memory.entityCount)
    (turtle : served.turtle = scene.turtle) : Housed (members.insert id served) scene.world := by
  obtain ⟨record, houses, free, records⟩ := lodged.lodges
  obtain ⟨old, housesOld, there⟩ := housed.housed found
  have loses := MemoryWorld.loses_remove housed.distinct there
  have home : scene.turtle.world = member.turtle.world := lodged.settled.1
  rw [← turtle] at houses free records home
  have name : served.turtle.id = id := turtle ▸ lodged.named
  have gains : (memory.remove member.turtle.world member.turtle.pos).Gains scene.world
      served.turtle.world served.turtle.pos record := by
    refine { free := ?_, records := fun world pos => ?_, count := ?_
             distinct := fun _ => lodged.distinct }
    · rw [loses.records, home]
      exact free
    · rw [loses.records, home]
      exact records world pos
    · rw [lodged.count]
      exact loses.count.symm
  have absent : (members.erase id).get? served.turtle.id = none := by
    rw [Keyed.get?_erase, if_pos name]
  refine ((housed.release found).enroll absent houses gains).of_same ?_ ?_ (.of_dimensions rfl)
  · rw [Keyed.length_insert, Keyed.length_insert, absent, found]
    exact (members.length_erase (Option.isSome_of_eq_some found)).symm
  · intro other
    rw [name, Keyed.get?_insert, Keyed.get?_insert, Keyed.get?_erase]
    split <;> rfl

theorem takeIn {fleet : Fleet C M} (housed : Housed fleet.members memory)
    (arrivals : List (Submitter × C)) : Housed (fleet.takeIn arrivals).members memory := by
  refine housed.of_same (fleet.length_takeIn arrivals) (fun id => ?_) (.of_dimensions rfl)
  rw [Fleet.get?_takeIn, Option.map_map]
  rfl

end Housed

/-! ### Whole courses -/

/-- The members of a stage correspond to the entities of its world. -/
def Stage.Housed (stage : Stage C M MemoryWorld) : Prop :=
  TurtleFleet.Housed stage.fleet.members stage.world

namespace Round

theorem housed_wake {round : Round C M MemoryWorld} (housed : round.stage.Housed) {id : TurtleId}
    {member : Member C} (found : round.stage.fleet.members.get? id = some member) :
    (round.wake id member).2.stage.Housed :=
  housed.refit found (member.woken_name id _) (member.woken_entity id _)

variable [WorkMonitor M]

theorem housed_visit {round : Round TurtleCommand M MemoryWorld} (housed : round.stage.Housed)
    (id : TurtleId) (nanos : Nat) : (round.visit id nanos).stage.Housed := by
  have visits := visits_visit round id nanos
  generalize round.visit id nanos = left at visits ⊢
  cases visits with
  | absent missing => exact housed
  | busy found plays => exact housed_wake housed found
  | idle found still empty => exact housed_wake housed found
  | deferred found still waiting denied => exact housed_wake housed found
  | @executed member entry rest monitor found still waiting allowed =>
    have awake := housed_wake housed found
    have known : (round.wake id member).2.stage.fleet.members.get? id =
        some (member.woken id round.stage.fleet.time) := Keyed.get?_insert_self ..
    rcases ran : (Command.execute entry.command round.stage.fleet.context).outcome
      { turtle := (member.woken id round.stage.fleet.time).turtle, world := round.stage.world,
        otherMovers := round.stage.fleet.moversExcept id } with ⟨result, scene⟩
    have left := execute_of_ran ((round.wake id member).2.watched monitor)
      { member.woken id round.stage.fleet.time with queue := { member.queue with entries := rest } }
      (round.moversExcept_wake id member monitor ▸ ran) nanos
    have lodged := awake.lodged known (round.stage.fleet.moversExcept id)
    have kept := (entry.command.steady Scene.Lodged.likeness round.stage.fleet.context).keeps _ lodged
    have ended : (Command.execute entry.command round.stage.fleet.context).outcome
        { turtle := (member.woken id round.stage.fleet.time).turtle
          world := (round.wake id member).2.stage.world
          otherMovers := round.stage.fleet.moversExcept id } = (result, scene) := ran
    rw [show entry.command.execute round.stage.fleet.context =
      Command.execute entry.command round.stage.fleet.context from rfl, ended] at kept
    rw [left]
    exact awake.of_lodged known kept rfl

theorem housed_turns (arrivals : TurtleId → List (Submitter × TurtleCommand))
    (nanos : TurtleId → Nat) {round : Round TurtleCommand M MemoryWorld}
    (housed : round.stage.Housed) (ids : List TurtleId) :
    (ids.foldl (turn arrivals nanos) round).stage.Housed := by
  induction ids generalizing round with
  | nil => exact housed
  | cons id rest ih =>
    have taken : (round.takeIn (arrivals id)).stage.Housed := housed.takeIn (arrivals id)
    exact ih (housed_visit taken id (nanos id))

end Round

namespace Stage

theorem spawns_of_answers {stage : Stage C M MemoryWorld} {id : TurtleId} {world : WorldId}
    {pos : BlockPos} {template : TurtleSnapshot} {reply : Except WorldError EntityRef}
    {after : MemoryWorld} (spawned : stage.Answers id (.spawn world pos template) reply after) :
    stage.world.Spawns world pos template reply after :=
  .of_eq (spawn_of_answers spawned)

/-- A world without entities houses the turtles of a fleet that has none. -/
theorem Opening.housed {stage : Stage C M MemoryWorld} (opening : stage.Opening)
    (deserted : stage.world.entityCount = 0) : stage.Housed := by
  have bare {world : WorldId} {dimension : Dimension}
      (found : stage.world.dimensions.get? world = some dimension) : dimension.entities = [] := by
    have counted := stage.world.entityCount_change world fun dimension =>
      { dimension with entities := [] }
    rw [found, deserted, Option.elim_some, Option.elim_some] at counted
    exact List.eq_nil_of_length_eq_zero (Nat.eq_zero_of_add_eq_zero_left counted)
  refine { count := ?_, distinct := ?_, named := ?_, housed := ?_, tenanted := ?_ }
  · rw [deserted, opening.members]
    rfl
  · intro world dimension found
    rw [bare found]
    exact .nil
  · intro id member found
    rw [opening.members] at found
    cases found
  · intro id member found
    rw [opening.members] at found
    cases found
  · intro world pos record there
    obtain ⟨dimension, found, listed⟩ := Option.bind_eq_some_iff.mp there
    rw [Dimension.entityAt?, bare found] at listed
    cases listed

variable [WorkMonitor M]

/-- The members keep their entities through every deed that leaves the entities to the fleet. -/
theorem housed_next {stage : Stage TurtleCommand M MemoryWorld} (housed : stage.Housed)
    (deed : Deed TurtleCommand MemoryWorld)
    (edits : ∀ change, deed = .reshape change → MemoryWorld.OwnerEdit change) : (stage.next deed).Housed := by
  have does := stage.does_next deed (stage.whole_of_memory deed)
  generalize left : stage.next deed = after at does ⊢
  cases does with
  | declined silent untimed lasting => exact housed
  | unremoved missing => exact housed
  | submitted submitter command => exact housed.takeIn [(submitter, command)]
  | submittedFor command found => exact housed.takeIn [(_, command)]
  | ticked arrivals nanos =>
    obtain ⟨cursor, ended⟩ := stage.next_tick arrivals nanos
    rw [← left, ended]
    exact Round.housed_turns arrivals nanos housed _
  | unspawned absent spawned quiet =>
    cases spawns_of_answers spawned with
    | refused same => exact housed.sameEntities same
  | discarded absent spawned foreign removed quiet =>
    rw [world_of_removed removed]
    cases spawns_of_answers spawned with
    | made gains => exact housed.sameEntities (gains.undone housed.distinct)
  | @enrolled spec entity world news absent spawned kind quiet =>
    cases spawns_of_answers spawned with
    | @made made serial _ gains =>
      let turtle : Turtle := { Turtle.unplaced spec stage.fleet.settings with
        entity := { world := spec.world, pos := spec.pos, kind := made, serial } }
      let member : Member TurtleCommand :=
        { registration := stage.fleet.registrations, turtle, queue := {} }
      have houses : EntityRecord.Houses
          { serial, kind := made, template := (Turtle.unplaced spec stage.fleet.settings).snapshot }
          member.turtle := ⟨kind, rfl, rfl⟩
      have vacant : stage.fleet.members.get? member.turtle.id = none := absent
      exact housed.enroll vacant houses gains
  | upgraded side upgrade found => exact housed.refit found rfl rfl
  | attached found apart => exact housed.refit found rfl rfl
  | detached found joined => exact housed.refit found rfl rfl
  | removed found answered quiet =>
    rw [world_of_removed answered]
    exact housed.release found
  | reshaped change => exact housed.sameEntities ((edits change rfl).sameEntities stage.world)

theorem housed_run {stage : Stage TurtleCommand M MemoryWorld} (housed : stage.Housed)
    {course : List (Deed TurtleCommand MemoryWorld)}
    (edits : ∀ change, .reshape change ∈ course → MemoryWorld.OwnerEdit change) : (stage.run course).Housed := by
  induction course generalizing stage with
  | nil => exact housed
  | cons deed rest ih =>
    refine ih (housed_next housed deed fun change same => edits change (by simp [same])) ?_
    exact fun change listed => edits change (List.mem_cons_of_mem _ listed)

/-- Turtles and entities correspond one to one along every course. There are as many entities as
turtles, every turtle has the entity that it says it has, no two turtles share a place, and every
entity is that of a turtle which is registered and is there. -/
theorem turtles_have_their_entities {start : Stage TurtleCommand M MemoryWorld}
    (opening : start.Opening) (deserted : start.world.entityCount = 0)
    (course : List (Deed TurtleCommand MemoryWorld))
    (edits : ∀ change, .reshape change ∈ course → MemoryWorld.OwnerEdit change) :
    let last := start.run course
    last.world.entityCount = last.fleet.turtleIds.length ∧
    (∀ id turtle, last.fleet.turtle? id = some turtle →
      ∃ record, last.world.entityAt? turtle.world turtle.pos = some record ∧
        record.kind = .turtle ∧ record.serial = turtle.entity.serial ∧
        record.template.turtleId = id) ∧
    (∀ id other first second, last.fleet.turtle? id = some first →
      last.fleet.turtle? other = some second → first.world = second.world →
      first.pos = second.pos → id = other) ∧
    (∀ world pos record, last.world.entityAt? world pos = some record →
      ∃ turtle, last.fleet.turtle? record.template.turtleId = some turtle ∧
        turtle.world = world ∧ turtle.pos = pos) := by
  intro last
  have housed : last.Housed := housed_run (opening.housed deserted) edits
  refine ⟨?_, ?_, ?_, ?_⟩
  · rw [housed.count, Fleet.turtleIds, Keyed.keys, List.length_map]
  · intro id turtle found
    obtain ⟨member, known, same⟩ := Option.map_eq_some_iff.mp found
    obtain ⟨record, houses, there⟩ := housed.housed known
    rw [← same]
    exact ⟨record, there, houses.kind, houses.serial, houses.template.trans (housed.named known)⟩
  · intro id other first second foundFirst foundSecond world pos
    obtain ⟨member, known, rfl⟩ := Option.map_eq_some_iff.mp foundFirst
    obtain ⟨neighbour, knownOther, rfl⟩ := Option.map_eq_some_iff.mp foundSecond
    exact housed.apart knownOther known world pos
  · intro world pos record there
    obtain ⟨member, known, place⟩ := housed.tenanted there
    exact ⟨member.turtle, by rw [Fleet.turtle?, known]; rfl, place⟩

/-- The turtle that is registered behind a discarded entity, and a move that fails at first because
its spawn does. -/
def crowdedCourse : List (Deed TurtleCommand MemoryWorld) :=
  [.register { Sample.scout with fuelLevel := 9 }, .reshape (·.spawnNextAs (.other "pig")),
    .register { Sample.scout with turtleId := "ranger", pos := ⟨0, 65, 0⟩, fuelLevel := 9 },
    .register { Sample.scout with turtleId := "ranger", pos := ⟨0, 65, 0⟩, fuelLevel := 9 },
    .reshape (·.failNextSpawn (.spawnRejected "no room")), .submit "ranger" (.move .up),
    .submit "ranger" (.move .up), .submit "scout" (.move .up), Sample.tick, Sample.tick]

theorem turtles_have_their_entities_crowdedCourse :
    Sample.stage.Opening ∧ Sample.stage.world.entityCount = 0 ∧
      (∀ change, .reshape change ∈ crowdedCourse → MemoryWorld.OwnerEdit change) ∧
      (Sample.stage.run crowdedCourse).fleet.turtleIds = ["ranger", "scout"] ∧
      (Sample.stage.run crowdedCourse).world.entityCount = 2 := by
  have edits : ∀ change, .reshape change ∈ crowdedCourse → MemoryWorld.OwnerEdit change := by
    intro change listed
    simp only [crowdedCourse, Sample.tick, List.mem_cons, reduceCtorEq, Deed.reshape.injEq,
      List.not_mem_nil, or_false, false_or] at listed
    rcases listed with rfl | rfl
    · exact .spawnNextAs _
    · exact .failNextSpawn _
  have ids : (Sample.stage.run crowdedCourse).fleet.turtleIds = ["ranger", "scout"] := by rfl
  have entities := turtles_have_their_entities Sample.opening rfl crowdedCourse edits
  refine ⟨Sample.opening, rfl, edits, ids, ?_⟩
  rw [entities.1, ids]
  rfl

end Stage

end TurtleFleet
