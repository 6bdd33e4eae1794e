import TurtleFleet.Proofs.Atomicity
import TurtleFleet.Proofs.Housing

/-! Footing: a registered turtle always stands in the place that it takes for its own, whatever other
entities there are. A command moves the entity of the turtle at work and leaves those of the others
where they are. -/

namespace TurtleFleet

variable {C M : Type}

/-- The entity of the turtle stands in the turtle's place. -/
def Turtle.StandsIn (turtle : Turtle) (memory : MemoryWorld) : Prop :=
  ∃ record : EntityRecord, record.Houses turtle ∧
    memory.entityAt? turtle.world turtle.pos = some record

/-- Entities other than that of a turtle are still there. -/
def Turtle.Spares (turtle : Turtle) (memory after : MemoryWorld) : Prop :=
  ∀ world pos record, memory.entityAt? world pos = some record →
    ¬ (world = turtle.world ∧ pos = turtle.pos) → after.entityAt? world pos = some record

/-- What a command does to the footing of its turtle: the turtle stays what and in which world it is,
stands in its place, and the entities of the others are still there. -/
structure Turtle.Treads (turtle : Turtle) (memory : MemoryWorld) (left : Turtle) (after : MemoryWorld) :
    Prop where
  named : left.id = turtle.id
  home : left.world = turtle.world
  stands : left.StandsIn after
  spares : turtle.Spares memory after

namespace Turtle

variable {turtle left : Turtle} {memory after : MemoryWorld}

/-- Only the id and the entity of the turtle count, and the entities of the world. -/
theorem StandsIn.of_same (stands : turtle.StandsIn memory) (named : left.id = turtle.id)
    (entity : left.entity = turtle.entity) (same : memory.SameEntities after) :
    left.StandsIn after := by
  obtain ⟨record, houses, there⟩ := stands
  refine ⟨record, ?_, ?_⟩
  · exact { kind := houses.kind, serial := by rw [entity]; exact houses.serial,
            template := by rw [named]; exact houses.template }
  · rw [same.records, Turtle.world, Turtle.pos, entity]
    exact there

/-- A turtle that stays in its entity, in a world whose entities stay, keeps its footing. -/
theorem Treads.of_same (stands : turtle.StandsIn memory) (named : left.id = turtle.id)
    (entity : left.entity = turtle.entity) (same : memory.SameEntities after) :
    turtle.Treads memory left after where
  named := named
  home := by rw [Turtle.world, entity, Turtle.world]
  stands := stands.of_same named entity same
  spares world pos record there _ := by rw [same.records, there]

/-- What becomes of the turtle apart from its id and its entity does not matter. -/
theorem Treads.refit (treads : turtle.Treads memory left after) {refitted : Turtle}
    (named : refitted.id = left.id) (entity : refitted.entity = left.entity) :
    turtle.Treads memory refitted after where
  named := named.trans treads.named
  home := by
    rw [Turtle.world, entity]
    exact treads.home
  stands := treads.stands.of_same named entity (.of_dimensions rfl)
  spares := treads.spares

end Turtle

theorem Action.Relocates.treads {turtle left : Turtle} {memory after : MemoryWorld} {pos : BlockPos}
    {ending : Except Stop Bool}
    (relocates : Relocates turtle memory turtle.world pos ending left after)
    (stands : turtle.StandsIn memory) : turtle.Treads memory left after := by
  cases relocates with
  | hindered hindered => exact .of_same stands rfl rfl (.of_dimensions rfl)
  | refused clear spawned =>
    cases MemoryWorld.Spawns.of_eq spawned with
    | refused same => exact .of_same stands rfl rfl same
  | discarded clear spawned wrong =>
    exact .of_same stands rfl rfl
      (.of_dimensions (MemoryWorld.dimensions_remove_of_spawned spawned))
  | @replaced _ between clear spawned right =>
    obtain ⟨away, _⟩ := hindrance_eq_none_iff.mp clear
    have elsewhere : pos ≠ turtle.pos := fun same => away ⟨rfl, same.symm⟩
    cases MemoryWorld.Spawns.of_eq spawned with
    | @made kind serial _ gains =>
      have houses : EntityRecord.Houses { serial, kind, template := turtle.snapshot }
          { turtle with entity := { world := turtle.world, pos, kind, serial } } :=
        ⟨(isTurtleAt_iff.mp right).1, rfl, rfl⟩
      refine { named := rfl, home := rfl, stands := ⟨_, houses, ?_⟩, spares := ?_ }
      · show (between.remove turtle.world turtle.pos).entityAt? turtle.world pos = _
        rw [MemoryWorld.entityAt?_remove, if_neg fun same => elsewhere same.2, gains.records,
          if_pos ⟨rfl, rfl⟩]
      · intro world place record there other
        rw [MemoryWorld.entityAt?_remove, if_neg other, gains.records, if_neg, there]
        -- the new entity was made in a free place
        rintro ⟨rfl, rfl⟩
        rw [gains.free] at there
        cases there

/-- However a command ends, its turtle keeps its footing. -/
theorem TurtleCommand.Ending.treads {context : Context} {turtle left : Turtle}
    {memory after : MemoryWorld} {command : TurtleCommand} {result : Except Stop (List Json)}
    {notices : List EquipmentNotice}
    (ending : command.Ending context turtle memory result left after notices)
    (stands : turtle.StandsIn memory) : turtle.Treads memory left after := by
  have relocated {pos : BlockPos} {there : Except Stop Bool} {left : Turtle} {after : MemoryWorld}
      (ended : Action.relocation turtle memory turtle.world pos = (there, left, after)) :
      turtle.Treads memory left after := by
    exact (Action.Relocates.of_eq ended).treads stands
  have begun {between : Turtle} {after : MemoryWorld} (kind : AnimationKind)
      (treads : turtle.Treads memory between after) :
      turtle.Treads memory (between.beginning kind).2 after := by
    obtain ⟨animation, same⟩ := between.beginning_turtle kind
    rw [same]
    exact treads.refit rfl rfl
  have stays (left : Turtle) {after : MemoryWorld} (named : left.id = turtle.id)
      (entity : left.entity = turtle.entity) (same : memory.SameEntities after) :
      turtle.Treads memory left after := .of_same stands named entity same
  have kept : memory.SameEntities memory := .of_dimensions rfl
  cases ending with
  | obstructed first => exact stays _ rfl rfl kept
  | unmoved clear refused => exact relocated refused
  | broken clear stopped => exact relocated stopped
  | moved clear arrived => exact begun _ ((relocated arrived).refit rfl rfl)
  | turned direction => exact begun _ (stays _ rfl rfl kept)
  | refused other stop => exact stays _ rfl rfl kept
  | dug tool solid free stowed wrote => exact begun _ (stays _ rfl rfl (.of_setBlock wrote))
  | placed held placeable wrote => exact begun _ (stays _ rfl rfl (.of_setBlock wrote))
  | detected direction => exact stays _ rfl rfl kept
  | inspected seen some => exact stays _ rfl rfl kept
  | selected small => exact stays _ rfl rfl kept
  | unburnt idle => exact stays _ rfl rfl kept
  | overflown taken overflow => exact stays _ rfl rfl kept
  | burnt required more held burns taken => exact begun _ (stays _ rfl rfl kept)
  | untransferred small idle => exact stays _ rfl rfl kept
  | returned apart took moves => exact stays _ rfl rfl kept
  | transferred small apart took arrived moves => exact begun _ (stays _ rfl rfl kept)
  | unequipped empty free => exact stays _ rfl rfl kept
  | equipped offered stowed => exact begun _ (stays _ rfl rfl kept)
  | told => exact stays _ rfl rfl kept

/-! ### All turtles of a fleet -/

/-- Every member goes by its name and stands in its place. -/
structure Rooted (members : Keyed (Member C)) (memory : MemoryWorld) : Prop where
  named : ∀ {id member}, members.get? id = some member → member.turtle.id = id
  stands : ∀ {id member}, members.get? id = some member → member.turtle.StandsIn memory

namespace Rooted

variable {members others : Keyed (Member C)} {memory after : MemoryWorld}

theorem of_same (rooted : Rooted members memory)
    (same : ∀ id member, others.get? id = some member → ∃ old, members.get? id = some old ∧
      member.turtle.id = old.turtle.id ∧ member.turtle.entity = old.turtle.entity)
    (world : memory.SameEntities after) : Rooted others after := by
  constructor
  · intro id member found
    obtain ⟨old, known, named, _⟩ := same id member found
    exact named.trans (rooted.named known)
  · intro id member found
    obtain ⟨old, known, named, entity⟩ := same id member found
    exact (rooted.stands known).of_same named entity world

theorem sameEntities (rooted : Rooted members memory) (world : memory.SameEntities after) :
    Rooted members after :=
  rooted.of_same (fun _ member found => ⟨member, found, rfl, rfl⟩) world

/-- No two members stand in the same place. -/
theorem apart (rooted : Rooted members memory) {id other : TurtleId} {member neighbour : Member C}
    (found : members.get? id = some member) (known : members.get? other = some neighbour)
    (different : other ≠ id) :
    ¬ (neighbour.turtle.world = member.turtle.world ∧ neighbour.turtle.pos = member.turtle.pos) := by
  rintro ⟨world, pos⟩
  obtain ⟨record, houses, there⟩ := rooted.stands found
  obtain ⟨shared, housesOther, thereOther⟩ := rooted.stands known
  rw [world, pos, there] at thereOther
  cases thereOther
  apply different
  rw [← rooted.named known, ← housesOther.template, houses.template, rooted.named found]

/-- The neighbours of a turtle at work live elsewhere, so that they keep their entities. -/
theorem tread (rooted : Rooted members memory) {id : TurtleId} {member served : Member C}
    (found : members.get? id = some member)
    (treads : member.turtle.Treads memory served.turtle after) :
    Rooted (members.insert id served) after := by
  constructor
  · intro other neighbour known
    rw [Keyed.get?_insert] at known
    split at known
    · rename_i own
      cases known
      rw [treads.named, own]
      exact rooted.named found
    · exact rooted.named known
  · intro other neighbour known
    rw [Keyed.get?_insert] at known
    split at known
    · cases known
      exact treads.stands
    · rename_i different
      obtain ⟨record, houses, there⟩ := rooted.stands known
      exact ⟨record, houses, treads.spares _ _ _ there (rooted.apart found known different)⟩

/-- A member whose turtle keeps its id and its entity may be replaced. -/
theorem refit (rooted : Rooted members memory) {id : TurtleId} {member refitted : Member C}
    (found : members.get? id = some member) (named : refitted.turtle.id = member.turtle.id)
    (entity : refitted.turtle.entity = member.turtle.entity) :
    Rooted (members.insert id refitted) memory :=
  rooted.tread found (.of_same (rooted.stands found) named entity (.of_dimensions rfl))

theorem takeIn {fleet : Fleet C M} (rooted : Rooted fleet.members memory)
    (arrivals : List (Submitter × C)) : Rooted (fleet.takeIn arrivals).members memory := by
  refine rooted.of_same ?_ (.of_dimensions rfl)
  intro id member found
  rw [Fleet.get?_takeIn] at found
  obtain ⟨old, known, same⟩ := Option.map_eq_some_iff.mp found
  refine ⟨old, known, ?_, ?_⟩
  · rw [← same]
    rfl
  · rw [← same]
    rfl

/-- A new turtle stands where its entity was made, and the place was free. -/
theorem enroll (rooted : Rooted members memory) {member : Member C} {record : EntityRecord}
    (houses : record.Houses member.turtle)
    (gains : memory.Gains after member.turtle.world member.turtle.pos record) :
    Rooted (members.insert member.turtle.id member) after := by
  constructor
  · intro id other found
    rw [Keyed.get?_insert] at found
    split at found
    · rename_i own
      cases found
      exact own.symm
    · exact rooted.named found
  · intro id other found
    rw [Keyed.get?_insert] at found
    split at found
    · cases found
      refine ⟨record, houses, ?_⟩
      rw [gains.records, if_pos ⟨rfl, rfl⟩]
    · obtain ⟨old, housesOld, there⟩ := rooted.stands found
      refine ⟨old, housesOld, ?_⟩
      rw [gains.records, if_neg, there]
      rintro ⟨world, pos⟩
      have free := gains.free
      rw [← world, ← pos, there] at free
      cases free

/-- A turtle leaves, and takes with it just the entity in its place. -/
theorem release (rooted : Rooted members memory) {id : TurtleId} {member : Member C}
    (found : members.get? id = some member) :
    Rooted (members.erase id) (memory.remove member.turtle.world member.turtle.pos) := by
  constructor
  · intro other neighbour known
    rw [Keyed.get?_erase] at known
    split at known
    · cases known
    · exact rooted.named known
  · intro other neighbour known
    rw [Keyed.get?_erase] at known
    split at known
    · cases known
    · rename_i different
      obtain ⟨record, houses, there⟩ := rooted.stands known
      refine ⟨record, houses, ?_⟩
      rw [MemoryWorld.entityAt?_remove, if_neg (rooted.apart found known different), there]

end Rooted

/-! ### Whole courses -/

def Stage.Rooted (stage : Stage C M MemoryWorld) : Prop :=
  TurtleFleet.Rooted stage.fleet.members stage.world

namespace Round

theorem rooted_wake {round : Round C M MemoryWorld} (rooted : round.stage.Rooted) {id : TurtleId}
    {member : Member C} (found : round.stage.fleet.members.get? id = some member) :
    (round.wake id member).2.stage.Rooted :=
  rooted.refit found (member.woken_name id _) (member.woken_entity id _)

variable [WorkMonitor M]

theorem rooted_execute {round : Round TurtleCommand M MemoryWorld} (rooted : round.stage.Rooted)
    {id : TurtleId} {known member : Member TurtleCommand}
    (found : round.stage.fleet.members.get? id = some known) (same : member.turtle = known.turtle)
    (entry : QueueEntry TurtleCommand) (nanos : Nat) :
    (round.execute id member entry nanos).stage.Rooted := by
  obtain ⟨served, notices, foundAfter, ending, _⟩ := round.execute_ends id member entry nanos
  have written : some _ = some served := (Keyed.get?_insert_self ..).symm.trans foundAfter
  cases written
  apply rooted.tread found
  rw [← same]
  apply ending.treads
  rw [same]
  exact rooted.stands found

theorem rooted_visit {round : Round TurtleCommand M MemoryWorld} (rooted : round.stage.Rooted)
    (id : TurtleId) (nanos : Nat) : (round.visit id nanos).stage.Rooted := by
  have visits := visits_visit round id nanos
  generalize round.visit id nanos = left at visits ⊢
  cases visits with
  | absent missing => exact rooted
  | busy found plays => exact rooted_wake rooted found
  | idle found still empty => exact rooted_wake rooted found
  | deferred found still waiting denied => exact rooted_wake rooted found
  | @executed member entry rest monitor found still waiting allowed =>
    have awake : ((round.wake id member).2.watched monitor).stage.Rooted := rooted_wake rooted found
    have known : (round.wake id member).2.stage.fleet.members.get? id =
        some (member.woken id round.stage.fleet.time) := Keyed.get?_insert_self ..
    apply rooted_execute awake known
    rfl

end Round

namespace Stage

/-- A fleet without turtles has none that could be out of place. -/
theorem Opening.rooted {stage : Stage C M MemoryWorld} (opening : stage.Opening) : stage.Rooted := by
  constructor
  · intro id member found
    rw [opening.members] at found
    cases found
  · intro id member found
    rw [opening.members] at found
    cases found

variable [WorkMonitor M]

theorem Rooted.lastsTicks : LastsTicks (Rooted (C := TurtleCommand) (M := M)) where
  paced _ _ _ rooted := rooted
  takeIn arrivals rooted := rooted.takeIn arrivals
  visit id nanos rooted := Round.rooted_visit rooted id nanos

/-- The members stay rooted through every deed that leaves the entities to the fleet. -/
theorem Rooted.next {stage : Stage TurtleCommand M MemoryWorld} (rooted : stage.Rooted)
    (deed : Deed TurtleCommand MemoryWorld)
    (edits : ∀ change, deed = .reshape change → MemoryWorld.OwnerEdit change) :
    (stage.next deed).Rooted := by
  have does := stage.does_next deed (stage.whole_of_memory deed)
  generalize left : stage.next deed = after at does ⊢
  cases does with
  | declined silent untimed lasting => exact rooted
  | unremoved missing => exact rooted
  | submitted submitter command => exact rooted.takeIn [(submitter, command)]
  | submittedFor command found => exact rooted.takeIn [(_, command)]
  | ticked arrivals nanos =>
    rw [← left]
    exact lastsTicks.next rooted arrivals nanos
  | unspawned absent spawned quiet =>
    cases spawns_of_answers spawned with
    | refused same => exact rooted.sameEntities same
  | discarded absent spawned foreign removed quiet =>
    rw [world_of_removed removed]
    have undone := MemoryWorld.dimensions_remove_of_spawned (spawn_of_answers spawned)
    exact rooted.sameEntities (.of_dimensions undone)
  | @enrolled spec entity world news absent spawned kind quiet =>
    cases spawns_of_answers spawned with
    | @made made serial _ gains =>
      let turtle : Turtle := { Turtle.unplaced spec stage.fleet.settings with
        entity := { world := spec.world, pos := spec.pos, kind := made, serial } }
      let member : Member TurtleCommand :=
        { registration := stage.fleet.registrations, turtle, queue := {} }
      have houses : EntityRecord.Houses
          { serial, kind := made, template := (Turtle.unplaced spec stage.fleet.settings).snapshot }
          member.turtle := ⟨kind, rfl, rfl⟩
      exact rooted.enroll houses gains
  | upgraded side upgrade found => exact rooted.refit found rfl rfl
  | attached found apart => exact rooted.refit found rfl rfl
  | detached found joined => exact rooted.refit found rfl rfl
  | removed found answered quiet =>
    rw [world_of_removed answered]
    exact rooted.release found
  | reshaped change => exact rooted.sameEntities ((edits change rfl).sameEntities stage.world)

theorem Rooted.of_leads {stage last : Stage TurtleCommand M MemoryWorld} (rooted : stage.Rooted)
    {course : List (Deed TurtleCommand MemoryWorld)} (led : stage.Leads course last)
    (edits : ∀ change, .reshape change ∈ course → MemoryWorld.OwnerEdit change) : last.Rooted := by
  induction led with
  | rest stage => exact rooted
  | @step stage last deed deeds whole led ih =>
    apply ih
    · apply rooted.next deed
      intro change same
      exact edits change (by simp [same])
    · intro change listed
      exact edits change (List.mem_cons_of_mem _ listed)

end Stage

end TurtleFleet
