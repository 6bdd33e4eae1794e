import TurtleFleet.World.Memory

/-! The entities of a world held in memory: which calls and which edits of its owner leave them
alone, and what a spawn and a removal do to them. A world is seen here as the record at each place
and the number of records in all. -/

namespace TurtleFleet

namespace Dimension

theorem entityAt?_addEntity (dimension : Dimension) (pos other : BlockPos)
    (record : EntityRecord) :
    (dimension.addEntity pos record).entityAt? other =
      if other = pos then some record else dimension.entityAt? other :=
  Keyed.lookup_cons_eq (pos, record) dimension.entities other

theorem entityAt?_removeEntity (dimension : Dimension) (pos other : BlockPos) :
    (dimension.removeEntity pos).entityAt? other =
      if other = pos then none else dimension.entityAt? other :=
  Keyed.lookup_filter_ne dimension.entities pos other

end Dimension

namespace MemoryWorld

/-- No dimension has two entities in one place. -/
def Distinct (memory : MemoryWorld) : Prop :=
  ∀ world dimension, memory.dimensions.get? world = some dimension →
    (dimension.entities.map (·.1)).Nodup

theorem entityAt?_change (memory : MemoryWorld) (world : WorldId) (f : Dimension → Dimension)
    (other : WorldId) (pos : BlockPos) :
    (memory.change world f).entityAt? other pos =
      if other = world then (memory.dimensions.get? world).bind fun dimension =>
        (f dimension).entityAt? pos
      else memory.entityAt? other pos := by
  unfold entityAt? change
  rw [Keyed.get?_adjust]
  by_cases same : other = world
  · subst same
    cases memory.dimensions.get? other <;> simp
  · simp [same]

theorem entityCount_change (memory : MemoryWorld) (world : WorldId) (f : Dimension → Dimension) :
    (memory.change world f).entityCount +
        (memory.dimensions.get? world).elim 0 (fun dimension => dimension.entities.length) =
      memory.entityCount +
        (memory.dimensions.get? world).elim 0 fun dimension => (f dimension).entities.length :=
  memory.dimensions.total_adjust world f fun dimension => dimension.entities.length

theorem Distinct.change {memory : MemoryWorld} (distinct : memory.Distinct) (world : WorldId)
    {f : Dimension → Dimension}
    (kept : ∀ dimension, memory.dimensions.get? world = some dimension →
      ((f dimension).entities.map (·.1)).Nodup) : (memory.change world f).Distinct := by
  intro other dimension found
  rw [MemoryWorld.change, Keyed.get?_adjust] at found
  split at found
  · rename_i same
    subst same
    obtain ⟨before, foundBefore, after⟩ := Option.map_eq_some_iff.mp found
    exact after ▸ kept before foundBefore
  · exact distinct other dimension found

/-! ### What leaves the entities alone -/

/-- The entities of two worlds are the same. -/
structure SameEntities (before after : MemoryWorld) : Prop where
  records : ∀ world pos, after.entityAt? world pos = before.entityAt? world pos
  count : after.entityCount = before.entityCount
  distinct : before.Distinct → after.Distinct

theorem SameEntities.of_dimensions {before after : MemoryWorld}
    (same : after.dimensions = before.dimensions) : before.SameEntities after where
  records world pos := by rw [entityAt?, same]; rfl
  count := by rw [entityCount, same]; rfl
  distinct distinct world dimension found := distinct world dimension (same ▸ found)

theorem SameEntities.change (memory : MemoryWorld) (world : WorldId) {f : Dimension → Dimension}
    (kept : ∀ dimension, (f dimension).entities = dimension.entities) :
    memory.SameEntities (memory.change world f) where
  records other pos := by
    rw [entityAt?_change]
    split
    · rename_i same
      subst same
      unfold MemoryWorld.entityAt? Dimension.entityAt?
      simp only [kept]
    · rfl
  count := by
    have counted := memory.entityCount_change world f
    simp only [kept] at counted
    omega
  distinct distinct := distinct.change world fun dimension found => by
    rw [kept]
    exact distinct world dimension found

/-- The owner of a world may do this with it at any time. -/
inductive OwnerEdit : (MemoryWorld → MemoryWorld) → Prop where
  | addWorld (world : WorldId) (bounds : WorldBounds) : OwnerEdit (·.addWorld world bounds)
  | loadChunk (world : WorldId) (chunk : ChunkPos) : OwnerEdit (·.loadChunk world chunk)
  | unloadChunk (world : WorldId) (chunk : ChunkPos) : OwnerEdit (·.unloadChunk world chunk)
  | putBlock (world : WorldId) (pos : BlockPos) (block : Block) :
      OwnerEdit (·.putBlock world pos block)
  | protect (world : WorldId) (pos : BlockPos) : OwnerEdit (·.protect world pos)
  | failNextSpawn (error : WorldError) : OwnerEdit (·.failNextSpawn error)
  | spawnNextAs (kind : EntityKind) : OwnerEdit (·.spawnNextAs kind)

theorem SameEntities.addWorld (memory : MemoryWorld) (world : WorldId) (bounds : WorldBounds) :
    memory.SameEntities (memory.addWorld world bounds) where
  records other pos := by
    unfold entityAt? MemoryWorld.addWorld
    rw [Keyed.get?_insert]
    split
    · rename_i same
      subst same
      cases memory.dimensions.get? other <;> rfl
    · rfl
  count := by
    have counted := memory.dimensions.total_insert world
      { (memory.dimensions.get? world).getD {} with bounds }
      (fun dimension => dimension.entities.length)
    have same : (memory.dimensions.get? world).elim 0 (fun dimension => dimension.entities.length) =
        ((memory.dimensions.get? world).getD {}).entities.length := by
      cases memory.dimensions.get? world <;> rfl
    rw [same] at counted
    exact Nat.add_right_cancel counted
  distinct distinct := by
    intro other dimension found
    rw [MemoryWorld.addWorld, Keyed.get?_insert] at found
    split at found
    · cases found
      cases old : memory.dimensions.get? world with
      | none => exact .nil
      | some before => exact distinct world before old
    · exact distinct other dimension found

theorem OwnerEdit.sameEntities {change : MemoryWorld → MemoryWorld} (edit : OwnerEdit change)
    (memory : MemoryWorld) : memory.SameEntities (change memory) := by
  cases edit with
  | addWorld world bounds => exact .addWorld memory world bounds
  | loadChunk world chunk => exact .change memory world fun _ => rfl
  | unloadChunk world chunk => exact .change memory world fun _ => rfl
  | putBlock world pos block => exact .change memory world fun _ => rfl
  | protect world pos => exact .change memory world fun _ => rfl
  | failNextSpawn error => exact .of_dimensions rfl
  | spawnNextAs kind => exact .of_dimensions rfl

theorem SameEntities.of_setBlock {memory after : MemoryWorld} {world : WorldId} {pos : BlockPos}
    {block : Block} {answer : Except WorldError Unit}
    (written : memory.setBlock world pos block = (answer, after)) : memory.SameEntities after := by
  unfold MemoryWorld.setBlock at written
  split at written
  · cases written
    exact .of_dimensions rfl
  · cases written
    exact .change memory world fun _ => rfl

/-! ### Spawns and removals -/

/-- A record is added at a place that was free. -/
structure Gains (before after : MemoryWorld) (world : WorldId) (pos : BlockPos)
    (record : EntityRecord) : Prop where
  free : before.entityAt? world pos = none
  records : ∀ other place, after.entityAt? other place =
    if other = world ∧ place = pos then some record else before.entityAt? other place
  count : after.entityCount = before.entityCount + 1
  distinct : before.Distinct → after.Distinct

/-- The record at a place is taken away. -/
structure Loses (before after : MemoryWorld) (world : WorldId) (pos : BlockPos) : Prop where
  records : ∀ other place, after.entityAt? other place =
    if other = world ∧ place = pos then none else before.entityAt? other place
  count : after.entityCount + 1 = before.entityCount
  distinct : after.Distinct

theorem gains_change {memory : MemoryWorld} {world : WorldId} {pos : BlockPos}
    {dimension : Dimension} (found : memory.dimensions.get? world = some dimension)
    (free : dimension.entityAt? pos = none) (record : EntityRecord) :
    memory.Gains (memory.change world (·.addEntity pos record)) world pos record where
  free := by rw [entityAt?, found]; exact free
  records other place := by
    rw [entityAt?_change]
    by_cases same : other = world
    · subst same
      rw [if_pos rfl, entityAt?, found]
      simp [Dimension.entityAt?_addEntity]
    · simp [same]
  count := by
    have counted := memory.entityCount_change world (·.addEntity pos record)
    have more : (dimension.addEntity pos record).entities.length = dimension.entities.length + 1 :=
      rfl
    rw [found, Option.elim_some, Option.elim_some, more] at counted
    omega
  distinct distinct := distinct.change world fun other same => by
    cases found.symm.trans same
    refine List.nodup_cons.mpr ⟨fun member => ?_, distinct world dimension found⟩
    obtain ⟨entry, listed, place⟩ := List.mem_map.mp member
    have apart := List.lookup_eq_none_iff.mp free entry listed
    simp [place] at apart

/-- What a spawn comes to: it is refused, or it makes one entity at a free place. -/
inductive Spawns (memory : MemoryWorld) (world : WorldId) (pos : BlockPos)
    (template : TurtleSnapshot) : Except WorldError EntityRef → MemoryWorld → Prop where
  | refused {cause : WorldError} {after : MemoryWorld} (same : memory.SameEntities after) :
      Spawns memory world pos template (.error cause) after
  | made {kind : EntityKind} {serial : Nat} {after : MemoryWorld}
      (gains : memory.Gains after world pos { serial, kind, template }) :
      Spawns memory world pos template (.ok { world, pos, kind, serial }) after

theorem spawns_spawn (memory : MemoryWorld) (world : WorldId) (pos : BlockPos)
    (template : TurtleSnapshot) :
    Spawns memory world pos template (memory.spawn world pos template).1
      (memory.spawn world pos template).2 := by
  unfold spawn
  cases armed : memory.nextSpawnError with
  | some error => exact .refused (.of_dimensions rfl)
  | none =>
    unfold loadedDimension
    dsimp only
    cases found : memory.dimensions.get? world with
    | none => exact .refused (.of_dimensions rfl)
    | some dimension =>
      dsimp only
      by_cases loaded : dimension.isLoaded pos = true
      · rw [if_pos loaded]
        dsimp only
        by_cases occupied : (dimension.entityAt? pos).isSome = true
        · rw [if_pos occupied]
          exact .refused (.of_dimensions rfl)
        · rw [if_neg occupied]
          have free : dimension.entityAt? pos = none := by simpa using occupied
          have gains := gains_change found free
            { serial := memory.lastSerial + 1, kind := memory.nextSpawnKind.getD .turtle, template }
          exact .made { free := gains.free, records := gains.records, count := gains.count,
                        distinct := gains.distinct }
      · rw [if_neg loaded]
        exact .refused (.of_dimensions rfl)

theorem Spawns.of_eq {memory after : MemoryWorld} {world : WorldId} {pos : BlockPos}
    {template : TurtleSnapshot} {reply : Except WorldError EntityRef}
    (spawned : memory.spawn world pos template = (reply, after)) :
    memory.Spawns world pos template reply after := by
  have spawns := memory.spawns_spawn world pos template
  rwa [spawned] at spawns

theorem entityAt?_remove (memory : MemoryWorld) (world : WorldId) (pos : BlockPos) (other : WorldId)
    (place : BlockPos) :
    (memory.remove world pos).entityAt? other place =
      if other = world ∧ place = pos then none else memory.entityAt? other place := by
  show (memory.change world (·.removeEntity pos)).entityAt? other place = _
  rw [entityAt?_change]
  by_cases same : other = world
  · subst same
    rw [if_pos rfl]
    unfold entityAt?
    rcases memory.dimensions.get? other with _ | dimension
    · simp
    · simp [Dimension.entityAt?_removeEntity]
  · simp [same]

theorem loses_remove {memory : MemoryWorld} (distinct : memory.Distinct) {world : WorldId}
    {pos : BlockPos} {record : EntityRecord} (found : memory.entityAt? world pos = some record) :
    memory.Loses (memory.remove world pos) world pos := by
  obtain ⟨dimension, known, there⟩ := Option.bind_eq_some_iff.mp found
  refine { records := memory.entityAt?_remove world pos, count := ?_, distinct := ?_ }
  · have counted := memory.entityCount_change world (·.removeEntity pos)
    have one := Keyed.length_filter_ne (distinct world dimension known)
      (show (dimension.entityAt? pos).isSome by rw [there]; rfl)
    rw [known, Option.elim_some, Option.elim_some] at counted
    have less : (dimension.removeEntity pos).entities.length + 1 = dimension.entities.length := one
    show (memory.change world (·.removeEntity pos)).entityCount + 1 = _
    omega
  · have left : (memory.change world (·.removeEntity pos)).Distinct := by
      apply distinct.change world
      intro other same
      exact (distinct world other same).sublist (List.filter_sublist.map _)
    exact left

/-- Taking a new record away again leaves the entities as they were. -/
theorem Gains.undone {before after : MemoryWorld} {world : WorldId} {pos : BlockPos}
    {record : EntityRecord} (gains : before.Gains after world pos record)
    (distinct : before.Distinct) : before.SameEntities (after.remove world pos) := by
  have there : after.entityAt? world pos = some record := by
    rw [gains.records, if_pos ⟨rfl, rfl⟩]
  have loses := loses_remove (gains.distinct distinct) there
  refine { records := fun other place => ?_, count := ?_, distinct := fun _ => loses.distinct }
  · rw [loses.records]
    by_cases same : other = world ∧ place = pos
    · rw [if_pos same, same.1, same.2, gains.free]
    · rw [if_neg same, gains.records, if_neg same]
  · have more := gains.count
    have less := loses.count
    omega

end MemoryWorld

end TurtleFleet
