import TurtleFleet.Proofs.Entities

/-! The ground of a world held in memory: the blocks that lie under the entities, and what decides who
may come there. Entities come and go without touching the ground, and writing a block changes it in
one place, which has to be loaded. -/

namespace TurtleFleet.MemoryWorld

/-- The block that lies in a place, entities left aside. Outside of all dimensions there is air. -/
def terrain (memory : MemoryWorld) (world : WorldId) (pos : BlockPos) : Block :=
  ((memory.dimensions.get? world).map (·.terrain pos)).getD .air

/-- An entity hides the block that lies in its place. -/
theorem block_eq_ite (memory : MemoryWorld) (world : WorldId) (pos : BlockPos) :
    memory.block world pos =
      if (memory.entityAt? world pos).isSome then .turtle else memory.terrain world pos := by
  unfold entityAt? terrain block
  cases memory.dimensions.get? world with
  | none => rfl
  | some dimension => rfl

theorem vacant_of_block {memory : MemoryWorld} {world : WorldId} {pos : BlockPos}
    (seen : (memory.block world pos).kind ≠ .turtle) :
    memory.entityAt? world pos = none ∧ memory.terrain world pos = memory.block world pos := by
  rw [block_eq_ite] at seen ⊢
  cases there : memory.entityAt? world pos with
  | none => exact ⟨rfl, rfl⟩
  | some record =>
    rw [there] at seen
    exact (seen rfl).elim

theorem vacant_of_passable {memory : MemoryWorld} {world : WorldId} {pos : BlockPos}
    (passable : (memory.block world pos).isPassable = true) :
    memory.entityAt? world pos = none ∧ memory.terrain world pos = memory.block world pos := by
  apply vacant_of_block
  intro hidden
  simp [Block.isPassable, hidden] at passable

/-- What can be moved through is a passable block that no entity hides. -/
theorem isPassable_block (memory : MemoryWorld) (world : WorldId) (pos : BlockPos) :
    (memory.block world pos).isPassable =
      ((memory.entityAt? world pos).isNone && (memory.terrain world pos).isPassable) := by
  rw [block_eq_ite]
  cases memory.entityAt? world pos <;> rfl

/-- A block is seen as before where neither the entities nor the ground have changed. -/
theorem block_of_same {before after : MemoryWorld} {world : WorldId} {pos : BlockPos}
    (records : after.entityAt? world pos = before.entityAt? world pos)
    (ground : after.terrain world pos = before.terrain world pos) :
    after.block world pos = before.block world pos := by
  rw [block_eq_ite, block_eq_ite, records, ground]

/-- The same places are loaded, in bounds and protected. -/
structure SameGuards (before after : MemoryWorld) : Prop where
  loaded : ∀ world pos, after.isLoaded world pos = before.isLoaded world pos
  bounded : ∀ world pos, after.isInBounds world pos = before.isInBounds world pos
  guarded : ∀ world pos, after.isProtected world pos = before.isProtected world pos

/-- The same blocks lie in all places, and the same guards are set. -/
structure SameGround (before after : MemoryWorld) : Prop where
  terrain : ∀ world pos, after.terrain world pos = before.terrain world pos
  guards : before.SameGuards after

theorem SameGround.of_dimensions {before after : MemoryWorld}
    (same : after.dimensions = before.dimensions) : before.SameGround after where
  terrain _ _ := by rw [MemoryWorld.terrain, same]; rfl
  guards := {
    loaded := fun _ _ => by rw [isLoaded, same]; rfl
    bounded := fun _ _ => by rw [isInBounds, same]; rfl
    guarded := fun _ _ => by rw [MemoryWorld.isProtected, same]; rfl }

theorem SameGround.trans {first second third : MemoryWorld} (same : first.SameGround second)
    (later : second.SameGround third) : first.SameGround third where
  terrain world pos := (later.terrain world pos).trans (same.terrain world pos)
  guards := {
    loaded := fun world pos => (later.guards.loaded world pos).trans (same.guards.loaded world pos)
    bounded := fun world pos =>
      (later.guards.bounded world pos).trans (same.guards.bounded world pos)
    guarded := fun world pos =>
      (later.guards.guarded world pos).trans (same.guards.guarded world pos) }

theorem map_adjust {α : Type} (dimensions : Keyed Dimension) (world : WorldId)
    {f : Dimension → Dimension} (look : Dimension → α)
    (kept : ∀ dimension, look (f dimension) = look dimension) (other : WorldId) :
    ((dimensions.adjust world f).get? other).map look = (dimensions.get? other).map look := by
  rw [Keyed.get?_adjust]
  split
  · rw [Option.map_map]
    congr 1
    funext dimension
    exact kept dimension
  · rfl

variable {memory after : MemoryWorld} {world : WorldId} {pos : BlockPos}

theorem sameGuards_of_adjust {f : Dimension → Dimension}
    (changed : after.dimensions = memory.dimensions.adjust world f)
    (kept : ∀ dimension, (f dimension).loaded = dimension.loaded ∧
      (f dimension).bounds = dimension.bounds ∧
      (f dimension).isProtected = dimension.isProtected) : memory.SameGuards after := by
  have seen (look : Dimension → Bool) (same : ∀ dimension, look (f dimension) = look dimension)
      (other : WorldId) : (after.dimensions.get? other).any look =
        (memory.dimensions.get? other).any look := by
    have mapped := congrArg (·.any id) (map_adjust memory.dimensions world look same other)
    rw [changed]
    simpa [Option.any_map] using mapped
  constructor
  · intro other pos
    refine seen (·.isLoaded pos) (fun dimension => ?_) other
    rw [Dimension.isLoaded, (kept dimension).1]
    rfl
  · exact fun other pos => seen (·.bounds.contains pos)
      (fun dimension => by rw [(kept dimension).2.1]) other
  · exact fun other pos => seen (·.isProtected pos)
      (fun dimension => by rw [(kept dimension).2.2]) other

theorem sameGround_of_adjust {f : Dimension → Dimension}
    (changed : after.dimensions = memory.dimensions.adjust world f)
    (kept : ∀ dimension, f dimension = { dimension with entities := (f dimension).entities }) :
    memory.SameGround after where
  terrain other pos := by
    have same (dimension : Dimension) : (f dimension).terrain pos = dimension.terrain pos := by
      rw [kept]
      rfl
    have mapped := map_adjust memory.dimensions world (·.terrain pos) same other
    rw [MemoryWorld.terrain, MemoryWorld.terrain, changed, mapped]
  guards := sameGuards_of_adjust changed fun dimension => by
    rw [kept]
    exact ⟨rfl, rfl, rfl⟩

theorem sameGround_remove (memory : MemoryWorld) (world : WorldId) (pos : BlockPos) :
    memory.SameGround (memory.remove world pos) :=
  sameGround_of_adjust (f := (·.removeEntity pos)) rfl fun _ => rfl

theorem sameGround_of_spawn {template : TurtleSnapshot} {reply : Except WorldError EntityRef}
    (spawned : memory.spawn world pos template = (reply, after)) : memory.SameGround after := by
  unfold spawn at spawned
  dsimp only at spawned
  split at spawned
  · cases spawned
    exact .of_dimensions rfl
  · split at spawned
    · cases spawned
      exact .of_dimensions rfl
    · split at spawned
      · cases spawned
        exact .of_dimensions rfl
      · cases spawned
        exact sameGround_of_adjust (f := (·.addEntity pos _)) rfl fun _ => rfl

/-- A block that is written changes the ground in one place, which is loaded. -/
structure Writes (before after : MemoryWorld) (world : WorldId) (pos : BlockPos) (block : Block) :
    Prop where
  loaded : before.isLoaded world pos = true
  terrain : ∀ other place, after.terrain other place =
    if other = world ∧ place = pos then block else before.terrain other place
  guards : before.SameGuards after

theorem writes_setBlock {block : Block}
    (written : memory.setBlock world pos block = (.ok (), after)) :
    memory.Writes after world pos block := by
  unfold setBlock loadedDimension at written
  rcases found : memory.dimensions.get? world with _ | dimension
  · rw [found] at written
    cases written
  simp only [found] at written
  by_cases loaded : dimension.isLoaded pos = true
  · rw [if_pos loaded] at written
    cases written
    refine ⟨by simp [isLoaded, found, loaded], fun other place => ?_,
      sameGuards_of_adjust (f := (·.write pos block)) rfl fun _ => ⟨rfl, rfl, rfl⟩⟩
    unfold terrain putBlock change
    rw [Keyed.get?_adjust]
    by_cases same : other = world
    · subst same
      by_cases there : place = pos
      · simp [found, there, Dimension.terrain, Dimension.write]
      · simp [found, there, Dimension.terrain, Dimension.write]
    · simp [same]
  · rw [if_neg loaded] at written
    cases written

/-- A block that is written where no entity is can be seen there, and nowhere else. -/
theorem block_written {block : Block}
    (written : memory.setBlock world pos block = (.ok (), after))
    (vacant : memory.entityAt? world pos = none) (other : WorldId) (place : BlockPos) :
    after.block other place =
      if other = world ∧ place = pos then block else memory.block other place := by
  rw [block_eq_ite, block_eq_ite, (SameEntities.of_setBlock written).records,
    (writes_setBlock written).terrain]
  by_cases target : other = world ∧ place = pos
  · rw [target.1, target.2, vacant]
    rfl
  · rw [if_neg target, if_neg target]

theorem setBlock_of_loaded (loaded : memory.isLoaded world pos = true) (block : Block) :
    memory.setBlock world pos block = (.ok (), memory.putBlock world pos block) := by
  unfold setBlock loadedDimension
  unfold isLoaded at loaded
  cases found : memory.dimensions.get? world with
  | none =>
    rw [found] at loaded
    cases loaded
  | some dimension =>
    rw [found, Option.any_some] at loaded
    simp only [loaded, ↓reduceIte]

end TurtleFleet.MemoryWorld
