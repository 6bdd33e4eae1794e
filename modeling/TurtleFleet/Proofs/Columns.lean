import TurtleFleet.World.Memory

/-! The columns of the block grid. A chunk holds the sixteen by sixteen places from its corner on, at
every height. Every place lies in the column of just one chunk, below zero and at the ends of the words
too, and what is loaded and unloaded are whole columns. -/

namespace TurtleFleet

/-- A place of the column that begins at a corner, at any height. -/
structure BlockPos.InColumn (pos corner : BlockPos) : Prop where
  x : corner.x.toInt ≤ pos.x.toInt ∧ pos.x.toInt < corner.x.toInt + 16
  z : corner.z.toInt ≤ pos.z.toInt ∧ pos.z.toInt < corner.z.toInt + 16

/-- The places of one column of a dimension are all loaded or all unloaded afterwards, and elsewhere
everything is as before. -/
structure MemoryWorld.SwitchesColumn (before : MemoryWorld) (world : WorldId) (corner : BlockPos)
    (loaded : Bool) (after : MemoryWorld) : Prop where
  within : ∀ pos : BlockPos, pos.InColumn corner → after.isLoaded world pos = loaded
  beyond : ∀ other (pos : BlockPos), ¬ (other = world ∧ pos.InColumn corner) →
    after.isLoaded other pos = before.isLoaded other pos

/-! ### One axis -/

theorem toInt_ofInt_div (coordinate : Int32) :
    (Int32.ofInt (coordinate.toInt / chunkWidth)).toInt = coordinate.toInt / 16 := by
  have low := coordinate.le_toInt
  have high := coordinate.toInt_lt
  exact Int32.toInt_ofInt_of_le (by unfold chunkWidth; omega) (by unfold chunkWidth; omega)

/-- The sixteen numbers around a coordinate all fit the word: its ends are multiples of sixteen. -/
theorem toInt_ofInt_of_near (coordinate : Int32) {number : Int}
    (near : number / 16 = coordinate.toInt / 16) : (Int32.ofInt number).toInt = number := by
  have low := coordinate.le_toInt
  have high := coordinate.toInt_lt
  exact Int32.toInt_ofInt_of_le (by omega) (by omega)

theorem chunkStart_eq_ok_iff {coordinate start : Int32} :
    chunkStart coordinate = .ok start ↔ start.toInt = coordinate.toInt * 16 := by
  have low := start.le_toInt
  have high := start.toInt_lt
  unfold chunkStart chunkWidth signed32
  dsimp only
  split
  · rename_i fits
    have exact : (Int32.ofInt (coordinate.toInt * 16)).toInt = coordinate.toInt * 16 :=
      Int32.toInt_ofInt_of_le (by omega) (by omega)
    rw [Except.ok.injEq, ← Int32.toInt_inj, exact, eq_comm]
  · rename_i beyond
    refine ⟨nofun, fun same => absurd ?_ beyond⟩
    omega

/-! ### Chunks and their corners -/

theorem BlockPos.chunk_eq_iff {pos : BlockPos} {chunk : ChunkPos} :
    pos.chunk = chunk ↔
      chunk.x.toInt = pos.x.toInt / 16 ∧ chunk.z.toInt = pos.z.toInt / 16 := by
  rw [← toInt_ofInt_div pos.x, ← toInt_ofInt_div pos.z, Int32.toInt_inj, Int32.toInt_inj]
  constructor
  · rintro rfl
    exact ⟨rfl, rfl⟩
  · intro ⟨x, z⟩
    cases chunk
    subst x z
    rfl

namespace ChunkPos

variable {chunk : ChunkPos} {y : Int32} {corner : BlockPos}

theorem minBlock_eq_ok_iff :
    chunk.minBlock y = .ok corner ↔
      corner.x.toInt = chunk.x.toInt * 16 ∧ corner.y = y ∧
        corner.z.toInt = chunk.z.toInt * 16 := by
  rw [← chunkStart_eq_ok_iff, ← chunkStart_eq_ok_iff]
  unfold minBlock
  cases chunkStart chunk.x with
  | error fault => simp [bind, Except.bind]
  | ok x =>
    cases chunkStart chunk.z with
    | error fault => simp [bind, Except.bind]
    | ok z =>
      simp only [bind, Except.bind, pure, Except.pure, Except.ok.injEq]
      constructor
      · rintro rfl
        exact ⟨rfl, rfl, rfl⟩
      · rintro ⟨rfl, rfl, rfl⟩
        rfl

theorem chunk_eq_iff_inColumn (starts : chunk.minBlock y = .ok corner) {pos : BlockPos} :
    pos.chunk = chunk ↔ pos.InColumn corner := by
  obtain ⟨x, _, z⟩ := minBlock_eq_ok_iff.mp starts
  rw [BlockPos.chunk_eq_iff]
  constructor
  · rintro ⟨sameX, sameZ⟩
    refine ⟨⟨?_, ?_⟩, ⟨?_, ?_⟩⟩ <;> omega
  · rintro ⟨⟨lowX, highX⟩, ⟨lowZ, highZ⟩⟩
    constructor <;> omega

/-- The chunk of a place has a corner, wherever the place is. -/
theorem exists_minBlock (pos : BlockPos) (y : Int32) :
    ∃ corner, pos.chunk.minBlock y = .ok corner ∧ corner.y = y ∧ pos.InColumn corner := by
  obtain ⟨x, z⟩ := BlockPos.chunk_eq_iff.mp (rfl : pos.chunk = pos.chunk)
  have exact (coordinate : Int32) :
      (Int32.ofInt (coordinate.toInt / 16 * 16)).toInt = coordinate.toInt / 16 * 16 :=
    toInt_ofInt_of_near coordinate (Int.mul_ediv_cancel _ (by decide))
  have starts : pos.chunk.minBlock y = .ok
      ⟨Int32.ofInt (pos.x.toInt / 16 * 16), y, Int32.ofInt (pos.z.toInt / 16 * 16)⟩ := by
    rw [minBlock_eq_ok_iff, x, z]
    exact ⟨exact pos.x, rfl, exact pos.z⟩
  exact ⟨_, starts, rfl, (chunk_eq_iff_inColumn starts).mp rfl⟩

theorem chunk_minBlock (starts : chunk.minBlock y = .ok corner) : corner.chunk = chunk := by
  refine (chunk_eq_iff_inColumn starts).mpr ⟨⟨?_, ?_⟩, ⟨?_, ?_⟩⟩ <;> omega

/-- No column is cut off by the ends of the words. -/
theorem exists_inColumn (starts : chunk.minBlock y = .ok corner) {east south : Int}
    (wide : 0 ≤ east ∧ east < 16) (deep : 0 ≤ south ∧ south < 16) (height : Int32) :
    ∃ pos : BlockPos, pos.x.toInt = corner.x.toInt + east ∧ pos.y = height ∧
      pos.z.toInt = corner.z.toInt + south := by
  obtain ⟨x, _, z⟩ := minBlock_eq_ok_iff.mp starts
  have atX : (Int32.ofInt (corner.x.toInt + east)).toInt = corner.x.toInt + east :=
    toInt_ofInt_of_near corner.x (by omega)
  have atZ : (Int32.ofInt (corner.z.toInt + south)).toInt = corner.z.toInt + south :=
    toInt_ofInt_of_near corner.z (by omega)
  exact ⟨⟨_, height, _⟩, atX, rfl, atZ⟩

theorem chunk_eq_chunk_iff {first second : BlockPos} :
    first.chunk = second.chunk ↔ ∃ (chunk : ChunkPos) (y : Int32) (corner : BlockPos),
      chunk.minBlock y = .ok corner ∧ first.InColumn corner ∧ second.InColumn corner := by
  constructor
  · intro same
    obtain ⟨corner, starts, _, within⟩ := exists_minBlock second 0
    exact ⟨_, _, corner, starts, (chunk_eq_iff_inColumn starts).mp same, within⟩
  · rintro ⟨chunk, y, corner, starts, first, second⟩
    exact ((chunk_eq_iff_inColumn starts).mpr first).trans
      ((chunk_eq_iff_inColumn starts).mpr second).symm

end ChunkPos

/-! ### What is loaded -/

namespace MemoryWorld

theorem isLoaded_setLoaded (memory : MemoryWorld) (world other : WorldId) (chunk : ChunkPos)
    (loaded : Bool) (pos : BlockPos) :
    (memory.change world (·.setLoaded chunk loaded)).isLoaded other pos =
      if other = world ∧ pos.chunk = chunk then (memory.dimensions.get? world).isSome && loaded
      else memory.isLoaded other pos := by
  simp only [isLoaded, change, Keyed.get?_adjust]
  by_cases same : other = world
  · subst same
    cases memory.dimensions.get? other with
    | none => simp
    | some dimension =>
      by_cases within : pos.chunk = chunk <;>
        simp [Dimension.isLoaded, Dimension.setLoaded, within]
  · simp [same]

variable {memory : MemoryWorld} {world : WorldId} {chunk : ChunkPos} {y : Int32} {corner : BlockPos}

theorem isLoaded_congr {first second : BlockPos} (same : first.chunk = second.chunk) :
    memory.isLoaded world first = memory.isLoaded world second := by
  simp only [isLoaded, Dimension.isLoaded, same]

theorem switchesColumn_setLoaded (starts : chunk.minBlock y = .ok corner) {loaded : Bool}
    (known : loaded = true → (memory.dimensions.get? world).isSome) :
    memory.SwitchesColumn world corner loaded
      (memory.change world (·.setLoaded chunk loaded)) where
  within pos inside := by
    rw [isLoaded_setLoaded, if_pos ⟨rfl, (ChunkPos.chunk_eq_iff_inColumn starts).mpr inside⟩]
    cases loaded with
    | false => exact Bool.and_false _
    | true => rw [known rfl, Bool.and_true]
  beyond other pos outside := by
    rw [isLoaded_setLoaded, if_neg]
    rwa [ChunkPos.chunk_eq_iff_inColumn starts]

/-- Two places that are loaded together in every world lie in one column: in the world in which just
the chunk of the first is loaded, the second is loaded too. -/
theorem chunk_eq_of_isLoaded {first second : BlockPos}
    (same : ∀ memory : MemoryWorld, memory.isLoaded world first = memory.isLoaded world second) :
    first.chunk = second.chunk := by
  let bare : MemoryWorld := addWorld {} world {}
  have alike := same (bare.loadChunk world first.chunk)
  have empty (pos : BlockPos) : bare.isLoaded world pos = false := by
    simp [bare, isLoaded, addWorld, Keyed.get?_insert_self, Dimension.isLoaded]
  have known : (bare.dimensions.get? world).isSome = true := by
    simp [bare, addWorld, Keyed.get?_insert_self]
  simp only [loadChunk, isLoaded_setLoaded, empty, known] at alike
  simpa [eq_comm] using alike

end MemoryWorld

namespace ChunkPos

/-- Every place lies in the column of its chunk, of which the corner fits the words. The column of a
chunk with such a corner is the chunk of all its places and of no others, and it has all its places.
Two places are always loaded together just if they lie in one column, and columns are loaded and
unloaded as a whole and one at a time. -/
theorem chunks_partition_the_grid :
    (∀ (pos : BlockPos) (y : Int32), ∃ corner,
      pos.chunk.minBlock y = .ok corner ∧ corner.y = y ∧ pos.InColumn corner) ∧
      (∀ (chunk : ChunkPos) (y : Int32) (corner : BlockPos), chunk.minBlock y = .ok corner →
        corner.chunk = chunk ∧ (∀ pos : BlockPos, pos.chunk = chunk ↔ pos.InColumn corner) ∧
          ∀ east south height, 0 ≤ east ∧ east < 16 → 0 ≤ south ∧ south < 16 →
            ∃ pos : BlockPos, pos.x.toInt = corner.x.toInt + east ∧ pos.y = height ∧
              pos.z.toInt = corner.z.toInt + south) ∧
      (∀ world (first second : BlockPos),
        (∀ memory : MemoryWorld, memory.isLoaded world first = memory.isLoaded world second) ↔
          ∃ (chunk : ChunkPos) (y : Int32) (corner : BlockPos),
            chunk.minBlock y = .ok corner ∧ first.InColumn corner ∧ second.InColumn corner) ∧
      ∀ (memory : MemoryWorld) world (chunk : ChunkPos) (y : Int32) (corner : BlockPos),
        chunk.minBlock y = .ok corner →
          memory.SwitchesColumn world corner false (memory.unloadChunk world chunk) ∧
            ((memory.dimensions.get? world).isSome →
              memory.SwitchesColumn world corner true (memory.loadChunk world chunk)) := by
  refine ⟨exists_minBlock, fun chunk y corner starts => ⟨chunk_minBlock starts, fun pos => ?_, ?_⟩,
    fun world first second => ?_, fun memory world chunk y corner starts => ⟨?_, fun known => ?_⟩⟩
  · exact chunk_eq_iff_inColumn starts
  · intro east south height wide deep
    exact exists_inColumn starts wide deep height
  · rw [← chunk_eq_chunk_iff]
    exact ⟨MemoryWorld.chunk_eq_of_isLoaded, fun same memory => MemoryWorld.isLoaded_congr same⟩
  · exact MemoryWorld.switchesColumn_setLoaded starts nofun
  · exact MemoryWorld.switchesColumn_setLoaded starts fun _ => known

/-- The chunk at the lowest end of one axis and at the highest end of the other. -/
theorem chunks_partition_the_grid_landsEnd :
    minBlock ⟨-134217728, 134217727⟩ 64 = .ok ⟨-2147483648, 64, 2147483632⟩ ∧
      (∀ pos : BlockPos, pos.chunk = ⟨-134217728, 134217727⟩ ↔
        pos.InColumn ⟨-2147483648, 64, 2147483632⟩) ∧
      (∃ pos : BlockPos, pos.x.toInt = -2147483633 ∧ pos.y = 64 ∧ pos.z.toInt = 2147483647) ∧
      (MemoryWorld.addWorld {} "overworld" {}).SwitchesColumn "overworld"
        ⟨-2147483648, 64, 2147483632⟩ true
        ((MemoryWorld.addWorld {} "overworld" {}).loadChunk "overworld" ⟨-134217728, 134217727⟩) := by
  have starts : minBlock ⟨-134217728, 134217727⟩ 64 = .ok ⟨-2147483648, 64, 2147483632⟩ := rfl
  obtain ⟨_, each, _, loads⟩ := chunks_partition_the_grid
  obtain ⟨_, holds, full⟩ := each _ _ _ starts
  exact ⟨starts, holds, full 15 15 64 (by decide) (by decide),
    (loads (.addWorld {} "overworld" {}) "overworld" _ _ _ starts).2 rfl⟩

end ChunkPos

end TurtleFleet
