import TurtleFleet.Proofs.Ground
import TurtleFleet.Proofs.Seclusion

/-! Restoration: digging undoes placing. The item goes back into the slot from which it came, whatever
else is in the inventory, and the place is air again. What does not come back is the name of the air:
a place that held air of another name holds plain air afterwards. -/

namespace TurtleFleet

/-! ### The item -/

namespace Inventory

/-- An item that was taken out of a stack fits into it again. -/
theorem insertInto_less {inventory : Inventory} {slot : Nat} {stack : ItemStack}
    (held : inventory.get? slot = some stack) (sound : stack.Sound) :
    (inventory.put slot (stack.less 1)).insertInto slot (.single stack.id) = (none, inventory) := by
  have some := sound.some
  have fits := sound.fits
  have content : (inventory.put slot (stack.less 1)).slots[slot]? = Option.some (stack.less 1) :=
    List.getElem?_set_self (lt_size_of_get? held)
  by_cases more : 1 < stack.count
  · have less : stack.less 1 = Option.some { stack with count := stack.count - 1 } := if_pos more
    have same : stack.id = (ItemStack.single stack.id).id := rfl
    have room : min (ItemStack.single stack.id).count (stackLimit - (stack.count - 1)) = 1 := by
      show min 1 _ = 1
      omega
    have whole : stack.count - 1 + 1 = stack.count := by omega
    rw [less] at content ⊢
    simp only [insertInto, content]
    rw [if_pos same, room, whole, put_put, put_of_get? held]
    rfl
  · have less : stack.less 1 = none := if_neg more
    have single : ItemStack.single stack.id = stack := by
      have one : stack.count = 1 := by omega
      rw [ItemStack.single, ← one]
    have room : min stack.count stackLimit = stack.count := by omega
    have nothing : stack.less stack.count = none := if_neg (Nat.lt_irrefl _)
    rw [less] at content ⊢
    simp only [insertInto, content]
    rw [single, room, nothing, put_put, put_of_get? held]

/-- One item taken out of a slot and put away from that slot on goes back into it. -/
theorem insertFrom_take_one {inventory : Inventory} {slot : Nat} {stack : ItemStack}
    (held : inventory.get? slot = some stack) (sound : stack.Sound) (word : slot < word64) :
    (inventory.take slot 1).2.insertFrom slot (.single stack.id) = (.ok none, inventory) := by
  have there := lt_size_of_get? held
  have some := sound.some
  have one : min 1 stack.count = 1 := by omega
  have took : (inventory.take slot 1).2 = inventory.put slot (stack.less 1) := by
    rw [take_of_get? held some (by decide), one]
  obtain ⟨further, size⟩ : ∃ further, inventory.size = further + 1 :=
    ⟨inventory.size - 1, by omega⟩
  rw [took, insertFrom, size_put, size, List.range_succ_eq_map, insertAlong, if_neg (by omega),
    Nat.add_zero, size_put, Nat.mod_eq_of_lt there, insertInto_less held sound]

end Inventory

/-! ### The commands, when they succeed -/

namespace Action.Ends

variable {turtle : Turtle} {memory after : MemoryWorld} {animation : Animation}

theorem writeBlock {world : WorldId} {pos : BlockPos} {block : Block}
    (written : memory.setBlock world pos block = (.ok (), after)) :
    Ends (Action.writeBlock world pos block) turtle memory (.ok ()) turtle after [] := by
  have answered := @Ends.setBlock turtle memory world pos block
  rw [written] at answered
  exact answered.bind (.pure ())

theorem stow {inventory stowed : Inventory} {start : Nat} {stack : ItemStack}
    (fits : inventory.insertFrom start stack = (.ok none, stowed)) :
    Ends (Action.stow inventory start stack) turtle memory (.ok stowed) turtle memory [] := by
  unfold Action.stow
  rw [fits]
  exact bind (.attempt rfl) (.pure stowed)

theorem place {direction : ReachDirection} {stack : ItemStack}
    (held : turtle.inventory.get? turtle.selectedSlot = some stack)
    (placeable : memory.isPlaceable turtle.world (direction.target turtle) = true)
    (written : memory.setBlock turtle.world (direction.target turtle) (.solid stack.id) =
      (.ok (), after))
    (begun : turtle.animation.begin .wait = .ok animation) :
    Ends (Action.place direction) turtle memory (.ok [])
      { turtle with inventory := (turtle.inventory.take turtle.selectedSlot 1).2, animation } after
      [] := by
  refine bind .read ?_
  dsimp only
  rw [held]
  have asked := @Action.Ensures.isPlaceable turtle memory turtle.world (direction.target turtle)
  rw [placeable] at asked
  refine bind asked ?_
  refine bind (writeBlock written) (bind (.modifyTurtle _) ?_)
  have opened := @beginAnimation
    { turtle with inventory := (turtle.inventory.take turtle.selectedSlot 1).2 } after _ _ begun
  exact bind opened (.pure [])

theorem dig {direction : ReachDirection} {wanted : Option Side} {side : Side} {inventory : Inventory}
    (tool : turtle.diggingSide? wanted = some side)
    (solid : (memory.block turtle.world (direction.target turtle)).kind = .solid)
    (free : memory.isProtected turtle.world (direction.target turtle) = false)
    (stowed : turtle.inventory.insertFrom turtle.selectedSlot
      (.single (memory.block turtle.world (direction.target turtle)).id) = (.ok none, inventory))
    (written : memory.setBlock turtle.world (direction.target turtle) .air = (.ok (), after))
    (begun : turtle.animation.begin side.swing = .ok animation) :
    Ends (Action.dig direction wanted) turtle memory (.ok []) { turtle with inventory, animation }
      after [] := by
  refine bind .read ?_
  dsimp only
  rw [tool]
  refine bind (.block _ _) ?_
  have dense : (memory.block turtle.world (direction.target turtle)).isPassable = false := by
    simp [Block.isPassable, solid]
  simp only [dense, solid, reduceCtorEq, or_self, Bool.false_eq_true, ↓reduceIte]
  refine bind (.isProtected _ _) ?_
  rw [free]
  simp only [Bool.false_eq_true, ↓reduceIte]
  refine bind (stow stowed) (bind (writeBlock written) (bind (.modifyTurtle _) ?_))
  have opened := @beginAnimation { turtle with inventory } after _ _ begun
  exact bind opened (.pure [])

end Action.Ends

/-- An animation that is begun takes its full duration, unless it is a short wait. -/
theorem Animation.left_begin {animation : Animation} (still : animation.playing = false)
    (kind : AnimationKind) (some : kind ≠ .none) (long : kind ≠ .shortWait) :
    ∃ begun, animation.begin kind = .ok begun ∧ begun.left = max animation.duration 1 ∧
      begun.duration = animation.duration := by
  refine ⟨{ animation with kind, progress := 0 }, ?_, ?_, rfl⟩
  · rw [begin_of_still still some, start, if_neg long]
  · simp [left, playing, some]

/-- What it takes to place the selected item and to dig it out again. -/
structure Turtle.MayRebuild (turtle : Turtle) (memory : MemoryWorld) (direction : ReachDirection)
    (wanted : Option Side) (stack : ItemStack) : Prop where
  selected : turtle.selectedSlot < word64
  held : turtle.inventory.get? turtle.selectedSlot = some stack
  sound : turtle.inventory.Sound
  /-- The side that is to dig can do so, or else no side is asked for and one of them can. -/
  tool : ∃ side, turtle.canDig side = true ∧ (wanted = some side ∨ wanted = none)
  air : (memory.block turtle.world (direction.target turtle)).isAir = true
  loaded : memory.isLoaded turtle.world (direction.target turtle) = true
  bounded : memory.isInBounds turtle.world (direction.target turtle) = true
  free : memory.isProtected turtle.world (direction.target turtle) = false

/-- The turtle without the item that it has placed. -/
def Turtle.spare (turtle : Turtle) : Turtle :=
  { turtle with inventory := (turtle.inventory.take turtle.selectedSlot 1).2 }

namespace Turtle.MayRebuild

variable {turtle other : Turtle} {memory between : MemoryWorld} {direction : ReachDirection}
  {wanted : Option Side} {stack : ItemStack}

theorem diggingSide (may : turtle.MayRebuild memory direction wanted stack) :
    ∃ hand, turtle.diggingSide? wanted = some hand := by
  obtain ⟨side, able, rfl | rfl⟩ := may.tool
  · exact ⟨side, if_pos able⟩
  · have some : ([Side.right, Side.left].find? turtle.canDig).isSome := by
      rw [List.find?_isSome]
      cases side with
      | left => exact ⟨.left, by simp, able⟩
      | right => exact ⟨.right, by simp, able⟩
    exact Option.isSome_iff_exists.mp some

theorem kind (may : turtle.MayRebuild memory direction wanted stack) :
    (memory.block turtle.world (direction.target turtle)).kind = .air :=
  of_decide_eq_true may.air

theorem vacant (may : turtle.MayRebuild memory direction wanted stack) :
    memory.entityAt? turtle.world (direction.target turtle) = none := by
  refine (MemoryWorld.vacant_of_block ?_).1
  rw [may.kind]
  decide

theorem places (may : turtle.MayRebuild memory direction wanted stack)
    (written : memory.setBlock turtle.world (direction.target turtle) (.solid stack.id) =
      (.ok (), between)) (resembles : turtle.Resembles other)
    (still : other.animation.playing = false) :
    ∃ left, Action.Ends (Action.place direction) other memory (.ok []) left between [] ∧
      turtle.spare.Resembles left ∧ left.animation.left = max turtle.animation.duration 1 := by
  obtain ⟨begun, began, lasting, paced⟩ :=
    Animation.left_begin still .wait (by decide) (by decide)
  obtain ⟨equipment, animation, rfl⟩ := resembles.same
  have placeable : memory.isPlaceable turtle.world (direction.target turtle) = true := by
    simp [MemoryWorld.isPlaceable, may.loaded, may.bounded, may.free, Block.isPassable, may.kind]
  refine ⟨_, .place may.held placeable written began, ⟨⟨_, _, rfl⟩, resembles.upgrades, ?_⟩, ?_⟩
  · exact paced.trans resembles.paced
  · rw [← resembles.paced]
    exact lasting

/-- The block that was placed can be dug out, and the turtle has its item back. -/
theorem digs (may : turtle.MayRebuild memory direction wanted stack)
    (placed : memory.setBlock turtle.world (direction.target turtle) (.solid stack.id) =
      (.ok (), between)) {after : MemoryWorld}
    (written : between.setBlock turtle.world (direction.target turtle) .air = (.ok (), after))
    (resembles : turtle.spare.Resembles other) (still : other.animation.playing = false) :
    ∃ left, Action.Ends (Action.dig direction wanted) other between (.ok []) left after [] ∧
      turtle.Resembles left ∧ left.animation.left = max turtle.animation.duration 1 := by
  obtain ⟨hand, tool⟩ := may.diggingSide
  obtain ⟨begun, began, lasting, paced⟩ := Animation.left_begin still hand.swing
    (by cases hand <;> decide) (by cases hand <;> decide)
  obtain ⟨equipment, animation, rfl⟩ := resembles.same
  have writes := MemoryWorld.writes_setBlock placed
  have block : between.block turtle.world (direction.target turtle) = .solid stack.id := by
    rw [MemoryWorld.block_written placed may.vacant, if_pos ⟨rfl, rfl⟩]
  have solid : (between.block turtle.world (direction.target turtle)).kind = .solid := by
    rw [block]
    rfl
  have free : between.isProtected turtle.world (direction.target turtle) = false :=
    (writes.guards.guarded _ _).trans may.free
  have stowed : turtle.spare.inventory.insertFrom turtle.selectedSlot
      (.single (between.block turtle.world (direction.target turtle)).id) =
        (.ok none, turtle.inventory) := by
    rw [block]
    exact Inventory.insertFrom_take_one may.held (may.sound _ _ may.held) may.selected
  have able : Turtle.diggingSide? { turtle.spare with equipment, animation } wanted = some hand := by
    have same : Turtle.canDig { turtle.spare with equipment, animation } = turtle.canDig := by
      funext side
      exact congrArg (Option.any Upgrade.canDig) (resembles.upgrades side)
    rw [← tool]
    unfold diggingSide?
    rw [same]
  refine ⟨_, .dig able solid free stowed written began, ⟨⟨_, _, rfl⟩, resembles.upgrades, ?_⟩, ?_⟩
  · exact paced.trans resembles.paced
  · have same : turtle.animation.duration = animation.duration := resembles.paced.symm
    rw [same]
    exact lasting

/-- After both, the place is air, and all others look as before. -/
theorem block_after (may : turtle.MayRebuild memory direction wanted stack)
    (placed : memory.setBlock turtle.world (direction.target turtle) (.solid stack.id) =
      (.ok (), between)) {after : MemoryWorld}
    (written : between.setBlock turtle.world (direction.target turtle) .air = (.ok (), after))
    (world : WorldId) (pos : BlockPos) :
    after.block world pos =
      if world = turtle.world ∧ pos = direction.target turtle then .air
      else memory.block world pos := by
  have vacant := ((MemoryWorld.SameEntities.of_setBlock placed).records _ _).trans may.vacant
  rw [MemoryWorld.block_written written vacant, MemoryWorld.block_written placed may.vacant]
  split
  · rfl
  · rfl

end Turtle.MayRebuild

namespace Stage

variable {M : Type} [WorkMonitor M]

/-- A placement and then a dig, with ticks before the second is submitted and after it. -/
def rebuilding (id : TurtleId) (direction : ReachDirection) (wanted : Option Side)
    (first second : List (TurtleId → Nat)) : List (Deed TurtleCommand MemoryWorld) :=
  .submit id (.place direction) :: first.map .quietTick ++
    .submit id (.dig direction wanted) :: second.map .quietTick

/-! ### What is seen of a secluded turtle -/

/-- A secluded turtle is like a given one, in a given world and with a given queue, and what it plays
takes so many ticks more. -/
structure Shows (id : TurtleId) (turtle : Turtle) (memory : MemoryWorld)
    (queue : CommandQueue TurtleCommand) (ticks : Nat) (stage : Stage TurtleCommand M MemoryWorld) :
    Prop where
  secludes : stage.Secludes id
  world : stage.world = memory
  member : ∃ member, stage.fleet.members.get? id = some member ∧ member.queue = queue ∧
    turtle.Resembles member.turtle ∧ member.turtle.animation.left = ticks
  fits : turtle.animation.duration < word32

namespace Shows

variable {id : TurtleId} {turtle : Turtle} {memory : MemoryWorld}
  {queue : CommandQueue TurtleCommand} {ticks : Nat} {stage : Stage TurtleCommand M MemoryWorld}

theorem submit (seen : stage.Shows id turtle memory queue ticks) (command : TurtleCommand) :
    (stage.next (.submit id command)).Shows id turtle memory (queue.submit command).2 ticks := by
  obtain ⟨member, found, rfl, resembles, left⟩ := seen.member
  obtain ⟨taken, world, secludes⟩ := seen.secludes.submit found command
  exact ⟨secludes, world.trans seen.world, ⟨_, taken, rfl, resembles, left⟩, seen.fits⟩

/-- A tick of rest takes one tick away from what plays. -/
theorem rests (seen : stage.Shows id turtle memory queue ticks)
    (waits : 1 < ticks ∨ queue.entries = []) (nanos : TurtleId → Nat) :
    (stage.next (.quietTick nanos)).Shows id turtle memory queue (ticks - 1) ∧
      stage.executedIn [.quietTick nanos] = [] := by
  obtain ⟨member, found, rfl, resembles, rfl⟩ := seen.member
  have left : (member.woken id (cappedAdd stage.fleet.time 1)).turtle.animation.left =
      member.turtle.animation.left - 1 := by
    rw [Member.woken_eq]
    exact Animation.left_tick (resembles.paced ▸ seen.fits)
  have plays : (member.woken id (cappedAdd stage.fleet.time 1)).turtle.animation.playing = true ∨
      member.queue.entries = [] := by
    refine waits.imp_left fun more => Bool.of_not_eq_false fun still => ?_
    rw [← Animation.left_eq_zero_iff, left] at still
    omega
  obtain ⟨woken, world, nothing, secludes⟩ := seen.secludes.rests found nanos plays
  refine ⟨⟨secludes, world.trans seen.world, ⟨_, woken, member.woken_queue id _, ?_, left⟩, seen.fits⟩,
    nothing⟩
  exact resembles.trans (member.resembles_woken id _)

/-- With nothing to do, a turtle rests for any number of ticks. -/
theorem rests_on (seen : stage.Shows id turtle memory queue ticks) (empty : queue.entries = [])
    (later : List (TurtleId → Nat)) :
    (stage.run (later.map .quietTick)).Shows id turtle memory queue (ticks - later.length) ∧
      stage.executedIn (later.map .quietTick) = [] := by
  induction later generalizing stage ticks with
  | nil => exact ⟨seen, rfl⟩
  | cons nanos rest ih =>
    obtain ⟨rested, nothing⟩ := seen.rests (.inr empty) nanos
    obtain ⟨last, nothingLater⟩ := ih rested
    rw [Nat.sub_sub, Nat.add_comm] at last
    refine ⟨last, ?_⟩
    rw [List.map_cons, executedIn_cons, nothing, nothingLater]
    rfl

/-- When nothing plays any more, the next command is run, if it is known how it ends. -/
theorem works (seen : stage.Shows id turtle memory queue ticks) (ready : ticks ≤ 1)
    {entry : QueueEntry TurtleCommand} {rest : List (QueueEntry TurtleCommand)}
    (waiting : queue.entries = entry :: rest) {final : Turtle} {after : MemoryWorld}
    {result : Except Stop (List Json)} {busy : Nat}
    (ends : ∀ other, turtle.Resembles other → other.animation.playing = false →
      ∃ left, (∀ context, Action.Ends (entry.command.execute context) other memory result left after
        []) ∧ final.Resembles left ∧ left.animation.left = busy)
    (fits : final.animation.duration < word32) (nanos : TurtleId → Nat) :
    (stage.next (.quietTick nanos)).Shows id final after { queue with entries := rest } busy ∧
      stage.executedIn [.quietTick nanos] = [Task.record (entry, result) id] := by
  obtain ⟨member, found, rfl, resembles, rfl⟩ := seen.member
  have still : (member.woken id (cappedAdd stage.fleet.time 1)).turtle.animation.playing = false := by
    rw [← Animation.left_eq_zero_iff, Member.woken_eq]
    have left := Animation.left_tick (resembles.paced ▸ seen.fits)
    exact left.trans (by omega)
  obtain ⟨left, ended, same, playing⟩ :=
    ends _ (resembles.trans (member.resembles_woken id _)) still
  have there : ∀ context, Action.Ends (entry.command.execute context)
      (member.woken id (cappedAdd stage.fleet.time 1)).turtle stage.world result left after [] := by
    rw [seen.world]
    exact ended
  obtain ⟨served, known, rfl, queue, world, started, secludes⟩ :=
    seen.secludes.works found nanos still waiting there
  exact ⟨⟨secludes, world, ⟨served, known, queue, same, playing⟩, fits⟩, started⟩

variable {between after : MemoryWorld} {direction : ReachDirection} {wanted : Option Side}
  {stack : ItemStack} {entry : QueueEntry TurtleCommand} {rest : List (QueueEntry TurtleCommand)}

theorem places (seen : stage.Shows id turtle memory queue ticks) (ready : ticks ≤ 1)
    (may : turtle.MayRebuild memory direction wanted stack)
    (placed : memory.setBlock turtle.world (direction.target turtle) (.solid stack.id) =
      (.ok (), between))
    (waiting : queue.entries = entry :: rest) (command : entry.command = .place direction)
    (nanos : TurtleId → Nat) :
    (stage.next (.quietTick nanos)).Shows id turtle.spare between { queue with entries := rest }
        (max turtle.animation.duration 1) ∧
      stage.executedIn [.quietTick nanos] = [Task.record (entry, .ok []) id] := by
  have fits : turtle.spare.animation.duration < word32 := seen.fits
  refine seen.works ready waiting (fun other resembles still => ?_) fits nanos
  obtain ⟨left, ended, same, playing⟩ := may.places placed resembles still
  rw [command]
  exact ⟨left, fun _ => ended, same, playing⟩

/-- As soon as the block has been placed, it is dug out again. -/
theorem digs (seen : stage.Shows id turtle.spare between queue ticks)
    (may : turtle.MayRebuild memory direction wanted stack)
    (placed : memory.setBlock turtle.world (direction.target turtle) (.solid stack.id) =
      (.ok (), between))
    (written : between.setBlock turtle.world (direction.target turtle) .air = (.ok (), after))
    (waiting : queue.entries = [entry]) (command : entry.command = .dig direction wanted)
    (later : List (TurtleId → Nat)) (long : max ticks 1 ≤ later.length) :
    (∃ ticks, (stage.run (later.map .quietTick)).Shows id turtle after
        { queue with entries := [] } ticks) ∧
      stage.executedIn (later.map .quietTick) = [Task.record (entry, .ok []) id] := by
  induction later generalizing stage ticks with
  | nil =>
    rw [List.length_nil] at long
    omega
  | cons nanos rest ih =>
    rw [List.map_cons, executedIn_cons]
    by_cases ready : ticks ≤ 1
    · have fits : turtle.animation.duration < word32 := seen.fits
      have dug := seen.works ready waiting (fun other resembles still => by
        obtain ⟨left, ended, same, playing⟩ := may.digs placed written resembles still
        rw [command]
        exact ⟨left, fun _ => ended, same, playing⟩) fits nanos
      obtain ⟨last, nothing⟩ := dug.1.rests_on rfl rest
      rw [dug.2, nothing]
      exact ⟨⟨_, last⟩, rfl⟩
    · rw [List.length_cons] at long
      obtain ⟨rested, nothing⟩ := seen.rests (.inl (by omega)) nanos
      rw [nothing]
      exact ih rested (by omega)

/-- A block is placed and dug out again, whether the dig is queued up at once or comes in later. -/
theorem rebuilds (seen : stage.Shows id turtle memory queue 0) (empty : queue.entries = [])
    (opened : queue.isOpen = true) (may : turtle.MayRebuild memory direction wanted stack)
    (placed : memory.setBlock turtle.world (direction.target turtle) (.solid stack.id) =
      (.ok (), between))
    (written : between.setBlock turtle.world (direction.target turtle) .air = (.ok (), after))
    {first second : List (TurtleId → Nat)} (last : second ≠ [])
    (long : max turtle.animation.duration 1 < first.length + second.length) :
    (∃ queue ticks, (stage.run (rebuilding id direction wanted first second)).Shows id turtle after
        queue ticks) ∧
      stage.executedIn (rebuilding id direction wanted first second) =
        [{ turtleId := id, id := queue.nextId, command := "place", success := true },
          { turtleId := id, id := min (queue.nextId + 1) (word64 - 1), command := "dig",
            success := true }] := by
  have queued := seen.submit (.place direction)
  rw [rebuilding, List.cons_append, executedIn_cons, executedIn_submit, List.nil_append]
  cases first with
  | nil =>
    obtain ⟨nanos, later, rfl⟩ := List.exists_cons_of_ne_nil last
    have waiting : ((queue.submit (.place direction)).2.submit (.dig direction wanted)).2.entries =
        [{ id := queue.nextId, command := .place direction },
          { id := min (queue.nextId + 1) (word64 - 1), command := .dig direction wanted }] := by
      simp [CommandQueue.submit, opened, empty]
    obtain ⟨built, executed⟩ := (queued.submit (.dig direction wanted)).places (Nat.zero_le 1) may
      placed waiting rfl nanos
    have rest : max (max turtle.animation.duration 1) 1 ≤ later.length := by
      simp only [List.length_nil, List.length_cons] at long
      omega
    obtain ⟨⟨ticks, dug⟩, executedLater⟩ := built.digs may placed written rfl rfl later rest
    rw [List.map_nil, List.nil_append, executedIn_cons, executedIn_submit, List.nil_append,
      List.map_cons, executedIn_cons, executed, executedLater]
    exact ⟨⟨_, ticks, dug⟩, rfl⟩
  | cons nanos rest =>
    have waiting : (queue.submit (.place direction)).2.entries =
        [{ id := queue.nextId, command := .place direction }] := by
      simp [CommandQueue.submit, opened, empty]
    obtain ⟨built, executed⟩ := queued.places (Nat.zero_le 1) may placed waiting rfl nanos
    obtain ⟨rested, nothing⟩ := built.rests_on rfl rest
    have queuedLater := rested.submit (.dig direction wanted)
    have waitingLater : (CommandQueue.submit (C := TurtleCommand)
        { (queue.submit (.place direction)).2 with entries := [] }
        (.dig direction wanted)).2.entries =
          [{ id := min (queue.nextId + 1) (word64 - 1), command := .dig direction wanted }] := by
      simp [CommandQueue.submit, opened]
    have enough : max (max turtle.animation.duration 1 - rest.length) 1 ≤ second.length := by
      have some := List.length_pos_iff.mpr last
      rw [List.length_cons] at long
      omega
    obtain ⟨⟨ticks, dug⟩, executedLater⟩ :=
      queuedLater.digs may placed written waitingLater rfl second enough
    rw [List.map_cons, List.cons_append, executedIn_cons, executed, executedIn_append, nothing,
      executedIn_cons, executedIn_submit, executedLater]
    rw [run, List.foldl_cons, List.foldl_cons, List.foldl_append, List.foldl_cons]
    exact ⟨⟨_, ticks, dug⟩, rfl⟩

end Shows

/-- Digging undoes placing. A turtle that is idle among turtles without commands places an item in a
place that is air, loaded, in bounds and not protected, and then digs in the same direction with a
side that can, or with none named. However many ticks pass before the second command comes in, both
succeed, and afterwards the turtle is as it was, slot by slot, but for its animation and the handles of
its upgrades. All blocks look as before, except that the place is plain air: it looks as before too if
it was plain air. -/
theorem digging_undoes_placing {stage : Stage TurtleCommand M MemoryWorld} {id : TurtleId}
    {member : Member TurtleCommand} {direction : ReachDirection} {wanted : Option Side}
    {stack : ItemStack} (secludes : stage.Secludes id)
    (found : stage.fleet.members.get? id = some member)
    (still : member.turtle.animation.playing = false)
    (fits : member.turtle.animation.duration < word32) (empty : member.queue.entries = [])
    (opened : member.queue.isOpen = true)
    (may : member.turtle.MayRebuild stage.world direction wanted stack)
    {first second : List (TurtleId → Nat)} (last : second ≠ [])
    (long : max member.turtle.animation.duration 1 < first.length + second.length) :
    let course := rebuilding id direction wanted first second
    let after := stage.run course
    stage.Leads course after ∧
    stage.executedIn course =
      [{ turtleId := id, id := member.queue.nextId, command := "place", success := true },
        { turtleId := id, id := min (member.queue.nextId + 1) (word64 - 1), command := "dig",
          success := true }] ∧
    (∃ restored equipment animation, after.fleet.members.get? id = some restored ∧
      restored.turtle = { member.turtle with equipment, animation } ∧
      ∀ side, equipment.get? side = member.turtle.equipment.get? side) ∧
    (∀ world pos, after.world.block world pos =
      if world = member.turtle.world ∧ pos = direction.target member.turtle then .air
      else stage.world.block world pos) ∧
    ((∀ world pos, after.world.block world pos = stage.world.block world pos) ↔
      stage.world.block member.turtle.world (direction.target member.turtle) = .air) := by
  have loaded := MemoryWorld.setBlock_of_loaded may.loaded (.solid stack.id)
  have writes := MemoryWorld.writes_setBlock loaded
  have written := MemoryWorld.setBlock_of_loaded ((writes.guards.loaded _ _).trans may.loaded) .air
  have begun : stage.Shows id member.turtle stage.world member.queue 0 :=
    ⟨secludes, rfl, ⟨member, found, rfl, .refl _, Animation.left_eq_zero_iff.mpr still⟩, fits⟩
  obtain ⟨⟨queue, ticks, shown⟩, executed⟩ := begun.rebuilds empty opened may loaded written last long
  obtain ⟨restored, known, _, ⟨⟨equipment, animation, same⟩, upgrades, _⟩, _⟩ := shown.member
  have blocks := may.block_after loaded written
  rw [← shown.world] at blocks
  refine ⟨leads_run _ _, executed, ⟨restored, equipment, animation, known, same, ?_⟩, blocks, ?_⟩
  · rw [same] at upgrades
    exact upgrades
  · constructor
    · intro unchanged
      rw [← unchanged, blocks, if_pos ⟨rfl, rfl⟩]
    · intro plain world pos
      rw [blocks]
      split
      · rename_i target
        rw [target.1, target.2, plain]
      · rfl

/-- A turtle with one stone and a pickaxe. -/
def gardener : Member TurtleCommand where
  registration := 0
  queue := {}
  turtle := (Turtle.setUpgrade
    { Turtle.unplaced { Sample.scout with inventory := { slots := [none, some ⟨"stone", 1⟩] } }
        Sample.fleet.settings with selectedSlot := 1 }
    .right (some (.tool "diamond_pickaxe")) true).2.1

/-- The turtle alone in its dimension, with a block ahead of it. -/
def garden (block : Block) : Stage TurtleCommand WorkBudget MemoryWorld :=
  { Sample.stage with
    fleet := Sample.fleet.setMember "scout" gardener
    world := Sample.stage.world.putBlock "overworld" ⟨0, 64, -1⟩ block }

theorem garden_secludes (block : Block) : (garden block).Secludes "scout" where
  others other apart member found := by
    have alone : (garden block).fleet.members.get? other = none := by
      show ((Keyed.empty : Keyed (Member TurtleCommand)).insert "scout" gardener).get? other = none
      rw [Keyed.get?_insert, if_neg apart]
      rfl
    rw [alone] at found
    cases found
  willing := WorkBudget.willing_iff.mpr nofun

theorem gardener_mayRebuild (block : Block) (air : block.isAir = true) :
    gardener.turtle.MayRebuild (garden block).world .front none ⟨"stone", 1⟩ where
  selected := by decide
  held := rfl
  sound := by decide
  tool := ⟨.right, rfl, .inr rfl⟩
  air := air
  loaded := rfl
  bounded := rfl
  free := rfl

/-- The stone is placed and dug out again at once. -/
def gardening : List (Deed TurtleCommand MemoryWorld) :=
  rebuilding "scout" .front none [] [fun _ => 0, fun _ => 0, fun _ => 0]

theorem digging_undoes_placing_gardening :
    (garden .air).Secludes "scout" ∧
      (garden .air).fleet.members.get? "scout" = some gardener ∧
      gardener.turtle.MayRebuild (garden .air).world .front none ⟨"stone", 1⟩ ∧
      (garden .air).executedIn gardening =
        [{ turtleId := "scout", id := 1, command := "place", success := true },
          { turtleId := "scout", id := 2, command := "dig", success := true }] ∧
      (∃ restored, ((garden .air).run gardening).fleet.members.get? "scout" = some restored ∧
        restored.turtle.inventory.slots = [none, some ⟨"stone", 1⟩]) ∧
      ∀ world pos, ((garden .air).run gardening).world.block world pos =
        (garden .air).world.block world pos := by
  have secludes := garden_secludes .air
  have found : (garden .air).fleet.members.get? "scout" = some gardener := rfl
  have may := gardener_mayRebuild .air rfl
  obtain ⟨_, executed, ⟨restored, equipment, animation, known, same, _⟩, _, unchanged⟩ :=
    @digging_undoes_placing WorkBudget _ (garden .air) "scout" gardener .front none ⟨"stone", 1⟩
      secludes found rfl (by decide) rfl rfl may [] [fun _ => 0, fun _ => 0, fun _ => 0] (by simp)
      (by decide)
  refine ⟨secludes, found, may, executed, ⟨restored, known, ?_⟩, unchanged.mpr rfl⟩
  rw [same]
  rfl

/-- Air of another name does not come back. -/
theorem digging_leaves_plain_air_gardening :
    (garden { id := "cave_air", kind := .air }).Leads gardening
        ((garden { id := "cave_air", kind := .air }).run gardening) ∧
      gardener.turtle.MayRebuild (garden { id := "cave_air", kind := .air }).world .front none
        ⟨"stone", 1⟩ ∧
      (garden { id := "cave_air", kind := .air }).executedIn gardening =
        [{ turtleId := "scout", id := 1, command := "place", success := true },
          { turtleId := "scout", id := 2, command := "dig", success := true }] ∧
      (garden { id := "cave_air", kind := .air }).world.block "overworld" ⟨0, 64, -1⟩ =
        { id := "cave_air", kind := .air } ∧
      ((garden { id := "cave_air", kind := .air }).run gardening).world.block "overworld" ⟨0, 64, -1⟩ =
        { id := "air", kind := .air } :=
  ⟨leads_run _ _, gardener_mayRebuild _ rfl, by rfl, by rfl, by rfl⟩

end Stage

end TurtleFleet
