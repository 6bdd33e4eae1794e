import TurtleFleet.Proofs.Mirror
import TurtleFleet.Proofs.Responses

/-! Scheduling never changes results. What a turtle answers in a fleet, where ticks, animations, a
work monitor and other turtles come between its commands, is what it would answer if it ran them one
after another alone in its dimension. -/

namespace TurtleFleet

/-! ### The reference -/

/-- The turtle when nothing plays. -/
def Turtle.atRest (turtle : Turtle) : Turtle :=
  { turtle with animation := turtle.animation.reset }

/-- The world that consists of one dimension of another. -/
def MemoryWorld.only (memory : MemoryWorld) (world : WorldId) : MemoryWorld :=
  match memory.dimensions.get? world with
  | some dimension => { dimensions := Keyed.empty.insert world dimension }
  | none => {}

/-- A turtle alone in its dimension. -/
structure Solo where
  turtle : Turtle
  world : MemoryWorld

namespace Solo

def of (turtle : Turtle) (memory : MemoryWorld) : Solo :=
  { turtle, world := memory.only turtle.world }

/-- Runs a command; no animation outlasts it. -/
def execute (context : Context) (solo : Solo) (command : TurtleCommand) :
    Except Stop (List Json) × Solo :=
  let (result, scene) := (command.execute context).outcome
    { turtle := solo.turtle, world := solo.world }
  (result, { turtle := scene.turtle.atRest, world := scene.world })

/-- The responses to commands that run one after another, after so many others. -/
def responses (context : Context) : Solo → Nat → List TurtleCommand → List Response
  | _, _, [] => []
  | solo, earlier, command :: rest =>
    let (result, next) := solo.execute context command
    Response.ofResult (submissionNumber earlier) result :: responses context next (earlier + 1) rest

/-- The turtle and its dimension after some commands. -/
def after (context : Context) (solo : Solo) (commands : List TurtleCommand) : Solo :=
  commands.foldl (fun solo command => (solo.execute context command).2) solo

theorem after_append (context : Context) (solo : Solo) (first second : List TurtleCommand) :
    solo.after context (first ++ second) = (solo.after context first).after context second :=
  List.foldl_append

theorem responses_append (context : Context) (solo : Solo) (earlier : Nat)
    (first second : List TurtleCommand) :
    solo.responses context earlier (first ++ second) =
      solo.responses context earlier first ++
        (solo.after context first).responses context (earlier + first.length) second := by
  induction first generalizing solo earlier with
  | nil => rfl
  | cons command rest ih =>
    have later := ih (solo.execute context command).2 (earlier + 1)
    rw [Nat.add_right_comm, Nat.add_assoc] at later
    exact congrArg (_ :: ·) later

end Solo

theorem MemoryWorld.view?_only (memory : MemoryWorld) (world : WorldId) :
    (memory.only world).view? world = memory.view? world := by
  unfold only view?
  cases found : memory.dimensions.get? world with
  | none => rfl
  | some dimension => rw [Keyed.get?_insert_self]

theorem TurtleCommand.execute_congr {first second : Context}
    (settings : first.settings = second.settings) (catalog : first.catalog = second.catalog)
    (command : TurtleCommand) :
    (command.execute first : Action MemoryWorld (List Json)) = command.execute second := by
  cases command <;> simp only [execute, settings, catalog]

/-! ### Between the commands -/

theorem Equipment.update_of_fresh {equipment : Equipment}
    (fresh : ∀ side, (equipment.mount side).stale = false) (turtle : TurtleId) (time : Nat)
    (attached : Bool) : (equipment.update turtle time attached).1 = equipment := by
  simp [update, updateSide, fresh]

namespace Animation

theorem reset_tick (animation : Animation) : animation.tick.2.reset = animation.reset := by
  unfold tick
  split
  · rfl
  · dsimp only
    split <;> rfl

theorem still_tick {animation : Animation}
    (still : animation.playing = false → animation = animation.reset)
    (ended : animation.tick.2.playing = false) : animation.tick.2 = animation.tick.2.reset := by
  unfold tick at ended ⊢
  cases plays : animation.playing with
  | false => simpa [plays] using still plays
  | true =>
    simp only [plays, Bool.not_true, Bool.false_eq_true, ↓reduceIte] at ended ⊢
    split
    · rfl
    · rename_i goesOn
      rw [if_neg goesOn] at ended
      exact absurd plays (by simpa [playing] using ended)

end Animation

namespace Turtle

theorem Neat.woken {turtle : Turtle} (neat : turtle.Neat) (id : TurtleId) (time : Nat) :
    (turtle.equipment.update id time turtle.attached).1 = turtle.equipment ∧
      Neat { turtle with animation := turtle.animation.tick.2 } ∧
      atRest { turtle with animation := turtle.animation.tick.2 } = turtle.atRest := by
  refine ⟨Equipment.update_of_fresh neat.fresh _ _ _, ?_, ?_⟩
  · exact { attached := neat.attached, fresh := neat.fresh, still := Animation.still_tick neat.still }
  · unfold atRest
    rw [Animation.reset_tick]

theorem Neat.atRest_eq {turtle : Turtle} (neat : turtle.Neat)
    (idle : turtle.animation.playing = false) : turtle.atRest = turtle := by
  unfold atRest
  rw [← neat.still idle]

end Turtle

/-! ### One turtle of the fleet beside its reference -/

/-- A member answers as the turtle would alone. The commands that ran are those of which the
reference made the responses that went out or are held, and both stand in the same state. -/
structure Follows (context : Context) (alone : Solo) (ran waiting : List TurtleCommand)
    (member : Member TurtleCommand) (memory : MemoryWorld) (published : List Response) : Prop where
  ledger : Ledger member ran waiting published
  answered : published ++ member.pending.toList = alone.responses context 0 ran
  neat : member.turtle.Neat
  settled : member.turtle.world = alone.turtle.world
  reborn : ∃ serial, (alone.after context ran).turtle = member.turtle.atRest.reborn serial
  world : memory.Mirrors alone.turtle.world (alone.after context ran).world

namespace Follows

variable {context : Context} {alone : Solo} {ran waiting : List TurtleCommand}
  {member : Member TurtleCommand} {memory : MemoryWorld} {published : List Response}

/-- Before any command runs, the reference starts from the same state. -/
theorem start (context : Context) (ledger : Ledger member [] waiting [])
    (idle : member.turtle.animation.playing = false) (neat : member.turtle.Neat)
    (unarmed : memory.Unarmed) :
    Follows context (.of member.turtle memory) [] waiting member memory [] := by
  have free : member.pending = none := by
    simpa [idle] using ledger.animated
  refine { ledger, answered := by rw [free]; rfl, neat, settled := rfl,
           reborn := ⟨member.turtle.entity.serial, ?_⟩, world := ⟨?_, unarmed, ?_⟩ }
  · rw [neat.atRest_eq idle]
    rfl
  · exact (memory.view?_only member.turtle.world).symm
  · show (memory.only member.turtle.world).Unarmed
    unfold MemoryWorld.only
    split <;> exact ⟨rfl, rfl⟩

theorem takeIn (follows : Follows context alone ran waiting member memory published)
    (commands : List TurtleCommand) :
    Follows context alone ran (waiting ++ commands) (member.takeIn commands) memory published :=
  { follows with ledger := follows.ledger.takeIn commands }

theorem elsewhere (follows : Follows context alone ran waiting member memory published)
    {left : MemoryWorld} (unarmed : left.Unarmed)
    (same : left.dimensions.get? alone.turtle.world = memory.dimensions.get? alone.turtle.world) :
    Follows context alone ran waiting member left published := by
  refine { follows with world := ⟨?_, unarmed, follows.world.unarmedToo⟩ }
  rw [MemoryWorld.view?, same]
  exact follows.world.view

theorem woken (follows : Follows context alone ran waiting member memory published) (id : TurtleId)
    (time : Nat) :
    Follows context alone ran waiting (member.woken id time) memory
      (published ++ member.delivery.toList) := by
  have ledger := follows.ledger.woken id time
  have answered : (published ++ member.delivery.toList) ++ (member.woken id time).pending.toList =
      alone.responses context 0 ran := by
    rw [List.append_assoc, member.delivery_append, follows.answered]
  obtain ⟨equipment, neat, rest⟩ := follows.neat.woken id time
  have turtle : (member.woken id time).turtle =
      { member.turtle with animation := member.turtle.animation.tick.2 } := by
    rw [Member.woken_eq]
    simp only [equipment]
  refine { ledger, answered, neat := ?_, settled := ?_, reborn := ?_, world := follows.world }
  · rw [turtle]
    exact neat
  · rw [turtle]
    exact follows.settled
  · rw [turtle, rest]
    exact follows.reborn

/-- A command that the fleet starts is the next one of the reference. It ends the same way, and
leaves the other dimensions alone. -/
theorem started (follows : Follows context alone ran waiting member memory published)
    (idle : member.turtle.animation.playing = false) {entry : QueueEntry TurtleCommand}
    {rest : List (QueueEntry TurtleCommand)} (next : member.queue.entries = entry :: rest)
    {movers : List TurtleId} {result : Except Stop (List Json)} {left : Scene MemoryWorld}
    (ended : (entry.command.execute context).outcome
      { turtle := member.turtle, world := memory, otherMovers := movers } = (result, left)) :
    ∃ later, waiting = entry.command :: later ∧
      Follows context alone (ran ++ [entry.command]) later
        { member with
          turtle := left.turtle
          queue := { member.queue with entries := rest }
          pending := if left.turtle.animation.playing then some (Response.ofResult entry.id result)
            else member.pending }
        left.world
        (published ++
          if left.turtle.animation.playing then [] else [Response.ofResult entry.id result]) ∧
      ∀ other, other ≠ alone.turtle.world →
        left.world.dimensions.get? other = memory.dimensions.get? other := by
  obtain ⟨later, split, ledger⟩ := follows.ledger.started idle next left.turtle result
  have free : member.pending = none := by
    simpa [idle] using follows.ledger.animated
  have number : entry.id = submissionNumber ran.length := by
    have queued := follows.ledger.queued
    rw [next, split] at queued
    rw [(List.cons.inj queued).1]
  -- the turtle at work in the fleet and the one alone see mirrored scenes
  obtain ⟨serial, reborn⟩ := follows.reborn
  rw [follows.neat.atRest_eq idle] at reborn
  have mirrors : Scene.Mirrors alone.turtle.world memory
      { turtle := member.turtle, world := memory, otherMovers := movers }
      { turtle := (alone.after context ran).turtle, world := (alone.after context ran).world } :=
    { reborn := ⟨serial, reborn⟩, settled := follows.settled, neat := follows.neat
      world := follows.world, beyond := fun _ _ => rfl }
  obtain ⟨ends, leaves⟩ := entry.command.steady Scene.Mirrors.likeness context _ _ mirrors
  rw [ended] at ends leaves
  obtain ⟨serialAfter, rebornAfter⟩ := leaves.reborn
  have response : alone.responses context 0 (ran ++ [entry.command]) =
      alone.responses context 0 ran ++ [Response.ofResult entry.id result] := by
    have same : result = ((alone.after context ran).execute context entry.command).1 := ends
    rw [Solo.responses_append, Nat.zero_add, number, same]
    rfl
  have state : alone.after context (ran ++ [entry.command]) =
      ((alone.after context ran).execute context entry.command).2 :=
    alone.after_append context ran [entry.command]
  refine ⟨later, split, ?_, leaves.beyond⟩
  refine { ledger, answered := ?_, neat := leaves.neat, settled := leaves.settled, reborn := ?_,
           world := ?_ }
  · rw [response, ← follows.answered, free]
    cases left.turtle.animation.playing <;> simp
  · refine ⟨serialAfter, ?_⟩
    rw [state]
    exact congrArg Turtle.atRest rebornAfter
  · rw [state]
    exact leaves.world

end Follows

end TurtleFleet
