import TurtleFleet.Proofs.Displacement
import TurtleFleet.Proofs.Traits

/-! Latches: a turtle is being moved exactly while its entity is replaced. Of all calls that a standard
command makes only those that make or remove an entity are made with the latch engaged, no other turtle
is being moved meanwhile, and when the command is over the latch is free, wherever it broke off. -/

namespace TurtleFleet

variable {M W : Type}

/-- The turtles that are being moved during a call that a turtle makes. -/
def WorldCall.movers (id : TurtleId) : WorldCall → List TurtleId
  | spawn .. => [id]
  | remove .. => [id]
  | _ => []

/-- A call that a turtle has made while nothing else was being moved. -/
def Effect.Guarded (id : TurtleId) (otherMovers : List TurtleId) (effect : Effect) : Prop :=
  ∀ call outcome movers, effect = .world call outcome movers → movers = otherMovers ++ call.movers id

/-- The turtle stays where it is registered, its latch is engaged or free, and all calls so far were
made as they should. -/
structure Scene.Poised (home : WorldId) (attached : Bool) (id : TurtleId) (otherMovers : List TurtleId)
    (latch : Bool) (scene : Scene W) : Prop where
  settled : scene.turtle.world = home ∧ scene.turtle.attached = attached
  named : scene.turtle.id = id
  latched : scene.turtle.latch = latch
  others : scene.otherMovers = otherMovers
  guarded : ∀ effect ∈ scene.effects, effect.Guarded id otherMovers

namespace Scene.Poised

variable {home : WorldId} {attached latch : Bool} {id : TurtleId} {otherMovers : List TurtleId}
  {scene : Scene W}

theorem of_same {after : Scene W} (poised : scene.Poised home attached id otherMovers latch)
    (world : after.turtle.world = scene.turtle.world)
    (joined : after.turtle.attached = scene.turtle.attached) (named : after.turtle.id = scene.turtle.id)
    (latched : after.turtle.latch = scene.turtle.latch) (others : after.otherMovers = scene.otherMovers)
    (effects : after.effects = scene.effects) : after.Poised home attached id otherMovers latch where
  settled := ⟨world.trans poised.settled.1, joined.trans poised.settled.2⟩
  named := named.trans poised.named
  latched := latched.trans poised.latched
  others := others.trans poised.others
  guarded := by
    rw [effects]
    exact poised.guarded

theorem relatched (poised : scene.Poised home attached id otherMovers latch) (other : Bool) :
    Scene.Poised home attached id otherMovers other
      { scene with turtle := { scene.turtle with latch := other } } where
  settled := poised.settled
  named := poised.named
  latched := rfl
  others := poised.others
  guarded := poised.guarded

theorem movers (poised : scene.Poised home attached id otherMovers latch) :
    scene.movers = otherMovers ++ if latch then [id] else [] := by
  rw [Scene.movers, poised.latched, poised.others, poised.named]
  cases latch <;> simp

variable [World W]

theorem ask {call : WorldCall} (fit : call.movers id = if latch then [id] else []) :
    Action.Keeps (Scene.Poised (W := W) home attached id otherMovers latch) (Action.ask call) := by
  intro scene poised
  have noted (outcome : CallOutcome) :
      ∀ effect ∈ scene.effects ++ [.world call outcome scene.movers],
        effect.Guarded id otherMovers := by
    intro effect listed
    rcases List.mem_append.mp listed with old | new
    · exact poised.guarded effect old
    · rw [List.mem_singleton.mp new]
      rintro _ _ _ ⟨⟩
      rw [poised.movers, fit]
  rcases answered : World.answer call scene.movers scene.world with ⟨fault | reply, world⟩
  · simp only [Action.outcome, Action.ask, answered]
    exact ⟨poised.settled, poised.named, poised.latched, poised.others, noted _⟩
  · simp only [Action.outcome, Action.ask, answered]
    exact ⟨poised.settled, poised.named, poised.latched, poised.others, noted _⟩

omit [World W] in
theorem turtle :
    Action.Keeps (Scene.Poised (W := W) home attached id otherMovers latch) Action.turtle :=
  fun _ poised => poised

theorem replaceEntity (pos : BlockPos) :
    Action.Keeps (Scene.Poised (W := W) home attached id otherMovers true)
      (Action.replaceEntity home pos) := by
  suffices steady : Action.Steady (Diagonal (Scene.Poised home attached id otherMovers true))
      (Action.replaceEntity (W := W) home pos) from steady.keeps
  refine .bind turtle.steady fun _ => .bind (ask rfl).steady fun reply => ?_
  cases reply with
  | error cause => exact .pure _
  | ok entity =>
    dsimp only
    by_cases right : Action.isTurtleAt entity home pos = true
    · rw [if_pos right]
      obtain ⟨_, there, _⟩ := Action.isTurtleAt_iff.mp right
      have moved : Action.Keeps (Scene.Poised (W := W) home attached id otherMovers true)
          (Action.modifyTurtle ({ · with entity })) := fun scene poised =>
        ⟨⟨there, poised.settled.2⟩, poised.named, poised.latched, poised.others, poised.guarded⟩
      refine .bind turtle.steady fun _ => .bind moved.steady fun _ => ?_
      exact .bind (ask rfl).steady fun _ => .pure _
    · rw [if_neg right]
      exact .bind (ask rfl).steady fun _ => .pure _

/-- The latch is engaged for the replacement only, and free again when it is over or breaks off. -/
theorem relocate (pos : BlockPos) :
    Action.Keeps (Scene.Poised (W := W) home attached id otherMovers false)
      (Action.relocate home pos) := by
  have engaged : Action.Keeps (Scene.Poised (W := W) home attached id otherMovers false)
      (Action.latched (Action.replaceEntity home pos)) := by
    intro scene poised
    have replaced := replaceEntity pos _ (poised.relatched true)
    rw [Action.outcome_latched]
    exact replaced.relatched false
  suffices steady : Action.Steady (Diagonal (Scene.Poised home attached id otherMovers false))
      (Action.relocate (W := W) home pos) from steady.keeps
  -- the checks come first, while the latch is free
  refine .bind turtle.steady fun _ => .ite (.pure _) ?_
  refine .bind (ask rfl).steady fun loaded => .ite ?_ (.pure _)
  refine .bind (ask rfl).steady fun bounded => .ite ?_ (.pure _)
  exact .ite (.throw_bind _ _) (.ite (.pure _) engaged.steady)

omit [World W] in
theorem setUpgrade (side : Side) (upgrade : Option Upgrade) :
    Action.Keeps (Scene.Poised (W := W) home attached id otherMovers false)
      (Action.setUpgrade side upgrade attached) := by
  intro scene poised
  refine ⟨poised.settled, poised.named, poised.latched, poised.others, fun effect listed => ?_⟩
  rcases List.mem_append.mp listed with old | new
  · exact poised.guarded effect old
  · obtain ⟨notice, _, same⟩ := List.mem_map.mp new
    rw [← same]
    rintro _ _ _ ⟨⟩

theorem likeness :
    Likeness home attached (Diagonal (Scene.Poised (W := W) home attached id otherMovers false)) := by
  refine .diagonal (fun poised => poised.settled) ?_ ?_ setUpgrade ?_ relocate
  · intro scene poised facing selectedSlot inventory fuel
    exact poised.of_same rfl rfl rfl rfl rfl rfl
  · intro scene poised kind animation begun
    exact poised.of_same rfl rfl rfl rfl rfl rfl
  · intro call modest
    refine ask ?_
    cases call with
    | spawn => exact modest.elim
    | remove => exact modest.elim
    | _ => rfl

end Scene.Poised

/-! ### Standard commands -/

/-- The turtle is registered under its own id, and its latch is free. -/
def Turtle.Unlatched (id : TurtleId) (turtle : Turtle) : Prop := turtle.id = id ∧ turtle.latch = false

namespace TurtleCommand

variable [World W]

/-- However a standard command ends, it has made all its calls as it should, and the latch of its turtle
is free. -/
theorem poised (command : TurtleCommand) (context : Context) {id : TurtleId} {turtle : Turtle}
    (unlatched : turtle.Unlatched id) (world : W) (otherMovers : List TurtleId) :
    ((command.execute context).outcome { turtle, world, otherMovers }).2.Poised turtle.world
      turtle.attached id otherMovers false := by
  refine (command.steady Scene.Poised.likeness context).keeps _ ?_
  exact ⟨⟨rfl, rfl⟩, unlatched.1, unlatched.2, rfl, List.forall_mem_nil _⟩

/-- Free latches are free whenever no command is running. -/
theorem trait_unlatched : Turtle.Trait TurtleCommand W Turtle.Unlatched where
  fresh _ _ _ := ⟨rfl, rfl⟩
  refit unlatched _ _ _ := unlatched
  execute unlatched command context world otherMovers := by
    have left := command.poised context unlatched world otherMovers
    exact ⟨left.named, left.latched⟩

end TurtleCommand

/-! ### Visits -/

/-- If this is a call to the world, the turtle has made it as it should. -/
def Signal.Guarded (id : TurtleId) (signal : Signal) : Prop :=
  ∀ call outcome movers, signal = .effect (.world call outcome movers) → movers = call.movers id

theorem Fleet.All.moversExcept {C : Type} {fleet : Fleet C M} (all : fleet.All Turtle.Unlatched)
    (id : TurtleId) : fleet.moversExcept id = [] := by
  rw [Fleet.moversExcept, List.map_eq_nil_iff, List.filter_eq_nil_iff]
  rintro ⟨other, member⟩ listed
  have free := (all other member (Keyed.get?_eq_some_iff.mpr listed)).2
  simp [free]

theorem Round.guarded_wake {C : Type} (round : Round C M W) (id : TurtleId) (member : Member C) :
    ∃ news, (round.wake id member).2.stage.signals = round.stage.signals ++ news ∧
      ∀ signal ∈ news, signal.Guarded id := by
  refine ⟨_, wake_signals round id member, fun signal listed => ?_⟩
  rcases List.mem_append.mp listed with told | delivered
  · obtain ⟨notice, _, same⟩ := List.mem_map.mp told
    rw [← same]
    rintro _ _ _ ⟨⟩
  · obtain ⟨response, _, same⟩ := List.mem_map.mp delivered
    rw [← same]
    rintro _ _ _ ⟨⟩

variable [World W] [WorkMonitor M]

theorem Round.guarded_execute {round : Round TurtleCommand M W} {id : TurtleId}
    (alone : round.stage.fleet.moversExcept id = []) {member : Member TurtleCommand}
    (unlatched : member.turtle.Unlatched id) (entry : QueueEntry TurtleCommand) (nanos : Nat) :
    ∃ news, (round.execute id member entry nanos).stage.signals = round.stage.signals ++ news ∧
      ∀ signal ∈ news, signal.Guarded id := by
  have poised := entry.command.poised round.stage.fleet.context unlatched round.stage.world []
  rcases ran : (Command.execute entry.command round.stage.fleet.context).outcome
    { turtle := member.turtle, world := round.stage.world, otherMovers := [] } with ⟨result, left⟩
  have guarded := poised.guarded
  rw [show TurtleCommand.execute entry.command round.stage.fleet.context =
    Command.execute entry.command round.stage.fleet.context from rfl, ran] at guarded
  rw [execute_of_ran round member (alone ▸ ran) nanos]
  refine ⟨_, List.append_assoc .., fun signal listed => ?_⟩
  rcases List.mem_append.mp listed with made | answered
  · obtain ⟨effect, listed, same⟩ := List.mem_map.mp made
    rw [← same]
    rintro call outcome movers ⟨⟩
    simpa using guarded _ listed call outcome movers rfl
  · split at answered
    · cases answered
    · rw [List.mem_singleton.mp answered]
      rintro _ _ _ ⟨⟩

/-- Whatever is seen of a visit, the turtle has made all its calls as it should. -/
theorem Round.guarded_visit {round : Round TurtleCommand M W}
    (all : round.stage.fleet.All Turtle.Unlatched) (id : TurtleId) (nanos : Nat) :
    ∃ news, (round.visit id nanos).stage.signals = round.stage.signals ++ news ∧
      ∀ signal ∈ news, signal.Guarded id := by
  have visits := visits_visit round id nanos
  generalize round.visit id nanos = left at visits ⊢
  cases visits with
  | absent missing => exact ⟨[], (List.append_nil _).symm, List.forall_mem_nil _⟩
  | busy found plays => exact guarded_wake ..
  | idle found still empty => exact guarded_wake ..
  | deferred found still waiting denied => exact guarded_wake ..
  | @executed member entry rest monitor found still waiting allowed =>
    obtain ⟨woken, seen, quiet⟩ := guarded_wake round id member
    have alone : ((round.wake id member).2.watched monitor).stage.fleet.moversExcept id = [] :=
      (round.moversExcept_wake id member monitor).trans (all.moversExcept id)
    have unlatched : (member.woken id round.stage.fleet.time).turtle.Unlatched id := by
      rw [Member.woken_eq]
      exact all id member found
    let worker : Member TurtleCommand :=
      { member.woken id round.stage.fleet.time with queue := { member.queue with entries := rest } }
    -- the turtle that runs the command has lost its first entry, which does not matter to its latch
    obtain ⟨news, seenThen, guarded⟩ :=
      guarded_execute alone (show worker.turtle.Unlatched id from unlatched) entry nanos
    refine ⟨woken ++ news, ?_, fun signal listed => ?_⟩
    · rw [seenThen, ← List.append_assoc, ← seen]
      rfl
    · exact (List.mem_append.mp listed).elim (quiet signal) (guarded signal)

end TurtleFleet
