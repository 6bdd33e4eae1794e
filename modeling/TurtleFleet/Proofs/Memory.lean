import TurtleFleet.Command.Storage
import TurtleFleet.Proofs.Course
import TurtleFleet.World.Memory

/-! Fleets in a world held in memory. Such a world answers every call, so no deed breaks off and a
course leads through all of its deeds. -/

namespace TurtleFleet

variable {C M W : Type}

namespace Operation

/-- An operation that never breaks off, whatever the stage. -/
def Unbroken {α : Type} (operation : Operation C M W α) : Prop :=
  ∀ stage : Stage C M W, ¬ stage.Breaks operation

namespace Unbroken

variable {α β : Type}

theorem pure (value : α) : Unbroken (Pure.pure value : Operation C M W α) := by
  rintro stage ⟨fault, left, broken⟩
  cases broken

theorem fleet : Unbroken (Operation.fleet : Operation C M W (Fleet C M)) := by
  rintro stage ⟨fault, left, broken⟩
  cases broken

theorem setFleet (fleet : Fleet C M) : Unbroken (Operation.setFleet fleet : Operation C M W Unit) := by
  rintro stage ⟨fault, left, broken⟩
  cases broken

theorem signal (signals : List Signal) :
    Unbroken (Operation.signal signals : Operation C M W Unit) := by
  rintro stage ⟨fault, left, broken⟩
  cases broken

theorem refuse (error : FleetError) : Unbroken (Operation.refuse error : Operation C M W α) := by
  rintro stage ⟨fault, left, broken⟩
  cases broken

theorem bind {first : Operation C M W α} {next : α → Operation C M W β} (whole : Unbroken first)
    (later : ∀ value, Unbroken (next value)) : Unbroken (first >>= next) := by
  rintro stage ⟨fault, left, broken⟩
  rcases ended : first stage with ⟨value, after⟩ | ⟨failure, after⟩
  · rw [bind_of_ok ended] at broken
    exact later value after ⟨fault, left, broken⟩
  · rw [bind_of_error ended] at broken
    refine whole stage ⟨fault, left, ?_⟩
    rw [ended]
    cases broken
    rfl

theorem refuse_bind (error : FleetError) (next : α → Operation C M W β) :
    Unbroken (Operation.refuse error >>= next) := by
  rintro stage ⟨fault, left, broken⟩
  cases broken

theorem member (id : TurtleId) : Unbroken (Operation.member id : Operation C M W (Member C)) := by
  apply bind fleet
  intro fleet
  split
  · exact pure _
  · exact refuse _

theorem setTurtle (id : TurtleId) (member : Member C) (turtle : Turtle) :
    Unbroken (Operation.setTurtle id member turtle : Operation C M W Unit) :=
  bind fleet fun _ => setFleet _

theorem enroll (turtle : Turtle) :
    Unbroken (do
      let (submitter, fleet) := (← Operation.fleet).enroll turtle
      Operation.setFleet fleet
      return submitter : Operation C M W Submitter) :=
  bind fleet fun _ => bind (setFleet _) fun _ => pure _

/-- What is said when a turtle was removed calls nothing. -/
theorem farewell (notices : List EquipmentNotice) (responses : List Response) (id : TurtleId)
    (attached : Bool) (snapshot : TurtleSnapshot) :
    Unbroken (do
      if attached then Operation.announce notices
      Operation.signal (responses.map fun response => .published (response.toEvent id))
      Operation.signal [.closed id]
      return snapshot : Operation C M W TurtleSnapshot) := by
  have settled : Unbroken (do
      Operation.signal (responses.map fun response => .published (response.toEvent id))
      Operation.signal [.closed id]
      return snapshot : Operation C M W TurtleSnapshot) :=
    bind (signal _) fun _ => bind (signal _) fun _ => pure _
  dsimp only
  split
  · exact bind (signal _) fun _ => settled
  · exact settled

variable [Command C] [World W] [WorkMonitor M]

/-- No deed breaks off that does not call the world on behalf of the fleet. -/
theorem perform {deed : Deed C W} (other : deed.isRegistration = false)
    (lasting : ∀ id, deed ≠ .remove id) : Unbroken (deed.perform : Operation C M W Unit) := by
  cases deed with
  | register spec => cases other
  | remove id => exact (lasting id rfl).elim
  | submit id command =>
    refine bind fleet fun known => ?_
    split
    · exact setFleet _
    · exact refuse _
  | submitVia submitter command => exact bind fleet fun _ => setFleet _
  | tick arrivals nanos =>
    rintro stage ⟨fault, left, broken⟩
    cases broken
  | setUpgrade id side upgrade =>
    exact bind (bind (member id) fun _ => bind (setTurtle _ _ _) fun _ =>
      bind (signal _) fun _ => pure _) fun _ => pure _
  | attach id =>
    refine bind (member id) fun member => ?_
    dsimp only
    split
    · exact pure _
    · exact setTurtle _ _ _
  | detach id =>
    refine bind (member id) fun member => ?_
    dsimp only
    split
    · exact bind (setTurtle _ _ _) fun _ => signal _
    · exact pure _
  | reshape change =>
    rintro stage ⟨fault, left, broken⟩
    cases broken

end Unbroken

end Operation

theorem MemoryWorld.answers (call : WorldCall) (movers : List TurtleId) (memory : MemoryWorld) :
    ∃ reply after, World.answer call movers memory = (.ok reply, after) := by
  cases call <;> exact ⟨_, _, rfl⟩

namespace Stage

theorem spawn_of_answers {stage : Stage C M MemoryWorld} {id : TurtleId} {world : WorldId}
    {pos : BlockPos} {template : TurtleSnapshot} {reply : Except WorldError EntityRef}
    {after : MemoryWorld} (spawned : stage.Answers id (.spawn world pos template) reply after) :
    stage.world.spawn world pos template = (reply, after) := by
  obtain ⟨same, left⟩ := Prod.mk.inj spawned
  exact Prod.ext (Except.ok.inj same) left

theorem world_of_removed {stage : Stage C M MemoryWorld} {id : TurtleId} {world : WorldId}
    {pos : BlockPos} {after : MemoryWorld}
    (removed : stage.Answers id (.remove world pos) () after) :
    after = stage.world.remove world pos :=
  (Prod.mk.inj removed).2.symm

end Stage

namespace Operation.Unbroken

theorem ask (id : TurtleId) (call : WorldCall) :
    Unbroken (Operation.ask id call : Operation C M MemoryWorld call.Reply) := by
  rintro stage ⟨fault, left, broken⟩
  obtain ⟨reply, after, answered⟩ :=
    MemoryWorld.answers call (stage.fleet.moversExcept id) stage.world
  simp only [Operation.ask, answered] at broken
  cases broken

theorem register (spec : TurtleSpec) :
    Unbroken (Operation.register spec : Operation C M MemoryWorld Submitter) := by
  apply bind fleet
  intro known
  split
  · exact refuse_bind _ _
  · refine bind fleet fun _ => bind (ask _ _) fun reply => ?_
    cases reply with
    | error cause => exact refuse _
    | ok entity =>
      dsimp only
      split
      · exact bind (ask _ _) fun _ => refuse_bind _ _
      · exact enroll _

theorem remove (id : TurtleId) :
    Unbroken (Operation.remove id : Operation C M MemoryWorld TurtleSnapshot) :=
  bind (member id) fun _ => bind fleet fun _ => bind (setFleet _) fun _ =>
    bind (ask _ _) fun _ => farewell _ _ _ _ _

end Operation.Unbroken

namespace Stage

variable [Command C] [WorkMonitor M]

theorem whole_of_memory (stage : Stage C M MemoryWorld) (deed : Deed C MemoryWorld) :
    ¬ stage.Breaks deed.perform := by
  suffices unbroken : Operation.Unbroken (deed.perform : Operation C M MemoryWorld Unit) from
    unbroken stage
  cases deed with
  | register spec => exact .bind (.register spec) fun _ => .pure _
  | remove id => exact .bind (.remove id) fun _ => .pure _
  | _ => exact .perform rfl nofun

def run (stage : Stage C M MemoryWorld) (course : List (Deed C MemoryWorld)) :
    Stage C M MemoryWorld := course.foldl next stage

theorem leads_run (stage : Stage C M MemoryWorld) (course : List (Deed C MemoryWorld)) :
    stage.Leads course (stage.run course) := by
  induction course generalizing stage with
  | nil => exact .rest stage
  | cons deed rest ih => exact .step (stage.whole_of_memory deed) (ih (stage.next deed))

end Stage

/-! ### A small fleet to look at -/

namespace Sample

/-- A fleet whose animations last for two ticks, without turtles. -/
def fleet : Fleet TurtleCommand WorkBudget :=
  { settings := { animationDuration := 2 }, monitor := .unlimited }

/-- The fleet in a world of one empty dimension that is loaded everywhere. -/
def stage : Stage TurtleCommand WorkBudget MemoryWorld :=
  { fleet, world := { dimensions := Keyed.empty.insert "overworld" { loaded := fun _ => true } } }

def scout : TurtleSpec := { turtleId := "scout", world := "overworld", pos := ⟨0, 64, 0⟩ }

/-- A tick during which nothing is submitted. -/
def tick {C W : Type} : Deed C W := .tick (fun _ => []) (fun _ => 0)

/-- The fleet may begin in any world. -/
theorem opening_in (world : MemoryWorld) : Stage.Opening { stage with world } := by
  have made : Fleet.new { animationDuration := 2 } WorkBudget.unlimited = .ok fleet := rfl
  exact .made made .standard world

theorem opening : stage.Opening := opening_in _

end Sample

end TurtleFleet
