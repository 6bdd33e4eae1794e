import TurtleFleet.Proofs.Breakdown
import TurtleFleet.Proofs.Chronicle
import TurtleFleet.Proofs.Latches
import TurtleFleet.Proofs.Recast

/-! Containment: a command that breaks off concerns nobody but its own turtle. It is answered by one
failure, no latch stays engaged, and the tick goes on as if the command had returned that failure. -/

namespace TurtleFleet

variable {C M W : Type}

/-! ### Contained commands -/

/-- Fails with the text of a fault instead of breaking off. -/
def Stop.contained : Stop → Stop
  | fault cause => internal cause.message
  | stop => stop

/-- An action that fails where another one breaks off, having done the same until then. -/
def Action.contain {α : Type} (action : Action W α) : Action W α := fun scene =>
  match action scene with
  | .ok value left => .ok value left
  | .error stop left => .error stop.contained left

/-- A command, and whether it is to fail where it would break off. -/
structure Contained (C : Type) where
  command : C
  contained : Bool

instance [Command C] : Command (Contained C) where
  name wrapped := Command.name wrapped.command
  execute wrapped context :=
    if wrapped.contained then (Command.execute wrapped.command context).contain
    else Command.execute wrapped.command context

def Contained.wrap (chosen : C → Bool) (command : C) : Contained C := ⟨command, chosen command⟩

theorem Action.outcome_contain {α : Type} (action : Action W α) (scene : Scene W) :
    action.contain.outcome scene =
      ((action.outcome scene).1.mapError Stop.contained, (action.outcome scene).2) := by
  unfold outcome contain
  cases action scene <;> rfl

theorem Contained.unbroken [Command C] [World W] (command : C) (context : Context) (scene : Scene W)
    (cause : Fault) :
    ((Command.execute (wrap (fun _ => true) command) context).outcome scene).1 ≠
      .error (.fault cause) := by
  have contained : Command.execute (W := W) (wrap (fun _ => true) command) context =
      (Command.execute command context).contain := if_pos rfl
  rw [contained, Action.outcome_contain]
  rcases ((Command.execute command context).outcome scene).1 with (_ | _ | _) | payload <;> exact nofun

theorem Stop.message_contained (stop : Stop) : stop.contained.message = stop.message := by
  cases stop <;> rfl

/-- Nobody but the command itself can tell whether it is contained. -/
theorem Contained.recasts (W : Type) [Command C] [World W] (chosen : C → Bool) :
    Recasts W (wrap chosen) := by
  -- a contained command does all that the command does, and may only end in another word
  have ran (command : C) (context : Context) (scene : Scene W) :
      (Command.execute (wrap chosen command) context).outcome scene =
          (Command.execute command context).outcome scene ∨
        (Command.execute (wrap chosen command) context).outcome scene =
          (((Command.execute command context).outcome scene).1.mapError Stop.contained,
            ((Command.execute command context).outcome scene).2) := by
    cases picked : chosen command with
    | false =>
      refine .inl (congrArg (Action.outcome · scene) ?_)
      exact if_neg (show ¬ (wrap chosen command).contained = true by simp [wrap, picked])
    | true =>
      refine .inr ((congrArg (Action.outcome · scene) ?_).trans (Action.outcome_contain ..))
      exact if_pos (show (wrap chosen command).contained = true from picked)
  refine { name := fun _ => rfl, leaves := ?_, succeeds := ?_, answers := ?_ }
  · intro command context scene
    rcases ran command context scene with same | same <;> rw [same]
  · intro command context scene
    rcases ran command context scene with same | same <;> rw [same]
    cases ((Command.execute command context).outcome scene).1 <;> rfl
  · intro command context scene id
    rcases ran command context scene with same | same <;> rw [same]
    cases ((Command.execute command context).outcome scene).1 with
    | ok payload => rfl
    | error stop => exact congrArg (Response.failure id) stop.message_contained

/-! ### Answers -/

variable {M : Type} [World W] [WorkMonitor M]

namespace Round

/-- A standard command that ends in an error is answered by its failure at once. -/
theorem heard_visit_of_error {round : Round TurtleCommand M W} {id : TurtleId}
    {member : Member TurtleCommand} {entry : QueueEntry TurtleCommand} {stop : Stop}
    (found : round.stage.fleet.members.get? id = some member) (audible : member.Audible)
    (works : round.task? id = some (entry, .error stop)) (nanos : Nat) :
    heard id (round.visit id nanos).stage.signals = heard id round.stage.signals ++
      member.delivery.toList ++ [Response.failure entry.id stop.message] := by
  have attends := round.attends_visit id nanos
  rw [works] at attends
  generalize round.visit id nanos = after at attends ⊢
  generalize carried : some (entry, Except.error stop) = task at attends
  cases attends with
  | absent missing => cases carried
  | waits same => cases carried
  | @works _ other rest monitor same still waiting =>
    cases found.symm.trans same
    obtain ⟨rfl, failed⟩ := Prod.mk.inj (Option.some.inj carried)
    rcases ran : (Command.execute entry.command
      ((round.wake id member).2.watched monitor).stage.fleet.context).outcome
        (((round.wake id member).2.watched monitor).scene id
          { member.woken id round.stage.fleet.time with queue := { member.queue with entries := rest } })
      with ⟨result, left⟩
    have ended : result = .error stop := by
      rw [failed, ← round.ending_wake id member { member.queue with entries := rest } monitor entry]
      exact (congrArg Prod.fst ran).symm
    subst ended
    -- a failed command has begun no animation, so that nothing holds its response back
    have idle : left.turtle.animation.playing = false :=
      (congrArg Animation.playing (entry.command.failsStill _ _ _ _ ran)).trans still
    obtain ⟨_, signals⟩ := execute_unheld ran idle nanos
    have genuine : (Response.failure entry.id stop.message).Genuine :=
      Response.genuine_failure (audible.queued entry (by simp [waiting])) _
    have published : heard id [.published ((Response.failure entry.id stop.message).toEvent id)] =
        [Response.failure entry.id stop.message] :=
      heard_published (List.forall_mem_singleton.mpr genuine) id
    rw [signals, heard_append, heard_append, heard_map_effect, List.append_nil]
    exact congr (congrArg _ (heard_wake round id audible)) published

end Round

/-! ### Exactly one answer -/

/-- Among responses with different numbers a response is the only one of its number. -/
theorem Response.filter_id_of_mem {responses : List Response} (distinct : (responses.map (·.id)).Nodup)
    {response : Response} (listed : response ∈ responses) :
    responses.filter (·.id = response.id) = [response] := by
  obtain ⟨before, after, split⟩ := List.append_of_mem listed
  subst split
  rw [List.map_append, List.map_cons, List.nodup_append, List.nodup_cons] at distinct
  obtain ⟨_, ⟨later, _⟩, apart⟩ := distinct
  have none (others : List Response) (fresh : response.id ∉ others.map (·.id)) :
      others.filter (·.id = response.id) = [] := by
    rw [List.filter_eq_nil_iff]
    intro other member same
    exact fresh (List.mem_map.mpr ⟨other, member, of_decide_eq_true same⟩)
  have earlier : response.id ∉ before.map (·.id) := fun member =>
    apart _ member _ List.mem_cons_self rfl
  rw [List.filter_append, List.filter_cons_of_pos (by simp), none _ earlier, none _ later]
  rfl

namespace Stage

omit [World W] [WorkMonitor M] in
/-- No two published responses have the same number. -/
theorem Account.distinct {stage : Stage C M W} {handle : Submitter} {accepted : List C}
    {published : List Response} (account : Account stage handle accepted published)
    (few : accepted.length < word64) : (published.map (·.id)).Nodup := by
  have numbers : ((numbered 0 accepted).map (·.id)).Nodup := by
    rw [map_id_numbered_of_few few]
    exact List.nodup_range'
  cases account with
  | inForce held known ledger =>
    rw [← ledger.numbers, List.map_append] at numbers
    exact (List.nodup_append.mp (List.nodup_append.mp numbers).1).1
  | ended gone known settled => rwa [settled]

/-! ### Ticks -/

/-- How a tick deals with a registered turtle, whatever its own command and those of others come to. -/
structure Withstands (arrivals : TurtleId → List (Submitter × TurtleCommand)) (nanos : TurtleId → Nat)
    (stage : Stage TurtleCommand M W) (id : TurtleId) (member : Member TurtleCommand) : Prop where
  /-- The turtle has its visit. -/
  visited : ∃ early late, Operation.Reaches arrivals nanos stage id member early late
  /-- It makes all its calls as it should. -/
  guarded : ∃ news,
    ((Operation.reached arrivals nanos stage id).visit id (nanos id)).stage.signals =
      (Operation.reached arrivals nanos stage id).stage.signals ++ news ∧
    ∀ signal ∈ news, signal.Guarded id
  /-- If its command breaks off, its failure goes out after the response that was held back. -/
  answered : ∀ entry cause,
    (Operation.reached arrivals nanos stage id).task? id = some (entry, .error (.fault cause)) →
      heard id (Operation.tickRound arrivals nanos stage).stage.signals = heard id stage.signals ++
        member.delivery.toList ++ [Response.failure entry.id cause.message]

theorem withstands_tick {stage : Stage TurtleCommand M W} (booked : stage.Booked)
    (all : stage.fleet.All Turtle.Unlatched)
    (arrivals : TurtleId → List (Submitter × TurtleCommand)) (nanos : TurtleId → Nat) {id : TurtleId}
    {member : Member TurtleCommand} (found : stage.fleet.members.get? id = some member) :
    stage.Withstands arrivals nanos id member := by
  obtain ⟨early, late, reaches⟩ := Operation.exists_reaches arrivals nanos found
  refine { visited := ⟨early, late, reaches⟩, guarded := ?_, answered := fun entry cause works => ?_ }
  · exact Round.guarded_visit (reaches.lasts _ TurtleCommand.trait_unlatched.lastsTicks all) id _
  · have answered := Round.heard_visit_of_error reaches.found
      ((booked.audible found).takeIn early) works (nanos id)
    rw [reaches.heardAfter, answered, reaches.unheard]
    rfl

theorem answered_once {start last final : Stage TurtleCommand M W}
    {course later : List (Deed TurtleCommand W)} (opening : start.Opening)
    (led : start.Leads course last) {arrivals : TurtleId → List (Submitter × TurtleCommand)}
    {nanos : TurtleId → Nat} (further : (last.next (.tick arrivals nanos)).Leads later final)
    {handle : Submitter} {entry : QueueEntry TurtleCommand} {cause : Fault}
    (works : (entry, .error (.fault cause)) ∈ workIn handle last (.tick arrivals nanos))
    (few : (start.accepted handle (course ++ .tick arrivals nanos :: later)).length < word64) :
    (start.published handle (course ++ .tick arrivals nanos :: later)).filter (·.id = entry.id) =
      [Response.failure entry.id cause.message] := by
  have account : Account final handle (start.accepted handle (course ++ .tick arrivals nanos :: later))
      (start.published handle (course ++ .tick arrivals nanos :: later)) :=
    .of_leads (led.append (.step (last.whole_tick arrivals nanos) further))
      (fun handle => .of_opening opening handle) handle
  suffices listed : Response.failure entry.id cause.message ∈
      start.published handle (course ++ .tick arrivals nanos :: later) from
    Response.filter_id_of_mem (account.distinct few) listed
  rw [workIn] at works
  split at works
  · rename_i inForce
    obtain ⟨member, held⟩ := Option.isSome_iff_exists.mp inForce
    have withstands := withstands_tick (.of_leads opening led)
      (TurtleCommand.trait_unlatched.of_opening opening led) arrivals nanos
      (Fleet.holder?_eq_some_iff.mp held).1
    obtain ⟨cursor, after⟩ := last.next_tick arrivals nanos
    have answered := withstands.answered entry cause (Option.mem_toList.mp works)
    rw [List.append_assoc] at answered
    have now : publishedIn handle last (.tick arrivals nanos) =
        member.delivery.toList ++ [Response.failure entry.id cause.message] :=
      publishedIn_of_heard held (by rw [after]; exact answered)
    rw [published, collect_append _ led, collect, now]
    simp
  · cases works

/-- Commands may break off wherever they make a call, and nothing else does, in any world: between the
operations of a fleet no latch is engaged. In every tick every registered turtle has its visit, during
which its latch is engaged for the calls that make or remove an entity, for no other calls, and no other
latch is. A command that breaks off is answered by one failure, in the same tick and never again. And
whichever commands fail with that text where they would break off, the tick reports the same and leaves
the same turtles, the same world and the same signals behind. -/
theorem commands_break_off_alone {start last : Stage TurtleCommand M W}
    {course : List (Deed TurtleCommand W)} (opening : start.Opening) (led : start.Leads course last)
    (arrivals : TurtleId → List (Submitter × TurtleCommand)) (nanos : TurtleId → Nat) :
    (∀ id member, last.fleet.members.get? id = some member →
      member.turtle.latch = false ∧ last.Withstands arrivals nanos id member) ∧
    (∀ handle entry cause later final,
      (entry, .error (.fault cause)) ∈ workIn handle last (.tick arrivals nanos) →
      (last.next (.tick arrivals nanos)).Leads later final →
      (start.accepted handle (course ++ .tick arrivals nanos :: later)).length < word64 →
      (start.published handle (course ++ .tick arrivals nanos :: later)).filter (·.id = entry.id) =
        [Response.failure entry.id cause.message]) ∧
    ∀ chosen, Operation.tickAmid (fun id => recastArrivals (Contained.wrap chosen) (arrivals id)) nanos
        (last.recast (Contained.wrap chosen)) =
      .ok (Operation.tickRound arrivals nanos last).report
        ((last.next (.tick arrivals nanos)).recast (Contained.wrap chosen)) := by
  have all := TurtleCommand.trait_unlatched.of_opening opening led
  refine ⟨fun id member found => ⟨(all id member found).2, ?_⟩, ?_, fun chosen => ?_⟩
  · exact withstands_tick (.of_leads opening led) all arrivals nanos found
  · exact fun handle entry cause later final works further few =>
      answered_once opening led further works few
  · obtain ⟨cursor, ticked⟩ := Operation.tickAmid_eq arrivals nanos last
    rw [next_of_ticked ticked]
    exact Operation.tickAmid_recast (Contained.recasts W chosen) arrivals nanos last ticked

/-- A fleet in a world for rehearsals. -/
def risky : Stage TurtleCommand WorkBudget RehearsalWorld :=
  { fleet := Sample.fleet, world := { memory := Sample.stage.world } }

/-- A turtle is to make a step, and the next call for an entity is going to break off. -/
def riskyCourse : List (Deed TurtleCommand RehearsalWorld) :=
  [.register { Sample.scout with fuelLevel := 10 }, .submit "scout" (.move .forward),
    .reshape (·.breakNext .spawn "out of order")]

theorem commands_break_off_alone_riskyCourse :
    risky.Opening ∧ risky.Leads riskyCourse (riskyCourse.foldl next risky) ∧
      ∃ member, (riskyCourse.foldl next risky).fleet.members.get? "scout" = some member ∧
        (Operation.reached (fun _ => []) (fun _ => 0) (riskyCourse.foldl next risky) "scout").task?
          "scout" = some ({ id := 1, command := .move .forward },
            .error (.fault (.raised (some "out of order")))) ∧
        heard "scout" (Operation.tickRound (fun _ => []) (fun _ => 0)
          (riskyCourse.foldl next risky)).stage.signals = [Response.failure 1 "out of order"] := by
  have made : Fleet.new { animationDuration := 2 } WorkBudget.unlimited = .ok Sample.fleet := rfl
  have opening : risky.Opening := .made made .standard _
  have led : risky.Leads riskyCourse (riskyCourse.foldl next risky) := by
    refine .step ?_ (.step ?_ (.step ?_ (.rest _))) <;>
    · rintro ⟨fault, left, broken⟩
      cases broken
  have works : (Operation.reached (fun _ => []) (fun _ => 0) (riskyCourse.foldl next risky)
      "scout").task? "scout" = some ({ id := 1, command := .move .forward },
        .error (.fault (.raised (some "out of order")))) := by rfl
  have known : ((riskyCourse.foldl next risky).fleet.members.get? "scout").isSome = true := by rfl
  obtain ⟨member, found⟩ := Option.isSome_iff_exists.mp known
  have silent : heard "scout" (riskyCourse.foldl next risky).signals = [] := by rfl
  have idle : ((riskyCourse.foldl next risky).fleet.members.get? "scout").map (·.delivery) =
      some none := by rfl
  rw [found] at idle
  obtain ⟨withstands, _⟩ := commands_break_off_alone opening led (fun _ => []) (fun _ => 0)
  have answered := (withstands "scout" member found).2.answered _ _ works
  rw [silent, show member.delivery = none from Option.some.inj idle] at answered
  exact ⟨opening, led, member, found, works, answered⟩

end Stage

end TurtleFleet
