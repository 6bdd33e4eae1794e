import TurtleFleet.Proofs.Displacement
import TurtleFleet.Proofs.Fate
import TurtleFleet.Proofs.Wiring

/-! Rewiring: what a tick does to the equipment of the turtles and tells of it. The update of a visit
and the standard commands let the equipment of the visited turtle evolve and tell nothing of any
other, in whatever world they run. -/

namespace TurtleFleet

variable {C M W : Type}

/-- The notices about a turtle among some signals. -/
def noticesFor (id : TurtleId) (signals : List Signal) : List EquipmentNotice :=
  (noticesIn signals).filter (·.turtle = id)

section

variable {id : TurtleId} {before after : List Signal} {notices : List EquipmentNotice}

theorem noticesFor_of_told (told : noticesIn after = noticesIn before ++ notices) :
    noticesFor id after = noticesFor id before ++ notices.filter (·.turtle = id) := by
  rw [noticesFor, told, List.filter_append]
  rfl

theorem noticesFor_of_own (told : noticesIn after = noticesIn before ++ notices)
    (about : ∀ notice ∈ notices, notice.turtle = id) :
    noticesFor id after = noticesFor id before ++ notices := by
  have all : notices.filter (·.turtle = id) = notices :=
    List.filter_eq_self.mpr fun notice listed => by simpa using about notice listed
  rw [noticesFor_of_told told, all]

theorem noticesFor_of_others (told : noticesIn after = noticesIn before ++ notices)
    (about : ∀ notice ∈ notices, notice.turtle ≠ id) :
    noticesFor id after = noticesFor id before := by
  have none : notices.filter (·.turtle = id) = [] :=
    List.filter_eq_nil_iff.mpr fun notice listed => by simpa using about notice listed
  rw [noticesFor_of_told told, none, List.append_nil]

end

/-! ### Commands -/

/-- The equipment has evolved from that of a turtle, and all of that was told. -/
structure Scene.Rewired (home : WorldId) (attached : Bool) (start : Turtle)
    (told : List EquipmentNotice) (scene : Scene W) : Prop where
  settled : scene.turtle.world = home ∧ scene.turtle.attached = attached
  named : scene.turtle.id = start.id
  evolves : ∃ notices, noticesOf scene.effects = told ++ notices ∧
    start.equipment.Evolves scene.turtle.id attached scene.turtle.equipment notices

namespace Scene.Rewired

variable {home : WorldId} {attached : Bool} {start : Turtle} {told : List EquipmentNotice}

theorem refl (turtle : Turtle) (world : W) (otherMovers : List TurtleId) :
    Scene.Rewired turtle.world turtle.attached turtle [] { turtle, world, otherMovers } :=
  ⟨⟨rfl, rfl⟩, rfl, [], rfl, .rest _⟩

theorem displaced {scene after : Scene W} (rewired : scene.Rewired home attached start told)
    (displaced : scene.Displaced home after) : after.Rewired home attached start told := by
  obtain ⟨entity, latch, same⟩ := displaced.turtle
  refine { settled := ⟨displaced.home rewired.settled.1, ?_⟩, named := ?_, evolves := ?_ }
  · rw [same]
    exact rewired.settled.2
  · rw [same]
    exact rewired.named
  · rw [displaced.notices, same]
    exact rewired.evolves

theorem setUpgrade (side : Side) (upgrade : Option Upgrade) :
    Action.Keeps (Scene.Rewired (W := W) home attached start told)
      (Action.setUpgrade side upgrade attached) := by
  intro scene rewired
  obtain ⟨notices, noted, evolves⟩ := rewired.evolves
  have set := scene.turtle.equipment.evolves_set side upgrade scene.turtle.id attached
  refine { settled := rewired.settled, named := rewired.named,
           evolves := ⟨_, ?_, evolves.trans set⟩ }
  have effects : ((Action.setUpgrade side upgrade attached).outcome scene).2.effects =
      scene.effects ++
        (scene.turtle.equipment.set side upgrade scene.turtle.id attached).notices.map .equipment :=
    rfl
  rw [effects, noticesOf_append, noted, noticesOf_equipment, List.append_assoc]

variable [World W]

theorem likeness :
    Likeness home attached (Diagonal (Scene.Rewired (W := W) home attached start told)) := by
  refine .diagonal (fun rewired => rewired.settled) ?_ ?_ setUpgrade ?_ ?_
  · intro scene rewired facing selectedSlot inventory fuel
    exact { rewired with }
  · intro scene rewired kind animation begun
    exact { rewired with }
  · intro call modest scene rewired
    exact rewired.displaced (Displaced.ask call scene (.refl home scene))
  · intro pos scene rewired
    exact rewired.displaced (Displaced.relocate pos scene (.refl home scene))

end Scene.Rewired

/-- A standard command lets the equipment of its turtle evolve and tells all of it. -/
theorem TurtleCommand.rewires [World W] (command : TurtleCommand) (context : Context)
    (turtle : Turtle) (world : W) (otherMovers : List TurtleId) :
    Scene.Rewired turtle.world turtle.attached turtle []
      ((command.execute context).outcome { turtle, world, otherMovers }).2 :=
  (command.steady Scene.Rewired.likeness context).keeps _ (.refl turtle world otherMovers)

/-! ### Visits -/

/-- What becomes of a turtle that is left alone or whose equipment evolves, and what is told of it. -/
inductive Rewires (id : TurtleId) :
    Option (Member C) → List EquipmentNotice → Option (Member C) → Prop where
  | absent : Rewires id none [] none
  | evolved {member served : Member C} {notices : List EquipmentNotice}
      (registration : served.registration = member.registration)
      (named : served.turtle.id = member.turtle.id)
      (attached : served.turtle.attached = member.turtle.attached)
      (evolves : member.turtle.equipment.Evolves member.turtle.id member.turtle.attached
        served.turtle.equipment notices) :
      Rewires id (some member) notices (some served)

theorem Rewires.refl (id : TurtleId) (member? : Option (Member C)) : Rewires id member? [] member? := by
  cases member? with
  | none => exact .absent
  | some member => exact .evolved rfl rfl rfl (.rest _)

theorem Rewires.trans {id : TurtleId} {before between after : Option (Member C)}
    {notices news : List EquipmentNotice} (first : Rewires id before notices between)
    (second : Rewires id between news after) : Rewires id before (notices ++ news) after := by
  cases first with
  | absent => exact second
  | evolved registration named attached evolves =>
    cases second with
    | evolved registrationLater namedLater attachedLater evolvesLater =>
      rw [named, attached] at evolvesLater
      exact .evolved (registrationLater.trans registration) (namedLater.trans named)
        (attachedLater.trans attached) (evolves.trans evolvesLater)

namespace Round

theorem noticesIn_wake (round : Round C M W) (id : TurtleId) (member : Member C) :
    noticesIn (round.wake id member).2.stage.signals =
      noticesIn round.stage.signals ++ (member.updateUpgrades id round.stage.fleet.time).2 := by
  rw [wake_signals, noticesIn_append, noticesIn_append, noticesIn_equipment, noticesIn_published,
    List.append_nil]

variable [World W] [WorkMonitor M]

/-- To run a standard command touches one member, whose equipment evolves. -/
theorem execute_equipment (round : Round TurtleCommand M W) (id : TurtleId)
    (member : Member TurtleCommand) (entry : QueueEntry TurtleCommand) (nanos : Nat) :
    ∃ served notices,
      (round.execute id member entry nanos).stage.fleet.members =
        round.stage.fleet.members.insert id served ∧
      Rewires id (some member) notices (some served) ∧
      noticesIn (round.execute id member entry nanos).stage.signals =
        noticesIn round.stage.signals ++ notices := by
  rcases ran : (Command.execute entry.command round.stage.fleet.context).outcome
    { turtle := member.turtle, world := round.stage.world,
      otherMovers := round.stage.fleet.moversExcept id } with ⟨result, scene⟩
  have rewired := entry.command.rewires round.stage.fleet.context member.turtle round.stage.world
    (round.stage.fleet.moversExcept id)
  have ended : ((entry.command.execute round.stage.fleet.context).outcome
      { turtle := member.turtle, world := round.stage.world,
        otherMovers := round.stage.fleet.moversExcept id }).2 = scene := congrArg Prod.snd ran
  rw [ended] at rewired
  obtain ⟨notices, told, evolves⟩ := rewired.evolves
  rw [rewired.named] at evolves
  let served : Member TurtleCommand :=
    { member with
      turtle := scene.turtle
      pending := if scene.turtle.animation.playing then some (Response.ofResult entry.id result)
        else member.pending }
  have executed : round.execute id member entry nanos = _ := execute_of_ran round member ran nanos
  rw [executed]
  refine ⟨served, notices, rfl, .evolved rfl rewired.named rewired.settled.2 evolves, ?_⟩
  have response : noticesIn (if scene.turtle.animation.playing then []
      else [.published ((Response.ofResult entry.id result).toEvent id)]) = [] := by
    split <;> rfl
  dsimp only
  rw [noticesIn_append, noticesIn_append, noticesIn_effects, told, response, List.append_nil]
  rfl

theorem visit_equipment {round : Round TurtleCommand M W} {id : TurtleId}
    {member : Member TurtleCommand} (found : round.stage.fleet.members.get? id = some member)
    (nanos : Nat) :
    ∃ served notices,
      (∀ other, (round.visit id nanos).stage.fleet.members.get? other =
        if other = id then some served else round.stage.fleet.members.get? other) ∧
      Rewires id (some (member.woken id round.stage.fleet.time)) notices (some served) ∧
      noticesIn (round.visit id nanos).stage.signals = noticesIn round.stage.signals ++
        ((member.updateUpgrades id round.stage.fleet.time).2 ++ notices) := by
  have rouses := rouses_visit found nanos
  generalize round.visit id nanos = left at rouses ⊢
  cases rouses with
  | waits monitor deferred =>
    refine ⟨_, [], fun other => Keyed.get?_insert .., .refl .., ?_⟩
    rw [List.append_nil]
    exact noticesIn_wake ..
  | @works entry rest monitor still waiting =>
    let ready := (round.wake id member).2.watched monitor
    let begun : Member TurtleCommand :=
      { member.woken id round.stage.fleet.time with queue := { member.queue with entries := rest } }
    obtain ⟨served, notices, set, rewires, told⟩ := ready.execute_equipment id begun entry nanos
    have popped : Rewires id (some (member.woken id round.stage.fleet.time)) [] (some begun) :=
      .evolved rfl rfl rfl (.rest _)
    have before : noticesIn ready.stage.signals = _ := noticesIn_wake round id member
    refine ⟨served, notices, fun other => ?_, popped.trans rewires, ?_⟩
    · have woken : ready.stage.fleet.members =
          (round.stage.fleet.setMember id (member.woken id round.stage.fleet.time)).members := rfl
      show (ready.execute id begun entry nanos).stage.fleet.members.get? other = _
      rw [set, woken, Fleet.setMember, Keyed.get?_insert, Keyed.get?_insert]
      split <;> rfl
    · show noticesIn (ready.execute id begun entry nanos).stage.signals = _
      rw [told, before, List.append_assoc]

end Round

/-! ### Stages -/

/-- A turtle was left alone or its equipment evolved, and that is all that was told of it. -/
def Stage.Rewired (id : TurtleId) (before after : Stage C M W) : Prop :=
  ∃ news, Rewires id (before.fleet.members.get? id) news (after.fleet.members.get? id) ∧
    noticesFor id after.signals = noticesFor id before.signals ++ news

namespace Stage.Rewired

variable {id : TurtleId} {before between after : Stage C M W}

theorem refl (id : TurtleId) (stage : Stage C M W) : Rewired id stage stage :=
  ⟨[], .refl .., (List.append_nil _).symm⟩

theorem trans (first : Rewired id before between) (second : Rewired id between after) :
    Rewired id before after := by
  obtain ⟨notices, rewires, told⟩ := first
  obtain ⟨news, rewiresLater, toldLater⟩ := second
  exact ⟨notices ++ news, rewires.trans rewiresLater, by rw [toldLater, told, List.append_assoc]⟩

/-- The turtle is left alone and only others are told of. -/
theorem of_kept {notices : List EquipmentNotice}
    (kept : after.fleet.members.get? id = before.fleet.members.get? id)
    (told : noticesIn after.signals = noticesIn before.signals ++ notices)
    (about : ∀ notice ∈ notices, notice.turtle ≠ id) : Rewired id before after := by
  refine ⟨[], ?_, ?_⟩
  · rw [kept]
    exact .refl ..
  · rw [noticesFor_of_others told about, List.append_nil]

theorem of_served {member served : Member C} {notices : List EquipmentNotice}
    (found : before.fleet.members.get? id = some member) (named : member.turtle.id = id)
    (set : ∀ other, after.fleet.members.get? other =
      if other = id then some served else before.fleet.members.get? other)
    (rewires : Rewires id (some member) notices (some served))
    (told : noticesIn after.signals = noticesIn before.signals ++ notices) (other : TurtleId) :
    Rewired other before after := by
  have about : ∀ notice ∈ notices, notice.turtle = id := by
    cases rewires with
    | evolved registration same attached evolves => exact named ▸ evolves.about
  by_cases own : other = id
  · subst own
    refine ⟨notices, ?_, noticesFor_of_own told about⟩
    rw [found, set, if_pos rfl]
    exact rewires
  · refine .of_kept ?_ told fun notice listed same => own (same.symm.trans (about notice listed))
    rw [set, if_neg own]

end Stage.Rewired

/-- Every turtle is registered under its own id. -/
def Fleet.Named (fleet : Fleet C M) : Prop :=
  ∀ id member, fleet.members.get? id = some member → member.turtle.id = id

theorem Fleet.Named.rewired {before after : Stage C M W} (named : before.fleet.Named)
    (rewired : ∀ id, Stage.Rewired id before after) : after.fleet.Named := by
  intro id served found
  obtain ⟨news, rewires, _⟩ := rewired id
  rw [found] at rewires
  generalize known : before.fleet.members.get? id = before? at rewires
  cases rewires with
  | evolved registration same attached evolves => exact same.trans (named id _ known)

/-! ### Ticks -/

theorem Stage.rewired_takeIn (stage : Stage C M W) (arrivals : List (Submitter × C))
    (id : TurtleId) : Rewired id stage { stage with fleet := stage.fleet.takeIn arrivals } := by
  refine ⟨[], ?_, (List.append_nil _).symm⟩
  show Rewires id _ [] ((stage.fleet.takeIn arrivals).members.get? id)
  rw [Fleet.get?_takeIn]
  cases stage.fleet.members.get? id with
  | none => exact .absent
  | some member => exact .evolved rfl rfl rfl (.rest _)

namespace Round

variable [World W] [WorkMonitor M]

theorem rewired_visit {round : Round TurtleCommand M W} (named : round.stage.fleet.Named)
    (id : TurtleId) (nanos : Nat) (other : TurtleId) :
    Stage.Rewired other round.stage (round.visit id nanos).stage := by
  rcases found : round.stage.fleet.members.get? id with _ | member
  · have left : round.visit id nanos = round := by simp only [visit, found]
    rw [left]
    exact .refl other round.stage
  · have own := named id member found
    obtain ⟨served, notices, set, rewires, told⟩ := visit_equipment found nanos
    have updated : Rewires id (some member) (member.updateUpgrades id round.stage.fleet.time).2
        (some (member.woken id round.stage.fleet.time)) := by
      rw [Member.woken_eq]
      refine .evolved rfl rfl rfl ?_
      rw [own]
      exact Equipment.evolves_update ..
    exact .of_served found own set (updated.trans rewires) told other

/-- With a computer the visited turtle has no stale side afterwards. -/
theorem fresh_visit {round : Round TurtleCommand M W} {id : TurtleId} {nanos : Nat}
    {served : Member TurtleCommand}
    (found : (round.visit id nanos).stage.fleet.members.get? id = some served)
    (joined : served.turtle.attached = true) (side : Side) :
    (served.turtle.equipment.mount side).stale = false := by
  rcases known : round.stage.fleet.members.get? id with _ | member
  · have left : round.visit id nanos = round := by simp only [visit, known]
    rw [left, known] at found
    cases found
  · obtain ⟨after, notices, set, rewires, _⟩ := visit_equipment known nanos
    rw [set, if_pos rfl] at found
    cases found
    cases rewires with
    | evolved registration named attached evolves =>
      rw [Member.woken_eq] at evolves attached
      have before : member.turtle.attached = true := attached.symm.trans joined
      refine evolves.fresh before (fun side => ?_) side
      dsimp only
      rw [before]
      exact Equipment.fresh_update ..

variable (arrivals : TurtleId → List (Submitter × TurtleCommand)) (nanos : TurtleId → Nat)

theorem rewired_turn {round : Round TurtleCommand M W} (named : round.stage.fleet.Named)
    (id other : TurtleId) :
    Stage.Rewired other round.stage (turn arrivals nanos round id).stage := by
  have taken (other : TurtleId) :
      Stage.Rewired other round.stage (round.takeIn (arrivals id)).stage :=
    round.stage.rewired_takeIn (arrivals id) other
  exact (taken other).trans (rewired_visit (named.rewired taken) id (nanos id) other)

theorem rewired_turns {round : Round TurtleCommand M W} (named : round.stage.fleet.Named)
    (ids : List TurtleId) (other : TurtleId) :
    Stage.Rewired other round.stage (ids.foldl (turn arrivals nanos) round).stage := by
  induction ids generalizing round with
  | nil => exact .refl other round.stage
  | cons id rest ih =>
    have first := rewired_turn arrivals nanos named id
    exact (first other).trans (ih (named.rewired first))

/-- After their turns no turtle with a computer has a stale side. -/
theorem fresh_turns {round : Round TurtleCommand M W} (named : round.stage.fleet.Named)
    {ids : List TurtleId} {id : TurtleId} (listed : id ∈ ids) {served : Member TurtleCommand}
    (found : (ids.foldl (turn arrivals nanos) round).stage.fleet.members.get? id = some served)
    (joined : served.turtle.attached = true) (side : Side) :
    (served.turtle.equipment.mount side).stale = false := by
  induction ids generalizing round with
  | nil => cases listed
  | cons next rest ih =>
    have first := rewired_turn arrivals nanos named next
    have namedNext := named.rewired first
    rcases List.mem_cons.mp listed with same | later
    · subst same
      -- the turns of others let the equipment evolve, which makes no side stale
      obtain ⟨_, rewires, _⟩ := rewired_turns arrivals nanos namedNext rest id
      rw [List.foldl_cons] at found
      rw [found] at rewires
      generalize known : (turn arrivals nanos round id).stage.fleet.members.get? id = before? at rewires
      cases rewires with
      | evolved registration own attached evolves =>
        have before := attached.symm.trans joined
        exact evolves.fresh before (fresh_visit known before) side
    · exact ih namedNext later found

end Round

namespace Stage

variable [World W] [WorkMonitor M] {stage : Stage TurtleCommand M W}

theorem rewired_tick (named : stage.fleet.Named)
    (arrivals : TurtleId → List (Submitter × TurtleCommand)) (nanos : TurtleId → Nat)
    (id : TurtleId) : Rewired id stage (stage.next (.tick arrivals nanos)) := by
  have begun : (Operation.opened stage).stage.fleet.Named := named
  obtain ⟨cursor, ended⟩ := stage.next_tick arrivals nanos
  rw [ended]
  exact Round.rewired_turns arrivals nanos begun stage.fleet.visitOrder id

theorem fresh_tick (named : stage.fleet.Named)
    (arrivals : TurtleId → List (Submitter × TurtleCommand)) (nanos : TurtleId → Nat)
    {id : TurtleId} {served : Member TurtleCommand}
    (found : (stage.next (.tick arrivals nanos)).fleet.members.get? id = some served)
    (joined : served.turtle.attached = true) (side : Side) :
    (served.turtle.equipment.mount side).stale = false := by
  have begun : (Operation.opened stage).stage.fleet.Named := named
  have registered : id ∈ stage.fleet.visitOrder := by
    obtain ⟨_, rewires, _⟩ := rewired_tick named arrivals nanos id
    rw [found] at rewires
    rw [Fleet.mem_visitOrder]
    generalize stage.fleet.members.get? id = before? at rewires ⊢
    cases rewires
    rfl
  obtain ⟨cursor, ended⟩ := stage.next_tick arrivals nanos
  rw [ended] at found
  exact Round.fresh_turns arrivals nanos begun registered found joined side

end Stage

end TurtleFleet
