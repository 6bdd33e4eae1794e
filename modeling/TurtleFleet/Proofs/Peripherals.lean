import TurtleFleet.Proofs.Memory
import TurtleFleet.Proofs.Rewiring

/-! Peripherals: the registry of handles and the turtles agree. What the registry holds is what was
passed to it last; along every course that is what the turtles hold themselves, and nothing for a
turtle that is gone or has no computer. -/

namespace TurtleFleet

variable {C M W : Type}

namespace Stage

/-- What the registry holds for the sides of a turtle: the handles that were passed to it last. -/
def registry (stage : Stage C M W) (id : TurtleId) : Handles :=
  (noticesIn stage.signals).foldl (Handles.hear id) fun _ => none

theorem registry_of_told {before after : Stage C M W} {id : TurtleId}
    {news : List EquipmentNotice}
    (told : noticesFor id after.signals = noticesFor id before.signals ++ news) :
    after.registry id = news.foldl (Handles.hear id) (before.registry id) := by
  unfold registry
  rw [← Handles.foldl_hear_filter, ← Handles.foldl_hear_filter id (noticesIn before.signals),
    ← List.foldl_append]
  exact congrArg (List.foldl (Handles.hear id) _) told

/-! ### What the deeds do -/

/-- What becomes of a turtle under a deed, and what is told of its equipment. -/
inductive Refits (stage after : Stage C M W) (id : TurtleId) :
    Option (Member C) → List EquipmentNotice → Option (Member C) → Prop where
  | rewired {before? after? : Option (Member C)} {news : List EquipmentNotice}
      (rewires : Rewires id before? news after?) : Refits stage after id before? news after?
  | enrolled {turtle : Turtle} (named : turtle.id = id) (bare : turtle.equipment = {})
      (joined : turtle.attached = true)
      (counted : after.fleet.registrations = stage.fleet.registrations + 1) :
      Refits stage after id none []
        (some { registration := stage.fleet.registrations, turtle, queue := {} })
  | attached {member : Member C} (apart : member.turtle.attached = false) :
      Refits stage after id (some member) [] (some { member with turtle := { member.turtle with
        attached := true, equipment := member.turtle.equipment.invalidate } })
  | detached (member : Member C) :
      Refits stage after id (some member) (Equipment.dismissal id)
        (some { member with turtle := { member.turtle with
          attached := false, equipment := member.turtle.equipment.invalidate } })
  | removed (member : Member C) :
      Refits stage after id (some member)
        (if member.turtle.attached then Equipment.dismissal id else []) none

/-- A turtle meets one of these, and that is all that is told of it. -/
def Refitted (id : TurtleId) (before after : Stage C M W) : Prop :=
  ∃ news, Refits before after id (before.fleet.members.get? id) news
      (after.fleet.members.get? id) ∧
    noticesFor id after.signals = noticesFor id before.signals ++ news

theorem Rewired.refitted {id : TurtleId} {before after : Stage C M W}
    (rewired : Rewired id before after) : Refitted id before after := by
  obtain ⟨news, rewires, told⟩ := rewired
  exact ⟨news, .rewired rewires, told⟩

/-- The member of one turtle is replaced, and only that turtle is told of. -/
theorem refitted_of_set {before after : Stage C M W} {id : TurtleId}
    {member? next : Option (Member C)} {notices : List EquipmentNotice}
    (found : before.fleet.members.get? id = member?)
    (refits : Refits before after id member? notices next)
    (set : ∀ other, after.fleet.members.get? other =
      if other = id then next else before.fleet.members.get? other)
    (told : noticesIn after.signals = noticesIn before.signals ++ notices)
    (about : ∀ notice ∈ notices, notice.turtle = id) (other : TurtleId) :
    Refitted other before after := by
  by_cases own : other = id
  · subst own
    refine ⟨notices, ?_, noticesFor_of_own told about⟩
    rw [found, set, if_pos rfl]
    exact refits
  · refine (Rewired.of_kept ?_ told fun notice listed same =>
      own (same.symm.trans (about notice listed))).refitted
    rw [set, if_neg own]

theorem about_dismissal (id : TurtleId) :
    ∀ notice ∈ Equipment.dismissal id, notice.turtle = id := by
  simp [Equipment.dismissal, Side.all, EquipmentNotice.turtle]

variable [World W] [WorkMonitor M] {stage : Stage TurtleCommand M W}

theorem refitted_next (named : stage.fleet.Named) {deed : Deed TurtleCommand W}
    (whole : ¬ stage.Breaks deed.perform) (id : TurtleId) :
    Refitted id stage (stage.next deed) := by
  have does := stage.does_next deed whole
  generalize left : stage.next deed = after at does ⊢
  have silent {after : Stage TurtleCommand M W} {news : List Signal}
      (members : after.fleet.members = stage.fleet.members)
      (signals : after.signals = stage.signals ++ news) (untold : noticesIn news = []) :
      Refitted id stage after := by
    have told : noticesIn after.signals = noticesIn stage.signals ++ [] := by
      rw [signals, noticesIn_append, untold]
    exact (Rewired.of_kept (congrArg (Keyed.get? · id) members) told nofun).refitted
  cases does with
  | declined quiet untimed lasting => exact (Rewired.refl id stage).refitted
  | unremoved missing => exact (Rewired.refl id stage).refitted
  | submitted submitter command =>
    exact (stage.rewired_takeIn [(submitter, command)] id).refitted
  | @submittedFor owner member command found =>
    exact (stage.rewired_takeIn [(member.handle owner, command)] id).refitted
  | ticked arrivals nanos =>
    rw [← left]
    exact (rewired_tick named arrivals nanos id).refitted
  | unspawned absent spawned quiet untold => exact silent rfl rfl untold
  | discarded absent spawned foreign removed quiet untold => exact silent rfl rfl untold
  | @enrolled spec entity world news absent spawned kind quiet untold =>
    have told : noticesIn (stage.signals ++ news) = noticesIn stage.signals ++ [] := by
      rw [noticesIn_append, untold]
    exact refitted_of_set absent (.enrolled rfl rfl rfl rfl) (fun other => Keyed.get?_insert ..)
      told (fun _ listed => by cases listed) id
  | @upgraded owner member side upgrade found =>
    have rewires : Rewires owner (some member)
        (member.turtle.setUpgrade side upgrade member.turtle.attached).2.2
        (some { member with
          turtle := (member.turtle.setUpgrade side upgrade member.turtle.attached).2.1 }) :=
      .evolved rfl rfl rfl (Equipment.evolves_set ..)
    refine (Rewired.of_served found (named owner member found) (fun other => Keyed.get?_insert ..)
      rewires ?_ id).refitted
    rw [noticesIn_append, noticesIn_equipment]
  | attached found apart =>
    refine refitted_of_set found (.attached apart) (fun other => Keyed.get?_insert ..) ?_
      (fun _ listed => by cases listed) id
    exact (List.append_nil _).symm
  | @detached owner member found joined =>
    refine refitted_of_set found (.detached member) (fun other => Keyed.get?_insert ..) ?_
      (about_dismissal owner) id
    rw [noticesIn_append, noticesIn_equipment]
  | @removed owner member world news found answered quiet told =>
    refine refitted_of_set found (.removed member) (fun other => Keyed.get?_erase ..) ?_ ?_ id
    · rw [noticesIn_append, noticesIn_append, noticesIn_append, told, noticesIn_published]
      simp [noticesIn, Signal.notice?]
    · intro notice listed
      split at listed
      · exact about_dismissal owner notice listed
      · cases listed
  | reshaped change => exact silent rfl (List.append_nil _).symm rfl

end Stage

/-! ### Agreement -/

/-- There are no handles for a turtle that is not registered, and for one that is there are those of
its equipment. -/
inductive Handles.Fit (id : TurtleId) (handles : Handles) : Option (Member C) → Prop where
  | absent (bare : ∀ side, handles side = none) : Fit id handles none
  | registered {member : Member C} (named : member.turtle.id = id)
      (wired : member.turtle.equipment.Wired id member.turtle.attached handles) :
      Fit id handles (some member)

namespace Stage

/-- Every turtle has the handles in the registry that fit it. -/
def Wired (stage : Stage C M W) : Prop :=
  ∀ id, (stage.registry id).Fit id (stage.fleet.members.get? id)

theorem Wired.named {stage : Stage C M W} (wired : stage.Wired) : stage.fleet.Named := by
  intro id member found
  have fit := wired id
  rw [found] at fit
  cases fit with
  | registered named _ => exact named

theorem Opening.wired {stage : Stage C M W} (opening : stage.Opening) : stage.Wired := by
  intro id
  rw [opening.members]
  obtain ⟨made, catalog, world⟩ := opening
  exact .absent fun side => rfl

/-- Whatever becomes of a turtle under a deed, its handles go on fitting it. -/
theorem Refits.fit {stage after : Stage C M W} {id : TurtleId} {before? after? : Option (Member C)}
    {news : List EquipmentNotice} (refits : Refits stage after id before? news after?)
    {handles : Handles} (fit : handles.Fit id before?) :
    (news.foldl (Handles.hear id) handles).Fit id after? := by
  have cleared {equipment : Equipment} (wired : equipment.Wired id false handles) :
      handles = fun _ => none :=
    funext fun side => (wired.agrees side).trans (wired.none_of_apart rfl side)
  have dismissed : (Equipment.dismissal id).foldl (Handles.hear id) handles = fun _ => none :=
    funext (Handles.foldl_hear_dismissal id handles)
  cases refits with
  | rewired rewires =>
    cases rewires with
    | absent => exact fit
    | evolved registration named attached evolves =>
      cases fit with
      | registered own wired =>
        subst own
        exact .registered named (attached ▸ evolves.wired wired)
  | enrolled named bare joined counted =>
    cases fit with
    | absent empty =>
      have cleared : handles = fun _ => none := funext empty
      refine .registered named ?_
      rw [bare, joined, cleared]
      exact Equipment.wired_bare id
  | @attached member apart =>
    cases fit with
    | registered named wired =>
      rw [apart] at wired
      refine .registered named ?_
      rw [cleared wired]
      exact Equipment.wired_invalidate ..
  | detached member =>
    cases fit with
    | registered named wired =>
      refine .registered named ?_
      rw [dismissed]
      exact Equipment.wired_invalidate ..
  | removed member =>
    cases fit with
    | registered named wired =>
      refine .absent fun side => ?_
      cases joined : member.turtle.attached with
      | true => exact congrFun dismissed side
      | false =>
        rw [joined] at wired
        exact congrFun (cleared wired) side

variable [World W] [WorkMonitor M]

theorem wired_next {stage : Stage TurtleCommand M W} (wired : stage.Wired)
    {deed : Deed TurtleCommand W} (whole : ¬ stage.Breaks deed.perform) :
    (stage.next deed).Wired := by
  intro id
  obtain ⟨news, refits, told⟩ := refitted_next wired.named whole id
  rw [registry_of_told told]
  exact refits.fit (wired id)

theorem wired_of_leads {start last : Stage TurtleCommand M W} {course : List (Deed TurtleCommand W)}
    (wired : start.Wired) (led : start.Leads course last) : last.Wired := by
  induction led with
  | rest stage => exact wired
  | step whole later ih => exact ih (wired_next wired whole)

end Stage

/-! ### Generations -/

namespace Stage

variable [World W] [WorkMonitor M]

/-- The handles that a deed passes on for a registration that is in force. -/
def passedIn (handle : Submitter) (stage : Stage TurtleCommand M W) (deed : Deed TurtleCommand W) :
    List PeripheralHandle :=
  if (stage.fleet.holder? handle).isSome then
    handlesIn ((noticesFor handle.turtleId (stage.next deed).signals).drop
      (noticesFor handle.turtleId stage.signals).length)
  else []

/-- The handles that the deeds of a course pass on for a registration. -/
def passed (start : Stage TurtleCommand M W) (handle : Submitter)
    (course : List (Deed TurtleCommand W)) : List PeripheralHandle :=
  start.collect (passedIn handle) course

theorem passedIn_of_told {stage : Stage TurtleCommand M W} {deed : Deed TurtleCommand W}
    {handle : Submitter} {member : Member TurtleCommand} {news : List EquipmentNotice}
    (held : stage.fleet.holder? handle = some member)
    (told : noticesFor handle.turtleId (stage.next deed).signals =
      noticesFor handle.turtleId stage.signals ++ news) :
    passedIn handle stage deed = handlesIn news := by
  rw [passedIn, held, told, List.drop_left]
  rfl

omit [World W] [WorkMonitor M] in
/-- The handles that were passed on for a registration are numbered from zero on, and the equipment
goes on from there. -/
structure Tally (stage : Stage C M W) (handle : Submitter) (passed : List PeripheralHandle) :
    Prop where
  counted : passed.map (·.generation) = (List.range' 0 passed.length).map (· % word64)
  current : ∀ member, stage.fleet.holder? handle = some member →
    handle.registration < stage.fleet.registrations ∧
      member.turtle.equipment.nextGeneration = passed.length % word64
  unborn : stage.fleet.registrations ≤ handle.registration → passed = []

namespace Tally

omit [World W] [WorkMonitor M] in
theorem of_opening {stage : Stage C M W} (opening : stage.Opening) (handle : Submitter) :
    stage.Tally handle [] where
  counted := rfl
  current member held := by
    rw [Fleet.holder?, opening.members] at held
    cases held
  unborn _ := rfl

omit [World W] [WorkMonitor M] in
/-- The handles that a turtle is given are numbered on from those before. -/
theorem of_refits {stage after : Stage C M W} {id : TurtleId} {member : Member C}
    {next : Option (Member C)} {news : List EquipmentNotice} {made : Nat}
    (refits : Refits stage after id (some member) news next)
    (number : member.turtle.equipment.nextGeneration = made % word64) :
    (handlesIn news).map (·.generation) =
        (List.range' made (handlesIn news).length).map (· % word64) ∧
      ∀ now, next = some now → now.turtle.equipment.nextGeneration =
        (made + (handlesIn news).length) % word64 := by
  have silent {news : List EquipmentNotice} {next : Option (Member C)} (none : handlesIn news = [])
      (kept : ∀ now, next = some now →
        now.turtle.equipment.nextGeneration = member.turtle.equipment.nextGeneration) :
      (handlesIn news).map (·.generation) =
          (List.range' made (handlesIn news).length).map (· % word64) ∧
        ∀ now, next = some now → now.turtle.equipment.nextGeneration =
          (made + (handlesIn news).length) % word64 := by
    rw [none, List.length_nil, Nat.add_zero]
    exact ⟨rfl, fun now same => (kept now same).trans number⟩
  cases refits with
  | rewired rewires =>
    cases rewires with
    | evolved registration named attached evolves =>
      obtain ⟨generations, last⟩ := evolves.counted number
      refine ⟨generations, ?_⟩
      rintro now ⟨⟩
      exact last
  | attached apart => exact silent rfl fun now same => by cases same; rfl
  | detached member => exact silent rfl fun now same => by cases same; rfl
  | removed member => exact silent (by split <;> rfl) fun now same => by cases same

omit [World W] [WorkMonitor M] in
/-- A registration that comes into force has made no handle yet. -/
theorem of_gone {stage after : Stage C M W} {handle : Submitter} {now : Member C}
    {news : List EquipmentNotice} (gone : stage.fleet.holder? handle = none)
    (own : now.handle handle.turtleId = handle)
    (refits : Refits stage after handle.turtleId
      (stage.fleet.members.get? handle.turtleId) news (some now)) :
    handle.registration = stage.fleet.registrations ∧
      handle.registration < after.fleet.registrations ∧
      now.turtle.equipment.nextGeneration = 0 := by
  have other {member : Member C}
      (known : stage.fleet.members.get? handle.turtleId = some member)
      (same : now.registration = member.registration) : False := by
    have held : stage.fleet.holder? handle = some member := by
      refine Fleet.holder?_eq_some_iff.mpr ⟨known, ?_⟩
      rw [← own, Member.handle, ← same]
      rfl
    rw [gone] at held
    cases held
  generalize known : stage.fleet.members.get? handle.turtleId = before? at refits
  cases refits with
  | rewired rewires =>
    cases rewires with
    | evolved registration named attached evolves => exact (other known registration).elim
  | enrolled named bare joined counted =>
    have registration : handle.registration = stage.fleet.registrations := by rw [← own]; rfl
    exact ⟨registration, by omega, by rw [bare]⟩
  | attached apart => exact (other known rfl).elim
  | detached member => exact (other known rfl).elim

theorem next {stage : Stage TurtleCommand M W} {handle : Submitter}
    {passed : List PeripheralHandle} (tally : stage.Tally handle passed)
    (named : stage.fleet.Named) {deed : Deed TurtleCommand W} (whole : ¬ stage.Breaks deed.perform) :
    (stage.next deed).Tally handle (passed ++ passedIn handle stage deed) := by
  obtain ⟨news, refits, told⟩ := refitted_next named whole handle.turtleId
  have grown := (stage.fleet_next deed whole).2.2
  rcases held : stage.fleet.holder? handle with _ | member
  · have nothing : passedIn handle stage deed = [] := by rw [passedIn, held]; rfl
    rw [nothing, List.append_nil]
    refine { counted := tally.counted, current := fun now heldNext => ?_,
             unborn := fun early => tally.unborn (Nat.le_trans grown early) }
    obtain ⟨found, own⟩ := Fleet.holder?_eq_some_iff.mp heldNext
    rw [found] at refits
    obtain ⟨registration, born, zero⟩ := of_gone held own refits
    rw [tally.unborn (Nat.le_of_eq registration.symm), zero]
    exact ⟨born, rfl⟩
  · obtain ⟨born, number⟩ := tally.current member held
    obtain ⟨found, own⟩ := Fleet.holder?_eq_some_iff.mp held
    rw [found] at refits
    obtain ⟨generations, last⟩ := of_refits refits number
    rw [passedIn_of_told held told]
    refine { counted := ?_, current := fun now heldNext => ⟨by omega, ?_⟩,
             unborn := fun early => by omega }
    · rw [List.map_append, tally.counted, generations, ← List.map_append, List.length_append,
        ← List.range'_append_1, Nat.zero_add]
    · rw [List.length_append]
      exact last now (Fleet.holder?_eq_some_iff.mp heldNext).1

theorem of_leads {start last : Stage TurtleCommand M W} {course : List (Deed TurtleCommand W)}
    {handle : Submitter} {earlier : List PeripheralHandle} (tally : start.Tally handle earlier)
    (wired : start.Wired) (led : start.Leads course last) :
    last.Tally handle (earlier ++ start.passed handle course) := by
  induction led generalizing earlier with
  | rest stage => simpa [Stage.passed, collect] using tally
  | step whole later ih =>
    have more := ih (tally.next wired.named whole) (wired_next wired whole)
    rwa [List.append_assoc] at more

omit [World W] [WorkMonitor M] in
/-- As long as the numbers fit into their word they ascend. -/
theorem ascending {stage : Stage C M W} {handle : Submitter} {passed : List PeripheralHandle}
    (tally : stage.Tally handle passed) (few : passed.length ≤ word64) :
    (passed.map (·.generation)).Pairwise (· < ·) := by
  have whole : (List.range' 0 passed.length).map (· % word64) = List.range' 0 passed.length := by
    have small : ∀ number ∈ List.range' 0 passed.length, number % word64 = id number := by
      intro number listed
      have := (List.mem_range'_1.mp listed).2
      exact Nat.mod_eq_of_lt (by omega)
    rw [List.map_congr_left small, List.map_id]
  rw [tally.counted, whole]
  exact List.pairwise_lt_range'

end Tally

/-- The registry and the turtles agree. After every course it holds the handles of the registered
turtles and nothing for anyone else, also nothing for a turtle without a computer. After a tick a
turtle with a computer has a handle on just those sides where a computer can find the upgrade, and it
names the turtle, the side, the upgrade and its type. The generations of the handles that are passed
on for one registration ascend, as long as they fit into their word. -/
theorem registry_agrees {start last : Stage TurtleCommand M W} {course : List (Deed TurtleCommand W)}
    (opening : start.Opening) (led : start.Leads course last) :
    (∀ id side, last.registry id side =
      (last.fleet.turtle? id).bind (·.equipment.peripheral side)) ∧
    (∀ id turtle, last.fleet.turtle? id = some turtle → turtle.attached = false →
      ∀ side, last.registry id side = none) ∧
    (∀ arrivals nanos id turtle,
      (last.next (.tick arrivals nanos)).fleet.turtle? id = some turtle → turtle.attached = true →
      ∀ side, ∃ generation, turtle.equipment.peripheral side =
        (turtle.equipment.get? side).bind fun upgrade =>
          upgrade.peripheralType.map fun peripheralType =>
            { turtleId := id, side, upgradeId := upgrade.id, peripheralType, generation }) ∧
    ∀ handle, (start.passed handle course).length ≤ word64 →
      ((start.passed handle course).map (·.generation)).Pairwise (· < ·) := by
  have wired := wired_of_leads opening.wired led
  refine ⟨fun id side => ?_, fun id turtle found apart side => ?_,
    fun arrivals nanos id turtle found joined side => ?_, fun handle few => ?_⟩
  · have fit := wired id
    unfold Fleet.turtle?
    generalize last.fleet.members.get? id = member? at fit ⊢
    cases fit with
    | absent bare => exact bare side
    | registered named wired => exact wired.agrees side
  · obtain ⟨member, known, rfl⟩ := Option.map_eq_some_iff.mp found
    have fit := wired id
    rw [known] at fit
    cases fit with
    | registered named wired => rw [wired.agrees, wired.none_of_apart apart]
  · obtain ⟨member, known, rfl⟩ := Option.map_eq_some_iff.mp found
    have ticked : last.Leads [.tick arrivals nanos] (last.next (.tick arrivals nanos)) :=
      .step (fun ⟨_, _, broken⟩ => by cases broken) (.rest _)
    have fit := wired_of_leads wired ticked id
    rw [known] at fit
    cases fit with
    | registered named wiredNext =>
      exact (wiredNext.fresh side (fresh_tick wired.named arrivals nanos known joined side)).2
  · exact (Tally.of_leads (.of_opening opening handle) opening.wired led).ascending few

/-- A turtle gets a modem on each side and loses its computer, while another one keeps both. -/
def refitCourse : List (Deed TurtleCommand MemoryWorld) :=
  [.register { Sample.scout with inventory := { slots := [some ⟨"wireless_modem", 2⟩] } },
    .register { Sample.scout with turtleId := "pilot", pos := ⟨2, 64, 0⟩ },
    .submit "scout" (.equip .left), Sample.tick,
    .setUpgrade "scout" .right (some (.modem "ender_modem")),
    .setUpgrade "pilot" .right (some (.modem "ender_modem")), .detach "scout"]

theorem registry_agrees_refitCourse :
    Sample.stage.Opening ∧ Sample.stage.Leads refitCourse (Sample.stage.run refitCourse) ∧
      (∀ side, (Sample.stage.run refitCourse).registry "scout" side = none) ∧
      (Sample.stage.run refitCourse).registry "pilot" .right = some
        { turtleId := "pilot", side := .right, upgradeId := "ender_modem",
          peripheralType := "modem", generation := 0 } ∧
      (∃ turtle, ((Sample.stage.run refitCourse).next Sample.tick).fleet.turtle? "pilot" =
          some turtle ∧
        ∃ generation, turtle.equipment.peripheral .right = some
          { turtleId := "pilot", side := .right, upgradeId := "ender_modem",
            peripheralType := "modem", generation }) ∧
      (Sample.stage.passed ⟨"scout", 0⟩ refitCourse).length = 2 ∧
      ((Sample.stage.passed ⟨"scout", 0⟩ refitCourse).map (·.generation)).Pairwise (· < ·) := by
  have led : Sample.stage.Leads refitCourse (Sample.stage.run refitCourse) := leads_run ..
  have two : (Sample.stage.passed ⟨"scout", 0⟩ refitCourse).length = 2 := by rfl
  obtain ⟨agree, none, fit, ascend⟩ := registry_agrees Sample.opening led
  obtain ⟨scout, found, apart⟩ : ∃ turtle,
      (Sample.stage.run refitCourse).fleet.turtle? "scout" = some turtle ∧
        turtle.attached = false := ⟨_, rfl, rfl⟩
  obtain ⟨pilot, later, joined, upgrade⟩ : ∃ turtle,
      ((Sample.stage.run refitCourse).next Sample.tick).fleet.turtle? "pilot" = some turtle ∧
        turtle.attached = true ∧
        turtle.equipment.get? .right = some (.modem "ender_modem") := ⟨_, rfl, rfl, rfl⟩
  obtain ⟨generation, handle⟩ := fit _ _ "pilot" pilot later joined .right
  refine ⟨Sample.opening, led, none "scout" scout found apart, (agree "pilot" .right).trans rfl,
    ⟨pilot, later, generation, ?_⟩, two, ascend ⟨"scout", 0⟩ (by rw [two]; decide)⟩
  rw [handle, upgrade]
  rfl

end Stage

end TurtleFleet
