import TurtleFleet.Equipment
import TurtleFleet.Proofs.Notices

/-! The wiring of one turtle: how its equipment evolves while it stays registered and keeps its
computer, and that the handles which the computer was given are those that the equipment holds. A side
is stale exactly as long as its handle is still to be made, and until then there is none. -/

namespace TurtleFleet

namespace EquipmentNotice

def turtle : EquipmentNotice → TurtleId
  | peripheral turtle _ _ => turtle
  | updated _ turtle _ _ => turtle

def handle? : EquipmentNotice → Option PeripheralHandle
  | peripheral _ _ handle => handle
  | updated .. => none

end EquipmentNotice

def handlesIn (notices : List EquipmentNotice) : List PeripheralHandle :=
  notices.filterMap EquipmentNotice.handle?

/-- The handles that the computer of a turtle was given last. -/
abbrev Handles := Side → Option PeripheralHandle

/-- A handle takes the place of the one that was given before. Notices about other turtles go unheard. -/
def Handles.hear (turtle : TurtleId) (handles : Handles) : EquipmentNotice → Handles
  | .peripheral other side handle => fun place =>
    if other = turtle ∧ place = side then handle else handles place
  | .updated .. => handles

namespace Handles

theorem hear_of_ne {turtle : TurtleId} {notice : EquipmentNotice} (other : notice.turtle ≠ turtle)
    (handles : Handles) : handles.hear turtle notice = handles := by
  cases notice with
  | peripheral owner side handle =>
    funext place
    exact if_neg fun both => other both.1
  | updated upgrade owner side time => rfl

theorem foldl_hear_filter (turtle : TurtleId) (notices : List EquipmentNotice) (handles : Handles) :
    (notices.filter (·.turtle = turtle)).foldl (hear turtle) handles =
      notices.foldl (hear turtle) handles := by
  induction notices generalizing handles with
  | nil => rfl
  | cons notice rest ih =>
    by_cases own : notice.turtle = turtle
    · rw [List.filter_cons_of_pos (by simpa using own), List.foldl_cons, List.foldl_cons, ih]
    · rw [List.filter_cons_of_neg (by simpa using own), List.foldl_cons, hear_of_ne own, ih]

theorem foldl_hear_dismissal (turtle : TurtleId) (handles : Handles) (side : Side) :
    (Equipment.dismissal turtle).foldl (hear turtle) handles side = none := by
  cases side <;> simp [Equipment.dismissal, Side.all, hear]

end Handles

namespace Equipment

/-! ### Handles that are made -/

/-- The equipment after an upgrade was put on a side and the handle of the side was made. -/
def renewed (equipment : Equipment) (turtle : TurtleId) (side : Side) (upgrade : Option Upgrade) :
    Equipment :=
  ((equipment.setMount side { upgrade, stale := true }).refresh side turtle).1

/-- The handle that the next one of a side would be. -/
def nextHandle (equipment : Equipment) (turtle : TurtleId) (side : Side)
    (upgrade : Option Upgrade) : Option PeripheralHandle :=
  upgrade.bind (handleFor turtle side equipment.nextGeneration)

theorem mount_renewed (equipment : Equipment) (turtle : TurtleId) (side : Side)
    (upgrade : Option Upgrade) (other : Side) :
    (equipment.renewed turtle side upgrade).mount other =
      if other = side then { upgrade, peripheral := equipment.nextHandle turtle side upgrade }
      else equipment.mount other := by
  cases side <;> cases other <;> rfl

theorem nextGeneration_renewed (equipment : Equipment) (turtle : TurtleId) (side : Side)
    (upgrade : Option Upgrade) :
    (equipment.renewed turtle side upgrade).nextGeneration =
      if (equipment.nextHandle turtle side upgrade).isSome then
        (equipment.nextGeneration + 1) % word64
      else equipment.nextGeneration := by
  cases side <;> rfl

theorem refresh_eq (equipment : Equipment) (side : Side) (turtle : TurtleId) :
    equipment.refresh side turtle = (equipment.renewed turtle side (equipment.get? side),
      .peripheral turtle side (equipment.nextHandle turtle side (equipment.get? side))) := by
  cases side <;> rfl

theorem generation_of_nextHandle {equipment : Equipment} {turtle : TurtleId} {side : Side}
    {upgrade : Option Upgrade} {handle : PeripheralHandle}
    (made : equipment.nextHandle turtle side upgrade = some handle) :
    handle.generation = equipment.nextGeneration := by
  obtain ⟨upgrade, _, found⟩ := Option.bind_eq_some_iff.mp made
  obtain ⟨_, _, same⟩ := Option.map_eq_some_iff.mp found
  rw [← same]

/-! ### Evolution -/

/-- How the equipment of a turtle can evolve while it keeps its computer, or stays without one, and
what is told of it. -/
inductive Evolves (turtle : TurtleId) (attached : Bool) :
    Equipment → Equipment → List EquipmentNotice → Prop where
  | rest (equipment : Equipment) : Evolves turtle attached equipment equipment []
  | updated (upgrade : Upgrade) (side : Side) (time : Nat) {equipment after : Equipment}
      {notices : List EquipmentNotice} (later : Evolves turtle attached equipment after notices) :
      Evolves turtle attached equipment after (.updated upgrade turtle side time :: notices)
  /-- Without a computer the handle is to be made later. -/
  | shelved (apart : attached = false) (side : Side) (upgrade : Option Upgrade)
      {equipment after : Equipment} {notices : List EquipmentNotice}
      (later : Evolves turtle attached (equipment.setMount side { upgrade, stale := true }) after
        notices) :
      Evolves turtle attached equipment after notices
  | renewed (joined : attached = true) (side : Side) (upgrade : Option Upgrade)
      {equipment after : Equipment} {notices : List EquipmentNotice}
      (later : Evolves turtle attached (equipment.renewed turtle side upgrade) after notices) :
      Evolves turtle attached equipment after
        (.peripheral turtle side (equipment.nextHandle turtle side upgrade) :: notices)

variable {turtle : TurtleId} {attached : Bool} {equipment between after : Equipment}
  {notices news : List EquipmentNotice}

namespace Evolves

theorem trans (first : Evolves turtle attached equipment between notices)
    (second : Evolves turtle attached between after news) :
    Evolves turtle attached equipment after (notices ++ news) := by
  induction first with
  | rest equipment => exact second
  | updated upgrade side time _ ih => exact .updated upgrade side time (ih second)
  | shelved apart side upgrade _ ih => exact .shelved apart side upgrade (ih second)
  | renewed joined side upgrade _ ih => exact .renewed joined side upgrade (ih second)

theorem about (evolves : Evolves turtle attached equipment after notices) :
    ∀ notice ∈ notices, notice.turtle = turtle := by
  induction evolves with
  | rest equipment => exact nofun
  | updated upgrade side time _ ih => exact List.forall_mem_cons.mpr ⟨rfl, ih⟩
  | shelved apart side upgrade _ ih => exact ih
  | renewed joined side upgrade _ ih => exact List.forall_mem_cons.mpr ⟨rfl, ih⟩

end Evolves

theorem evolves_set (equipment : Equipment) (side : Side) (upgrade : Option Upgrade)
    (turtle : TurtleId) (attached : Bool) :
    Evolves turtle attached equipment (equipment.set side upgrade turtle attached).equipment
      (equipment.set side upgrade turtle attached).notices := by
  unfold set
  split
  · exact .rest equipment
  · cases attached with
    | false => exact .shelved rfl side upgrade (.rest _)
    | true => cases side <;> exact .renewed rfl _ upgrade (.rest _)

theorem evolves_updateSide (equipment : Equipment) (turtle : TurtleId) (time : Nat)
    (attached : Bool) (side : Side) :
    Evolves turtle attached equipment (equipment.updateSide turtle time attached side).1
      (equipment.updateSide turtle time attached side).2 := by
  have told {after : Equipment} {notices : List EquipmentNotice}
      (later : Evolves turtle attached equipment after notices) :
      Evolves turtle attached equipment after
        (((equipment.get? side).toList.map fun upgrade => .updated upgrade turtle side time) ++
          notices) := by
    cases equipment.get? side with
    | none => exact later
    | some upgrade => exact .updated upgrade side time later
  unfold updateSide
  split
  · rename_i renews
    rw [refresh_eq]
    exact told (.renewed (Bool.and_eq_true_iff.mp renews).2 side _ (.rest _))
  · have silent := told (.rest equipment)
    rwa [List.append_nil] at silent

theorem evolves_update (equipment : Equipment) (turtle : TurtleId) (time : Nat) (attached : Bool) :
    Evolves turtle attached equipment (equipment.update turtle time attached).1
      (equipment.update turtle time attached).2 :=
  (evolves_updateSide equipment turtle time attached .left).trans
    (evolves_updateSide _ turtle time attached .right)

/-! ### What is kept -/

/-- The computer holds the handles of the equipment. A side without a handle that is still to be made
has the handle of its upgrade, if a computer can find that, and there is a computer. -/
structure Wired (equipment : Equipment) (turtle : TurtleId) (attached : Bool) (handles : Handles) :
    Prop where
  agrees : ∀ side, handles side = equipment.peripheral side
  stale : ∀ side, (equipment.mount side).stale = true → equipment.peripheral side = none
  fresh : ∀ side, (equipment.mount side).stale = false → attached = true ∧
    ∃ generation, equipment.peripheral side =
      (equipment.get? side).bind (handleFor turtle side generation)

theorem wired_bare (turtle : TurtleId) : Wired {} turtle true fun _ => none where
  agrees side := by cases side <;> rfl
  stale side _ := by cases side <;> rfl
  fresh side _ := ⟨rfl, 0, by cases side <;> rfl⟩

/-- When a computer comes or goes there is no handle until the next update. -/
theorem wired_invalidate (equipment : Equipment) (turtle : TurtleId) (attached : Bool) :
    Wired equipment.invalidate turtle attached fun _ => none where
  agrees side := by cases side <;> rfl
  stale side _ := by cases side <;> rfl
  fresh side fresh := by cases side <;> cases fresh

namespace Wired

variable {handles : Handles}

theorem none_of_apart (wired : equipment.Wired turtle attached handles) (apart : attached = false)
    (side : Side) : equipment.peripheral side = none := by
  cases stale : (equipment.mount side).stale with
  | true => exact wired.stale side stale
  | false =>
    have joined := (wired.fresh side stale).1
    rw [apart] at joined
    cases joined

theorem shelved (wired : equipment.Wired turtle attached handles) (apart : attached = false)
    (side : Side) (upgrade : Option Upgrade) :
    (equipment.setMount side { upgrade, stale := true }).Wired turtle attached handles := by
  have bare (other : Side) :
      (equipment.setMount side { upgrade, stale := true }).peripheral other = none := by
    rw [peripheral, mount_setMount]
    split
    · rfl
    · exact wired.none_of_apart apart other
  refine { agrees := fun other => ?_, stale := fun other _ => bare other, fresh := fun other => ?_ }
  · rw [bare, wired.agrees, wired.none_of_apart apart]
  · rw [mount_setMount]
    intro fresh
    split at fresh
    · cases fresh
    · have joined := (wired.fresh other fresh).1
      rw [apart] at joined
      cases joined

theorem renewed (wired : equipment.Wired turtle attached handles) (joined : attached = true)
    (side : Side) (upgrade : Option Upgrade) :
    (equipment.renewed turtle side upgrade).Wired turtle attached
      (handles.hear turtle (.peripheral turtle side (equipment.nextHandle turtle side upgrade))) := by
  have same (other : Side) : (equipment.renewed turtle side upgrade).mount other = _ :=
    mount_renewed equipment turtle side upgrade other
  refine { agrees := fun other => ?_, stale := fun other => ?_, fresh := fun other => ?_ }
  · rw [peripheral, same]
    by_cases here : other = side
    · simp [Handles.hear, here]
    · rw [if_neg here]
      exact (if_neg fun both => here both.2).trans (wired.agrees other)
  · rw [peripheral, same]
    split
    · exact nofun
    · exact wired.stale other
  · rw [peripheral, get?, same]
    split
    · rename_i here
      exact fun _ => ⟨joined, equipment.nextGeneration, by rw [here]; rfl⟩
    · exact wired.fresh other

end Wired

namespace Evolves

theorem wired (evolves : Evolves turtle attached equipment after notices) {handles : Handles}
    (wired : equipment.Wired turtle attached handles) :
    after.Wired turtle attached (notices.foldl (Handles.hear turtle) handles) := by
  induction evolves generalizing handles with
  | rest equipment => exact wired
  | updated upgrade side time _ ih => exact ih wired
  | shelved apart side upgrade _ ih => exact ih (wired.shelved apart side upgrade)
  | renewed joined side upgrade _ ih => exact ih (wired.renewed joined side upgrade)

theorem fresh (evolves : Evolves turtle attached equipment after notices) (joined : attached = true)
    (fresh : ∀ side, (equipment.mount side).stale = false) (side : Side) :
    (after.mount side).stale = false := by
  induction evolves with
  | rest equipment => exact fresh side
  | updated upgrade side time _ ih => exact ih fresh
  | shelved apart side upgrade _ ih =>
    rw [joined] at apart
    cases apart
  | renewed _ place upgrade _ ih =>
    refine ih fun other => ?_
    rw [mount_renewed]
    split
    · rfl
    · exact fresh other

/-- Handles are numbered one after the other, on both sides together. -/
theorem counted (evolves : Evolves turtle attached equipment after notices) {made : Nat}
    (start : equipment.nextGeneration = made % word64) :
    (handlesIn notices).map (·.generation) =
        (List.range' made (handlesIn notices).length).map (· % word64) ∧
      after.nextGeneration = (made + (handlesIn notices).length) % word64 := by
  induction evolves generalizing made with
  | rest equipment => exact ⟨rfl, start⟩
  | updated upgrade side time _ ih => exact ih start
  | shelved apart side upgrade _ ih =>
    refine ih ?_
    cases side <;> exact start
  | @renewed joined side upgrade equipment after notices _ ih =>
    have next := equipment.nextGeneration_renewed turtle side upgrade
    rcases passed : equipment.nextHandle turtle side upgrade with _ | handle
    · rw [passed] at next
      exact ih (next.trans start)
    · rw [passed, start, Nat.mod_add_mod] at next
      obtain ⟨generations, last⟩ := ih next
      have numbered := (generation_of_nextHandle passed).trans start
      have more : handlesIn (.peripheral turtle side (some handle) :: notices) =
          handle :: handlesIn notices := rfl
      rw [more, List.map_cons, List.length_cons, List.range'_succ, List.map_cons, generations,
        numbered, last]
      exact ⟨rfl, by congr 1; omega⟩

end Evolves

theorem fresh_update (equipment : Equipment) (turtle : TurtleId) (time : Nat) (side : Side) :
    ((equipment.update turtle time true).1.mount side).stale = false := by
  have own (equipment : Equipment) (side : Side) :
      ((equipment.updateSide turtle time true side).1.mount side).stale = false := by
    unfold updateSide
    split
    · rw [refresh_eq, mount_renewed, if_pos rfl]
    · rename_i fresh
      simpa using fresh
  have left := own equipment .left
  cases side with
  | right => exact own _ .right
  | left =>
    have kept (equipment : Equipment) :
        (equipment.updateSide turtle time true .right).1.mount .left = equipment.mount .left := by
      unfold updateSide
      split
      · rw [refresh_eq, mount_renewed, if_neg nofun]
      · rfl
    exact (congrArg Mount.stale (kept _)).trans left

end Equipment

end TurtleFleet
