import TurtleFleet.Fleet.Basic

/-! What equipment tells the outside, picked out of all that an onlooker sees. Calls to the world and
events tell nothing of it. -/

namespace TurtleFleet

def Effect.notice? : Effect → Option EquipmentNotice
  | equipment notice => some notice
  | world .. => none

/-- The notices of equipment among some effects. -/
def noticesOf (effects : List Effect) : List EquipmentNotice := effects.filterMap Effect.notice?

@[simp] theorem noticesOf_nil : noticesOf [] = [] := rfl

@[simp] theorem noticesOf_append (first second : List Effect) :
    noticesOf (first ++ second) = noticesOf first ++ noticesOf second :=
  List.filterMap_append

@[simp] theorem noticesOf_equipment (notices : List EquipmentNotice) :
    noticesOf (notices.map .equipment) = notices := by
  induction notices with
  | nil => rfl
  | cons notice rest ih => exact congrArg (notice :: ·) ih

@[simp] theorem noticesOf_world (call : WorldCall) (outcome : CallOutcome)
    (movers : List TurtleId) : noticesOf [.world call outcome movers] = [] := rfl

def Signal.notice? : Signal → Option EquipmentNotice
  | effect noted => noted.notice?
  | published _ => none
  | closed _ => none

/-- The notices of equipment among some signals. -/
def noticesIn (signals : List Signal) : List EquipmentNotice := signals.filterMap Signal.notice?

@[simp] theorem noticesIn_nil : noticesIn [] = [] := rfl

@[simp] theorem noticesIn_append (first second : List Signal) :
    noticesIn (first ++ second) = noticesIn first ++ noticesIn second :=
  List.filterMap_append

@[simp] theorem noticesIn_effects (effects : List Effect) :
    noticesIn (effects.map .effect) = noticesOf effects := by
  rw [noticesIn, List.filterMap_map]
  rfl

@[simp] theorem noticesIn_equipment (notices : List EquipmentNotice) :
    noticesIn (notices.map fun notice => .effect (.equipment notice)) = notices := by
  have effects := noticesIn_effects (notices.map .equipment)
  rw [List.map_map, noticesOf_equipment] at effects
  exact effects

@[simp] theorem noticesIn_published {α : Type} (values : List α) (event : α → Event) :
    noticesIn (values.map fun value => .published (event value)) = [] := by
  induction values with
  | nil => rfl
  | cons value rest ih => exact ih

end TurtleFleet
