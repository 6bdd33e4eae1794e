import TurtleFleet.Proofs.Fuelling
import TurtleFleet.Proofs.Sanitizing
import TurtleFleet.Wire.Turtle

/-! Tanks under any sequence of calls. A tank that is filled, or made for a tier, holds no more than its
cap, and then each call keeps the account: what is added is what the level gains, what is consumed is
what it loses. A tank that is read may hold more than its cap. The one call that goes wrong then is to
add: it breaks off, and afterwards the tank holds just its cap, so that this happens at most once. -/

namespace TurtleFleet

namespace Wire

theorem Yields.required {α : Type} {name : String} {read : Json → Option α} {meant : α → Prop}
    (reads : ∀ json value, read json = some value → meant value) :
    Yields (Wire.required name read) meant := by
  intro record value rest ended
  obtain ⟨⟨field, left⟩, _, readNext⟩ := Option.bind_eq_some_iff.mp ended
  rcases field with _ | json
  · cases readNext
  · obtain ⟨found, readJson, same⟩ := Option.bind_eq_some_iff.mp readNext
    cases same
    exact reads json _ readJson

end Wire

theorem Settings.Words.fuelLimit {settings : Settings} (words : settings.Words) (tier : Tier) :
    settings.fuelLimit tier < word32 :=
  Nat.lt_of_le_of_lt (settings.fuelLimit_le tier) words.ceiling

namespace FuelTank

/-- The numbers of a tank fit their word. -/
structure Words (tank : FuelTank) : Prop where
  level : tank.level < word32
  cap : tank.cap < word32

/-- No more fuel than the cap. -/
def Within (tank : FuelTank) : Prop := tank.level ≤ tank.cap

/-- The ways in which a tank comes about. -/
inductive Made : FuelTank → Prop where
  | filled {level cap : Nat} (level_small : level < word32) (cap_small : cap < word32)
      (required : Bool) : Made (filled level cap required)
  | forTier (tier : Tier) {settings : Settings} (words : settings.Words) :
      Made (forTier tier settings)
  | read {json : Json} {tank : FuelTank} (read : Wire.decode? json = some tank) : Made tank

/-- A call that may change a tank. -/
inductive Call where
  | consume (amount : Nat)
  | add (amount : Nat)
  | reconfigure (tier : Tier) (settings : Settings)

def Call.Words : Call → Prop
  | .consume amount | .add amount => amount < word32
  | .reconfigure _ settings => settings.Words

inductive Answer where
  | burnt (all : Bool)
  | gained (amount : Nat)
  | done
deriving DecidableEq, Repr

/-- The answer to a call, or its fault, and the tank that it leaves in either case. -/
def perform (tank : FuelTank) : Call → Except Fault Answer × FuelTank
  | .consume amount => ((tank.consume amount).1 |> .burnt |> .ok, (tank.consume amount).2)
  | .add amount => ((tank.add amount).1.map .gained, (tank.add amount).2)
  | .reconfigure tier settings => (.ok .done, tank.reconfigure tier settings)

/-- A tank after some calls. A call that breaks off leaves what it did before. -/
def handle (tank : FuelTank) (calls : List Call) : FuelTank :=
  calls.foldl (fun tank call => (tank.perform call).2) tank

/-- How a call keeps the account of a tank: what it answers, and what it leaves. -/
inductive Keeps (tank : FuelTank) : Call → Except Fault Answer × FuelTank → Prop where
  | burnt {amount : Nat} (required : tank.required = true) (enough : amount ≤ tank.level) :
      Keeps tank (.consume amount) (.ok (.burnt true), { tank with level := tank.level - amount })
  | short {amount : Nat} (required : tank.required = true) (less : tank.level < amount) :
      Keeps tank (.consume amount) (.ok (.burnt false), tank)
  | free {amount : Nat} (unneeded : tank.required = false) :
      Keeps tank (.consume amount) (.ok (.burnt true), tank)
  | gained {amount gain : Nat} (exact : gain = min amount tank.remaining)
      (most : tank.level + gain ≤ max tank.cap tank.level) :
      Keeps tank (.add amount) (.ok (.gained gain), { tank with level := tank.level + gain })
  | reconfigured {tier : Tier} {settings : Settings} {left : FuelTank}
      (cap : left.cap = settings.fuelLimit tier) (level : left.level = min tank.level left.cap)
      (required : left.required = settings.fuelRequired) :
      Keeps tank (.reconfigure tier settings) (.ok .done, left)

/-- Fuel is added to a tank that holds more than its cap. -/
def Call.Overruns (tank : FuelTank) : Call → Prop
  | .add _ => tank.cap < tank.level
  | _ => False

/-! ### How tanks come about -/

theorem within_filled (level cap : Nat) (required : Bool) : (filled level cap required).Within :=
  Nat.min_le_right ..

theorem words_of_decode? {json : Json} {tank : FuelTank} (read : Wire.decode? json = some tank) :
    tank.Words := by
  have word {name : String} : Wire.Yields (Wire.required name (Wire.count? word32)) (· < word32) :=
    .required fun _ _ => Wire.lt_of_count?
  refine Wire.Yields.record? (.bind word fun _ level => .bind word fun _ cap => ?_) read
  refine .bind (.required fun _ _ _ => trivial : Wire.Yields _ fun _ => True) fun _ _ => .pure ?_
  exact ⟨level, cap⟩

theorem words_filled {level cap : Nat} (small : cap < word32) (required : Bool) :
    (filled level cap required).Words :=
  ⟨Nat.lt_of_le_of_lt (Nat.min_le_right ..) small, small⟩

theorem Made.words {tank : FuelTank} (made : tank.Made) : tank.Words := by
  cases made with
  | filled level_small cap_small required => exact words_filled cap_small required
  | forTier tier words => exact words_filled (words.fuelLimit tier) _
  | read read => exact words_of_decode? read

/-! ### One call -/

variable {tank : FuelTank} {call : Call}

theorem Words.perform (words : tank.Words) (given : call.Words) : (tank.perform call).2.Words := by
  cases call with
  | consume amount =>
    simp only [FuelTank.perform, FuelTank.consume]
    split
    · exact words
    · split
      · exact ⟨Nat.lt_of_le_of_lt (Nat.sub_le ..) words.level, words.cap⟩
      · exact words
  | add amount => exact ⟨Nat.lt_of_le_of_lt (Nat.min_le_right ..) words.cap, words.cap⟩
  | reconfigure tier settings => exact words_filled (Settings.Words.fuelLimit given tier) _

/-- The word of the level is wide enough for the sum wherever the cap does not cut it off. -/
theorem Words.level_add (words : tank.Words) (amount : Nat) :
    (tank.add amount).2.level = min (min (tank.level + amount) (word32 - 1)) tank.cap := by
  have small := words.cap
  show min (tank.level + amount) tank.cap = _
  omega

theorem Within.perform (within : tank.Within) (call : Call) : (tank.perform call).2.Within := by
  cases call with
  | consume amount =>
    simp only [FuelTank.perform, FuelTank.consume]
    split
    · exact within
    · split
      · exact Nat.le_trans (Nat.sub_le ..) within
      · exact within
  | add amount => exact Nat.min_le_right ..
  | reconfigure tier settings => exact within_filled ..

/-- Adding to a tank that holds more than its cap breaks off and leaves the cap. -/
theorem perform_of_overruns (overruns : call.Overruns tank) :
    tank.perform call = (.error (.overflow .subtract), { tank with level := tank.cap }) := by
  cases call with
  | add amount =>
    have beyond : tank.cap < tank.level := overruns
    have cut : min (tank.level + amount) tank.cap = tank.cap := by omega
    simp only [perform, FuelTank.add, cut, checkedSub, if_neg (Nat.not_le_of_lt beyond)]
    rfl
  | consume amount => exact overruns.elim
  | reconfigure tier settings => exact overruns.elim

theorem keeps_of_not_overruns (plain : ¬ call.Overruns tank) : tank.Keeps call (tank.perform call) := by
  cases call with
  | consume amount =>
    cases required : tank.required with
    | false =>
      simp only [perform, FuelTank.consume, required, Bool.not_false, ↓reduceIte]
      exact .free required
    | true =>
      rcases Nat.lt_or_ge tank.level amount with less | enough
      · simp only [perform, FuelTank.consume, required, Bool.not_true, Bool.false_eq_true, ↓reduceIte,
          if_neg (Nat.not_le_of_lt less)]
        exact .short required less
      · simp only [perform, FuelTank.consume, required, Bool.not_true, Bool.false_eq_true, ↓reduceIte,
          if_pos enough]
        exact required ▸ .burnt required enough
  | add amount =>
    have within : tank.level ≤ tank.cap := Nat.not_lt.mp plain
    have sum : min (tank.level + amount) tank.cap = tank.level + min amount tank.remaining := by
      unfold remaining
      omega
    have gain : (tank.add amount).1 = .ok (min amount tank.remaining) := by
      simp only [FuelTank.add, sum, checkedSub_of_le (Nat.le_add_right ..), Nat.add_sub_cancel_left]
    have left : (tank.add amount).2 = { tank with level := tank.level + min amount tank.remaining } := by
      simp only [FuelTank.add, sum]
    rw [perform, gain, left]
    refine .gained rfl ?_
    unfold remaining
    omega
  | reconfigure tier settings => exact .reconfigured rfl rfl rfl

theorem keeps_perform_iff : tank.Keeps call (tank.perform call) ↔ ¬ call.Overruns tank := by
  refine ⟨fun keeps overruns => ?_, keeps_of_not_overruns⟩
  rw [perform_of_overruns overruns] at keeps
  cases keeps

theorem Within.not_overruns (within : tank.Within) : ¬ call.Overruns tank := by
  cases call with
  | add amount => exact Nat.not_lt.mpr within
  | consume amount => exact id
  | reconfigure tier settings => exact id

/-! ### Sequences of calls -/

theorem handle_append (tank : FuelTank) (before after : List Call) :
    tank.handle (before ++ after) = (tank.handle before).handle after :=
  List.foldl_append

theorem Words.handle {calls : List Call} (words : tank.Words) (given : ∀ call ∈ calls, call.Words) :
    (tank.handle calls).Words := by
  induction calls generalizing tank with
  | nil => exact words
  | cons call rest ih =>
    exact ih (words.perform (given call List.mem_cons_self)) fun other listed =>
      given other (List.mem_cons_of_mem _ listed)

theorem Within.handle (within : tank.Within) (calls : List Call) : (tank.handle calls).Within := by
  induction calls generalizing tank with
  | nil => exact within
  | cons call rest ih => exact ih (within.perform call)

/-- However a tank comes about and whatever is done to it, its numbers fit their words, and a sum that
does not fit is beyond the cap. Each call keeps the account, unless fuel is added to a tank that holds
more than its cap: then the call breaks off, and the tank holds its cap. Once a tank holds no more than
its cap it stays so, and every later call keeps the account. So it is from the beginning with tanks that
are filled or made for a tier. -/
theorem tanks_keep_account_unless_overfull {tank : FuelTank} (made : tank.Made) (calls : List Call)
    (given : ∀ call ∈ calls, call.Words) :
    (∀ before, before <+: calls → (tank.handle before).Words ∧
      ∀ amount, ((tank.handle before).add amount).2.level =
        min (min ((tank.handle before).level + amount) (word32 - 1)) (tank.handle before).cap) ∧
      (∀ before call, before ++ [call] <+: calls →
        ((tank.handle before).Keeps call ((tank.handle before).perform call) ↔
          ¬ call.Overruns (tank.handle before)) ∧
        (call.Overruns (tank.handle before) → (tank.handle before).perform call =
          (.error (.overflow .subtract), { tank.handle before with level := (tank.handle before).cap }))) ∧
      (∀ before later, before <+: later → later <+: calls → (tank.handle before).Within →
        (tank.handle later).Within ∧
          ∀ call, (tank.handle later).Keeps call ((tank.handle later).perform call)) ∧
      ∀ level cap required tier settings,
        (filled level cap required).Within ∧ (forTier tier settings).Within := by
  refine ⟨fun before begun => ?_, fun before call _ => ⟨keeps_perform_iff, perform_of_overruns⟩,
    fun before later further _ within => ?_,
    fun level cap required tier settings => ⟨within_filled .., within_filled ..⟩⟩
  · have words := made.words.handle fun call listed => given call (begun.subset listed)
    exact ⟨words, words.level_add⟩
  · obtain ⟨between, rfl⟩ := further
    rw [handle_append]
    have kept := within.handle between
    exact ⟨kept, fun call => keeps_of_not_overruns kept.not_overruns⟩

/-- A tank that is read with more fuel than its cap. -/
def overfull : Json := .obj [("level", .int 10), ("cap", .int 5), ("fuel_required", .bool true)]

theorem read_overfull : Wire.decode? overfull = some (⟨10, 5, true⟩ : FuelTank) := rfl

theorem tanks_keep_account_unless_overfull_siphoned :
    (⟨10, 5, true⟩ : FuelTank).Made ∧ (∀ call ∈ [Call.consume 6, .consume 7, .add 100], call.Words) ∧
      (⟨4, 5, true⟩ : FuelTank).Keeps (.add 100) (.ok (.gained 1), ⟨5, 5, true⟩) := by
  have made : (⟨10, 5, true⟩ : FuelTank).Made := .read read_overfull
  have given : ∀ call ∈ [Call.consume 6, .consume 7, .add 100], call.Words := by
    simp [Call.Words, word32]
  obtain ⟨_, each, _⟩ := tanks_keep_account_unless_overfull made _ given
  have last := (each [.consume 6, .consume 7] (.add 100) (List.prefix_refl _)).1
  have plain : ¬ (Call.add 100).Overruns (handle ⟨10, 5, true⟩ [.consume 6, .consume 7]) :=
    Nat.not_lt.mpr (by decide : 4 ≤ 5)
  exact ⟨made, given, last.mpr plain⟩

/-- Fuel is added to a tank that was read with more than its cap: nothing more fits in, the level falls,
and there is no answer. -/
theorem adding_may_break_off_overfull :
    (Wire.decode? overfull : Option FuelTank) = some ⟨10, 5, true⟩ ∧
      (⟨10, 5, true⟩ : FuelTank).Made ∧ (Call.add 1).Words ∧
      (⟨10, 5, true⟩ : FuelTank).remaining = 0 ∧
      (⟨10, 5, true⟩ : FuelTank).perform (.add 1) = (.error (.overflow .subtract), ⟨5, 5, true⟩) ∧
      ¬ (⟨10, 5, true⟩ : FuelTank).Keeps (.add 1) ((⟨10, 5, true⟩ : FuelTank).perform (.add 1)) :=
  ⟨read_overfull, .read read_overfull, by simp [Call.Words, word32], rfl, rfl, nofun⟩

end FuelTank

end TurtleFleet
