import TurtleFleet.Proofs.Sanitizing
import TurtleFleet.Proofs.Spelling

/-! Overriding settings: what the variables of an environment make of them. A variable that is absent or
blank leaves its setting alone; one that is spelled as its setting is written replaces it. The first one
that is neither is what the error names. -/

namespace TurtleFleet

inductive Setting where
  | fuelRequired
  | fuelLimit
  | advancedFuelLimit
  | tickBudget
  | tickRate
deriving DecidableEq, Repr

namespace Setting

/-- The settings in the order in which their variables are looked at. -/
def all : List Setting := [fuelRequired, fuelLimit, advancedFuelLimit, tickBudget, tickRate]

def key : Setting → String
  | fuelRequired => "TURTLE_WORLD_FUEL_REQUIRED"
  | fuelLimit => "TURTLE_WORLD_FUEL_LIMIT"
  | advancedFuelLimit => "TURTLE_WORLD_ADVANCED_FUEL_LIMIT"
  | tickBudget => "TURTLE_WORLD_TICK_BUDGET_MS"
  | tickRate => "TURTLE_WORLD_TICK_RATE_HZ"

abbrev Value : Setting → Type
  | fuelRequired => Bool
  | fuelLimit | advancedFuelLimit | tickBudget | tickRate => Nat

def Means : (setting : Setting) → String → setting.Value → Prop
  | fuelRequired => Text.Switches
  | fuelLimit | advancedFuelLimit | tickRate => Text.Counts word32
  | tickBudget => Text.Counts word64

def get : (setting : Setting) → Settings → setting.Value
  | fuelRequired => Settings.fuelRequired
  | fuelLimit => Settings.normalFuelLimit
  | advancedFuelLimit => Settings.advancedFuelLimit
  | tickBudget => Settings.tickBudgetMs
  | tickRate => Settings.tickRate

def set : (setting : Setting) → setting.Value → Settings → Settings
  | fuelRequired, value, settings => { settings with fuelRequired := value }
  | fuelLimit, value, settings => { settings with normalFuelLimit := value }
  | advancedFuelLimit, value, settings => { settings with advancedFuelLimit := value }
  | tickBudget, value, settings => { settings with tickBudgetMs := value }
  | tickRate, value, settings => { settings with tickRate := value }

/-- What the environment makes of the value of a setting. -/
inductive Follows (environment : Environment) (setting : Setting) (before : setting.Value) :
    setting.Value → Prop where
  | kept (ungiven : ∀ text, environment setting.key = some text → Text.Blank text) :
      Follows environment setting before before
  | replaced {text word : String} {after : setting.Value}
      (given : environment setting.key = some text) (written : ¬ Text.Blank text)
      (holds : Text.Holds text word) (means : setting.Means word after) :
      Follows environment setting before after

/-- The variable has a text that is not blank and means nothing for its setting. -/
structure Malformed (environment : Environment) (setting : Setting) (text : String) : Prop where
  given : environment setting.key = some text
  written : ¬ Text.Blank text
  senseless : ∀ word value, Text.Holds text word → ¬ setting.Means word value

structure FirstMalformed (environment : Environment) (setting : Setting) (text : String) : Prop where
  malformed : setting.Malformed environment text
  first : ∃ earlier later, all = earlier ++ setting :: later ∧
    ∀ other ∈ earlier, ∀ text, ¬ other.Malformed environment text

end Setting

/-- All but what variables override is the same. -/
structure Settings.Spares (before after : Settings) : Prop where
  ceiling : after.maxFuelLimit = before.maxFuelLimit
  duration : after.animationDuration = before.animationDuration
  capacity : after.eventCapacity = before.eventCapacity
  fuels : after.fuelValues = before.fuelValues

/-- Exactly the settings that the environment gives a value are replaced by it. -/
structure Settings.Replaces (environment : Environment) (before after : Settings) : Prop where
  follows : ∀ setting : Setting, setting.Follows environment (setting.get before) (setting.get after)
  spares : before.Spares after

namespace Setting

/-! ### One setting -/

def read : (setting : Setting) → String → Option setting.Value
  | fuelRequired => Settings.switch?
  | fuelLimit | advancedFuelLimit | tickRate => Text.count? word32
  | tickBudget => Text.count? word64

def override (setting : Setting) : Override where
  key := setting.key
  apply text settings := (setting.read text).map (setting.set · settings)

theorem overrides_eq : Settings.overrides = all.map override := rfl

theorem mem_all (setting : Setting) : setting ∈ all := by
  cases setting <;> decide

theorem read_eq_some_iff {setting : Setting} {word : String} {value : setting.Value} :
    setting.read word = some value ↔ setting.Means word value := by
  cases setting with
  | fuelRequired => exact Text.switch?_eq_some_iff
  | fuelLimit | advancedFuelLimit | tickRate | tickBudget => exact Text.count?_eq_some_iff

theorem get_set (setting : Setting) (value : setting.Value) (settings : Settings) :
    setting.get (setting.set value settings) = value := by
  cases setting <;> rfl

theorem get_set_of_ne {setting other : Setting} (apart : other ≠ setting) (value : setting.Value)
    (settings : Settings) : other.get (setting.set value settings) = other.get settings := by
  cases setting <;> cases other <;> first | rfl | exact absurd rfl apart

theorem set_get (setting : Setting) (settings : Settings) :
    setting.set (setting.get settings) settings = settings := by
  cases setting <;> rfl

theorem spares_set (setting : Setting) (value : setting.Value) (settings : Settings) :
    settings.Spares (setting.set value settings) := by
  cases setting <;> exact ⟨rfl, rfl, rfl, rfl⟩

variable {environment : Environment} {setting : Setting}

theorem Follows.not_malformed {before after : setting.Value}
    (follows : setting.Follows environment before after) (text : String) :
    ¬ setting.Malformed environment text := by
  intro malformed
  cases follows with
  | kept ungiven => exact malformed.written (ungiven text malformed.given)
  | replaced given written holds means =>
    cases given.symm.trans malformed.given
    exact malformed.senseless _ _ holds means

theorem Follows.unique {before first second : setting.Value}
    (follows : setting.Follows environment before first)
    (again : setting.Follows environment before second) : first = second := by
  cases follows with
  | kept ungiven =>
    cases again with
    | kept _ => rfl
    | replaced given written _ _ => exact (written (ungiven _ given)).elim
  | replaced given written holds means =>
    cases again with
    | kept ungiven => exact (written (ungiven _ given)).elim
    | replaced givenAgain _ holdsAgain meansAgain =>
      cases given.symm.trans givenAgain
      cases (Text.trim_eq_iff.mpr holds).symm.trans (Text.trim_eq_iff.mpr holdsAgain)
      exact Option.some.inj ((read_eq_some_iff.mpr means).symm.trans (read_eq_some_iff.mpr meansAgain))

theorem Follows.of_read {text : String} {before after : setting.Value}
    (given : environment setting.key = some text) (written : ¬ Text.Blank text)
    (meant : setting.read (Text.trim text) = some after) : setting.Follows environment before after :=
  .replaced given written (Text.trim_eq_iff.mp rfl) (read_eq_some_iff.mp meant)

theorem Malformed.of_read {text : String} (given : environment setting.key = some text)
    (written : ¬ Text.Blank text) (senseless : setting.read (Text.trim text) = none) :
    setting.Malformed environment text := by
  refine ⟨given, written, fun word value holds means => ?_⟩
  rw [Text.trim_eq_iff.mpr holds, read_eq_some_iff.mpr means] at senseless
  cases senseless

/-- Taking over one variable: its setting follows the environment, or the variable is malformed. -/
theorem overrideBy_cases (environment : Environment) (setting : Setting) (settings : Settings) :
    (∃ value, setting.Follows environment (setting.get settings) value ∧
      Settings.overrideBy environment settings setting.override = .ok (setting.set value settings)) ∨
    ∃ text, setting.Malformed environment text ∧
      Settings.overrideBy environment settings setting.override =
        .error (.invalidValue setting.key text) := by
  simp only [Settings.overrideBy, override]
  cases kept : (environment setting.key).filter fun text => !Text.isBlankText text with
  | none =>
    refine .inl ⟨setting.get settings, .kept fun text given => ?_, by rw [set_get]⟩
    rw [given, Option.filter_eq_none_iff] at kept
    have blank := kept text rfl
    rw [Bool.not_eq_true, Bool.not_eq_false'] at blank
    exact Text.isBlankText_iff.mp blank
  | some text =>
    obtain ⟨given, some⟩ := Option.filter_eq_some_iff.mp kept
    have written : ¬ Text.Blank text := by
      rw [← Text.isBlankText_iff]
      simpa using some
    dsimp only
    cases meant : setting.read (Text.trim text) with
    | some value => exact .inl ⟨value, .of_read given written meant, rfl⟩
    | none => exact .inr ⟨text, .of_read given written meant, rfl⟩

/-! ### All settings -/

/-- Where no variable is malformed, the settings of all of them follow the environment and the others
stay as they are. -/
theorem foldlM_of_formed {list : List Setting} (distinct : list.Nodup)
    (formed : ∀ setting ∈ list, ∀ text, ¬ setting.Malformed environment text) (before : Settings) :
    ∃ after, (list.map override).foldlM (Settings.overrideBy environment) before = .ok after ∧
      (∀ setting ∈ list, setting.Follows environment (setting.get before) (setting.get after)) ∧
      (∀ setting ∉ list, setting.get after = setting.get before) ∧ before.Spares after := by
  induction list generalizing before with
  | nil => exact ⟨before, rfl, nofun, fun _ _ => rfl, rfl, rfl, rfl, rfl⟩
  | cons setting rest ih =>
    obtain ⟨fresh, distinct⟩ := List.nodup_cons.mp distinct
    rcases overrideBy_cases environment setting before with ⟨value, follows, taken⟩ | ⟨text, wrong, _⟩
    · obtain ⟨after, further, each, others, spares⟩ :=
        ih distinct (fun other listed => formed other (List.mem_cons_of_mem _ listed))
          (setting.set value before)
      have mine : setting.get after = value := (others setting fresh).trans (get_set ..)
      have past := spares_set setting value before
      refine ⟨after, ?_, fun other listed => ?_, fun other unlisted => ?_, ?_⟩
      · rw [List.map_cons, List.foldlM_cons, taken]
        exact further
      · rcases List.mem_cons.mp listed with rfl | later
        · exact mine ▸ follows
        · have apart : other ≠ setting := fun same => fresh (same ▸ later)
          exact get_set_of_ne apart value before ▸ each other later
      · rw [List.mem_cons, not_or] at unlisted
        exact (others other unlisted.2).trans (get_set_of_ne unlisted.1 value before)
      · exact ⟨spares.ceiling.trans past.ceiling, spares.duration.trans past.duration,
          spares.capacity.trans past.capacity, spares.fuels.trans past.fuels⟩
    · exact (formed setting List.mem_cons_self text wrong).elim

/-- The first malformed variable ends it, whatever comes later. -/
theorem foldlM_of_malformed {earlier later : List Setting} {text : String}
    (formed : ∀ other ∈ earlier, ∀ text, ¬ other.Malformed environment text)
    (malformed : setting.Malformed environment text) (before : Settings) :
    ((earlier ++ setting :: later).map override).foldlM (Settings.overrideBy environment) before =
      .error (.invalidValue setting.key text) := by
  induction earlier generalizing before with
  | nil =>
    rw [List.nil_append, List.map_cons, List.foldlM_cons]
    rcases overrideBy_cases environment setting before with ⟨value, follows, _⟩ | ⟨other, again, refused⟩
    · exact (follows.not_malformed text malformed).elim
    · cases again.given.symm.trans malformed.given
      rw [refused]
      rfl
  | cons first rest ih =>
    rw [List.cons_append, List.map_cons, List.foldlM_cons]
    rcases overrideBy_cases environment first before with ⟨value, _, taken⟩ | ⟨other, wrong, _⟩
    · rw [taken]
      exact ih (fun other listed => formed other (List.mem_cons_of_mem _ listed)) _
    · exact (formed first List.mem_cons_self other wrong).elim

/-- If any variable is malformed, one of them is the first. -/
theorem formed_or_malformed (environment : Environment) (list : List Setting) :
    (∀ setting ∈ list, ∀ text, ¬ setting.Malformed environment text) ∨
      ∃ earlier setting later text, list = earlier ++ setting :: later ∧
        (∀ other ∈ earlier, ∀ text, ¬ other.Malformed environment text) ∧
        setting.Malformed environment text := by
  induction list with
  | nil => exact .inl nofun
  | cons setting rest ih =>
    by_cases wrong : ∃ text, setting.Malformed environment text
    · obtain ⟨text, malformed⟩ := wrong
      exact .inr ⟨[], setting, rest, text, rfl, nofun, malformed⟩
    · have right := not_exists.mp wrong
      rcases ih with formed | ⟨earlier, other, later, text, rfl, formed, malformed⟩
      · exact .inl (List.forall_mem_cons.mpr ⟨right, formed⟩)
      · exact .inr ⟨setting :: earlier, other, later, text, rfl,
          List.forall_mem_cons.mpr ⟨right, formed⟩, malformed⟩

end Setting

namespace Settings

variable {environment : Environment} {before : Settings}

theorem Replaces.unique {first second : Settings} (replaces : before.Replaces environment first)
    (again : before.Replaces environment second) : first = second := by
  have same (setting : Setting) : setting.get first = setting.get second :=
    (replaces.follows setting).unique (again.follows setting)
  have past := replaces.spares
  have pastAgain := again.spares
  cases first
  cases second
  rw [Settings.mk.injEq]
  exact ⟨same .fuelRequired, same .fuelLimit, same .advancedFuelLimit,
    past.ceiling.trans pastAgain.ceiling.symm, past.duration.trans pastAgain.duration.symm,
    same .tickBudget, past.capacity.trans pastAgain.capacity.symm, same .tickRate,
    past.fuels.trans pastAgain.fuels.symm⟩

/-- If no variable is malformed the settings can be replaced, and taking over the variables does it. -/
theorem replaces_of_formed (before : Settings)
    (formed : ∀ setting text, ¬ Setting.Malformed environment setting text) :
    ∃ after, before.Replaces environment after ∧
      overrides.foldlM (overrideBy environment) before = .ok after := by
  obtain ⟨after, taken, follows, _, spares⟩ :=
    Setting.foldlM_of_formed (by decide : Setting.all.Nodup) (fun setting _ => formed setting) before
  exact ⟨after, ⟨fun setting => follows setting setting.mem_all, spares⟩, taken⟩

theorem Replaces.formed {after : Settings} (replaces : before.Replaces environment after)
    (setting : Setting) (text : String) : ¬ setting.Malformed environment text :=
  (replaces.follows setting).not_malformed text

/-- Overriding is exact. Either no variable is malformed, and then the result is what sanitizing makes of
the settings in which exactly those with a variable that is not blank are replaced; or some are, and then
the result is an error with the name of the first of them and its text as it is. -/
theorem overriding_is_exact (settings : Settings) (environment : Environment)
    (small : settings.animationDuration < word32 - 1) :
    (∀ replaced, settings.Replaces environment replaced →
      ∃ sane, replaced.sanitized = .ok sane ∧ settings.overridden environment = .ok sane) ∧
    (∀ setting text, Setting.FirstMalformed environment setting text →
      settings.overridden environment = .error (.refused (.invalidValue setting.key text))) ∧
    ((∃ replaced, settings.Replaces environment replaced) ↔
      ∀ setting text, ¬ Setting.FirstMalformed environment setting text) := by
  refine ⟨fun replaced replaces => ?_, fun setting text first => ?_, ?_⟩
  · obtain ⟨after, again, taken⟩ := replaces_of_formed settings replaces.formed
    cases replaces.unique again
    have duration : replaced.animationDuration + 1 < word32 := by
      rw [replaces.spares.duration]
      omega
    obtain ⟨rounded, even, _⟩ := evenDuration_of_small duration
    refine ⟨_, sanitized_of_duration even, ?_⟩
    rw [overridden, taken]
    dsimp only
    rw [sanitized_of_duration even]
    rfl
  · obtain ⟨earlier, later, order, formed⟩ := first.first
    rw [overridden, Setting.overrides_eq, order, Setting.foldlM_of_malformed formed first.malformed]
  · constructor
    · rintro ⟨replaced, replaces⟩ setting text first
      exact replaces.formed setting text first.malformed
    · intro none
      rcases Setting.formed_or_malformed environment Setting.all with
        formed | ⟨earlier, setting, later, text, order, formed, malformed⟩
      · obtain ⟨after, replaces, _⟩ :=
          replaces_of_formed settings fun setting => formed setting setting.mem_all
        exact ⟨after, replaces⟩
      · exact (none setting text ⟨malformed, earlier, later, order, formed⟩).elim

/-- Variables in unusual spellings, one of them blank and one for nothing. -/
def scrawled : Environment := fun key =>
  [("TURTLE_WORLD_FUEL_REQUIRED", "\u00a0oFF\t"), ("TURTLE_WORLD_FUEL_LIMIT", "+0012\n"),
    ("TURTLE_WORLD_TICK_BUDGET_MS", "\u3000"), ("TURTLE_WORLD_TICK_RATE_HZ", "0"),
    ("TURTLE_WORLD_SEED", "lots")].lookup key

/-- Two variables that mean nothing, the second of them for want of ASCII digits. -/
def garbled : Environment := fun key =>
  [("TURTLE_WORLD_FUEL_REQUIRED", "1"), ("TURTLE_WORLD_ADVANCED_FUEL_LIMIT", " 4294967296"),
    ("TURTLE_WORLD_TICK_RATE_HZ", "\u0662\u0660")].lookup key

theorem overriding_is_exact_scrawled :
    (7 < word32 - 1 ∧
      ∃ replaced sane, ({ animationDuration := 7 } : Settings).Replaces scrawled replaced ∧
        (replaced.fuelRequired, replaced.normalFuelLimit, replaced.tickBudgetMs, replaced.tickRate) =
          (false, 12, 10, 0) ∧
        replaced.sanitized = .ok sane ∧
        ({ animationDuration := 7 } : Settings).overridden scrawled = .ok sane) ∧
      Setting.FirstMalformed garbled .advancedFuelLimit " 4294967296" ∧
      ({} : Settings).overridden garbled =
        .error (.refused (.invalidValue "TURTLE_WORLD_ADVANCED_FUEL_LIMIT" " 4294967296")) := by
  have small : ({ animationDuration := 7 } : Settings).animationDuration < word32 - 1 := by decide
  have replaces : ({ animationDuration := 7 } : Settings).Replaces scrawled
      { animationDuration := 7, fuelRequired := false, normalFuelLimit := 12, tickRate := 0 } := by
    refine ⟨fun setting => ?_, rfl, rfl, rfl, rfl⟩
    cases setting with
    | fuelRequired => exact .of_read rfl (by decide) (by decide +kernel)
    | fuelLimit => exact .of_read rfl (by decide) (by decide +kernel)
    | advancedFuelLimit => exact .kept nofun
    | tickBudget =>
      refine .kept fun text given => ?_
      cases given
      decide
    | tickRate => exact .of_read rfl (by decide) (by decide +kernel)
  have first : Setting.FirstMalformed garbled .advancedFuelLimit " 4294967296" := by
    have on : Setting.Follows garbled .fuelRequired true true :=
      .of_read rfl (by decide) (by decide +kernel)
    have kept : Setting.Follows garbled .fuelLimit 0 0 := .kept nofun
    refine ⟨.of_read rfl (by decide) (by decide +kernel), [.fuelRequired, .fuelLimit], _, rfl, ?_⟩
    exact List.forall_mem_cons.mpr ⟨on.not_malformed, List.forall_mem_singleton.mpr kept.not_malformed⟩
  obtain ⟨sane, same, taken⟩ := (overriding_is_exact _ scrawled small).1 _ replaces
  exact ⟨⟨small, _, sane, replaces, rfl, same, taken⟩, first,
    (overriding_is_exact {} garbled (by decide)).2.1 _ _ first⟩

end Settings

end TurtleFleet
