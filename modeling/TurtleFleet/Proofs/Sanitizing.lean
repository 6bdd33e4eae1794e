import TurtleFleet.Fleet.Basic
import TurtleFleet.Settings.Sources

/-! Sanitizing: settings whose numbers fit their words become settings in normal form, and settings in
normal form stay what they are. The one duration that cannot be rounded up is the greatest word; with
any other one a fleet can be made, and settings can be had from every source or are refused. -/

namespace TurtleFleet

namespace Settings

/-- Every number fits its word. -/
structure Words (settings : Settings) : Prop where
  normal : settings.normalFuelLimit < word32
  advanced : settings.advancedFuelLimit < word32
  ceiling : settings.maxFuelLimit < word32
  duration : settings.animationDuration < word32
  budget : settings.tickBudgetMs < word64
  capacity : settings.eventCapacity < word64
  rate : settings.tickRate < word32
  fuels : ∀ entry ∈ settings.fuelValues.entries, entry.2 < word32

/-- Settings in normal form. -/
structure Sane (settings : Settings) : Prop where
  ceiling : 1 ≤ settings.maxFuelLimit
  normal : settings.normalFuelLimit ≤ settings.maxFuelLimit
  advanced : settings.advancedFuelLimit ≤ settings.maxFuelLimit
  duration : 2 ≤ settings.animationDuration
  even : settings.animationDuration % 2 = 0
  capacity : 1 ≤ settings.eventCapacity
  rate : 1 ≤ settings.tickRate
  fuels : ∀ entry ∈ settings.fuelValues.entries, 1 ≤ entry.2

/-! ### Sanitizing -/

theorem evenDuration_of_even {duration : Nat} (long : 2 ≤ duration) (even : duration % 2 = 0) :
    evenDuration duration = .ok duration := by
  rw [evenDuration, Nat.max_eq_left long]
  exact if_pos even

/-- Every duration can be rounded up but the greatest word, which is odd. -/
theorem evenDuration_of_small {duration : Nat} (small : duration + 1 < word32) :
    ∃ rounded, evenDuration duration = .ok rounded ∧ duration ≤ rounded ∧ 2 ≤ rounded ∧
      rounded % 2 = 0 ∧ rounded < word32 := by
  have two : 2 < word32 := by decide
  unfold evenDuration
  dsimp only
  by_cases even : max duration 2 % 2 = 0
  · exact ⟨_, if_pos even, by omega, by omega, even, by omega⟩
  · rw [if_neg even, if_pos (by omega)]
    exact ⟨_, rfl, by omega, by omega, by omega, by omega⟩

theorem sanitized_of_duration {settings : Settings} {rounded : Nat}
    (even : evenDuration settings.animationDuration = .ok rounded) :
    settings.sanitized = .ok { settings with
      maxFuelLimit :=
        if settings.maxFuelLimit = 0 then defaultMaxFuelLimit else settings.maxFuelLimit
      normalFuelLimit := min settings.normalFuelLimit
        (if settings.maxFuelLimit = 0 then defaultMaxFuelLimit else settings.maxFuelLimit)
      advancedFuelLimit := min settings.advancedFuelLimit
        (if settings.maxFuelLimit = 0 then defaultMaxFuelLimit else settings.maxFuelLimit)
      animationDuration := rounded
      eventCapacity := max settings.eventCapacity 1
      tickRate := max settings.tickRate 1
      fuelValues := settings.fuelValues.filter fun _ value => 0 < value } := by
  rw [sanitized, even]
  rfl

theorem sanitized_of_sane {settings : Settings} (sane : settings.Sane) :
    settings.sanitized = .ok settings := by
  have kept : settings.fuelValues.filter (fun _ value => 0 < value) = settings.fuelValues :=
    Keyed.filter_eq_self fun entry listed => decide_eq_true (sane.fuels entry listed)
  rw [sanitized_of_duration (evenDuration_of_even sane.duration sane.even),
    if_neg (Nat.ne_of_gt sane.ceiling), Nat.min_eq_left sane.normal, Nat.min_eq_left sane.advanced,
    Nat.max_eq_left sane.capacity, Nat.max_eq_left sane.rate, kept]

theorem sanitized_of_words {settings : Settings} (words : settings.Words)
    (small : settings.animationDuration ≠ word32 - 1) :
    ∃ sane, settings.sanitized = .ok sane ∧ sane.Sane ∧ sane.Words ∧
      settings.animationDuration ≤ sane.animationDuration := by
  have fits := words.duration
  obtain ⟨rounded, even, most, two, halves, below⟩ : ∃ rounded, _ ∧ _ :=
    evenDuration_of_small (by omega : settings.animationDuration + 1 < word32)
  have ceiling : 1 ≤ (if settings.maxFuelLimit = 0 then defaultMaxFuelLimit
        else settings.maxFuelLimit) ∧
      (if settings.maxFuelLimit = 0 then defaultMaxFuelLimit else settings.maxFuelLimit) < word32 := by
    have some : 1 ≤ defaultMaxFuelLimit ∧ defaultMaxFuelLimit < word32 := by decide
    have known := words.ceiling
    split <;> omega
  refine ⟨_, sanitized_of_duration even, ?_, ?_, most⟩
  · exact {
      ceiling := ceiling.1, duration := two, even := halves
      normal := Nat.min_le_right .., advanced := Nat.min_le_right ..
      capacity := Nat.le_max_right .., rate := Nat.le_max_right ..
      fuels := fun entry listed => of_decide_eq_true (Keyed.mem_filter.mp listed).2 }
  · have one : 1 < word32 ∧ 1 < word64 := by decide
    have capacity := words.capacity
    have rate := words.rate
    exact {
      ceiling := ceiling.2, duration := below, budget := words.budget
      normal := Nat.lt_of_le_of_lt (Nat.min_le_left ..) words.normal
      advanced := Nat.lt_of_le_of_lt (Nat.min_le_left ..) words.advanced
      capacity := by dsimp only; omega
      rate := by dsimp only; omega
      fuels := fun entry listed => words.fuels entry (Keyed.mem_filter.mp listed).1 }

theorem sanitized_of_last {settings : Settings} (last : settings.animationDuration = word32 - 1) :
    settings.sanitized = .error (.overflow .add) := by
  rw [sanitized, last]
  rfl

end Settings

/-! ### Reading settings -/

namespace Wire

variable {α β : Type}

/-- Whatever the reader reads is meant. -/
def Yields (reader : RecordReader α) (meant : α → Prop) : Prop :=
  ∀ record value rest, reader record = some (value, rest) → meant value

namespace Yields

theorem pure {value : α} {meant : α → Prop} (holds : meant value) :
    Yields (Pure.pure value : RecordReader α) meant := by
  rintro record _ rest ⟨⟩
  exact holds

theorem bind {first : RecordReader α} {next : α → RecordReader β} {between : α → Prop}
    {meant : β → Prop} (yields : Yields first between)
    (later : ∀ value, between value → Yields (next value) meant) : Yields (first >>= next) meant := by
  intro record value rest read
  obtain ⟨⟨known, left⟩, readFirst, readNext⟩ := Option.bind_eq_some_iff.mp read
  exact later known (yields record known left readFirst) left value rest readNext

theorem defaulted {name : String} {default : α} {read : Json → Option α} {meant : α → Prop}
    (known : meant default) (reads : ∀ json value, read json = some value → meant value) :
    Yields (Wire.defaulted name default read) meant := by
  intro record value rest ended
  obtain ⟨⟨field, left⟩, _, readNext⟩ := Option.bind_eq_some_iff.mp ended
  rcases field with _ | json
  · cases readNext
    exact known
  · obtain ⟨found, readJson, same⟩ := Option.bind_eq_some_iff.mp readNext
    cases same
    exact reads json _ readJson

theorem record? {reader : RecordReader α} {meant : α → Prop} (yields : Yields reader meant)
    {json : Json} {value : α} (read : Wire.record? reader json = some value) : meant value := by
  cases json with
  | obj fields =>
    obtain ⟨⟨_, rest⟩, ended, same⟩ := Option.map_eq_some_iff.mp read
    cases same
    exact yields _ _ rest ended
  | arr values =>
    simp only [Wire.record?] at read
    split at read
    · rename_i ended
      cases read
      exact yields _ _ _ ended
    · cases read
  | _ => cases read

end Yields

theorem lt_of_count? {bound : Nat} {json : Json} {value : Nat} (read : count? bound json = some value) :
    value < bound := by
  obtain ⟨whole, ranged, same⟩ := Option.map_eq_some_iff.mp read
  cases json with
  | int number =>
    simp only [number?] at ranged
    split at ranged
    · cases ranged
      omega
    · cases ranged
  | _ => cases ranged

theorem exists_of_mem_mapM {f : α → Option β} {values : List α} {results : List β}
    (mapped : values.mapM f = some results) {result : β} (listed : result ∈ results) :
    ∃ value ∈ values, f value = some result := by
  induction values generalizing results with
  | nil =>
    cases mapped
    cases listed
  | cons first rest ih =>
    rw [List.mapM_cons] at mapped
    obtain ⟨head, made, mapped⟩ := Option.bind_eq_some_iff.mp mapped
    obtain ⟨tail, later, same⟩ := Option.bind_eq_some_iff.mp mapped
    cases same
    rcases List.mem_cons.mp listed with own | further
    · exact ⟨first, List.mem_cons_self, own ▸ made⟩
    · obtain ⟨value, known, found⟩ := ih later further
      exact ⟨value, List.mem_cons_of_mem _ known, found⟩

theorem lt_of_fields? {bound : Nat} {json : Json} {values : Keyed Nat}
    (read : fields? (count? bound) json = some values) : ∀ entry ∈ values.entries, entry.2 < bound := by
  cases json with
  | obj fields =>
    obtain ⟨entries, each, same⟩ := Option.map_eq_some_iff.mp read
    intro entry listed
    rw [← same] at listed
    obtain ⟨field, _, made⟩ := exists_of_mem_mapM each (Keyed.mem_of_mem_ofList listed)
    obtain ⟨value, counted, rfl⟩ := Option.map_eq_some_iff.mp made
    exact lt_of_count? counted
  | _ => cases read

end Wire

/-- The settings that the document in a file says, if it can be read. -/
def FileState.settings? (file : FileState) : Option Settings :=
  (file.read.toOption.bind String.fromUTF8?).bind Settings.ofToml?

namespace Settings

theorem words_default : ({} : Settings).Words := by
  constructor <;> decide

/-- Whatever a document says, the numbers that are read fit their words. -/
theorem words_of_decode? {json : Json} {settings : Settings}
    (read : Wire.decode? json = some settings) : settings.Words := by
  have initial := words_default
  have word {name : String} {value : Nat} (fits : value < word32) :
      Wire.Yields (Wire.defaulted name value (Wire.count? word32)) (· < word32) :=
    .defaulted fits fun _ _ => Wire.lt_of_count?
  have long {name : String} {value : Nat} (fits : value < word64) :
      Wire.Yields (Wire.defaulted name value (Wire.count? word64)) (· < word64) :=
    .defaulted fits fun _ _ => Wire.lt_of_count?
  refine Wire.Yields.record? ?_ read
  refine .bind (.defaulted trivial fun _ _ _ => trivial : Wire.Yields _ fun _ => True) fun _ _ => ?_
  refine .bind (word initial.normal) fun _ normal => .bind (word initial.advanced) fun _ advanced => ?_
  refine .bind (word initial.ceiling) fun _ ceiling =>
    .bind (word initial.duration) fun _ duration => ?_
  refine .bind (long initial.budget) fun _ budget =>
    .bind (long initial.capacity) fun _ capacity => .bind (word initial.rate) fun _ rate => ?_
  refine .bind (.defaulted initial.fuels fun _ _ => Wire.lt_of_fields?) fun _ fuels => .pure ?_
  exact ⟨normal, advanced, ceiling, duration, budget, capacity, rate, fuels⟩

/-! ### Overriding settings -/

structure Overrides (before after : Settings) : Prop where
  words : before.Words → after.Words
  duration : after.animationDuration = before.animationDuration

theorem Overrides.refl (settings : Settings) : settings.Overrides settings := ⟨id, rfl⟩

theorem Overrides.trans {first second third : Settings} (overrides : first.Overrides second)
    (later : second.Overrides third) : first.Overrides third :=
  ⟨later.words ∘ overrides.words, later.duration.trans overrides.duration⟩

theorem lt_of_text_count? {bound value : Nat} {text : String}
    (read : Text.count? bound text = some value) : value < bound :=
  of_decide_eq_true (Option.filter_eq_some_iff.mp read).2

theorem overrides_apply {entry : Override} (listed : entry ∈ overrides) {text : String}
    {before after : Settings} (applied : entry.apply text before = some after) :
    before.Overrides after := by
  simp only [overrides, List.mem_cons, List.not_mem_nil, or_false] at listed
  rcases listed with rfl | rfl | rfl | rfl | rfl
  all_goals
    obtain ⟨value, read, rfl⟩ := Option.map_eq_some_iff.mp applied
  · exact ⟨fun words => { words with normal := words.normal }, rfl⟩
  · exact ⟨fun words => { words with normal := lt_of_text_count? read }, rfl⟩
  · exact ⟨fun words => { words with advanced := lt_of_text_count? read }, rfl⟩
  · exact ⟨fun words => { words with budget := lt_of_text_count? read }, rfl⟩
  · exact ⟨fun words => { words with rate := lt_of_text_count? read }, rfl⟩

theorem overrides_foldlM {environment : Environment} {entries : List Override}
    (known : ∀ entry ∈ entries, entry ∈ overrides) {before after : Settings}
    (taken : entries.foldlM (overrideBy environment) before = .ok after) : before.Overrides after := by
  induction entries generalizing before with
  | nil =>
    cases taken
    exact .refl _
  | cons entry rest ih =>
    rw [List.foldlM_cons] at taken
    rcases ended : overrideBy environment before entry with error | during
    · rw [ended] at taken
      cases taken
    rw [ended] at taken
    refine .trans ?_ (ih (fun other listed => known other (List.mem_cons_of_mem _ listed)) taken)
    unfold overrideBy at ended
    split at ended
    · cases ended
      exact .refl before
    · split at ended
      · rename_i applied
        cases ended
        exact overrides_apply (known entry List.mem_cons_self) applied
      · cases ended

theorem overridden_of_last {settings after : Settings} (last : settings.animationDuration = word32 - 1)
    {environment : Environment}
    (taken : overrides.foldlM (overrideBy environment) settings = .ok after) :
    settings.overridden environment = .error (.broken (.overflow .add)) := by
  have kept := (overrides_foldlM (fun _ listed => listed) taken).duration
  unfold overridden
  rw [taken]
  dsimp only
  rw [sanitized_of_last (kept.trans last)]
  rfl

/-- Settings in normal form, or a reason why there are none. -/
inductive Loaded : Except SettingsFailure Settings → Prop where
  | sane {settings : Settings} (sane : settings.Sane) : Loaded (.ok settings)
  | refused (error : SettingsError) : Loaded (.error (.refused error))

theorem loaded_overridden {settings : Settings} (words : settings.Words)
    (small : settings.animationDuration ≠ word32 - 1) (environment : Environment) :
    Loaded (settings.overridden environment) := by
  unfold overridden
  rcases taken : overrides.foldlM (overrideBy environment) settings with error | after
  · exact .refused error
  · have overrides := overrides_foldlM (fun _ listed => listed) taken
    obtain ⟨result, same, sane, _⟩ := sanitized_of_words (overrides.words words)
      (overrides.duration ▸ small)
    dsimp only
    rw [same]
    exact .sane sane

theorem loaded_ofEnvironment (environment : Environment) : Loaded (ofEnvironment environment) :=
  loaded_overridden words_default (by decide) environment

/-- A file gives the settings that it says, under the environment, or is refused. -/
theorem ofFile_cases (environment : Environment) (path : String) (file : FileState) :
    (∃ settings, file.settings? = some settings ∧ settings.Words ∧
      ofFile environment path file = settings.overridden environment) ∨
    file.settings? = none ∧ ∃ error, ofFile environment path file = .error (.refused error) := by
  unfold ofFile FileState.settings?
  rcases file.read with reason | bytes
  · exact .inr ⟨rfl, _, rfl⟩
  dsimp only [Except.toOption, Option.bind_some]
  rcases String.fromUTF8? bytes with _ | text
  · exact .inr ⟨rfl, _, rfl⟩
  dsimp only [Option.bind_some]
  rcases told : ofToml? text with _ | settings
  · exact .inr ⟨rfl, _, rfl⟩
  obtain ⟨document, _, read⟩ := Option.bind_eq_some_iff.mp told
  exact .inl ⟨settings, rfl, words_of_decode? read, rfl⟩

theorem loaded_ofFile {file : FileState} (small : ∀ settings, file.settings? = some settings →
    settings.animationDuration ≠ word32 - 1) (environment : Environment) (path : String) :
    Loaded (ofFile environment path file) := by
  rcases ofFile_cases environment path file with ⟨settings, told, words, same⟩ | ⟨_, error, same⟩
  · rw [same]
    exact loaded_overridden words (small settings told) environment
  · rw [same]
    exact .refused error

theorem loaded_ofDefaultSources {file : FileState} (small : ∀ settings,
    file.settings? = some settings → settings.animationDuration ≠ word32 - 1)
    (environment : Environment) : Loaded (ofDefaultSources environment file) := by
  cases file with
  | missing => exact loaded_ofEnvironment environment
  | unreadable reason => exact loaded_ofFile small environment defaultFile
  | content bytes => exact loaded_ofFile small environment defaultFile

/-- Sanitizing yields a normal form. It is total on settings whose numbers fit their words, whatever
else they are, unless the duration is the greatest word, which cannot be rounded up; the duration is at
least the one that was asked for. Settings in normal form are returned unchanged, also those that come
out of sanitizing. So a fleet can be made, and all sources either yield settings in normal form or are
refused, unless a file asks for that one duration. -/
theorem sanitizing_yields_normal_form {C M : Type} (monitor : M) :
    (∀ settings : Settings, settings.Words → settings.animationDuration ≠ word32 - 1 →
      ∃ sane, settings.sanitized = .ok sane ∧ sane.Sane ∧ sane.Words ∧
        settings.animationDuration ≤ sane.animationDuration ∧ sane.sanitized = .ok sane ∧
        (Fleet.new settings monitor : Except Fault (Fleet C M)) =
          .ok { settings := sane, monitor }) ∧
    (∀ settings : Settings, settings.Sane → settings.sanitized = .ok settings) ∧
    ∀ (environment : Environment) (file : FileState),
      Loaded (ofEnvironment environment) ∧
      ((∀ settings, file.settings? = some settings → settings.animationDuration ≠ word32 - 1) →
        (∀ path, Loaded (ofFile environment path file)) ∧
          Loaded (ofDefaultSources environment file)) := by
  refine ⟨fun settings words small => ?_, fun settings sane => sanitized_of_sane sane,
    fun environment file => ⟨loaded_ofEnvironment environment, fun small =>
      ⟨loaded_ofFile small environment, loaded_ofDefaultSources small environment⟩⟩⟩
  obtain ⟨sane, same, normal, fits, least⟩ := sanitized_of_words words small
  refine ⟨sane, same, normal, fits, least, sanitized_of_sane normal, ?_⟩
  rw [Fleet.new, same]
  rfl

/-- Settings in which little makes sense. Their duration is the last one that can be rounded up. -/
def oddSettings : Settings where
  maxFuelLimit := 0
  normalFuelLimit := word32 - 1
  animationDuration := word32 - 3
  eventCapacity := 0
  tickRate := 0
  fuelValues := .ofList [("coal", 0), ("stick", 5)]

/-- A file that asks for settings of this kind. -/
def oddFile : FileState := .content "animation_duration_ticks = 7\nmax_fuel_limit = 0".toUTF8

theorem sanitizing_yields_normal_form_odd :
    oddSettings.Words ∧ oddSettings.animationDuration ≠ word32 - 1 ∧
      (∃ sane, oddSettings.sanitized = .ok sane ∧ sane.Sane ∧ sane.sanitized = .ok sane ∧
        (sane.maxFuelLimit, sane.normalFuelLimit, sane.animationDuration, sane.fuelValues.entries) =
          (defaultMaxFuelLimit, defaultMaxFuelLimit, word32 - 2, [("stick", 5)])) ∧
      oddFile.settings?.map (·.animationDuration) = some 7 ∧
      ∃ sane, ofDefaultSources (fun _ => none) oddFile = .ok sane ∧ sane.Sane ∧
        sane.sanitized = .ok sane ∧ sane.animationDuration = 8 := by
  have words : oddSettings.Words := by constructor <;> decide
  have small : oddSettings.animationDuration ≠ word32 - 1 := by decide
  have asked : oddFile.settings?.map (·.animationDuration) = some 7 := by decide +kernel
  have loads : (ofDefaultSources (fun _ => none) oddFile).toOption.map (·.animationDuration) =
      some 8 := by decide +kernel
  obtain ⟨total, unchanged, sources⟩ := sanitizing_yields_normal_form (C := Unit) ()
  obtain ⟨sane, same, normal, _, _, again, _⟩ := total oddSettings words small
  refine ⟨words, small, ⟨sane, same, normal, again, ?_⟩, asked, ?_⟩
  · cases same
    rfl
  · have below : ∀ settings, oddFile.settings? = some settings →
        settings.animationDuration ≠ word32 - 1 := by
      intro settings told
      rw [told] at asked
      have seven : settings.animationDuration = 7 := Option.some.inj asked
      rw [seven]
      decide
    have loaded := ((sources (fun _ => none) oddFile).2 below).2
    rcases ended : ofDefaultSources (fun _ => none) oddFile with error | sane
    · rw [ended] at loads
      cases loads
    · rw [ended] at loaded loads
      cases loaded with
      | sane normal => exact ⟨sane, rfl, normal, unchanged sane normal, Option.some.inj loads⟩

/-- Settings with the greatest duration, and a file that asks for them. -/
def lastingSettings : Settings where
  animationDuration := word32 - 1

def lastingFile : FileState := .content "animation_duration_ticks = 4294967295".toUTF8

/-- The greatest duration breaks off whatever sanitizes it: a fleet cannot be made, and the file is
neither read nor refused. -/
theorem sanitizing_may_break_off_lasting :
    lastingSettings.Words ∧ lastingSettings.sanitized = .error (.overflow .add) ∧
      (Fleet.new lastingSettings () : Except Fault (Fleet Unit Unit)).toOption.isNone ∧
      ofDefaultSources (fun _ => none) lastingFile = .error (.broken (.overflow .add)) ∧
      ¬ Loaded (ofDefaultSources (fun _ => none) lastingFile) := by
  have words : lastingSettings.Words := by constructor <;> decide
  have asked : lastingFile.settings?.map (·.animationDuration) = some (word32 - 1) := by
    decide +kernel
  have neither : ofDefaultSources (fun _ => none) lastingFile = .error (.broken (.overflow .add)) := by
    obtain ⟨settings, told, last⟩ := Option.map_eq_some_iff.mp asked
    rcases ofFile_cases (fun _ => none) defaultFile lastingFile with
      ⟨_, found, _, same⟩ | ⟨missing, _⟩
    · cases told.symm.trans found
      exact same.trans (overridden_of_last last rfl)
    · cases told.symm.trans missing
  exact ⟨words, sanitized_of_last rfl, by rfl, neither, neither ▸ nofun⟩

end Settings

end TurtleFleet
