/-! Finite maps from names to values, held in ascending order of the names. That order is the order
of the code points of the names, so every map has one form and its names are always listed the same
way. -/

namespace TurtleFleet

/-- Entries whose names ascend strictly. -/
def Ascending {α : Type} (entries : List (String × α)) : Prop :=
  entries.Pairwise fun first second => first.1 < second.1

/-- A finite map from names to values. -/
structure Keyed (α : Type) where
  entries : List (String × α)
  ascending : Ascending entries

namespace Keyed

variable {α β : Type}

def empty : Keyed α := ⟨[], .nil⟩

instance : Inhabited (Keyed α) := ⟨empty⟩

instance : EmptyCollection (Keyed α) := ⟨empty⟩

/-- The names of a map, in ascending order. -/
def keys (map : Keyed α) : List String := map.entries.map (·.1)

def values (map : Keyed α) : List α := map.entries.map (·.2)

def get? (map : Keyed α) (key : String) : Option α := map.entries.lookup key

def contains (map : Keyed α) (key : String) : Bool := (map.get? key).isSome

/-- Places an entry before the first greater name; an entry of the same name gives way. -/
def place (key : String) (value : α) : List (String × α) → List (String × α)
  | [] => [(key, value)]
  | (other, old) :: rest =>
    if key < other then (key, value) :: (other, old) :: rest
    else if key = other then (key, value) :: rest
    else (other, old) :: place key value rest

theorem eq_or_mem_of_mem_place {key : String} {value : α} {entries : List (String × α)}
    {entry : String × α} (member : entry ∈ place key value entries) :
    entry = (key, value) ∨ entry ∈ entries := by
  induction entries with
  | nil => simpa [place] using member
  | cons head rest ih =>
    simp only [place] at member
    split at member
    · simpa using member
    · split at member
      · rcases List.mem_cons.mp member with same | later
        · exact .inl same
        · exact .inr (List.mem_cons_of_mem _ later)
      · rcases List.mem_cons.mp member with same | later
        · exact .inr (by simp [same])
        · rcases ih later with same | earlier
          · exact .inl same
          · exact .inr (List.mem_cons_of_mem _ earlier)

theorem Ascending.place {entries : List (String × α)} (ascending : Ascending entries)
    (key : String) (value : α) : Ascending (place key value entries) := by
  induction entries with
  | nil => exact List.pairwise_singleton ..
  | cons head rest ih =>
    obtain ⟨least, later⟩ := List.pairwise_cons.mp ascending
    simp only [Keyed.place]
    split
    · rename_i before
      refine List.pairwise_cons.mpr ⟨fun entry member => ?_, ascending⟩
      rcases List.mem_cons.mp member with same | member
      · simpa [same] using before
      · exact String.lt_trans before (least entry member)
    · split
      · rename_i same
        exact List.pairwise_cons.mpr ⟨fun entry member => same ▸ least entry member, later⟩
      · rename_i notBefore different
        refine List.pairwise_cons.mpr ⟨fun entry member => ?_, ih later⟩
        rcases eq_or_mem_of_mem_place member with same | member
        · subst same
          show head.1 < key
          grind
        · exact least entry member

/-- Gives a name its value, new or instead of its old one. -/
def insert (map : Keyed α) (key : String) (value : α) : Keyed α :=
  ⟨place key value map.entries, Ascending.place map.ascending key value⟩

def erase (map : Keyed α) (key : String) : Keyed α :=
  ⟨map.entries.filter (·.1 ≠ key), List.Pairwise.filter _ map.ascending⟩

/-- Keeps the entries that pass a test. -/
def filter (map : Keyed α) (keep : String → α → Bool) : Keyed α :=
  ⟨map.entries.filter fun entry => keep entry.1 entry.2, List.Pairwise.filter _ map.ascending⟩

theorem Ascending.mapValues {entries : List (String × α)} (ascending : Ascending entries)
    (f : String → α → β) : Ascending (entries.map fun entry => (entry.1, f entry.1 entry.2)) := by
  exact List.pairwise_map.mpr ascending

/-- Replaces every value, keeping the names. -/
def mapValues (map : Keyed α) (f : String → α → β) : Keyed β :=
  ⟨map.entries.map fun entry => (entry.1, f entry.1 entry.2), Ascending.mapValues map.ascending f⟩

/-- Changes the value of one name, if the map has it. -/
def adjust (map : Keyed α) (key : String) (f : α → α) : Keyed α :=
  map.mapValues fun other value => if other = key then f value else value

/-- The map of a list of entries; of several entries with one name the last counts. -/
def ofList (entries : List (String × α)) : Keyed α :=
  entries.foldl (fun map entry => map.insert entry.1 entry.2) empty

/-! ### What the operations do to the names and to look-up -/

@[simp] theorem keys_empty : (empty : Keyed α).keys = [] := rfl

@[simp] theorem get?_empty (key : String) : (empty : Keyed α).get? key = none := rfl

section

variable {κ : Type} [DecidableEq κ]

theorem lookup_cons_eq (entry : κ × α) (rest : List (κ × α)) (key : κ) :
    (entry :: rest).lookup key = if key = entry.1 then some entry.2 else rest.lookup key := by
  obtain ⟨name, value⟩ := entry
  rw [List.lookup_cons]
  by_cases same : key = name
  · simp [same]
  · have apart : (key == name) = false := by simpa using same
    simp [same, apart]

theorem lookup_filter_ne (entries : List (κ × α)) (key other : κ) :
    (entries.filter (·.1 ≠ key)).lookup other =
      if other = key then none else entries.lookup other := by
  induction entries with
  | nil => simp
  | cons head rest ih =>
    rw [List.filter_cons]
    split
    · rename_i kept
      have apart : head.1 ≠ key := by simpa using kept
      rw [lookup_cons_eq, lookup_cons_eq, ih]
      grind
    · rename_i dropped
      have same : head.1 = key := by simpa using dropped
      rw [lookup_cons_eq, ih]
      grind

/-- Leaving out a name that occurs, and only once, leaves out one entry. -/
theorem length_filter_ne {entries : List (κ × α)} (distinct : (entries.map (·.1)).Nodup) {key : κ}
    (found : (entries.lookup key).isSome) :
    (entries.filter (·.1 ≠ key)).length + 1 = entries.length := by
  induction entries with
  | nil => cases found
  | cons head rest ih =>
    obtain ⟨fresh, later⟩ := List.nodup_cons.mp distinct
    rw [lookup_cons_eq] at found
    by_cases same : key = head.1
    · have all : rest.filter (·.1 ≠ key) = rest := by
        refine List.filter_eq_self.mpr fun entry member => ?_
        have apart : entry.1 ≠ key := by
          intro equal
          refine fresh (List.mem_map.mpr ⟨entry, member, ?_⟩)
          rw [equal, same]
        simpa using apart
      rw [List.filter_cons_of_neg (by simp [same]), all, List.length_cons]
    · rw [if_neg same] at found
      rw [List.filter_cons_of_pos (by simpa using Ne.symm same), List.length_cons, List.length_cons,
        ih later found]

end

theorem lookup_place (entries : List (String × α)) (key other : String) (value : α) :
    (place key value entries).lookup other =
      if other = key then some value else entries.lookup other := by
  induction entries with
  | nil => simp [place, lookup_cons_eq]
  | cons head rest ih =>
    simp only [place]
    split
    · simp only [lookup_cons_eq]
    · split <;> simp only [lookup_cons_eq, ih] <;> grind

theorem get?_insert (map : Keyed α) (key other : String) (value : α) :
    (map.insert key value).get? other = if other = key then some value else map.get? other :=
  lookup_place map.entries key other value

theorem get?_insert_self (map : Keyed α) (key : String) (value : α) :
    (map.insert key value).get? key = some value := by
  simp [get?_insert]

theorem get?_insert_of_ne (map : Keyed α) {key other : String} (value : α) (apart : other ≠ key) :
    (map.insert key value).get? other = map.get? other := by
  simp [get?_insert, apart]

/-- A new value goes unnoticed where its name is left out. -/
theorem filter_place {entries : List (String × α)} {key : String} {keep : String × α → Bool}
    (left : ∀ value, keep (key, value) = false) (value : α) :
    (place key value entries).filter keep = entries.filter keep := by
  induction entries with
  | nil => simp [place, left]
  | cons head rest ih =>
    simp only [place]
    split
    · simp [left]
    · split
      · rename_i same
        have old : keep head = false := by
          rw [← Prod.eta head, ← same]
          exact left _
        simp [left, old]
      · simp [ih, List.filter_cons]

theorem get?_erase (map : Keyed α) (key other : String) :
    (map.erase key).get? other = if other = key then none else map.get? other :=
  lookup_filter_ne map.entries key other

theorem lookup_mapValues (entries : List (String × α)) (f : String → α → β) (key : String) :
    (entries.map fun entry => (entry.1, f entry.1 entry.2)).lookup key =
      (entries.lookup key).map (f key) := by
  induction entries with
  | nil => rfl
  | cons head rest ih =>
    rw [List.map_cons, lookup_cons_eq, lookup_cons_eq, ih]
    grind

theorem get?_mapValues (map : Keyed α) (f : String → α → β) (key : String) :
    (map.mapValues f).get? key = (map.get? key).map (f key) :=
  lookup_mapValues map.entries f key

theorem get?_adjust (map : Keyed α) (key other : String) (f : α → α) :
    (map.adjust key f).get? other =
      if other = key then (map.get? other).map f else map.get? other := by
  rw [adjust, get?_mapValues]
  by_cases same : other = key <;> simp [same]

/-- A name that does not come after the first one is not among the others. -/
theorem lookup_rest_of_ascending {head : String × α} {rest : List (String × α)}
    (ascending : Ascending (head :: rest)) {key : String} (before : ¬ head.1 < key) :
    rest.lookup key = none := by
  refine List.lookup_eq_none_iff.mpr fun entry member => ?_
  have apart : key ≠ entry.1 := fun equal =>
    before (equal ▸ (List.pairwise_cons.mp ascending).1 entry member)
  simpa using apart

/-- The sum of a measure over all values. -/
def total (map : Keyed α) (measure : α → Nat) : Nat :=
  map.values.foldr (fun value sum => measure value + sum) 0

theorem total_insert (map : Keyed α) (key : String) (value : α) (measure : α → Nat) :
    (map.insert key value).total measure + (map.get? key).elim 0 measure =
      map.total measure + measure value := by
  obtain ⟨entries, ascending⟩ := map
  unfold total values
  rw [List.foldr_map, List.foldr_map]
  show (place key value entries).foldr (fun entry sum => measure entry.2 + sum) 0 +
      (entries.lookup key).elim 0 measure =
    entries.foldr (fun entry sum => measure entry.2 + sum) 0 + measure value
  induction entries with
  | nil => simp [place]
  | cons head rest ih =>
    rw [place, lookup_cons_eq]
    by_cases same : key = head.1
    · have self : ¬ key < head.1 := same ▸ String.lt_irrefl key
      rw [if_neg self, if_pos same, if_pos same]
      simp only [List.foldr_cons, Option.elim_some]
      omega
    · by_cases before : key < head.1
      · have absent := lookup_rest_of_ascending ascending fun after =>
          String.lt_irrefl key (String.lt_trans before after)
        simp [before, same, absent]
        omega
      · have later := ih (List.pairwise_cons.mp ascending).2
        simp only [before, same, ↓reduceIte, List.foldr_cons]
        omega

theorem total_adjust (map : Keyed α) (key : String) (f : α → α) (measure : α → Nat) :
    (map.adjust key f).total measure + (map.get? key).elim 0 measure =
      map.total measure + (map.get? key).elim 0 fun value => measure (f value) := by
  obtain ⟨entries, ascending⟩ := map
  unfold total values adjust mapValues
  rw [List.foldr_map, List.foldr_map, List.foldr_map]
  show entries.foldr
        (fun entry sum => measure (if entry.1 = key then f entry.2 else entry.2) + sum) 0 +
      (entries.lookup key).elim 0 measure =
    entries.foldr (fun entry sum => measure entry.2 + sum) 0 +
      (entries.lookup key).elim 0 fun value => measure (f value)
  induction entries with
  | nil => rfl
  | cons head rest ih =>
    have later := ih (List.pairwise_cons.mp ascending).2
    rw [lookup_cons_eq, List.foldr_cons, List.foldr_cons]
    by_cases same : key = head.1
    · have absent : rest.lookup key = none :=
        lookup_rest_of_ascending ascending (same ▸ String.lt_irrefl key)
      rw [absent] at later
      simp only [← same, ↓reduceIte, Option.elim_some, Option.elim_none] at later ⊢
      omega
    · rw [if_neg same, if_neg (Ne.symm same)]
      omega

theorem mem_keys_iff (map : Keyed α) (key : String) : key ∈ map.keys ↔ (map.get? key).isSome := by
  have listed (entries : List (String × α)) :
      key ∈ entries.map (·.1) ↔ (entries.lookup key).isSome := by
    induction entries with
    | nil => simp
    | cons head rest ih => rw [List.map_cons, List.mem_cons, lookup_cons_eq, ih]; grind
  exact listed map.entries

/-- A name that is new makes the map longer by one. -/
theorem length_insert (map : Keyed α) (key : String) (value : α) :
    (map.insert key value).entries.length =
      if (map.get? key).isSome then map.entries.length else map.entries.length + 1 := by
  obtain ⟨entries, ascending⟩ := map
  show (place key value entries).length =
    if (entries.lookup key).isSome then entries.length else entries.length + 1
  induction entries with
  | nil => rfl
  | cons head rest ih =>
    obtain ⟨least, later⟩ := List.pairwise_cons.mp ascending
    rw [place, lookup_cons_eq]
    by_cases same : key = head.1
    · have self : ¬ key < head.1 := same ▸ String.lt_irrefl key
      rw [if_neg self, if_pos same, if_pos same]
      rfl
    · by_cases before : key < head.1
      · have absent := lookup_rest_of_ascending ascending fun after =>
          String.lt_irrefl key (String.lt_trans before after)
        simp [before, same, absent]
      · simp only [before, same, ↓reduceIte, List.length_cons, ih later]
        split <;> rfl

theorem keys_pairwise (map : Keyed α) : map.keys.Pairwise (· < ·) :=
  List.pairwise_map.mpr map.ascending

theorem keys_nodup (map : Keyed α) : map.keys.Nodup :=
  map.keys_pairwise.imp fun {first second} (before : first < second) (same : first = second) =>
    String.lt_irrefl second (same ▸ before)

/-- Maps that know the same names list them in the same way. -/
theorem keys_congr {first : Keyed α} {second : Keyed β}
    (same : ∀ key, (first.get? key).isSome = (second.get? key).isSome) : first.keys = second.keys := by
  have permuted : first.keys.Perm second.keys :=
    (List.perm_ext_iff_of_nodup first.keys_nodup second.keys_nodup).mpr fun key => by
      rw [mem_keys_iff, mem_keys_iff, same]
  refine permuted.eq_of_pairwise (fun key other _ _ before after => ?_) first.keys_pairwise
    second.keys_pairwise
  exact (String.lt_asymm before after).elim

theorem get?_eq_some_iff {map : Keyed α} {key : String} {value : α} :
    map.get? key = some value ↔ (key, value) ∈ map.entries := by
  obtain ⟨entries, ascending⟩ := map
  show entries.lookup key = some value ↔ _
  induction entries with
  | nil => simp
  | cons head rest ih =>
    obtain ⟨least, later⟩ := List.pairwise_cons.mp ascending
    rw [lookup_cons_eq, List.mem_cons]
    by_cases same : key = head.1
    · have fresh : (key, value) ∉ rest := fun member =>
        String.lt_irrefl key (same ▸ least (key, value) member)
      simp only [same, ↓reduceIte, Option.some.injEq]
      grind
    · have apart : (key, value) ≠ head := fun equal => same (congrArg Prod.fst equal)
      simp only [same, ↓reduceIte, apart, false_or, ih later]

/-- Maps that know the same values under the same names are equal. -/
theorem ext_get? {first second : Keyed α} (same : ∀ key, first.get? key = second.get? key) :
    first = second := by
  have distinct (map : Keyed α) : map.entries.Nodup :=
    map.ascending.imp fun {entry other} before (same : entry = other) =>
      String.lt_irrefl other.1 (same ▸ before)
  have permuted : first.entries.Perm second.entries :=
    (List.perm_ext_iff_of_nodup (distinct first) (distinct second)).mpr fun entry => by
      rw [← get?_eq_some_iff, ← get?_eq_some_iff, same]
  have listed : first.entries = second.entries :=
    permuted.eq_of_pairwise (fun _ _ _ _ before after => (String.lt_asymm before after).elim)
      first.ascending second.ascending
  cases first
  cases second
  cases listed
  rfl

theorem adjust_adjust_of_undone {map : Keyed α} {key : String} {f g : α → α}
    (undone : ∀ value, map.get? key = some value → g (f value) = value) :
    (map.adjust key f).adjust key g = map := by
  refine ext_get? fun other => ?_
  rw [get?_adjust, get?_adjust]
  by_cases same : other = key
  · subst same
    cases found : map.get? other with
    | none => simp
    | some value => simp [undone value found]
  · simp [same]

theorem length_erase (map : Keyed α) {key : String} (found : (map.get? key).isSome) :
    (map.erase key).entries.length + 1 = map.entries.length :=
  length_filter_ne map.keys_nodup found

theorem mem_filter {map : Keyed α} {keep : String → α → Bool} {entry : String × α} :
    entry ∈ (map.filter keep).entries ↔ entry ∈ map.entries ∧ keep entry.1 entry.2 = true :=
  List.mem_filter

theorem filter_eq_self {map : Keyed α} {keep : String → α → Bool}
    (all : ∀ entry ∈ map.entries, keep entry.1 entry.2 = true) : map.filter keep = map := by
  have kept := List.filter_eq_self.mpr all
  simp only [filter, kept]

theorem mem_or_mem_of_mem_foldl_insert {entries : List (String × α)} {map : Keyed α}
    {entry : String × α}
    (member : entry ∈ (entries.foldl (fun map entry => map.insert entry.1 entry.2) map).entries) :
    entry ∈ map.entries ∨ entry ∈ entries := by
  induction entries generalizing map with
  | nil => exact .inl member
  | cons first rest ih =>
    rcases ih member with placed | listed
    · rcases eq_or_mem_of_mem_place placed with same | kept
      · exact .inr (same ▸ List.mem_cons_self)
      · exact .inl kept
    · exact .inr (List.mem_cons_of_mem _ listed)

theorem mem_of_mem_ofList {entries : List (String × α)} {entry : String × α}
    (member : entry ∈ (ofList entries).entries) : entry ∈ entries :=
  (mem_or_mem_of_mem_foldl_insert member).resolve_left nofun

end Keyed

end TurtleFleet
