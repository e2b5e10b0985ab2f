import MppRouter.Core.JsonRead

/-! # JSON up to the order of keys

Two values are the same where they agree but for the order in which their objects name the keys. Sorting the keys at every
depth chooses one of all the values that are the same.
-/

namespace Json

open TextEncoding List Bool

/-- The values agree but for the order of keys: items pair by pair, fields key by key. -/
inductive SameValue : Value → Value → Prop where
  | null : SameValue .null .null
  | bool (value : Bool) : SameValue (.bool value) (.bool value)
  | number (value : Number) : SameValue (.number value) (.number value)
  | string (text : Units) : SameValue (.string text) (.string text)
  | array {items others : List Value} (length : items.length = others.length)
      (each : ∀ (index : ℕ) (item other : Value), items[index]? = some item → others[index]? = some other →
        SameValue item other) : SameValue (.array items) (.array others)
  | object {fields others : List (Units × Value)} (keys : ∀ key, key ∈ fields.map Prod.fst ↔ key ∈ others.map Prod.fst)
      (each : ∀ (key : Units) (value other : Value), fields.lookup key = some value → others.lookup key = some other →
        SameValue value other) : SameValue (.object fields) (.object others)

/-! ## Sorting -/

/-- Strings in the order of their code units, as a script sorts them. -/
def notAfter : Units → Units → Bool
  | [], _ => true
  | _ :: _, [] => false
  | unit :: text, other :: others => decide (unit < other) || (decide (unit = other) && notAfter text others)

/-- Fields in the order of their keys. -/
def keyOrder {α : Type} (field other : Units × α) : Prop := notAfter field.1 other.1 = true

instance {α : Type} : DecidableRel (keyOrder (α := α)) := fun field other => inferInstanceAs (Decidable (notAfter field.1 other.1 = true))

mutual

/-- The same value with the keys of every object in order. -/
def Value.sortKeys : Value → Value
  | .array items => .array (sortItems items)
  | .object fields => .object ((sortFields fields).insertionSort keyOrder)
  | .null => .null
  | .bool value => .bool value
  | .number value => .number value
  | .string text => .string text

def sortItems : List Value → List Value
  | [] => []
  | item :: items => item.sortKeys :: sortItems items

def sortFields : List (Units × Value) → List (Units × Value)
  | [] => []
  | (key, value) :: fields => (key, value.sortKeys) :: sortFields fields

end

theorem sortItems_eq (items : List Value) : sortItems items = items.map Value.sortKeys := by
  induction items with
  | nil => rfl
  | cons item items ih => rw [sortItems, ih, map_cons]

theorem sortFields_eq (fields : List (Units × Value)) :
    sortFields fields = fields.map fun field => (field.1, field.2.sortKeys) := by
  induction fields with
  | nil => rfl
  | cons field fields ih => rw [sortFields, ih, map_cons]

/-! ### The order of keys -/

theorem notAfter_iff {text other : Units} : notAfter text other = true ↔ text.le other := by
  induction text generalizing other with
  | nil => simp [notAfter, List.nil_le]
  | cons unit text ih =>
    cases other with
    | nil => simp [notAfter]
    | cons first other => simp [notAfter, cons_le_cons_iff, ih]

instance {α : Type} : Std.Total (keyOrder (α := α)) := ⟨fun field other =>
  (List.le_total field.1 other.1).imp notAfter_iff.mpr notAfter_iff.mpr⟩

instance {α : Type} : IsTrans (Units × α) keyOrder := ⟨fun _ _ _ le also =>
  notAfter_iff.mpr (List.le_trans (notAfter_iff.mp le) (notAfter_iff.mp also))⟩

/-! ### Fields with each key once -/

section Fields

variable {α β : Type} {fields others : List (Units × α)}

theorem mem_iff_lookup (nodup : (fields.map Prod.fst).Nodup) {key : Units} {value : α} :
    (key, value) ∈ fields ↔ fields.lookup key = some value := by
  induction fields with
  | nil => simp
  | cons field fields ih =>
    rw [map_cons, nodup_cons] at nodup
    obtain ⟨fresh, nodup⟩ := nodup
    rw [mem_cons, lookup_cons, ih nodup]
    by_cases same : key = field.1
    · subst same
      have missing : ¬ fields.lookup field.1 = some value := by
        intro found
        rw [← ih nodup] at found
        exact fresh (mem_map.mpr ⟨_, found, rfl⟩)
      simp [missing, Prod.ext_iff, eq_comm]
    · have different : (key == field.1) = false := by simpa using same
      simp [different, Prod.ext_iff, same]

theorem mem_keys_iff_lookup {key : Units} : key ∈ fields.map Prod.fst ↔ ∃ value, fields.lookup key = some value := by
  induction fields with
  | nil => simp
  | cons field fields ih =>
    rw [map_cons, mem_cons, ih, lookup_cons]
    by_cases same : key = field.1
    · simp [same]
    · have different : (key == field.1) = false := by simpa using same
      simp [different, same]

theorem lookup_map (value : α → β) (key : Units) :
    (fields.map fun field => (field.1, value field.2)).lookup key = (fields.lookup key).map value := by
  induction fields with
  | nil => rfl
  | cons field fields ih =>
    rw [map_cons, lookup_cons, lookup_cons]
    cases key == field.1 <;> simp [ih]

theorem keys_map (value : α → β) : (fields.map fun field => (field.1, value field.2)).map Prod.fst = fields.map Prod.fst := by
  rw [map_map]
  rfl

theorem keys_sort_nodup (nodup : (fields.map Prod.fst).Nodup) : ((fields.insertionSort keyOrder).map Prod.fst).Nodup :=
  ((perm_insertionSort keyOrder fields).map Prod.fst).nodup_iff.mpr nodup

theorem lookup_sort (nodup : (fields.map Prod.fst).Nodup) (key : Units) :
    (fields.insertionSort keyOrder).lookup key = fields.lookup key := by
  apply Option.ext
  intro value
  rw [← mem_iff_lookup nodup, ← mem_iff_lookup (keys_sort_nodup nodup), mem_insertionSort]

/-- Sorted fields are determined by what each key holds. -/
theorem sort_eq (nodup : (fields.map Prod.fst).Nodup) (also : (others.map Prod.fst).Nodup)
    (same : ∀ key, fields.lookup key = others.lookup key) : fields.insertionSort keyOrder = others.insertionSort keyOrder := by
  have perm : fields.Perm others := by
    rw [perm_ext_iff_of_nodup (List.Nodup.of_map _ nodup) (List.Nodup.of_map _ also)]
    rintro ⟨key, value⟩
    rw [mem_iff_lookup nodup, mem_iff_lookup also, same]
  have sorted : (fields.insertionSort keyOrder).Perm (others.insertionSort keyOrder) :=
    ((perm_insertionSort _ _).trans perm).trans (perm_insertionSort _ _).symm
  apply List.Perm.eq_of_pairwise _ (pairwise_insertionSort _ _) (pairwise_insertionSort _ _) sorted
  rintro ⟨key, value⟩ ⟨other, second⟩ member memberOther le ge
  obtain rfl : key = other := List.le_antisymm (notAfter_iff.mp le) (notAfter_iff.mp ge)
  rw [mem_insertionSort] at member memberOther
  rw [mem_iff_lookup nodup] at member
  rw [mem_iff_lookup also, ← same, member] at memberOther
  cases memberOther
  rfl

end Fields

/-! ## The same value, sorted -/

section KeysOnce

variable {first second : Value} (keys : first.Everywhere Value.KeysOnce) (also : second.Everywhere Value.KeysOnce)

include keys also

theorem SameValue.sortKeys_eq (same : SameValue first second) : first.sortKeys = second.sortKeys := by
  induction same with
  | null => rfl
  | bool value => rfl
  | number value => rfl
  | string text => rfl
  | @array items others length each ih =>
    rw [Value.sortKeys, Value.sortKeys, sortItems_eq, sortItems_eq]
    congr 1
    apply ext_getElem?
    intro index
    rw [getElem?_map, getElem?_map]
    by_cases inside : index < items.length
    · have found := getElem?_eq_getElem inside
      have foundOther := getElem?_eq_getElem (length ▸ inside)
      rw [found, foundOther, Option.map_some, Option.map_some,
        ih index _ _ found foundOther (keys.item (getElem_mem inside)) (also.item (getElem_mem _))]
    · rw [getElem?_eq_none (by omega), getElem?_eq_none (by omega)]
  | @object fields others names each ih =>
    have nodup : (fields.map Prod.fst).Nodup := keys.self
    have nodupOther : (others.map Prod.fst).Nodup := also.self
    rw [Value.sortKeys, Value.sortKeys, sortFields_eq, sortFields_eq]
    congr 1
    apply sort_eq
    · rwa [keys_map]
    · rwa [keys_map]
    · intro key
      rw [lookup_map, lookup_map]
      by_cases member : key ∈ fields.map Prod.fst
      · obtain ⟨value, found⟩ := mem_keys_iff_lookup.mp member
        obtain ⟨other, foundOther⟩ := mem_keys_iff_lookup.mp ((names key).mp member)
        have own := keys.field ((mem_iff_lookup nodup).mpr found)
        have ownOther := also.field ((mem_iff_lookup nodupOther).mpr foundOther)
        rw [found, foundOther, Option.map_some, Option.map_some, ih key value other found foundOther own ownOther]
      · have missing : fields.lookup key = none := by
          rw [Option.eq_none_iff_forall_ne_some]
          exact fun value found => member (mem_keys_iff_lookup.mpr ⟨value, found⟩)
        have missingOther : others.lookup key = none := by
          rw [Option.eq_none_iff_forall_ne_some]
          exact fun value found => member ((names key).mpr (mem_keys_iff_lookup.mpr ⟨value, found⟩))
        rw [missing, missingOther]

theorem sameValue_of_sortKeys (same : first.sortKeys = second.sortKeys) : SameValue first second := by
  induction first generalizing second with
  | null =>
    cases second <;> simp only [Value.sortKeys, reduceCtorEq] at same
    exact .null
  | bool value =>
    cases second <;> simp only [Value.sortKeys, reduceCtorEq, Value.bool.injEq] at same
    rw [same]
    exact .bool _
  | number value =>
    cases second <;> simp only [Value.sortKeys, reduceCtorEq, Value.number.injEq] at same
    rw [same]
    exact .number _
  | string text =>
    cases second <;> simp only [Value.sortKeys, reduceCtorEq, Value.string.injEq] at same
    rw [same]
    exact .string _
  | array items ih =>
    cases second <;> simp only [Value.sortKeys, reduceCtorEq, Value.array.injEq] at same
    next others =>
      rw [sortItems_eq, sortItems_eq] at same
      apply SameValue.array
      · simpa using congrArg List.length same
      · intro index item other found foundOther
        have pair := congrArg (fun list : List Value => list[index]?) same
        simp only [getElem?_map, found, foundOther, Option.map_some, Option.some.injEq] at pair
        exact ih item (mem_of_getElem? found) (keys.item (mem_of_getElem? found))
          (also.item (mem_of_getElem? foundOther)) pair
  | object fields ih =>
    cases second <;> simp only [Value.sortKeys, reduceCtorEq, Value.object.injEq] at same
    next others =>
      have nodup : (fields.map Prod.fst).Nodup := keys.self
      have nodupOther : (others.map Prod.fst).Nodup := also.self
      rw [sortFields_eq, sortFields_eq] at same
      have each : ∀ key, (fields.lookup key).map Value.sortKeys = (others.lookup key).map Value.sortKeys := by
        intro key
        have pair := congrArg (List.lookup key) same
        rwa [lookup_sort (by rwa [keys_map]), lookup_sort (by rwa [keys_map]), lookup_map, lookup_map] at pair
      apply SameValue.object
      · intro key
        rw [mem_keys_iff_lookup, mem_keys_iff_lookup]
        have pair := each key
        cases found : fields.lookup key <;> cases foundOther : others.lookup key <;> simp [found, foundOther] at pair ⊢
      · intro key value other found foundOther
        have pair := each key
        rw [found, foundOther, Option.map_some, Option.map_some, Option.some.injEq] at pair
        have member := (mem_iff_lookup nodup).mpr found
        exact ih _ member (keys.field member) (also.field ((mem_iff_lookup nodupOther).mpr foundOther)) pair

/-- Values are the same up to the order of keys exactly if sorting makes them one. -/
theorem sameValue_iff : SameValue first second ↔ first.sortKeys = second.sortKeys :=
  ⟨SameValue.sortKeys_eq keys also, sameValue_of_sortKeys keys also⟩

end KeysOnce

theorem Value.sortKeys_finite {value : Value} (finite : value.Everywhere Value.Finite) :
    value.sortKeys.Everywhere Value.Finite := by
  induction value with
  | null => exact finite
  | bool value => exact finite
  | number value => exact finite
  | string text => exact finite
  | array items ih =>
    rw [Value.sortKeys, sortItems_eq]
    apply Value.Everywhere.array (P := Value.Finite) trivial
    intro sorted image
    obtain ⟨item, member, rfl⟩ := mem_map.mp image
    exact ih item member (finite.item member)
  | object fields ih =>
    rw [Value.sortKeys]
    apply Value.Everywhere.object (P := Value.Finite) trivial
    intro sorted image
    rw [mem_insertionSort, sortFields_eq] at image
    obtain ⟨field, member, rfl⟩ := mem_map.mp image
    exact ih field member (finite.field member)

/-- Values that agree but for the order of keys hold the same under each key. -/
theorem SameValue.field {entry other : Value} (same : SameValue entry other) (key : Units) :
    entry.field key = none ∧ other.field key = none ∨
      ∃ value also, entry.field key = some value ∧ other.field key = some also ∧ SameValue value also := by
  cases same with
  | @object fields others keys each =>
    by_cases member : key ∈ fields.map Prod.fst
    · obtain ⟨value, found⟩ := mem_keys_iff_lookup.mp member
      obtain ⟨also, foundOther⟩ := mem_keys_iff_lookup.mp ((keys key).mp member)
      exact .inr ⟨value, also, found, foundOther, each key value also found foundOther⟩
    · left
      constructor
      · exact Option.eq_none_iff_forall_ne_some.mpr fun value found => member (mem_keys_iff_lookup.mpr ⟨value, found⟩)
      · exact Option.eq_none_iff_forall_ne_some.mpr fun value found =>
          member ((keys key).mpr (mem_keys_iff_lookup.mpr ⟨value, found⟩))
  | _ => exact .inl ⟨rfl, rfl⟩

/-! ## Infinite numbers -/

mutual

/-- The value with every infinite number read as null, which is what JSON writes for it. -/
def Value.written : Value → Value
  | .number (.infinite _) => .null
  | .number value => .number value
  | .array items => .array (writtenItems items)
  | .object fields => .object (writtenFields fields)
  | .null => .null
  | .bool value => .bool value
  | .string text => .string text

def writtenItems : List Value → List Value
  | [] => []
  | item :: items => item.written :: writtenItems items

def writtenFields : List (Units × Value) → List (Units × Value)
  | [] => []
  | (key, value) :: fields => (key, value.written) :: writtenFields fields

end

theorem writtenItems_eq (items : List Value) : writtenItems items = items.map Value.written := by
  induction items with
  | nil => rfl
  | cons item items ih => rw [writtenItems, ih, map_cons]

theorem writtenFields_eq (fields : List (Units × Value)) :
    writtenFields fields = fields.map fun field => (field.1, field.2.written) := by
  induction fields with
  | nil => rfl
  | cons field fields ih => rw [writtenFields, ih, map_cons]

theorem Value.written_finite (value : Value) : value.written.Everywhere Value.Finite := by
  induction value with
  | null => exact fun inner within => by cases within; trivial
  | bool value => exact fun inner within => by cases within; trivial
  | number value => cases value <;> exact fun inner within => by cases within; trivial
  | string text => exact fun inner within => by cases within; trivial
  | array items ih =>
    rw [Value.written, writtenItems_eq]
    apply Value.Everywhere.array (P := Value.Finite) trivial
    intro written image
    obtain ⟨item, member, rfl⟩ := mem_map.mp image
    exact ih item member
  | object fields ih =>
    rw [Value.written, writtenFields_eq]
    apply Value.Everywhere.object (P := Value.Finite) trivial
    intro written image
    obtain ⟨field, member, rfl⟩ := mem_map.mp image
    exact ih field member

theorem Value.written_keysOnce {value : Value} (keys : value.Everywhere Value.KeysOnce) :
    value.written.Everywhere Value.KeysOnce := by
  induction value with
  | null => exact keys
  | bool value => exact keys
  | number value => cases value <;> exact fun inner within => by cases within; trivial
  | string text => exact keys
  | array items ih =>
    rw [Value.written, writtenItems_eq]
    apply Value.Everywhere.array (P := Value.KeysOnce) trivial
    intro written image
    obtain ⟨item, member, rfl⟩ := mem_map.mp image
    exact ih item member (keys.item member)
  | object fields ih =>
    have nodup : (fields.map Prod.fst).Nodup := keys.self
    rw [Value.written, writtenFields_eq]
    apply Value.Everywhere.object (P := Value.KeysOnce)
    · change ((fields.map fun field => (field.1, field.2.written)).map Prod.fst).Nodup
      rwa [keys_map]
    · intro written image
      obtain ⟨field, member, rfl⟩ := mem_map.mp image
      exact ih field member (keys.field member)

/-- A value without infinite numbers is what JSON writes for it. -/
theorem Value.written_eq {value : Value} (finite : value.Everywhere Value.Finite) : value.written = value := by
  induction value with
  | null => rfl
  | bool value => rfl
  | number value =>
    cases value with
    | infinite negative => exact absurd finite.self id
    | _ => rfl
  | string text => rfl
  | array items ih =>
    rw [Value.written, writtenItems_eq]
    congr 1
    exact (map_congr_left fun item member => ih item member (finite.item member)).trans (map_id _)
  | object fields ih =>
    rw [Value.written, writtenFields_eq]
    congr 1
    refine (map_congr_left fun field member => ?_).trans (map_id _)
    rw [ih field member (finite.field member)]
    rfl

end Json
