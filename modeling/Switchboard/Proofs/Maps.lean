import Std.Data.ExtTreeMap.Lemmas

/-! # Maps under text keys

Look-ups after a write and after a removal, maps whose records stand under their own
keys, and what holds of the record under a key.
-/

namespace Switchboard.Maps

variable {α : Type}

theorem getElem?_insert (map : Std.ExtTreeMap String α) (key : String) (value : α) (k : String) :
    (map.insert key value)[k]? = if key = k then some value else map[k]? := by
  rw [Std.ExtTreeMap.getElem?_insert]
  simp

theorem getElem?_erase (map : Std.ExtTreeMap String α) (key k : String) :
    (map.erase key)[k]? = if key = k then none else map[k]? := by
  rw [Std.ExtTreeMap.getElem?_erase]
  simp

theorem erase_of_none {map : Std.ExtTreeMap String α} {key : String} (absent : map[key]? = none) :
    map.erase key = map := by
  apply Std.ExtTreeMap.ext_getElem?
  intro k
  rw [getElem?_erase]
  by_cases hk : key = k
  · rw [if_pos hk, ← hk, absent]
  · rw [if_neg hk]

/-- Writing what is there already changes nothing. -/
theorem insert_of_some {map : Std.ExtTreeMap String α} {key : String} {value : α}
    (known : map[key]? = some value) : map.insert key value = map := by
  apply Std.ExtTreeMap.ext_getElem?
  intro k
  rw [getElem?_insert]
  split
  · next hk => rw [← hk, known]
  · rfl

theorem insert_insert (map : Std.ExtTreeMap String α) (key : String) (first second : α) :
    (map.insert key first).insert key second = map.insert key second := by
  apply Std.ExtTreeMap.ext_getElem?
  intro k
  simp only [getElem?_insert]
  split <;> rfl

theorem insert_erase (map : Std.ExtTreeMap String α) (key : String) (value : α) :
    (map.erase key).insert key value = map.insert key value := by
  apply Std.ExtTreeMap.ext_getElem?
  intro k
  simp only [getElem?_insert, getElem?_erase]
  split <;> rfl

theorem getElem?_modify (map : Std.ExtTreeMap String α) (key : String) (change : α → α)
    (k : String) :
    (map.modify key change)[k]? = if key = k then map[k]?.map change else map[k]? := by
  rw [Std.ExtTreeMap.getElem?_modify]
  by_cases hk : key = k
  · simp [hk]
  · simp [hk]

theorem modify_of_some {map : Std.ExtTreeMap String α} {key : String} {value : α}
    (known : map[key]? = some value) (change : α → α) :
    map.modify key change = map.insert key (change value) := by
  apply Std.ExtTreeMap.ext_getElem?
  intro k
  rw [getElem?_modify, getElem?_insert]
  split
  · next hk => rw [← hk, known, Option.map_some]
  · rfl

theorem modify_of_none {map : Std.ExtTreeMap String α} {key : String} (absent : map[key]? = none)
    (change : α → α) : map.modify key change = map := by
  apply Std.ExtTreeMap.ext_getElem?
  intro k
  rw [getElem?_modify]
  split
  · next hk => rw [← hk, absent, Option.map_none]
  · rfl

theorem getElem?_eraseAll (map : Std.ExtTreeMap String α) (keys : List String) (k : String) :
    (keys.foldl (·.erase ·) map)[k]? = if k ∈ keys then none else map[k]? := by
  induction keys generalizing map with
  | nil => simp
  | cons key rest ih =>
      rw [List.foldl_cons, ih, getElem?_erase]
      by_cases hrest : k ∈ rest
      · simp [hrest]
      · by_cases hk : key = k
        · simp [hk]
        · simp [hrest, hk, Ne.symm hk]

/-- The keys of a map come in order. -/
theorem keys_sorted (map : Std.ExtTreeMap String α) : map.keys.Pairwise (· < ·) := by
  have ordered := map.ordered_keys
  exact ordered.imp fun hlt => compareOfLessAndEq_eq_lt.1 hlt

section Each

variable {map : Std.ExtTreeMap String α} {property : String → α → Prop}

/-- What every record under its key satisfies holds after a write of one that does. -/
theorem forall_insert (each : ∀ (k : String) record, map[k]? = some record → property k record)
    {key : String} {value : α} (new : property key value) :
    ∀ (k : String) record, (map.insert key value)[k]? = some record → property k record := by
  intro k record known
  rw [getElem?_insert] at known
  split at known
  · next hk =>
      rw [← Option.some.inj known, ← hk]
      exact new
  · exact each k record known

theorem forall_erase (each : ∀ (k : String) record, map[k]? = some record → property k record)
    (gone : String) :
    ∀ (k : String) record, (map.erase gone)[k]? = some record → property k record := by
  intro k record known
  rw [getElem?_erase] at known
  split at known
  · cases known
  · exact each k record known

end Each

def Keyed (key : α → String) (map : Std.ExtTreeMap String α) : Prop :=
  ∀ (k : String) (record : α), map[k]? = some record → key record = k

variable {key : α → String} {map : Std.ExtTreeMap String α}

theorem Keyed.empty : Keyed key ∅ := by
  intro k record h
  simp at h

theorem Keyed.insert (h : Keyed key map) (record : α) :
    Keyed key (map.insert (key record) record) :=
  forall_insert h rfl

theorem Keyed.erase (h : Keyed key map) (gone : String) : Keyed key (map.erase gone) :=
  forall_erase h gone

/-- The record under the key, if any, has the property. -/
def At (map : Std.ExtTreeMap String α) (key : String) (property : α → Prop) : Prop :=
  ∃ record, map[key]? = some record ∧ property record

theorem at_insert (record : α) (gone k : String) (property : α → Prop) :
    At (map.insert gone record) k property ↔
      if gone = k then property record else At map k property := by
  unfold At
  by_cases hk : gone = k
  · simp [hk]
  · simp [getElem?_insert, hk]

theorem at_erase (gone k : String) (property : α → Prop) :
    At (map.erase gone) k property ↔ gone ≠ k ∧ At map k property := by
  unfold At
  by_cases hk : gone = k
  · simp [hk]
  · simp [getElem?_erase, hk]

theorem at_of_some {k : String} {record : α} (h : map[k]? = some record) (property : α → Prop) :
    At map k property ↔ property record := by
  simp [At, h]

theorem not_at_of_none {k : String} (h : map[k]? = none) (property : α → Prop) :
    ¬ At map k property := by
  simp [At, h]

end Switchboard.Maps
