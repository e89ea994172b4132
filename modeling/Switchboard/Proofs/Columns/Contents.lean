import Switchboard.Columns.Cluster
import Switchboard.Proofs.Maps

/-! # Contents of tables

The contents of tables are a plain nested map from table, row and column name to
value. Emptied rows, missing rows and missing tables all have no cells, and a batch
acts on contents one change after the other, whatever the clock says. A table whose
rows are in order shows the same contents before and after a purge.
-/

namespace Switchboard.Columns

abbrev Cells : Type := Std.ExtTreeMap String String

def Cells.columns (cells : Cells) : List Column :=
  cells.toList.map fun (name, value) => ⟨name, value⟩

theorem Cells.ne_empty_iff (cells : Cells) :
    cells ≠ ∅ ↔ ∃ name value : String, cells[name]? = some value := by
  constructor
  · intro hne
    apply Classical.byContradiction
    intro none
    apply hne
    apply Std.ExtTreeMap.ext_getElem?
    intro name
    cases hv : cells[name]? with
    | none => simp
    | some value => exact (none ⟨name, value, hv⟩).elim
  · intro ⟨name, value, hv⟩ hempty
    simp [hempty] at hv

/-! ## Columns that are read -/

def Cells.selected (cells : Cells) (projection : Projection) : List Column :=
  StoredRow.select { columns := cells } projection

theorem StoredRow.select_eq (row : StoredRow) (projection : Projection) :
    row.select projection = Cells.selected row.columns projection := by
  cases projection <;> rfl

theorem Cells.selected_empty (projection : Projection) : (∅ : Cells).selected projection = [] := by
  cases projection with
  | all limit => cases limit <;> simp [selected, StoredRow.select, upTo]
  | names names => simp [selected, StoredRow.select, StoredRow.named]

theorem Cells.selected_first_ne_nil {cells : Cells} :
    cells.selected (.all (some 1)) ≠ [] ↔ cells ≠ ∅ := by
  simp [selected, StoredRow.select, upTo]

theorem Cells.selected_name_ne_nil {cells : Cells} {name : String} :
    cells.selected (.names [name]) ≠ [] ↔ ∃ value, cells[name]? = some value := by
  cases h : cells[name]? <;> simp [selected, StoredRow.select, StoredRow.named, h]

theorem Cells.mem_columns (cells : Cells) (column : Column) :
    column ∈ cells.columns ↔ cells[column.name]? = some column.value := by
  rw [columns, List.mem_map]
  constructor
  · rintro ⟨⟨name, value⟩, hmem, rfl⟩
    exact Std.ExtTreeMap.mem_toList_iff_getElem?_eq_some.1 hmem
  · intro h
    exact ⟨(column.name, column.value),
      Std.ExtTreeMap.mem_toList_iff_getElem?_eq_some.2 h, rfl⟩

/-- A column that is looked up among the columns of a row is a cell of the row. -/
theorem column?_columns (cells : Cells) (name : String) :
    column? cells.columns name = cells[name]? := by
  unfold column?
  cases hf : cells.columns.find? (·.name == name) with
  | none =>
      rw [List.find?_eq_none] at hf
      cases h : cells[name]? with
      | none => rfl
      | some value =>
          have hmem := (cells.mem_columns ⟨name, value⟩).2 h
          exact absurd (beq_self_eq_true name) (hf _ hmem)
  | some column =>
      have hname : column.name = name := by simpa using List.find?_some hf
      have hin := (cells.mem_columns column).1 (List.mem_of_find?_eq_some hf)
      rw [hname] at hin
      rw [hin]
      rfl

theorem Cells.isEmpty_columns (cells : Cells) : cells.columns.isEmpty = cells.isEmpty := by
  rw [columns, List.isEmpty_map, Std.ExtTreeMap.isEmpty_toList]

/-! ## Contents -/

/-- The cells of every row of every table. -/
abbrev Contents : Type := String → String → Cells

namespace Contents

def set (contents : Contents) (table key : String) (cells : Cells) : Contents := fun t k =>
  if table = t ∧ key = k then cells else contents t k

def apply (contents : Contents) : Mutation → Contents
  | .insert table key name value =>
    contents.set table key ((contents table key).insert name value)
  | .deleteColumn table key name => contents.set table key ((contents table key).erase name)
  | .deleteRow table key => contents.set table key ∅

def applyAll (contents : Contents) (batch : Batch) : Contents :=
  batch.foldl apply contents

@[simp] theorem applyAll_nil (contents : Contents) : contents.applyAll [] = contents := rfl

@[simp] theorem applyAll_cons (contents : Contents) (mutation : Mutation) (rest : Batch) :
    contents.applyAll (mutation :: rest) = (contents.apply mutation).applyAll rest := rfl

theorem applyAll_append (contents : Contents) (front back : Batch) :
    contents.applyAll (front ++ back) = (contents.applyAll front).applyAll back :=
  List.foldl_append

theorem set_of_table_ne (contents : Contents) {table t : String} (h : table ≠ t)
    (key : String) (cells : Cells) : contents.set table key cells t = contents t := by
  funext k
  simp [set, h]

theorem apply_of_table_ne (contents : Contents) {mutation : Mutation} {table : String}
    (h : mutation.table ≠ table) : contents.apply mutation table = contents table := by
  cases mutation with
  | insert t key name value => exact set_of_table_ne contents h key _
  | deleteColumn t key name => exact set_of_table_ne contents h key _
  | deleteRow t key => exact set_of_table_ne contents h key _

/-- A batch leaves the tables alone that it does not name. -/
theorem applyAll_of_table_ne {contents : Contents} {batch : Batch} {table : String}
    (h : ∀ mutation ∈ batch, mutation.table ≠ table) :
    contents.applyAll batch table = contents table := by
  induction batch generalizing contents with
  | nil => rfl
  | cons mutation rest ih =>
      rw [applyAll_cons, ih fun m hm => h m (List.mem_cons_of_mem mutation hm)]
      exact apply_of_table_ne contents (h mutation List.mem_cons_self)

theorem apply_congr {contents contents' : Contents} (mutation : Mutation) {table : String}
    (same : contents table = contents' table) :
    contents.apply mutation table = contents'.apply mutation table := by
  by_cases h : mutation.table = table
  · subst h
    funext k
    cases mutation with
    | insert t key name value =>
        have hs : contents t = contents' t := same
        simp [apply, set, Mutation.table, hs]
    | deleteColumn t key name =>
        have hs : contents t = contents' t := same
        simp [apply, set, Mutation.table, hs]
    | deleteRow t key =>
        have hs : contents t = contents' t := same
        simp [apply, set, Mutation.table, hs]
  · rw [apply_of_table_ne contents h, apply_of_table_ne contents' h, same]

theorem applyAll_congr {contents contents' : Contents} (batch : Batch) {table : String}
    (same : contents table = contents' table) :
    contents.applyAll batch table = contents'.applyAll batch table := by
  induction batch generalizing contents contents' with
  | nil => exact same
  | cons mutation rest ih => exact ih (apply_congr mutation same)

/-- What a batch does to a table is what its changes of the table do. -/
theorem applyAll_filter (contents : Contents) (batch : Batch) (table : String) :
    contents.applyAll batch table =
      contents.applyAll (batch.filter (·.table = table)) table := by
  induction batch generalizing contents with
  | nil => rfl
  | cons mutation rest ih =>
      by_cases h : mutation.table = table
      · rw [List.filter_cons_of_pos (by simpa using h), applyAll_cons, applyAll_cons, ih]
      · rw [List.filter_cons_of_neg (by simpa using h), applyAll_cons, ih]
        exact applyAll_congr _ (apply_of_table_ne contents h)

theorem applyAll_of_filter (contents : Contents) {batch kept : Batch} {table : String}
    (h : batch.filter (·.table = table) = kept) :
    contents.applyAll batch table = contents.applyAll kept table := by
  rw [applyAll_filter, h]

def Within (tables : List String) (batch : Batch) : Prop :=
  ∀ mutation ∈ batch, mutation.table ∈ tables

theorem within_of_subset {tables : List String} {batch : Batch}
    (h : batch.map Mutation.table ⊆ tables) : Within tables batch :=
  fun _ hm => h (List.mem_map_of_mem hm)

theorem within_map {α : Type} {tables : List String} {change : α → Mutation}
    (h : ∀ x, (change x).table ∈ tables) (xs : List α) : Within tables (xs.map change) := by
  intro mutation hm
  obtain ⟨x, _, rfl⟩ := List.mem_map.1 hm
  exact h x

theorem Within.append {tables : List String} {front back : Batch} (hf : Within tables front)
    (hb : Within tables back) : Within tables (front ++ back) := by
  intro mutation hm
  rcases List.mem_append.1 hm with h | h
  · exact hf mutation h
  · exact hb mutation h

theorem Within.mono {tables tables' : List String} {batch : Batch} (h : Within tables batch)
    (sub : tables ⊆ tables') : Within tables' batch :=
  fun mutation hm => sub (h mutation hm)

theorem Within.applyAll_eq {tables : List String} {batch : Batch} (h : Within tables batch)
    (contents : Contents) {table : String} (other : table ∉ tables) :
    contents.applyAll batch table = contents table := by
  apply applyAll_of_table_ne
  intro mutation hm he
  exact other (he ▸ h mutation hm)

/-- Other tables are left alone by a batch that stays within its own. -/
theorem Within.keeps {own other : List String} {batch : Batch} (h : Within own batch)
    {contents : Contents} (disjoint : ∀ table ∈ other, table ∉ own) :
    ∀ table ∈ other, contents.applyAll batch table = contents table :=
  fun table hin => h.applyAll_eq contents (disjoint table hin)

theorem getElem?_apply_insert (contents : Contents) (table key name value k n : String) :
    (contents.apply (.insert table key name value) table k)[n]? =
      if key = k ∧ name = n then some value else (contents table k)[n]? := by
  by_cases hk : key = k
  · subst hk
    simp [apply, set, Maps.getElem?_insert]
  · simp [apply, set, hk]

theorem getElem?_apply_deleteColumn (contents : Contents) (table key name k n : String) :
    (contents.apply (.deleteColumn table key name) table k)[n]? =
      if key = k ∧ name = n then none else (contents table k)[n]? := by
  by_cases hk : key = k
  · subst hk
    simp [apply, set, Maps.getElem?_erase]
  · simp [apply, set, hk]

/-! ## Listing tables -/

/-- The rows of the table list names: each listed name is a column whose value is the name. -/
def Lists (contents : Contents) (table : String) (listed : String → String → Prop) : Prop :=
  ∀ key name value, (contents table key)[name]? = some value ↔ value = name ∧ listed key name

variable {contents : Contents} {table : String} {listed listed' : String → String → Prop}

theorem Lists.congr (h : contents.Lists table listed)
    (same : ∀ key name, listed key name ↔ listed' key name) : contents.Lists table listed' := by
  intro key name value
  rw [h key name value, same key name]

theorem Lists.of_contents_eq (h : contents.Lists table listed) {contents' : Contents}
    (same : contents' table = contents table) : contents'.Lists table listed := by
  intro key name value
  rw [same]
  exact h key name value

theorem Lists.exists_iff (h : contents.Lists table listed) (key name : String) :
    (∃ value, (contents table key)[name]? = some value) ↔ listed key name := by
  constructor
  · intro ⟨value, hcell⟩
    exact ((h key name value).1 hcell).2
  · intro hlisted
    exact ⟨name, (h key name name).2 ⟨rfl, hlisted⟩⟩

theorem Lists.insert (h : contents.Lists table listed) (key name : String) :
    (contents.apply (.insert table key name name)).Lists table
      fun k n => (key = k ∧ name = n) ∨ listed k n := by
  intro k n value
  rw [getElem?_apply_insert]
  by_cases hkn : key = k ∧ name = n
  · simp [hkn, eq_comm]
  · simp [hkn, h k n value]

theorem Lists.deleteColumn (h : contents.Lists table listed) (key name : String) :
    (contents.apply (.deleteColumn table key name)).Lists table
      fun k n => ¬ (key = k ∧ name = n) ∧ listed k n := by
  intro k n value
  rw [getElem?_apply_deleteColumn]
  by_cases hkn : key = k ∧ name = n
  · simp [hkn]
  · simp [hkn, h k n value]

theorem Lists.deleteRow (h : contents.Lists table listed) (key : String) :
    (contents.apply (.deleteRow table key)).Lists table fun k n => key ≠ k ∧ listed k n := by
  intro k n value
  by_cases hk : key = k
  · simp [apply, set, hk]
  · simp [apply, set, hk, h k n value]

/-- A name is listed in several rows. -/
theorem Lists.insertAll (h : contents.Lists table listed) (keys : List String) (name : String) :
    (contents.applyAll (keys.map fun key => .insert table key name name)).Lists table
      fun k n => (k ∈ keys ∧ n = name) ∨ listed k n := by
  induction keys generalizing contents listed with
  | nil => exact h.congr fun k n => by simp
  | cons key rest ih =>
      rw [List.map_cons, applyAll_cons]
      apply (ih (h.insert key name)).congr
      intro k n
      simp only [List.mem_cons]
      grind

/-- A name is taken off several rows. -/
theorem Lists.deleteAll (h : contents.Lists table listed) (keys : List String) (name : String) :
    (contents.applyAll (keys.map fun key => .deleteColumn table key name)).Lists table
      fun k n => ¬ (k ∈ keys ∧ n = name) ∧ listed k n := by
  induction keys generalizing contents listed with
  | nil => exact h.congr fun k n => by simp
  | cons key rest ih =>
      rw [List.map_cons, applyAll_cons]
      apply (ih (h.deleteColumn key name)).congr
      intro k n
      simp only [List.mem_cons]
      grind

/-- Several names are taken off one row. -/
theorem Lists.deleteNames (h : contents.Lists table listed) (key : String) (names : List String) :
    (contents.applyAll (names.map fun name => .deleteColumn table key name)).Lists table
      fun k n => ¬ (k = key ∧ n ∈ names) ∧ listed k n := by
  induction names generalizing contents listed with
  | nil => exact h.congr fun k n => by simp
  | cons name rest ih =>
      rw [List.map_cons, applyAll_cons]
      apply (ih (h.deleteColumn key name)).congr
      intro k n
      simp only [List.mem_cons]
      grind

theorem Lists.deleteRows (h : contents.Lists table listed) (keys : List String) :
    (contents.applyAll (keys.map fun key => .deleteRow table key)).Lists table
      fun k n => k ∉ keys ∧ listed k n := by
  induction keys generalizing contents listed with
  | nil => exact h.congr fun k n => by simp
  | cons key rest ih =>
      rw [List.map_cons, applyAll_cons]
      apply (ih (h.deleteRow key)).congr
      intro k n
      simp only [List.mem_cons]
      grind

/-- A name that is listed makes its row one with cells. -/
theorem Lists.ne_empty_iff (h : contents.Lists table listed) (key : String) :
    contents table key ≠ ∅ ↔ ∃ name, listed key name := by
  rw [Cells.ne_empty_iff]
  exact exists_congr fun name => h.exists_iff key name

/-- The names that a table lists are all that it holds. -/
theorem Lists.table_eq (h : contents.Lists table listed) {contents' : Contents}
    (h' : contents'.Lists table listed) : contents table = contents' table := by
  funext key
  apply Std.ExtTreeMap.ext_getElem?
  intro name
  apply Option.ext
  intro value
  rw [h, h']

/-! ## Pointing tables -/

/-- A row of the table has at most the one column of this name, with the value that the key
points to. -/
def Points (contents : Contents) (table name : String) (points : String → String → Prop) : Prop :=
  ∀ key n value, (contents table key)[n]? = some value ↔ n = name ∧ points key value

variable {name : String} {points points' : String → String → Prop}

theorem Points.congr (h : contents.Points table name points)
    (same : ∀ key value, points key value ↔ points' key value) :
    contents.Points table name points' := by
  intro key n value
  rw [h key n value, same key value]

theorem Points.of_contents_eq (h : contents.Points table name points) {contents' : Contents}
    (same : contents' table = contents table) : contents'.Points table name points := by
  intro key n value
  rw [same]
  exact h key n value

theorem Points.insert (h : contents.Points table name points) (key value : String) :
    (contents.apply (.insert table key name value)).Points table name
      fun k v => if key = k then v = value else points k v := by
  intro k n v
  by_cases hk : key = k
  · subst hk
    have hp := h key n v
    by_cases hn : name = n
    · subst hn
      simp [apply, set, eq_comm]
    · have hn' : ¬ n = name := fun he => hn he.symm
      simp only [apply, set, and_self, if_true, Maps.getElem?_insert, if_neg hn, hp, hn', false_and]
  · simp [apply, set, hk, h k n v]

theorem Points.deleteRow (h : contents.Points table name points) (key : String) :
    (contents.apply (.deleteRow table key)).Points table name fun k v => key ≠ k ∧ points k v := by
  intro k n v
  by_cases hk : key = k
  · simp [apply, set, hk]
  · simp [apply, set, hk, h k n v]

/-- A key points to one value. -/
theorem Points.unique (h : contents.Points table name points) {key value value' : String}
    (hv : points key value) (hv' : points key value') : value = value' := by
  have hc := (h key name value).2 ⟨rfl, hv⟩
  rw [(h key name value').2 ⟨rfl, hv'⟩] at hc
  exact (Option.some.inj hc).symm

/-- What the keys of a table point to is all that it holds. -/
theorem Points.table_eq (h : contents.Points table name points) {contents' : Contents}
    (h' : contents'.Points table name points) : contents table = contents' table := by
  funext key
  apply Std.ExtTreeMap.ext_getElem?
  intro n
  apply Option.ext
  intro value
  rw [h, h']

end Contents

end Switchboard.Columns
