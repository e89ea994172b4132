import Switchboard.Proofs.Directory.Replicated.Access

/-! # Listing a table without a bound

On every table that can be read the loop that turns the pages ends, after as many pages as the
rows fill, and by then it has found every live key once and in order.
-/

namespace Switchboard

namespace Columns

/-- The row has a column that the projection asks for. -/
def StoredRow.Meets (row : StoredRow) : Projection → Prop
  | .all limit => limit ≠ some 0 ∧ row.columns ≠ ∅
  | .names names => ∃ name ∈ names, name ∈ row.columns

theorem StoredRow.select_ne_nil_iff (row : StoredRow) (projection : Projection) :
    row.select projection ≠ [] ↔ row.Meets projection := by
  cases projection with
  | all limit =>
      cases limit with
      | none => simp [select, upTo, Meets]
      | some n => simp [select, upTo, Meets, List.take_eq_nil_iff]
  | names names => simp [select, Meets, named, List.filterMap_eq_nil_iff]

theorem Cluster.exists_table_of_readable {cluster : Cluster} {keyspace name : String}
    {stored : Table} (readable : cluster.readable keyspace name = .ok stored) :
    cluster.failReads = false ∧ ∃ held, cluster.keyspaces[keyspace]? = some held ∧
      held.tables[name]? = some stored := by
  unfold Cluster.readable Cluster.keyspace at readable
  cases reads : cluster.failReads with
  | true => simp [reads] at readable
  | false =>
      cases known : cluster.keyspaces[keyspace]? with
      | none => simp [reads, known] at readable
      | some held =>
          cases found : held.tables[name]? with
          | none => simp [reads, known, found] at readable
          | some table => simp_all

end Columns

namespace Replicated

open Switchboard.Columns

/-! ## Tables that can be read -/

theorem mem_liveKeys_iff (stored : Table) (projection : Projection) (key : String) :
    key ∈ Paging.liveKeys (rowsOf stored projection) ↔
      ∃ row, stored.rows[key]? = some row ∧ row.Meets projection := by
  rw [mem_liveKeys_rowsOf]
  cases known : stored.rows[key]? with
  | none => simp [Table.cells_of_no_row known, Cells.selected_empty]
  | some row =>
      rw [Table.cells_of_row known, ← StoredRow.select_eq, StoredRow.select_ne_nil_iff]
      simp

theorem scan_all (stored : Table) (projection : Projection) :
    stored.scan {} projection = rowsOf stored projection := by
  have whole : stored.rows.toList.filter (fun entry => ("" : String) ≤ entry.1) =
      stored.rows.toList :=
    List.filter_eq_self.2 fun entry _ => decide_eq_true (Paging.empty_le entry.1)
  exact congrArg (List.map _) whole

/-- The keys list the rows of a table in which the projection finds a column, and the loop comes to
them. -/
structure Lists (r : Replicated) (name : String) (stored : Table) (projection : Projection)
    (keys : List String) : Prop where
  /-- The loop ends in one way only, after so many pages. -/
  ends : ∀ pages found,
    Paging.Ends (fun start => r.cluster.scan r.keyspace name ⟨start, some Paging.pageSize⟩
      projection) {} pages found ↔
        pages = Paging.pagesBehind (stored.rows.size - 1) ∧ found = keys
  ascending : keys.Pairwise (· < ·)
  mem_iff : ∀ key, key ∈ keys ↔ ∃ row, stored.rows[key]? = some row ∧ row.Meets projection
  /-- One scan without a limit shows the same live rows. -/
  scanned : (r.cluster.scan r.keyspace name {} projection).map Paging.liveKeys = .ok keys

/-- A listing of a table that can be read ends, and it names each live row once, in order. -/
theorem paged_listing_complete (r : Replicated) (name : String) {stored : Table}
    (readable : r.cluster.readable r.keyspace name = .ok stored) (projection : Projection) :
    r.Lists name stored projection (r.rowKeys name projection) := by
  obtain ⟨reads, held, known, table⟩ := Cluster.exists_table_of_readable readable
  have size : (rowsOf stored projection).length = stored.rows.size := by simp [rowsOf]
  have paged (start : String) :
      r.cluster.scan r.keyspace name ⟨start, some Paging.pageSize⟩ projection =
        .ok (Paging.pageOf (rowsOf stored projection) start) := by
    rw [Cluster.scan, readable, Except.map, scan_eq_pageOf]
  have ends := Paging.ends_from_first paged (rowsOf_inOrder stored projection)
  rw [size] at ends
  rw [rowKeys_of_table known table reads]
  constructor
  case ends =>
    intro pages found
    constructor
    · exact fun other => other.unique ends
    · rintro ⟨rfl, rfl⟩
      exact ends
  case ascending => exact liveKeys_rowsOf_sorted stored projection
  case mem_iff => exact mem_liveKeys_iff stored projection
  case scanned => rw [Cluster.scan, readable, Except.map, Except.map, scan_all]

/-- A table whose rows fill one page, emptied ones but for the first row, whose key is empty, and
the last. -/
theorem paged_listing_complete_on_full_page :
    let key (n : Nat) : String :=
      if n = 0 then "" else .ofList [Char.ofNat (97 + n / 10), Char.ofNat (97 + n % 10)]
    let row (n : Nat) : StoredRow := if n % 99 = 0 then { columns := .ofList [("c", "1")] } else {}
    let stored : Table :=
      { grace := 1000, rows := .ofList ((List.range 100).map fun n => (key n, row n)) }
    let held : Keyspace := ⟨⟨"rayo", "SimpleStrategy", 1, []⟩, .ofList [("t", stored)]⟩
    let r : Replicated := ⟨{ keyspaces := .ofList [("rayo", held)] }, "rayo"⟩
    let page (start : String) :=
      r.cluster.scan "rayo" "t" ⟨start, some Paging.pageSize⟩ (.names ["b", "c"])
    r.Lists "t" stored (.names ["b", "c"]) ["", "jj"] ∧ Paging.Ends page {} 2 ["", "jj"] := by
  intro key row stored held r page
  have readable : r.cluster.readable r.keyspace "t" = .ok stored := by
    clear_value stored
    simp [Cluster.readable, Cluster.keyspace, r, held]
  have keys : r.rowKeys "t" (.names ["b", "c"]) = ["", "jj"] := by decide +kernel
  have size : stored.rows.size = 100 := by decide +kernel
  have lists := paged_listing_complete r "t" readable (.names ["b", "c"])
  rw [keys] at lists
  refine ⟨lists, (lists.ends 2 _).2 ⟨?_, rfl⟩⟩
  rw [size]
  rfl

end Replicated

end Switchboard
