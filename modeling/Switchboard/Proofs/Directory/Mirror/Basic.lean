import Switchboard.Proofs.Directory.Memory.Listing
import Switchboard.Proofs.Directory.Replicated.Access

/-! # One command on both directories

A command is planned against the tables and carried out in memory. Both sides give one
result, and the plan changes no tables but those of its family, so the records of the
other families stay what they are on both sides.
-/

namespace Switchboard.Mirror

open Switchboard.Columns Switchboard.Replicated

/-- Both sides of a command have the same result and hold the same records after it, and no tables
but the named ones have changed. -/
structure Matches {σ α : Type} (own : List String) (holds : σ → Contents → Prop) (r : Replicated)
    (left : Except DirectoryError α × σ) (right : Except DirectoryError α × Replicated) :
    Prop where
  result : left.1 = right.1
  live : right.2.Live
  held : holds left.2 right.2.contents
  kept : ∀ table, table ∉ own → right.2.contents table = r.contents table

section Commands

variable {σ α : Type} {own : List String} {holds : σ → Contents → Prop} {r : Replicated} {s : σ}
  {plan : Replicated → Except DirectoryError (Plan α)}

theorem matches_refused (live : r.Live) (held : holds s r.contents) {e : DirectoryError}
    (h : plan r = .error e) : Matches own holds r (.error e, s) (carryOut plan r) := by
  rw [carryOut_of_error h]
  refine ⟨rfl, live.noteRead, ?_, fun table _ => ?_⟩
  · rw [contents_noteRead]
    exact held
  · rw [contents_noteRead]

theorem matches_kept (live : r.Live) (held : holds s r.contents) {answer : α}
    (h : plan r = .ok (.keep answer)) : Matches own holds r (.ok answer, s) (carryOut plan r) := by
  rw [carryOut_of_keep h]
  refine ⟨rfl, live.noteRead, ?_, fun table _ => ?_⟩
  · rw [contents_noteRead]
    exact held
  · rw [contents_noteRead]

theorem matches_written (live : r.Live) {batch : Batch} {context : String} {answer : α}
    (h : plan r = .ok (.write batch context answer)) (within : Contents.Within own batch)
    (named : own ⊆ tableNames) (held : holds s (r.contents.applyAll batch)) :
    Matches own holds r (.ok answer, s) (carryOut plan r) := by
  obtain ⟨r', hrun, live', hcontents⟩ := live.carryOut_of_write h (within.mono named)
  rw [hrun]
  refine ⟨rfl, live', ?_, fun table other => ?_⟩
  · rw [hcontents]
    exact held
  · rw [hcontents]
    exact within.applyAll_eq r.contents other

end Commands

/-! ## Listings on both sides -/

section Listings

variable {r : Replicated} {table : String}

/-- A listing in memory and a row of a listing table have the same names, in some order. -/
theorem values_perm_columnNames (live : r.Live) (h : table ∈ tableNames) {listing : Listing}
    {filed : String → String → Prop} (files : listing.Files filed) {key row : String}
    (same : ∀ name, (∃ value, (r.contents table row)[name]? = some value) ↔ filed key name) :
    (listing.values key).Perm (r.columnNames table row) := by
  obtain ⟨keyspace, ready⟩ := live.ready
  have nodup := ready.nodup_columnNames h live.reads row
  refine (List.perm_ext_iff_of_nodup (files.nodup key) nodup).2 fun name => ?_
  rw [files.mem_iff, live.mem_columnNames h, same]

/-- The keys of a map and of the rows of a table that are not empty, both in order. -/
theorem keys_eq_rowKeys {α : Type} (live : r.Live) (h : table ∈ tableNames)
    {map : Std.ExtTreeMap String α} (same : ∀ key, r.contents table key ≠ ∅ ↔ key ∈ map) :
    map.keys = r.rowKeys table (.all (some 1)) := by
  obtain ⟨keyspace, ready⟩ := live.ready
  refine (Maps.keys_sorted map).eq_of_mem_iff (ready.rowKeys_sorted h live.reads _) fun key => ?_
  rw [ready.mem_rowKeys h live.reads, Cells.selected_first_ne_nil, Std.ExtTreeMap.mem_keys, same]

end Listings

end Switchboard.Mirror
