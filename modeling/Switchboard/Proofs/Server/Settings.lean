import Switchboard.Proofs.Columns.Batches
import Switchboard.Proofs.Directory.Replicated.Preparation
import Switchboard.Proofs.Text.Blank
import Switchboard.Server.Config

/-! # Blanks around the texts of settings

A setting that is parsed is read without the blanks around its text. A switch is compared as it
stands with the two words that turn it off, so a switch is on when there are blanks around the
word, and nothing else in the settings of a server depends on such blanks. On the switch for the
schema it depends whether a directory is opened with what the cluster holds or with nothing.
-/

namespace Switchboard

open Switchboard.Columns Switchboard.Text

namespace Replicated

/-! ## What a directory is opened with -/

variable [Timer] {settings : StoreSettings} {cluster after : Cluster} {keyspace : Keyspace}

/-- A schema that is built anew holds nothing. -/
theorem Shaped.contents_of_recreated (shaped : Shaped settings cluster after keyspace)
    (recreate : settings.recreateSchema = true) :
    after.contents settings.keyspace = fun _ _ => ∅ := by
  have tables := (shaped.anew (.inl recreate)).2
  rw [Cluster.contents, shaped.stored]
  funext name
  change keyspace.contents name = _
  rw [Keyspace.contents, tables]
  cases Layout.tables.find? (·.name = name) with
  | none => rfl
  | some table => exact Table.cells_ofDef table

/-- A schema that stays keeps what it holds. -/
theorem Shaped.contents_of_kept (shaped : Shaped settings cluster after keyspace)
    (keep : settings.recreateSchema = false) :
    after.contents settings.keyspace = cluster.contents settings.keyspace := by
  rw [Cluster.contents, shaped.stored, Cluster.contents]
  funext name
  change keyspace.contents name = _
  cases there : cluster.keyspaces[settings.keyspace]? with
  | none =>
      rw [Keyspace.contents, (shaped.anew (.inr there)).2]
      cases Layout.tables.find? (·.name = name) with
      | none => rfl
      | some table => exact Table.cells_ofDef table
  | some old =>
      have completes := shaped.completed old keep there
      change _ = old.contents name
      rw [Keyspace.contents, Keyspace.contents]
      cases held : old.tables[name]? with
      | some table => rw [completes.kept name table held]
      | none =>
          by_cases required : name ∈ Layout.tables.map (·.name)
          · obtain ⟨table, listed, rfl⟩ := List.mem_map.1 required
            rw [completes.added table listed held]
            exact Table.cells_ofDef table
          · rw [completes.others name required, held]

end Replicated

namespace Config

/-- The settings whose texts are read as a number, an address or the name of a directory. -/
def valueKeys : List String :=
  ["HTTP_ADDR", "DATASTORE", "MAX_DIAL_RETRIES", "MAX_CONSECUTIVE_ERRORS", "STORE_PORT",
    "STORE_SCHEMA_WAIT_MS"]

def switchKeys : List String :=
  ["STORE_RECREATE_SCHEMA", "STORE_WAIT_FOR_SYNC"]

/-- The texts of these settings without the blanks around them, and all others as they are. -/
def Lookup.trimmed (lookup : Lookup) : Lookup := fun key =>
  if key ∈ valueKeys ++ switchKeys then (lookup key).map trim else lookup key

def IsOff (text : String) : Prop :=
  text = "false" ∨ text = "0"

/-- The text of a switch turns it off but for the blanks around it. -/
def Misread (lookup : Lookup) (key : String) : Prop :=
  ∃ text, lookup key = some text ∧ IsOff (trim text) ∧ trim text ≠ text

variable {α : Type} {key text : String} (lookup : Lookup)

/-! ## Single settings -/

theorem trimmed_of_mem (listed : key ∈ valueKeys ++ switchKeys) :
    lookup.trimmed key = (lookup key).map trim :=
  if_pos listed

theorem trimmed_of_not_mem (unlisted : key ∉ valueKeys ++ switchKeys) :
    lookup.trimmed key = lookup key :=
  if_neg unlisted

/-- A parsed setting has been trimmed already. -/
theorem parsed_trimmed (listed : key ∈ valueKeys) (parse : String → Option α) (fallback : α) :
    parsed lookup.trimmed key parse fallback = parsed lookup key parse fallback := by
  rw [parsed, parsed, trimmed_of_mem lookup (List.mem_append_left _ listed)]
  cases lookup key with
  | none => rfl
  | some text =>
      dsimp only [Option.map_some]
      rw [trim_trim]

theorem nonEmpty?_trimmed (unlisted : key ∉ valueKeys ++ switchKeys) :
    nonEmpty? lookup.trimmed key = nonEmpty? lookup key := by
  rw [nonEmpty?, nonEmpty?, trimmed_of_not_mem lookup unlisted]

theorem trim_of_isOff (off : IsOff text) : trim text = text := by
  rcases off with rfl | rfl <;> decide +kernel

variable {lookup}

theorem switch_eq_true_iff (given : lookup key = some text) (fallback : Bool) :
    switch lookup key fallback = true ↔ ¬ IsOff text := by
  simp [switch, given, IsOff]

/-- What a switch is without the blanks around its text and what it is with them. -/
theorem switch_cases (listed : key ∈ switchKeys) (lookup : Lookup) (fallback : Bool) :
    (Misread lookup key ∧ switch lookup key fallback = true ∧
        switch lookup.trimmed key fallback = false) ∨
      (¬ Misread lookup key ∧
        switch lookup.trimmed key fallback = switch lookup key fallback) := by
  have given := trimmed_of_mem lookup (List.mem_append_right valueKeys listed)
  cases known : lookup key with
  | none =>
      rw [known, Option.map_none] at given
      refine .inr ⟨?_, by rw [switch, switch, given, known]⟩
      rintro ⟨text, other, -⟩
      cases known.symm.trans other
  | some text =>
      rw [known, Option.map_some] at given
      have on := switch_eq_true_iff known fallback
      have plain := switch_eq_true_iff given fallback
      by_cases misread : IsOff (trim text) ∧ trim text ≠ text
      · have shown : ¬ IsOff text := fun off => misread.2 (trim_of_isOff off)
        exact .inl ⟨⟨text, known, misread⟩, on.2 shown,
          Bool.eq_false_iff.2 fun other => plain.1 other misread.1⟩
      · refine .inr ⟨?_, Bool.eq_iff_iff.2 ?_⟩
        · rintro ⟨other, same, blank⟩
          obtain rfl := Option.some.inj (known.symm.trans same)
          exact misread blank
        · rw [plain, on]
          -- Either the text has no blanks around it, or it is off neither with them nor without.
          refine not_congr ?_
          by_cases bare : trim text = text
          · rw [bare]
          · have shown : ¬ IsOff (trim text) := fun off => misread ⟨off, bare⟩
            exact iff_of_false shown fun off => bare (trim_of_isOff off)

theorem switch_trimmed_eq_iff (listed : key ∈ switchKeys) (lookup : Lookup) (fallback : Bool) :
    switch lookup.trimmed key fallback = switch lookup key fallback ↔ ¬ Misread lookup key := by
  rcases switch_cases listed lookup fallback with ⟨misread, on, off⟩ | ⟨clear, same⟩
  · simp [misread, on, off]
  · simp [clear, same]

theorem misread_iff (listed : key ∈ switchKeys) (lookup : Lookup) (fallback : Bool) :
    Misread lookup key ↔
      switch lookup key fallback = true ∧ switch lookup.trimmed key fallback = false := by
  rcases switch_cases listed lookup fallback with ⟨misread, on, off⟩ | ⟨clear, same⟩
  · simp [misread, on, off]
  · rw [same]
    simp [clear]

/-! ## All settings -/

theorem storeSettings_trimmed (lookup : Lookup) :
    storeSettings lookup.trimmed =
      { storeSettings lookup with
        recreateSchema := switch lookup.trimmed "STORE_RECREATE_SCHEMA" true
        waitForSync := switch lookup.trimmed "STORE_WAIT_FOR_SYNC" true } := by
  have host : lookup.trimmed "STORE_HOST" = lookup "STORE_HOST" :=
    trimmed_of_not_mem lookup (by decide)
  have keyspace : lookup.trimmed "STORE_KEYSPACE" = lookup "STORE_KEYSPACE" :=
    trimmed_of_not_mem lookup (by decide)
  unfold storeSettings
  dsimp only
  rw [host, keyspace, parsed_trimmed lookup (by decide), parsed_trimmed lookup (by decide)]

/-- Apart from the two switches nothing depends on the blanks. -/
theorem ofLookup_trimmed (lookup : Lookup) :
    ofLookup lookup.trimmed = { ofLookup lookup with store := storeSettings lookup.trimmed } := by
  unfold ofLookup
  dsimp only
  rw [nonEmpty?_trimmed lookup (by decide), nonEmpty?_trimmed lookup (by decide),
    parsed_trimmed lookup (by decide), parsed_trimmed lookup (by decide),
    parsed_trimmed lookup (by decide), parsed_trimmed lookup (by decide)]

/-- Opened with these settings on a cluster with any past, a directory starts with nothing. -/
def LosesData (settings : StoreSettings) : Prop :=
  ∀ [Timer] calls, (Replicated.openOn settings (Cluster.afterCalls {} calls)).2.contents
    settings.keyspace = fun _ _ => ∅

/-- Opened with these settings on a cluster with any past, a directory starts with what its
keyspace holds. -/
def KeepsData (settings : StoreSettings) : Prop :=
  ∀ [Timer] calls, (Replicated.openOn settings (Cluster.afterCalls {} calls)).2.contents
    settings.keyspace = (Cluster.afterCalls {} calls).contents settings.keyspace

section Data

variable {settings : StoreSettings}

theorem losesData_of_recreateSchema (recreate : settings.recreateSchema = true)
    (reached : Cluster.connect settings.host settings.port = .ok ()) : LosesData settings := by
  intro timer calls
  obtain ⟨after, keyspace, opened, shaped⟩ := Replicated.shaped_of_reached
    (Cluster.described_empty.afterCalls calls) reached
  rw [opened]
  exact shaped.contents_of_recreated recreate

theorem keepsData_of_not_recreateSchema (keep : settings.recreateSchema = false)
    (reached : Cluster.connect settings.host settings.port = .ok ()) : KeepsData settings := by
  intro timer calls
  obtain ⟨after, keyspace, opened, shaped⟩ := Replicated.shaped_of_reached
    (Cluster.described_empty.afterCalls calls) reached
  rw [opened]
  exact shaped.contents_of_kept keep

end Data

/-- Without the blanks around their texts the settings are the same exactly when no switch is
misread; all but the switches are the same in any case. The schema is recreated against its switch
exactly when that is misread, and what a cluster in reach holds is lost then, which would be kept
without the blanks. -/
theorem settings_ignore_blanks_iff (lookup : Lookup) :
    let config := ofLookup lookup
    let plain := ofLookup lookup.trimmed
    (plain = config ↔ ∀ key ∈ switchKeys, ¬ Misread lookup key) ∧
      plain = { config with store := { config.store with
        recreateSchema := plain.store.recreateSchema, waitForSync := plain.store.waitForSync } } ∧
      (Misread lookup "STORE_RECREATE_SCHEMA" ↔
        config.store.recreateSchema = true ∧ plain.store.recreateSchema = false) ∧
      (Misread lookup "STORE_RECREATE_SCHEMA" →
        Cluster.connect config.store.host config.store.port = .ok () →
          LosesData config.store ∧ KeepsData plain.store) := by
  intro config plain
  have others : plain = { config with store := { config.store with
      recreateSchema := plain.store.recreateSchema, waitForSync := plain.store.waitForSync } } := by
    change ofLookup lookup.trimmed = _
    rw [ofLookup_trimmed, storeSettings_trimmed]
    rfl
  have recreate := switch_trimmed_eq_iff (by decide : "STORE_RECREATE_SCHEMA" ∈ switchKeys)
    lookup true
  have wait := switch_trimmed_eq_iff (by decide : "STORE_WAIT_FOR_SYNC" ∈ switchKeys) lookup true
  have misread : Misread lookup "STORE_RECREATE_SCHEMA" ↔
      config.store.recreateSchema = true ∧ plain.store.recreateSchema = false :=
    misread_iff (by decide) lookup true
  refine ⟨?_, others, misread, fun blank reached => ?_⟩
  · rw [switchKeys, List.forall_mem_cons, List.forall_mem_singleton, ← recreate, ← wait]
    constructor
    · intro same
      exact ⟨congrArg (·.store.recreateSchema) same, congrArg (·.store.waitForSync) same⟩
    · rintro ⟨sameRecreate, sameWait⟩
      have recreated : plain.store.recreateSchema = config.store.recreateSchema := sameRecreate
      have waits : plain.store.waitForSync = config.store.waitForSync := sameWait
      rw [others, recreated, waits]
  · obtain ⟨on, off⟩ := misread.1 blank
    have host : plain.store.host = config.store.host := by rw [others]
    have port : plain.store.port = config.store.port := by rw [others]
    refine ⟨losesData_of_recreateSchema on reached, keepsData_of_not_recreateSchema off ?_⟩
    rw [host, port]
    exact reached

/-- Behind the word there is a newline, and the schema is recreated. -/
theorem schema_recreated_despite_false_with_newline :
    let lookup : Lookup := fun key => if key = "STORE_RECREATE_SCHEMA" then some "false\n" else none
    Misread lookup "STORE_RECREATE_SCHEMA" ∧ ofLookup lookup.trimmed ≠ ofLookup lookup ∧
      (ofLookup lookup).store.recreateSchema = true ∧
      (ofLookup lookup.trimmed).store.recreateSchema = false ∧
      LosesData (ofLookup lookup).store ∧ KeepsData (ofLookup lookup.trimmed).store := by
  intro lookup
  have misread : Misread lookup "STORE_RECREATE_SCHEMA" :=
    ⟨"false\n", rfl, .inl (by decide +kernel), by decide +kernel⟩
  obtain ⟨same, -, recreated, data⟩ := settings_ignore_blanks_iff lookup
  obtain ⟨on, off⟩ := recreated.1 misread
  obtain ⟨lost, kept⟩ := data misread rfl
  exact ⟨misread, fun plain => same.1 plain _ List.mem_cons_self misread, on, off, lost, kept⟩

end Config

end Switchboard
