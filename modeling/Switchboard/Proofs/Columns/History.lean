import Switchboard.Proofs.Columns.Described

/-! # What has happened to a keyspace

A call does one of five things to the keyspace of a name: nothing, or it makes the keyspace,
drops it, adds a table or carries out a batch. The past of a keyspace is what the batches
since its creation have done to it, in order and with their times. Whatever a new keyspace
has and a new table and a batch keep holds of every keyspace after every history of calls.
-/

namespace Switchboard.Columns

/-! ## Moments -/

inductive Moment where
  /-- A batch arrives, and the tombstones that are out of date go. -/
  | batch (time : Nat)
  /-- A change of a batch is made. -/
  | change (time : Nat) (mutation : Mutation)

namespace Moment

def time : Moment → Nat
  | batch time => time
  | change time _ => time

def mutation? : Moment → Option Mutation
  | batch _ => none
  | change _ mutation => some mutation

end Moment

def Batch.moments (batch : Batch) (time : Nat) : List Moment :=
  .batch time :: batch.map (.change time)

theorem Batch.time_of_mem_moments {batch : Batch} {now : Nat} {moment : Moment}
    (h : moment ∈ batch.moments now) : moment.time = now := by
  rw [moments, List.mem_cons, List.mem_map] at h
  obtain rfl | ⟨mutation, -, rfl⟩ := h <;> rfl

namespace Keyspace

def pass (keyspace : Keyspace) : Moment → Keyspace
  | .batch time => keyspace.purge time
  | .change time mutation => keyspace.apply time mutation

theorem write_eq_foldl_pass (keyspace : Keyspace) (now : Nat) (batch : Batch) :
    keyspace.write now batch = (batch.moments now).foldl pass keyspace := by
  rw [write, Batch.moments, List.foldl_cons, List.foldl_map]
  rfl

theorem contains_pass (keyspace : Keyspace) (moment : Moment) (name : String) :
    (keyspace.pass moment).tables.contains name = keyspace.tables.contains name := by
  cases moment with
  | batch time => exact contains_purge keyspace time name
  | change time mutation => exact contains_apply keyspace time mutation name

end Keyspace

namespace Cluster

/-! ## The past of a keyspace -/

def pastAfterCall (name : String) (cluster : Cluster) (past : List Moment) : Call → List Moment
  | .dropKeyspace dropped => if dropped = name then [] else past
  | .execute target batch level =>
    if target = name ∧ (execute target batch level cluster).1 = .ok () then
      past ++ batch.moments cluster.clock
    else past
  | _ => past

def pastAfterCalls (name : String) (cluster : Cluster) (past : List Moment) :
    List Call → List Moment
  | [] => past
  | call :: rest =>
    pastAfterCalls name (cluster.afterCall call) (cluster.pastAfterCall name past call) rest

/-- The past of the keyspace of a name after calls to a new cluster. -/
def past (name : String) (calls : List Call) : List Moment :=
  pastAfterCalls name {} [] calls

/-! ## Calls -/

theorem execute_eq_ok_iff {cluster : Cluster} {name : String} {batch : Batch}
    {level : Consistency} :
    (execute name batch level cluster).1 = .ok () ↔
      cluster.failWrites = false ∧ ∃ keyspace, cluster.keyspaces[name]? = some keyspace ∧
        ∀ mutation ∈ batch, keyspace.tables.contains mutation.table := by
  cases hwrites : cluster.failWrites with
  | true => simp [execute, written, hwrites]
  | false =>
      cases hstored : cluster.keyspaces[name]? with
      | none => simp [execute, written, hwrites, Cluster.keyspace, hstored]
      | some keyspace =>
          have hmissing : keyspace.missingTable? batch = none ↔ _ :=
            Keyspace.missingTable?_eq_none_iff
          cases hfound : keyspace.missingTable? batch with
          | none =>
              have hpresent := hmissing.1 hfound
              simpa [execute, written, hwrites, Cluster.keyspace, hstored, hfound] using hpresent
          | some table =>
              have habsent : ¬ ∀ mutation ∈ batch, keyspace.tables.contains mutation.table :=
                fun present => by simp [hmissing.2 present] at hfound
              simpa [execute, written, hwrites, Cluster.keyspace, hstored, hfound] using habsent

/-- What a call can do to the keyspace of a name and to its past. -/
inductive Changed (now : Nat) :
    Option Keyspace → List Moment → Option Keyspace → List Moment → Prop
  | kept (keyspace? : Option Keyspace) (past : List Moment) :
    Changed now keyspace? past keyspace? past
  | created (definition : KeyspaceDef) (past : List Moment) :
    Changed now none past (some (Keyspace.ofDef definition)) past
  | dropped (keyspace? : Option Keyspace) (past : List Moment) :
    Changed now keyspace? past none []
  | added (keyspace : Keyspace) (table : TableDef) (past : List Moment)
      (absent : keyspace.tables.contains table.name = false) :
    Changed now (some keyspace) past (some (keyspace.addTable table)) past
  | written (keyspace : Keyspace) (batch : Batch) (past : List Moment)
      (present : ∀ mutation ∈ batch, keyspace.tables.contains mutation.table) :
    Changed now (some keyspace) past (some (keyspace.write now batch)) (past ++ batch.moments now)

section Calls

variable (name : String) (cluster : Cluster) (past : List Moment)

theorem changed_createKeyspace (definition : KeyspaceDef) :
    Changed cluster.clock cluster.keyspaces[name]? past
      (createKeyspace definition cluster).2.keyspaces[name]? past := by
  unfold Cluster.createKeyspace
  split
  · exact .kept _ past
  · next absent =>
      dsimp only
      rw [Maps.getElem?_insert]
      split
      · next hname =>
          rw [← hname, Std.ExtTreeMap.getElem?_eq_none (by simpa using absent)]
          exact .created definition past
      · exact .kept _ past

theorem changed_dropKeyspace (dropped : String) :
    Changed cluster.clock cluster.keyspaces[name]? past
      (dropKeyspace dropped cluster).2.keyspaces[name]? (if dropped = name then [] else past) := by
  unfold Cluster.dropKeyspace
  by_cases hname : dropped = name
  · subst hname
    rw [if_pos rfl]
    split
    · dsimp only
      rw [Maps.getElem?_erase, if_pos rfl]
      exact .dropped _ past
    · next absent =>
        rw [Std.ExtTreeMap.getElem?_eq_none (by simpa using absent)]
        exact .dropped none past
  · rw [if_neg hname]
    split
    · dsimp only
      rw [Maps.getElem?_erase, if_neg hname]
      exact .kept _ past
    · exact .kept _ past

theorem changed_createTable (target : String) (table : TableDef) :
    Changed cluster.clock cluster.keyspaces[name]? past
      (createTable target table cluster).2.keyspaces[name]? past := by
  unfold Cluster.createTable
  split
  · exact .kept _ past
  · next keyspace found =>
      split
      · exact .kept _ past
      · next absent =>
          dsimp only
          rw [Maps.getElem?_insert]
          split
          · next hname =>
              rw [← hname, keyspace_eq_ok found]
              exact .added keyspace table past (Bool.eq_false_iff.2 absent)
          · exact .kept _ past

theorem changed_execute (target : String) (batch : Batch) (level : Consistency) :
    Changed cluster.clock cluster.keyspaces[name]? past
      (execute target batch level cluster).2.keyspaces[name]?
      (if target = name ∧ (execute target batch level cluster).1 = .ok () then
        past ++ batch.moments cluster.clock else past) := by
  cases hanswer : (execute target batch level cluster).1 with
  | error e =>
      have hafter : (execute target batch level cluster).2 = cluster.noteLevel level :=
        eq_of_execute_error (Prod.ext hanswer rfl)
      rw [if_neg (by simp), hafter, keyspaces_noteLevel]
      exact .kept _ past
  | ok =>
      obtain ⟨hwrites, keyspace, hstored, hpresent⟩ := execute_eq_ok_iff.1 hanswer
      rw [execute_of_present hstored hpresent, if_neg (by simp [hwrites]), Maps.getElem?_insert]
      by_cases hname : target = name
      · rw [if_pos hname, if_pos ⟨hname, rfl⟩, ← hname, hstored]
        exact .written keyspace batch past hpresent
      · rw [if_neg hname, if_neg (by simp [hname])]
        exact .kept _ past

/-- Every call does one of the five things to the keyspace of a name. -/
theorem changed_afterCall (call : Call) :
    Changed cluster.clock cluster.keyspaces[name]? past (cluster.afterCall call).keyspaces[name]?
      (cluster.pastAfterCall name past call) := by
  cases call with
  | createKeyspace definition => exact changed_createKeyspace name cluster past definition
  | dropKeyspace dropped => exact changed_dropKeyspace name cluster past dropped
  | createTable target table => exact changed_createTable name cluster past target table
  | execute target batch level => exact changed_execute name cluster past target batch level
  | advance | failReads | failWrites => exact .kept _ past

theorem clock_le_afterCall (call : Call) : cluster.clock ≤ (cluster.afterCall call).clock := by
  cases call with
  | createKeyspace definition =>
      simp only [afterCall, Cluster.createKeyspace]
      split <;> exact Nat.le_refl _
  | dropKeyspace dropped =>
      simp only [afterCall, Cluster.dropKeyspace]
      split <;> exact Nat.le_refl _
  | createTable target table =>
      simp only [afterCall, Cluster.createTable]
      split
      · exact Nat.le_refl _
      · split <;> exact Nat.le_refl _
  | execute target batch level =>
      simp only [afterCall, Cluster.execute]
      split <;> simp
  | advance span => exact Nat.le_add_right _ _
  | failReads fail => exact Nat.le_refl _
  | failWrites fail => exact Nat.le_refl _

end Calls

/-! ## Histories -/

/-- What holds of a new keyspace and is kept by a new table and by every moment of a batch, the
moments coming in order of time and the changes being made to tables that are there. -/
structure Lasting (holds : List Moment → Keyspace → Prop) : Prop where
  created : ∀ definition, holds [] (Keyspace.ofDef definition)
  added : ∀ {past : List Moment} {keyspace : Keyspace} {table : TableDef}, holds past keyspace →
    keyspace.tables.contains table.name = false → holds past (keyspace.addTable table)
  passed : ∀ {past : List Moment} {keyspace : Keyspace} {moment : Moment}, holds past keyspace →
    (∀ earlier ∈ past, earlier.time ≤ moment.time) →
    (∀ mutation ∈ moment.mutation?, keyspace.tables.contains mutation.table) →
    holds (past ++ [moment]) (keyspace.pass moment)

section Lasting

variable {holds : List Moment → Keyspace → Prop} {past : List Moment}

theorem Lasting.foldl_pass (lasting : Lasting holds) {keyspace : Keyspace}
    (before : holds past keyspace) {moments : List Moment} {now : Nat}
    (earlier : ∀ moment ∈ past, moment.time ≤ now) (same : ∀ moment ∈ moments, moment.time = now)
    (present : ∀ moment ∈ moments, ∀ mutation ∈ moment.mutation?,
      keyspace.tables.contains mutation.table) :
    holds (past ++ moments) (moments.foldl Keyspace.pass keyspace) := by
  induction moments generalizing past keyspace with
  | nil => simpa using before
  | cons moment rest ih =>
      obtain ⟨htime, hrest⟩ := List.forall_mem_cons.1 same
      obtain ⟨hfirst, hothers⟩ := List.forall_mem_cons.1 present
      have hpassed := lasting.passed before (fun m hm => htime ▸ earlier m hm) hfirst
      have hearlier : ∀ m ∈ past ++ [moment], m.time ≤ now := by
        intro m hm
        rcases List.mem_append.1 hm with hpast | hlast
        · exact earlier m hpast
        · exact Nat.le_of_eq (by rw [List.mem_singleton.1 hlast, htime])
      rw [List.foldl_cons, List.append_cons]
      exact ih hpassed hearlier hrest fun m hm mutation hmutation =>
        (keyspace.contains_pass moment _).trans (hothers m hm mutation hmutation)

theorem Lasting.write (lasting : Lasting holds) {keyspace : Keyspace} (before : holds past keyspace)
    {now : Nat} {batch : Batch} (earlier : ∀ moment ∈ past, moment.time ≤ now)
    (present : ∀ mutation ∈ batch, keyspace.tables.contains mutation.table) :
    holds (past ++ batch.moments now) (keyspace.write now batch) := by
  rw [Keyspace.write_eq_foldl_pass]
  refine lasting.foldl_pass before earlier (fun _ => Batch.time_of_mem_moments) ?_
  intro moment hmoment mutation hmutation
  rw [Batch.moments, List.mem_cons, List.mem_map] at hmoment
  obtain rfl | ⟨change, hin, rfl⟩ := hmoment
  · cases hmutation
  · cases hmutation
    exact present _ hin

/-- The keyspace of a name and its past, of which the property holds. -/
structure Follows (holds : List Moment → Keyspace → Prop) (keyspace? : Option Keyspace)
    (past : List Moment) (now : Nat) : Prop where
  earlier : ∀ moment ∈ past, moment.time ≤ now
  holds_of_some : ∀ {keyspace : Keyspace}, keyspace? = some keyspace → holds past keyspace
  past_of_none : keyspace? = none → past = []

theorem Follows.start {name : String} :
    Follows holds ({} : Cluster).keyspaces[name]? [] ({} : Cluster).clock :=
  ⟨nofun, fun stored => by simp at stored, fun _ => rfl⟩

theorem Follows.changed (lasting : Lasting holds) {before after : Option Keyspace}
    {past' : List Moment} {now : Nat} (follows : Follows holds before past now)
    (change : Changed now before past after past') : Follows holds after past' now := by
  cases change with
  | kept => exact follows
  | created definition =>
      have hpast := follows.past_of_none rfl
      refine ⟨follows.earlier, ?_, nofun⟩
      rintro keyspace ⟨⟩
      rw [hpast]
      exact lasting.created definition
  | dropped => exact ⟨nofun, nofun, fun _ => rfl⟩
  | added keyspace table _ absent =>
      refine ⟨follows.earlier, ?_, nofun⟩
      rintro _ ⟨⟩
      exact lasting.added (follows.holds_of_some rfl) absent
  | written keyspace batch _ present =>
      constructor
      · intro moment hmoment
        rcases List.mem_append.1 hmoment with hpast | hnew
        · exact follows.earlier moment hpast
        · exact Nat.le_of_eq (Batch.time_of_mem_moments hnew)
      · rintro _ ⟨⟩
        exact lasting.write (follows.holds_of_some rfl) follows.earlier present
      · exact nofun

theorem Follows.afterCalls (lasting : Lasting holds) (name : String) (calls : List Call)
    {cluster : Cluster} (follows : Follows holds cluster.keyspaces[name]? past cluster.clock) :
    Follows holds (cluster.afterCalls calls).keyspaces[name]?
      (pastAfterCalls name cluster past calls) (cluster.afterCalls calls).clock := by
  induction calls generalizing cluster past with
  | nil => exact follows
  | cons call rest ih =>
      have hchanged := follows.changed lasting (changed_afterCall name cluster past call)
      exact ih ⟨fun moment hmoment =>
        Nat.le_trans (hchanged.earlier moment hmoment) (clock_le_afterCall cluster call),
        hchanged.holds_of_some, hchanged.past_of_none⟩

/-- What lasts holds of every keyspace after every history of calls. -/
theorem Lasting.afterCalls (lasting : Lasting holds) (name : String) (calls : List Call)
    {keyspace : Keyspace}
    (stored : (({} : Cluster).afterCalls calls).keyspaces[name]? = some keyspace) :
    holds (Cluster.past name calls) keyspace :=
  (Follows.start.afterCalls lasting name calls).holds_of_some stored

end Lasting

end Cluster

end Switchboard.Columns
