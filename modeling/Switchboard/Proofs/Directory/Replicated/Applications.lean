import Switchboard.Proofs.Directory.Records
import Switchboard.Proofs.Directory.Replicated.Codec

/-! # Applications and addresses in the tables

The application table holds the rows of application records, and the row of an address
names the one application that it is bound to, which is present. Binding several
addresses clears the row of each before its application is written to it.
-/

namespace Switchboard.Replicated

open Switchboard.Columns Switchboard.Maps Switchboard.Records
open Layout (applicationCells)

def applicationTables : List String := [Layout.applications, Layout.addresses]

theorem applicationTables_subset : applicationTables ⊆ tableNames := by decide

/-- The rows of applications and of addresses are those of the records, and no address is bound to
an application that is not there. -/
structure ApplicationsStored (applications : ApplicationMap) (owners : OwnerMap)
    (contents : Contents) : Prop where
  keyed : Keyed Application.bareJid applications
  rows : ∀ jid, contents Layout.applications jid = (applications[jid]?).elim ∅ applicationCells
  bound : contents.Lists Layout.addresses fun address jid => BoundTo owners jid address
  present : ∀ address jid, BoundTo owners jid address → (applications[jid]?).isSome

variable {applications : ApplicationMap} {owners owners' : OwnerMap}
  {contents contents' : Contents}

theorem ApplicationsStored.of_contents_eq (stored : ApplicationsStored applications owners contents)
    (same : ∀ table ∈ applicationTables, contents' table = contents table) :
    ApplicationsStored applications owners contents' where
  keyed := stored.keyed
  rows := by
    intro jid
    rw [same Layout.applications (by decide)]
    exact stored.rows jid
  bound := stored.bound.of_contents_eq (same Layout.addresses (by decide))
  present := stored.present

theorem applicationsStored_empty
    (empty : ∀ table ∈ applicationTables, ∀ key, contents table key = ∅) :
    ApplicationsStored ∅ ∅ contents where
  keyed := Keyed.empty
  rows := by
    intro jid
    rw [empty Layout.applications (by decide)]
    simp
  bound := by
    intro key name value
    rw [empty Layout.addresses (by decide)]
    simp [BoundTo]
  present := by
    intro address jid hbound
    simp [BoundTo] at hbound

/-- The cells of the row of a bound address. -/
theorem ApplicationsStored.addressCells_eq
    (stored : ApplicationsStored applications owners contents) {address jid : String}
    (bound : BoundTo owners jid address) :
    contents Layout.addresses address = (∅ : Cells).insert jid jid := by
  apply Std.ExtTreeMap.ext_getElem?
  intro name
  apply Option.ext
  intro value
  rw [BoundTo] at bound
  rw [stored.bound, Maps.getElem?_insert]
  by_cases hn : jid = name
  · subst hn
    simp [BoundTo, bound, eq_comm]
  · simp [BoundTo, bound, hn]

/-! ## Batches -/

def dropApplication (jid : String) (addresses : List String) : Batch :=
  .deleteRow Layout.applications jid :: addresses.map (.deleteRow Layout.addresses)

def rebind (contents : Contents) (jid address : String) : Batch :=
  (((contents Layout.addresses address).columns.filter (·.name ≠ jid)).map fun column =>
    .deleteColumn Layout.addresses address column.name) ++
    [.insert Layout.addresses address jid jid]

theorem within_insertApplication (app : Application) :
    Contents.Within [Layout.applications] (Layout.insertApplication app) :=
  Contents.within_of_subset
    (show List.replicate 5 Layout.applications ⊆ [Layout.applications] by decide)

theorem within_deleteAddresses (addresses : List String) :
    Contents.Within [Layout.addresses] (addresses.map (Mutation.deleteRow Layout.addresses)) :=
  Contents.within_map (fun _ => List.mem_singleton_self Layout.addresses) addresses

theorem within_dropApplication (jid : String) (addresses : List String) :
    Contents.Within applicationTables (dropApplication jid addresses) := by
  have row : Contents.Within applicationTables [.deleteRow Layout.applications jid] :=
    Contents.within_of_subset (show [Layout.applications] ⊆ applicationTables by decide)
  exact row.append ((within_deleteAddresses addresses).mono (by decide))

theorem within_rebind (contents : Contents) (jid address : String) :
    Contents.Within [Layout.addresses] (rebind contents jid address) := by
  have own : [Layout.addresses] ⊆ [Layout.addresses] := List.Subset.refl _
  apply Contents.Within.append
  · exact Contents.within_map (fun _ => List.mem_singleton_self Layout.addresses) _
  · exact Contents.within_of_subset own

theorem within_rebindAll (contents : Contents) (jid : String) (addresses : List String) :
    Contents.Within [Layout.addresses] (addresses.map (rebind contents jid)).flatten := by
  intro mutation hm
  rw [List.mem_flatten] at hm
  obtain ⟨batch, hbatch, hin⟩ := hm
  rw [List.mem_map] at hbatch
  obtain ⟨address, -, rfl⟩ := hbatch
  exact within_rebind contents jid address mutation hin

theorem within_unbindAddress (address : String) :
    Contents.Within applicationTables [.deleteRow Layout.addresses address] :=
  Contents.within_of_subset (show [Layout.addresses] ⊆ applicationTables by decide)

theorem insertApplication_applications (contents : Contents) (app : Application) (jid : String)
    (free : contents Layout.applications app.bareJid = ∅) :
    contents.applyAll (Layout.insertApplication app) Layout.applications jid =
      if app.bareJid = jid then applicationCells app
      else contents Layout.applications jid := by
  by_cases hjid : app.bareJid = jid
  · subst hjid
    simp [Layout.insertApplication, Contents.apply, Contents.set, free, applicationCells]
  · simp [Layout.insertApplication, Contents.apply, Contents.set, hjid]

theorem ApplicationsStored.create (stored : ApplicationsStored applications owners contents)
    {app : Application} (fresh : applications[app.bareJid]? = none) :
    ApplicationsStored (applications.insert app.bareJid app) owners
      (contents.applyAll (Layout.insertApplication app)) where
  keyed := stored.keyed.insert app
  rows := by
    intro jid
    have free : contents Layout.applications app.bareJid = ∅ := by
      rw [stored.rows, fresh]
      rfl
    rw [insertApplication_applications contents app jid free, Maps.getElem?_insert]
    by_cases hjid : app.bareJid = jid
    · rw [if_pos hjid, if_pos hjid]
      rfl
    · rw [if_neg hjid, if_neg hjid]
      exact stored.rows jid
  bound := stored.bound.of_contents_eq
    ((within_insertApplication app).applyAll_eq contents (by decide))
  present := by
    intro address jid hbound
    have known := stored.present address jid hbound
    rw [Maps.getElem?_insert]
    split
    · rfl
    · exact known

/-- An application goes with the rows of all addresses that are bound to it. -/
theorem ApplicationsStored.remove (stored : ApplicationsStored applications owners contents)
    {jid : String} {addresses : List String}
    (listed : ∀ address, address ∈ addresses ↔ BoundTo owners jid address)
    (unbound : ∀ app address, BoundTo owners' app address ↔
      app ≠ jid ∧ BoundTo owners app address) :
    ApplicationsStored (applications.erase jid) owners'
      (contents.applyAll (dropApplication jid addresses)) where
  keyed := stored.keyed.erase jid
  rows := by
    intro app
    have rest := within_deleteAddresses addresses
    rw [dropApplication, Contents.applyAll_cons, rest.applyAll_eq _ (by decide),
      Contents.apply, Contents.set, Maps.getElem?_erase]
    by_cases happ : jid = app
    · simp [happ]
    · rw [if_neg (fun h => happ h.2), if_neg happ]
      exact stored.rows app
  bound := by
    have kept : contents.apply (.deleteRow Layout.applications jid) Layout.addresses =
        contents Layout.addresses := by
      refine Contents.apply_of_table_ne contents ?_
      simp [Mutation.table, Layout.applications, Layout.addresses]
    have gone := (stored.bound.of_contents_eq kept).deleteRows addresses
    refine gone.congr fun address app => ?_
    rw [listed, unbound]
    constructor
    · rintro ⟨hother, hbound⟩
      refine ⟨fun he => hother ?_, hbound⟩
      rw [← he]
      exact hbound
    · rintro ⟨hne, hbound⟩
      refine ⟨fun hown => hne ?_, hbound⟩
      rw [BoundTo] at hbound hown
      rw [hbound] at hown
      exact Option.some.inj hown
  present := by
    intro address app hbound
    obtain ⟨hne, hbound⟩ := (unbound app address).1 hbound
    rw [Maps.getElem?_erase, if_neg (Ne.symm hne)]
    exact stored.present address app hbound

theorem ApplicationsStored.unbind (stored : ApplicationsStored applications owners contents)
    (address : String) :
    ApplicationsStored applications (owners.erase address)
      (contents.applyAll [.deleteRow Layout.addresses address]) where
  keyed := stored.keyed
  rows := by
    intro jid
    have kept : contents.applyAll [.deleteRow Layout.addresses address] Layout.applications =
        contents Layout.applications := Contents.applyAll_of_filter contents rfl
    rw [kept]
    exact stored.rows jid
  bound := by
    refine (stored.bound.deleteRow address).congr fun other jid => ?_
    rw [BoundTo, BoundTo, Maps.getElem?_erase]
    by_cases h : address = other
    · simp [h]
    · simp [h]
  present := by
    intro other jid hbound
    rw [BoundTo, Maps.getElem?_erase] at hbound
    split at hbound
    · cases hbound
    · exact stored.present other jid hbound

/-! ## Binding addresses -/

/-- After the changes that were planned for an address, its row names the application alone. -/
theorem lists_rebind {listed : String → String → Prop}
    (h : contents.Lists Layout.addresses listed) {planned : Contents} {address : String}
    (same : ∀ jid, (∃ value, (planned Layout.addresses address)[jid]? = some value) ↔
      listed address jid) (jid : String) :
    (contents.applyAll (rebind planned jid address)).Lists Layout.addresses fun a app =>
      if a = address then app = jid else listed a app := by
  let others := ((planned Layout.addresses address).columns.filter (·.name ≠ jid)).map (·.name)
  have hothers (app : String) : app ∈ others ↔ listed address app ∧ app ≠ jid := by
    rw [← same]
    simp only [others, List.mem_map, List.mem_filter, Cells.mem_columns, decide_eq_true_eq]
    constructor
    · rintro ⟨column, ⟨hcell, hne⟩, rfl⟩
      exact ⟨⟨_, hcell⟩, hne⟩
    · rintro ⟨⟨value, hcell⟩, hne⟩
      exact ⟨⟨app, value⟩, ⟨hcell, hne⟩, rfl⟩
  have cleared := h.deleteNames address others
  have hbatch : rebind planned jid address =
      (others.map fun name => .deleteColumn Layout.addresses address name) ++
        [.insert Layout.addresses address jid jid] := by
    rw [rebind, List.map_map]
    rfl
  rw [hbatch, Contents.applyAll_append]
  refine (cleared.insert address jid).congr fun a app => ?_
  rw [hothers]
  by_cases ha : a = address
  · subst ha
    simp only [true_and, if_true]
    grind
  · simp [ha, Ne.symm ha]

/-- Every address of a list is bound to the application, and the other addresses stay as they are.
Each batch was planned in the contents before the first. -/
theorem lists_rebindAll {listed : String → String → Prop}
    (h : contents.Lists Layout.addresses listed) {planned : Contents} {addresses : List String}
    (distinct : addresses.Nodup)
    (same : ∀ address ∈ addresses, ∀ jid,
      (∃ value, (planned Layout.addresses address)[jid]? = some value) ↔ listed address jid)
    (jid : String) :
    (contents.applyAll (addresses.map (rebind planned jid)).flatten).Lists Layout.addresses
      fun a app => if a ∈ addresses then app = jid else listed a app := by
  induction addresses generalizing contents listed with
  | nil => exact h.congr fun a app => by simp
  | cons address rest ih =>
      obtain ⟨hnew, hrest⟩ := List.nodup_cons.1 distinct
      have first := lists_rebind h (same address List.mem_cons_self) jid
      rw [List.map_cons, List.flatten_cons, Contents.applyAll_append]
      refine (ih first hrest ?_).congr fun a app => ?_
      · intro other hother app
        have hne : other ≠ address := fun he => hnew (he ▸ hother)
        rw [if_neg hne]
        exact same other (List.mem_cons_of_mem address hother) app
      · by_cases ha : a ∈ rest
        · simp [ha]
        · simp [ha]

theorem ApplicationsStored.bind (stored : ApplicationsStored applications owners contents)
    {jid : String} (known : (applications[jid]?).isSome) {addresses : List String}
    (distinct : addresses.Nodup)
    (rebound : ∀ app address, BoundTo owners' app address ↔
      if address ∈ addresses then app = jid else BoundTo owners app address) :
    ApplicationsStored applications owners'
      (contents.applyAll (addresses.map (rebind contents jid)).flatten) where
  keyed := stored.keyed
  rows := by
    intro app
    rw [(within_rebindAll contents jid addresses).applyAll_eq contents (by decide)]
    exact stored.rows app
  bound := by
    have same (address app : String) :
        (∃ value, (contents Layout.addresses address)[app]? = some value) ↔
          BoundTo owners app address := by
      constructor
      · rintro ⟨value, hcell⟩
        exact ((stored.bound address app value).1 hcell).2
      · intro hbound
        exact ⟨app, (stored.bound address app app).2 ⟨rfl, hbound⟩⟩
    have written := lists_rebindAll stored.bound distinct (fun address _ => same address) jid
    exact written.congr fun address app => (rebound app address).symm
  present := by
    intro address app hbound
    rw [rebound] at hbound
    split at hbound
    · rw [hbound]
      exact known
    · exact stored.present address app hbound

theorem nodup_distinct (addresses : List String) :
    (Std.ExtTreeSet.ofList addresses).toList.Nodup := by
  have ordered := Std.ExtTreeSet.ordered_toList (t := Std.ExtTreeSet.ofList addresses)
  exact ordered.imp fun h => (compare_lt_iff_lt.1 h).ne

theorem mem_distinct (addresses : List String) (address : String) :
    address ∈ (Std.ExtTreeSet.ofList addresses).toList ↔ address ∈ addresses := by
  rw [Std.ExtTreeSet.mem_toList, Std.ExtTreeSet.mem_ofList]
  simp

/-- Every address of a list is bound, however often it is listed. -/
theorem ApplicationsStored.bindAll (stored : ApplicationsStored applications owners contents)
    {jid : String} (known : (applications[jid]?).isSome) (addresses : List String) :
    ApplicationsStored applications (boundAll owners addresses jid)
      (contents.applyAll
        ((Std.ExtTreeSet.ofList addresses).toList.map (rebind contents jid)).flatten) := by
  refine stored.bind known (nodup_distinct addresses) fun app address => ?_
  rw [boundTo_boundAll]
  simp only [mem_distinct]

/-! ## Reads and plans -/

section Reading

variable {r : Replicated} {keyspace : Keyspace}

theorem fetchApplication_eq (ready : r.Ready keyspace) (reads : r.cluster.failReads = false)
    (stored : ApplicationsStored applications owners r.contents) (jid : String) :
    r.fetchApplication jid = .ok applications[jid]? := by
  rw [fetchApplication, ready.fetch_of_reads (by decide) reads, stored.rows]
  cases known : applications[jid]? with
  | none => simp [Except.map, Layout.application?_empty]
  | some app =>
      have hkey := stored.keyed jid app known
      subst hkey
      simp [Except.map, Layout.application?_applicationCells]

theorem application?_eq (ready : r.Ready keyspace) (reads : r.cluster.failReads = false)
    (stored : ApplicationsStored applications owners r.contents) (jid : String) :
    r.application? jid = applications[jid]? := by
  have fetched := fetchApplication_eq ready reads stored jid
  rw [fetchApplication, ready.fetch_of_reads (by decide) reads] at fetched
  rw [application?, ready.columns_eq (by decide) reads]
  simpa [Except.map] using fetched

theorem mem_addressesOf (ready : r.Ready keyspace) (reads : r.cluster.failReads = false)
    (stored : ApplicationsStored applications owners r.contents) (jid address : String) :
    address ∈ r.addressesOf jid ↔ BoundTo owners jid address := by
  rw [addressesOf, ready.mem_rowKeys (by decide) reads, Cells.selected_name_ne_nil]
  constructor
  · rintro ⟨value, hcell⟩
    exact ((stored.bound address jid value).1 hcell).2
  · intro hbound
    exact ⟨jid, (stored.bound address jid jid).2 ⟨rfl, hbound⟩⟩

/-- The row of an address names the application that it is bound to. -/
theorem addressOwner_eq (ready : r.Ready keyspace) (reads : r.cluster.failReads = false)
    (stored : ApplicationsStored applications owners r.contents) (address : String) :
    (r.columns Layout.addresses address).head?.map Column.value = owners[address]? := by
  rw [ready.columns_eq (by decide) reads]
  cases known : owners[address]? with
  | none =>
      have blank : r.contents Layout.addresses address = ∅ := by
        apply Classical.byContradiction
        intro hne
        obtain ⟨jid, hbound⟩ := (stored.bound.ne_empty_iff address).1 hne
        rw [BoundTo, known] at hbound
        cases hbound
      rw [blank]
      rfl
  | some jid =>
      rw [stored.addressCells_eq known]
      rfl

theorem applicationForAddress?_eq (ready : r.Ready keyspace) (reads : r.cluster.failReads = false)
    (stored : ApplicationsStored applications owners r.contents) (address : String) :
    Directory.applicationForAddress? address r = owners[address]?.bind (applications[·]?) := by
  have hrun : Directory.applicationForAddress? address r =
      ((r.columns Layout.addresses address).head?.map Column.value).bind r.application? := by
    rw [Option.bind_map]
    rfl
  rw [hrun, addressOwner_eq ready reads stored]
  congr 1
  funext jid
  exact application?_eq ready reads stored jid

theorem planStoreApplication_eq (ready : r.Ready keyspace) (reads : r.cluster.failReads = false)
    (stored : ApplicationsStored applications owners r.contents) (app : Application) :
    planStoreApplication app r =
      match applications[app.bareJid]? with
      | some _ => .error (.alreadyExists .application app.bareJid)
      | none => .ok (.write (Layout.insertApplication app)
          s!"Could not create application [{app.bareJid}]" app) := by
  rw [planStoreApplication, fetchApplication_eq ready reads stored]
  cases applications[app.bareJid]? <;> rfl

theorem planRemoveApplication_eq (ready : r.Ready keyspace) (reads : r.cluster.failReads = false)
    (stored : ApplicationsStored applications owners r.contents) (jid : String) :
    planRemoveApplication jid r =
      match applications[jid]? with
      | none => .error (.notFound .application jid)
      | some app => .ok (.write (dropApplication jid (r.addressesOf jid))
          s!"Could not remove application [{jid}]" app) := by
  rw [planRemoveApplication, fetchApplication_eq ready reads stored]
  cases applications[jid]? <;> rfl

theorem bindAddress_eq (ready : r.Ready keyspace) (reads : r.cluster.failReads = false)
    (jid address : String) :
    bindAddress jid r address = .ok (rebind r.contents jid address) := by
  rw [bindAddress, ready.fetch_of_reads (by decide) reads]
  rfl

theorem planStoreAddresses_eq (ready : r.Ready keyspace) (reads : r.cluster.failReads = false)
    (stored : ApplicationsStored applications owners r.contents) (addresses : List String)
    (jid : String) :
    planStoreAddresses addresses jid r =
      match applications[jid]? with
      | none => .error (.notFound .application jid)
      | some _ => .ok (.write
          ((Std.ExtTreeSet.ofList addresses).toList.map (rebind r.contents jid)).flatten
          s!"Could not add addresses {Text.Quoted.list addresses} to application [{jid}]" ()) := by
  rw [planStoreAddresses, fetchApplication_eq ready reads stored]
  have hbind : bindAddress jid r = fun address => pure (rebind r.contents jid address) := by
    funext address
    exact bindAddress_eq ready reads jid address
  cases applications[jid]? with
  | none => rfl
  | some app =>
      simp only [Option.isNone_some, Bool.false_eq_true, if_false, ok_bind, hbind, List.mapM_pure]
      rfl

theorem planRemoveAddress_eq (ready : r.Ready keyspace) (reads : r.cluster.failReads = false)
    (stored : ApplicationsStored applications owners r.contents) (address : String) :
    planRemoveAddress address r =
      match owners[address]? with
      | none => .ok (.keep ())
      | some _ => .ok (.write [.deleteRow Layout.addresses address]
          s!"Could not remove address [{address}]" ()) := by
  rw [planRemoveAddress, ready.fetch_of_reads (by decide) reads, ok_bind, Cells.isEmpty_columns]
  have hempty := stored.bound.ne_empty_iff address
  cases hown : owners[address]? with
  | none =>
      have he : r.contents Layout.addresses address = ∅ := by
        apply Classical.byContradiction
        intro hne
        obtain ⟨jid, hbound⟩ := hempty.1 hne
        rw [BoundTo, hown] at hbound
        cases hbound
      rw [he]
      rfl
  | some jid =>
      have hne := hempty.2 ⟨jid, hown⟩
      rw [if_neg (by simpa [Std.ExtTreeMap.isEmpty_iff] using hne)]
      rfl

theorem plans_storeApplication (ready : r.Ready keyspace)
    (stored : ApplicationsStored applications owners r.contents) {app : Application}
    {batch : Batch} (h : Plans (planStoreApplication app) r batch) :
    applications[app.bareJid]? = none ∧ batch = Layout.insertApplication app := by
  have first (e : DirectoryError) (he : r.fetch Layout.applications app.bareJid = .error e) :
      planStoreApplication app r = .error e := by
    rw [planStoreApplication, fetchApplication, he]
    rfl
  have reads := ready.reads_of_plans (by decide) first h
  obtain ⟨context, answer, hp⟩ := h
  rw [planStoreApplication_eq ready reads stored] at hp
  cases known : applications[app.bareJid]? with
  | some previous =>
      rw [known] at hp
      cases hp
  | none =>
      rw [known] at hp
      cases hp
      exact ⟨rfl, rfl⟩

/-- The batch names exactly the addresses that are bound to the application. -/
theorem plans_removeApplication (ready : r.Ready keyspace)
    (stored : ApplicationsStored applications owners r.contents) {jid : String}
    {batch : Batch} (h : Plans (planRemoveApplication jid) r batch) :
    ∃ addresses, (∀ address, address ∈ addresses ↔ BoundTo owners jid address) ∧
      batch = dropApplication jid addresses := by
  have first (e : DirectoryError) (he : r.fetch Layout.applications jid = .error e) :
      planRemoveApplication jid r = .error e := by
    rw [planRemoveApplication, fetchApplication, he]
    rfl
  have reads := ready.reads_of_plans (by decide) first h
  obtain ⟨context, answer, hp⟩ := h
  rw [planRemoveApplication_eq ready reads stored] at hp
  cases known : applications[jid]? with
  | none =>
      rw [known] at hp
      cases hp
  | some app =>
      rw [known] at hp
      cases hp
      exact ⟨r.addressesOf jid, mem_addressesOf ready reads stored jid, rfl⟩

theorem plans_storeAddresses (ready : r.Ready keyspace)
    (stored : ApplicationsStored applications owners r.contents) {addresses : List String}
    {jid : String} {batch : Batch} (h : Plans (planStoreAddresses addresses jid) r batch) :
    (applications[jid]?).isSome ∧
      batch = ((Std.ExtTreeSet.ofList addresses).toList.map (rebind r.contents jid)).flatten := by
  have first (e : DirectoryError) (he : r.fetch Layout.applications jid = .error e) :
      planStoreAddresses addresses jid r = .error e := by
    rw [planStoreAddresses, fetchApplication, he]
    rfl
  have reads := ready.reads_of_plans (by decide) first h
  obtain ⟨context, answer, hp⟩ := h
  rw [planStoreAddresses_eq ready reads stored] at hp
  cases known : applications[jid]? with
  | none =>
      rw [known] at hp
      cases hp
  | some app =>
      rw [known] at hp
      cases hp
      exact ⟨rfl, rfl⟩

/-- What the batch that binds addresses comes to. -/
theorem ApplicationsStored.rebound (stored : ApplicationsStored applications owners r.contents)
    (ready : r.Ready keyspace) {addresses : List String} {jid : String} {batch : Batch}
    (h : Plans (planStoreAddresses addresses jid) r batch) :
    Contents.Within applicationTables batch ∧
      ApplicationsStored applications (boundAll owners addresses jid)
        (r.contents.applyAll batch) := by
  obtain ⟨known, rfl⟩ := plans_storeAddresses ready stored h
  exact ⟨(within_rebindAll r.contents jid _).mono (by decide), stored.bindAll known addresses⟩

theorem plans_removeAddress (ready : r.Ready keyspace)
    (stored : ApplicationsStored applications owners r.contents) {address : String}
    {batch : Batch} (h : Plans (planRemoveAddress address) r batch) :
    batch = [.deleteRow Layout.addresses address] := by
  have first (e : DirectoryError) (he : r.fetch Layout.addresses address = .error e) :
      planRemoveAddress address r = .error e := by
    rw [planRemoveAddress, he]
    rfl
  have reads := ready.reads_of_plans (by decide) first h
  obtain ⟨context, answer, hp⟩ := h
  rw [planRemoveAddress_eq ready reads stored] at hp
  cases known : owners[address]? with
  | none =>
      rw [known] at hp
      cases hp
  | some jid =>
      rw [known] at hp
      cases hp
      rfl

end Reading

end Switchboard.Replicated
