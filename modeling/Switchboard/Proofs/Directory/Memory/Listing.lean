import Mathlib.Data.List.Nodup
import Switchboard.Directory.Memory.Listing
import Switchboard.Proofs.Maps

/-! # Listings as relations

A listing files a relation between keys and values when each list holds the values of
its key once, and only keys with a value are kept. Every change of a listing changes the
relation, and the order of the lists plays no part in it.
-/

namespace Switchboard.Listing

/-- The listing holds exactly the related values, each once, and no key without a value. -/
structure Files (listing : Listing) (filed : String → String → Prop) : Prop where
  mem_iff : ∀ key value, value ∈ listing.values key ↔ filed key value
  nodup : ∀ key, (listing.values key).Nodup
  present : ∀ key : String, listing[key]? ≠ some []

variable {listing : Listing} {filed filed' : String → String → Prop}

theorem files_empty : Files ∅ fun _ _ => False := by
  constructor
  · intro key value
    simp [values]
  · intro key
    simp [values]
  · intro key
    simp

theorem Files.congr (h : listing.Files filed)
    (same : ∀ key value, filed key value ↔ filed' key value) : listing.Files filed' where
  mem_iff := by
    intro key value
    rw [h.mem_iff, same]
  nodup := h.nodup
  present := h.present

theorem mem_pushUnique (values : List String) (value v : String) :
    v ∈ pushUnique values value ↔ v ∈ values ∨ v = value := by
  unfold pushUnique
  split
  · next present =>
      constructor
      · exact Or.inl
      · intro h
        rcases h with h | h
        · exact h
        · exact h ▸ present
  · rw [List.mem_append, List.mem_singleton]

theorem nodup_pushUnique {values : List String} (h : values.Nodup) (value : String) :
    (pushUnique values value).Nodup := by
  unfold pushUnique
  split
  · exact h
  · next absent => exact h.append (List.nodup_singleton value) (by simpa using absent)

theorem pushUnique_ne_nil (values : List String) (value : String) :
    pushUnique values value ≠ [] := by
  have hmem := (mem_pushUnique values value value).2 (Or.inr rfl)
  exact List.ne_nil_of_mem hmem

theorem Files.attach (h : listing.Files filed) (key value : String) :
    (listing.attach key value).Files fun k v => (key = k ∧ value = v) ∨ filed k v where
  mem_iff := by
    intro k v
    rw [values_attach]
    by_cases hk : key = k
    · subst hk
      rw [if_pos rfl, mem_pushUnique, h.mem_iff]
      simp only [true_and, eq_comm, or_comm]
    · simp [hk, h.mem_iff]
  nodup := by
    intro k
    rw [values_attach]
    split
    · exact nodup_pushUnique (h.nodup k) value
    · exact h.nodup k
  present := by
    intro k
    rw [Listing.attach, Maps.getElem?_insert]
    split
    · intro he
      exact pushUnique_ne_nil _ _ (Option.some.inj he)
    · exact h.present k

theorem Files.detach (h : listing.Files filed) (key value : String) :
    (listing.detach key value).Files fun k v => ¬ (key = k ∧ value = v) ∧ filed k v where
  mem_iff := by
    intro k v
    rw [values_detach]
    by_cases hk : key = k
    · subst hk
      rw [if_pos rfl, List.mem_filter, h.mem_iff, decide_eq_true_eq]
      simp only [true_and]
      constructor
      · intro ⟨hfiled, hne⟩
        exact ⟨fun he => hne he.symm, hfiled⟩
      · intro ⟨hne, hfiled⟩
        exact ⟨hfiled, fun he => hne he.symm⟩
    · simp [hk, h.mem_iff]
  nodup := by
    intro k
    rw [values_detach]
    split
    · exact (h.nodup k).filter _
    · exact h.nodup k
  present := by
    intro k
    unfold Listing.detach file
    split
    · rw [Maps.getElem?_erase]
      split
      · simp
      · exact h.present k
    · next kept =>
        rw [Maps.getElem?_insert]
        split
        · intro he
          exact kept (Option.some.inj he)
        · exact h.present k

theorem Files.attachAll (h : listing.Files filed) (keys : List String) (value : String) :
    (listing.attachAll keys value).Files fun k v => (k ∈ keys ∧ v = value) ∨ filed k v := by
  unfold Listing.attachAll
  induction keys generalizing listing filed with
  | nil => exact h.congr fun k v => by simp
  | cons key rest ih =>
      refine (ih (h.attach key value)).congr fun k v => ?_
      rw [List.mem_cons]
      grind

theorem Files.detachAll (h : listing.Files filed) (keys : List String) (value : String) :
    (listing.detachAll keys value).Files fun k v => ¬ (k ∈ keys ∧ v = value) ∧ filed k v := by
  unfold Listing.detachAll
  induction keys generalizing listing filed with
  | nil => exact h.congr fun k v => by simp
  | cons key rest ih =>
      refine (ih (h.detach key value)).congr fun k v => ?_
      rw [List.mem_cons]
      grind

theorem Files.erase (h : listing.Files filed) (key : String) :
    Files (Std.ExtTreeMap.erase listing key) fun k v => key ≠ k ∧ filed k v := by
  have hvalues (k : String) : values (Std.ExtTreeMap.erase listing key) k =
      if key = k then [] else listing.values k := by
    rw [values, Maps.getElem?_erase]
    split
    · rfl
    · rfl
  constructor
  · intro k v
    rw [hvalues]
    by_cases hk : key = k
    · simp [hk]
    · simp [hk, h.mem_iff]
  · intro k
    rw [hvalues]
    split
    · exact List.nodup_nil
    · exact h.nodup k
  · intro k
    rw [Maps.getElem?_erase]
    split
    · simp
    · exact h.present k

/-- The keys of a listing are those with a value. -/
theorem Files.mem_keys (h : listing.Files filed) (key : String) :
    key ∈ listing.keys ↔ ∃ value, filed key value := by
  rw [Std.ExtTreeMap.mem_keys, Std.ExtTreeMap.mem_iff_isSome_getElem?]
  have hmem := h.mem_iff key
  cases hlist : listing[key]? with
  | none =>
      have hempty : listing.values key = [] := by simp [values, hlist]
      rw [hempty] at hmem
      simp only [Option.isSome_none, Bool.false_eq_true, false_iff]
      intro hsome
      obtain ⟨value, hfiled⟩ := hsome
      exact List.not_mem_nil ((hmem value).2 hfiled)
  | some list =>
      have hvalues : listing.values key = list := by simp [values, hlist]
      have hne : list ≠ [] := fun he => h.present key (he ▸ hlist)
      obtain ⟨value, hin⟩ := List.exists_mem_of_ne_nil list hne
      rw [hvalues] at hmem
      simp only [Option.isSome_some, true_iff]
      exact ⟨value, (hmem value).1 hin⟩

/-- A listing is what its lists are, since it keeps no key without a value. -/
theorem Files.eq_of_values (h : listing.Files filed) {listing' : Listing}
    (h' : listing'.Files filed') (same : ∀ key, listing.values key = listing'.values key) :
    listing = listing' := by
  apply Std.ExtTreeMap.ext_getElem?
  intro key
  have hkey := same key
  have present := h.present key
  have present' := h'.present key
  unfold values at hkey
  cases hl : listing[key]? with
  | none =>
      cases hl' : listing'[key]? with
      | none => rfl
      | some list =>
          rw [hl, hl'] at hkey
          rw [hl'] at present'
          exact absurd (congrArg some hkey.symm) present'
  | some list =>
      cases hl' : listing'[key]? with
      | none =>
          rw [hl, hl'] at hkey
          rw [hl] at present
          exact absurd (congrArg some hkey) present
      | some list' =>
          rw [hl, hl'] at hkey
          exact congrArg some hkey

theorem values_detachAll (listing : Listing) (keys : List String) (value k : String) :
    (listing.detachAll keys value).values k =
      if k ∈ keys then (listing.values k).filter (· ≠ value) else listing.values k := by
  unfold Listing.detachAll
  induction keys generalizing listing with
  | nil => simp
  | cons key rest ih =>
      rw [List.foldl_cons, ih, values_detach]
      by_cases hk : key = k
      · simp [hk]
      · simp [hk, Ne.symm hk]

theorem values_attachAll (listing : Listing) (keys : List String) (value k : String) :
    (listing.attachAll keys value).values k =
      if k ∈ keys then pushUnique (listing.values k) value else listing.values k := by
  have again (values : List String) :
      pushUnique (pushUnique values value) value = pushUnique values value :=
    if_pos ((mem_pushUnique values value value).2 (.inr rfl))
  unfold Listing.attachAll
  induction keys generalizing listing with
  | nil => simp
  | cons key rest ih =>
      rw [List.foldl_cons, ih, values_attach]
      by_cases hk : key = k
      · simp [hk, again]
      · simp [hk, Ne.symm hk]

/-- Filing what is filed already changes nothing. -/
theorem Files.attach_of_filed (h : listing.Files filed) {key value : String}
    (already : filed key value) : listing.attach key value = listing := by
  have hin := (h.mem_iff key value).2 already
  rw [Listing.attach, pushUnique, if_pos hin]
  apply Maps.insert_of_some
  unfold values at hin ⊢
  cases hlist : listing[key]? with
  | none => simp [hlist] at hin
  | some list => rfl

theorem Files.attachAll_of_filed (h : listing.Files filed) {keys : List String} {value : String}
    (already : ∀ key ∈ keys, filed key value) : listing.attachAll keys value = listing := by
  unfold Listing.attachAll
  induction keys with
  | nil => rfl
  | cons key rest ih =>
      obtain ⟨hkey, hrest⟩ := List.forall_mem_cons.1 already
      rw [List.foldl_cons, h.attach_of_filed hkey]
      exact ih hrest

/-- A value that is not filed under a key is not missed there. -/
theorem Files.filter_of_not_filed (h : listing.Files filed) {key value : String}
    (absent : ¬ filed key value) :
    (listing.values key).filter (· ≠ value) = listing.values key := by
  refine List.filter_eq_self.2 fun other hin => decide_eq_true ?_
  rintro rfl
  exact absent ((h.mem_iff key other).1 hin)

/-- Taking a value off its only key takes it off all lists. -/
theorem Files.values_detach_of_only (h : listing.Files filed) {key value : String}
    (only : ∀ k, filed k value → key = k) (k : String) :
    (listing.detach key value).values k = (listing.values k).filter (· ≠ value) := by
  rw [values_detach]
  split
  · rfl
  · next other => exact (h.filter_of_not_filed (mt (only k) other)).symm

/-- A value that was not filed leaves no trace once it is taken off again. -/
theorem Files.detach_attach (h : listing.Files filed) {key value : String}
    (fresh : ¬ filed key value) : (listing.attach key value).detach key value = listing := by
  refine ((h.attach key value).detach key value).eq_of_values h fun k => ?_
  rw [values_detach, values_attach]
  by_cases hk : key = k
  · subst hk
    have absent : value ∉ listing.values key := mt (h.mem_iff key value).1 fresh
    rw [if_pos rfl, if_pos rfl, pushUnique, if_neg absent, List.filter_append]
    have kept := h.filter_of_not_filed fresh
    have gone : [value].filter (· ≠ value) = [] := by simp
    rw [kept, gone, List.append_nil]
  · rw [if_neg hk, if_neg hk]

end Switchboard.Listing
