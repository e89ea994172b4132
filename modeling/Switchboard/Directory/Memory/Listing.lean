import Std.Data.ExtTreeMap

/-! # Listings

A listing files values under keys, each key's values in order of arrival and each
value once.  A key with no value left is dropped.
-/

namespace Switchboard

abbrev Listing : Type := Std.ExtTreeMap String (List String)

instance : DecidableEq Listing :=
  inferInstanceAs (DecidableEq (Std.ExtTreeMap String (List String)))

namespace Listing

def values (listing : Listing) (key : String) : List String :=
  (listing[key]?).getD []

/-- The list with the value at its end, unless it holds the value already. -/
def pushUnique (values : List String) (value : String) : List String :=
  if value ∈ values then values else values ++ [value]

def attach (listing : Listing) (key value : String) : Listing :=
  listing.insert key (pushUnique (listing.values key) value)

def file (listing : Listing) (key : String) (values : List String) : Listing :=
  if values = [] then listing.erase key else listing.insert key values

def detach (listing : Listing) (key value : String) : Listing :=
  listing.file key ((listing.values key).filter (· ≠ value))

def attachAll (listing : Listing) (keys : List String) (value : String) : Listing :=
  keys.foldl (fun listing key => listing.attach key value) listing

def detachAll (listing : Listing) (keys : List String) (value : String) : Listing :=
  keys.foldl (fun listing key => listing.detach key value) listing

theorem values_attach (listing : Listing) (key value k : String) :
    (listing.attach key value).values k =
      if key = k then pushUnique (listing.values k) value else listing.values k := by
  by_cases h : key = k
  · subst h; simp [attach, values]
  · simp [attach, values, Std.ExtTreeMap.getElem?_insert, h]

theorem values_file (listing : Listing) (key : String) (vs : List String) (k : String) :
    (listing.file key vs).values k = if key = k then vs else listing.values k := by
  by_cases h : key = k
  · subst h; by_cases hv : vs = [] <;> simp [file, values, hv]
  · by_cases hv : vs = [] <;>
      simp [file, values, hv, h, Std.ExtTreeMap.getElem?_insert, Std.ExtTreeMap.getElem?_erase]

theorem values_detach (listing : Listing) (key value k : String) :
    (listing.detach key value).values k =
      if key = k then (listing.values k).filter (· ≠ value) else listing.values k := by
  rw [detach, values_file]
  by_cases h : key = k
  · subst h; rfl
  · rw [if_neg h, if_neg h]

end Listing

end Switchboard
