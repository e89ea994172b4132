import Switchboard.Columns.Basic

/-! # Listing row keys page by page

A long table is read in pages.  Each page after the first starts at the last key
of the page before it, so that key comes twice and is passed over the second time.
-/

namespace Switchboard.Replicated.Paging

open Switchboard.Columns

def pageSize : Nat := 100

def liveKeys (rows : List Row) : List String :=
  (rows.filter (!·.columns.isEmpty)).map (·.key)

/-- The live keys on at most `pages` pages; `last` is the last key of the page before.  A page
that cannot be read ends the listing. -/
def keysFrom {ε : Type} (page : String → Except ε (List Row)) :
    (pages : Nat) → (last : Option String) → List String
  | 0, _ => []
  | pages + 1, last =>
    match page (last.getD "") with
    | .error _ => []
    | .ok rows =>
      let fresh := rows.filter (some ·.key ≠ last)
      if rows.length < pageSize then liveKeys fresh
      else match fresh.getLast? with
        | none => liveKeys fresh
        | some row => liveKeys fresh ++ keysFrom page pages (some row.key)

end Switchboard.Replicated.Paging
