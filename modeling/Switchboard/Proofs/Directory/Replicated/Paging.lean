import Mathlib.Data.String.Basic
import Switchboard.Directory.Replicated.Paging

/-! # Paged listings are complete

Rows are in order of key, and a page holds the first rows from a key on. The listing of row keys
is a loop: it reads a page, goes past its rows one by one, and starts the next page at the last
key that it met. Only a page that is not full ends it, and that happens after as many pages as the
rows fill. A listing that may read one page more than there are rows comes to the same keys.
-/

namespace Switchboard.Replicated.Paging

open Switchboard.Columns

def pageOf (rows : List Row) (start : String) : List Row :=
  (rows.filter (start ≤ ·.key)).take pageSize

def InOrder (rows : List Row) : Prop :=
  rows.Pairwise fun a b => a.key < b.key

theorem liveKeys_append (front back : List Row) :
    liveKeys (front ++ back) = liveKeys front ++ liveKeys back := by
  simp [liveKeys]

theorem liveKeys_cut (front back : List Row) (row : Row) :
    liveKeys (front ++ row :: back) = liveKeys (front ++ [row]) ++ liveKeys back := by
  rw [← liveKeys_append, List.append_assoc, List.singleton_append]

/-- A long list splits behind the last element of its first page. -/
theorem exists_split_take {α : Type} {list : List α} {n : Nat} (h : n < list.length) :
    ∃ fresh next rest, list = fresh ++ next :: rest ∧ list.take (n + 1) = fresh ++ [next] := by
  refine ⟨list.take n, list[n], list.drop (n + 1), ?_, ?_⟩
  · rw [List.getElem_cons_drop, List.take_append_drop]
  · rw [List.take_append_getElem h]

theorem empty_le (key : String) : "" ≤ key :=
  not_lt.1 fun below => List.not_lt_nil key.toList (String.lt_iff_toList_lt.1 below)

/-- The page that starts at the empty key starts at the first row. -/
theorem pageOf_empty (rows : List Row) : pageOf rows "" = rows.take pageSize := by
  have whole : rows.filter (("" : String) ≤ ·.key) = rows :=
    List.filter_eq_self.2 fun row _ => decide_eq_true (empty_le row.key)
  rw [pageOf, whole]

/-- The rows from the key of one of them on. -/
theorem filter_from_row {front back : List Row} {row : Row}
    (order : InOrder (front ++ row :: back)) :
    (front ++ row :: back).filter (row.key ≤ ·.key) = row :: back := by
  obtain ⟨_, hrest, hcross⟩ := List.pairwise_append.1 order
  have hfront : front.filter (row.key ≤ ·.key) = [] := by
    rw [List.filter_eq_nil_iff]
    intro a ha
    have hlt : a.key < row.key := hcross a ha row List.mem_cons_self
    simpa using hlt
  have hback : back.filter (row.key ≤ ·.key) = back := by
    rw [List.filter_eq_self]
    intro b hb
    have hlt : row.key < b.key := (List.pairwise_cons.1 hrest).1 b hb
    simpa using hlt.le
  rw [List.filter_append, hfront, List.filter_cons_of_pos (by simp), hback, List.nil_append]

/-! ## The loop -/

/-- What the loop holds between two rows. -/
structure Progress where
  found : List String := []
  /-- The key of the row before. -/
  last : Option String := none

namespace Progress

/-- Goes past a row; the row that ended the page before is met again and skipped. -/
def pass (progress : Progress) (row : Row) : Progress :=
  if progress.last = some row.key then progress
  else
    { found := if row.columns.isEmpty then progress.found else progress.found ++ [row.key]
      last := some row.key }

def passAll (progress : Progress) (rows : List Row) : Progress :=
  rows.foldl pass progress

end Progress

/-- From this progress on the loop ends after so many pages, with these keys. -/
inductive Ends {ε : Type} (page : String → Except ε (List Row)) :
    Progress → Nat → List String → Prop
  | unread {progress : Progress} {e : ε} :
      page (progress.last.getD "") = .error e → Ends page progress 1 progress.found
  | short {progress : Progress} {rows : List Row} :
      page (progress.last.getD "") = .ok rows → rows.length < pageSize →
        Ends page progress 1 (progress.passAll rows).found
  /-- A full page without any key to go on from. -/
  | keyless {progress : Progress} {rows : List Row} :
      page (progress.last.getD "") = .ok rows → pageSize ≤ rows.length →
        (progress.passAll rows).last = none → Ends page progress 1 (progress.passAll rows).found
  | onward {progress : Progress} {rows : List Row} {key : String} {pages : Nat}
      {keys : List String} :
      page (progress.last.getD "") = .ok rows → pageSize ≤ rows.length →
        (progress.passAll rows).last = some key → Ends page (progress.passAll rows) pages keys →
          Ends page progress (pages + 1) keys

section Loop

variable {ε : Type} {page : String → Except ε (List Row)}

/-- The loop has one course. -/
theorem Ends.unique {progress : Progress} {pages pages' : Nat} {keys keys' : List String}
    (first : Ends page progress pages keys) (second : Ends page progress pages' keys') :
    pages = pages' ∧ keys = keys' := by
  induction first generalizing pages' keys' with
  | unread failed =>
      cases second with
      | unread => exact ⟨rfl, rfl⟩
      | short read | keyless read | onward read => cases failed.symm.trans read
  | short read short =>
      cases second with
      | unread failed => cases read.symm.trans failed
      | short read' =>
          cases read.symm.trans read'
          exact ⟨rfl, rfl⟩
      | keyless read' full | onward read' full =>
          cases read.symm.trans read'
          omega
  | keyless read full none =>
      cases second with
      | unread failed => cases read.symm.trans failed
      | short read' short =>
          cases read.symm.trans read'
          omega
      | keyless read' =>
          cases read.symm.trans read'
          exact ⟨rfl, rfl⟩
      | onward read' _ some =>
          cases read.symm.trans read'
          cases none.symm.trans some
  | onward read full some _ ih =>
      cases second with
      | unread failed => cases read.symm.trans failed
      | short read' short =>
          cases read.symm.trans read'
          omega
      | keyless read' _ none =>
          cases read.symm.trans read'
          cases none.symm.trans some
      | onward read' _ _ rest =>
          cases read.symm.trans read'
          obtain ⟨rfl, rfl⟩ := ih rest
          exact ⟨rfl, rfl⟩

/-! ## Rows of one page -/

namespace Progress

theorem last_pass (progress : Progress) (row : Row) : (progress.pass row).last = some row.key := by
  unfold pass
  split
  · assumption
  · rfl

/-- A page that starts with the row before goes on as without that row. -/
theorem passAll_cons_last {progress : Progress} {row : Row} (met : progress.last = some row.key)
    (rows : List Row) : progress.passAll (row :: rows) = progress.passAll rows := by
  rw [passAll, List.foldl_cons, pass, if_pos met, passAll]

/-- Rows in order that were not met before add their live keys. -/
theorem found_passAll {progress : Progress} {rows : List Row} (order : InOrder rows)
    (fresh : ∀ row ∈ rows, progress.last ≠ some row.key) :
    (progress.passAll rows).found = progress.found ++ liveKeys rows := by
  induction rows generalizing progress with
  | nil => simp [passAll, liveKeys]
  | cons row rest ih =>
      obtain ⟨above, order⟩ := List.pairwise_cons.1 order
      have unmet : progress.last ≠ some row.key := fresh row List.mem_cons_self
      have later : ∀ other ∈ rest, (progress.pass row).last ≠ some other.key := by
        intro other hother same
        rw [last_pass] at same
        exact (above other hother).ne (Option.some.inj same)
      have passed : (progress.pass row).found = progress.found ++ liveKeys [row] := by
        rw [pass, if_neg unmet]
        by_cases live : row.columns.isEmpty <;> simp [liveKeys, live]
      have step : progress.passAll (row :: rest) = (progress.pass row).passAll rest := rfl
      rw [step, ih order later, passed, List.append_assoc, ← liveKeys_append,
        List.singleton_append]

theorem passAll_fresh {progress : Progress} {rows : List Row} (order : InOrder rows)
    (fresh : ∀ row ∈ rows, progress.last ≠ some row.key) :
    progress.passAll rows =
      ⟨progress.found ++ liveKeys rows, (rows.getLast?.map (·.key)).or progress.last⟩ := by
  have found := found_passAll order fresh
  have last : (progress.passAll rows).last = (rows.getLast?.map (·.key)).or progress.last := by
    rcases rows.eq_nil_or_concat with rfl | ⟨front, row, rfl⟩
    · rfl
    · rw [List.concat_eq_append, passAll, List.foldl_append, List.getLast?_concat]
      exact last_pass _ row
  rw [← found, ← last]

/-- A page of fresh rows leaves its live keys and the key of its last row. -/
theorem passAll_concat {progress : Progress} {front : List Row} {row : Row}
    (order : InOrder (front ++ [row]))
    (fresh : ∀ other ∈ front ++ [row], progress.last ≠ some other.key) :
    progress.passAll (front ++ [row]) =
      ⟨progress.found ++ liveKeys (front ++ [row]), some row.key⟩ := by
  rw [passAll_fresh order fresh, List.getLast?_concat]
  rfl

/-- The rows of a page that the loop has not met; only its first row can be met again. -/
theorem fresh_page {last : Option String} {rows : List Row} (order : InOrder rows)
    (above : ∀ row ∈ rows, last.getD "" ≤ row.key) :
    rows.filter (some ·.key ≠ last) = rows ∨
      ∃ row rest, rows = row :: rest ∧ last = some row.key ∧
        rows.filter (some ·.key ≠ last) = rest := by
  have all {list : List Row} (fresh : ∀ row ∈ list, some row.key ≠ last) :
      list.filter (some ·.key ≠ last) = list :=
    List.filter_eq_self.2 fun row hin => decide_eq_true (fresh row hin)
  by_cases met : ∃ row ∈ rows, some row.key = last
  · right
    obtain ⟨row, hrow, rfl⟩ := met
    obtain ⟨front, rest, rfl⟩ := List.append_of_mem hrow
    obtain ⟨_, behind, cross⟩ := List.pairwise_append.1 order
    obtain rfl : front = [] := List.eq_nil_iff_forall_not_mem.2 fun other hother =>
      absurd (cross other hother row List.mem_cons_self)
        (not_lt.2 (above other (List.mem_append_left _ hother)))
    refine ⟨row, rest, rfl, rfl, ?_⟩
    rw [List.nil_append, List.filter_cons_of_neg (by simp), all]
    exact fun other hother same =>
      ((List.pairwise_cons.1 behind).1 other hother).ne' (Option.some.inj same)
  · exact .inl (all fun row hin same => met ⟨row, hin, same⟩)

/-- A page adds the live keys of its fresh rows, and the last of them is the next to go on from. -/
theorem passAll_page {progress : Progress} {rows : List Row} (order : InOrder rows)
    (above : ∀ row ∈ rows, progress.last.getD "" ≤ row.key) {fresh : List Row}
    (hfresh : rows.filter (some ·.key ≠ progress.last) = fresh) :
    progress.passAll rows =
      ⟨progress.found ++ liveKeys fresh, (fresh.getLast?.map (·.key)).or progress.last⟩ := by
  subst hfresh
  have unmet : ∀ row ∈ rows.filter (some ·.key ≠ progress.last), progress.last ≠ some row.key :=
    fun row hin => (of_decide_eq_true (List.mem_filter.1 hin).2).symm
  rw [← passAll_fresh (order.sublist List.filter_sublist) unmet]
  rcases fresh_page order above with whole | ⟨row, rest, rfl, met, but⟩
  · rw [whole]
  · rw [but, passAll_cons_last met]

end Progress

/-- Behind a full page the loop goes on from the key of its last row. -/
theorem Ends.turn {progress : Progress} {rows : List Row} {found keys : List String} {key : String}
    {pages : Nat} (read : page (progress.last.getD "") = .ok rows) (full : pageSize ≤ rows.length)
    (passed : progress.passAll rows = ⟨found, some key⟩)
    (rest : Ends page ⟨found, some key⟩ pages keys) : Ends page progress (pages + 1) keys := by
  rw [← passed] at rest
  exact .onward read full (congrArg Progress.last passed) rest

/-! ## The whole table -/

variable {rows : List Row}

/-- Enough rows split behind the last of the first few. -/
theorem exists_split_first {few : Nat} (some : 0 < few) (enough : few ≤ rows.length) :
    ∃ before last rest, rows = before ++ last :: rest ∧ rows.take few = before ++ [last] ∧
      before.length + 1 = few := by
  obtain ⟨n, rfl⟩ := Nat.exists_eq_add_one.2 some
  obtain ⟨before, last, rest, split, first⟩ := exists_split_take enough
  refine ⟨before, last, rest, split, first, ?_⟩
  have length := congrArg List.length first
  rw [List.length_take, Nat.min_eq_left enough, List.length_append] at length
  exact length.symm

/-- How many pages a loop reads that stands on a row with so many behind it: each page but the
last brings one row less than it holds. -/
def pagesBehind (behind : Nat) : Nat :=
  behind / (pageSize - 1) + 1

theorem pagesBehind_of_lt {behind : Nat} (few : behind < pageSize - 1) :
    pagesBehind behind = 1 := by
  rw [pagesBehind, Nat.div_eq_of_lt few]

theorem pagesBehind_le (behind : Nat) : pagesBehind behind ≤ behind + 1 :=
  Nat.succ_le_succ (Nat.div_le_self behind _)

theorem pagesBehind_of_le {behind : Nat} (many : pageSize - 1 ≤ behind) :
    pagesBehind behind = pagesBehind (behind - (pageSize - 1)) + 1 := by
  rw [pagesBehind, Nat.div_eq_sub_div (by decide) many, pagesBehind]

/-- After a row the loop finds the live keys behind it. -/
theorem ends_after_row (reads : ∀ start, page start = .ok (pageOf rows start))
    (order : InOrder rows) {front back : List Row} {row : Row}
    (split : rows = front ++ row :: back) (found : List String) :
    Ends page ⟨found, some row.key⟩ (pagesBehind back.length) (found ++ liveKeys back) := by
  induction size : back.length using Nat.strong_induction_on generalizing front row back found with
  | _ behind ih =>
      subst split
      have read : page row.key = .ok (row :: back.take (pageSize - 1)) := by
        rw [reads, pageOf, filter_from_row order]
        rfl
      obtain ⟨above, order⟩ := List.pairwise_cons.1 (List.pairwise_append.1 order).2.1
      have fresh : ∀ other ∈ back, some row.key ≠ some other.key := fun other hother same =>
        (above other hother).ne (Option.some.inj same)
      rcases Nat.lt_or_ge behind (pageSize - 1) with few | many
      · have whole : back.take (pageSize - 1) = back := List.take_of_length_le (size ▸ few.le)
        have short : (row :: back).length < pageSize := by
          rw [List.length_cons, size]
          exact Nat.add_lt_of_lt_sub few
        rw [whole] at read
        have ends : Ends page ⟨found, some row.key⟩ 1 _ := .short read short
        rw [Progress.passAll_cons_last rfl, Progress.found_passAll order fresh] at ends
        rwa [pagesBehind_of_lt few]
      · -- The last row of a full page is fresh, and fewer rows are behind it.
        obtain ⟨before, next, rest, rfl, first, length⟩ :=
          exists_split_first (by decide) (size ▸ many)
        have left : rest.length = behind - (pageSize - 1) := by
          rw [← size, ← length, List.length_append, List.length_cons]
          omega
        have part : (before ++ [next]).Sublist (before ++ next :: rest) :=
          first ▸ List.take_sublist (pageSize - 1) _
        rw [first] at read
        have passed : Progress.passAll ⟨found, some row.key⟩ (row :: (before ++ [next])) =
            ⟨found ++ liveKeys (before ++ [next]), some next.key⟩ := by
          rw [Progress.passAll_cons_last rfl]
          exact Progress.passAll_concat (order.sublist part) fun other hother =>
            fresh other (part.subset hother)
        have fewer : rest.length < behind :=
          left ▸ Nat.sub_lt_of_pos_le (by decide) many
        have split : front ++ row :: (before ++ next :: rest) =
            (front ++ row :: before) ++ next :: rest := by simp
        have resumed := ih rest.length fewer split (found ++ liveKeys (before ++ [next])) rfl
        rw [List.append_assoc, ← liveKeys_cut, left] at resumed
        rw [pagesBehind_of_le many]
        refine Ends.turn read ?_ passed resumed
        rw [List.length_cons, List.length_append, List.length_singleton, length]
        exact le_rfl

/-- From the first row of a table on the loop finds the live keys of all its rows. -/
theorem ends_from_first (reads : ∀ start, page start = .ok (pageOf rows start))
    (order : InOrder rows) : Ends page {} (pagesBehind (rows.length - 1)) (liveKeys rows) := by
  have read : page "" = .ok (rows.take pageSize) := by rw [reads, pageOf_empty]
  have fresh (list : List Row) : ∀ row ∈ list, ({} : Progress).last ≠ some row.key := nofun
  rcases Nat.lt_or_ge rows.length pageSize with few | many
  · rw [List.take_of_length_le few.le] at read
    have ends : Ends page {} 1 _ := .short read few
    rw [Progress.found_passAll order (fresh rows)] at ends
    rwa [pagesBehind_of_lt]
    change rows.length < 100 at few
    change rows.length - 1 < 99
    omega
  · obtain ⟨before, next, rest, split, first, length⟩ := exists_split_first (by decide) many
    have left : rows.length - 1 - (pageSize - 1) = rest.length := by
      rw [split, ← length, List.length_append, List.length_cons]
      omega
    have passed : Progress.passAll {} (before ++ [next]) =
        ⟨liveKeys (before ++ [next]), some next.key⟩ :=
      Progress.passAll_concat (first ▸ order.sublist (List.take_sublist pageSize rows)) (fresh _)
    have resumed := ends_after_row reads order split (liveKeys (before ++ [next]))
    rw [← liveKeys_cut, ← split, ← left] at resumed
    rw [pagesBehind_of_le (Nat.sub_le_sub_right many 1)]
    rw [first] at read
    refine Ends.turn read ?_ passed resumed
    rw [List.length_append, List.length_singleton, length]

/-! ## So many pages at most -/

theorem inOrder_pageOf (order : InOrder rows) (start : String) : InOrder (pageOf rows start) :=
  order.sublist ((List.take_sublist _ _).trans List.filter_sublist)

theorem le_of_mem_pageOf {start : String} {row : Row} (hin : row ∈ pageOf rows start) :
    start ≤ row.key :=
  of_decide_eq_true (List.mem_filter.1 (List.mem_of_mem_take hin)).2

/-- A listing that may read as many pages as the loop comes to the same keys. -/
theorem keysFrom_of_ends (reads : ∀ start, page start = .ok (pageOf rows start))
    (order : InOrder rows) {progress : Progress} {pages : Nat} {keys : List String}
    (ends : Ends page progress pages keys) {allowed : Nat} (enough : pages ≤ allowed) :
    progress.found ++ keysFrom page allowed progress.last = keys := by
  induction ends generalizing allowed with
  | @unread progress _ failed => cases (reads _).symm.trans failed
  | @short progress _ read few =>
      cases (reads _).symm.trans read
      obtain ⟨allowed, rfl⟩ := Nat.exists_eq_add_of_le' enough
      rw [Progress.passAll_page (inOrder_pageOf order _) (fun _ => le_of_mem_pageOf) rfl,
        keysFrom, reads]
      simp only [if_pos few]
  | @keyless progress _ read full none =>
      cases (reads _).symm.trans read
      obtain ⟨allowed, rfl⟩ := Nat.exists_eq_add_of_le' enough
      rw [Progress.passAll_page (inOrder_pageOf order _) (fun _ => le_of_mem_pageOf) rfl] at none ⊢
      obtain ⟨stopped, _⟩ := Option.or_eq_none_iff.1 none
      rw [keysFrom, reads]
      simp only [if_neg (Nat.not_lt.2 full), Option.map_eq_none_iff.1 stopped]
  | @onward progress _ key pages keys read full some _ ih =>
      cases (reads _).symm.trans read
      obtain ⟨allowed, rfl⟩ := Nat.exists_eq_add_of_le' enough
      have passed := Progress.passAll_page (inOrder_pageOf order (progress.last.getD ""))
        (fun _ => le_of_mem_pageOf) rfl
      rw [← Nat.add_assoc, keysFrom, reads]
      simp only [if_neg (Nat.not_lt.2 full)]
      split
      · next nothing =>
        -- A full page has a fresh row, as it cannot consist of a row that is met again.
        rcases Progress.fresh_page (inOrder_pageOf order _) (fun _ => le_of_mem_pageOf) with
          whole | ⟨row, rest, split, _, but⟩
        · rw [whole, List.getLast?_eq_none_iff] at nothing
          rw [nothing] at full
          cases full
        · rw [but, List.getLast?_eq_none_iff] at nothing
          rw [split, nothing] at full
          exact absurd full (show ¬ pageSize ≤ 1 by decide)
      · next row last =>
        have resumed := ih (Nat.le_add_left pages allowed)
        rw [passed, last] at resumed
        rw [← resumed, List.append_assoc]
        rfl

/-- The listing of a readable table that starts at the first row is complete. -/
theorem keysFrom_start (reads : ∀ start, page start = .ok (pageOf rows start))
    (order : InOrder rows) {pages : Nat} (enough : rows.length < pages) :
    keysFrom page pages none = liveKeys rows := by
  have few : pagesBehind (rows.length - 1) ≤ pages :=
    (pagesBehind_le _).trans (by omega)
  simpa using keysFrom_of_ends reads order (ends_from_first reads order) few

end Loop

end Switchboard.Replicated.Paging
