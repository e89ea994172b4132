/-! # Cutting a text at its first separator -/

namespace Switchboard.Text

/-- The parts before and after the first `separator`, or `none` when there is none. -/
def cut? (separator : Char) : List Char → Option (List Char × List Char)
  | [] => none
  | c :: rest =>
    if c = separator then some ([], rest)
    else (cut? separator rest).map fun (before, after) => (c :: before, after)

/-- The part before the first `separator`; the whole text when there is none. -/
def before (separator : Char) (text : List Char) : List Char :=
  text.takeWhile (· ≠ separator)

theorem cut?_eq_some_iff {separator : Char} {text front back : List Char} :
    cut? separator text = some (front, back) ↔
      text = front ++ separator :: back ∧ separator ∉ front := by
  induction text generalizing front with
  | nil => simp [cut?]
  | cons c rest ih =>
    by_cases hc : c = separator
    · subst hc
      cases front with
      | nil => simp [cut?, eq_comm]
      | cons d front => simp [cut?]; intro h; simp [h]
    · cases front with
      | nil => simp [cut?, hc]
      | cons d front =>
        simp only [cut?, hc, if_false, Option.map_eq_some_iff, Prod.exists, Prod.mk.injEq,
          List.cons.injEq, List.cons_append, List.mem_cons, not_or]
        constructor
        · rintro ⟨x, y, h, ⟨rfl, rfl⟩, rfl⟩
          exact ⟨⟨rfl, (ih.1 h).1⟩, fun h' => hc h'.symm, (ih.1 h).2⟩
        · rintro ⟨⟨rfl, h⟩, _, h'⟩
          exact ⟨front, back, ih.2 ⟨h, h'⟩, ⟨rfl, rfl⟩, rfl⟩

theorem cut?_eq_none_iff {separator : Char} {text : List Char} :
    cut? separator text = none ↔ separator ∉ text := by
  induction text with
  | nil => simp [cut?]
  | cons c rest ih =>
    by_cases hc : c = separator
    · simp [cut?, hc]
    · simp [cut?, hc, ih, Ne.symm hc]

end Switchboard.Text
