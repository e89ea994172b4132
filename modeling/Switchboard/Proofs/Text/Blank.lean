import Switchboard.Text.Blank

/-! # What trimming leaves

Trimming takes blanks away from both ends of a text, and what is left begins and ends with
characters that are not blank, so trimming it again changes nothing.
-/

namespace Switchboard.Text

/-- `kept` is the text without the blanks around it. -/
structure Strips (text kept : String) : Prop where
  cut : ∃ front back, text = front ++ kept ++ back ∧
    (∀ c ∈ front.toList, isBlank c = true) ∧ ∀ c ∈ back.toList, isBlank c = true
  first : ∀ c rest, kept.toList = c :: rest → isBlank c = false
  last : ∀ front c, kept.toList = front ++ [c] → isBlank c = false

theorem dropBlanksRight_idem (text : List Char) :
    dropBlanksRight (dropBlanksRight text) = dropBlanksRight text := by
  induction text with
  | nil => rfl
  | cons c rest ih =>
      rw [dropBlanksRight]
      split
      · split
        · rfl
        · next shown => simp [dropBlanksRight, shown]
      · next kept =>
          rw [dropBlanksRight, ih]
          split
          · next h => exact absurd h kept
          · rfl

/-- A text that ends with a character that is not blank has no blanks at its end. -/
theorem dropBlanksRight_concat {c : Char} (shown : isBlank c = false) (text : List Char) :
    dropBlanksRight (text ++ [c]) = text ++ [c] := by
  induction text with
  | nil => simp [dropBlanksRight, shown]
  | cons d rest ih =>
      rw [List.cons_append, dropBlanksRight, ih]
      split
      · next h => simp at h
      · rfl

theorem trimChars_concat {c : Char} (shown : isBlank c = false) (text : List Char) :
    trimChars (text ++ [c]) = text.dropWhile isBlank ++ [c] := by
  have front : (text ++ [c]).dropWhile isBlank = text.dropWhile isBlank ++ [c] := by
    rw [List.dropWhile_append]
    split
    · next h => simp [List.isEmpty_iff.1 h, shown]
    · rfl
  rw [trimChars, front, dropBlanksRight_concat shown]

/-- What is left begins with a character that is not blank. -/
theorem dropWhile_trimChars (text : List Char) :
    (trimChars text).dropWhile isBlank = trimChars text := by
  have first := List.head?_dropWhile_not isBlank text
  rw [trimChars]
  cases front : text.dropWhile isBlank with
  | nil => rfl
  | cons c rest =>
      have shown : isBlank c = false := by simpa [front] using first
      rw [dropBlanksRight]
      split
      · simp [shown]
      · simp [shown]

theorem trimChars_idem (text : List Char) : trimChars (trimChars text) = trimChars text := by
  have front := dropWhile_trimChars text
  rw [trimChars, front, trimChars, dropBlanksRight_idem]

@[simp] theorem trim_trim (text : String) : trim (trim text) = trim text := by
  rw [trim, toList_trim, trimChars_idem, trim]

theorem exists_blanks_dropBlanksRight (text : List Char) :
    ∃ back, text = dropBlanksRight text ++ back ∧ ∀ c ∈ back, isBlank c = true := by
  induction text with
  | nil => exact ⟨[], rfl, by simp⟩
  | cons c rest ih =>
      obtain ⟨back, hrest, blanks⟩ := ih
      rw [dropBlanksRight]
      split
      · next none =>
          rw [none, List.nil_append] at hrest
          split
          · next blank =>
              refine ⟨c :: back, by rw [hrest, List.nil_append], ?_⟩
              simpa [blank] using blanks
          · exact ⟨back, by rw [hrest, List.singleton_append], blanks⟩
      · exact ⟨back, by rw [List.cons_append, ← hrest], blanks⟩

/-- What is left ends with a character that is not blank. -/
theorem isBlank_last_dropBlanksRight {text front : List Char} {c : Char}
    (h : dropBlanksRight text = front ++ [c]) : isBlank c = false := by
  induction text generalizing front with
  | nil => simp [dropBlanksRight] at h
  | cons d rest ih =>
      rw [dropBlanksRight] at h
      split at h
      · split at h
        · simp at h
        · next shown =>
            cases front with
            | nil => simpa [List.singleton_inj.1 h] using shown
            | cons e front => simp at h
      · next kept =>
          cases front with
          | nil => simp at h; exact absurd h.2 kept
          | cons e front => exact ih (List.cons.inj h).2

theorem strips_trim (text : String) : Strips text (trim text) where
  cut := by
    obtain ⟨back, hback, blanks⟩ :=
      exists_blanks_dropBlanksRight (text.toList.dropWhile isBlank)
    refine ⟨String.ofList (text.toList.takeWhile isBlank), String.ofList back, ?_, ?_, ?_⟩
    · apply String.toList_inj.1
      rw [String.toList_append, String.toList_append, toList_trim, trimChars, List.append_assoc,
        String.toList_ofList, String.toList_ofList, ← hback, List.takeWhile_append_dropWhile]
    · simpa using fun c hc => List.all_eq_true.1 (List.all_takeWhile) c hc
    · simpa using blanks
  first := by
    intro c rest h
    have first := List.head?_dropWhile_not isBlank (trim text).toList
    rw [toList_trim, dropWhile_trimChars, ← toList_trim, h] at first
    simpa using first
  last := by
    intro front c h
    rw [toList_trim] at h
    exact isBlank_last_dropBlanksRight h

/-- Nothing is trimmed from a text that begins and ends with characters that are not blank. -/
theorem trim_eq_self {text : String} {front : List Char} {c : Char}
    (first : ∀ d rest, text.toList = d :: rest → isBlank d = false)
    (last : text.toList = front ++ [c]) (shown : isBlank c = false) : trim text = text := by
  have kept : text.toList.dropWhile isBlank = text.toList := by
    cases whole : text.toList with
    | nil => rfl
    | cons d rest => rw [List.dropWhile_cons_of_neg (by simp [first d rest whole])]
  apply String.toList_inj.1
  rw [toList_trim, trimChars, kept, last, dropBlanksRight_concat shown]

end Switchboard.Text
