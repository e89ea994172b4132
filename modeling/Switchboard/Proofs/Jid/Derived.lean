import Switchboard.Json.Record
import Switchboard.Proofs.Jid.Grammar
import Switchboard.Proofs.Json.Literal

/-! # JIDs made from parsed ones

Dropping the resource of a JID leaves its domain as the last part of its text, and a resource that
is attached becomes the last part as it is, unchecked. Parsing takes the blanks from the end of a
text and refuses an empty resource. So a JID that was made from a parsed one reads back from its
text exactly when the last part ends with a character that is not blank.
-/

namespace Switchboard.Jid

open Switchboard.Text

/-- A JID that was parsed, or that was made from one by dropping and attaching resources. -/
inductive Obtained : Jid → Prop
  | parsed {text : String} {jid : Jid} : parse text = .ok jid → Obtained jid
  | toBare {jid : Jid} : Obtained jid → Obtained jid.toBare
  | withResource {jid : Jid} (resource : String) :
      Obtained jid → Obtained (jid.withResource resource)

/-- The part at the end of the text: the resource, or the domain when there is none. -/
def lastPart (jid : Jid) : String :=
  jid.resource.getD jid.domain

def EndsShown (jid : Jid) : Prop :=
  ∃ c ∈ jid.lastPart.toList.getLast?, isBlank c = false

instance (jid : Jid) : Decidable jid.EndsShown :=
  decidable_of_iff (jid.lastPart.toList.getLast?.any (!isBlank ·) = true)
    (by simp [EndsShown, Option.any_eq_true])

def ofJsonText? (text : String) : Option Jid :=
  (Json.parse? text).bind fun json => (ofJson json).toOption

variable {text : String} {jid : Jid}

/-! ## What is kept -/

/-- Up to its resource the JID is as one that was parsed. -/
structure Rooted (jid : Jid) : Prop where
  wellFormed : jid.toBare.WellFormed
  first : ∀ c rest, jid.toBare.render.toList = c :: rest → isBlank c = false

theorem rooted_of_parse (parsed : parse text = .ok jid) : jid.Rooted where
  wellFormed := (wellFormed_of_parse parsed).toBare
  first := by
    intro c rest h
    refine (strips_trim text).first c (rest ++ (jid.resource.elim "" ("/" ++ ·)).toList) ?_
    rw [← render_of_parse parsed, render_eq, String.toList_append, h]
    rfl

theorem Obtained.rooted (obtained : jid.Obtained) : jid.Rooted := by
  induction obtained with
  | parsed parsed => exact rooted_of_parse parsed
  | toBare _ ih => exact ⟨ih.wellFormed, ih.first⟩
  | withResource resource _ ih => exact ⟨ih.wellFormed, ih.first⟩

theorem exists_render_eq (jid : Jid) :
    ∃ front, jid.render.toList = front ++ jid.lastPart.toList := by
  obtain ⟨node, domain, resource⟩ := jid
  cases resource with
  | none => exact ⟨(node.elim "" (· ++ "@")).toList, by cases node <;> simp [render, lastPart]⟩
  | some resource =>
      refine ⟨(toBare ⟨node, domain, none⟩).render.toList ++ ['/'], ?_⟩
      rw [render_eq]
      simp [lastPart, toBare]

theorem lastPart_ne_empty (wellFormed : jid.WellFormed) : jid.lastPart ≠ "" := by
  unfold lastPart
  cases known : jid.resource with
  | none => exact wellFormed.domain.1
  | some resource => exact wellFormed.resource resource known

theorem endsShown_of_parse (parsed : parse text = .ok jid) : jid.EndsShown := by
  have nonempty : jid.lastPart.toList ≠ [] := by
    simpa using lastPart_ne_empty (wellFormed_of_parse parsed)
  obtain ⟨front, rendered⟩ := exists_render_eq jid
  obtain ⟨kept, c, last⟩ := List.eq_nil_or_concat jid.lastPart.toList |>.resolve_left nonempty
  refine ⟨c, by simp [last], (strips_trim text).last (front ++ kept) c ?_⟩
  rw [← render_of_parse parsed, rendered, last, List.concat_eq_append, List.append_assoc]

theorem Rooted.render_first (rooted : jid.Rooted) {c : Char} {rest : List Char}
    (h : jid.render.toList = c :: rest) : isBlank c = false := by
  rw [render_eq, String.toList_append] at h
  cases bare : jid.toBare.render.toList with
  | nil => exact absurd (String.toList_eq_nil_iff.1 bare) (render_ne_empty rooted.wellFormed)
  | cons d front =>
      rw [bare, List.cons_append] at h
      rw [← (List.cons.inj h).1]
      exact rooted.first d front bare

theorem parse_render_of_endsShown (rooted : jid.Rooted) (ends : jid.EndsShown) :
    parse jid.render = .ok jid := by
  obtain ⟨c, ends, shown⟩ := ends
  obtain ⟨kept, last⟩ := List.getLast?_eq_some_iff.1 ends
  have wellFormed : jid.WellFormed := by
    refine ⟨rooted.wellFormed.node, rooted.wellFormed.domain, ?_⟩
    rintro resource known rfl
    rw [lastPart, known] at last
    simp at last
  obtain ⟨front, rendered⟩ := exists_render_eq jid
  have whole : jid.render.toList = (front ++ kept) ++ [c] := by
    rw [rendered, last, List.append_assoc]
  have trimmed := trim_eq_self (fun _ _ h => rooted.render_first h) whole shown
  exact parse_of_wellFormed wellFormed trimmed.symm

theorem Obtained.parse_render_iff (obtained : jid.Obtained) :
    parse jid.render = .ok jid ↔ jid.EndsShown :=
  ⟨endsShown_of_parse, parse_render_of_endsShown obtained.rooted⟩

/-! ## The text as JSON -/

/-- A JID is read from its JSON text when it is read from its text. -/
theorem ofJsonText?_render_toJson (jid : Jid) :
    ofJsonText? jid.toJson.render = (parse jid.render).toOption := by
  rw [ofJsonText?, toJson, Json.parse?_render_str, Option.bind_some, ofJson]
  cases parse jid.render <;> rfl

/-- A JID that was made from a parsed one by dropping and attaching resources reads back from its
text exactly when its last part ends with a character that is not blank, and so it does from its
JSON text. A JID as it was parsed always does. -/
theorem obtained_jid_reads_back_iff (obtained : jid.Obtained) :
    (parse jid.render = .ok jid ↔ jid.EndsShown) ∧
      (ofJsonText? jid.toJson.render = some jid ↔ jid.EndsShown) ∧
      ∀ text, parse text = .ok jid → jid.EndsShown := by
  have readBack := obtained.parse_render_iff
  refine ⟨readBack, ?_, fun _ => endsShown_of_parse⟩
  rw [ofJsonText?_render_toJson, ← readBack]
  cases parse jid.render with
  | ok read => exact ⟨fun same => congrArg Except.ok (Option.some.inj same),
      fun same => congrArg some (Except.ok.inj same)⟩
  | error e => exact ⟨nofun, nofun⟩

/-- An empty resource is refused, a blank behind a resource is lost, and so is a blank at the end of
the domain when the resource is dropped. -/
theorem obtained_jid_not_read_back :
    let bare : Jid := ⟨some "a", "b", none⟩
    let spaced : Jid := ⟨some "a", "b ", some "c"⟩
    ∀ jid ∈ [bare.withResource "", bare.withResource "x ", spaced.toBare],
      jid.Obtained ∧ parse jid.render ≠ .ok jid ∧ ofJsonText? jid.toJson.render ≠ some jid := by
  intro bare spaced jid made
  have parsed : bare.Obtained := .parsed (show parse "a@b" = .ok bare by decide +kernel)
  have parsed' : spaced.Obtained := .parsed (show parse "a@b /c" = .ok spaced by decide +kernel)
  have obtained : jid.Obtained := by
    rcases List.mem_cons.1 made with rfl | made
    · exact parsed.withResource ""
    · rcases List.mem_cons.1 made with rfl | made
      · exact parsed.withResource "x "
      · exact List.mem_singleton.1 made ▸ parsed'.toBare
  have lost : ∀ jid ∈ [bare.withResource "", bare.withResource "x ", spaced.toBare],
      ¬ jid.EndsShown := by decide +kernel
  obtain ⟨read, readJson, -⟩ := obtained_jid_reads_back_iff obtained
  exact ⟨obtained, fun same => lost jid made (read.1 same),
    fun same => lost jid made (readJson.1 same)⟩

end Switchboard.Jid
