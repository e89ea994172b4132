import Switchboard.Jid.Basic
import Switchboard.Proofs.Jid.Raw
import Switchboard.Proofs.Text.Blank

/-! # The text of a parsed JID

Parsing cuts a text at its separators and rendering puts the parts together again, so a JID
that was parsed renders to the text that was read, without the blanks around it.
-/

namespace Switchboard.Jid

open Switchboard.Text

theorem render_eq (jid : Jid) :
    jid.render = jid.toBare.render ++ (jid.resource.elim "" fun resource => "/" ++ resource) := by
  obtain ⟨node, domain, resource⟩ := jid
  cases resource <;> simp [render, toBare]

variable {whole text : String} {node resource : Option String} {bare domain : List Char} {jid : Jid}

theorem eq_of_checkDomain (h : checkDomain whole node domain resource = .ok jid) :
    jid = ⟨node, String.ofList domain, resource⟩ := by
  unfold checkDomain at h
  split at h
  · cases h
  · split at h
    · cases h
    · exact (Except.ok.inj h).symm

theorem render_of_parseBare (h : parseBare whole bare resource = .ok jid) :
    jid.toBare.render = String.ofList bare ∧ jid.resource = resource := by
  unfold parseBare at h
  split at h
  · cases h
  · next front domain _ hcut =>
      obtain rfl := eq_of_checkDomain h
      obtain ⟨rfl, -⟩ := cut?_eq_some_iff.1 hcut
      refine ⟨String.toList_inj.1 ?_, rfl⟩
      simp [toBare, render]
  · obtain rfl := eq_of_checkDomain h
    exact ⟨by simp [toBare, render], rfl⟩

/-- A JID renders to the text that it was parsed from, without the blanks around that. -/
theorem render_of_parse (h : parse text = .ok jid) : jid.render = trim text := by
  unfold parse at h
  dsimp only at h
  rw [render_eq]
  split at h
  · cases h
  · split at h
    · cases h
    · next front back _ hcut =>
        obtain ⟨hbare, hresource⟩ := render_of_parseBare h
        rw [hbare, hresource]
        apply String.toList_inj.1
        rw [toList_trim, (cut?_eq_some_iff.1 hcut).1]
        simp
    · obtain ⟨hbare, hresource⟩ := render_of_parseBare h
      rw [hbare, hresource]
      simp [trim]

/-- No parsed JID ends with its first slash. -/
theorem noBareSlash_of_parse (h : parse text = .ok jid) : RawJid.NoBareSlash jid.render := by
  intro front hcut
  rw [render_of_parse h, toList_trim] at hcut
  unfold parse at h
  dsimp only at h
  rw [hcut] at h
  split at h <;> cases h

/-- The blanks around it do not hide a first slash at the end. -/
theorem noBareSlash_text_of_parse (h : parse text = .ok jid) : RawJid.NoBareSlash text := by
  intro front hcut
  obtain ⟨htext, habsent⟩ := cut?_eq_some_iff.1 hcut
  have trimmed : trimChars text.toList = front.dropWhile isBlank ++ ['/'] := by
    rw [htext]
    exact trimChars_concat rfl front
  have absent : '/' ∉ front.dropWhile isBlank := fun hin =>
    habsent ((List.dropWhile_sublist isBlank).subset hin)
  refine noBareSlash_of_parse h (front.dropWhile isBlank) ?_
  rw [render_of_parse h, toList_trim, trimmed]
  exact cut?_eq_some_iff.2 ⟨rfl, absent⟩

end Switchboard.Jid
