import Mathlib.Data.List.TakeWhile
import Switchboard.Jid.Raw

/-! # Bare part and resource determine a JID

The one text that is cut like its bare part alone is the bare part with a slash behind
it. Without such texts a JID is what its bare part and its resource make up.
-/

namespace Switchboard.RawJid

open Switchboard.Text

/-- The first slash, if there is one, is not the last character. -/
def NoBareSlash (jid : String) : Prop :=
  ∀ front, cut? '/' jid.toList ≠ some (front, [])

@[simp] theorem bare_bare (jid : String) : bare (bare jid) = bare jid := by
  rw [bare, bare, String.toList_ofList, before, before, List.takeWhile_idem]

theorem before_of_cut_none {separator : Char} {text : List Char}
    (h : cut? separator text = none) : before separator text = text := by
  have habsent := cut?_eq_none_iff.1 h
  have hall : ∀ c ∈ text, decide (c ≠ separator) = true := by
    intro c hc
    simpa using fun he : c = separator => habsent (he ▸ hc)
  have htake : (text ++ []).takeWhile (· ≠ separator) = text ++ [].takeWhile (· ≠ separator) :=
    List.takeWhile_append_of_pos hall
  simpa [before] using htake

theorem before_of_cut_some {separator : Char} {text front back : List Char}
    (h : cut? separator text = some (front, back)) : before separator text = front := by
  obtain ⟨rfl, habsent⟩ := cut?_eq_some_iff.1 h
  rw [before, List.takeWhile_append_of_pos, List.takeWhile_cons_of_neg (by simp), List.append_nil]
  intro c hc
  simpa using fun he : c = separator => habsent (he ▸ hc)

/-- A JID is its bare part, followed by a slash and its resource if it has one. -/
theorem eq_of_noBareSlash {jid : String} (h : NoBareSlash jid) :
    jid = if resource jid = "" then bare jid else full (bare jid) (resource jid) := by
  cases hcut : cut? '/' jid.toList with
  | none =>
      have hresource : resource jid = "" := by simp [resource, resource?, hcut]
      rw [if_pos hresource, bare, before_of_cut_none hcut, String.ofList_toList]
  | some cut =>
      obtain ⟨front, back⟩ := cut
      cases back with
      | nil => exact absurd hcut (h front)
      | cons c rest =>
          have hresource : resource jid = String.ofList (c :: rest) := by
            simp [resource, resource?, hcut]
          have hne : String.ofList (c :: rest) ≠ "" := by
            intro he
            have hnil := congrArg String.toList he
            simp at hnil
          rw [hresource, if_neg hne, bare, before_of_cut_some hcut]
          apply String.toList_inj.1
          rw [(cut?_eq_some_iff.1 hcut).1]
          simp [full]

theorem eq_of_parts_eq {jid jid' : String} (h : NoBareSlash jid) (h' : NoBareSlash jid')
    (hbare : bare jid = bare jid') (hresource : resource jid = resource jid') : jid = jid' := by
  rw [eq_of_noBareSlash h, eq_of_noBareSlash h', hbare, hresource]

theorem cut?_bare (jid : String) : cut? '/' (bare jid).toList = none := by
  rw [bare, String.toList_ofList, cut?_eq_none_iff]
  intro hin
  simpa using List.mem_takeWhile_imp hin

/-- Some JID is cut into the same parts without ending with its first slash. -/
theorem exists_noBareSlash (jid : String) :
    ∃ whole, NoBareSlash whole ∧ bare whole = bare jid ∧ resource whole = resource jid := by
  by_cases ends : NoBareSlash jid
  · exact ⟨jid, ends, rfl, rfl⟩
  · obtain ⟨front, hcut⟩ : ∃ front, cut? '/' jid.toList = some (front, []) := by
      simpa [NoBareSlash] using ends
    refine ⟨bare jid, fun front' => ?_, bare_bare jid, ?_⟩
    · rw [cut?_bare]
      nofun
    · simp [resource, resource?, cut?_bare, hcut]

end Switchboard.RawJid
