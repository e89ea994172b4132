import Switchboard.Proofs.Jid.Parse

/-! # The grammar of JIDs

A JID is written as a domain, with a node and an at-sign in front of it or not, and with a slash
and a resource behind it or not. Nothing of this may be empty, and neither node nor domain holds
a separator. A text follows the grammar when it is the text of such a JID, and parsing accepts
just these texts, with or without blanks around them. Any other text has faults, and parsing
names the first of them.
-/

namespace Switchboard

open Switchboard.Text

/-- Where a fault stands in the order in which faults are looked for. -/
@[simp] def JidError.place : JidError → Nat
  | .empty => 0
  | .emptyResource _ => 1
  | .emptyNode _ => 2
  | .emptyDomain _ => 3
  | .extraNodeSeparator _ => 4

namespace Jid

/-! ## Texts -/

/-- What stands in the text in front of its first slash, or the whole text without one. -/
def Front (front text : String) : Prop :=
  '/' ∉ front.toList ∧ (text = front ∨ ∃ back, text = front ++ "/" ++ back)

def IsDomain (text : String) : Prop :=
  text ≠ "" ∧ '@' ∉ text.toList

def IsBarePart (text : String) : Prop :=
  IsDomain text ∨ ∃ node domain, text = node ++ "@" ++ domain ∧
    node ≠ "" ∧ '@' ∉ node.toList ∧ IsDomain domain

structure Grammatical (text : String) : Prop where
  nonempty : text ≠ ""
  resource : ∀ front back, '/' ∉ front.toList → text = front ++ "/" ++ back → back ≠ ""
  bare : ∃ front, Front front text ∧ IsBarePart front

/-- The text has the fault; all but the empty text are named with their fault. -/
def HasFault (text : String) : JidError → Prop
  | .empty => text = ""
  | .emptyResource whole => whole = text ∧ ∃ front, '/' ∉ front.toList ∧ text = front ++ "/"
  | .emptyNode whole => whole = text ∧ ∃ back, Front ("@" ++ back) text
  | .emptyDomain whole => whole = text ∧
      (Front "" text ∨ ∃ node, '@' ∉ node.toList ∧ Front (node ++ "@") text)
  | .extraNodeSeparator whole => whole = text ∧ ∃ node back,
      '@' ∉ node.toList ∧ '@' ∈ back.toList ∧ Front (node ++ "@" ++ back) text

/-- The text has the fault and none that is looked for before it. -/
def FirstFault (text : String) (e : JidError) : Prop :=
  HasFault text e ∧ ∀ earlier : JidError, earlier.place < e.place → ¬ HasFault text earlier

/-! ## JIDs -/

structure WellFormed (jid : Jid) : Prop where
  node : ∀ node, jid.node = some node → node ≠ "" ∧ '@' ∉ node.toList ∧ '/' ∉ node.toList
  domain : jid.domain ≠ "" ∧ '@' ∉ jid.domain.toList ∧ '/' ∉ jid.domain.toList
  resource : ∀ resource, jid.resource = some resource → resource ≠ ""

/-- The JID is what the text writes, as a whole and in each part that can be cut from it. -/
structure Reads (text : String) (jid : Jid) : Prop where
  rendered : jid.render = text
  parsed : parse jid.render = .ok jid
  bare : jid.toBare.render = RawJid.bare text
  resource : jid.resource = RawJid.resource? text
  domain : jid.domain = RawJid.domain text
  node : jid.node = RawJid.node? text

variable {text whole : String} {jid : Jid} {e : JidError}

theorem cut_bare (wellFormed : jid.WellFormed) :
    cut? '@' jid.toBare.render.toList =
      jid.node.map fun node => (node.toList, jid.domain.toList) := by
  obtain ⟨node, domain, resource⟩ := jid
  cases node with
  | none =>
      refine cut?_eq_none_iff.2 ?_
      simpa [toBare, render] using wellFormed.domain.2.1
  | some node =>
      refine cut?_eq_some_iff.2 ⟨?_, (wellFormed.node node rfl).2.1⟩
      simp [toBare, render]

theorem slash_not_mem_bare (wellFormed : jid.WellFormed) : '/' ∉ jid.toBare.render.toList := by
  obtain ⟨node, domain, resource⟩ := jid
  have domain := wellFormed.domain.2.2
  cases node with
  | none => simpa [toBare, render] using domain
  | some node => simpa [toBare, render] using ⟨(wellFormed.node node rfl).2.2, domain⟩

theorem cut_render (wellFormed : jid.WellFormed) :
    cut? '/' jid.render.toList =
      jid.resource.map fun resource => (jid.toBare.render.toList, resource.toList) := by
  have absent := slash_not_mem_bare wellFormed
  rw [render_eq]
  cases jid.resource with
  | none => simpa using cut?_eq_none_iff.2 absent
  | some resource => exact cut?_eq_some_iff.2 ⟨by simp, absent⟩

theorem before_render (wellFormed : jid.WellFormed) :
    before '/' jid.render.toList = jid.toBare.render.toList := by
  have cut := cut_render wellFormed
  cases known : jid.resource with
  | none =>
      rw [known] at cut
      rw [RawJid.before_of_cut_none cut, render_eq, known]
      simp
  | some resource =>
      rw [known] at cut
      exact RawJid.before_of_cut_some cut

theorem render_ne_empty (wellFormed : jid.WellFormed) : jid.render ≠ "" := by
  intro h
  have empty := congrArg String.toList h
  obtain ⟨node, domain, resource⟩ := jid
  simp [render] at empty
  exact wellFormed.domain.1 empty.2.1

theorem WellFormed.toBare (wellFormed : jid.WellFormed) : jid.toBare.WellFormed where
  node := wellFormed.node
  domain := wellFormed.domain
  resource := nofun

theorem parseBare_of_wellFormed (wellFormed : jid.WellFormed) (whole : String)
    (resource : Option String) :
    parseBare whole jid.toBare.render.toList resource = .ok { jid with resource } := by
  have cut := cut_bare wellFormed
  obtain ⟨node, domain, old⟩ := jid
  have checked : checkDomain whole node domain.toList resource = .ok ⟨node, domain, resource⟩ := by
    have shown : domain.toList ≠ [] := by simpa using wellFormed.domain.1
    rw [checkDomain, if_neg shown, if_neg wellFormed.domain.2.1, String.ofList_toList]
  rw [parseBare, cut]
  cases node with
  | none => simpa [toBare, render] using checked
  | some node =>
      have shown : node.toList ≠ [] := by simpa using (wellFormed.node node rfl).1
      dsimp only [Option.map_some]
      split
      · next empty => exact absurd (congrArg Prod.fst (Option.some.inj empty)) shown
      · next cut =>
          obtain ⟨rfl, rfl⟩ := Prod.mk.inj (Option.some.inj cut)
          rwa [String.ofList_toList]
      · next cut => cases cut

/-- The text of a well-formed JID is parsed to that JID, whatever blanks are around it. -/
theorem parse_of_wellFormed (wellFormed : jid.WellFormed) (h : jid.render = trim text) :
    parse text = .ok jid := by
  have trimmed : trimChars text.toList = jid.render.toList := by rw [← toList_trim, h]
  have shown : jid.render.toList ≠ [] := by simpa using render_ne_empty wellFormed
  have read : parseBare (String.ofList jid.render.toList) jid.toBare.render.toList jid.resource =
      .ok jid := parseBare_of_wellFormed wellFormed _ jid.resource
  rw [parse, trimmed, if_neg shown, cut_render wellFormed]
  cases known : jid.resource with
  | none =>
      have whole : jid.render.toList = jid.toBare.render.toList := by
        rw [render_eq, known]
        simp
      rw [known] at read
      rw [whole] at read ⊢
      exact read
  | some resource =>
      have held : resource.toList ≠ [] := by simpa using wellFormed.resource resource known
      rw [known] at read
      dsimp only [Option.map_some]
      split
      · next empty => exact absurd (congrArg Prod.snd (Option.some.inj empty)) held
      · next cut =>
          obtain ⟨rfl, rfl⟩ := Prod.mk.inj (Option.some.inj cut)
          have whole : String.ofList resource.toList = resource := String.ofList_toList
          rw [whole]
          exact read
      · next cut => cases cut

/-! ## What is accepted -/

theorem wellFormed_of_checkDomain {node resource : Option String} {domain : List Char}
    (h : checkDomain whole node domain resource = .ok jid) : domain ≠ [] ∧ '@' ∉ domain := by
  unfold checkDomain at h
  split at h
  · cases h
  · split at h
    · cases h
    · next shown single => exact ⟨shown, single⟩

theorem wellFormed_of_parseBare {resource : Option String} {bare : List Char}
    (h : parseBare whole bare resource = .ok jid) (noSlash : '/' ∉ bare)
    (held : ∀ text, resource = some text → text ≠ "") : jid.WellFormed := by
  unfold parseBare at h
  split at h
  · cases h
  · next front domain shown cut =>
      obtain ⟨nonempty, single⟩ := wellFormed_of_checkDomain h
      obtain rfl := eq_of_checkDomain h
      obtain ⟨rfl, absent⟩ := cut?_eq_some_iff.1 cut
      simp only [List.mem_append, List.mem_cons, not_or] at noSlash
      refine ⟨?_, by simpa using ⟨nonempty, single, noSlash.2.2⟩, held⟩
      rintro node ⟨rfl⟩
      refine ⟨fun empty => ?_, by simpa using absent, by simpa using noSlash.1⟩
      exact shown (by simpa using congrArg String.toList empty)
  · obtain ⟨nonempty, single⟩ := wellFormed_of_checkDomain h
    obtain rfl := eq_of_checkDomain h
    exact ⟨nofun, by simpa using ⟨nonempty, single, noSlash⟩, held⟩

theorem wellFormed_of_parse (h : parse text = .ok jid) : jid.WellFormed := by
  unfold parse at h
  dsimp only at h
  split at h
  · cases h
  · split at h
    · cases h
    · next bare resource shown cut =>
        refine wellFormed_of_parseBare h (cut?_eq_some_iff.1 cut).2 ?_
        rintro _ ⟨rfl⟩ empty
        exact shown (by simpa using congrArg String.toList empty)
    · next cut => exact wellFormed_of_parseBare h (cut?_eq_none_iff.1 cut) nofun

theorem parse_eq_ok_iff : parse text = .ok jid ↔ jid.WellFormed ∧ jid.render = trim text :=
  ⟨fun h => ⟨wellFormed_of_parse h, render_of_parse h⟩, fun h => parse_of_wellFormed h.1 h.2⟩

/-! ## What is refused -/

theorem front_iff {front : String} : Front front text ↔ before '/' text.toList = front.toList := by
  constructor
  · rintro ⟨absent, rfl | ⟨back, rfl⟩⟩
    · exact RawJid.before_of_cut_none (cut?_eq_none_iff.2 absent)
    · have cut : cut? '/' (front ++ "/" ++ back).toList = some (front.toList, back.toList) :=
        cut?_eq_some_iff.2 ⟨by simp, absent⟩
      exact RawJid.before_of_cut_some cut
  · intro h
    cases cut : cut? '/' text.toList with
    | none =>
        rw [RawJid.before_of_cut_none cut] at h
        obtain rfl := String.toList_inj.1 h
        exact ⟨cut?_eq_none_iff.1 cut, .inl rfl⟩
    | some parts =>
        obtain ⟨front', back⟩ := parts
        rw [RawJid.before_of_cut_some cut] at h
        obtain ⟨whole, absent⟩ := cut?_eq_some_iff.1 cut
        rw [h] at whole absent
        refine ⟨absent, .inr ⟨String.ofList back, String.toList_inj.1 ?_⟩⟩
        rw [whole]
        simp

/-- The first at-sign in front of the first slash has `node` before it and `back` behind it. -/
theorem front_node_iff {node back : String} :
    '@' ∉ node.toList ∧ Front (node ++ "@" ++ back) text ↔
      cut? '@' (before '/' text.toList) = some (node.toList, back.toList) := by
  rw [front_iff, cut?_eq_some_iff, and_comm]
  simp

theorem exists_toList {p : List Char → Prop} : (∃ text : String, p text.toList) ↔ ∃ cs, p cs :=
  ⟨fun ⟨text, h⟩ => ⟨text.toList, h⟩,
    fun ⟨cs, h⟩ => ⟨String.ofList cs, by rwa [String.toList_ofList]⟩⟩

theorem hasFault_empty_iff : HasFault text .empty ↔ text.toList = [] :=
  String.toList_eq_nil_iff.symm

theorem hasFault_emptyResource_iff : HasFault text (.emptyResource whole) ↔
    whole = text ∧ ∃ front, cut? '/' text.toList = some (front, []) := by
  rw [HasFault, ← exists_toList]
  refine and_congr_right fun _ => exists_congr fun front => ?_
  rw [cut?_eq_some_iff, and_comm, ← String.toList_inj]
  simp

theorem hasFault_emptyNode_iff : HasFault text (.emptyNode whole) ↔
    whole = text ∧ ∃ back, cut? '@' (before '/' text.toList) = some ([], back) := by
  rw [HasFault, ← exists_toList]
  refine and_congr_right fun _ => exists_congr fun back => ?_
  rw [← String.toList_empty, ← front_node_iff, String.empty_append]
  simp

theorem hasFault_emptyDomain_iff : HasFault text (.emptyDomain whole) ↔
    whole = text ∧ (before '/' text.toList = [] ∨
      ∃ node, cut? '@' (before '/' text.toList) = some (node, [])) := by
  rw [HasFault, front_iff, ← exists_toList]
  refine and_congr_right fun _ => or_congr (by simp) (exists_congr fun node => ?_)
  rw [← String.toList_empty, ← front_node_iff, String.append_empty]

theorem hasFault_extraNodeSeparator_iff : HasFault text (.extraNodeSeparator whole) ↔
    whole = text ∧ ∃ node back, cut? '@' (before '/' text.toList) = some (node, back) ∧
      '@' ∈ back := by
  rw [HasFault, ← exists_toList]
  refine and_congr_right fun _ => exists_congr fun node => ?_
  rw [← exists_toList]
  refine exists_congr fun back => ?_
  rw [← front_node_iff, and_assoc, and_comm (b := Front _ _)]

theorem HasFault.eq_of_place {e' : JidError} (h : HasFault text e) (h' : HasFault text e')
    (same : e.place = e'.place) : e = e' := by
  cases e <;> cases e' <;> simp_all [HasFault]

theorem FirstFault.unique {e' : JidError} (h : FirstFault text e) (h' : FirstFault text e') :
    e = e' := by
  have notAfter : e.place ≤ e'.place := not_lt.1 fun lt => h.2 e' lt h'.1
  have notBefore : e'.place ≤ e.place := not_lt.1 fun lt => h'.2 e lt h.1
  exact h.1.eq_of_place h'.1 (le_antisymm notAfter notBefore)

/-- Checks that are passed leave no fault in front of this one. -/
theorem firstFault_of_hasFault (fault : HasFault text e)
    (empty : 0 < e.place → text.toList ≠ [])
    (resource : 1 < e.place → ∀ front, cut? '/' text.toList ≠ some (front, []))
    (node : 2 < e.place → ∀ back, cut? '@' (before '/' text.toList) ≠ some ([], back))
    (domain : 3 < e.place → before '/' text.toList ≠ [] ∧
      ∀ node, cut? '@' (before '/' text.toList) ≠ some (node, [])) : FirstFault text e := by
  refine ⟨fault, fun earlier lt had => ?_⟩
  cases earlier with
  | empty => exact empty lt (hasFault_empty_iff.1 had)
  | emptyResource =>
      obtain ⟨-, front, cut⟩ := hasFault_emptyResource_iff.1 had
      exact resource lt front cut
  | emptyNode =>
      obtain ⟨-, back, cut⟩ := hasFault_emptyNode_iff.1 had
      exact node lt back cut
  | emptyDomain =>
      obtain ⟨-, nothing | ⟨front, cut⟩⟩ := hasFault_emptyDomain_iff.1 had
      · exact (domain lt).1 nothing
      · exact (domain lt).2 front cut
  | extraNodeSeparator => cases e <;> simp at lt

theorem cases_of_checkDomain_error {node resource : Option String} {domain : List Char}
    (h : checkDomain whole node domain resource = .error e) :
    domain = [] ∧ e = .emptyDomain whole ∨
      domain ≠ [] ∧ '@' ∈ domain ∧ e = .extraNodeSeparator whole := by
  unfold checkDomain at h
  split at h
  · next empty => exact .inl ⟨empty, (Except.error.inj h).symm⟩
  · next shown =>
      split at h
      · next extra => exact .inr ⟨shown, extra, (Except.error.inj h).symm⟩
      · cases h

theorem firstFault_of_parseBare {resource : Option String}
    (h : parseBare text (before '/' text.toList) resource = .error e) (shown : text.toList ≠ [])
    (held : ∀ front, cut? '/' text.toList ≠ some (front, [])) : FirstFault text e := by
  unfold parseBare at h
  split at h
  · next back cut =>
      cases h
      exact firstFault_of_hasFault (hasFault_emptyNode_iff.2 ⟨rfl, back, cut⟩) (fun _ => shown)
        (fun _ => held) (by simp) (by simp)
  · next front domain named cut =>
      have noNode (back : List Char) : cut? '@' (before '/' text.toList) ≠ some ([], back) := by
        rw [cut]
        exact fun same => named (congrArg Prod.fst (Option.some.inj same))
      rcases cases_of_checkDomain_error h with ⟨rfl, rfl⟩ | ⟨nonempty, extra, rfl⟩
      · exact firstFault_of_hasFault (hasFault_emptyDomain_iff.2 ⟨rfl, .inr ⟨front, cut⟩⟩)
          (fun _ => shown) (fun _ => held) (fun _ => noNode) (by simp)
      · refine firstFault_of_hasFault
          (hasFault_extraNodeSeparator_iff.2 ⟨rfl, front, domain, cut, extra⟩)
          (fun _ => shown) (fun _ => held) (fun _ => noNode) fun _ => ⟨fun nothing => ?_, ?_⟩
        · rw [nothing] at cut
          cases cut
        · intro node same
          rw [cut] at same
          exact nonempty (congrArg Prod.snd (Option.some.inj same))
  · next cut =>
      rcases cases_of_checkDomain_error h with ⟨nothing, rfl⟩ | ⟨-, extra, -⟩
      · refine firstFault_of_hasFault (hasFault_emptyDomain_iff.2 ⟨rfl, .inl nothing⟩)
          (fun _ => shown) (fun _ => held) (fun _ back same => ?_) (by simp)
        rw [cut] at same
        cases same
      · exact absurd extra (cut?_eq_none_iff.1 cut)

theorem firstFault_of_parse (h : parse text = .error e) : FirstFault (trim text) e := by
  unfold parse at h
  dsimp only at h
  rw [← toList_trim, String.ofList_toList] at h
  split at h
  · next nothing =>
      cases h
      exact firstFault_of_hasFault (hasFault_empty_iff.2 nothing) (by simp) (by simp) (by simp)
        (by simp)
  · next shown =>
      split at h
      · next front cut =>
          cases h
          exact firstFault_of_hasFault (hasFault_emptyResource_iff.2 ⟨rfl, front, cut⟩)
            (fun _ => shown) (by simp) (by simp) (by simp)
      · next front back named cut =>
          rw [← RawJid.before_of_cut_some cut] at h
          refine firstFault_of_parseBare h shown fun front' same => ?_
          rw [cut] at same
          exact named (congrArg Prod.snd (Option.some.inj same))
      · next cut =>
          have front := RawJid.before_of_cut_none cut
          refine firstFault_of_parseBare (front.symm ▸ h) shown fun front' same => ?_
          rw [cut] at same
          cases same

theorem not_hasFault_of_wellFormed (wellFormed : jid.WellFormed) (e : JidError) :
    ¬ HasFault jid.render e := by
  intro fault
  have cut := cut_bare wellFormed
  rw [← before_render wellFormed] at cut
  cases e with
  | empty => exact render_ne_empty wellFormed fault
  | emptyResource =>
      obtain ⟨-, front, held⟩ := hasFault_emptyResource_iff.1 fault
      rw [cut_render wellFormed, Option.map_eq_some_iff] at held
      obtain ⟨resource, known, parts⟩ := held
      exact wellFormed.resource resource known (String.toList_eq_nil_iff.1 (Prod.mk.inj parts).2)
  | emptyNode =>
      obtain ⟨-, back, named⟩ := hasFault_emptyNode_iff.1 fault
      rw [cut, Option.map_eq_some_iff] at named
      obtain ⟨node, known, parts⟩ := named
      exact (wellFormed.node node known).1 (String.toList_eq_nil_iff.1 (Prod.mk.inj parts).1)
  | emptyDomain =>
      obtain ⟨-, nothing | ⟨front, named⟩⟩ := hasFault_emptyDomain_iff.1 fault
      · rw [before_render wellFormed, String.toList_eq_nil_iff] at nothing
        exact render_ne_empty (wellFormed.toBare) nothing
      · rw [cut, Option.map_eq_some_iff] at named
        obtain ⟨node, -, parts⟩ := named
        exact wellFormed.domain.1 (String.toList_eq_nil_iff.1 (Prod.mk.inj parts).2)
  | extraNodeSeparator =>
      obtain ⟨-, front, back, named, extra⟩ := hasFault_extraNodeSeparator_iff.1 fault
      rw [cut, Option.map_eq_some_iff] at named
      obtain ⟨node, -, parts⟩ := named
      rw [← (Prod.mk.inj parts).2] at extra
      exact wellFormed.domain.2.1 extra

/-- What is refused is refused for its first fault. -/
theorem parse_eq_error_iff : parse text = .error e ↔ FirstFault (trim text) e := by
  refine ⟨firstFault_of_parse, fun first => ?_⟩
  cases parsed : parse text with
  | ok jid =>
      obtain ⟨wellFormed, rendered⟩ := parse_eq_ok_iff.1 parsed
      exact absurd (rendered ▸ first.1) (not_hasFault_of_wellFormed wellFormed e)
  | error e' => rw [first.unique (firstFault_of_parse parsed)]

/-! ## The grammar -/

theorem exists_wellFormed_of_isBarePart {front : String} (noSlash : '/' ∉ front.toList)
    (h : IsBarePart front) : ∃ jid : Jid, jid.WellFormed ∧ jid.resource = none ∧
      jid.render = front := by
  rcases h with ⟨nonempty, single⟩ | ⟨node, domain, rfl, named, first, nonempty, single⟩
  · refine ⟨⟨none, front, none⟩, ⟨?_, ⟨nonempty, single, noSlash⟩, ?_⟩, rfl, ?_⟩
    · intro node known
      cases known
    · intro resource known
      cases known
    · simp [render]
  · simp only [String.toList_append, List.mem_append, not_or] at noSlash
    obtain ⟨⟨inNode, -⟩, inDomain⟩ := noSlash
    refine ⟨⟨some node, domain, none⟩, ⟨?_, ⟨nonempty, single, inDomain⟩, ?_⟩, rfl, ?_⟩
    · rintro _ ⟨rfl⟩
      exact ⟨named, first, inNode⟩
    · intro resource known
      cases known
    · simp [render]

theorem WellFormed.withResource (wellFormed : jid.WellFormed) {resource : String}
    (held : resource ≠ "") : (jid.withResource resource).WellFormed where
  node := wellFormed.node
  domain := wellFormed.domain
  resource := by
    rintro _ ⟨rfl⟩
    exact held

theorem render_withResource (jid : Jid) (resource : String) :
    (jid.withResource resource).render = jid.toBare.render ++ "/" ++ resource := by
  rw [render_eq, String.append_assoc]
  rfl

theorem isBarePart_of_wellFormed (wellFormed : jid.WellFormed) :
    IsBarePart jid.toBare.render := by
  obtain ⟨node, domain, resource⟩ := jid
  have isDomain : IsDomain domain := ⟨wellFormed.domain.1, wellFormed.domain.2.1⟩
  cases node with
  | none => exact .inl (by simpa [toBare, render] using isDomain)
  | some node =>
      obtain ⟨named, first, -⟩ := wellFormed.node node rfl
      exact .inr ⟨node, domain, by simp [toBare, render], named, first, isDomain⟩

/-- The grammar describes the texts of well-formed JIDs. -/
theorem grammatical_iff : Grammatical text ↔ ∃ jid : Jid, jid.WellFormed ∧ jid.render = text := by
  constructor
  · rintro ⟨-, held, front, ⟨noSlash, rest⟩, bare⟩
    obtain ⟨jid, wellFormed, without, rendered⟩ := exists_wellFormed_of_isBarePart noSlash bare
    rcases rest with rfl | ⟨back, rfl⟩
    · exact ⟨jid, wellFormed, rendered⟩
    · have same : jid.toBare = jid := by rw [toBare, ← without]
      refine ⟨jid.withResource back, wellFormed.withResource (held front back noSlash rfl), ?_⟩
      rw [render_withResource, same, rendered]
  · rintro ⟨jid, wellFormed, rfl⟩
    refine ⟨render_ne_empty wellFormed, ?_, jid.toBare.render,
      front_iff.2 (before_render wellFormed), isBarePart_of_wellFormed wellFormed⟩
    rintro front back noSlash cut rfl
    have fault : HasFault jid.render (.emptyResource jid.render) :=
      ⟨rfl, front, noSlash, by rw [cut, String.append_empty]⟩
    exact not_hasFault_of_wellFormed wellFormed _ fault

/-! ## The parts of an accepted text -/

theorem resource?_render (wellFormed : jid.WellFormed) :
    RawJid.resource? jid.render = jid.resource := by
  rw [RawJid.resource?, cut_render wellFormed]
  cases known : jid.resource with
  | none => rfl
  | some resource =>
      have held : resource.toList ≠ [] := by simpa using wellFormed.resource resource known
      have whole : String.ofList resource.toList = resource := String.ofList_toList
      dsimp only [Option.map_some]
      split
      · next cut => cases cut
      · next empty => exact absurd (congrArg Prod.snd (Option.some.inj empty)) held
      · next cut =>
          obtain ⟨rfl, rfl⟩ := Prod.mk.inj (Option.some.inj cut)
          rw [whole]

theorem domain_render (wellFormed : jid.WellFormed) : RawJid.domain jid.render = jid.domain := by
  rw [RawJid.domain, before_render wellFormed, cut_bare wellFormed]
  obtain ⟨node, domain, resource⟩ := jid
  cases node with
  | none => simp [toBare, render]
  | some node => simp

theorem node?_render (wellFormed : jid.WellFormed) : RawJid.node? jid.render = jid.node := by
  rw [RawJid.node?, before_render wellFormed, cut_bare wellFormed]
  cases jid.node <;> simp

theorem reads_of_parse (parsed : parse text = .ok jid) : Reads (trim text) jid := by
  have rendered := render_of_parse parsed
  have wellFormed := wellFormed_of_parse parsed
  constructor
  case rendered => exact rendered
  case parsed => exact parse_of_wellFormed wellFormed (by rw [rendered, trim_trim])
  case bare => rw [← rendered, RawJid.bare, before_render wellFormed, String.ofList_toList]
  case resource => rw [← rendered, resource?_render wellFormed]
  case domain => rw [← rendered, domain_render wellFormed]
  case node => rw [← rendered, node?_render wellFormed]

/-- Without the blanks around it a text is parsed exactly when it follows the grammar. The JID then
is what it writes, as a whole and in each part that can be cut from it. A text that is refused has
a fault, and of its faults the first is named. -/
theorem parse_follows_grammar (text : String) :
    Strips text (trim text) ∧
      ((∃ jid, parse text = .ok jid) ↔ Grammatical (trim text)) ∧
      (∀ jid, parse text = .ok jid → Reads (trim text) jid) ∧
      ∀ e, parse text = .error e ↔ FirstFault (trim text) e := by
  refine ⟨strips_trim text, ?_, fun _ => reads_of_parse, fun _ => parse_eq_error_iff⟩
  rw [grammatical_iff]
  exact exists_congr fun jid => parse_eq_ok_iff

end Jid

end Switchboard
