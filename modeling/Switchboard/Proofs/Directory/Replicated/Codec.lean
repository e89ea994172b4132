import Switchboard.Proofs.Directory.Replicated.Access
import Switchboard.Proofs.Text.Numeral

/-! # Records as rows

What the columns of a row say about the record that was written to it. Calls and
applications read back as they were. A node reads back with the platforms that its
joined list of names splits into, which are its own exactly when every name is plain.
-/

namespace Switchboard

open Switchboard.Columns

/-- A platform name that can stand in a joined list: not empty and without a comma. -/
def PlainName (platform : String) : Prop :=
  platform ≠ "" ∧ ',' ∉ platform.toList

def Node.HasPlainNames (node : Node) : Prop :=
  ∀ platform ∈ node.platforms, PlainName platform

namespace Replicated.Layout

/-! ## Joined names -/

theorem mem_splitPlatforms {text platform : String} :
    platform ∈ splitPlatforms text ↔
      platform ≠ "" ∧ platform.toList ∈ text.toList.splitOn ',' := by
  simp only [splitPlatforms, Std.ExtTreeSet.mem_ofList, List.contains_eq_mem, List.mem_map,
    List.mem_filter, decide_eq_true_eq]
  constructor
  · rintro ⟨piece, ⟨hpiece, hne⟩, rfl⟩
    rw [String.toList_ofList]
    refine ⟨fun he => ?_, hpiece⟩
    have hnil : piece = [] := by simpa using congrArg String.toList he
    simp [hnil] at hne
  · rintro ⟨hne, hpiece⟩
    refine ⟨platform.toList, ⟨hpiece, ?_⟩, String.ofList_toList⟩
    simpa using hne

theorem not_mem_of_mem_splitOn {separator : Char} {text piece : List Char}
    (h : piece ∈ text.splitOn separator) : separator ∉ piece := by
  induction text generalizing piece with
  | nil =>
      have hnil : piece = [] := by simpa using h
      simp [hnil]
  | cons c rest ih =>
      rw [List.splitOn_cons_eq_if_modifyHead] at h
      by_cases hc : c = separator
      · simp only [hc, BEq.rfl, if_true, List.mem_cons] at h
        rcases h with rfl | h
        · simp
        · exact ih h
      · rw [if_neg (by simpa using hc)] at h
        cases hsplit : rest.splitOn separator with
        | nil => exact absurd hsplit (List.splitOn_ne_nil separator rest)
        | cons first others =>
            rw [hsplit] at h ih
            simp only [List.modifyHead_cons, List.mem_cons] at h
            rcases h with rfl | h
            · simp [Ne.symm hc, ih List.mem_cons_self]
            · exact ih (List.mem_cons_of_mem first h)

/-- Names that are read from a text are plain, whatever the text. -/
theorem plainName_of_mem_splitPlatforms {text platform : String}
    (h : platform ∈ splitPlatforms text) : PlainName platform :=
  ⟨(mem_splitPlatforms.1 h).1, not_mem_of_mem_splitOn (mem_splitPlatforms.1 h).2⟩

theorem splitPlatforms_joinPlatforms {platforms : Std.ExtTreeSet String}
    (plain : ∀ platform ∈ platforms, PlainName platform) :
    splitPlatforms (joinPlatforms platforms) = platforms := by
  apply Std.ExtTreeSet.ext_mem
  intro platform
  rw [mem_splitPlatforms, joinPlatforms, String.toList_intercalate]
  by_cases hempty : platforms.toList = []
  · have hnone : platform ∉ platforms := by
      rw [← Std.ExtTreeSet.mem_toList, hempty]
      simp
    simp only [hempty, hnone, iff_false, not_and]
    intro hne hmem
    exact hne (by simpa using hmem)
  · have hpieces : ∀ piece ∈ platforms.toList.map String.toList, ',' ∉ piece := by
      intro piece hpiece
      rw [List.mem_map] at hpiece
      obtain ⟨name, hname, rfl⟩ := hpiece
      exact (plain name (Std.ExtTreeSet.mem_toList.1 hname)).2
    have hcomma : (",":String).toList = [','] := rfl
    rw [hcomma, List.splitOn_intercalate ',' hpieces (by simpa using hempty), List.mem_map]
    constructor
    · rintro ⟨_, name, hname, he⟩
      rw [← String.toList_inj.1 he]
      exact Std.ExtTreeSet.mem_toList.1 hname
    · intro hmem
      exact ⟨(plain platform hmem).1, platform, Std.ExtTreeSet.mem_toList.2 hmem, rfl⟩

theorem mem_splitOn_intercalate {separator : Char} {pieces : List (List Char)}
    {piece : List Char} (h : piece ∈ pieces) (plain : separator ∉ piece) :
    piece ∈ ([separator].intercalate pieces).splitOn separator := by
  induction pieces with
  | nil => cases h
  | cons first rest ih =>
      cases rest with
      | nil =>
          rw [List.mem_singleton] at h
          subst h
          rw [List.intercalate_singleton, List.splitOn_eq_singleton plain]
          exact List.mem_cons_self
      | cons second others =>
          rw [List.intercalate_cons_cons, List.append_assoc, List.singleton_append,
            List.splitOn_append_cons_self, List.mem_append]
          rcases List.mem_cons.1 h with he | hin
          · rw [← he, List.splitOn_eq_singleton plain]
            exact Or.inl List.mem_cons_self
          · exact Or.inr (ih hin)

/-- A plain name survives among whatever other names. -/
theorem mem_splitPlatforms_of_plain {platforms : Std.ExtTreeSet String} {platform : String}
    (h : platform ∈ platforms) (plain : PlainName platform) :
    platform ∈ splitPlatforms (joinPlatforms platforms) := by
  rw [mem_splitPlatforms, joinPlatforms, String.toList_intercalate]
  have hcomma : (",":String).toList = [','] := rfl
  have hin : platform.toList ∈ platforms.toList.map String.toList :=
    List.mem_map_of_mem (Std.ExtTreeSet.mem_toList.2 h)
  rw [hcomma]
  exact ⟨plain.1, mem_splitOn_intercalate hin plain.2⟩

/-! ## Rows -/

/-- The cells of a row after a node is written to it. -/
def writeNode (cells : Cells) (node : Node) : Cells :=
  ((((((cells.insert "ip" node.ipAddress).insert "priority"
    (Text.Numeral.ofInt node.priority.toInt)).insert "weight"
    (Text.Numeral.ofInt node.weight.toInt)).insert "consecutive-errors"
    (Text.Numeral.ofNat node.consecutiveErrors.toNat)).insert "blacklisted"
    (toString node.blacklisted)).insert "platforms" (joinPlatforms node.platforms))

def nodeCells (node : Node) : Cells := writeNode ∅ node

/-- A node that is written over another leaves nothing of it. -/
theorem writeNode_nodeCells (old new : Node) : writeNode (nodeCells old) new = nodeCells new := by
  apply Std.ExtTreeMap.ext_getElem?
  intro name
  simp only [nodeCells, writeNode, Maps.getElem?_insert]
  grind

/-- The node that is read back from the row of a node. -/
def readBack (node : Node) : Node :=
  { node with platforms := splitPlatforms (joinPlatforms node.platforms) }

/-- A node is read back as it was exactly when its platforms have plain names. -/
theorem readBack_eq_self_iff {node : Node} : readBack node = node ↔ node.HasPlainNames := by
  constructor
  · intro h platform hmem
    have hp : splitPlatforms (joinPlatforms node.platforms) = node.platforms :=
      congrArg Node.platforms h
    rw [← hp] at hmem
    exact plainName_of_mem_splitPlatforms hmem
  · intro plain
    rw [readBack, splitPlatforms_joinPlatforms plain]

theorem plainName_of_mem_readBack {node : Node} {platform : String}
    (h : platform ∈ (readBack node).platforms) : PlainName platform :=
  plainName_of_mem_splitPlatforms h

theorem mem_readBack_of_plain {node : Node} {platform : String} (h : platform ∈ node.platforms)
    (plain : PlainName platform) : platform ∈ (readBack node).platforms :=
  mem_splitPlatforms_of_plain h plain

theorem nodeCells_ne_empty (node : Node) : nodeCells node ≠ ∅ :=
  Std.ExtTreeMap.insert_ne_empty

theorem isEmpty_columns_of_ne_empty {cells : Cells} (h : cells ≠ ∅) :
    cells.columns.isEmpty = false := by
  rw [Cells.isEmpty_columns, Std.ExtTreeMap.isEmpty_eq_false_iff]
  exact h

theorem node?_empty (hostname : String) : node? hostname (Cells.columns ∅) = none := by
  simp [node?, Cells.columns]

theorem node?_nodeCells (node : Node) :
    node? node.hostname (nodeCells node).columns = some (readBack node) := by
  rw [node?, isEmpty_columns_of_ne_empty (nodeCells_ne_empty node)]
  have hb : (some (toString node.blacklisted) == some "true") = node.blacklisted := by
    cases node.blacklisted <;> rfl
  simp only [column?_columns, nodeCells, writeNode, Maps.getElem?_insert,
    String.reduceEq, if_true, if_false,
    Bool.false_eq_true, Option.getD_some, Option.bind_some, Text.Numeral.int32?_ofInt,
    Text.Numeral.uint32?_ofNat, hb, readBack]

def callCells (call : Call) : Cells :=
  ((∅ : Cells).insert "jid" call.client).insert "node" call.node

theorem callCells_ne_empty (call : Call) : callCells call ≠ ∅ :=
  Std.ExtTreeMap.insert_ne_empty

theorem call?_empty (id : String) : call? id (Cells.columns ∅) = none := by
  simp [call?, Cells.columns]

theorem call?_callCells (call : Call) :
    call? call.id (callCells call).columns = some call := by
  rw [call?, isEmpty_columns_of_ne_empty (callCells_ne_empty call)]
  simp only [column?_columns, callCells, Maps.getElem?_insert, String.reduceEq, if_true, if_false,
    Bool.false_eq_true, Option.getD_some]

def applicationCells (app : Application) : Cells :=
  (((((∅ : Cells).insert "appId" app.id).insert "platformId" app.platform).insert "name"
    app.name).insert "accountId" app.account).insert "permissions" app.permissions

theorem applicationCells_ne_empty (app : Application) : applicationCells app ≠ ∅ :=
  Std.ExtTreeMap.insert_ne_empty

theorem application?_empty (jid : String) : application? jid (Cells.columns ∅) = none := by
  simp [application?, Cells.columns]

theorem application?_applicationCells (app : Application) :
    application? app.bareJid (applicationCells app).columns = some app := by
  rw [application?, isEmpty_columns_of_ne_empty (applicationCells_ne_empty app)]
  simp only [column?_columns, applicationCells, Maps.getElem?_insert, String.reduceEq, if_true,
    if_false, Bool.false_eq_true, Option.getD_some]

end Replicated.Layout

end Switchboard
