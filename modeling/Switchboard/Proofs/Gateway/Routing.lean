import Switchboard.Gateway.Routing
import Switchboard.Proofs.Gateway.Selection
import Switchboard.Proofs.Maps

/-! # What a selection and a change of a record leave behind

A selected node is one of those that the directory lists for the platform, it is available,
and it is none of the excluded. Selecting takes a turn but writes nothing; keeping count of
failures writes the registered record back.
-/

namespace Switchboard.Gateway

variable {σ : Type} [Directory σ] {g : Gateway σ} {excluded : List String} {platform : String}

theorem mem_of_preferredNodes {node : Node} (h : node ∈ g.preferredNodes excluded platform) :
    node ∈ Directory.nodesForPlatform platform g.directory ∧
      node.isAvailable g.maxConsecutiveErrors ∧ node.hostname ∉ excluded :=
  Selection.mem_candidates.1 (Selection.mem_preferred h)

def turn (g : Gateway σ) (platform : String) : UInt64 :=
  (g.platformCursors.next platform).1

def advance (g : Gateway σ) (platform : String) : Gateway σ :=
  { g.noteLookup with
    platformCursors := g.platformCursors.insert platform (g.turn platform + 1) }

theorem turn_advance (g : Gateway σ) (platform name : String) :
    (g.advance platform).turn name =
      if platform = name then g.turn name + 1 else g.turn name := by
  change ((g.platformCursors.insert platform (g.turn platform + 1))[name]?).getD 0 = _
  rw [Maps.getElem?_insert]
  split
  · next same =>
      rw [same]
      rfl
  · rfl

/-- A selection is refused when no node counts, and else the ticket falls to one of them and the
turn is taken. -/
theorem selectExcluding_cases (g : Gateway σ) (excluded : List String) (platform : String) :
    (g.preferredNodes excluded platform = [] ∧
      g.selectExcluding excluded platform = (.error (.noNodeAvailable platform), g.noteLookup)) ∨
    ∃ node, Selection.winner? (g.preferredNodes excluded platform) (g.turn platform) = some node ∧
      g.selectExcluding excluded platform = (.ok node, g.advance platform) := by
  by_cases left : g.preferredNodes excluded platform = []
  · refine .inl ⟨left, ?_⟩
    rw [selectExcluding, left]
    rfl
  · obtain ⟨node, won⟩ := Option.isSome_iff_exists.1
      (Selection.winner?_isSome left (g.turn platform))
    refine .inr ⟨node, won, ?_⟩
    rw [selectExcluding]
    dsimp only
    rw [if_neg (mt List.isEmpty_iff.1 left)]
    have chosen : Selection.winner? (g.preferredNodes excluded platform)
        (g.noteLookup.platformCursors.next platform).1 = some node := won
    rw [chosen]
    rfl

theorem mem_preferredNodes_of_selectExcluding {node : Node}
    (chosen : (g.selectExcluding excluded platform).1 = .ok node) :
    node ∈ g.preferredNodes excluded platform := by
  rcases g.selectExcluding_cases excluded platform with ⟨-, refused⟩ | ⟨winner, won, selected⟩
  · rw [refused] at chosen
    cases chosen
  · rw [selected] at chosen
    cases chosen
    exact Selection.mem_of_winner? won

/-- A selected node is listed for the platform, available and not excluded. -/
theorem mem_of_selectExcluding {node : Node}
    (chosen : (g.selectExcluding excluded platform).1 = .ok node) :
    node ∈ Directory.nodesForPlatform platform g.directory ∧
      node.isAvailable g.maxConsecutiveErrors ∧ node.hostname ∉ excluded :=
  mem_of_preferredNodes (mem_preferredNodes_of_selectExcluding chosen)

/-- A selection is refused in one way, and only when no node is left. -/
theorem candidates_eq_nil_of_selectExcluding {e : GatewayError}
    (refused : (g.selectExcluding excluded platform).1 = .error e) :
    e = .noNodeAvailable platform ∧
      Selection.candidates g.maxConsecutiveErrors excluded
        (Directory.nodesForPlatform platform g.directory) = [] := by
  rcases g.selectExcluding_cases excluded platform with ⟨none, selected⟩ | ⟨node, -, selected⟩
  · rw [selected] at refused
    cases refused
    exact ⟨rfl, Selection.preferred_eq_nil_iff.1 none⟩
  · rw [selected] at refused
    cases refused

theorem priority_le_of_preferredNodes {node other : Node}
    (h : node ∈ g.preferredNodes excluded platform)
    (listed : other ∈ Directory.nodesForPlatform platform g.directory)
    (available : other.isAvailable g.maxConsecutiveErrors)
    (included : other.hostname ∉ excluded) : node.priority ≤ other.priority :=
  (Selection.mem_preferred_iff.1 h).2 other
    (Selection.mem_candidates.2 ⟨listed, available, included⟩)

theorem directory_selectExcluding (g : Gateway σ) (excluded : List String) (platform : String) :
    (g.selectExcluding excluded platform).2.directory = Directory.noteLookup g.directory := by
  rcases g.selectExcluding_cases excluded platform with ⟨-, selected⟩ | ⟨node, -, selected⟩ <;>
    rw [selected] <;> rfl

omit [Directory σ] in
structure SameSettings (before after : Gateway σ) : Prop where
  limit : after.maxConsecutiveErrors = before.maxConsecutiveErrors
  controls : after.controls = before.controls

omit [Directory σ] in
theorem SameSettings.trans {g' g'' : Gateway σ} (first : g.SameSettings g')
    (second : g'.SameSettings g'') : g.SameSettings g'' :=
  ⟨second.limit.trans first.limit, second.controls.trans first.controls⟩

theorem sameSettings_selectExcluding (g : Gateway σ) (excluded : List String)
    (platform : String) : g.SameSettings (g.selectExcluding excluded platform).2 := by
  rcases g.selectExcluding_cases excluded platform with ⟨-, selected⟩ | ⟨node, -, selected⟩ <;>
    rw [selected] <;> exact ⟨rfl, rfl⟩

/-- The registered record of a node, or the given one when there is none. -/
def registered (node : Node) (s : σ) : Node :=
  (Directory.getNode? node.hostname s).getD node

theorem recordFailure_eq (g : Gateway σ) (node : Node) :
    g.recordFailure node =
      g.noteLookup.command (Directory.updateNode (registered node g.directory).withFailure) := rfl

theorem directory_recordFailure (g : Gateway σ) (node : Node) :
    (g.recordFailure node).2.directory =
      (Directory.updateNode (registered node g.directory).withFailure
        (Directory.noteLookup g.directory)).2 := rfl

theorem recordSuccess_eq (g : Gateway σ) (node : Node) :
    g.recordSuccess node =
      if (registered node g.directory).consecutiveErrors = 0 then
        (.ok (registered node g.directory), g.noteLookup)
      else g.noteLookup.command
        (Directory.updateNode { registered node g.directory with consecutiveErrors := 0 }) := rfl

theorem sameSettings_recordSuccess (g : Gateway σ) (node : Node) :
    g.SameSettings (g.recordSuccess node).2 := by
  rw [recordSuccess_eq]
  split <;> exact ⟨rfl, rfl⟩

/-! ## Rounds of a dispatch -/

section Rounds

variable {α : Type} {attempt : Attempt σ α} {tried : List String} {g₁ : Gateway σ} {node : Node}
  {directory : σ}

theorem dispatchRounds_of_refused {e : GatewayError}
    (refused : g.selectExcluding tried platform = (.error e, g₁)) (rounds : Nat)
    (last : Option GatewayError) :
    dispatchRounds platform attempt (rounds + 1) tried last g =
      (⟨[], .error (last.getD e)⟩, g₁) := by
  rw [dispatchRounds, refused]

theorem dispatchRounds_of_success {value : α}
    (chosen : g.selectExcluding tried platform = (.ok node, g₁))
    (succeeded : attempt node g₁.directory = (.ok value, directory)) (rounds : Nat)
    (last : Option GatewayError) :
    dispatchRounds platform attempt (rounds + 1) tried last g =
      (⟨[node], .ok value⟩, ({ g₁ with directory }.recordSuccess node).2) := by
  rw [dispatchRounds, chosen]
  dsimp only
  rw [succeeded]

theorem dispatchRounds_of_failure {reason : String}
    (chosen : g.selectExcluding tried platform = (.ok node, g₁))
    (failed : attempt node g₁.directory = (.error reason, directory)) (rounds : Nat)
    (last : Option GatewayError) :
    dispatchRounds platform attempt (rounds + 1) tried last g =
      let next := dispatchRounds platform attempt rounds (node.hostname :: tried)
        (some (.nodeOperation node.hostname reason)) ({ g₁ with directory }.recordFailure node).2
      (⟨node :: next.1.attempts, next.1.result⟩, next.2) := by
  rw [dispatchRounds, chosen]
  dsimp only
  rw [failed]

end Rounds

end Switchboard.Gateway
