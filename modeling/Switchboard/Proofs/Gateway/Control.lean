import Switchboard.Gateway.Control

/-! # How a change of the blacklist flag ends

The node cannot be looked up, the platform has no such node, or its record is written with the
new flag; when that is refused, the refusal is counted.
-/

namespace Switchboard.Gateway

variable {σ : Type} [Directory σ] {g g₁ : Gateway σ} {platform hostname : String}
  {blacklisted : Bool}

omit [Directory σ] in
/-- A command of the gateway that is answered is one of the directory that is. -/
theorem ok_of_command {α : Type} {command : Command σ α} {answer : α}
    (h : g.command command = (.ok answer, g₁)) :
    (command g.directory).1 = .ok answer ∧ g₁.directory = (command g.directory).2 := by
  obtain ⟨hresult, rfl⟩ := Prod.mk.inj h
  refine ⟨?_, rfl⟩
  cases hc : (command g.directory).1 with
  | error e =>
      rw [hc] at hresult
      cases hresult
  | ok value =>
      rw [hc] at hresult
      exact congrArg Except.ok (Except.ok.inj hresult)

theorem blacklist_of_unread {e : DirectoryError}
    (unread : Directory.findNode hostname g.directory = .error e) :
    g.blacklist platform hostname blacklisted = (.error (.directory e), g.noteLookup) := by
  simp only [blacklist, look, unread]

theorem blacklist_of_elsewhere {found : Option Node}
    (read : Directory.findNode hostname g.directory = .ok found)
    (elsewhere : found.filter (·.serves platform) = none) :
    g.blacklist platform hostname blacklisted = (.ok false, g.noteLookup) := by
  simp only [blacklist, look, read, elsewhere]

def withFlag (blacklisted : Bool) (node : Node) : Node :=
  { node with blacklisted, consecutiveErrors := 0 }

theorem blacklist_of_written {found : Option Node} {node answer : Node}
    (read : Directory.findNode hostname g.directory = .ok found)
    (serves : found.filter (·.serves platform) = some node)
    (written : g.noteLookup.command (Directory.updateNode (withFlag blacklisted node)) =
      (.ok answer, g₁)) :
    g.blacklist platform hostname blacklisted = (.ok true, g₁) := by
  rw [withFlag] at written
  simp only [blacklist, look, read, serves, written]

theorem blacklist_of_refused {found : Option Node} {node : Node} {e : GatewayError}
    (read : Directory.findNode hostname g.directory = .ok found)
    (serves : found.filter (·.serves platform) = some node)
    (refused : g.noteLookup.command (Directory.updateNode (withFlag blacklisted node)) =
      (.error e, g₁)) :
    g.blacklist platform hostname blacklisted =
      (.ok true, { g₁ with controls := { g₁.controls with
        failedBlacklistUpdates := g₁.controls.failedBlacklistUpdates + 1 } }) := by
  rw [withFlag] at refused
  simp only [blacklist, look, read, serves, refused]

/-- Nothing is written, or the record of the node that was found on the platform. -/
theorem directory_blacklist_cases (g : Gateway σ) (platform hostname : String)
    (blacklisted : Bool) :
    (g.blacklist platform hostname blacklisted).2.directory = Directory.noteLookup g.directory ∨
      ∃ found node, Directory.findNode hostname g.directory = .ok found ∧
        found.filter (·.serves platform) = some node ∧
        (g.blacklist platform hostname blacklisted).2.directory =
          (Directory.updateNode (withFlag blacklisted node)
            (Directory.noteLookup g.directory)).2 := by
  cases read : Directory.findNode hostname g.directory with
  | error e => exact .inl (by rw [blacklist_of_unread read]; rfl)
  | ok found =>
      cases serves : found.filter (·.serves platform) with
      | none => exact .inl (by rw [blacklist_of_elsewhere read serves]; rfl)
      | some node =>
          refine .inr ⟨found, node, rfl, serves, ?_⟩
          rcases hw : g.noteLookup.command (Directory.updateNode (withFlag blacklisted node)) with
            ⟨e | answer, g₁⟩
          · rw [blacklist_of_refused read serves hw]
            exact congrArg (·.2.directory) hw.symm
          · rw [blacklist_of_written read serves hw]
            exact congrArg (·.2.directory) hw.symm

end Switchboard.Gateway
