import Switchboard.Gateway.Action
import Switchboard.Proofs.Directory.Holding

/-! # Histories of a gateway

Between the actions of a history dispatches are made, whose attempts may do anything to the
directory that its operations can do, time passes for the cluster and its switches are
turned. A dispatch may also be taken apart into its selections, so that other turns come
between them.
-/

namespace Switchboard

open Replicated (Event)

/-- What an attempt on a node makes happen to the directory that it meets, and how it ends. -/
abbrev Course (α : Type) : Type := Node → Backend → List Event × Except String α

def Course.attempt {α : Type} (course : Course α) : Gateway.Attempt Backend α :=
  fun node b => ((course node b).2, b.afterAll (course node b).1)

def Script.course (script : Node → Script) : Course String := fun node _ =>
  ((script node).removes.map fun hostname => .operation (.removeNode hostname),
    match (script node).failure with
    | some reason => .error reason
    | none => .ok node.hostname)

theorem Script.attempt_eq_course (script : Node → Script) :
    Script.attempt script = (Script.course script).attempt := by
  funext node b
  have removed : (script node).removes.foldl
      (fun b hostname => (Directory.removeNode hostname b).2) b =
        b.afterAll (Script.course script node b).1 := by
    rw [Backend.afterAll, Script.course, List.foldl_map]
    congr 1
    funext b hostname
    exact (b.after_operation (.removeNode hostname)).symm
  unfold Script.attempt Course.attempt
  dsimp only
  rw [removed, Script.course]
  cases (script node).failure <;> rfl

inductive Turn : Type 1
  | act (action : Action)
  /-- One selection of a dispatch that is under way. -/
  | select (tried : List String) (platform : String)
  | dispatch {α : Type} (platform : String) (maxRetries : UInt32) (course : Course α)
  | event (event : Event)

namespace Gateway

def afterTurn (g : Gateway Backend) : Turn → Gateway Backend
  | .act action => (action.perform g).2
  | .select tried platform => (g.selectExcluding tried platform).2
  | .dispatch platform maxRetries course => (g.dispatch platform maxRetries course.attempt).2
  | .event event => { g with directory := g.directory.after event }

def afterTurns (g : Gateway Backend) (turns : List Turn) : Gateway Backend :=
  turns.foldl afterTurn g

end Gateway

/-! ## What happens to nodes in a history -/

/-- Something that bears on the count of failures of a node. -/
inductive Happening where
  /-- A caller stores, registers or updates the record. -/
  | written (node : Node)
  | removed (hostname : String)
  | failed (hostname : String)
  | succeeded (hostname : String)
  /-- An operator sets or clears the blacklist flag. -/
  | flagged (hostname : String)

def Happening.hostname : Happening → String
  | written node => node.hostname
  | removed hostname | failed hostname | succeeded hostname | flagged hostname => hostname

def Operation.happenings : Operation → List Happening
  | .storeNode node | .updateNode node => [.written node]
  | .removeNode hostname => [.removed hostname]
  | _ => []

namespace Backend

def happenings (b : Backend) : Event → List Happening
  | .operation op => if (op.run b).1.isOk then op.happenings else []
  | _ => []

def happeningsAll (b : Backend) : List Event → List Happening
  | [] => []
  | event :: rest => b.happenings event ++ (b.after event).happeningsAll rest

end Backend

namespace Gateway

/-- A dispatch reports a failure for every attempt that fails and a success for one that does
not; the attempts themselves may use the directory. -/
def roundHappenings {α : Type} (platform : String) (course : Course α) :
    (rounds : Nat) → (tried : List String) → Gateway Backend → List Happening
  | 0, _, _ => []
  | rounds + 1, tried, g =>
    match g.selectExcluding tried platform with
    | (.error _, _) => []
    | (.ok node, g) =>
      let events := (course node g.directory).1
      let directory := g.directory.afterAll events
      g.directory.happeningsAll events ++
        match (course node g.directory).2 with
        | .ok _ => [.succeeded node.hostname]
        | .error _ =>
          .failed node.hostname ::
            roundHappenings platform course rounds (node.hostname :: tried)
              ({ g with directory }.recordFailure node).2

def actionHappenings (g : Gateway Backend) : Action → List Happening
  | .directory op => g.directory.happenings (.operation op)
  | .registerNode node => if (g.registerNode node).1.isOk then [.written node] else []
  | .recordFailure node => [.failed node.hostname]
  | .recordSuccess node => [.succeeded node.hostname]
  | .dispatch platform maxRetries script =>
    roundHappenings platform (Script.course script) (maxRetries.toNat + 1) [] g
  | .blacklist platform hostname blacklisted =>
    match (g.blacklist platform hostname blacklisted).1 with
    | .ok true => [.flagged hostname]
    | _ => []
  | _ => []

def happenings (g : Gateway Backend) : Turn → List Happening
  | .act action => g.actionHappenings action
  | .select _ _ => []
  | .dispatch platform maxRetries course =>
    roundHappenings platform course (maxRetries.toNat + 1) [] g
  | .event event => g.directory.happenings event

def happeningsAll (g : Gateway Backend) : List Turn → List Happening
  | [] => []
  | turn :: rest => g.happenings turn ++ (g.afterTurn turn).happeningsAll rest

end Gateway

end Switchboard
