import Switchboard.Proofs.Gateway.History
import Switchboard.Proofs.Gateway.Registration
import Switchboard.Proofs.Gateway.Routing

/-! # What every turn preserves of the directory

A gateway changes its directory only by the operations of the directory: those that a turn
brings with it, and a few kinds that the gateway makes up itself. What each step carries on,
every history carries on; the rounds of a dispatch, the actions and the turns are gone through
once for all that is said of histories.
-/

namespace Switchboard

open Replicated (Event)

def Course.Obeys {α : Type} (allowed : Event → Prop) (course : Course α) : Prop :=
  ∀ node b, ∀ event ∈ (course node b).1, allowed event

def Turn.Obeys (allowed : Event → Prop) : Turn → Prop
  | .act (.directory op) => allowed (.operation op)
  | .act _ | .select _ _ => True
  | .dispatch _ _ course => course.Obeys allowed
  | .event entry => allowed entry

theorem Turn.Obeys.and {p q allowed : Event → Prop} (both : ∀ event, p event → q event →
    allowed event) {turn : Turn} (first : turn.Obeys p) (second : turn.Obeys q) :
    turn.Obeys allowed := by
  cases turn with
  | act action =>
      cases action with
      | directory op => exact both _ first second
      | _ => trivial
  | select => trivial
  | dispatch platform maxRetries course =>
      exact fun node b event hevent =>
        both event (first node b event hevent) (second node b event hevent)
  | event entry => exact both entry first second

/-! ## What the steps carry on -/

/-- What holds of a directory and of what has happened to its nodes is carried on by a look into the
directory, by permitted events and wherever the gateway writes back the record of a node that it has
just read. -/
structure Carried (holds : List Happening → Backend → Prop) (permits : Turn → Prop) : Prop where
  noteLookup : ∀ {past : List Happening} {b : Backend}, holds past b →
    holds past (Directory.noteLookup b)
  after : ∀ {past : List Happening} {b : Backend} {event : Event}, holds past b →
    permits (.event event) → holds (past ++ b.happenings event) (b.after event)
  recordFailure : ∀ {past : List Happening} {g : Gateway Backend} (node : Node),
    holds past g.directory →
      holds (past ++ [.failed node.hostname]) (g.recordFailure node).2.directory
  recordSuccess : ∀ {past : List Happening} {g : Gateway Backend} (node : Node),
    holds past g.directory →
      holds (past ++ [.succeeded node.hostname]) (g.recordSuccess node).2.directory
  blacklist : ∀ {past : List Happening} {g : Gateway Backend} {platform hostname : String}
    {blacklisted : Bool}, holds past g.directory →
      permits (.act (.blacklist platform hostname blacklisted)) →
        holds (past ++ g.actionHappenings (.blacklist platform hostname blacklisted))
          (g.blacklist platform hostname blacklisted).2.directory
  operation : ∀ {op : Operation}, permits (.act (.directory op)) → permits (.event (.operation op))
  stored : ∀ {node : Node}, permits (.act (.registerNode node)) →
    permits (.event (.operation (.storeNode node)))
  updated : ∀ {node : Node}, permits (.act (.registerNode node)) →
    permits (.event (.operation (.updateNode node)))
  removed : ∀ hostname : String, permits (.event (.operation (.removeNode hostname)))
  bound : ∀ {text : String} {jid : Jid} (platform : String), Jid.parse text = .ok jid →
    permits (.event (.operation (.storeClient (.ofJid jid.render platform))))
  course : ∀ {α : Type} {platform : String} {maxRetries : UInt32} {course : Course α},
    permits (.dispatch platform maxRetries course) →
      course.Obeys fun event => permits (.event event)

/-- The node was selected on the platform where this held. -/
def SelectedWhere (holds : List Happening → Backend → Prop) (platform : String) (node : Node) :
    Prop :=
  ∃ (past : List Happening) (g : Gateway Backend) (tried : List String),
    holds past g.directory ∧ (g.selectExcluding tried platform).1 = .ok node

namespace Carried

variable {holds : List Happening → Backend → Prop} {permits : Turn → Prop}
  {past : List Happening} {b : Backend} {g : Gateway Backend}

theorem afterAll (carried : Carried holds permits) (h : holds past b) {events : List Event}
    (permitted : ∀ event ∈ events, permits (.event event)) :
    holds (past ++ b.happeningsAll events) (b.afterAll events) := by
  induction events generalizing b past with
  | nil =>
      rw [Backend.happeningsAll, List.append_nil]
      exact h
  | cons event rest ih =>
      obtain ⟨first, others⟩ := List.forall_mem_cons.1 permitted
      rw [Backend.happeningsAll, ← List.append_assoc]
      exact ih (carried.after h first) others

/-- A command of the gateway carries it on as the operation does. -/
theorem command (carried : Carried holds permits) (h : holds past g.directory) {op : Operation}
    (permitted : permits (.event (.operation op))) {α : Type} {command : Command Backend α}
    (same : (command g.directory).2 = (op.run g.directory).2)
    (answered : (command g.directory).1.isOk = (op.run g.directory).1.isOk) :
    holds (past ++ if (g.command command).1.isOk then op.happenings else [])
      (g.command command).2.directory := by
  have passed : (g.command command).1.isOk = (command g.directory).1.isOk := by
    unfold Gateway.command
    rcases command g.directory with ⟨_ | _, _⟩ <;> rfl
  have directory : (g.command command).2.directory = (command g.directory).2 := rfl
  have ran := carried.after h permitted
  rw [Backend.after_operation] at ran
  rwa [passed, answered, directory, same]

theorem registerNode (carried : Carried holds permits) (h : holds past g.directory) {node : Node}
    (permitted : permits (.act (.registerNode node))) :
    holds (past ++ g.actionHappenings (.registerNode node)) (g.registerNode node).2.directory := by
  have answered {result : Except DirectoryError Node × Backend} :
      result.1.isOk = (Operation.answer (.node ∘ some) result).1.isOk := by
    rcases result with ⟨_ | _, _⟩ <;> rfl
  have registered : g.registerNode node =
      if (Directory.getNode? node.hostname g.directory).isSome then
        g.noteLookup.command (Directory.updateNode node)
      else g.noteLookup.command (Directory.storeNode node) := rfl
  have looked : holds past g.noteLookup.directory := carried.noteLookup h
  rw [Gateway.actionHappenings, registered]
  split
  · exact carried.command looked (carried.updated permitted) rfl answered
  · exact carried.command looked (carried.stored permitted) rfl answered

theorem registerClient (carried : Carried holds permits) (h : holds past g.directory)
    (text : String) : holds past (g.registerClient text).2.directory := by
  cases parsed : Jid.parse text with
  | error e =>
      rw [Gateway.registerClient_of_parse_error parsed]
      exact h
  | ok jid =>
      rw [Gateway.registerClient_of_parse parsed]
      have ran := carried.after (carried.noteLookup h) (carried.bound (g.platformOf jid) parsed)
      have silent (client : Client) : (Operation.storeClient client).happenings = [] := rfl
      rwa [Backend.after_operation, Backend.happenings, silent, ite_self, List.append_nil] at ran

theorem selectExcluding (carried : Carried holds permits) (h : holds past g.directory)
    (excluded : List String) (platform : String) :
    holds past (g.selectExcluding excluded platform).2.directory := by
  rw [Gateway.directory_selectExcluding]
  exact carried.noteLookup h

/-- It holds in every round of a dispatch: at the end, and wherever a node was selected. -/
theorem dispatchRounds (carried : Carried holds permits) (platform : String) {α : Type}
    {course : Course α} (obeys : course.Obeys fun event => permits (.event event)) (rounds : Nat)
    (tried : List String) (last : Option GatewayError) (h : holds past g.directory) :
    let (report, g') := Gateway.dispatchRounds platform course.attempt rounds tried last g
    holds (past ++ Gateway.roundHappenings platform course rounds tried g) g'.directory ∧
      ∀ node ∈ report.attempts, SelectedWhere holds platform node := by
  -- Each round meets another gateway, with other nodes tried and a longer past.
  induction rounds generalizing tried last g past with
  | zero =>
      rw [Gateway.roundHappenings, List.append_nil]
      exact ⟨h, by simp⟩
  | succ rounds ih =>
      have selected := carried.selectExcluding h tried platform
      have here (node : Node) (chosen : (g.selectExcluding tried platform).1 = .ok node) :
          SelectedWhere holds platform node := ⟨past, g, tried, h, chosen⟩
      rcases hs : g.selectExcluding tried platform with ⟨chosen, g₁⟩
      rw [hs] at selected here
      cases chosen with
      | error e =>
          rw [Gateway.dispatchRounds_of_refused hs, Gateway.roundHappenings, hs, List.append_nil]
          exact ⟨selected, by simp⟩
      | ok node =>
          have attempted := carried.afterAll selected (obeys node g₁.directory)
          have ha : course.attempt node g₁.directory = ((course node g₁.directory).2,
            g₁.directory.afterAll (course node g₁.directory).1) := rfl
          rw [Gateway.roundHappenings, hs]
          dsimp only
          rw [← List.append_assoc]
          cases result : (course node g₁.directory).2 with
          | ok value =>
              rw [result] at ha
              rw [Gateway.dispatchRounds_of_success hs ha]
              refine ⟨carried.recordSuccess (g := { g₁ with directory := _ }) node attempted, ?_⟩
              simpa using here node rfl
          | error reason =>
              rw [result] at ha
              rw [Gateway.dispatchRounds_of_failure hs ha, List.append_cons]
              obtain ⟨kept, later⟩ := ih (node.hostname :: tried)
                (some (.nodeOperation node.hostname reason))
                (carried.recordFailure (g := { g₁ with directory := _ }) node attempted)
              exact ⟨kept, List.forall_mem_cons.2 ⟨here node rfl, later⟩⟩

theorem perform (carried : Carried holds permits) (h : holds past g.directory) {action : Action}
    (permitted : permits (.act action)) :
    holds (past ++ g.actionHappenings action) (action.perform g).2.directory := by
  have nothing {b : Backend} (same : holds past b) : holds (past ++ []) b := by
    rwa [List.append_nil]
  cases action with
  | directory op =>
      have ran := carried.after h (carried.operation permitted)
      rwa [Backend.after_operation] at ran
  | registerNode node => exact carried.registerNode h permitted
  | registerClient text => exact nothing (carried.registerClient h text)
  | nodeForCall | resources | platformForClient => exact nothing (carried.noteLookup h)
  | select platform => exact nothing (carried.selectExcluding h [] platform)
  | recordFailure node => exact carried.recordFailure node h
  | recordSuccess node => exact carried.recordSuccess node h
  | dispatch platform maxRetries script =>
      have obeys : (Script.course script).Obeys fun event => permits (.event event) := by
        intro node b event hevent
        obtain ⟨hostname, -, rfl⟩ := List.mem_map.1 hevent
        exact carried.removed hostname
      have routed := (carried.dispatchRounds platform obeys (maxRetries.toNat + 1) [] none h).1
      rwa [← Script.attempt_eq_course] at routed
  | pickResource jid =>
      refine nothing ?_
      change holds past (g.pickResource jid).2.directory
      unfold Gateway.pickResource Gateway.resources Gateway.look
      dsimp only
      split <;> exact carried.noteLookup h
  | blacklist platform hostname blacklisted => exact carried.blacklist h permitted
  | ban | unban | isBanned | bannedJids | setMaxDialRetries | maxDialRetries
  | failedBlacklistUpdates => exact nothing h

theorem afterTurn (carried : Carried holds permits) (h : holds past g.directory) {turn : Turn}
    (permitted : permits turn) :
    holds (past ++ g.happenings turn) (g.afterTurn turn).directory := by
  cases turn with
  | act action => exact carried.perform h permitted
  | select tried platform =>
      rw [Gateway.happenings, List.append_nil]
      exact carried.selectExcluding h tried platform
  | dispatch platform maxRetries course =>
      exact (carried.dispatchRounds platform (carried.course permitted) (maxRetries.toNat + 1) []
        none h).1
  | event entry => exact carried.after h permitted

/-- Every history carries it on. -/
theorem afterTurns (carried : Carried holds permits) (h : holds past g.directory)
    {turns : List Turn} (permitted : ∀ turn ∈ turns, permits turn) :
    holds (past ++ g.happeningsAll turns) (g.afterTurns turns).directory := by
  induction turns generalizing g past with
  | nil =>
      rw [Gateway.happeningsAll, List.append_nil]
      exact h
  | cons turn rest ih =>
      obtain ⟨first, others⟩ := List.forall_mem_cons.1 permitted
      rw [Gateway.happeningsAll, ← List.append_assoc]
      exact ih (carried.afterTurn h first) others

end Carried

/-! ## What no operation of the gateway ends -/

/-- An operation that the gateway makes up itself. -/
inductive Operation.Own : Operation → Prop
  | storeNode (node : Node) : Own (.storeNode node)
  | updateNode (node : Node) : Own (.updateNode node)
  | removeNode (hostname : String) : Own (.removeNode hostname)
  | storeClient {text : String} {jid : Jid} (platform : String) :
      Jid.parse text = .ok jid → Own (.storeClient (.ofJid jid.render platform))

/-- Looking into a directory, allowed events and the operations of the gateway itself preserve what
holds of the directory. -/
structure Preserved (holds : Backend → Prop) (allowed : Event → Prop) : Prop where
  noteLookup : ∀ {b : Backend}, holds b → holds (Directory.noteLookup b)
  after : ∀ {b : Backend} {event : Event}, holds b → allowed event → holds (b.after event)
  own : ∀ {op : Operation}, op.Own → allowed (.operation op)

namespace Preserved

variable {holds : Backend → Prop} {allowed : Event → Prop} {b : Backend} {g : Gateway Backend}

/-- An operation of the gateway itself follows on a look into the directory. -/
theorem run_own (preserved : Preserved holds allowed) (h : holds b) {op : Operation}
    (own : op.Own) : holds (op.run (Directory.noteLookup b)).2 := by
  rw [← Backend.after_operation]
  exact preserved.after (preserved.noteLookup h) (preserved.own own)

theorem afterAll (preserved : Preserved holds allowed) (h : holds b) {events : List Event}
    (permitted : ∀ event ∈ events, allowed event) : holds (b.afterAll events) :=
  Backend.preserved_afterAll holds preserved.after h permitted

/-- What is preserved is carried on, whatever has happened to the nodes. -/
theorem carried (preserved : Preserved holds allowed) :
    Carried (fun _ => holds) (Turn.Obeys allowed) where
  noteLookup := preserved.noteLookup
  after := preserved.after
  recordFailure := by
    intro _ g node h
    rw [Gateway.recordFailure_eq]
    exact preserved.run_own h (.updateNode _)
  recordSuccess := by
    intro _ g node h
    rw [Gateway.recordSuccess_eq]
    split
    · exact preserved.noteLookup h
    · exact preserved.run_own h (.updateNode _)
  blacklist := by
    intro _ g platform hostname blacklisted h _
    rcases Gateway.directory_blacklist_cases g platform hostname blacklisted with
      unwritten | ⟨found, node, -, -, written⟩
    · rw [unwritten]
      exact preserved.noteLookup h
    · rw [written]
      exact preserved.run_own h (.updateNode _)
  operation := id
  stored := fun _ => preserved.own (.storeNode _)
  updated := fun _ => preserved.own (.updateNode _)
  removed := fun hostname => preserved.own (.removeNode hostname)
  bound := fun platform parsed => preserved.own (.storeClient platform parsed)
  course := id

theorem dispatchRounds (preserved : Preserved holds allowed) (platform : String) {α : Type}
    {course : Course α} (obeys : course.Obeys allowed) (rounds : Nat) (tried : List String)
    (last : Option GatewayError) (h : holds g.directory) :
    holds (Gateway.dispatchRounds platform course.attempt rounds tried last g).2.directory :=
  (@Carried.dispatchRounds _ _ [] g preserved.carried platform α course obeys rounds tried last
    h).1

theorem afterTurn (preserved : Preserved holds allowed) (h : holds g.directory) {turn : Turn}
    (obeys : turn.Obeys allowed) : holds (g.afterTurn turn).directory :=
  @Carried.afterTurn _ _ [] g preserved.carried h turn obeys

/-- Every history preserves it. -/
theorem afterTurns (preserved : Preserved holds allowed) (h : holds g.directory)
    {turns : List Turn} (obeys : ∀ turn ∈ turns, turn.Obeys allowed) :
    holds (g.afterTurns turns).directory :=
  @Carried.afterTurns _ _ [] g preserved.carried h turns obeys

end Preserved

/-! ## Node records in order -/

/-- Whatever happens to a directory, its node records stay in order. -/
theorem Backend.preserved_holds :
    Preserved (fun b => ∃ nodes, b.Holds nodes) fun _ => True where
  noteLookup := fun ⟨nodes, holds⟩ => ⟨nodes, holds.noteLookup⟩
  after := by
    rintro b event ⟨nodes, holds⟩ -
    obtain ⟨nodes', holds', -⟩ := holds.after event
    exact ⟨nodes', holds'⟩
  own := fun _ => trivial

theorem Turn.obeys_anything (turn : Turn) : turn.Obeys fun _ => True := by
  cases turn with
  | act action => cases action <;> trivial
  | select | event => trivial
  | dispatch => exact fun _ _ _ _ => trivial

theorem Backend.Fresh.holds_afterTurns {g : Gateway Backend} (fresh : g.directory.Fresh)
    (turns : List Turn) : ∃ nodes, (g.afterTurns turns).directory.Holds nodes :=
  preserved_holds.afterTurns ⟨∅, fresh.holds⟩ fun turn _ => turn.obeys_anything

end Switchboard
