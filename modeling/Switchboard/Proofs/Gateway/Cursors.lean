import Switchboard.Proofs.Gateway.Dispatch

/-! # Cursors along a history

A selection that answers a node takes one turn of its platform, and nothing else takes one.
So a cursor stands as many turns after its start as nodes were picked on the platform,
modulo 2^64. The number of failures allowed never changes.
-/

namespace Switchboard

open Gateway

/-! ## What an entry picks -/

def pickedOn (platform name : String) (nodes : List Node) : List Node :=
  if name = platform then nodes else []

theorem pickedOn_append (platform name : String) (nodes nodes' : List Node) :
    pickedOn platform name (nodes ++ nodes') =
      pickedOn platform name nodes ++ pickedOn platform name nodes' := by
  unfold pickedOn
  split <;> rfl

theorem pickedOn_nil (platform name : String) : pickedOn platform name [] = [] :=
  ite_self _

/-- The nodes that the selections of an entry on a platform answer, those of the rounds of a
dispatch among them. -/
def Turn.picked (platform : String) (g : Gateway Backend) : Turn → List Node
  | .act (.select name) => pickedOn platform name (g.select name).1.toOption.toList
  | .act (.dispatch name maxRetries script) =>
    pickedOn platform name (g.dispatch name maxRetries (Script.attempt script)).1.attempts
  | .act _ => []
  | .select tried name =>
    pickedOn platform name (g.selectExcluding tried name).1.toOption.toList
  | .dispatch name maxRetries course =>
    pickedOn platform name (g.dispatch name maxRetries course.attempt).1.attempts
  | .event _ => []

namespace Gateway

def picks (platform : String) (g : Gateway Backend) : List Turn → List Node
  | [] => []
  | turn :: rest => turn.picked platform g ++ picks platform (g.afterTurn turn) rest

theorem picks_append (platform : String) (g : Gateway Backend) (turns turns' : List Turn) :
    g.picks platform (turns ++ turns') =
      g.picks platform turns ++ (g.afterTurns turns).picks platform turns' := by
  induction turns generalizing g with
  | nil => rfl
  | cons turn rest ih =>
      rw [List.cons_append, picks, picks, ih, List.append_assoc]
      rfl

/-! ## Turns taken -/

section Turns

variable {σ α : Type} {platform : String} {before between after : Gateway σ}

/-- So many turns of a platform were taken, and as many failures are allowed as before. -/
structure Took (platform : String) (count : Nat) (before after : Gateway σ) : Prop where
  limit : after.maxConsecutiveErrors = before.maxConsecutiveErrors
  turn : after.turn platform = before.turn platform + UInt64.ofNat count

/-- Where no cursor moves no turn is taken. -/
theorem Took.none (limit : after.maxConsecutiveErrors = before.maxConsecutiveErrors)
    (cursors : after.platformCursors = before.platformCursors) : Took platform 0 before after where
  limit := limit
  turn := by
    rw [Gateway.turn, cursors]
    exact (UInt64.add_zero _).symm

theorem Took.trans {count count' : Nat} (first : Took platform count before between)
    (second : Took platform count' between after) :
    Took platform (count + count') before after where
  limit := second.limit.trans first.limit
  turn := by rw [second.turn, first.turn, UInt64.ofNat_add, UInt64.add_assoc]

/-- As long as it does not start over, a cursor counts the turns taken. -/
theorem Took.toNat_turn {count : Nat} (took : Took platform count before after)
    (few : (before.turn platform).toNat + count < UInt64.size) :
    (after.turn platform).toNat = (before.turn platform).toNat + count := by
  have fits : count < UInt64.size := Nat.lt_of_le_of_lt (Nat.le_add_left _ _) few
  rw [took.turn, UInt64.toNat_add, UInt64.toNat_ofNat_of_lt' fits]
  exact Nat.mod_eq_of_lt few

variable [Directory σ] (platform)

theorem took_advance (g : Gateway σ) (name : String) (node : Node) :
    Took platform (pickedOn platform name [node]).length g (g.advance name) where
  limit := rfl
  turn := by
    rw [turn_advance, pickedOn]
    split
    · rfl
    · exact (UInt64.add_zero _).symm

theorem took_selectExcluding (g : Gateway σ) (tried : List String) (name : String) :
    let selected := g.selectExcluding tried name
    Took platform (pickedOn platform name selected.1.toOption.toList).length g selected.2 := by
  rcases g.selectExcluding_cases tried name with ⟨-, selected⟩ | ⟨node, -, selected⟩
  · rw [selected]
    change Took platform (pickedOn platform name []).length g g.noteLookup
    rw [pickedOn_nil]
    exact .none rfl rfl
  · rw [selected]
    exact took_advance platform g name node

theorem took_recordSuccess (g : Gateway σ) (node : Node) :
    Took platform 0 g (g.recordSuccess node).2 := by
  rw [recordSuccess_eq]
  split <;> exact .none rfl rfl

/-- Every attempt of a dispatch takes a turn. -/
theorem took_dispatchRounds (attempt : Attempt σ α) (name : String) (rounds : Nat)
    (tried : List String) (last : Option GatewayError) (g : Gateway σ) :
    let dispatched := dispatchRounds name attempt rounds tried last g
    Took platform (pickedOn platform name dispatched.1.attempts).length g dispatched.2 := by
  induction rounds generalizing tried last g with
  | zero =>
      change Took platform (pickedOn platform name []).length g g
      rw [pickedOn_nil]
      exact .none rfl rfl
  | succ rounds ih =>
      have selected := took_selectExcluding platform g tried name
      rcases hs : g.selectExcluding tried name with ⟨_ | node, g₁⟩
      · rw [hs] at selected
        rw [dispatchRounds_of_refused hs]
        exact selected
      · rw [hs] at selected
        change Took platform (pickedOn platform name [node]).length g g₁ at selected
        rcases ha : attempt node g₁.directory with ⟨reason | value, directory⟩
        · rw [dispatchRounds_of_failure hs ha]
          have recorded : Took platform 0 g₁ ({ g₁ with directory }.recordFailure node).2 :=
            .none rfl rfl
          have rest := ih (node.hostname :: tried) (some (.nodeOperation node.hostname reason))
            ({ g₁ with directory }.recordFailure node).2
          dsimp only
          rw [← List.singleton_append, pickedOn_append, List.length_append]
          exact (selected.trans recorded).trans rest
        · rw [dispatchRounds_of_success hs ha]
          have recorded := took_recordSuccess platform { g₁ with directory } node
          exact selected.trans ⟨recorded.limit, recorded.turn⟩

theorem took_registerNode (g : Gateway σ) (node : Node) :
    Took platform 0 g (g.registerNode node).2 := by
  unfold registerNode look
  dsimp only
  split <;> exact .none rfl rfl

theorem took_registerClient (g : Gateway σ) (text : String) :
    Took platform 0 g (g.registerClient text).2 := by
  unfold registerClient
  split <;> exact .none rfl rfl

theorem took_pickResource (g : Gateway σ) (jid : String) :
    Took platform 0 g (g.pickResource jid).2 := by
  unfold pickResource resources look
  dsimp only
  split <;> exact .none rfl rfl

theorem took_blacklist (g : Gateway σ) (name hostname : String) (blacklisted : Bool) :
    Took platform 0 g (g.blacklist name hostname blacklisted).2 := by
  cases read : Directory.findNode hostname g.directory with
  | error e =>
      rw [blacklist_of_unread read]
      exact .none rfl rfl
  | ok found =>
      cases serves : found.filter (·.serves name) with
      | none =>
          rw [blacklist_of_elsewhere read serves]
          exact .none rfl rfl
      | some node =>
          rcases hw : g.noteLookup.command (Directory.updateNode (withFlag blacklisted node)) with
            ⟨e | answer, g₁⟩
          · rw [blacklist_of_refused read serves hw]
            obtain ⟨-, rfl⟩ := Prod.mk.inj hw
            exact .none rfl rfl
          · rw [blacklist_of_written read serves hw]
            obtain ⟨-, rfl⟩ := Prod.mk.inj hw
            exact .none rfl rfl

end Turns

/-! ## Along a history -/

variable (platform : String)

theorem took_perform (g : Gateway Backend) (action : Action) :
    Took platform (Turn.picked platform g (.act action)).length g (action.perform g).2 := by
  cases action with
  | select name => exact took_selectExcluding platform g [] name
  | dispatch name maxRetries script =>
      exact took_dispatchRounds platform (Script.attempt script) name (maxRetries.toNat + 1) []
        none g
  | registerNode node => exact took_registerNode platform g node
  | registerClient jid => exact took_registerClient platform g jid
  | recordSuccess node => exact took_recordSuccess platform g node
  | pickResource jid => exact took_pickResource platform g jid
  | blacklist name hostname blacklisted => exact took_blacklist platform g name hostname blacklisted
  | directory | nodeForCall | resources | platformForClient | recordFailure | ban | unban
  | isBanned | bannedJids | setMaxDialRetries | maxDialRetries | failedBlacklistUpdates =>
      exact .none rfl rfl

theorem took_afterTurn (g : Gateway Backend) (turn : Turn) :
    Took platform (turn.picked platform g).length g (g.afterTurn turn) := by
  cases turn with
  | act action => exact took_perform platform g action
  | select tried name => exact took_selectExcluding platform g tried name
  | dispatch name maxRetries course =>
      exact took_dispatchRounds platform course.attempt name (maxRetries.toNat + 1) [] none g
  | event => exact .none rfl rfl

/-- A history takes one turn of a platform for each node that it picks there. -/
theorem took_afterTurns (g : Gateway Backend) (turns : List Turn) :
    Took platform (g.picks platform turns).length g (g.afterTurns turns) := by
  induction turns generalizing g with
  | nil => exact .none rfl rfl
  | cons turn rest ih =>
      rw [picks, List.length_append]
      exact (took_afterTurn platform g turn).trans (ih _)

end Gateway

end Switchboard
