import Switchboard.Proofs.Directory.Listings
import Switchboard.Proofs.Gateway.Preserved

/-! # The attempts of a dispatch

A dispatch tries the best node that is left, again and again, until an attempt succeeds, the
attempts are used up or no node is left. What an attempt does to the directory bears on the
choices after it.
-/

namespace Switchboard.Gateway

section Rounds

variable {σ α : Type} [Directory σ] {g : Gateway σ} {platform : String} {attempt : Attempt σ α}

/-- A node that a dispatch may try: it is listed for the platform, available and not tried yet. -/
structure MayTry (g : Gateway σ) (platform : String) (tried : List String) (node : Node) :
    Prop where
  listed : node ∈ Directory.nodesForPlatform platform g.directory
  available : node.isAvailable g.maxConsecutiveErrors
  untried : node.hostname ∉ tried

theorem mayTry_iff {tried : List String} {node : Node} :
    g.MayTry platform tried node ↔
      node ∈ Selection.candidates g.maxConsecutiveErrors tried
        (Directory.nodesForPlatform platform g.directory) := by
  rw [Selection.mem_candidates]
  exact ⟨fun h => ⟨h.listed, h.available, h.untried⟩, fun ⟨h, h', h''⟩ => ⟨h, h', h''⟩⟩

/-- A selection is a node that may be tried, of the least priority value of them. -/
theorem best_of_selectExcluding {tried : List String} {node : Node}
    (chosen : (g.selectExcluding tried platform).1 = .ok node) :
    g.MayTry platform tried node ∧
      ∀ other, g.MayTry platform tried other → node.priority ≤ other.priority := by
  have preferred := mem_preferredNodes_of_selectExcluding chosen
  exact ⟨mayTry_iff.2 (Selection.mem_preferred preferred), fun other h =>
    priority_le_of_preferredNodes preferred h.listed h.available h.untried⟩

/-- What has been tried after attempts on nodes. -/
def triedAfter (tried : List String) (nodes : List Node) : List String :=
  (nodes.map (·.hostname)).reverse ++ tried

theorem triedAfter_cons (tried : List String) (node : Node) (nodes : List Node) :
    triedAfter tried (node :: nodes) = triedAfter (node.hostname :: tried) nodes := by
  simp [triedAfter]

theorem mem_triedAfter_nil {nodes : List Node} {hostname : String} :
    hostname ∈ triedAfter [] nodes ↔ hostname ∈ nodes.map (·.hostname) := by
  rw [triedAfter, List.append_nil, List.mem_reverse]

theorem mayTry_triedAfter_nil {nodes : List Node} {node : Node} :
    g.MayTry platform (triedAfter [] nodes) node ↔
      g.MayTry platform (nodes.map (·.hostname)) node :=
  ⟨fun h => ⟨h.listed, h.available, mt mem_triedAfter_nil.2 h.untried⟩,
    fun h => ⟨h.listed, h.available, mt mem_triedAfter_nil.1 h.untried⟩⟩

/-- The gateway when the next node is chosen after so many attempts: the one that as many rounds
leave behind. -/
def afterAttempts (g : Gateway σ) (platform : String) (attempt : Attempt σ α)
    (tried : List String) (made : Nat) : Gateway σ :=
  (dispatchRounds platform attempt made tried none g).2

/-- The directory that an attempt meets which comes after so many others. -/
def met (g : Gateway σ) (platform : String) (attempt : Attempt σ α) (tried : List String)
    (made : Nat) : σ :=
  Directory.noteLookup (g.afterAttempts platform attempt tried made).directory

/-- The failure so far bears on the answer of a dispatch only. -/
theorem snd_dispatchRounds (rounds : Nat) (tried : List String) (last : Option GatewayError) :
    (dispatchRounds platform attempt rounds tried last g).2 =
      g.afterAttempts platform attempt tried rounds := by
  unfold afterAttempts
  cases rounds with
  | zero => rfl
  | succ rounds =>
      rcases hs : g.selectExcluding tried platform with ⟨_ | node, g₁⟩
      · rw [dispatchRounds_of_refused hs, dispatchRounds_of_refused hs]
      · rcases ha : attempt node g₁.directory with ⟨_ | value, directory⟩
        · rw [dispatchRounds_of_failure hs ha, dispatchRounds_of_failure hs ha]
        · rw [dispatchRounds_of_success hs ha, dispatchRounds_of_success hs ha]

/-- No round changes how many failures are allowed, nor what the operator controls. -/
theorem sameSettings_dispatchRounds (rounds : Nat) (tried : List String)
    (last : Option GatewayError) :
    g.SameSettings (dispatchRounds platform attempt rounds tried last g).2 := by
  induction rounds generalizing tried last g with
  | zero => exact ⟨rfl, rfl⟩
  | succ rounds ih =>
      have selected := sameSettings_selectExcluding g tried platform
      rcases hs : g.selectExcluding tried platform with ⟨_ | node, g₁⟩
      · rw [hs] at selected
        rw [dispatchRounds_of_refused hs]
        exact selected
      · rw [hs] at selected
        rcases ha : attempt node g₁.directory with ⟨_ | value, directory⟩
        · rw [dispatchRounds_of_failure hs ha]
          have recorded : g₁.SameSettings ({ g₁ with directory }.recordFailure node).2 := ⟨rfl, rfl⟩
          exact (selected.trans recorded).trans (ih _ _)
        · rw [dispatchRounds_of_success hs ha]
          have recorded := sameSettings_recordSuccess { g₁ with directory } node
          exact selected.trans ⟨recorded.limit, recorded.controls⟩

/-- How the rounds of a dispatch go on from what has been tried and the failure so far. -/
structure Proceeds (platform : String) (attempt : Attempt σ α) (rounds : Nat)
    (tried : List String) (last : Option GatewayError) (g : Gateway σ) (report : Dispatched α) :
    Prop where
  bounded : report.attempts.length ≤ rounds
  /-- Each attempt is made on what is selected at its time. -/
  chosen : ∀ (made : Nat) (node : Node), report.attempts[made]? = some node →
    ((g.afterAttempts platform attempt tried made).selectExcluding
      (triedAfter tried (report.attempts.take made)) platform).1 = .ok node
  /-- Only a failure makes for another attempt. -/
  failed : ∀ (made : Nat) (node : Node), report.attempts[made]? = some node →
    made + 1 < report.attempts.length →
      ∃ reason, (attempt node (g.met platform attempt tried made)).1 = .error reason
  empty : report.attempts = [] →
    report.result = .error (last.getD (.noNodeAvailable platform))
  final : ∀ (made : Nat) (node : Node), report.attempts[made]? = some node →
    made + 1 = report.attempts.length →
      report.result = (attempt node (g.met platform attempt tried made)).1.mapError
        (.nodeOperation node.hostname)
  /-- A failure is recorded in the directory that the attempt left. -/
  next : ∀ (made : Nat) (node : Node) (reason : String), report.attempts[made]? = some node →
    (attempt node (g.met platform attempt tried made)).1 = .error reason →
      let chosen := (g.afterAttempts platform attempt tried made).selectExcluding
        (triedAfter tried (report.attempts.take made)) platform
      g.afterAttempts platform attempt tried (made + 1) =
        ({ chosen.2 with
          directory := (attempt node (g.met platform attempt tried made)).2 }.recordFailure node).2
  stopped : ∀ e, report.result = .error e →
    report.attempts.length = rounds ∨
      ∀ node, ¬ (g.afterAttempts platform attempt tried report.attempts.length).MayTry platform
        (triedAfter tried report.attempts) node

section Steps

variable {tried : List String} {last : Option GatewayError} {g₁ : Gateway σ} {node : Node}
  {directory : σ}

theorem proceeds_used_up :
    Proceeds platform attempt 0 tried last g
      ⟨[], .error (last.getD (.noNodeAvailable platform))⟩ where
  bounded := le_rfl
  chosen := nofun
  failed := nofun
  empty := fun _ => rfl
  final := nofun
  next := nofun
  stopped := fun _ _ => .inl rfl

theorem proceeds_refused {e : GatewayError}
    (refused : g.selectExcluding tried platform = (.error e, g₁)) (rounds : Nat) :
    Proceeds platform attempt (rounds + 1) tried last g ⟨[], .error (last.getD e)⟩ := by
  obtain ⟨rfl, none⟩ := candidates_eq_nil_of_selectExcluding (congrArg Prod.fst refused)
  have left (node : Node) : ¬ g.MayTry platform tried node := by
    rw [mayTry_iff, none]
    exact List.not_mem_nil
  exact
    { bounded := Nat.zero_le _
      chosen := nofun
      failed := nofun
      empty := fun _ => rfl
      final := nofun
      next := nofun
      stopped := fun _ _ => .inr left }

/-- An attempt meets the directory after the selection. -/
theorem met_zero (chosen : g.selectExcluding tried platform = (.ok node, g₁)) :
    g.met platform attempt tried 0 = g₁.directory := by
  have looked := directory_selectExcluding g tried platform
  rw [chosen] at looked
  exact looked.symm

theorem proceeds_success {value : α}
    (chosen : g.selectExcluding tried platform = (.ok node, g₁))
    (succeeded : attempt node g₁.directory = (.ok value, directory)) (rounds : Nat) :
    Proceeds platform attempt (rounds + 1) tried last g ⟨[node], .ok value⟩ where
  bounded := Nat.le_add_left 1 rounds
  chosen := by
    rintro (_ | made) node' found
    · cases found
      exact congrArg Prod.fst chosen
    · cases found
  failed := by
    rintro made node' - (later : made + 1 < 1)
    omega
  empty := nofun
  final := by
    rintro (_ | made) node' found -
    · cases found
      rw [met_zero chosen, succeeded]
      rfl
    · cases found
  next := by
    rintro (_ | made) node' reason found failed
    · cases found
      rw [met_zero chosen, succeeded] at failed
      cases failed
    · cases found
  stopped := nofun

theorem afterAttempts_succ {reason : String}
    (chosen : g.selectExcluding tried platform = (.ok node, g₁))
    (failed : attempt node g₁.directory = (.error reason, directory)) (made : Nat) :
    g.afterAttempts platform attempt tried (made + 1) =
      ({ g₁ with directory }.recordFailure node).2.afterAttempts platform attempt
        (node.hostname :: tried) made := by
  rw [afterAttempts, dispatchRounds_of_failure chosen failed]
  exact snd_dispatchRounds made _ _

theorem met_succ {reason : String}
    (chosen : g.selectExcluding tried platform = (.ok node, g₁))
    (failed : attempt node g₁.directory = (.error reason, directory)) (made : Nat) :
    g.met platform attempt tried (made + 1) =
      ({ g₁ with directory }.recordFailure node).2.met platform attempt (node.hostname :: tried)
        made := by
  rw [met, afterAttempts_succ chosen failed, met]

theorem proceeds_failure {reason : String}
    (chosen : g.selectExcluding tried platform = (.ok node, g₁))
    (failed : attempt node g₁.directory = (.error reason, directory)) {rounds : Nat}
    {next : Dispatched α}
    (rest : Proceeds platform attempt rounds (node.hostname :: tried)
      (some (.nodeOperation node.hostname reason)) ({ g₁ with directory }.recordFailure node).2
      next) :
    Proceeds platform attempt (rounds + 1) tried last g
      ⟨node :: next.attempts, next.result⟩ := by
  have shifted := afterAttempts_succ chosen failed
  -- Attempt zero is the one at hand, and all others are attempts of the remaining rounds.
  constructor
  case bounded => exact Nat.succ_le_succ rest.bounded
  case chosen =>
    rintro (_ | made) node' found
    · cases found
      exact congrArg Prod.fst chosen
    · rw [shifted, List.take_succ_cons, triedAfter_cons]
      exact rest.chosen made node' found
  case failed =>
    rintro (_ | made) node' found later
    · cases found
      rw [met_zero chosen, failed]
      exact ⟨reason, rfl⟩
    · rw [met_succ chosen failed]
      exact rest.failed made node' found (Nat.lt_of_succ_lt_succ later)
  case empty => exact nofun
  case final =>
    rintro (_ | made) node' found ended
    · cases found
      rw [met_zero chosen, failed, rest.empty (List.length_eq_zero_iff.1 (Nat.succ.inj ended).symm)]
      rfl
    · rw [met_succ chosen failed]
      exact rest.final made node' found (Nat.succ.inj ended)
  case next =>
    rintro (_ | made) node' reason' found failed'
    · cases found
      rw [met_zero chosen, failed, shifted]
      change _ = ({ (g.selectExcluding tried platform).2 with directory }.recordFailure node).2
      rw [chosen]
      rfl
    · rw [met_succ chosen failed] at failed' ⊢
      rw [shifted, shifted, List.take_succ_cons, triedAfter_cons]
      exact rest.next made node' reason' found failed'
  case stopped =>
    intro e refused
    rw [triedAfter_cons, List.length_cons, shifted]
    exact (rest.stopped e refused).imp_left (congrArg Nat.succ)

end Steps

theorem proceeds_dispatchRounds (platform : String) (attempt : Attempt σ α) (rounds : Nat)
    (tried : List String) (last : Option GatewayError) (g : Gateway σ) :
    Proceeds platform attempt rounds tried last g
      (dispatchRounds platform attempt rounds tried last g).1 := by
  induction rounds generalizing tried last g with
  | zero => exact proceeds_used_up
  | succ rounds ih =>
      rcases hs : g.selectExcluding tried platform with ⟨_ | node, g₁⟩
      · rw [dispatchRounds_of_refused hs]
        exact proceeds_refused hs rounds
      · rcases ha : attempt node g₁.directory with ⟨reason | value, directory⟩
        · rw [dispatchRounds_of_failure hs ha]
          exact proceeds_failure hs ha (ih _ _ _)
        · rw [dispatchRounds_of_success hs ha]
          exact proceeds_success hs ha rounds

/-! ## Discipline -/

def outcomes (g : Gateway σ) (platform : String) (attempt : Attempt σ α) (nodes : List Node) :
    List (Except String α) :=
  nodes.mapIdx fun made node => (attempt node (g.met platform attempt [] made)).1

/-- What a dispatch keeps to. -/
structure Disciplined (platform : String) (maxRetries : UInt32) (attempt : Attempt σ α)
    (g : Gateway σ) (report : Dispatched α) : Prop where
  /-- No node is tried twice. -/
  distinct : (report.attempts.map (·.hostname)).Nodup
  bounded : report.attempts.length ≤ maxRetries.toNat + 1
  first : g.afterAttempts platform attempt [] 0 = g
  /-- The next choice is made when the failure is recorded in the directory that the attempt
  left. -/
  onward : ∀ (made : Nat) (node : Node) (reason : String), report.attempts[made]? = some node →
    (attempt node (g.met platform attempt [] made)).1 = .error reason →
      let directory := (attempt node (g.met platform attempt [] made)).2
      (g.afterAttempts platform attempt [] (made + 1)).directory =
        (Directory.updateNode (registered node directory).withFailure
          (Directory.noteLookup directory)).2
  limit : ∀ made,
    (g.afterAttempts platform attempt [] made).maxConsecutiveErrors = g.maxConsecutiveErrors
  /-- Every choice is the best one at its time. -/
  best : ∀ (made : Nat) (node : Node), report.attempts[made]? = some node →
    let now := g.afterAttempts platform attempt [] made
    let tried := (report.attempts.take made).map (·.hostname)
    now.MayTry platform tried node ∧
      ∀ other, now.MayTry platform tried other → node.priority ≤ other.priority
  /-- A dispatch gives up when its attempts are used up or no node is left. -/
  stopped : ∀ e, report.result = .error e →
    report.attempts.length = maxRetries.toNat + 1 ∨
      ∀ node, ¬ (g.afterAttempts platform attempt [] report.attempts.length).MayTry platform
        (report.attempts.map (·.hostname)) node
  succeeded : ∀ value, report.result = .ok value ↔
    (g.outcomes platform attempt report.attempts).getLast? = some (.ok value)
  failed : ∀ hostname reason, report.result = .error (.nodeOperation hostname reason) ↔
    (∀ outcome ∈ g.outcomes platform attempt report.attempts, ∃ r, outcome = .error r) ∧
      (report.attempts.getLast?).map (·.hostname) = some hostname ∧
      (g.outcomes platform attempt report.attempts).getLast? = some (.error reason)
  untried : ∀ name, report.result = .error (.noNodeAvailable name) ↔
    report.attempts = [] ∧ name = platform

section Reports

variable {rounds : Nat} {report : Dispatched α}

theorem Proceeds.best (proceeds : Proceeds platform attempt rounds [] none g report) {made : Nat}
    {node : Node} (tried : report.attempts[made]? = some node) :
    (g.afterAttempts platform attempt [] made).MayTry platform
        ((report.attempts.take made).map (·.hostname)) node ∧
      ∀ other, (g.afterAttempts platform attempt [] made).MayTry platform
        ((report.attempts.take made).map (·.hostname)) other → node.priority ≤ other.priority := by
  obtain ⟨free, least⟩ := best_of_selectExcluding (proceeds.chosen made node tried)
  exact ⟨mayTry_triedAfter_nil.1 free, fun other h => least other (mayTry_triedAfter_nil.2 h)⟩

theorem Proceeds.distinct (proceeds : Proceeds platform attempt rounds [] none g report) :
    (report.attempts.map (·.hostname)).Nodup := by
  rw [List.Nodup, List.pairwise_map, List.pairwise_iff_getElem]
  intro earlier later _ inside before same
  have free := (proceeds.best (List.getElem?_eq_getElem inside)).1.untried
  refine free (same ▸ List.mem_map_of_mem ?_)
  exact List.mem_take_iff_getElem.2 ⟨earlier, by omega, rfl⟩

/-- A dispatch without attempts has no node to send to; any other answers as its last attempt
ended. -/
theorem Proceeds.result_cases (proceeds : Proceeds platform attempt rounds [] none g report) :
    (report.attempts = [] ∧ report.result = .error (.noNodeAvailable platform)) ∨
      ∃ node outcome, report.attempts.getLast? = some node ∧
        (g.outcomes platform attempt report.attempts).getLast? = some outcome ∧
        report.result = outcome.mapError (.nodeOperation node.hostname) := by
  cases hlast : report.attempts.getLast? with
  | none =>
      have empty := List.getLast?_eq_none_iff.1 hlast
      exact .inl ⟨empty, proceeds.empty empty⟩
  | some node =>
      have tried := hlast
      rw [List.getLast?_eq_getElem?] at tried
      have nonempty : report.attempts.length ≠ 0 := by
        intro empty
        rw [List.length_eq_zero_iff.1 empty] at tried
        cases tried
      refine .inr ⟨node, _, rfl, ?_, proceeds.final _ node tried (by omega)⟩
      rw [outcomes, List.getLast?_mapIdx, hlast]
      rfl

/-- Only the last attempt of a dispatch can succeed. -/
theorem Proceeds.all_failed (proceeds : Proceeds platform attempt rounds [] none g report)
    {reason : String}
    (failed : (g.outcomes platform attempt report.attempts).getLast? = some (.error reason)) :
    ∀ outcome ∈ g.outcomes platform attempt report.attempts, ∃ r, outcome = .error r := by
  intro outcome houtcome
  obtain ⟨made, inside, rfl⟩ := List.mem_mapIdx.1 houtcome
  have tried := List.getElem?_eq_getElem inside
  by_cases later : made + 1 < report.attempts.length
  · exact proceeds.failed made _ tried later
  · have ended : report.attempts.length - 1 = made := by omega
    rw [outcomes, List.getLast?_mapIdx, List.getLast?_eq_getElem?, ended, tried] at failed
    exact ⟨reason, Option.some.inj failed⟩

theorem Proceeds.disciplined {maxRetries : UInt32}
    (proceeds : Proceeds platform attempt (maxRetries.toNat + 1) [] none g report) :
    Disciplined platform maxRetries attempt g report where
  distinct := proceeds.distinct
  bounded := proceeds.bounded
  first := rfl
  onward := by
    intro made node reason tried failed directory
    rw [proceeds.next made node reason tried failed]
    exact directory_recordFailure _ node
  limit := fun made => (sameSettings_dispatchRounds made [] none).limit
  best := fun _ _ tried => proceeds.best tried
  stopped := by
    intro e refused
    exact (proceeds.stopped e refused).imp_right fun left node free =>
      left node (mayTry_triedAfter_nil.2 free)
  succeeded := by
    intro value
    rcases proceeds.result_cases with ⟨empty, result⟩ | ⟨node, outcome, -, ended, result⟩
    · simp [result, empty, outcomes]
    · rw [result, ended]
      cases outcome <;> simp [Except.mapError]
  failed := by
    intro hostname reason
    rcases proceeds.result_cases with ⟨empty, result⟩ | ⟨node, outcome, last, ended, result⟩
    · simp [result, empty]
    · rw [result, ended, last]
      cases outcome with
      | ok value => simp [Except.mapError]
      | error reason' =>
          have all := proceeds.all_failed ended
          simp only [Except.mapError, Except.error.injEq, GatewayError.nodeOperation.injEq,
            Option.map_some, Option.some.injEq]
          exact ⟨fun same => ⟨all, same⟩, fun same => same.2⟩
  untried := by
    intro name
    rcases proceeds.result_cases with ⟨empty, result⟩ | ⟨node, outcome, last, -, result⟩
    · simp [result, empty, eq_comm]
    · have some : report.attempts ≠ [] := fun empty => by
        rw [empty] at last
        cases last
      rw [result]
      cases outcome <;> simp [Except.mapError, some]

end Reports

end Rounds

end Switchboard.Gateway
