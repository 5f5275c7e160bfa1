import Whittle.Proofs.Guard.Pruning
import Whittle.Proofs.Syntax.Numbering
import Whittle.Refactor

namespace Whittle

namespace Node

-- The guard that a node is, if it is a decided condition.
def guard? (v : Verdicts) : Node → Option Guard
  | .stmt (.ifElse (some l) test body orelse) =>
    (v.decide test orelse).map fun isNew => ⟨l, if isNew then .hoist else .drop, body⟩
  | _ => none

theorem guard_form {v : Verdicts} {n : Node} {g : Guard} (found : n.guard? v = some g) :
    ∃ test orelse isNew, n = .stmt (.ifElse (some g.label) test g.body orelse) ∧ v.decide test orelse = some isNew ∧
      g.action = if isNew then .hoist else .drop := by
  unfold guard? at found
  split at found
  · obtain ⟨isNew, decided, rfl⟩ := Option.map_eq_some_iff.mp found
    exact ⟨_, _, isNew, rfl, decided, rfl⟩
  · cases found

theorem guards_of_blockless (v : Verdicts) {n : Node} (holds : n.isBlockless) : n.walk.filterMap (guard? v) = [] := by
  apply List.filterMap_eq_nil_iff.mpr
  intro x member
  have plain := isBlockless_of_mem_walk holds member
  cases x with
  | stmt s => cases plain
  | _ => rfl

end Node

-- What the rule makes of a node with the nodes above it.
def guardAt (constant : String) (target : Int) (x : Node.Located) : Option Guard :=
  match x.node with
  | .expr mention => if mention.dottedName? = some constant then Guard.around? target mention x.ancestors else none
  | _ => none

-- Ancestors that make no mention below them one of a guard: neither the node above is a condition, nor is it a
-- comparison right below one.
def Calm : List Node → Prop
  | .stmt (.ifElse ..) :: _ => False
  | .expr (.compare ..) :: .stmt (.ifElse ..) :: _ => False
  | _ => True

theorem around_of_calm {above : List Node} (calm : Calm above) (target : Int) (mention : Expr) :
    Guard.around? target mention above = none := by
  unfold Guard.around?
  split
  · exact calm.elim
  · rfl

theorem guardAt_of_calm {n : Node} {above : List Node} (calm : Calm above) (constant : String) (target : Int) :
    guardAt constant target ⟨n, above⟩ = none := by
  cases n with
  | expr mention => simp [guardAt, around_of_calm calm]
  | _ => rfl

theorem calm_cons {n : Node} {above : List Node} (plain : n.isBlockless) (calm : Calm above) : Calm (n :: above) := by
  cases n with
  | stmt s => cases plain
  | expr e =>
    cases e with
    | compare l left ops comparators =>
      cases above with
      | nil => trivial
      | cons a rest =>
        cases a with
        | stmt s => cases s with
          | ifElse => exact calm
          | _ => trivial
        | _ => trivial
    | _ => trivial
  | _ => trivial

theorem none_found_of_calm {n : Node} (plain : n.isBlockless) {above : List Node} (calm : Calm above)
    (constant : String) (target : Int) :
    (Node.locate n.size above n).filterMap (guardAt constant target) = [] := by
  induction n using Node.induct generalizing above with
  | step n ih =>
    rw [Node.locate_eq, List.filterMap_cons, guardAt_of_calm calm, List.filterMap_flatMap]
    apply List.flatMap_eq_nil_iff.mpr
    intro c child
    exact ih c child (Node.isBlockless_of_child plain child) (calm_cons plain calm)

theorem dottedName_of_integer {e : Expr} {n : Nat} (literal : e.integer? = some n) : e.dottedName? = none := by
  cases e with
  | constant l value => rfl
  | _ => cases literal

theorem around_test (target : Int) (mention left right : Expr) (op : CompareOp) (l : Label) (outer : Nat) (test : Expr)
    (body : Block) (above : List Node) :
    Guard.around? target mention
        (.expr (.compare l left [op] [right]) :: .stmt (.ifElse (some outer) test body []) :: above) =
      (GuardAction.of? op (left.label == mention.label)).bind fun action =>
        (if left.label == mention.label then right else left).integer?.bind fun n =>
          if target ≤ n then some ⟨outer, action, body⟩ else none := by
  simp only [Guard.around?, bind]
  congr 1
  funext action
  cases (if left.label == mention.label then right else left) with
  | constant l value => cases value <;> rfl
  | _ => rfl

section

variable {constant : String} {left right : Expr} (target : Int) (l : Label) (op : CompareOp)

theorem verdict_of_left (named : left.dottedName? = some constant) :
    Verdicts.ofTarget constant target (.compare l left [op] [right]) =
      (GuardAction.of? op true).bind fun action =>
        right.integer?.bind fun n => if target ≤ n then some (action == .hoist) else none := by
  simp only [Verdicts.ofTarget, Comparison.of?, if_pos named]
  cases right.integer? <;> cases op <;> rfl

theorem verdict_of_right (other : left.dottedName? ≠ some constant) (named : right.dottedName? = some constant) :
    Verdicts.ofTarget constant target (.compare l left [op] [right]) =
      (GuardAction.of? op false).bind fun action =>
        left.integer?.bind fun n => if target ≤ n then some (action == .hoist) else none := by
  simp only [Verdicts.ofTarget, Comparison.of?, if_neg other, if_pos named]
  cases left.integer? <;> cases op <;> rfl

theorem verdict_of_neither (otherLeft : left.dottedName? ≠ some constant) (otherRight : right.dottedName? ≠ some constant) :
    Verdicts.ofTarget constant target (.compare l left [op] [right]) = none := by
  simp only [Verdicts.ofTarget, Comparison.of?, if_neg otherLeft, if_neg otherRight, Option.bind_none]

theorem guard_of_verdict (outer : Nat) (body : Block) (action : Option GuardAction) (literal : Option Nat) :
    ((action.bind fun action => literal.bind fun n => if target ≤ n then some (action == .hoist) else none).map
        fun isNew => (⟨outer, if isNew then .hoist else .drop, body⟩ : Guard)) =
      action.bind fun action => literal.bind fun n => if target ≤ n then some ⟨outer, action, body⟩ else none := by
  cases action with
  | none => rfl
  | some action =>
    cases literal with
    | none => rfl
    | some n =>
      simp only [Option.bind_some]
      split
      · cases action <;> rfl
      · rfl

end

-- The two operands are told apart by their labels.
theorem found_at_operands (constant : String) (target : Int) (l : Label) (left right : Expr) (op : CompareOp)
    (outer : Nat) (body : Block) (above : List Node) (apart : left.label ≠ right.label) :
    let test : Expr := .compare l left [op] [right]
    let up := .expr test :: .stmt (.ifElse (some outer) test body []) :: above
    (guardAt constant target ⟨.expr left, up⟩).toList ++ (guardAt constant target ⟨.expr right, up⟩).toList =
      (Node.guard? (.ofTarget constant target) (.stmt (.ifElse (some outer) test body []))).toList := by
  have apart : (left.label == right.label) = false := by simpa using apart
  have decided (test : Expr) :
      Verdicts.decide (.ofTarget constant target) test [] = Verdicts.ofTarget constant target test := rfl
  simp only [guardAt, Node.guard?, around_test, apart, beq_self_eq_true, if_true, Bool.false_eq_true, if_false, decided]
  by_cases onLeft : left.dottedName? = some constant
  · have noLiteral : left.integer? = none := by
      cases literal : left.integer? with
      | none => rfl
      | some n =>
        rw [dottedName_of_integer literal] at onLeft
        cases onLeft
    rw [if_pos onLeft, verdict_of_left target l op onLeft, guard_of_verdict, noLiteral]
    simp only [Option.bind_none, Option.bind_fun_none, ite_self, Option.toList_none, List.append_nil]
  · rw [if_neg onLeft, Option.toList_none, List.nil_append]
    by_cases onRight : right.dottedName? = some constant
    · rw [if_pos onRight, verdict_of_right target l op onLeft onRight, guard_of_verdict]
    · rw [if_neg onRight, verdict_of_neither target l op onLeft onRight, Option.map_none]

theorem calm_below_expr {n : Node} (plain : n.isBlockless) (e : Expr) (above : List Node) :
    Calm (n :: .expr e :: above) := by
  cases n with
  | stmt s => cases plain
  | expr inner => cases inner <;> trivial
  | _ => trivial

-- Of all below a test, only its direct operands count.
theorem found_below_test {test : Expr} {n : Node} (child : n ∈ test.children) (above : List Node) (constant : String)
    (target : Int) :
    (Node.locate n.size (.expr test :: above) n).filterMap (guardAt constant target) =
      (guardAt constant target ⟨n, .expr test :: above⟩).toList := by
  have plain : n.isBlockless := Node.isBlockless_of_child (n := .expr test) rfl child
  rw [Node.locate_eq, List.filterMap_cons, List.filterMap_flatMap]
  have deeper : n.children.flatMap (fun c =>
      (Node.locate c.size (n :: .expr test :: above) c).filterMap (guardAt constant target)) = [] := by
    apply List.flatMap_eq_nil_iff.mpr
    intro c grandchild
    exact none_found_of_calm (Node.isBlockless_of_child plain grandchild) (calm_below_expr plain test above) _ _
  rw [deeper]
  cases guardAt constant target ⟨n, .expr test :: above⟩ <;> rfl

-- The form that a condition must have to be a guard.
def HasGuardForm (l : Label) (test : Expr) (orelse : Block) : Prop :=
  ∃ outer k left op right, l = some outer ∧ test = .compare k left [op] [right] ∧ orelse = []

theorem around_of_no_form {l : Label} {test : Expr} {orelse : Block} (formless : ¬HasGuardForm l test orelse)
    (target : Int) (mention : Expr) (body : Block) (above : List Node) :
    Guard.around? target mention (.expr test :: .stmt (.ifElse l test body orelse) :: above) = none := by
  unfold Guard.around?
  split
  · rename_i k left op right outer inner held rest same
    cases same
    exact absurd ⟨outer, k, left, op, right, rfl, rfl, rfl⟩ formless
  · rfl

theorem comparison_form {constant : String} {test : Expr} {c : Comparison}
    (compares : Comparison.of? constant test = some c) : ∃ k left op right, test = .compare k left [op] [right] := by
  unfold Comparison.of? at compares
  split at compares
  · exact ⟨_, _, _, _, rfl⟩
  · cases compares

theorem guard_of_no_form {l : Label} {test : Expr} {orelse : Block} (formless : ¬HasGuardForm l test orelse)
    (constant : String) (target : Int) (body : Block) :
    Node.guard? (.ofTarget constant target) (.stmt (.ifElse l test body orelse)) = none := by
  cases l with
  | none => rfl
  | some outer =>
    cases orelse with
    | cons s rest => rfl
    | nil =>
      cases compares : Comparison.of? constant test with
      | none => simp [Node.guard?, Verdicts.decide, Verdicts.ofTarget, compares]
      | some c =>
        obtain ⟨k, left, op, right, rfl⟩ := comparison_form compares
        exact absurd ⟨outer, k, left, op, right, rfl, rfl, rfl⟩ formless

theorem found_at_test (constant : String) (target : Int) (l : Label) (test : Expr) (body orelse : Block)
    (above : List Node)
    (apart : ∀ k left op right, test = .compare k left [op] [right] → left.label ≠ right.label) :
    (Node.locate test.size (.stmt (.ifElse l test body orelse) :: above) (.expr test)).filterMap
        (guardAt constant target) =
      (Node.guard? (.ofTarget constant target) (.stmt (.ifElse l test body orelse))).toList := by
  change (Node.locate (Node.expr test).size _ _).filterMap _ = _
  rw [Node.locate_eq, List.filterMap_cons, List.filterMap_flatMap]
  have operands : (Node.expr test).children.flatMap (fun c =>
      (Node.locate c.size (.expr test :: .stmt (.ifElse l test body orelse) :: above) c).filterMap
        (guardAt constant target)) =
      test.children.flatMap fun c =>
        (guardAt constant target ⟨c, .expr test :: .stmt (.ifElse l test body orelse) :: above⟩).toList :=
    List.flatMap_congr fun c child => found_below_test child _ _ _
  have itself : guardAt constant target ⟨.expr test, .stmt (.ifElse l test body orelse) :: above⟩ = none := by
    simp [guardAt, Guard.around?]
  rw [operands, itself]
  by_cases form : HasGuardForm l test orelse
  · obtain ⟨outer, k, left, op, right, rfl, rfl, rfl⟩ := form
    have found := found_at_operands constant target k left right op outer body above (apart _ _ _ _ rfl)
    simpa [Expr.children, Node.ofExprs, guardAt] using found
  · rw [guard_of_no_form form]
    apply List.flatMap_eq_nil_iff.mpr
    intro c child
    cases c with
    | expr mention => simp [guardAt, around_of_no_form form]
    | _ => rfl

-- Operands of a comparison that stand apart by their labels.
def Apart (n : Node) : Prop :=
  ∀ k left op right, .expr (.compare k left [op] [right]) ∈ n.walk → left.label ≠ right.label

theorem Apart.child {n c : Node} (apart : Apart n) (child : c ∈ n.children) : Apart c :=
  fun k left op right member => apart k left op right (Node.mem_walk_of_child child member)

theorem found_below (constant : String) (target : Int) {n : Node} {above : List Node}
    (each : ∀ c ∈ n.children, ¬c.isBlockless →
      (Node.locate c.size (n :: above) c).filterMap (guardAt constant target) =
        c.walk.filterMap (Node.guard? (.ofTarget constant target)))
    (calm : Calm (n :: above)) :
    (n.children.flatMap fun c => Node.locate c.size (n :: above) c).filterMap (guardAt constant target) =
      (n.children.flatMap Node.walk).filterMap (Node.guard? (.ofTarget constant target)) := by
  rw [List.filterMap_flatMap, List.filterMap_flatMap]
  apply List.flatMap_congr
  intro c child
  by_cases plain : c.isBlockless
  · rw [none_found_of_calm plain calm, Node.guards_of_blockless _ plain]
  · exact each c child plain

theorem found_in (constant : String) (target : Int) {n : Node} (holder : ¬n.isBlockless) (apart : Apart n)
    (above : List Node) :
    (Node.locate n.size above n).filterMap (guardAt constant target) =
      n.walk.filterMap (Node.guard? (.ofTarget constant target)) := by
  induction n using Node.induct generalizing above with
  | step n ih =>
    have each : ∀ c ∈ n.children, ¬c.isBlockless →
        (Node.locate c.size (n :: above) c).filterMap (guardAt constant target) =
          c.walk.filterMap (Node.guard? (.ofTarget constant target)) :=
      fun c child below => ih c child below (apart.child child) _
    rw [Node.locate_eq, Node.walk_eq]
    cases n with
    | module m => exact found_below constant target each trivial
    | handler h => exact found_below constant target each trivial
    | matchCase c => exact found_below constant target each trivial
    | stmt s =>
      cases s with
      | ifElse l test body orelse =>
        have atTest := found_at_test constant target l test body orelse above
          fun k left op right same => apart k left op right (by
            subst same
            exact Node.mem_walk_of_child List.mem_cons_self (Node.self_mem_walk _))
        have atBlocks : ∀ c ∈ Node.ofStmts body ++ Node.ofStmts orelse,
            (Node.locate c.size (.stmt (.ifElse l test body orelse) :: above) c).filterMap (guardAt constant target) =
              c.walk.filterMap (Node.guard? (.ofTarget constant target)) := by
          intro c member
          have holds : ¬c.isBlockless := by
            simp only [List.mem_append, Node.mem_ofStmts] at member
            obtain ⟨s, -, rfl⟩ | ⟨s, -, rfl⟩ := member <;> simp [Node.isBlockless]
          exact each c (List.mem_cons_of_mem _ member) holds
        have listed : (Node.stmt (.ifElse l test body orelse)).children =
            .expr test :: (Node.ofStmts body ++ Node.ofStmts orelse) := rfl
        have below := List.flatMap_congr atBlocks
        rw [← List.filterMap_flatMap, ← List.filterMap_flatMap] at below
        simp only [listed, List.flatMap_cons, List.filterMap_cons, List.filterMap_append, below,
          Node.guards_of_blockless _ (show (Node.expr test).isBlockless from rfl), List.nil_append]
        change (Node.locate test.size _ _).filterMap _ ++ _ = _
        rw [atTest]
        cases Node.guard? (.ofTarget constant target) (.stmt (.ifElse l test body orelse)) <;> rfl
      | _ => exact found_below constant target each trivial
    | _ => exact absurd rfl holder

theorem Module.apart_number (m : Module) : Apart (.module m.number) := by
  intro k left op right member same
  have siblings : [Node.expr left, .expr right].Sublist
      (Node.expr (.compare k left [op] [right])).children := by
    exact .cons_cons _ (.cons _ (.refl _))
  exact Module.disjoint_siblings member siblings (List.mem_singleton.mpr rfl) (List.mem_singleton.mpr same)

-- The guards of a module, in source order.
def Module.guards (v : Verdicts) (m : Module) : List Guard := (Node.module m).walk.filterMap (Node.guard? v)

theorem found_in_module (constant : String) (target : Int) (m : Module) :
    (Node.module m.number).located.filterMap (guardAt constant target) =
      m.number.guards (.ofTarget constant target) :=
  found_in constant target (by simp [Node.isBlockless]) m.apart_number []

def Guard.weights : List Guard → Nat
  | [] => 0
  | g :: rest => g.weight + weights rest

@[simp] theorem Guard.weights_nil : weights [] = 0 := rfl

@[simp] theorem Guard.weights_cons (g : Guard) (rest : List Guard) :
    weights (g :: rest) = g.weight + weights rest := rfl

section Traverse

variable (ns : Namespace) (constant : String) (target : Int) (known : Option Value)

theorem visit_guard (changes : Nat) (l : Node.Located) (d : Draft) :
    ActiveRule.visit ns l ⟨.versionGuard ⟨constant, some target, known⟩, changes⟩ d =
      (⟨.versionGuard ⟨constant, some target, known⟩,
        changes + Guard.weights (guardAt constant target l).toList⟩,
       { d with edits := (guardAt constant target l).toList.foldl (fun e g => g.enter e) d.edits }, none) := by
  obtain ⟨node, above⟩ := l
  cases node with
  | expr mention =>
    by_cases named : mention.dottedName? = some constant
    · cases found : Guard.around? target mention above <;>
        simp [ActiveRule.visit, ActiveRule.visitGuard, VersionGuard.mentions, VersionGuard.settle, guardAt, named,
          found]
    · simp [ActiveRule.visit, ActiveRule.visitGuard, VersionGuard.mentions, guardAt, named]
  | _ => simp [ActiveRule.visit, ActiveRule.visitGuard, guardAt]

theorem traverse_guards (ls : List Node.Located) (changes : Nat) (d : Draft) :
    ActiveRule.traverse ns ls [⟨.versionGuard ⟨constant, some target, known⟩, changes⟩] d =
      ⟨[⟨.versionGuard ⟨constant, some target, known⟩,
        changes + Guard.weights (ls.filterMap (guardAt constant target))⟩],
       { d with edits := (ls.filterMap (guardAt constant target)).foldl (fun e g => g.enter e) d.edits }, none⟩ := by
  induction ls generalizing changes d with
  | nil => rfl
  | cons l rest ih =>
    simp only [ActiveRule.traverse, ActiveRule.visitAll, visit_guard, Option.isSome_none, Bool.false_eq_true, if_false,
      ih, List.filterMap_cons]
    cases guardAt constant target l <;> simp [Nat.add_assoc]

end Traverse

end Whittle
