import Whittle.Proofs.Syntax.Pristine

namespace Whittle

open Node

abbrev Pattern.Pristine (p : Pattern) : Prop := (Node.pattern p).Pristine

abbrev Stmt.Pristine (s : Stmt) : Prop := (Node.stmt s).Pristine

-- A simple statement on its own line.
abbrev Simple.Pristine (s : Simple) : Prop := (Stmt.simple none s).Pristine

namespace Parser

variable {n : Nat} {rules : Rules}

section Patterns

theorem signedNumber_pristine : Reads signedNumber fun r => r.1.Pristine := by
  refine .skip fun negative => .skip fun next => ?_
  split
  · refine .skip fun _ => .pure ?_
    split
    · exact unaryOp_pristine _ (Expr.pristine_constant _)
    · exact Expr.pristine_constant _
  · exact .failure

theorem numberPattern_pristine : Reads numberPattern Expr.Pristine := by
  refine .bind signedNumber_pristine fun ⟨left, value⟩ here => .skip fun op => ?_
  split
  · exact .pure here
  · refine .skip fun next => ?_
    split
    · exact .failure
    · exact .skip fun _ => .pure (binOp_pristine _ _ _ here (Expr.pristine_constant _))
    · exact .failure

theorem dotted_pristine : Reads (dotted n) Expr.Pristine := by
  refine .skip fun first => .skip fun attrs => .pure ?_
  refine List.foldlRecOn attrs _ (Expr.pristine_name _) fun e here a _ => Expr.pristine_of rfl rfl ?_
  simpa [Expr.children] using here

theorem sequence_pristine {ps : List Pattern} (each : ∀ p ∈ ps, p.Pristine) : (Pattern.sequence none ps).Pristine :=
  .mk rfl rfl (by simpa [Node.children, Pattern.children] using each)

theorem value_pristine {e : Expr} (here : e.Pristine) : (Pattern.value none e).Pristine :=
  .mk rfl rfl (by simpa [Node.children, Pattern.children] using here)

-- Patterns that hold nothing but names.
theorem name_pristine (label : p.label = none) (childless : p.children = []) : Pattern.Pristine p :=
  .mk label (by cases p <;> rfl) (by simp [Node.children, childless])

variable (good : ∀ r, Reads (rules r) r.Pristine)

include good

theorem literalExpr_pristine : Reads (literalExpr n rules) Expr.Pristine := by
  intro ts e rest read
  unfold literalExpr at read
  split at read
  · exact numberPattern_pristine _ _ _ read
  · exact numberPattern_pristine _ _ _ read
  · exact texts_pristine good _ _ _ read
  · cases read
    exact Expr.pristine_constant _
  · cases read
    exact Expr.pristine_constant _
  · cases read
    exact Expr.pristine_constant _
  · cases read

theorem literalPattern_pristine : Reads (literalPattern n rules) Pattern.Pristine := by
  refine .bind (literalExpr_pristine good) fun e here => ?_
  split
  · exact .pure (name_pristine rfl rfl)
  · exact .pure (name_pristine rfl rfl)
  · exact .pure (value_pristine here)

theorem maybeStarPattern_pristine : Reads (maybeStarPattern rules) Pattern.Pristine := by
  refine .skip fun _ => .ite (.skip fun next => ?_) (good .pattern)
  split
  · exact .skip fun _ => .pure (name_pristine rfl rfl)
  · exact .skip fun _ => .pure (name_pristine rfl rfl)

theorem parenthesisedPattern_pristine : Reads (parenthesisedPattern n rules) Pattern.Pristine := by
  refine .skip fun _ => .ite (.pure (sequence_pristine (List.forall_mem_nil _))) ?_
  refine .bind (.commaList (maybeStarPattern_pristine good) n) fun ⟨ps, trailing⟩ each => .skip fun _ => ?_
  split
  · exact .ite .failure (.pure (each _ List.mem_cons_self))
  · exact .pure (sequence_pristine each)

theorem bracketedPattern_pristine : Reads (bracketedPattern n rules) Pattern.Pristine := by
  refine .skip fun _ => .ite (.pure (sequence_pristine (List.forall_mem_nil _))) ?_
  refine .bind (.commaList (maybeStarPattern_pristine good) n) fun ⟨ps, trailing⟩ each => .skip fun _ => ?_
  exact .pure (sequence_pristine each)

-- An entry of a mapping pattern.
theorem mappingItem_pristine : Reads (mappingItem n rules) fun item =>
    ∀ key p, item = .inl (key, p) → key.Pristine ∧ p.Pristine := by
  refine .skip fun _ => .ite (.skip fun id => .pure nofun) ?_
  refine .bind (P := Expr.Pristine) (.skip fun next => ?_) fun key known => .skip fun _ => ?_
  · split
    · refine .bind dotted_pristine fun e here => ?_
      split
      · exact .pure here
      · exact .failure
    · exact literalExpr_pristine good
  · refine .bind (good .pattern) fun p here => .pure ?_
    rintro _ _ ⟨⟩
    exact ⟨known, here⟩

omit good in
theorem splitMapping_pristine {items : List (Expr × Pattern ⊕ String)}
    (each : ∀ item ∈ items, ∀ key p, item = .inl (key, p) → key.Pristine ∧ p.Pristine) :
    Finds (splitMapping items) fun r => (∀ e ∈ r.1, e.Pristine) ∧ ∀ p ∈ r.2.1, p.Pristine := by
  fun_induction splitMapping items with
  | case1 => exact .some (by simp)
  | case2 => exact .some (by simp)
  | case3 => exact .none
  | case4 key p more ih =>
    rw [List.forall_mem_cons] at each
    obtain ⟨known, here⟩ := each.1 key p rfl
    refine .map fun r found => ?_
    obtain ⟨keys, patterns⟩ := ih each.2 r found
    exact ⟨List.forall_mem_cons.mpr ⟨known, keys⟩, List.forall_mem_cons.mpr ⟨here, patterns⟩⟩

theorem bracedPattern_pristine : Reads (bracedPattern n rules) Pattern.Pristine := by
  refine .skip fun _ => .ite (.pure (name_pristine rfl rfl)) ?_
  refine .bind (.commaList (mappingItem_pristine good) n) fun items each => .skip fun _ => ?_
  refine .bind (.lift (splitMapping_pristine each)) fun ⟨keys, patterns, rest⟩ ⟨known, here⟩ => .pure (.mk rfl rfl ?_)
  simpa [Node.children, Pattern.children, or_imp, forall_and] using And.intro known here

theorem classItem_pristine : Reads (classItem rules) fun item => item.2.Pristine := by
  refine .skip fun t => .skip fun u => ?_
  split
  · exact .skip fun _ => .skip fun _ => .bind (good .pattern) fun p here => .pure here
  · exact .bind (good .pattern) fun p here => .pure here

omit good in
theorem splitClass_pristine {items : List (Option String × Pattern)} (each : ∀ item ∈ items, item.2.Pristine) :
    Finds (splitClass items) fun r => (∀ p ∈ r.1, p.Pristine) ∧ ∀ p ∈ r.2.2, p.Pristine := by
  fun_induction splitClass items with
  | case1 => exact .some (by simp)
  | case2 p more ih =>
    rw [List.forall_mem_cons] at each
    refine .map fun r found => ?_
    obtain ⟨plain, named⟩ := ih each.2 r found
    exact ⟨List.forall_mem_cons.mpr ⟨each.1, plain⟩, named⟩
  | case3 a p more ih =>
    rw [List.forall_mem_cons] at each
    refine .bind (ih each.2) fun ⟨ps, as, ks⟩ ⟨plain, named⟩ => .ite (.some ⟨by simp, ?_⟩) .none
    exact List.forall_mem_cons.mpr ⟨each.1, named⟩

theorem namePattern_pristine : Reads (namePattern n rules) Pattern.Pristine := by
  refine .skip fun _ => .ite (.skip fun _ => .pure (name_pristine rfl rfl)) ?_
  refine .bind dotted_pristine fun e here => .skip fun _ => .ite ?_ (.skip fun _ => .ite .failure ?_)
  · refine .bind (P := fun items => ∀ item ∈ items, item.2.Pristine) ?_ fun items each => .skip fun _ => ?_
    · refine .skip fun _ => .ite (.pure (by simp)) ?_
      exact .bind (.commaList (classItem_pristine good) n) fun r each => .pure each
    · refine .bind (.lift (splitClass_pristine each)) fun ⟨ps, attrs, ks⟩ ⟨plain, named⟩ => .pure (.mk rfl rfl ?_)
      simpa [Node.children, Pattern.children, here, or_imp, forall_and] using And.intro plain named
  · split
    · exact .pure (name_pristine rfl rfl)
    · exact .pure (value_pristine here)

theorem closedPattern_pristine : Reads (closedPattern n rules) Pattern.Pristine := by
  intro ts p rest read
  unfold closedPattern at read
  split at read
  · exact namePattern_pristine good _ _ _ read
  · exact parenthesisedPattern_pristine good _ _ _ read
  · exact bracketedPattern_pristine good _ _ _ read
  · exact bracedPattern_pristine good _ _ _ read
  · exact literalPattern_pristine good _ _ _ read

theorem pattern_pristine : Reads (pattern n rules) Pattern.Pristine := by
  refine .bind (closedPattern_pristine good) fun first here => ?_
  refine .bind (.many (.skip fun _ => closedPattern_pristine good) n) fun rest others => ?_
  have whole : (if rest.isEmpty then first else .either none (first :: rest)).Pristine := by
    split
    · exact here
    · refine .mk rfl rfl ?_
      simpa [Node.children, Pattern.children] using And.intro here others
  refine .skip fun _ => .ite (.skip fun id => .pure (.mk rfl rfl ?_)) (.pure whole)
  simpa [Node.children, Pattern.children] using whole

theorem patterns_pristine : Reads (patterns n rules) Pattern.Pristine := by
  refine .bind (.commaList (maybeStarPattern_pristine good) n) fun ⟨ps, trailing⟩ each => ?_
  dsimp only
  split
  · exact .ite .failure (.pure (each _ List.mem_cons_self))
  · exact .pure (sequence_pristine each)

end Patterns

section Statements

theorem alias_pristine {a : Alias} (unlabelled : a.label = none) : (Node.alias a).Pristine :=
  .mk unlabelled rfl (List.forall_mem_nil _)

theorem aliases_pristine {p : Parser (List Alias)} (each : Reads p fun as => ∀ a ∈ as, a.label = none) :
    Reads p fun as => ∀ a ∈ as, (Node.alias a).Pristine :=
  fun ts as rest read a member => alias_pristine (each ts as rest read a member)

theorem fromAlias_unlabelled : Reads fromAlias fun a => a.label = none := .skip fun _ => .skip fun _ => .pure rfl

theorem fromTargets_unlabelled : Reads (fromTargets n) fun as => ∀ a ∈ as, a.label = none := by
  refine .skip fun _ => .ite (.pure (by simp)) (.skip fun _ => .ite ?_ (.strictCommaList fromAlias_unlabelled n))
  exact .bind (.commaList fromAlias_unlabelled n) fun r each => .skip fun _ => .pure each

theorem importFrom_pristine : Reads (importFrom n) Simple.Pristine := by
  refine .skip fun level => .skip fun module => .ite .failure (.skip fun _ => ?_)
  refine .bind (aliases_pristine fromTargets_unlabelled) fun names each => .pure (.mk rfl rfl ?_)
  simpa [Node.children, Stmt.children, Simple.children] using each

variable (good : ∀ r, Reads (rules r) r.Pristine)

include good

theorem annotated_pristine {target : Expr} (fits : target.Fits .store) (isSimple : Bool) :
    Reads (annotated n rules target isSimple) Simple.Pristine := by
  refine .skip fun _ => .bind (good .expression) fun hint hinted => ?_
  refine .bind (P := fun o => ∀ e ∈ o, e.Pristine) ?_ fun value given => .pure ?_
  · refine .skip fun _ => .ite (.map fun ts e rest read => ?_) (.pure (by simp))
    simpa using assigned_pristine good ts e rest read
  · refine .of_targets rfl (by simpa [targets] using fits) ?_ rfl
    simpa [Node.children, Stmt.children, Simple.children, targets, hinted] using fun e found => Or.inl (given e found)

theorem assignment_pristine : Reads (assignment n rules) Simple.Pristine := by
  refine .skip fun _ => .bind (assigned_pristine good) fun first here => .skip fun next => ?_
  split
  · refine .bind (.lift fun t turned => Expr.fits_of_single turned here.sound) fun target fits => ?_
    exact annotated_pristine good fits _
  · refine .bind (.many (.skip fun _ => assigned_pristine good) n) fun values others => ?_
    have all : ∀ e ∈ first :: values, e.Pristine := List.forall_mem_cons.mpr ⟨here, others⟩
    dsimp only
    split
    · exact .failure
    · rename_i value last
      have sound : ∀ e ∈ (first :: values).dropLast, (Node.expr e).Sound :=
        fun e member => (all e (List.dropLast_subset _ member)).sound
      have given := all value (List.mem_of_getLast? last)
      refine .bind (.lift fun ts turned => Expr.fits_of_turnedEach (by decide) _ turned sound) fun ts fits => .pure ?_
      refine .of_targets rfl (by simpa [targets] using fits) ?_ rfl
      simp +contextual [Node.children, Stmt.children, Simple.children, targets, or_imp, given]
  · refine .bind (.lift fun t turned => Expr.fits_of_single turned here.sound) fun target fits => .skip fun op => ?_
    refine .bind (assigned_pristine good) fun value given => .pure ?_
    refine .of_targets rfl (by simpa [targets] using fits) ?_ rfl
    simp [Node.children, Stmt.children, Simple.children, targets, given]
  · exact .pure (.mk rfl rfl (by simpa [Node.children, Stmt.children, Simple.children] using here))

theorem afterWord_pristine (w : Word) : Reads (afterWord n rules w) Simple.Pristine := by
  unfold afterWord
  split
  · exact .pure (.mk rfl rfl (List.forall_mem_nil _))
  · exact .pure (.mk rfl rfl (List.forall_mem_nil _))
  · exact .pure (.mk rfl rfl (List.forall_mem_nil _))
  · refine .skip fun _ => .ite (.pure (.mk rfl rfl (List.forall_mem_nil _))) ?_
    refine .bind (starExpressions_pristine good) fun e here => .pure (.mk rfl rfl ?_)
    simpa [Node.children, Stmt.children, Simple.children] using here
  · refine .skip fun _ => .ite (.pure (.mk rfl rfl (List.forall_mem_nil _))) ?_
    refine .bind (good .expression) fun exc here => .skip fun _ => .ite ?_ (.pure (.mk rfl rfl ?_))
    · refine .bind (good .expression) fun cause given => .pure (.mk rfl rfl ?_)
      simpa [Node.children, Stmt.children, Simple.children, or_imp, forall_and] using And.intro here given
    · simpa [Node.children, Stmt.children, Simple.children] using here
  · exact .skip fun _ => .pure (.mk rfl rfl (List.forall_mem_nil _))
  · exact .skip fun _ => .pure (.mk rfl rfl (List.forall_mem_nil _))
  · refine .bind (.commaList (good .primary) n) fun r each => .skip fun _ => .ite .failure ?_
    have sound : ∀ e ∈ r.1, (Node.expr e).Sound := fun e member => (each e member).sound
    refine .bind (.lift fun ts turned => Expr.fits_of_turnedEach (by decide) _ turned sound) fun ts fits => .pure ?_
    refine .of_targets rfl (by simpa [targets] using fits) ?_ rfl
    simp +contextual [Node.children, Stmt.children, Simple.children, targets]
  · refine .bind (good .expression) fun test tested => .skip fun _ => .ite ?_ (.pure (.mk rfl rfl ?_))
    · refine .bind (good .expression) fun msg given => .pure (.mk rfl rfl ?_)
      simp [Node.children, Stmt.children, Simple.children, tested, given]
    · simpa [Node.children, Stmt.children, Simple.children] using tested
  · have names : Reads (strictCommaList (do
        let id ← dottedName n
        Pure.pure (Alias.mk none id (← asName))) n) fun as => ∀ a ∈ as, a.label = none :=
      .strictCommaList (P := fun a : Alias => a.label = none) (.skip fun _ => .skip fun _ => .pure rfl) n
    refine .bind (aliases_pristine names) fun names each => .pure (.mk rfl rfl ?_)
    simpa [Node.children, Stmt.children, Simple.children] using each
  · exact importFrom_pristine
  · exact .failure

theorem simpleStatement_pristine : Reads (simpleStatement n rules) Simple.Pristine := by
  refine .skip fun next => ?_
  split
  · exact .ite (.skip fun _ => afterWord_pristine good _) (assignment_pristine good)
  · exact assignment_pristine good

theorem simpleStatements_pristine (m : Nat) : Reads (simpleStatements n rules m) fun b => ∀ s ∈ b, s.Pristine := by
  induction m with
  | zero => exact .failure
  | succ m ih =>
    refine .bind (simpleStatement_pristine good) fun s here => .skip fun _ => .ite (.skip fun _ => .ite ?_ ?_) ?_
    · exact .pure (List.forall_mem_singleton.mpr here)
    · exact .bind ih fun rest others => .pure (List.forall_mem_cons.mpr ⟨here, others⟩)
    · exact .skip fun _ => .pure (List.forall_mem_singleton.mpr here)

theorem body_pristine : Reads (body rules) fun b => ∀ s ∈ b, s.Pristine := .skip fun _ => good .block

theorem elseBody_pristine : Reads (elseBody rules) fun b => ∀ s ∈ b, s.Pristine :=
  .skip fun _ => .ite (body_pristine good) (.pure (List.forall_mem_nil _))

theorem functionTail_pristine (isAsync : Bool) {decorators : List Expr} (marks : ∀ e ∈ decorators, e.Pristine) :
    Reads (functionTail n rules isAsync decorators) Stmt.Pristine := by
  refine .skip fun id => .skip fun _ => .bind (params_pristine good true) fun ps listed => .skip fun _ => ?_
  refine .bind (P := fun o => ∀ e ∈ o, e.Pristine) ?_ fun returns given => ?_
  · refine .skip fun _ => .ite (.map fun ts e rest read => ?_) (.pure (by simp))
    simpa using good .expression ts e rest read
  · refine .bind (body_pristine good) fun b each => .pure (.mk rfl rfl ?_)
    simpa [Node.children, Stmt.children, listed, or_imp, forall_and] using ⟨each, marks, given⟩

theorem classTail_pristine {decorators : List Expr} (marks : ∀ e ∈ decorators, e.Pristine) :
    Reads (classTail n rules decorators) Stmt.Pristine := by
  refine .skip fun id => ?_
  refine .bind (P := fun r => (∀ e ∈ r.1, e.Pristine) ∧ ∀ k ∈ r.2, (Node.keyword k).Pristine) ?_ ?_
  · refine .skip fun _ => .ite ?_ (.pure (by simp))
    exact .bind (arguments_pristine good) fun args each => .skip fun _ => .pure each
  · intro args given
    refine .bind (body_pristine good) fun b each => .pure (.mk rfl rfl ?_)
    simpa [Node.children, Stmt.children, or_imp, forall_and] using ⟨given.1, given.2, each, marks⟩

theorem forTail_pristine (isAsync : Bool) : Reads (forTail n rules isAsync) Stmt.Pristine := by
  refine .bind (starTargets_fits good) fun target fits => .skip fun _ => ?_
  refine .bind (starExpressions_pristine good) fun iter values => .bind (body_pristine good) fun b each => ?_
  refine .bind (elseBody_pristine good) fun orelse others => .pure ?_
  refine .of_targets rfl (by simpa [targets] using fits) ?_ rfl
  simp +contextual [Node.children, Stmt.children, targets, values, or_imp, forall_and, each, others]

theorem withItem_pristine : Reads (withItem n rules) fun w => (Node.withItem w).Pristine := by
  refine .bind (good .expression) fun context here => ?_
  refine .bind (.optionally (P := Expr.Fits .store) ?_) fun vars bound => .pure ?_
  · refine .skip fun _ => .bind (starTarget_fits good n) fun target fits => .skip fun next => ?_
    split
    · exact .pure fits
    · exact .pure fits
    · exact .pure fits
    · exact .failure
  · refine .of_targets rfl (by simpa [targets] using bound) ?_ rfl
    simp +contextual [Node.children, targets, here]

theorem withTail_pristine (isAsync : Bool) : Reads (withTail n rules isAsync) Stmt.Pristine := by
  refine .bind (.optionally (P := fun ws => ∀ w ∈ ws, (Node.withItem w).Pristine) ?_) fun grouped listed => ?_
  · refine .skip fun _ => .bind (.commaList (withItem_pristine good) n) fun r each => .skip fun _ => .skip fun _ => ?_
    exact .ite (.pure each) .failure
  · refine .bind (P := fun ws => ∀ w ∈ ws, (Node.withItem w).Pristine) ?_ fun items each => ?_
    · split
      · exact .pure (listed _ rfl)
      · exact .strictCommaList (withItem_pristine good) n
    · refine .bind (body_pristine good) fun b inside => .pure (.mk rfl rfl ?_)
      simpa [Node.children, Stmt.children, or_imp, forall_and] using And.intro each inside

theorem handler_pristine (starred : Bool) : Reads (handler rules starred) fun h => (Node.handler h).Pristine := by
  have plain : Reads (body rules >>= fun b => Pure.pure (Handler.mk none none none b))
      fun h => (Node.handler h).Pristine :=
    .bind (body_pristine good) fun b each => .pure (.mk rfl rfl (by simpa [Node.children] using each))
  have typed : Reads (do
      let type ← rules .expression
      let id ← asName
      return Handler.mk none (some type) id (← body rules)) fun h => (Node.handler h).Pristine := by
    refine .bind (good .expression) fun type here => .skip fun id => .bind (body_pristine good) fun b each => ?_
    exact .pure (.mk rfl rfl (by simpa [Node.children, or_imp, forall_and] using And.intro here each))
  refine .skip fun _ => ?_
  split
  · exact .skip fun _ => .skip fun _ => .ite plain typed
  · exact .skip fun _ => .ite plain typed

theorem tryTail_pristine : Reads (tryTail n rules) Stmt.Pristine := by
  refine .bind (body_pristine good) fun b each => ?_
  refine .bind (.many (handler_pristine good false) n) fun plain handled => ?_
  refine .bind (.ite (.many (handler_pristine good true) n) (.pure (List.forall_mem_nil _))) fun starred caught => ?_
  refine .bind (.ite (.pure (List.forall_mem_nil _)) (elseBody_pristine good)) fun orelse others => ?_
  refine .bind (P := fun b => ∀ s ∈ b, s.Pristine) ?_ fun finalbody final => .ite .failure (.pure (.mk rfl rfl ?_))
  · exact .skip fun _ => .ite (body_pristine good) (.pure (List.forall_mem_nil _))
  · simpa [Node.children, Stmt.children, or_imp, forall_and] using ⟨each, handled, caught, others, final⟩

theorem subject_pristine : Reads (subject n rules) Expr.Pristine := by
  refine .bind (.commaList (starNamedExpression_pristine good) n) fun ⟨es, trailing⟩ each => ?_
  dsimp only
  split
  · exact .ite .failure (.pure (each _ List.mem_cons_self))
  · exact .pure (Expr.pristine_tuple each)

theorem matchCase_pristine : Reads (matchCase n rules) fun c => (Node.matchCase c).Pristine := by
  refine .skip fun _ => .bind (patterns_pristine good) fun p here => ?_
  refine .bind (P := fun o => ∀ e ∈ o, e.Pristine) ?_ fun guard given => ?_
  · refine .skip fun _ => .ite (.map fun ts e rest read => ?_) (.pure (by simp))
    simpa using namedExpression_pristine good ts e rest read
  · refine .bind (body_pristine good) fun b each => .pure (.mk rfl rfl ?_)
    simpa [Node.children, here, or_imp, forall_and] using And.intro given each

theorem matchStatement_pristine : Reads (matchStatement n rules) Stmt.Pristine := by
  refine .skip fun _ => .bind (subject_pristine good) fun e here => .skip fun _ => .skip fun _ => .skip fun _ => ?_
  refine .bind (matchCase_pristine good) fun first known => ?_
  refine .bind (.many (matchCase_pristine good) n) fun rest each => ?_
  refine .skip fun _ => .pure (.mk rfl rfl ?_)
  simpa [Node.children, Stmt.children, here] using And.intro known each

theorem otherwise_pristine : Reads (otherwise rules) fun b => ∀ s ∈ b, s.Pristine := by
  refine .skip fun _ => .ite ?_ (elseBody_pristine good)
  refine .bind (namedExpression_pristine good) fun test tested => .bind (body_pristine good) fun b each => ?_
  refine .bind (good .otherwise) fun orelse others => .pure (List.forall_mem_singleton.mpr (.mk rfl rfl ?_))
  simpa [Node.children, Stmt.children, tested, or_imp, forall_and] using And.intro each others

theorem decorators_pristine : Reads (decorators n rules) fun es => ∀ e ∈ es, e.Pristine :=
  .many (.skip fun _ => .bind (namedExpression_pristine good) fun _ here => .skip fun _ => .pure here) n

theorem definition_pristine {decorators : List Expr} (marks : ∀ e ∈ decorators, e.Pristine) :
    Reads (definition n rules decorators) Stmt.Pristine := by
  refine .skip fun _ => .ite (functionTail_pristine good false marks) (.skip fun _ => ?_)
  exact .ite (classTail_pristine good marks) (.skip fun _ => .skip fun _ => functionTail_pristine good true marks)

theorem compound_pristine (w : Word) : Reads (compound n rules w) Stmt.Pristine := by
  have bare : ∀ e ∈ ([] : List Expr), e.Pristine := List.forall_mem_nil _
  unfold compound
  split
  · exact functionTail_pristine good false bare
  · exact classTail_pristine good bare
  · refine .bind (namedExpression_pristine good) fun test tested => .bind (body_pristine good) fun b each => ?_
    refine .bind (otherwise_pristine good) fun orelse others => .pure (.mk rfl rfl ?_)
    simpa [Node.children, Stmt.children, tested, or_imp, forall_and] using And.intro each others
  · refine .bind (namedExpression_pristine good) fun test tested => .bind (body_pristine good) fun b each => ?_
    refine .bind (elseBody_pristine good) fun orelse others => .pure (.mk rfl rfl ?_)
    simpa [Node.children, Stmt.children, tested, or_imp, forall_and] using And.intro each others
  · exact forTail_pristine good false
  · exact withTail_pristine good false
  · exact tryTail_pristine good
  · refine .skip fun _ => .ite (functionTail_pristine good true bare) (.skip fun _ => ?_)
    exact .ite (forTail_pristine good true) (.skip fun _ => withTail_pristine good true)
  · exact .failure

theorem statement_pristine : Reads (statement n rules) fun b => ∀ s ∈ b, s.Pristine := by
  have single : ∀ {p : Parser Stmt}, Reads p Stmt.Pristine →
      Reads (p >>= fun s => Pure.pure [s]) fun b => ∀ s ∈ b, s.Pristine :=
    fun read => .bind read fun s here => .pure (List.forall_mem_singleton.mpr here)
  refine .skip fun next => ?_
  split
  · exact .ite (.skip fun _ => single (compound_pristine good _)) (simpleStatements_pristine good n)
  · exact .bind (decorators_pristine good) fun ds marks => single (definition_pristine good marks)
  · refine .bind (.optionally (matchStatement_pristine good)) fun found here => ?_
    split
    · exact .pure (List.forall_mem_singleton.mpr (here _ rfl))
    · exact simpleStatements_pristine good n
  · exact simpleStatements_pristine good n

theorem statements_pristine : Reads (statements n rules) fun b => ∀ s ∈ b, s.Pristine := by
  refine .bind (.many (statement_pristine good) n) fun lines each => .pure fun s member => ?_
  obtain ⟨line, here, inside⟩ := List.mem_flatten.mp member
  exact each line here s inside

theorem block_pristine : Reads (block n rules) fun b => ∀ s ∈ b, s.Pristine := by
  refine .skip fun _ => .ite ?_ (simpleStatements_pristine good n)
  exact .skip fun _ => .bind (statements_pristine good) fun b each => .skip fun _ => .ite .failure (.pure each)

end Statements

-- The induction is on the fuel: a rule reads pristine nodes if those that it refers to do.
theorem ruleWithin_pristine (n : Nat) (r : Rule) : Reads (ruleWithin n r) r.Pristine := by
  induction n generalizing r with
  | zero => exact .failure
  | succ n ih =>
    cases r with
    | expression => exact expression_pristine ih
    | disjunction => exact disjunction_pristine ih
    | inversion => exact inversion_pristine ih
    | bitwiseOr => exact bitwiseOr_pristine ih
    | factor => exact factor_pristine ih
    | primary => exact primary_pristine ih
    | pattern => exact pattern_pristine ih
    | block => exact block_pristine ih
    | otherwise => exact otherwise_pristine ih

end Parser

theorem Module.pristine_of_parse {source : List Char} {m : Module} (parsed : Module.parse source = .ok m) :
    (Node.module m).Pristine := by
  unfold parse at parsed
  split at parsed
  · cases parsed
  · split at parsed
    · rename_i read
      cases parsed
      obtain ⟨tokens, -, read⟩ := Option.bind_eq_some_iff.mp read
      unfold Parser.module? at read
      split at read
      · rename_i body statements
        cases read
        have each := Parser.statements_pristine (Parser.ruleWithin_pristine _) _ _ _ statements
        exact .mk rfl rfl (by simpa [Node.children] using each)
      · cases read
    · cases parsed

end Whittle
