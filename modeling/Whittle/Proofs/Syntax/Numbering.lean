import Mathlib.Data.List.Flatten
import Mathlib.Data.List.Pairwise
import Mathlib.Data.List.Perm.Subperm
import Whittle.Proofs.Syntax.Labels

namespace Whittle

-- Renaming makes the labels of a list consecutive numbers, from `k` on.
def Runs (f : Label → Label) : Nat → List Label → Prop
  | _, [] => True
  | k, l :: rest => f l = some k ∧ Runs f (k + 1) rest

theorem runs_nil (f : Label → Label) (k : Nat) : Runs f k [] ↔ True := Iff.rfl

theorem runs_cons (f : Label → Label) (k : Nat) (l : Label) (rest : List Label) :
    Runs f k (l :: rest) ↔ f l = some k ∧ Runs f (k + 1) rest := Iff.rfl

theorem runs_append (f : Label → Label) (k : Nat) (front back : List Label) :
    Runs f k (front ++ back) ↔ Runs f k front ∧ Runs f (k + front.length) back := by
  induction front generalizing k with
  | nil => simp [runs_nil]
  | cons l rest ih => simp [runs_cons, ih, and_assoc, Nat.add_comm, Nat.add_left_comm]

section Steps

variable {α β : Type} (k : Nat)

theorem bind_at (x : StateM Nat α) (g : α → StateM Nat β) : (x >>= g) k = g (x k).1 (x k).2 := rfl

theorem pure_at (a : α) : (pure a : StateM Nat α) k = (a, k) := rfl

theorem freshLabel_at : freshLabel k = (some k, k + 1) := rfl

end Steps

mutual

theorem Expr.labels_number (e : Expr) (k : Nat) :
    Runs id k (e.number k).1.labels ∧ (e.number k).2 = k + (e.number k).1.labels.length := by
  cases e <;>
    simp only [Expr.number, bind_at, pure_at, freshLabel_at, Expr.labels, List.cons_append, List.append_assoc,
      runs_nil, runs_cons, runs_append, Expr.labels_number, labels_numberExprs, labels_numberOption,
      labels_numberItems, labels_numberClauses, labels_numberKeywords, Params.labels_number, id,
      List.length_cons, List.length_nil, List.length_append, and_self, true_and] <;> omega

theorem labels_numberExprs (es : List Expr) (k : Nat) :
    Runs id k (labelsOfExprs (numberExprs es k).1) ∧
      (numberExprs es k).2 = k + (labelsOfExprs (numberExprs es k).1).length := by
  cases es with
  | nil => exact ⟨trivial, rfl⟩
  | cons e rest =>
    simp only [numberExprs, bind_at, pure_at, labelsOfExprs, runs_append, Expr.labels_number, labels_numberExprs,
      List.length_append, and_self, true_and]
    omega

theorem labels_numberOption (o : Option Expr) (k : Nat) :
    Runs id k (labelsOfOption (numberOption o k).1) ∧
      (numberOption o k).2 = k + (labelsOfOption (numberOption o k).1).length := by
  cases o with
  | none => exact ⟨trivial, rfl⟩
  | some e => exact e.labels_number k

theorem labels_numberItems (items : List DictItem) (k : Nat) :
    Runs id k (labelsOfItems (numberItems items k).1) ∧
      (numberItems items k).2 = k + (labelsOfItems (numberItems items k).1).length := by
  cases items with
  | nil => exact ⟨trivial, rfl⟩
  | cons item rest =>
    cases item <;>
      simp only [numberItems, bind_at, pure_at, labelsOfItems, List.append_assoc, runs_append, Expr.labels_number,
        labels_numberItems, List.length_append, and_self, true_and] <;> omega

theorem labels_numberClauses (cs : List Comprehension) (k : Nat) :
    Runs id k (labelsOfClauses (numberClauses cs k).1) ∧
      (numberClauses cs k).2 = k + (labelsOfClauses (numberClauses cs k).1).length := by
  cases cs with
  | nil => exact ⟨trivial, rfl⟩
  | cons c rest =>
    cases c
    simp only [numberClauses, bind_at, pure_at, freshLabel_at, labelsOfClauses, List.cons_append, List.append_assoc,
      runs_cons, runs_append, Expr.labels_number, labels_numberExprs, labels_numberClauses, id, List.length_cons,
      List.length_append, and_self, true_and]
    omega

theorem labels_numberKeywords (ks : List Keyword) (k : Nat) :
    Runs id k (labelsOfKeywords (numberKeywords ks k).1) ∧
      (numberKeywords ks k).2 = k + (labelsOfKeywords (numberKeywords ks k).1).length := by
  cases ks with
  | nil => exact ⟨trivial, rfl⟩
  | cons keyword rest =>
    cases keyword
    simp only [numberKeywords, bind_at, pure_at, freshLabel_at, labelsOfKeywords, List.cons_append, runs_cons,
      runs_append, Expr.labels_number, labels_numberKeywords, id, List.length_cons, List.length_append, and_self,
      true_and]
    omega

theorem Param.labels_number (p : Param) (k : Nat) :
    Runs id k (p.number k).1.labels ∧ (p.number k).2 = k + (p.number k).1.labels.length := by
  cases p
  simp only [Param.number, bind_at, pure_at, freshLabel_at, Param.labels, List.cons_append, runs_cons, runs_append,
    labels_numberOption, id, List.length_cons, List.length_append, and_self, true_and]
  omega

theorem labels_numberParamList (ps : List Param) (k : Nat) :
    Runs id k (labelsOfParamList (numberParamList ps k).1) ∧
      (numberParamList ps k).2 = k + (labelsOfParamList (numberParamList ps k).1).length := by
  cases ps with
  | nil => exact ⟨trivial, rfl⟩
  | cons p rest =>
    simp only [numberParamList, bind_at, pure_at, labelsOfParamList, runs_append, Param.labels_number,
      labels_numberParamList, List.length_append, and_self, true_and]
    omega

theorem labels_numberParamOption (o : Option Param) (k : Nat) :
    Runs id k (labelsOfParamOption (numberParamOption o k).1) ∧
      (numberParamOption o k).2 = k + (labelsOfParamOption (numberParamOption o k).1).length := by
  cases o with
  | none => exact ⟨trivial, rfl⟩
  | some p => exact p.labels_number k

theorem Params.labels_number (p : Params) (k : Nat) :
    Runs id k (p.number k).1.labels ∧ (p.number k).2 = k + (p.number k).1.labels.length := by
  cases p
  simp only [Params.number, bind_at, pure_at, freshLabel_at, Params.labels, List.cons_append, List.append_assoc,
    runs_cons, runs_append, labels_numberParamList, labels_numberParamOption, id, List.length_cons,
    List.length_append, and_self, true_and]
  omega

end

mutual

theorem Pattern.labels_number (p : Pattern) (k : Nat) :
    Runs id k (p.number k).1.labels ∧ (p.number k).2 = k + (p.number k).1.labels.length := by
  cases p with
  | capture l inner name =>
    cases inner <;>
      simp only [Pattern.number, bind_at, pure_at, freshLabel_at, Pattern.labels, runs_nil, runs_cons,
        Pattern.labels_number, id, List.length_cons, List.length_nil, and_self, true_and]
    omega
  | _ =>
    simp only [Pattern.number, bind_at, pure_at, freshLabel_at, Pattern.labels, List.cons_append, List.append_assoc,
      runs_nil, runs_cons, runs_append, Expr.labels_number, labels_numberExprs, labels_numberPatterns, id,
      List.length_cons, List.length_nil, List.length_append, and_self, true_and] <;> omega

theorem labels_numberPatterns (ps : List Pattern) (k : Nat) :
    Runs id k (labelsOfPatterns (numberPatterns ps k).1) ∧
      (numberPatterns ps k).2 = k + (labelsOfPatterns (numberPatterns ps k).1).length := by
  cases ps with
  | nil => exact ⟨trivial, rfl⟩
  | cons p rest =>
    simp only [numberPatterns, bind_at, pure_at, labelsOfPatterns, runs_append, Pattern.labels_number,
      labels_numberPatterns, List.length_append, and_self, true_and]
    omega

end

-- Lists that are numbered one element after the other, such as imported names and context managers.
theorem labels_mapM {α : Type} (number : α → StateM Nat α) (labels : α → List Label)
    (each : ∀ a k, Runs id k (labels (number a k).1) ∧ (number a k).2 = k + (labels (number a k).1).length)
    (as : List α) (k : Nat) :
    Runs id k ((as.mapM number k).1.flatMap labels) ∧
      (as.mapM number k).2 = k + ((as.mapM number k).1.flatMap labels).length := by
  induction as generalizing k with
  | nil => exact ⟨trivial, rfl⟩
  | cons a rest ih =>
    simp only [List.mapM_cons, bind_at, pure_at, List.flatMap_cons, runs_append, each, ih, List.length_append,
      and_self, true_and]
    omega

theorem labels_numberAliases (names : List Alias) (k : Nat) :
    Runs id k ((names.mapM Alias.number k).1.map Alias.label) ∧
      (names.mapM Alias.number k).2 = k + ((names.mapM Alias.number k).1.map Alias.label).length := by
  have listed := labels_mapM Alias.number (fun a => [a.label]) (fun _ _ => ⟨⟨rfl, trivial⟩, rfl⟩) names k
  rwa [← List.map_eq_flatMap] at listed

theorem WithItem.labels_number (w : WithItem) (k : Nat) :
    Runs id k (w.number k).1.labels ∧ (w.number k).2 = k + (w.number k).1.labels.length := by
  simp only [WithItem.number, bind_at, pure_at, freshLabel_at, WithItem.labels, List.cons_append, runs_cons,
    runs_append, Expr.labels_number, labels_numberOption, id, List.length_cons, List.length_append, and_self, true_and]
  omega

theorem Simple.labels_number (s : Simple) (k : Nat) :
    Runs id k (s.number k).1.labels ∧ (s.number k).2 = k + (s.number k).1.labels.length := by
  cases s <;>
    simp only [Simple.number, bind_at, pure_at, Simple.labels, List.append_assoc, runs_nil, runs_append,
      Expr.labels_number, labels_numberExprs, labels_numberOption, labels_numberAliases, List.length_nil,
      List.length_append, and_self, true_and, Nat.add_zero] <;> omega

theorem FunctionHead.labels_number (h : FunctionHead) (k : Nat) :
    Runs id k (h.number k).1.labels ∧ (h.number k).2 = k + (h.number k).1.labels.length := by
  simp only [FunctionHead.number, bind_at, pure_at, FunctionHead.labels, List.append_assoc, runs_append,
    Params.labels_number, labels_numberExprs, labels_numberOption, List.length_append, and_self, true_and]
  omega

theorem ClassHead.labels_number (h : ClassHead) (k : Nat) :
    Runs id k (h.number k).1.labels ∧ (h.number k).2 = k + (h.number k).1.labels.length := by
  simp only [ClassHead.number, bind_at, pure_at, ClassHead.labels, List.append_assoc, runs_append,
    labels_numberExprs, labels_numberKeywords, List.length_append, and_self, true_and]
  omega

mutual

theorem Stmt.labels_number (s : Stmt) (k : Nat) :
    Runs id k (s.number k).1.labels ∧ (s.number k).2 = k + (s.number k).1.labels.length := by
  cases s <;>
    simp only [Stmt.number, bind_at, pure_at, freshLabel_at, Stmt.labels, List.cons_append, List.append_assoc,
      runs_cons, runs_append, Simple.labels_number, FunctionHead.labels_number, ClassHead.labels_number,
      Expr.labels_number, labels_mapM _ _ WithItem.labels_number, labels_numberBlock, labels_numberHandlers,
      labels_numberCases, id, List.length_cons, List.length_append, and_self, true_and] <;> omega

theorem labels_numberBlock (b : List Stmt) (k : Nat) :
    Runs id k (labelsOfBlock (numberBlock b k).1) ∧
      (numberBlock b k).2 = k + (labelsOfBlock (numberBlock b k).1).length := by
  cases b with
  | nil => exact ⟨trivial, rfl⟩
  | cons s rest =>
    simp only [numberBlock, bind_at, pure_at, labelsOfBlock, runs_append, Stmt.labels_number, labels_numberBlock,
      List.length_append, and_self, true_and]
    omega

theorem labels_numberHandlers (hs : List Handler) (k : Nat) :
    Runs id k (labelsOfHandlers (numberHandlers hs k).1) ∧
      (numberHandlers hs k).2 = k + (labelsOfHandlers (numberHandlers hs k).1).length := by
  cases hs with
  | nil => exact ⟨trivial, rfl⟩
  | cons h rest =>
    cases h
    simp only [numberHandlers, bind_at, pure_at, freshLabel_at, labelsOfHandlers, List.cons_append,
      List.append_assoc, runs_cons, runs_append, labels_numberOption, labels_numberBlock, labels_numberHandlers, id,
      List.length_cons, List.length_append, and_self, true_and]
    omega

theorem labels_numberCases (cs : List MatchCase) (k : Nat) :
    Runs id k (labelsOfCases (numberCases cs k).1) ∧
      (numberCases cs k).2 = k + (labelsOfCases (numberCases cs k).1).length := by
  cases cs with
  | nil => exact ⟨trivial, rfl⟩
  | cons c rest =>
    cases c
    simp only [numberCases, bind_at, pure_at, freshLabel_at, labelsOfCases, List.cons_append, List.append_assoc,
      runs_cons, runs_append, Pattern.labels_number, labels_numberOption, labels_numberBlock, labels_numberCases, id,
      List.length_cons, List.length_append, and_self, true_and]
    omega

end

theorem isEmpty_numberBlock (b : Block) (k : Nat) : (numberBlock b k).1.isEmpty = b.isEmpty := by
  cases b <;> rfl

theorem Runs.le {f : Label → Label} {k : Nat} {labels : List Label} (runs : Runs f k labels) {l : Label}
    (member : l ∈ labels) : ∃ n, f l = some n ∧ k ≤ n := by
  induction labels generalizing k with
  | nil => cases member
  | cons head rest ih =>
    rcases List.mem_cons.mp member with rfl | tail
    · exact ⟨k, runs.1, Nat.le_refl k⟩
    · obtain ⟨n, renamed, bound⟩ := ih runs.2 tail
      exact ⟨n, renamed, by omega⟩

theorem Runs.nodup {f : Label → Label} {k : Nat} {labels : List Label} (runs : Runs f k labels) : labels.Nodup := by
  induction labels generalizing k with
  | nil => exact List.nodup_nil
  | cons head rest ih =>
    refine List.nodup_cons.mpr ⟨?_, ih runs.2⟩
    intro again
    obtain ⟨n, renamed, bound⟩ := runs.2.le again
    rw [runs.1] at renamed
    cases renamed
    omega

theorem Module.labels_number_nodup (m : Module) : m.number.labels.Nodup :=
  (labels_numberBlock m.body 0).1.nodup

namespace Node

def labels : Node → List Label
  | .module m => m.labels
  | .stmt s => s.labels
  | .expr e => e.labels
  | .params p => p.labels
  -- The default of a parameter belongs to the parameter list.
  | .param p => p.label :: labelsOfOption p.hint
  | .keyword k => labelsOfKeywords [k]
  | .comprehension c => labelsOfClauses [c]
  | .alias a => [a.label]
  | .withItem w => w.labels
  | .handler h => labelsOfHandlers [h]
  | .matchCase c => labelsOfCases [c]
  | .pattern p => p.labels
  | .mark _ => []

def ownLabels : Node → List Label
  | .module _ | .mark _ => []
  | n => [n.label]

end Node

open Node

section Children

@[simp] theorem labels_expr (e : Expr) : (Node.expr e).labels = e.labels := rfl

@[simp] theorem labels_mark (m : Mark) : (Node.mark m).labels = [] := rfl

@[simp] theorem labels_ofExprs (es : List Expr) : (ofExprs es).flatMap Node.labels = labelsOfExprs es := by
  induction es with
  | nil => rfl
  | cons e rest ih => rw [labelsOfExprs, ← ih]; rfl

@[simp] theorem labels_ofOption (o : Option Expr) : (ofOption o).flatMap Node.labels = labelsOfOption o := by
  cases o <;> simp [labelsOfOption, ofOption]

@[simp] theorem labels_clauses (cs : List Comprehension) :
    (cs.map Node.comprehension).flatMap Node.labels = labelsOfClauses cs := by
  induction cs with
  | nil => rfl
  | cons c rest ih => cases c; simp [labelsOfClauses, ih, Node.labels]

@[simp] theorem labels_keywords (ks : List Keyword) :
    (ks.map Node.keyword).flatMap Node.labels = labelsOfKeywords ks := by
  induction ks with
  | nil => rfl
  | cons k rest ih => cases k; simp [labelsOfKeywords, ih, Node.labels]

@[simp] theorem labels_marks {α : Type} (as : List α) (mark : α → Mark) :
    (as.map fun a => Node.mark (mark a)).flatMap Node.labels = [] := by
  induction as with
  | nil => rfl
  | cons a rest ih => simp [ih]

@[simp] theorem labels_patterns (ps : List Pattern) :
    (ps.map Node.pattern).flatMap Node.labels = labelsOfPatterns ps := by
  induction ps with
  | nil => rfl
  | cons p rest ih => simp [labelsOfPatterns, ih, Node.labels]

@[simp] theorem labels_aliases (names : List Alias) :
    (names.map Node.alias).flatMap Node.labels = names.map Alias.label := by
  induction names with
  | nil => rfl
  | cons a rest ih => simp [ih, Node.labels]

@[simp] theorem labels_withItems (items : List WithItem) :
    (items.map Node.withItem).flatMap Node.labels = items.flatMap WithItem.labels := by
  rw [List.flatMap_map]
  rfl

@[simp] theorem labels_ofStmts (b : Block) : (ofStmts b).flatMap Node.labels = labelsOfBlock b := by
  induction b with
  | nil => rfl
  | cons s rest ih => rw [labelsOfBlock, ← ih]; rfl

@[simp] theorem labels_handlers (hs : List Handler) :
    (hs.map Node.handler).flatMap Node.labels = labelsOfHandlers hs := by
  induction hs with
  | nil => rfl
  | cons h rest ih => cases h; simp [labelsOfHandlers, ih, Node.labels]

@[simp] theorem labels_cases (cs : List MatchCase) :
    (cs.map Node.matchCase).flatMap Node.labels = labelsOfCases cs := by
  induction cs with
  | nil => rfl
  | cons c rest ih => cases c; simp [labelsOfCases, ih, Node.labels]

end Children

-- Keys and values are numbered by turns, but all keys come before all values as children.
theorem labelsOfItems_perm (items : List DictItem) :
    (labelsOfItems items).Perm (labelsOfExprs (items.filterMap DictItem.key?) ++
      labelsOfExprs (items.map DictItem.value)) := by
  induction items with
  | nil => exact .refl _
  | cons item rest ih =>
    have counts := fun a => ih.count_eq a
    cases item <;> apply List.perm_iff_count.mpr <;> intro a <;> have count := counts a <;>
      simp only [labelsOfItems, labelsOfExprs, List.filterMap_cons, DictItem.key?, DictItem.value, List.map_cons,
        List.count_append] at count ⊢ <;> omega

theorem labelsOfParamList_perm (ps : List Param) :
    (labelsOfParamList ps).Perm ((ps.map Node.param).flatMap Node.labels ++
      labelsOfExprs (ps.filterMap Param.default)) := by
  induction ps with
  | nil => exact .refl _
  | cons p rest ih =>
    obtain ⟨l, name, hint, default⟩ := p
    have counts := fun a => ih.count_eq a
    cases default <;> apply List.perm_iff_count.mpr <;> intro a <;> have count := counts a <;>
      simp only [labelsOfParamList, Param.labels, labelsOfExprs, labelsOfOption, List.filterMap_cons, Param.default,
        Param.hint, Param.label, List.map_cons, List.flatMap_cons, Node.labels, List.cons_append, List.append_nil,
        List.count_cons, List.count_append] at count ⊢ <;> omega

theorem labelsOfParamList_append (front back : List Param) :
    labelsOfParamList (front ++ back) = labelsOfParamList front ++ labelsOfParamList back := by
  induction front with
  | nil => rfl
  | cons p rest ih => simp [labelsOfParamList, ih]

theorem labelsOfParamOption_eq (o : Option Param) :
    labelsOfParamOption o = (o.toList.map Node.param).flatMap Node.labels ++
      labelsOfOption (o.bind Param.default) := by
  cases o with
  | none => rfl
  | some p =>
    obtain ⟨l, name, hint, default⟩ := p
    simp [labelsOfParamOption, Param.labels, Node.labels, Param.hint, Param.label, Param.default]

-- A default of a starred parameter would be numbered, but it is nobody's child.
theorem Params.labels_step (p : Params) : List.Subperm (p.label :: p.children.flatMap Node.labels) p.labels := by
  obtain ⟨l, posOnly, args, vararg, kwOnly, kwarg⟩ := p
  apply List.subperm_ext_iff.mpr
  intro a _
  have positional := (labelsOfParamList_perm (posOnly ++ args)).count_eq a
  have keywords := (labelsOfParamList_perm kwOnly).count_eq a
  simp only [Params.labels, Params.label, Params.children, Params.positional, Params.posOnly, Params.args,
    Params.vararg, Params.kwOnly, Params.kwarg, labels_ofExprs, labelsOfParamOption_eq, labelsOfParamList_append,
    List.map_append, List.flatMap_append, List.cons_append, List.count_cons, List.count_append] at *
  omega

theorem Expr.labels_step (e : Expr) : e.labels.Perm (e.label :: e.children.flatMap Node.labels) := by
  cases e with
  | dict l items =>
    simp only [Expr.labels, Expr.label, Expr.children, List.flatMap_append, labels_ofExprs]
    exact (labelsOfItems_perm items).cons l
  | lambda l ps body => simp [Expr.labels, Expr.label, Expr.children, Node.labels]
  | _ => simp [Expr.labels, Expr.label, Expr.children, ofContext]

theorem Pattern.labels_step (p : Pattern) : p.labels = p.label :: p.children.flatMap Node.labels := by
  cases p with
  | capture l inner name => cases inner <;> simp [Pattern.labels, Pattern.label, Pattern.children, Node.labels]
  | _ => simp [Pattern.labels, Pattern.label, Pattern.children]

theorem Simple.labels_step (s : Simple) : s.labels = s.children.flatMap Node.labels := by
  cases s <;> simp [Simple.labels, Simple.children]

-- The body of a definition is numbered after its head, but it stands between the parts of the head as children.
theorem Stmt.labels_step (s : Stmt) : s.labels.Perm (s.label :: s.children.flatMap Node.labels) := by
  cases s with
  | func l head body =>
    apply List.perm_iff_count.mpr
    intro a
    simp only [Stmt.labels, FunctionHead.labels, Stmt.label, Stmt.children, Node.labels, List.flatMap_cons,
      List.flatMap_append, labels_ofStmts, labels_ofExprs, labels_ofOption, List.cons_append, List.count_cons,
      List.count_append]
    omega
  | klass l head body =>
    apply List.perm_iff_count.mpr
    intro a
    simp only [Stmt.labels, ClassHead.labels, Stmt.label, Stmt.children, List.flatMap_append, labels_ofStmts,
      labels_ofExprs, labels_keywords, List.cons_append, List.count_cons, List.count_append]
    omega
  | _ => simp [Stmt.labels, Stmt.label, Stmt.children, Simple.labels_step]

namespace Node

theorem labels_step (n : Node) : List.Subperm (n.ownLabels ++ n.children.flatMap labels) n.labels := by
  cases n with
  | stmt s => exact s.labels_step.symm.subperm
  | expr e => exact e.labels_step.symm.subperm
  | params p => exact p.labels_step
  | pattern p => exact (List.Perm.of_eq p.labels_step).symm.subperm
  | module m => exact (List.Perm.of_eq (labels_ofStmts m.body)).subperm
  | keyword k =>
    cases k
    simp [ownLabels, label, Keyword.label, children, Keyword.value, labels, labelsOfKeywords, List.Subperm.refl]
  | comprehension c =>
    cases c
    simp [ownLabels, label, Comprehension.label, children, labels, labelsOfClauses, List.Subperm.refl]
  | handler h => cases h; simp [ownLabels, label, Handler.label, children, labels, labelsOfHandlers, List.Subperm.refl]
  | matchCase c => cases c; simp [ownLabels, label, MatchCase.label, children, labels, labelsOfCases, List.Subperm.refl]
  | _ => simp [ownLabels, label, children, labels, WithItem.labels, List.Subperm.refl]

-- The labels that a traversal meets are labels of the tree, each met as often as it was given out at most.
theorem walk_labels (n : Node) : List.Subperm (n.walk.flatMap ownLabels) n.labels := by
  induction n using induct with
  | step n ih =>
    rw [walk_eq, List.flatMap_cons, List.flatMap_assoc]
    refine List.Subperm.trans (List.Subperm.append (.refl _) ?_) n.labels_step
    generalize n.children = cs at ih
    induction cs with
    | nil => exact .refl _
    | cons c rest tail =>
      have here := ih c List.mem_cons_self
      have there := tail fun c member => ih c (List.mem_cons_of_mem _ member)
      exact List.Subperm.append here there

end Node

theorem Module.walk_labels_nodup (m : Module) :
    ((Node.module m.number).walk.flatMap Node.ownLabels).Nodup := by
  obtain ⟨met, same, inside⟩ := (Node.module m.number).walk_labels
  exact same.nodup_iff.mp (m.labels_number_nodup.sublist inside)

-- A label of a numbered module belongs to one node only.
theorem Module.eq_of_label {m : Module} {x y : Node} {l : Label} (here : x ∈ (Node.module m.number).walk)
    (there : y ∈ (Node.module m.number).walk) (ofX : l ∈ x.ownLabels) (ofY : l ∈ y.ownLabels) : x = y := by
  by_contra different
  have apart := (List.nodup_flatMap.mp m.walk_labels_nodup).2
  have symmetric : Std.Symm (Function.onFun List.Disjoint Node.ownLabels) := ⟨fun _ _ apart _ inY inX => apart inX inY⟩
  exact apart.forall here there different ofX ofY

-- Two children of one node have no label in common.
theorem Module.disjoint_siblings {m : Module} {x a b : Node} (member : x ∈ (Node.module m.number).walk)
    (siblings : [a, b].Sublist x.children) : a.ownLabels.Disjoint b.ownLabels := by
  have inWalk : x.children.Sublist x.walk := by
    have each : (x.children.flatMap fun c => [c]).Sublist (x.children.flatMap Node.walk) :=
      List.Sublist.flatMap_right _ fun c _ => List.singleton_sublist.mpr c.self_mem_walk
    rw [List.flatMap_singleton'] at each
    rw [Node.walk_eq]
    exact each.trans (List.sublist_cons_self _ _)
  have apart := (List.nodup_flatMap.mp m.walk_labels_nodup).2
  exact apart.forall_sublist ((siblings.trans inWalk).trans (Node.walk_sublist member))

-- Every node of a numbered module has got a number.
theorem Module.label_eq_some {m : Module} {x : Node} {l : Label} (member : x ∈ (Node.module m.number).walk)
    (own : l ∈ x.ownLabels) : ∃ n, l = some n := by
  have given : l ∈ m.number.labels :=
    (Node.module m.number).walk_labels.subset (List.mem_flatMap.mpr ⟨x, member, own⟩)
  obtain ⟨n, same, -⟩ := (labels_numberBlock m.body 0).1.le given
  exact ⟨n, same⟩

theorem Module.label_of_located {m : Module} {x : Node.Located} {l : Label}
    (member : x ∈ (Node.module m.number).located) (own : l ∈ x.node.ownLabels) : ∃ n, l = some n := by
  have inside : x.node ∈ (Node.module m.number).walk := by
    rw [← Node.map_node_located]
    exact List.mem_map_of_mem member
  exact label_eq_some inside own

-- What only the owner of a label contributes to is contributed once.
theorem Module.flatMap_of_label {m : Module} {α : Type} {x : Node} {l : Label}
    (member : x ∈ (Node.module m.number).walk) (own : l ∈ x.ownLabels) {F : Node → List α} (others : ∀ y : Node, l ∉ y.ownLabels → F y = []) :
    (Node.module m.number).walk.flatMap F = F x := by
  have nodup := m.walk_labels_nodup
  obtain ⟨front, back, split⟩ := List.append_of_mem member
  rw [split, List.flatMap_append, List.flatMap_cons] at nodup ⊢
  have inFront : front.flatMap F = [] := by
    apply List.flatMap_eq_nil_iff.mpr
    intro y before
    apply others
    intro again
    exact List.disjoint_of_nodup_append nodup (List.mem_flatMap.mpr ⟨y, before, again⟩) (List.mem_append_left _ own)
  have inBack : back.flatMap F = [] := by
    apply List.flatMap_eq_nil_iff.mpr
    intro y after
    apply others
    intro again
    exact List.disjoint_of_nodup_append (List.Nodup.of_append_right nodup) own (List.mem_flatMap.mpr ⟨y, after, again⟩)
  rw [inFront, inBack, List.append_nil, List.nil_append]

end Whittle
