import Whittle.Proofs.Syntax.Numbering
import Whittle.Proofs.Syntax.Trimming

namespace Whittle

def noLabel : Label → Label := fun _ => none

mutual

theorem Expr.unlabelled_number (e : Expr) (k : Nat) : (e.number k).1.trim [] noLabel = e.trim [] noLabel := by
  cases e <;> simp only [Expr.number, bind_at, pure_at, freshLabel_at, Expr.trim, noLabel, Cuts.keep_nil,
    Expr.unlabelled_number, unlabelled_numberExprs, unlabelled_numberOption, unlabelled_numberItems,
    unlabelled_numberClauses, unlabelled_numberKeywords, Params.unlabelled_number]

theorem unlabelled_numberExprs (es : List Expr) (k : Nat) :
    trimExprs [] noLabel (numberExprs es k).1 = trimExprs [] noLabel es := by
  cases es <;> simp only [numberExprs, bind_at, pure_at, trimExprs, Expr.unlabelled_number, unlabelled_numberExprs]

theorem unlabelled_numberOption (o : Option Expr) (k : Nat) :
    trimOption [] noLabel (numberOption o k).1 = trimOption [] noLabel o := by
  cases o <;> simp only [numberOption, bind_at, pure_at, trimOption, Expr.unlabelled_number]

theorem unlabelled_numberItems (items : List DictItem) (k : Nat) :
    trimItems [] noLabel (numberItems items k).1 = trimItems [] noLabel items := by
  match items with
  | [] => rfl
  | .pair .. :: rest | .spread .. :: rest =>
    simp only [numberItems, bind_at, pure_at, trimItems, Expr.unlabelled_number, unlabelled_numberItems]

theorem unlabelled_numberClauses (cs : List Comprehension) (k : Nat) :
    trimClauses [] noLabel (numberClauses cs k).1 = trimClauses [] noLabel cs := by
  match cs with
  | [] => rfl
  | .mk .. :: rest =>
    simp only [numberClauses, bind_at, pure_at, freshLabel_at, trimClauses, noLabel, Expr.unlabelled_number,
      unlabelled_numberExprs, unlabelled_numberClauses]

theorem unlabelled_numberKeywords (ks : List Keyword) (k : Nat) :
    trimKeywords [] noLabel (numberKeywords ks k).1 = trimKeywords [] noLabel ks := by
  match ks with
  | [] => rfl
  | .mk .. :: rest =>
    simp only [numberKeywords, bind_at, pure_at, freshLabel_at, trimKeywords, noLabel, Expr.unlabelled_number,
      unlabelled_numberKeywords]

theorem Param.unlabelled_number (p : Param) (k : Nat) : (p.number k).1.trim [] noLabel = p.trim [] noLabel := by
  cases p
  simp only [Param.number, bind_at, pure_at, freshLabel_at, Param.trim, noLabel, unlabelled_numberOption]

theorem unlabelled_numberParamList (ps : List Param) (k : Nat) :
    trimParamList [] noLabel (numberParamList ps k).1 = trimParamList [] noLabel ps := by
  cases ps <;> simp only [numberParamList, bind_at, pure_at, trimParamList, Param.unlabelled_number,
    unlabelled_numberParamList]

theorem unlabelled_numberParamOption (o : Option Param) (k : Nat) :
    trimParamOption [] noLabel (numberParamOption o k).1 = trimParamOption [] noLabel o := by
  cases o <;> simp only [numberParamOption, bind_at, pure_at, trimParamOption, Param.unlabelled_number]

theorem Params.unlabelled_number (p : Params) (k : Nat) : (p.number k).1.trim [] noLabel = p.trim [] noLabel := by
  cases p
  simp only [Params.number, bind_at, pure_at, freshLabel_at, Params.trim, noLabel, unlabelled_numberParamList,
    unlabelled_numberParamOption]

end

mutual

theorem Pattern.unlabelled_number (p : Pattern) (k : Nat) : (p.number k).1.trim [] noLabel = p.trim [] noLabel := by
  match p with
  | .capture l none name => rfl
  | .capture l (some p) name =>
    simp only [Pattern.number, bind_at, pure_at, freshLabel_at, Pattern.trim, noLabel, Pattern.unlabelled_number p]
  | .value .. | .singleton .. | .star .. | .sequence .. | .either .. | .mapping .. | .classOf .. =>
    simp only [Pattern.number, bind_at, pure_at, freshLabel_at, Pattern.trim, noLabel, Expr.unlabelled_number,
      unlabelled_numberExprs, unlabelled_numberPatterns]

theorem unlabelled_numberPatterns (ps : List Pattern) (k : Nat) :
    trimPatterns [] noLabel (numberPatterns ps k).1 = trimPatterns [] noLabel ps := by
  match ps with
  | [] => rfl
  | p :: rest =>
    simp only [numberPatterns, bind_at, pure_at, trimPatterns, Pattern.unlabelled_number p,
      unlabelled_numberPatterns rest]

end

theorem map_mapM {α β : Type} {number : α → StateM Nat α} {g : α → β} (each : ∀ a k, g (number a k).1 = g a)
    (as : List α) (k : Nat) : (as.mapM number k).1.map g = as.map g := by
  induction as generalizing k with
  | nil => rfl
  | cons a rest ih => simp only [List.mapM_cons, bind_at, pure_at, List.map_cons, each, ih]

theorem unlabelled_numberAliases (names : List Alias) (k : Nat) :
    (names.mapM Alias.number k).1.map (Alias.relabel noLabel) = names.map (Alias.relabel noLabel) :=
  map_mapM (fun _ _ => rfl) names k

theorem WithItem.unlabelled_number (w : WithItem) (k : Nat) : (w.number k).1.trim [] noLabel = w.trim [] noLabel := by
  simp only [WithItem.number, bind_at, pure_at, freshLabel_at, WithItem.trim, noLabel, Expr.unlabelled_number,
    unlabelled_numberOption]

theorem Simple.unlabelled_number (s : Simple) (k : Nat) : (s.number k).1.trim [] noLabel = s.trim [] noLabel := by
  cases s <;> simp only [Simple.number, bind_at, pure_at, Simple.trim, Expr.unlabelled_number, unlabelled_numberExprs,
    unlabelled_numberOption, unlabelled_numberAliases]

theorem FunctionHead.unlabelled_number (h : FunctionHead) (k : Nat) :
    (h.number k).1.trim [] noLabel = h.trim [] noLabel := by
  simp only [FunctionHead.number, bind_at, pure_at, FunctionHead.trim, Params.unlabelled_number, unlabelled_numberExprs,
    unlabelled_numberOption]

theorem ClassHead.unlabelled_number (h : ClassHead) (k : Nat) :
    (h.number k).1.trim [] noLabel = h.trim [] noLabel := by
  simp only [ClassHead.number, bind_at, pure_at, ClassHead.trim, unlabelled_numberExprs, unlabelled_numberKeywords]

mutual

theorem Stmt.unlabelled_number (s : Stmt) (k : Nat) : (s.number k).1.trim [] noLabel = s.trim [] noLabel := by
  cases s <;> simp only [Stmt.number, bind_at, pure_at, freshLabel_at, Stmt.trim, noLabel, Simple.unlabelled_number,
    FunctionHead.unlabelled_number, ClassHead.unlabelled_number, Expr.unlabelled_number,
    map_mapM WithItem.unlabelled_number, unlabelled_numberBlock, unlabelled_numberHandlers, unlabelled_numberCases]

theorem unlabelled_numberBlock (b : List Stmt) (k : Nat) :
    trimBlock [] noLabel (numberBlock b k).1 = trimBlock [] noLabel b := by
  match b with
  | [] => rfl
  | s :: rest =>
    simp only [numberBlock, bind_at, pure_at, trimBlock, Stmt.unlabelled_number s, unlabelled_numberBlock rest]

theorem unlabelled_numberHandlers (hs : List Handler) (k : Nat) :
    trimHandlers [] noLabel (numberHandlers hs k).1 = trimHandlers [] noLabel hs := by
  match hs with
  | [] => rfl
  | .mk l type name body :: rest =>
    simp only [numberHandlers, bind_at, pure_at, freshLabel_at, trimHandlers, noLabel, unlabelled_numberOption,
      unlabelled_numberBlock body, unlabelled_numberHandlers rest]

theorem unlabelled_numberCases (cs : List MatchCase) (k : Nat) :
    trimCases [] noLabel (numberCases cs k).1 = trimCases [] noLabel cs := by
  match cs with
  | [] => rfl
  | .mk l p guard body :: rest =>
    simp only [numberCases, bind_at, pure_at, freshLabel_at, trimCases, noLabel, Pattern.unlabelled_number,
      unlabelled_numberOption, unlabelled_numberBlock body, unlabelled_numberCases rest]

end

def Module.unlabelled (m : Module) : Module := m.trim [] noLabel

theorem Module.unlabelled_number (m : Module) : m.number.unlabelled = m.unlabelled :=
  congrArg Module.mk (unlabelled_numberBlock m.body 0)

end Whittle
