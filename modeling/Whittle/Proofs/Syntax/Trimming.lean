import Whittle.Syntax.Cut

namespace Whittle

section Trim

variable (cuts : Cuts) (f : Label → Label)

-- Calls are cut and labels are renamed at once; a cut is a trimming that keeps the labels.
mutual

def Expr.trim : Expr → Expr
  | .boolOp l op values => .boolOp (f l) op (trimExprs values)
  | .namedExpr l target value => .namedExpr (f l) target.trim value.trim
  | .binOp l left op right => .binOp (f l) left.trim op right.trim
  | .unaryOp l op operand => .unaryOp (f l) op operand.trim
  | .lambda l ps body => .lambda (f l) ps.trim body.trim
  | .ifExp l test body orelse => .ifExp (f l) test.trim body.trim orelse.trim
  | .dict l items => .dict (f l) (trimItems items)
  | .set l elts => .set (f l) (trimExprs elts)
  | .comp l kind elt generators => .comp (f l) kind elt.trim (trimClauses generators)
  | .dictComp l key value generators => .dictComp (f l) key.trim value.trim (trimClauses generators)
  | .await l value => .await (f l) value.trim
  | .yield l value => .yield (f l) (trimOption value)
  | .yieldFrom l value => .yieldFrom (f l) value.trim
  | .compare l left ops comparators => .compare (f l) left.trim ops (trimExprs comparators)
  | .call l func args keywords => .call (f l) func.trim (cuts.keep l (trimExprs args)) (trimKeywords keywords)
  | .formatted l value conversion spec => .formatted (f l) value.trim conversion (trimOption spec)
  | .joined l values => .joined (f l) (trimExprs values)
  | .constant l value => .constant (f l) value
  | .attribute l value attr ctx => .attribute (f l) value.trim attr ctx
  | .subscript l value index ctx => .subscript (f l) value.trim index.trim ctx
  | .starred l value ctx => .starred (f l) value.trim ctx
  | .name l id ctx => .name (f l) id ctx
  | .list l elts ctx => .list (f l) (trimExprs elts) ctx
  | .tuple l elts ctx => .tuple (f l) (trimExprs elts) ctx
  | .slice l lower upper step => .slice (f l) (trimOption lower) (trimOption upper) (trimOption step)

def trimExprs : List Expr → List Expr
  | [] => []
  | e :: rest => e.trim :: trimExprs rest

def trimOption : Option Expr → Option Expr
  | none => none
  | some e => some e.trim

def trimItems : List DictItem → List DictItem
  | [] => []
  | .pair key value :: rest => .pair key.trim value.trim :: trimItems rest
  | .spread value :: rest => .spread value.trim :: trimItems rest

def trimClauses : List Comprehension → List Comprehension
  | [] => []
  | .mk l target iter ifs isAsync :: rest =>
    .mk (f l) target.trim iter.trim (trimExprs ifs) isAsync :: trimClauses rest

def trimKeywords : List Keyword → List Keyword
  | [] => []
  | .mk l name value :: rest => .mk (f l) name value.trim :: trimKeywords rest

def Param.trim : Param → Param
  | .mk l name hint default => .mk (f l) name (trimOption hint) (trimOption default)

def trimParamList : List Param → List Param
  | [] => []
  | p :: rest => p.trim :: trimParamList rest

def trimParamOption : Option Param → Option Param
  | none => none
  | some p => some p.trim

def Params.trim : Params → Params
  | .mk l posOnly args vararg kwOnly kwarg =>
    .mk (f l) (trimParamList posOnly) (trimParamList args) (trimParamOption vararg) (trimParamList kwOnly)
      (trimParamOption kwarg)

end

mutual

def Pattern.trim : Pattern → Pattern
  | .value l e => .value (f l) (e.trim cuts f)
  | .singleton l v => .singleton (f l) v
  | .sequence l ps => .sequence (f l) (trimPatterns ps)
  | .mapping l keys ps rest => .mapping (f l) (trimExprs cuts f keys) (trimPatterns ps) rest
  | .classOf l cls ps attrs kps => .classOf (f l) (cls.trim cuts f) (trimPatterns ps) attrs (trimPatterns kps)
  | .star l name => .star (f l) name
  | .capture l none name => .capture (f l) none name
  | .capture l (some p) name => .capture (f l) (some p.trim) name
  | .either l ps => .either (f l) (trimPatterns ps)

def trimPatterns : List Pattern → List Pattern
  | [] => []
  | p :: rest => p.trim :: trimPatterns rest

end

def Alias.relabel (a : Alias) : Alias := { a with label := f a.label }

def WithItem.trim (w : WithItem) : WithItem := ⟨f w.label, w.context.trim cuts f, trimOption cuts f w.vars⟩

def Simple.trim : Simple → Simple
  | .ret value => .ret (trimOption cuts f value)
  | .delete targets => .delete (trimExprs cuts f targets)
  | .assign targets value => .assign (trimExprs cuts f targets) (value.trim cuts f)
  | .augAssign target op value => .augAssign (target.trim cuts f) op (value.trim cuts f)
  | .annAssign target hint value isSimple =>
    .annAssign (target.trim cuts f) (hint.trim cuts f) (trimOption cuts f value) isSimple
  | .raise exc cause => .raise (trimOption cuts f exc) (trimOption cuts f cause)
  | .assert test msg => .assert (test.trim cuts f) (trimOption cuts f msg)
  | .importNames names => .importNames (names.map (Alias.relabel f))
  | .importFrom module names level => .importFrom module (names.map (Alias.relabel f)) level
  | .expr value => .expr (value.trim cuts f)
  | .global names => .global names
  | .nonlocal names => .nonlocal names
  | .pass => .pass
  | .breakLoop => .breakLoop
  | .continueLoop => .continueLoop

def FunctionHead.trim (h : FunctionHead) : FunctionHead :=
  { h with
    params := h.params.trim cuts f, decorators := trimExprs cuts f h.decorators,
    returns := trimOption cuts f h.returns }

def ClassHead.trim (h : ClassHead) : ClassHead :=
  { h with
    bases := trimExprs cuts f h.bases, keywords := trimKeywords cuts f h.keywords,
    decorators := trimExprs cuts f h.decorators }

mutual

def Stmt.trim : Stmt → Stmt
  | .simple l s => .simple (f l) (s.trim cuts f)
  | .func l head body => .func (f l) (head.trim cuts f) (trimBlock body)
  | .klass l head body => .klass (f l) (head.trim cuts f) (trimBlock body)
  | .ifElse l test body orelse => .ifElse (f l) (test.trim cuts f) (trimBlock body) (trimBlock orelse)
  | .forLoop l isAsync target iter body orelse =>
    .forLoop (f l) isAsync (target.trim cuts f) (iter.trim cuts f) (trimBlock body) (trimBlock orelse)
  | .whileLoop l test body orelse => .whileLoop (f l) (test.trim cuts f) (trimBlock body) (trimBlock orelse)
  | .withBlock l isAsync items body => .withBlock (f l) isAsync (items.map (WithItem.trim cuts f)) (trimBlock body)
  | .matchOn l subject cases => .matchOn (f l) (subject.trim cuts f) (trimCases cases)
  | .tryBlock l isStar body handlers orelse finalbody =>
    .tryBlock (f l) isStar (trimBlock body) (trimHandlers handlers) (trimBlock orelse)
      (trimBlock finalbody)

def trimBlock : List Stmt → List Stmt
  | [] => []
  | s :: rest => s.trim :: trimBlock rest

def trimHandlers : List Handler → List Handler
  | [] => []
  | .mk l type name body :: rest => .mk (f l) (trimOption cuts f type) name (trimBlock body) :: trimHandlers rest

def trimCases : List MatchCase → List MatchCase
  | [] => []
  | .mk l p guard body :: rest =>
    .mk (f l) (p.trim cuts f) (trimOption cuts f guard) (trimBlock body) :: trimCases rest

end

def Module.trim (m : Module) : Module := ⟨trimBlock cuts f m.body⟩

end Trim

theorem Cuts.keep_nil {α : Type} (l : Label) (args : List α) : Cuts.keep [] l args = args := by
  cases l <;> rfl

theorem Cuts.keep_map {α β : Type} (cuts : Cuts) (l : Label) (g : α → β) (args : List α) :
    cuts.keep l (args.map g) = (cuts.keep l args).map g := by
  simp only [Cuts.keep]
  split
  · rw [List.map_take]
  · rfl

theorem Alias.relabel_id (a : Alias) : a.relabel id = a := rfl

mutual

theorem Expr.trim_id (e : Expr) : e.trim [] id = e := by
  cases e <;> simp only [Expr.trim, id_eq, Cuts.keep_nil, Expr.trim_id, trimExprs_id, trimOption_id, trimItems_id,
    trimClauses_id, trimKeywords_id, Params.trim_id]

theorem trimExprs_id (es : List Expr) : trimExprs [] id es = es := by
  cases es <;> simp only [trimExprs, Expr.trim_id, trimExprs_id]

theorem trimOption_id (o : Option Expr) : trimOption [] id o = o := by
  cases o <;> simp only [trimOption, Expr.trim_id]

theorem trimItems_id (items : List DictItem) : trimItems [] id items = items := by
  match items with
  | [] => rfl
  | .pair .. :: rest => simp only [trimItems, Expr.trim_id, trimItems_id]
  | .spread .. :: rest => simp only [trimItems, Expr.trim_id, trimItems_id]

theorem trimClauses_id (cs : List Comprehension) : trimClauses [] id cs = cs := by
  match cs with
  | [] => rfl
  | .mk .. :: rest => simp only [trimClauses, id_eq, Expr.trim_id, trimExprs_id, trimClauses_id]

theorem trimKeywords_id (ks : List Keyword) : trimKeywords [] id ks = ks := by
  match ks with
  | [] => rfl
  | .mk .. :: rest => simp only [trimKeywords, id_eq, Expr.trim_id, trimKeywords_id]

theorem Param.trim_id (p : Param) : p.trim [] id = p := by
  cases p
  simp only [Param.trim, id_eq, trimOption_id]

theorem trimParamList_id (ps : List Param) : trimParamList [] id ps = ps := by
  cases ps <;> simp only [trimParamList, Param.trim_id, trimParamList_id]

theorem trimParamOption_id (o : Option Param) : trimParamOption [] id o = o := by
  cases o <;> simp only [trimParamOption, Param.trim_id]

theorem Params.trim_id (p : Params) : p.trim [] id = p := by
  cases p
  simp only [Params.trim, id_eq, trimParamList_id, trimParamOption_id]

end

mutual

theorem Pattern.trim_id (p : Pattern) : p.trim [] id = p := by
  match p with
  | .capture l none name => rfl
  | .capture l (some p) name => simp only [Pattern.trim, id_eq, Pattern.trim_id p]
  | .value .. | .singleton .. | .star .. => simp only [Pattern.trim, id_eq, Expr.trim_id]
  | .sequence .. | .either .. => simp only [Pattern.trim, id_eq, trimPatterns_id]
  | .mapping .. | .classOf .. => simp only [Pattern.trim, id_eq, Expr.trim_id, trimExprs_id, trimPatterns_id]

theorem trimPatterns_id (ps : List Pattern) : trimPatterns [] id ps = ps := by
  match ps with
  | [] => rfl
  | p :: rest => simp only [trimPatterns, Pattern.trim_id p, trimPatterns_id rest]

end

theorem WithItem.trim_id (w : WithItem) : w.trim [] id = w := by
  simp only [WithItem.trim, id_eq, Expr.trim_id, trimOption_id]

theorem Simple.trim_id (s : Simple) : s.trim [] id = s := by
  cases s <;> simp only [Simple.trim, Expr.trim_id, trimExprs_id, trimOption_id, funext Alias.relabel_id, List.map_id']

theorem FunctionHead.trim_id (h : FunctionHead) : h.trim [] id = h := by
  simp only [FunctionHead.trim, Params.trim_id, trimExprs_id, trimOption_id]

theorem ClassHead.trim_id (h : ClassHead) : h.trim [] id = h := by
  simp only [ClassHead.trim, trimExprs_id, trimKeywords_id]

mutual

theorem Stmt.trim_id (s : Stmt) : s.trim [] id = s := by
  cases s <;> simp only [Stmt.trim, id_eq, Simple.trim_id, FunctionHead.trim_id, ClassHead.trim_id, Expr.trim_id,
    funext WithItem.trim_id, List.map_id', trimBlock_id, trimHandlers_id, trimCases_id]

theorem trimBlock_id (b : List Stmt) : trimBlock [] id b = b := by
  match b with
  | [] => rfl
  | s :: rest => simp only [trimBlock, Stmt.trim_id s, trimBlock_id rest]

theorem trimHandlers_id (hs : List Handler) : trimHandlers [] id hs = hs := by
  match hs with
  | [] => rfl
  | .mk .. :: rest => simp only [trimHandlers, id_eq, trimOption_id, trimBlock_id, trimHandlers_id rest]

theorem trimCases_id (cs : List MatchCase) : trimCases [] id cs = cs := by
  match cs with
  | [] => rfl
  | .mk .. :: rest => simp only [trimCases, id_eq, Pattern.trim_id, trimOption_id, trimBlock_id, trimCases_id rest]

end

section Cut

variable (cuts : Cuts) (f : Label → Label)

theorem trimExprs_eq (es : List Expr) : trimExprs cuts f es = es.map (Expr.trim cuts f) := by
  induction es with
  | nil => rfl
  | cons e rest ih => rw [trimExprs, ih, List.map_cons]

theorem trimParamList_eq (ps : List Param) : trimParamList cuts f ps = ps.map (Param.trim cuts f) := by
  induction ps with
  | nil => rfl
  | cons p rest ih => rw [trimParamList, ih, List.map_cons]

theorem trimBlock_eq (b : Block) : trimBlock cuts f b = b.map (Stmt.trim cuts f) := by
  induction b with
  | nil => rfl
  | cons s rest ih => rw [trimBlock, ih, List.map_cons]

theorem trimExprs_keep (l : Label) (es : List Expr) :
    trimExprs [] f (cuts.keep l es) = cuts.keep l (trimExprs [] f es) := by
  rw [trimExprs_eq, trimExprs_eq, Cuts.keep_map]

mutual

theorem Expr.trim_cut (e : Expr) : (e.cut cuts).trim [] f = e.trim cuts f := by
  cases e <;> simp only [Expr.cut, Expr.trim, Cuts.keep_nil, trimExprs_keep, Expr.trim_cut, trimExprs_cut,
    trimOption_cut, trimItems_cut, trimClauses_cut, trimKeywords_cut, Params.trim_cut]

theorem trimExprs_cut (es : List Expr) : trimExprs [] f (cutExprs cuts es) = trimExprs cuts f es := by
  cases es <;> simp only [cutExprs, trimExprs, Expr.trim_cut, trimExprs_cut]

theorem trimOption_cut (o : Option Expr) : trimOption [] f (cutOption cuts o) = trimOption cuts f o := by
  cases o <;> simp only [cutOption, trimOption, Expr.trim_cut]

theorem trimItems_cut (items : List DictItem) : trimItems [] f (cutItems cuts items) = trimItems cuts f items := by
  match items with
  | [] => rfl
  | .pair .. :: rest => simp only [cutItems, trimItems, Expr.trim_cut, trimItems_cut]
  | .spread .. :: rest => simp only [cutItems, trimItems, Expr.trim_cut, trimItems_cut]

theorem trimClauses_cut (cs : List Comprehension) : trimClauses [] f (cutClauses cuts cs) = trimClauses cuts f cs := by
  match cs with
  | [] => rfl
  | .mk .. :: rest => simp only [cutClauses, trimClauses, Expr.trim_cut, trimExprs_cut, trimClauses_cut]

theorem trimKeywords_cut (ks : List Keyword) : trimKeywords [] f (cutKeywords cuts ks) = trimKeywords cuts f ks := by
  match ks with
  | [] => rfl
  | .mk .. :: rest => simp only [cutKeywords, trimKeywords, Expr.trim_cut, trimKeywords_cut]

theorem Param.trim_cut (p : Param) : (p.cut cuts).trim [] f = p.trim cuts f := by
  cases p
  simp only [Param.cut, Param.trim, trimOption_cut]

theorem trimParamList_cut (ps : List Param) : trimParamList [] f (cutParamList cuts ps) = trimParamList cuts f ps := by
  cases ps <;> simp only [cutParamList, trimParamList, Param.trim_cut, trimParamList_cut]

theorem trimParamOption_cut (o : Option Param) :
    trimParamOption [] f (cutParamOption cuts o) = trimParamOption cuts f o := by
  cases o <;> simp only [cutParamOption, trimParamOption, Param.trim_cut]

theorem Params.trim_cut (p : Params) : (p.cut cuts).trim [] f = p.trim cuts f := by
  cases p
  simp only [Params.cut, Params.trim, trimParamList_cut, trimParamOption_cut]

end

mutual

theorem Pattern.trim_cut (p : Pattern) : (p.cut cuts).trim [] f = p.trim cuts f := by
  match p with
  | .capture l none name => rfl
  | .capture l (some p) name => simp only [Pattern.cut, Pattern.trim, Pattern.trim_cut p]
  | .value .. | .singleton .. | .star .. => simp only [Pattern.cut, Pattern.trim, Expr.trim_cut]
  | .sequence .. | .either .. => simp only [Pattern.cut, Pattern.trim, trimPatterns_cut]
  | .mapping .. | .classOf .. => simp only [Pattern.cut, Pattern.trim, Expr.trim_cut, trimExprs_cut, trimPatterns_cut]

theorem trimPatterns_cut (ps : List Pattern) : trimPatterns [] f (cutPatterns cuts ps) = trimPatterns cuts f ps := by
  match ps with
  | [] => rfl
  | p :: rest => simp only [cutPatterns, trimPatterns, Pattern.trim_cut p, trimPatterns_cut rest]

end

theorem WithItem.trim_cut (w : WithItem) : (w.cut cuts).trim [] f = w.trim cuts f := by
  simp only [WithItem.cut, WithItem.trim, Expr.trim_cut, trimOption_cut]

theorem Simple.trim_cut (s : Simple) : (s.cut cuts).trim [] f = s.trim cuts f := by
  cases s <;> simp only [Simple.cut, Simple.trim, Expr.trim_cut, trimExprs_cut, trimOption_cut]

theorem FunctionHead.trim_cut (h : FunctionHead) : (h.cut cuts).trim [] f = h.trim cuts f := by
  simp only [FunctionHead.cut, FunctionHead.trim, Params.trim_cut, trimExprs_cut, trimOption_cut]

theorem ClassHead.trim_cut (h : ClassHead) : (h.cut cuts).trim [] f = h.trim cuts f := by
  simp only [ClassHead.cut, ClassHead.trim, trimExprs_cut, trimKeywords_cut]

mutual

theorem Stmt.trim_cut (s : Stmt) : (s.cut cuts).trim [] f = s.trim cuts f := by
  cases s <;> simp only [Stmt.cut, Stmt.trim, Simple.trim_cut, FunctionHead.trim_cut, ClassHead.trim_cut, Expr.trim_cut,
    List.map_map, Function.comp_def, WithItem.trim_cut, trimBlock_cut, trimHandlers_cut, trimCases_cut]

theorem trimBlock_cut (b : List Stmt) : trimBlock [] f (cutBlock cuts b) = trimBlock cuts f b := by
  match b with
  | [] => rfl
  | s :: rest => simp only [cutBlock, trimBlock, Stmt.trim_cut s, trimBlock_cut rest]

theorem trimHandlers_cut (hs : List Handler) : trimHandlers [] f (cutHandlers cuts hs) = trimHandlers cuts f hs := by
  match hs with
  | [] => rfl
  | .mk .. :: rest => simp only [cutHandlers, trimHandlers, trimOption_cut, trimBlock_cut, trimHandlers_cut rest]

theorem trimCases_cut (cs : List MatchCase) : trimCases [] f (cutCases cuts cs) = trimCases cuts f cs := by
  match cs with
  | [] => rfl
  | .mk .. :: rest =>
    simp only [cutCases, trimCases, Pattern.trim_cut, trimOption_cut, trimBlock_cut, trimCases_cut rest]

end

end Cut

theorem Stmt.cut_eq_trim (cuts : Cuts) (s : Stmt) : s.cut cuts = s.trim cuts id := by
  rw [← Stmt.trim_cut, Stmt.trim_id]

theorem Expr.cut_eq_trim (cuts : Cuts) (e : Expr) : e.cut cuts = e.trim cuts id := by
  rw [← Expr.trim_cut, Expr.trim_id]

theorem Module.cut_eq_trim (cuts : Cuts) (m : Module) : m.cut cuts = m.trim cuts id := by
  rw [cut, trim, ← trimBlock_cut, trimBlock_id]

theorem cutBlock_nil (b : Block) : cutBlock [] b = b := by
  rw [← trimBlock_id (cutBlock [] b), trimBlock_cut, trimBlock_id]

theorem Module.cut_nil (m : Module) : m.cut [] = m := by
  rw [Module.cut, cutBlock_nil]

end Whittle
