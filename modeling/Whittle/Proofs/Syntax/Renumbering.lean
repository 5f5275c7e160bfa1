import Whittle.Proofs.Syntax.Numbering
import Whittle.Proofs.Syntax.Trimming

namespace Whittle

section Number

variable (f : Label → Label)

mutual

theorem Expr.number_runs (e : Expr) (k : Nat) (runs : Runs f k e.labels) :
    e.number k = (e.trim [] f, k + e.labels.length) := by
  cases e with
  | constant l value => rw [Expr.trim, runs.1]; rfl
  | name l id ctx => rw [Expr.trim, runs.1]; rfl
  | _ =>
    simp only [Expr.labels, runs_cons, runs_append, List.cons_append, List.append_assoc] at runs
    simp only [Expr.number, bind_at, pure_at, freshLabel_at, Expr.number_runs, numberExprs_runs, numberOption_runs,
      numberItems_runs, numberClauses_runs, numberKeywords_runs, Params.number_runs, runs, Expr.trim, Cuts.keep_nil,
      Expr.labels, List.length_cons, List.length_append]
    congr 1
    omega

theorem numberExprs_runs (es : List Expr) (k : Nat) (runs : Runs f k (labelsOfExprs es)) :
    numberExprs es k = (trimExprs [] f es, k + (labelsOfExprs es).length) := by
  match es with
  | [] => rfl
  | e :: rest =>
    simp only [labelsOfExprs, runs_append] at runs
    simp only [numberExprs, bind_at, pure_at, Expr.number_runs, numberExprs_runs, runs, trimExprs, labelsOfExprs,
      List.length_append, Nat.add_assoc]

theorem numberOption_runs (o : Option Expr) (k : Nat) (runs : Runs f k (labelsOfOption o)) :
    numberOption o k = (trimOption [] f o, k + (labelsOfOption o).length) := by
  match o with
  | none => rfl
  | some e => simp only [numberOption, bind_at, pure_at, Expr.number_runs e k runs, trimOption, labelsOfOption]

theorem numberItems_runs (items : List DictItem) (k : Nat) (runs : Runs f k (labelsOfItems items)) :
    numberItems items k = (trimItems [] f items, k + (labelsOfItems items).length) := by
  match items with
  | [] => rfl
  | .pair .. :: rest | .spread .. :: rest =>
    simp only [labelsOfItems, runs_append, List.append_assoc] at runs
    simp only [numberItems, bind_at, pure_at, Expr.number_runs, numberItems_runs, runs, trimItems, labelsOfItems,
      List.length_append]
    congr 1
    omega

theorem numberClauses_runs (cs : List Comprehension) (k : Nat) (runs : Runs f k (labelsOfClauses cs)) :
    numberClauses cs k = (trimClauses [] f cs, k + (labelsOfClauses cs).length) := by
  match cs with
  | [] => rfl
  | .mk .. :: rest =>
    simp only [labelsOfClauses, runs_cons, runs_append, List.cons_append, List.append_assoc] at runs
    simp only [numberClauses, bind_at, pure_at, freshLabel_at, Expr.number_runs, numberExprs_runs, numberClauses_runs,
      runs, trimClauses, labelsOfClauses, List.length_cons, List.length_append]
    congr 1
    omega

theorem numberKeywords_runs (ks : List Keyword) (k : Nat) (runs : Runs f k (labelsOfKeywords ks)) :
    numberKeywords ks k = (trimKeywords [] f ks, k + (labelsOfKeywords ks).length) := by
  match ks with
  | [] => rfl
  | .mk .. :: rest =>
    simp only [labelsOfKeywords, runs_cons, runs_append, List.cons_append] at runs
    simp only [numberKeywords, bind_at, pure_at, freshLabel_at, Expr.number_runs, numberKeywords_runs, runs,
      trimKeywords, labelsOfKeywords, List.length_cons, List.length_append]
    congr 1
    omega

theorem Param.number_runs (p : Param) (k : Nat) (runs : Runs f k p.labels) :
    p.number k = (p.trim [] f, k + p.labels.length) := by
  cases p
  simp only [Param.labels, runs_cons, runs_append, List.cons_append] at runs
  simp only [Param.number, bind_at, pure_at, freshLabel_at, numberOption_runs, runs, Param.trim, Param.labels,
    List.length_cons, List.length_append]
  congr 1
  omega

theorem numberParamList_runs (ps : List Param) (k : Nat) (runs : Runs f k (labelsOfParamList ps)) :
    numberParamList ps k = (trimParamList [] f ps, k + (labelsOfParamList ps).length) := by
  match ps with
  | [] => rfl
  | p :: rest =>
    simp only [labelsOfParamList, runs_append] at runs
    simp only [numberParamList, bind_at, pure_at, Param.number_runs, numberParamList_runs, runs, trimParamList,
      labelsOfParamList, List.length_append, Nat.add_assoc]

theorem numberParamOption_runs (o : Option Param) (k : Nat) (runs : Runs f k (labelsOfParamOption o)) :
    numberParamOption o k = (trimParamOption [] f o, k + (labelsOfParamOption o).length) := by
  match o with
  | none => rfl
  | some p =>
    simp only [numberParamOption, bind_at, pure_at, Param.number_runs p k runs, trimParamOption, labelsOfParamOption]

theorem Params.number_runs (p : Params) (k : Nat) (runs : Runs f k p.labels) :
    p.number k = (p.trim [] f, k + p.labels.length) := by
  cases p
  simp only [Params.labels, runs_cons, runs_append, List.cons_append, List.append_assoc] at runs
  simp only [Params.number, bind_at, pure_at, freshLabel_at, numberParamList_runs, numberParamOption_runs, runs,
    Params.trim, Params.labels, List.length_cons, List.length_append]
  congr 1
  omega

end

mutual

theorem Pattern.number_runs (p : Pattern) (k : Nat) (runs : Runs f k p.labels) :
    p.number k = (p.trim [] f, k + p.labels.length) := by
  match p with
  | .singleton l v => rw [Pattern.trim, runs.1]; rfl
  | .star l name => rw [Pattern.trim, runs.1]; rfl
  | .capture l none name => rw [Pattern.trim, runs.1]; rfl
  | .capture l (some p) name =>
    simp only [Pattern.labels, runs_cons] at runs
    simp only [Pattern.number, bind_at, pure_at, freshLabel_at, Pattern.number_runs p, runs, Pattern.trim,
      Pattern.labels, List.length_cons]
    congr 1
    omega
  | .value .. | .sequence .. | .mapping .. | .classOf .. | .either .. =>
    simp only [Pattern.labels, runs_cons, runs_append, List.cons_append, List.append_assoc] at runs
    simp only [Pattern.number, bind_at, pure_at, freshLabel_at, Expr.number_runs f, numberExprs_runs f,
      numberPatterns_runs, runs, Pattern.trim, Pattern.labels, List.length_cons, List.length_append]
    congr 1
    omega

theorem numberPatterns_runs (ps : List Pattern) (k : Nat) (runs : Runs f k (labelsOfPatterns ps)) :
    numberPatterns ps k = (trimPatterns [] f ps, k + (labelsOfPatterns ps).length) := by
  match ps with
  | [] => rfl
  | p :: rest =>
    simp only [labelsOfPatterns, runs_append] at runs
    simp only [numberPatterns, bind_at, pure_at, Pattern.number_runs p, numberPatterns_runs rest, runs, trimPatterns,
      labelsOfPatterns, List.length_append, Nat.add_assoc]

end

theorem mapM_runs {α : Type} {number : α → StateM Nat α} {labels : α → List Label} {trim : α → α}
    (each : ∀ a k, Runs f k (labels a) → number a k = (trim a, k + (labels a).length)) (as : List α) (k : Nat)
    (runs : Runs f k (as.flatMap labels)) : as.mapM number k = (as.map trim, k + (as.flatMap labels).length) := by
  induction as generalizing k with
  | nil => rfl
  | cons a rest ih =>
    simp only [List.flatMap_cons, runs_append] at runs
    simp only [List.mapM_cons, bind_at, pure_at, each a k runs.1, ih _ runs.2, List.map_cons, List.flatMap_cons,
      List.length_append, Nat.add_assoc]

theorem numberAliases_runs (names : List Alias) (k : Nat) (runs : Runs f k (names.map Alias.label)) :
    names.mapM Alias.number k = (names.map (Alias.relabel f), k + (names.map Alias.label).length) := by
  have listed : names.flatMap (fun a => [a.label]) = names.map Alias.label := List.map_eq_flatMap.symm
  have each : ∀ (a : Alias) (k : Nat), Runs f k [a.label] → a.number k = (a.relabel f, k + [a.label].length) := by
    intro a k runs
    rw [Alias.relabel, runs.1]
    rfl
  have numbered := mapM_runs f each names k (listed ▸ runs)
  rwa [listed] at numbered

theorem WithItem.number_runs (w : WithItem) (k : Nat) (runs : Runs f k w.labels) :
    w.number k = (w.trim [] f, k + w.labels.length) := by
  simp only [WithItem.labels, runs_cons, runs_append, List.cons_append] at runs
  simp only [WithItem.number, bind_at, pure_at, freshLabel_at, Expr.number_runs f, numberOption_runs f, runs,
    WithItem.trim, WithItem.labels, List.length_cons, List.length_append]
  congr 1
  omega

theorem Simple.number_runs (s : Simple) (k : Nat) (runs : Runs f k s.labels) :
    s.number k = (s.trim [] f, k + s.labels.length) := by
  cases s with
  | annAssign target hint value isSimple =>
    simp only [Simple.labels, runs_append, List.append_assoc] at runs
    simp only [Simple.number, bind_at, pure_at, Expr.number_runs f, numberOption_runs f, runs, Simple.trim,
      Simple.labels, List.length_append]
    simp only [Nat.add_assoc]
  | _ =>
    simp only [Simple.labels, runs_append] at runs
    simp only [Simple.number, bind_at, pure_at, Expr.number_runs f, numberExprs_runs f, numberOption_runs f,
      numberAliases_runs f, runs, Simple.trim, Simple.labels, List.length_append, List.length_nil, Nat.add_zero,
      Nat.add_assoc]

theorem FunctionHead.number_runs (h : FunctionHead) (k : Nat) (runs : Runs f k h.labels) :
    h.number k = (h.trim [] f, k + h.labels.length) := by
  simp only [FunctionHead.labels, runs_append, List.append_assoc] at runs
  simp only [FunctionHead.number, bind_at, pure_at, Params.number_runs f, numberExprs_runs f, numberOption_runs f, runs,
    FunctionHead.trim, FunctionHead.labels, List.length_append]
  simp only [Nat.add_assoc]

theorem ClassHead.number_runs (h : ClassHead) (k : Nat) (runs : Runs f k h.labels) :
    h.number k = (h.trim [] f, k + h.labels.length) := by
  simp only [ClassHead.labels, runs_append, List.append_assoc] at runs
  simp only [ClassHead.number, bind_at, pure_at, numberExprs_runs f, numberKeywords_runs f, runs, ClassHead.trim,
    ClassHead.labels, List.length_append]
  simp only [Nat.add_assoc]

mutual

theorem Stmt.number_runs (s : Stmt) (k : Nat) (runs : Runs f k s.labels) :
    s.number k = (s.trim [] f, k + s.labels.length) := by
  cases s <;> simp only [Stmt.labels, runs_cons, runs_append, List.cons_append, List.append_assoc] at runs <;>
    simp only [Stmt.number, bind_at, pure_at, freshLabel_at, Simple.number_runs f, FunctionHead.number_runs f,
      ClassHead.number_runs f, Expr.number_runs f, mapM_runs f (WithItem.number_runs f), numberBlock_runs,
      numberHandlers_runs, numberCases_runs, runs, Stmt.trim, Stmt.labels, List.length_cons, List.length_append] <;>
    (congr 1; omega)

theorem numberBlock_runs (b : List Stmt) (k : Nat) (runs : Runs f k (labelsOfBlock b)) :
    numberBlock b k = (trimBlock [] f b, k + (labelsOfBlock b).length) := by
  match b with
  | [] => rfl
  | s :: rest =>
    simp only [labelsOfBlock, runs_append] at runs
    simp only [numberBlock, bind_at, pure_at, Stmt.number_runs s, numberBlock_runs rest, runs, trimBlock,
      labelsOfBlock, List.length_append, Nat.add_assoc]

theorem numberHandlers_runs (hs : List Handler) (k : Nat) (runs : Runs f k (labelsOfHandlers hs)) :
    numberHandlers hs k = (trimHandlers [] f hs, k + (labelsOfHandlers hs).length) := by
  match hs with
  | [] => rfl
  | .mk l type name body :: rest =>
    simp only [labelsOfHandlers, runs_cons, runs_append, List.cons_append, List.append_assoc] at runs
    simp only [numberHandlers, bind_at, pure_at, freshLabel_at, numberOption_runs f, numberBlock_runs body,
      numberHandlers_runs rest, runs, trimHandlers, labelsOfHandlers, List.length_cons, List.length_append]
    congr 1
    omega

theorem numberCases_runs (cs : List MatchCase) (k : Nat) (runs : Runs f k (labelsOfCases cs)) :
    numberCases cs k = (trimCases [] f cs, k + (labelsOfCases cs).length) := by
  match cs with
  | [] => rfl
  | .mk l p guard body :: rest =>
    simp only [labelsOfCases, runs_cons, runs_append, List.cons_append, List.append_assoc] at runs
    simp only [numberCases, bind_at, pure_at, freshLabel_at, Pattern.number_runs f, numberOption_runs f,
      numberBlock_runs body, numberCases_runs rest, runs, trimCases, labelsOfCases, List.length_cons,
      List.length_append]
    congr 1
    omega

end

end Number

section Labels

variable (cuts : Cuts)

theorem labelsOfExprs_eq (es : List Expr) : labelsOfExprs es = es.flatMap Expr.labels := by
  induction es with
  | nil => rfl
  | cons e rest ih => rw [labelsOfExprs, ih, List.flatMap_cons]

theorem labels_keep (l : Label) (es : List Expr) : (labelsOfExprs (cuts.keep l es)).Sublist (labelsOfExprs es) := by
  rw [Cuts.keep]
  split
  · rename_i n _
    have whole := congrArg labelsOfExprs (List.take_append_drop n es)
    rw [← whole, labelsOfExprs_eq, labelsOfExprs_eq, List.flatMap_append]
    exact List.sublist_append_left _ _
  · exact .refl _

mutual

theorem Expr.labels_cut (e : Expr) : (e.cut cuts).labels.Sublist e.labels := by
  cases e with
  | call l func args keywords =>
    have kept := (labels_keep cuts l (cutExprs cuts args)).trans (labels_cutExprs args)
    simp only [Expr.cut, Expr.labels, List.cons_append, List.cons_sublist_cons, List.append_assoc]
    exact (Expr.labels_cut func).append (kept.append (labels_cutKeywords keywords))
  | _ =>
    simp only [Expr.cut, Expr.labels, List.cons_append, List.cons_sublist_cons, List.Sublist.append,
      List.Sublist.refl, Expr.labels_cut, labels_cutExprs, labels_cutOption, labels_cutItems, labels_cutClauses,
      Params.labels_cut]

theorem labels_cutExprs (es : List Expr) : (labelsOfExprs (cutExprs cuts es)).Sublist (labelsOfExprs es) := by
  match es with
  | [] => exact .refl _
  | e :: rest => exact (Expr.labels_cut e).append (labels_cutExprs rest)

theorem labels_cutOption (o : Option Expr) : (labelsOfOption (cutOption cuts o)).Sublist (labelsOfOption o) := by
  match o with
  | none => exact .refl _
  | some e => exact Expr.labels_cut e

theorem labels_cutItems (items : List DictItem) :
    (labelsOfItems (cutItems cuts items)).Sublist (labelsOfItems items) := by
  match items with
  | [] => exact .refl _
  | .pair key value :: rest =>
    exact ((Expr.labels_cut key).append (Expr.labels_cut value)).append (labels_cutItems rest)
  | .spread value :: rest => exact (Expr.labels_cut value).append (labels_cutItems rest)

theorem labels_cutClauses (cs : List Comprehension) :
    (labelsOfClauses (cutClauses cuts cs)).Sublist (labelsOfClauses cs) := by
  match cs with
  | [] => exact .refl _
  | .mk l target iter ifs isAsync :: rest =>
    simp only [cutClauses, labelsOfClauses, List.cons_append, List.cons_sublist_cons]
    exact (((Expr.labels_cut target).append (Expr.labels_cut iter)).append (labels_cutExprs ifs)).append
      (labels_cutClauses rest)

theorem labels_cutKeywords (ks : List Keyword) :
    (labelsOfKeywords (cutKeywords cuts ks)).Sublist (labelsOfKeywords ks) := by
  match ks with
  | [] => exact .refl _
  | .mk l name value :: rest =>
    simp only [cutKeywords, labelsOfKeywords, List.cons_append, List.cons_sublist_cons]
    exact (Expr.labels_cut value).append (labels_cutKeywords rest)

theorem Param.labels_cut (p : Param) : (p.cut cuts).labels.Sublist p.labels := by
  cases p with
  | mk l name hint default =>
    simp only [Param.cut, Param.labels, List.cons_append, List.cons_sublist_cons]
    exact (labels_cutOption hint).append (labels_cutOption default)

theorem labels_cutParamList (ps : List Param) :
    (labelsOfParamList (cutParamList cuts ps)).Sublist (labelsOfParamList ps) := by
  match ps with
  | [] => exact .refl _
  | p :: rest => exact (Param.labels_cut p).append (labels_cutParamList rest)

theorem labels_cutParamOption (o : Option Param) :
    (labelsOfParamOption (cutParamOption cuts o)).Sublist (labelsOfParamOption o) := by
  match o with
  | none => exact .refl _
  | some p => exact Param.labels_cut p

theorem Params.labels_cut (p : Params) : (p.cut cuts).labels.Sublist p.labels := by
  cases p with
  | mk l posOnly args vararg kwOnly kwarg =>
    simp only [Params.cut, Params.labels, List.cons_append, List.cons_sublist_cons]
    have front :=
      ((labels_cutParamList posOnly).append (labels_cutParamList args)).append (labels_cutParamOption vararg)
    exact (front.append (labels_cutParamList kwOnly)).append (labels_cutParamOption kwarg)

end

mutual

theorem Pattern.labels_cut (p : Pattern) : (p.cut cuts).labels.Sublist p.labels := by
  match p with
  | .capture l none name => exact .refl _
  | .capture l (some p) name => exact (Pattern.labels_cut p).cons_cons l
  | .singleton .. | .star .. => exact .refl _
  | .value l e => exact (e.labels_cut cuts).cons_cons l
  | .sequence l ps | .either l ps => exact (labels_cutPatterns ps).cons_cons l
  | .mapping l keys ps rest => exact ((labels_cutExprs cuts keys).append (labels_cutPatterns ps)).cons_cons l
  | .classOf l cls ps attrs kps =>
    exact (((cls.labels_cut cuts).append (labels_cutPatterns ps)).append (labels_cutPatterns kps)).cons_cons l

theorem labels_cutPatterns (ps : List Pattern) :
    (labelsOfPatterns (cutPatterns cuts ps)).Sublist (labelsOfPatterns ps) := by
  match ps with
  | [] => exact .refl _
  | p :: rest => exact (Pattern.labels_cut p).append (labels_cutPatterns rest)

end

theorem WithItem.labels_cut (w : WithItem) : (w.cut cuts).labels.Sublist w.labels :=
  ((w.context.labels_cut cuts).append (labels_cutOption cuts w.vars)).cons_cons w.label

theorem labels_cutWithItems (ws : List WithItem) :
    ((ws.map (WithItem.cut cuts)).flatMap WithItem.labels).Sublist (ws.flatMap WithItem.labels) := by
  induction ws with
  | nil => exact .refl _
  | cons w rest ih => exact (w.labels_cut cuts).append ih

theorem Simple.labels_cut (s : Simple) : (s.cut cuts).labels.Sublist s.labels := by
  cases s <;> simp only [Simple.cut, Simple.labels, List.Sublist.append, List.Sublist.refl, Expr.labels_cut,
    labels_cutExprs, labels_cutOption]

theorem FunctionHead.labels_cut (h : FunctionHead) : (h.cut cuts).labels.Sublist h.labels :=
  ((h.params.labels_cut cuts).append (labels_cutExprs cuts h.decorators)).append (labels_cutOption cuts h.returns)

theorem ClassHead.labels_cut (h : ClassHead) : (h.cut cuts).labels.Sublist h.labels :=
  ((labels_cutExprs cuts h.bases).append (labels_cutKeywords cuts h.keywords)).append
    (labels_cutExprs cuts h.decorators)

mutual

theorem Stmt.labels_cut (s : Stmt) : (s.cut cuts).labels.Sublist s.labels := by
  match s with
  | .simple l form => exact (form.labels_cut cuts).cons_cons l
  | .func l head body => exact ((head.labels_cut cuts).append (labels_cutBlock body)).cons_cons l
  | .klass l head body => exact ((head.labels_cut cuts).append (labels_cutBlock body)).cons_cons l
  | .ifElse l test body orelse | .whileLoop l test body orelse =>
    exact (((test.labels_cut cuts).append (labels_cutBlock body)).append (labels_cutBlock orelse)).cons_cons l
  | .forLoop l _ target iter body orelse =>
    have head := (target.labels_cut cuts).append (iter.labels_cut cuts)
    exact ((head.append (labels_cutBlock body)).append (labels_cutBlock orelse)).cons_cons l
  | .withBlock l _ items body => exact ((labels_cutWithItems cuts items).append (labels_cutBlock body)).cons_cons l
  | .matchOn l subject cases => exact ((subject.labels_cut cuts).append (labels_cutCases cases)).cons_cons l
  | .tryBlock l _ body handlers orelse finalbody =>
    have front := (labels_cutBlock body).append (labels_cutHandlers handlers)
    exact ((front.append (labels_cutBlock orelse)).append (labels_cutBlock finalbody)).cons_cons l

theorem labels_cutBlock (b : List Stmt) : (labelsOfBlock (cutBlock cuts b)).Sublist (labelsOfBlock b) := by
  match b with
  | [] => exact .refl _
  | s :: rest => exact (Stmt.labels_cut s).append (labels_cutBlock rest)

theorem labels_cutHandlers (hs : List Handler) :
    (labelsOfHandlers (cutHandlers cuts hs)).Sublist (labelsOfHandlers hs) := by
  match hs with
  | [] => exact .refl _
  | .mk l type name body :: rest =>
    exact (((labels_cutOption cuts type).append (labels_cutBlock body)).append (labels_cutHandlers rest)).cons_cons l

theorem labels_cutCases (cs : List MatchCase) : (labelsOfCases (cutCases cuts cs)).Sublist (labelsOfCases cs) := by
  match cs with
  | [] => exact .refl _
  | .mk l p guard body :: rest =>
    have front := (p.labels_cut cuts).append (labels_cutOption cuts guard)
    exact ((front.append (labels_cutBlock body)).append (labels_cutCases rest)).cons_cons l

end

end Labels

-- Labels of the list become their positions, and all others come after them.
def positions (labels : List Label) (l : Label) : Label :=
  if l ∈ labels then some (labels.idxOf l) else l.map (labels.length + ·)

theorem positions_injective (labels : List Label) : Function.Injective (positions labels) := by
  intro a b same
  simp only [positions] at same
  split at same <;> split at same
  · rename_i here there
    exact (List.idxOf_inj here).mp (Option.some.inj same)
  · rename_i here there
    obtain ⟨n, -, position⟩ := Option.map_eq_some_iff.mp same.symm
    have bound := List.idxOf_lt_length_of_mem here
    omega
  · rename_i here there
    obtain ⟨n, -, position⟩ := Option.map_eq_some_iff.mp same
    have bound := List.idxOf_lt_length_of_mem there
    omega
  · exact Option.map_injective (fun x y eq => Nat.add_left_cancel eq) same

theorem runs_positions {labels : List Label} (distinct : labels.Nodup) : Runs (positions labels) 0 labels := by
  have suffix : ∀ front back, labels = front ++ back → Runs (positions labels) front.length back := by
    intro front back
    induction back generalizing front with
    | nil => exact fun _ => trivial
    | cons l rest ih =>
      intro whole
      have later := ih (front ++ [l]) (by simp [whole])
      rw [List.length_append, List.length_singleton] at later
      refine ⟨?_, later⟩
      have fresh : l ∉ front := by
        rw [whole] at distinct
        exact fun member => (List.nodup_append.mp distinct).2.2 l member l List.mem_cons_self rfl
      rw [positions, if_pos (by simp [whole]), whole, List.idxOf_append_of_notMem fresh]
      simp
  exact suffix [] labels rfl

theorem Module.number_cut (cuts : Cuts) (m : Module) :
    (m.number.cut cuts).number = m.number.trim cuts (positions (m.number.cut cuts).labels) := by
  have distinct := m.labels_number_nodup.sublist (labels_cutBlock cuts m.number.body)
  have runs := runs_positions distinct
  change Module.mk (numberBlock (cutBlock cuts m.number.body) 0).1 = _
  rw [numberBlock_runs _ _ _ runs, trimBlock_cut]
  rfl

end Whittle
