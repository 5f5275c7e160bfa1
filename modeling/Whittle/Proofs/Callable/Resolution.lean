import Whittle.Proofs.Callable.Reading

namespace Whittle

namespace Namespace

section Methods

variable (cuts : Cuts) (f : Label → Label) (ns : Namespace)

theorem isClass_trim (name : String) : (ns.trim cuts f).isClass name = ns.isClass name := by
  rw [isClass, trim, Table.has_mapValues, isClass]

theorem firstOfBases_at (search : String → StateM (List String) (Option (List FunctionHead))) (base : String)
    (rest seen : List String) :
    ns.firstOfBases search (base :: rest) seen =
      if base == "object" then ns.firstOfBases search rest seen
      else if !ns.classes.has base then (none, seen)
      else
        match search base seen with
        | (some defs, seen) => (some defs, seen)
        | (none, seen) => ns.firstOfBases search rest seen := by
  rw [firstOfBases]
  split
  · rfl
  · split
    · rfl
    · simp only [bind, StateT.bind]
      obtain ⟨found, seen⟩ := search base seen
      cases found <;> rfl

variable {ns} in
theorem searchMethod_at {className : String} {c : ClassEntry} (known : ns.classes.find? className = some c)
    (method : String) (fuel : Nat) (seen : List String) :
    ns.searchMethod method (fuel + 1) className seen =
      if seen.contains className then (none, seen)
      else if c.assigned.contains method then (none, className :: seen)
      else
        match c.methods.find? method with
        | some defs => (some defs, className :: seen)
        | none =>
          if method == "__init__" && !c.head.decorators.isEmpty then (none, className :: seen)
          else ns.firstOfBases (ns.searchMethod method fuel) c.bases (className :: seen) := by
  rw [searchMethod, known]
  simp only [bind, StateT.bind, get, getThe, MonadStateOf.get, StateT.get, modify, modifyGet, MonadStateOf.modifyGet,
    pure]
  split
  · rfl
  · simp only [StateT.bind, StateT.modifyGet, pure, bind]
    split
    · rfl
    · cases c.methods.find? method with
      | some defs => rfl
      | none => split <;> rfl

-- The search finds the trimmed definitions and sees the same classes.
def FindsTrimmed (search' search : StateM (List String) (Option (List FunctionHead))) : Prop :=
  ∀ seen, search' seen = ((search seen).1.map (List.map (FunctionHead.trim cuts f)), (search seen).2)

theorem firstOfBases_trim {search' search : String → StateM (List String) (Option (List FunctionHead))}
    (each : ∀ base, FindsTrimmed cuts f (search' base) (search base)) (bases : List String) :
    FindsTrimmed cuts f ((ns.trim cuts f).firstOfBases search' bases) (ns.firstOfBases search bases) := by
  induction bases with
  | nil => exact fun _ => rfl
  | cons base rest ih =>
    intro seen
    have known : (ns.trim cuts f).classes.has base = ns.classes.has base := Table.has_mapValues _ _ _
    rw [firstOfBases_at, firstOfBases_at, known, each base seen]
    split
    · exact ih seen
    · split
      · rfl
      · obtain ⟨found, seen⟩ := search base seen
        cases found with
        | none => exact ih seen
        | some defs => rfl

theorem searchMethod_trim (method : String) (fuel : Nat) (className : String) :
    FindsTrimmed cuts f ((ns.trim cuts f).searchMethod method fuel className)
      (ns.searchMethod method fuel className) := by
  induction fuel generalizing className with
  | zero => exact fun _ => rfl
  | succ fuel ih =>
    intro seen
    have found : (ns.trim cuts f).classes.find? className = (ns.classes.find? className).map (ClassEntry.trim cuts f) :=
      Table.find_mapValues _ _ _
    cases known : ns.classes.find? className with
    | none =>
      rw [searchMethod, searchMethod, found, known]
      rfl
    | some c =>
      rw [known] at found
      have listed : (c.trim cuts f).methods.find? method =
          (c.methods.find? method).map (List.map (FunctionHead.trim cuts f)) := Table.find_mapValues _ _ _
      have plain : (c.trim cuts f).head.decorators.isEmpty = c.head.decorators.isEmpty := by
        simp [ClassEntry.trim, ClassHead.trim, trimExprs_eq]
      rw [searchMethod_at found, searchMethod_at known, listed, plain]
      change (if seen.contains className then _ else if c.assigned.contains method then _ else _) = _
      split
      · rfl
      · split
        · rfl
        · cases c.methods.find? method with
          | some defs => rfl
          | none =>
            simp only [Option.map_none]
            split
            · rfl
            · exact firstOfBases_trim cuts f ns ih c.bases _

theorem method_trim (className method : String) (bound : Bool) :
    (ns.trim cuts f).method? className method bound = ns.method? className method bound := by
  have found : (ns.trim cuts f).lookupMethod className method =
      (ns.lookupMethod className method).map (List.map (FunctionHead.trim cuts f)) := by
    have size : (ns.trim cuts f).classes.length = ns.classes.length := List.length_map ..
    rw [lookupMethod, size, searchMethod_trim cuts f ns method _ className [], lookupMethod]
  rw [method?, found, method?]
  cases ns.lookupMethod className method with
  | none => rfl
  | some defs =>
    simp only [Option.map_some, bind, Option.bind, List.getLast?_map, List.all_map, Function.comp_def,
      FunctionHead.isNeutral_trim, variantsOf_trim]
    cases defs.getLast? with
    | none => rfl
    | some last => simp only [Option.map_some, FunctionHead.binding_trim]

theorem collectAncestors_trim (fuel : Nat) (seen : List String) (className : String) :
    (ns.trim cuts f).collectAncestors fuel seen className = ns.collectAncestors fuel seen className := by
  induction fuel generalizing seen className with
  | zero => rfl
  | succ fuel ih =>
    have found : (ns.trim cuts f).classes.find? className = (ns.classes.find? className).map (ClassEntry.trim cuts f) :=
      Table.find_mapValues _ _ _
    have known : ∀ base, (ns.trim cuts f).classes.has base = ns.classes.has base := fun _ => Table.has_mapValues _ _ _
    rw [collectAncestors, collectAncestors, found]
    cases ns.classes.find? className with
    | none => rfl
    | some c =>
      simp only [Option.map_some, known, ih]
      rfl

theorem ancestors_trim (className : String) : (ns.trim cuts f).ancestors className = ns.ancestors className := by
  have size : (ns.trim cuts f).classes.length = ns.classes.length := List.length_map ..
  rw [ancestors, size, collectAncestors_trim, ancestors]

theorem isOverridden_trim (className method : String) :
    (ns.trim cuts f).isOverridden className method = ns.isOverridden className method := by
  have binds : ∀ c : ClassEntry, (c.trim cuts f).binds method = c.binds method := by
    intro c
    simp only [ClassEntry.binds, ClassEntry.trim, Table.has_mapValues]
  simp only [isOverridden, ancestors_trim]
  have listed : (ns.trim cuts f).classes = ns.classes.map fun entry => (entry.1, entry.2.trim cuts f) := rfl
  rw [listed, List.any_map]
  simp only [Function.comp_def, binds]
  rfl

theorem resolveOnInstance_trim (className method : String) :
    (ns.trim cuts f).resolveOnInstance className method = ns.resolveOnInstance className method := by
  rw [resolveOnInstance, isOverridden_trim, method_trim, resolveOnInstance]

theorem kindOf_trim (func : Expr) : (ns.trim cuts f).kindOf (func.trim cuts f) = ns.kindOf func := by
  cases func with
  | «attribute» l value attr ctx =>
    cases value with
    | name l id ctx => simp only [Expr.trim, kindOf, isClass_trim]
    | call l func args keywords =>
      have same := (Expr.call l func args keywords).callsName_trim cuts f ["super", "type"]
      simp only [Expr.trim, kindOf] at same ⊢
      rw [same]
    | _ => rfl
  | _ => rfl

theorem resolveName_trim (name : String) : (ns.trim cuts f).resolveName name = ns.resolveName name := by
  have functions : (ns.trim cuts f).functions.find? name =
      (ns.functions.find? name).map (List.map (FunctionHead.trim cuts f)) := Table.find_mapValues _ _ _
  have classes : (ns.trim cuts f).classes.find? name = (ns.classes.find? name).map (ClassEntry.trim cuts f) :=
    Table.find_mapValues _ _ _
  rw [resolveName, functions, classes, resolveName]
  change (if ns.rebound.contains name then _ else _) = _
  split
  · rfl
  · cases ns.functions.find? name with
    | some defs =>
      simp only [Option.map_some, List.all_map, Function.comp_def, FunctionHead.isNeutral_trim, variantsOf_trim]
    | none =>
      cases ns.classes.find? name with
      | none => rfl
      | some c =>
        have decorators : (c.trim cuts f).head.decorators.isEmpty = c.head.decorators.isEmpty := by
          simp [ClassEntry.trim, ClassHead.trim, trimExprs_eq]
        have keywords : (c.trim cuts f).head.keywords.isEmpty = c.head.keywords.isEmpty := by
          simp only [ClassEntry.trim, ClassHead.trim]
          cases c.head.keywords with
          | nil => rfl
          | cons k rest => cases k; rfl
        simp only [Option.map_none, Option.map_some, decorators, keywords, method_trim]

theorem resolveOnClasses_trim (classNames : List String) (method : String) :
    (ns.trim cuts f).resolveOnClasses classNames method = ns.resolveOnClasses classNames method := by
  have classes : (ns.trim cuts f).isClass = ns.isClass := funext (isClass_trim cuts f ns)
  have methods : (fun c => (ns.trim cuts f).resolveOnInstance c method) = fun c => ns.resolveOnInstance c method :=
    funext fun c => resolveOnInstance_trim cuts f ns c method
  rw [resolveOnClasses, classes, methods, resolveOnClasses]

end Methods

end Namespace

theorem Node.cut_nil (n : Node) : n.cut [] = n := by
  cases n with
  | stmt s => rw [cut, s.cut_eq_trim, s.trim_id]
  | expr e => rw [cut, e.cut_eq_trim, e.trim_id]
  | _ => rfl

namespace Scope

section

variable (cuts : Cuts) (f : Label → Label)

def trim (s : Scope) : Scope := ⟨s.node.trim cuts f, s.params.trim cuts f, s.isLambda⟩

theorem ofNode_trim (n : Node) : ofNode? (n.trim cuts f) = (ofNode? n).map (trim cuts f) := by
  cases n with
  | stmt s => cases s <;> rfl
  | expr e => cases e <;> rfl
  | _ => rfl

theorem enclosing_trim (above : List Node) :
    enclosing (above.map (Node.trim cuts f)) = (enclosing above).map (trim cuts f) := by
  rw [enclosing, enclosing, List.filterMap_map, List.map_filterMap]
  exact List.filterMap_congr fun n _ => ofNode_trim cuts f n

theorem hint_trim (s : Scope) (name : String) :
    (s.trim cuts f).hint? name = (s.hint? name).map (Expr.trim cuts f) := by
  have named : ((fun p : Param => p.name == name) ∘ Param.trim cuts f) = fun p => p.name == name :=
    funext fun p => by rw [Function.comp_apply, Param.name_trim]
  rw [hint?, trim, Params.positional_trim, Params.kwOnly_trim, ← List.map_append, List.find?_map, named, hint?]
  cases (s.params.positional ++ s.params.kwOnly).find? fun p => p.name == name with
  | none => rfl
  | some p =>
    cases p with
    | mk l name hint default => cases hint <;> rfl

end

-- A scope is a statement or an expression, which cuts reach.
theorem node_of_mem_enclosing {above : List Node} {s : Scope} (member : s ∈ enclosing above) :
    s.node ∈ above ∧ ∀ cuts, s.node.cut cuts = s.node.trim cuts id := by
  obtain ⟨n, here, opened⟩ := List.mem_filterMap.mp member
  unfold ofNode? at opened
  split at opened
  · cases opened
    exact ⟨here, fun cuts => congrArg Node.stmt (Stmt.cut_eq_trim cuts _)⟩
  · cases opened
    exact ⟨here, fun cuts => congrArg Node.expr (Expr.cut_eq_trim cuts _)⟩
  · cases opened

theorem mem_enclosing_of_innermost {above outer : List Node} {node : Node} {owner : Scope}
    (around : (above.dropWhile fun n => (ofNode? n).isNone) = node :: outer) (opened : ofNode? node = some owner) :
    owner ∈ enclosing above := by
  have inside : (node :: outer).Sublist above := around ▸ List.dropWhile_sublist _
  exact List.mem_filterMap.mpr ⟨node, inside.subset List.mem_cons_self, opened⟩

variable {cuts : Cuts} {f : Label → Label}

theorem any_stored_trim {n : Node} (quiet : n.Quiet cuts) (name : String) :
    ((n.trim cuts f).walk.any fun | .expr (.name _ id .store) => id == name | _ => false) =
      n.walk.any fun | .expr (.name _ id .store) => id == name | _ => false := by
  refine Node.any_walk_trim (fun x => ?_) (fun x inside d member y below => ?_)
  · cases x with
    | expr e =>
      cases e with
      | name l id ctx => cases ctx <;> rfl
      | _ => rfl
    | _ => rfl
  · have silent := quiet x inside d member y below
    split
    · cases silent
    · rfl

theorem assigns_trim {s : Scope} (quiet : s.node.Quiet cuts) (name : String) :
    (s.trim cuts f).assigns [] name = s.assigns [] name := by
  rw [assigns, assigns, Node.cut_nil, Node.cut_nil]
  exact any_stored_trim quiet name

theorem assigns_of_quiet {above : List Node} {s : Scope} (member : s ∈ enclosing above) (quiet : s.node.Quiet cuts)
    (name : String) : s.assigns cuts name = s.assigns [] name := by
  rw [assigns, assigns, Node.cut_nil, (node_of_mem_enclosing member).2 cuts]
  exact any_stored_trim quiet name

end Scope

namespace Namespace

variable {cuts : Cuts} {f : Label → Label}

theorem resolveOnReceiver_class (ns : Namespace) (owner : Scope) (l : Label) (head : ClassHead) (body : Block)
    (receiver method : String) :
    ns.resolveOnReceiver owner (some (.stmt (.klass l head body))) receiver method =
      (ns.classes.find? head.name).bind fun c => owner.params.positional.head?.bind fun first =>
        if c.label != l || first.name != receiver then none
        else (ns.resolveOnInstance head.name method).map .method := rfl

theorem resolveOnReceiver_trim (distinct : Function.Injective f) (ns : Namespace) (owner : Scope) (holder : Option Node)
    (receiver method : String) :
    (ns.trim cuts f).resolveOnReceiver (owner.trim cuts f) (holder.map (Node.trim cuts f)) receiver method =
      ns.resolveOnReceiver owner holder receiver method := by
  have first : (owner.trim cuts f).params.positional.head? = owner.params.positional.head?.map (Param.trim cuts f) := by
    rw [Scope.trim, Params.positional_trim, List.head?_map]
  have found : ∀ name, (ns.trim cuts f).classes.find? name = (ns.classes.find? name).map (ClassEntry.trim cuts f) :=
    fun _ => Table.find_mapValues _ _ _
  have same : ∀ l k : Label, (f l != f k) = (l != k) := by
    intro l k
    rw [Bool.eq_iff_iff, bne_iff_ne, bne_iff_ne, distinct.ne_iff]
  cases holder with
  | none => rfl
  | some n =>
    cases n with
    | stmt s =>
      cases s with
      | klass l head body =>
        rw [Option.map_some, Node.trim, Stmt.trim, resolveOnReceiver_class, resolveOnReceiver_class]
        simp only [ClassHead.trim, found, first, Option.bind_map, Function.comp_def, ClassEntry.trim, same,
          Param.name_trim, resolveOnInstance_trim]
      | _ => rfl
    | _ => rfl

theorem resolveAttribute_trim (distinct : Function.Injective f) (ns : Namespace) {above : List Node}
    (quiet : ∀ n ∈ above, n.Quiet cuts) (receiver method : String) :
    (ns.trim cuts f).resolveAttribute [] (above.map (Node.trim cuts f)) receiver method =
      ns.resolveAttribute [] above receiver method := by
  have skipped : (above.map (Node.trim cuts f)).dropWhile (fun n => (Scope.ofNode? n).isNone) =
      (above.dropWhile fun n => (Scope.ofNode? n).isNone).map (Node.trim cuts f) := by
    rw [List.dropWhile_map]
    simp only [Function.comp_def, Scope.ofNode_trim, Option.isNone_map]
  rw [resolveAttribute, isClass_trim, method_trim, skipped, resolveAttribute]
  split
  · rfl
  · cases around : above.dropWhile fun n => (Scope.ofNode? n).isNone with
    | nil => rfl
    | cons node outer =>
      simp only [List.map_cons, Scope.ofNode_trim, List.head?_map]
      cases opened : Scope.ofNode? node with
      | none => rfl
      | some owner =>
        have member := Scope.mem_enclosing_of_innermost around opened
        have silent := quiet owner.node (Scope.node_of_mem_enclosing member).1
        simp only [Option.map_some, resolveOnReceiver_trim distinct, Scope.hint_trim, Scope.assigns_trim silent,
          resolveOnClasses_trim]
        cases owner.hint? receiver with
        | none => rfl
        | some hint => simp only [Option.map_some, TypeHint.names_trim]; rfl

-- Cuts that drop no binding are not noticed.
theorem resolveAttribute_of_quiet (ns : Namespace) {above : List Node} (quiet : ∀ n ∈ above, n.Quiet cuts)
    (receiver method : String) :
    ns.resolveAttribute cuts above receiver method = ns.resolveAttribute [] above receiver method := by
  rw [resolveAttribute, resolveAttribute]
  split
  · rfl
  · cases around : above.dropWhile fun n => (Scope.ofNode? n).isNone with
    | nil => rfl
    | cons node outer =>
      simp only
      cases opened : Scope.ofNode? node with
      | none => rfl
      | some owner =>
        have member := Scope.mem_enclosing_of_innermost around opened
        have silent := quiet owner.node (Scope.node_of_mem_enclosing member).1
        simp only [Scope.assigns_of_quiet member silent]

theorem resolve_trim (distinct : Function.Injective f) (ns : Namespace) {above : List Node}
    (quiet : ∀ n ∈ above, n.Quiet cuts) (func : Expr) :
    (ns.trim cuts f).resolve [] (above.map (Node.trim cuts f)) (func.trim cuts f) = ns.resolve [] above func := by
  cases func with
  | name l id ctx =>
    have binds : ((Scope.enclosing above).map (Scope.trim cuts f)).any (fun s => s.binds [] id) =
        (Scope.enclosing above).any fun s => s.binds [] id := by
      rw [List.any_map, Bool.eq_iff_iff, List.any_eq_true, List.any_eq_true]
      refine exists_congr fun s => and_congr_right fun member => ?_
      have silent := quiet s.node (Scope.node_of_mem_enclosing member).1
      simp only [Function.comp_apply, Scope.binds, Scope.assigns_trim silent]
      rw [Scope.trim, Params.names_trim]
    rw [Expr.trim, resolve, resolve, Scope.enclosing_trim, binds, resolveName_trim]
  | «attribute» l value attr ctx =>
    cases value with
    | name l id ctx => exact resolveAttribute_trim distinct ns quiet id attr
    | _ => rfl
  | _ => rfl

theorem resolve_of_quiet (ns : Namespace) {above : List Node} (quiet : ∀ n ∈ above, n.Quiet cuts) (func : Expr) :
    ns.resolve cuts above func = ns.resolve [] above func := by
  cases func with
  | name l id ctx =>
    have binds : (Scope.enclosing above).any (fun s => s.binds cuts id) =
        (Scope.enclosing above).any fun s => s.binds [] id := by
      rw [Bool.eq_iff_iff, List.any_eq_true, List.any_eq_true]
      refine exists_congr fun s => and_congr_right fun member => ?_
      have silent := quiet s.node (Scope.node_of_mem_enclosing member).1
      simp only [Scope.binds, Scope.assigns_of_quiet member silent]
    rw [resolve, binds, resolve]
  | «attribute» l value attr ctx =>
    cases value with
    | name l id ctx => exact resolveAttribute_of_quiet ns quiet id attr
    | _ => rfl
  | _ => rfl

end Namespace

end Whittle
