import Whittle.Callable.Resolve
import Whittle.Proofs.Syntax.Survival

namespace Whittle

section References

variable (cuts : Cuts) (f : Label → Label)

@[simp] theorem Expr.lastName_trim (e : Expr) : (e.trim cuts f).lastName = e.lastName := by
  cases e <;> rfl

@[simp] theorem Expr.decoratorName_trim (e : Expr) : (e.trim cuts f).decoratorName = e.decoratorName := by
  cases e with
  | call l func args keywords => exact func.lastName_trim cuts f
  | _ => rfl

theorem Expr.callsName_trim (names : List String) (e : Expr) : (e.trim cuts f).callsName names = e.callsName names := by
  cases e with
  | call l func args keywords => cases func <;> rfl
  | _ => rfl

@[simp] theorem ClassEntry.baseName_trim (e : Expr) : baseName (e.trim cuts f) = baseName e := by
  cases e <;> rfl

theorem Params.positional_trim (p : Params) : (p.trim cuts f).positional = p.positional.map (Param.trim cuts f) := by
  cases p
  simp only [Params.trim, positional, posOnly, args, trimParamList_eq, List.map_append]

theorem Params.kwOnly_trim (p : Params) : (p.trim cuts f).kwOnly = p.kwOnly.map (Param.trim cuts f) := by
  cases p
  exact trimParamList_eq cuts f _

@[simp] theorem Param.name_trim (p : Param) : (p.trim cuts f).name = p.name := by
  cases p; rfl

theorem Params.names_trim (p : Params) : (p.trim cuts f).names = p.names := by
  simp only [names, positional_trim, kwOnly_trim, List.map_append, List.map_map, Function.comp_def, Param.name_trim]
  cases p with
  | mk l posOnly args vararg kwOnly kwarg =>
    cases vararg <;> cases kwarg <;> simp [trim, vararg, kwarg, trimParamOption]

namespace FunctionHead

@[simp] theorem name_trim (h : FunctionHead) : (h.trim cuts f).name = h.name := rfl

@[simp] theorem decoratorNames_trim (h : FunctionHead) : (h.trim cuts f).decoratorNames = h.decoratorNames := by
  simp [decoratorNames, trim, trimExprs_eq]

@[simp] theorem isNeutral_trim (h : FunctionHead) : (h.trim cuts f).isNeutral = h.isNeutral := by
  simp [isNeutral]

@[simp] theorem isOverload_trim (h : FunctionHead) : (h.trim cuts f).isOverload = h.isOverload := by
  simp [isOverload]

@[simp] theorem binding_trim (h : FunctionHead) : (h.trim cuts f).binding = h.binding := by
  simp [binding]

@[simp] theorem variant_trim (h : FunctionHead) (dropFirst : Bool) :
    (h.trim cuts f).variant dropFirst = h.variant dropFirst := by
  have variadic : (h.params.trim cuts f).vararg.isSome = h.params.vararg.isSome := by
    cases h.params with
    | mk l posOnly args vararg kwOnly kwarg => cases vararg <;> rfl
  simp [variant, trim, Params.positional_trim, Function.comp_def, variadic]

end FunctionHead

theorem effective_trim (defs : List FunctionHead) :
    effective (defs.map (FunctionHead.trim cuts f)) = (effective defs).map (FunctionHead.trim cuts f) := by
  simp only [effective, List.filter_map, Function.comp_def, FunctionHead.isOverload_trim]
  cases defs.filter FunctionHead.isOverload with
  | nil => cases last : defs.getLast? <;> simp [last]
  | cons overload rest => rfl

@[simp] theorem variantsOf_trim (defs : List FunctionHead) (dropFirst : Bool) :
    variantsOf (defs.map (FunctionHead.trim cuts f)) dropFirst = variantsOf defs dropFirst := by
  simp [variantsOf, effective_trim, Function.comp_def]

namespace TypeHint

theorem items_trim (e : Expr) : items (e.trim cuts f) = (items e).map (Expr.trim cuts f) := by
  cases e <;> simp [items, Expr.trim, trimExprs_eq]

theorem mapM_congr {m : Type → Type} [Monad m] [LawfulMonad m] {α β : Type} {g h : α → m β} {as : List α}
    (same : ∀ a ∈ as, g a = h a) : as.mapM g = as.mapM h := by
  induction as with
  | nil => rfl
  | cons a rest ih =>
    obtain ⟨here, later⟩ := List.forall_mem_cons.mp same
    rw [List.mapM_cons, List.mapM_cons, here, ih later]

theorem size_item_le {index x : Expr} (member : x ∈ items index) : x.size ≤ index.size := by
  cases index with
  | tuple l elts ctx =>
    have bound : x.size ≤ sizes elts := size_le_sizes member
    rw [Expr.size]
    omega
  | _ => exact Nat.le_of_eq (congrArg Expr.size (List.mem_singleton.mp member))

-- Only texts are read, and a trimming has no argument to drop in them.
theorem namesBy_trim (read : Text.Points → Except ParseError Expr) (e : Expr) :
    (e.trim cuts f).namesBy read = e.namesBy read := by
  cases e with
  | subscript l value index ctx =>
    have each : ∀ {es : List Expr}, es ⊆ items index →
        (es.map (Expr.trim cuts f)).mapM (·.namesBy read) = es.mapM (·.namesBy read) := by
      intro es inside
      rw [List.mapM_map]
      refine mapM_congr fun x member => ?_
      have bound := size_item_le (inside member)
      exact namesBy_trim read x
    simp only [Expr.trim, Expr.namesBy, Expr.decoratorName_trim, items_trim, ← List.map_take, each (List.Subset.refl _),
      each (List.take_subset 1 _)]
  | binOp l left op right =>
    cases op <;> simp only [Expr.trim, Expr.namesBy, namesBy_trim read left, namesBy_trim read right]
  | constant l value => cases value <;> simp only [Expr.trim, Expr.namesBy]
  | _ => simp only [Expr.trim, Expr.namesBy, Expr.decoratorName_trim]
termination_by e.size
decreasing_by all_goals simp only [Expr.size]; omega

theorem names_trim (e : Expr) : names (e.trim cuts f) = names e := by
  rw [names, names, namesBy_trim]

end TypeHint

end References

namespace Table

variable {α β : Type} (g : α → β)

def mapValues (t : Table α) : Table β := t.map fun entry => (entry.1, g entry.2)

theorem find_mapValues (t : Table α) (name : String) : (t.mapValues g).find? name = (t.find? name).map g := by
  induction t with
  | nil => rfl
  | cons entry rest ih =>
    obtain ⟨n, a⟩ := entry
    simp only [find?, mapValues, List.map_cons, List.lookup_cons] at ih ⊢
    cases name == n <;> simp [ih]

theorem has_mapValues (t : Table α) (name : String) : (t.mapValues g).has name = t.has name := by
  rw [has, find_mapValues, Option.isSome_map, has]

theorem mapValues_enter {k : Option α → α} {q : Option β → β} (same : ∀ o, g (k o) = q (o.map g)) (name : String)
    (t : Table α) : (t.enter name k).mapValues g = (t.mapValues g).enter name q := by
  induction t with
  | nil => simp [enter, mapValues, same]
  | cons entry rest ih =>
    simp only [enter, mapValues, List.map_cons] at ih ⊢
    split <;> simp [ih, same]

theorem mapValues_add (t : Table (List α)) (name : String) (a : α) :
    (t.add name a).mapValues (List.map g) = (t.mapValues (List.map g)).add name (g a) := by
  refine mapValues_enter (List.map g) (fun o => ?_) name t
  cases o <;> simp

end Table

section Definitions

variable (cuts : Cuts) (f : Label → Label)

namespace Node

theorem boundName_trim (n : Node) : (n.trim cuts f).boundName? = n.boundName? := by
  cases n with
  | expr e =>
    cases e with
    | name l id ctx => cases ctx <;> rfl
    | _ => rfl
  | _ => rfl

theorem definedName_trim (n : Node) : (n.trim cuts f).definedName? = n.definedName? := by
  cases n with
  | stmt s => cases s <;> rfl
  | _ => rfl

theorem globalNames_trim (n : Node) : (n.trim cuts f).globalNames = n.globalNames := by
  cases n with
  | stmt s =>
    cases s with
    | simple l form => cases form <;> rfl
    | _ => rfl
  | _ => rfl

-- No argument that is dropped binds a name.
def Quiet (n : Node) : Prop := ∀ x ∈ n.walk, ∀ d ∈ x.dropped cuts, ∀ y ∈ d.walk, y.boundName? = none

variable {cuts}

theorem Quiet.below {n c : Node} (quiet : n.Quiet cuts) (member : c ∈ n.walk) : c.Quiet cuts :=
  fun x inside => quiet x ((walk_sublist member).subset inside)

theorem Quiet.ancestors {cuts : Cuts} {n : Node} (quiet : n.Quiet cuts) {x : Located} (member : x ∈ n.located) :
    ∀ a ∈ x.ancestors, a.Quiet cuts := by
  intro a higher
  obtain outer | inner := mem_walk_of_ancestor member higher
  · cases outer
  · exact quiet.below inner

theorem quiet_nil (n : Node) : n.Quiet [] := by
  intro x _ d member
  rw [dropped_nil] at member
  cases member

theorem isBlockless_of_dropped {n d y : Node} (member : d ∈ n.dropped cuts) (below : y ∈ d.walk) : y.isBlockless := by
  unfold dropped at member
  split at member
  · obtain ⟨e, -, rfl⟩ := mem_ofExprs.mp member
    exact isBlockless_of_mem_walk rfl below
  · cases member

theorem definedName_of_blockless {n : Node} (plain : n.isBlockless) : n.definedName? = none ∧ n.globalNames = [] := by
  cases n with
  | stmt s => cases plain
  | _ => exact ⟨rfl, rfl⟩

end Node

variable {cuts} {f}

theorem Namespace.nestedName_trim (l : Node.Located) : nestedName? (l.trim cuts f) = nestedName? l := by
  obtain ⟨n, above⟩ := l
  cases above with
  | nil => exact n.definedName_trim cuts f
  | cons holder rest =>
    cases holder with
    | module m => rfl
    | _ => exact n.definedName_trim cuts f

theorem Namespace.reboundIn_trim {m : Module} (quiet : (Node.module m).Quiet cuts) :
    reboundIn (m.trim cuts f) = reboundIn m := by
  change ((Node.module m).trim cuts f).located.flatMap _ = _
  refine Node.gather_locate_trim cuts [] (fun x => ?_) (fun x inside d member y below above => ?_)
  · rw [nestedName_trim]
    simp only [Node.Located.trim, Node.boundName_trim, Node.globalNames_trim]
  · have silent := quiet x inside d member y below
    obtain ⟨undefined, undeclared⟩ := Node.definedName_of_blockless (Node.isBlockless_of_dropped member below)
    have unnested : nestedName? ⟨y, above⟩ = none := by
      unfold nestedName?
      split
      · rfl
      · exact undefined
    simp only [silent, undeclared, unnested, Option.toList_none, List.append_nil]

namespace ClassEntry

theorem bindings_trim {s : Stmt} (quiet : (Node.stmt s).Quiet cuts) : bindings (s.trim cuts f) = bindings s := by
  have gathered : (Node.stmt (s.trim cuts f)).walk.filterMap (fun n => n.boundName?.or n.definedName?) =
      (Node.stmt s).walk.filterMap fun n => n.boundName?.or n.definedName? := by
    rw [List.filterMap_eq_flatMap_toList, List.filterMap_eq_flatMap_toList]
    refine Node.gather_walk_trim (n := .stmt s) (fun x => ?_) (fun x inside d member y below => ?_)
    · rw [Node.boundName_trim, Node.definedName_trim]
    · have undefined := (Node.definedName_of_blockless (Node.isBlockless_of_dropped member below)).1
      rw [quiet x inside d member y below, undefined]
      rfl
  cases s with
  | func => rfl
  | _ => exact gathered

variable (cuts f) in
def trim (c : ClassEntry) : ClassEntry where
  name := c.name
  label := f c.label
  head := c.head.trim cuts f
  bases := c.bases
  methods := c.methods.mapValues (List.map (FunctionHead.trim cuts f))
  assigned := c.assigned

theorem addMethod_trim (methods : Table (List FunctionHead)) (s : Stmt) :
    addMethod (methods.mapValues (List.map (FunctionHead.trim cuts f))) (s.trim cuts f) =
      (addMethod methods s).mapValues (List.map (FunctionHead.trim cuts f)) := by
  cases s with
  | func l head body => exact (Table.mapValues_add _ methods head.name head).symm
  | _ => rfl

theorem of_trim {l : Label} {head : ClassHead} {body : Block}
    (quiet : ∀ s ∈ body, (Node.stmt s).Quiet cuts) :
    of (f l) (head.trim cuts f) (trimBlock cuts f body) = (of l head body).trim cuts f := by
  have methods : ∀ start : Table (List FunctionHead),
      (trimBlock cuts f body).foldl addMethod (start.mapValues (List.map (FunctionHead.trim cuts f))) =
        (body.foldl addMethod start).mapValues (List.map (FunctionHead.trim cuts f)) := by
    rw [trimBlock_eq]
    clear quiet
    induction body with
    | nil => exact fun _ => rfl
    | cons s rest ih =>
      intro start
      rw [List.map_cons, List.foldl_cons, List.foldl_cons, addMethod_trim, ih]
  have assigned : (trimBlock cuts f body).flatMap bindings = body.flatMap bindings := by
    rw [trimBlock_eq, List.flatMap_map]
    exact List.flatMap_congr fun s member => bindings_trim (quiet s member)
  have bases : (head.trim cuts f).bases.map baseName = head.bases.map baseName := by
    simp [ClassHead.trim, trimExprs_eq, Function.comp_def]
  simp only [of, trim, assigned, bases]
  exact congrArg (fun t => ClassEntry.mk _ _ _ _ t _) (methods [])

end ClassEntry

namespace Namespace

variable (cuts f) in
def trim (ns : Namespace) : Namespace where
  functions := ns.functions.mapValues (List.map (FunctionHead.trim cuts f))
  classes := ns.classes.mapValues (ClassEntry.trim cuts f)
  rebound := ns.rebound

theorem addStmt_trim {ns : Namespace} {s : Stmt} (quiet : (Node.stmt s).Quiet cuts) :
    (ns.trim cuts f).addStmt (s.trim cuts f) = (ns.addStmt s).trim cuts f := by
  cases s with
  | func l head body =>
    exact congrArg (fun t => Namespace.mk t _ _) (Table.mapValues_add _ ns.functions head.name head).symm
  | klass l head body =>
    have entry : ClassEntry.of (f l) (head.trim cuts f) (trimBlock cuts f body) =
        (ClassEntry.of l head body).trim cuts f := by
      refine ClassEntry.of_trim fun s member => quiet.below (Node.mem_walk_of_child ?_ (Node.self_mem_walk _))
      simp [Node.children, Stmt.children, member]
    have entered := Table.mapValues_enter (ClassEntry.trim cuts f) (k := fun _ => ClassEntry.of l head body)
      (q := fun _ => (ClassEntry.of l head body).trim cuts f) (fun _ => rfl) head.name ns.classes
    rw [← entry] at entered
    exact congrArg (fun t => Namespace.mk _ t _) entered.symm
  | _ => rfl

theorem ofModule_trim {m : Module} (quiet : (Node.module m).Quiet cuts) :
    ofModule (m.trim cuts f) = (ofModule m).trim cuts f := by
  have below : ∀ s ∈ m.body, (Node.stmt s).Quiet cuts := by
    intro s member
    refine quiet.below (Node.mem_walk_of_child ?_ (Node.self_mem_walk _))
    simpa [Node.children] using member
  have fold : ∀ (b : Block) (ns : Namespace), (∀ s ∈ b, (Node.stmt s).Quiet cuts) →
      (b.map (Stmt.trim cuts f)).foldl addStmt (ns.trim cuts f) = (b.foldl addStmt ns).trim cuts f := by
    intro b
    induction b with
    | nil => exact fun _ _ => rfl
    | cons s rest ih =>
      intro ns each
      rw [List.map_cons, List.foldl_cons, List.foldl_cons, addStmt_trim (each s List.mem_cons_self),
        ih _ fun t member => each t (List.mem_cons_of_mem _ member)]
  rw [ofModule, reboundIn_trim quiet, Module.trim, trimBlock_eq]
  exact fold m.body ⟨[], [], reboundIn m⟩ below

end Namespace

end Definitions

end Whittle
