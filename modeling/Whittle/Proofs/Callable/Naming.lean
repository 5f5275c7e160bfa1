import Whittle.Proofs.Callable.Shadowing
import Whittle.Proofs.Syntax.Grammar
import Whittle.Proofs.Syntax.Unlabelled

namespace Whittle

-- What keeps a name from its functions at module level: a target, an import, a `global` or a definition further inside.
inductive Module.Rebinds (m : Module) (x : String) : Prop where
  | target (found : (Node.module m).HasTarget x)
  | imported {a : Alias} (member : .alias a ∈ (Node.module m).walk) (named : firstPart (a.asName.getD a.name) = x)
  | declared {l : Label} {names : List String} (member : .stmt (.simple l (.global names)) ∈ (Node.module m).walk)
      (listed : x ∈ names)
  | nested {n : Node.Located} (member : n ∈ (Node.module m).located) (defined : n.node.definedName? = some x)
      (inner : ¬ ∃ outermost, n.ancestors.head? = some (.module outermost))

-- The name that a clause or a pattern binds by itself.
def Node.ownName? : Node → Option String
  | .handler (.mk _ _ name _) => name
  | .pattern (.star _ name) => name
  | .pattern (.capture _ _ name) => name
  | .pattern (.mapping _ _ _ rest) => rest
  | _ => none

def Stmt.functionNamed? (x : String) : Stmt → Option FunctionHead
  | .func _ head _ => if head.name = x then some head else none
  | _ => none

def Module.functionsNamed (m : Module) (x : String) : List FunctionHead := m.body.filterMap (Stmt.functionNamed? x)

theorem Node.mem_walk_iff_placed {n x : Node} : x ∈ n.walk ↔ ∃ l ∈ n.located, l.node = x := by
  rw [← map_node_located, List.mem_map]

namespace Namespace

open Node (mem_walk_iff_placed)

theorem mem_reboundIn_iff {m : Module} (pristine : (Node.module m).Pristine) {x : String} :
    x ∈ reboundIn m ↔ m.Rebinds x := by
  rw [mem_reboundIn]
  constructor
  · rintro ⟨n, member, bound | declared | nested⟩
    · rcases bound_iff.mp bound with ⟨l, ctx, node, stored⟩ | ⟨a, node, same⟩
      · exact .target (pristine.hasTarget_iff.mpr ⟨l, ctx, mem_walk_iff_placed.mpr ⟨n, member, node⟩, stored⟩)
      · exact .imported (mem_walk_iff_placed.mpr ⟨n, member, node⟩) same
    · unfold Node.globalNames at declared
      split at declared
      · rename_i l names node
        exact .declared (mem_walk_iff_placed.mpr ⟨n, member, node⟩) declared
      · cases declared
    · obtain ⟨defined, inner⟩ := nested_iff.mp nested
      exact .nested member defined inner
  · rintro (found | ⟨member, named⟩ | ⟨member, listed⟩ | ⟨member, defined, inner⟩)
    · obtain ⟨l, ctx, member, stored⟩ := pristine.hasTarget_iff.mp found
      obtain ⟨n, inside, node⟩ := mem_walk_iff_placed.mp member
      exact ⟨n, inside, .inl (bound_iff.mpr (.inl ⟨l, ctx, node, stored⟩))⟩
    · obtain ⟨n, inside, node⟩ := mem_walk_iff_placed.mp member
      exact ⟨n, inside, .inl (bound_iff.mpr (.inr ⟨_, node, named⟩))⟩
    · obtain ⟨n, inside, node⟩ := mem_walk_iff_placed.mp member
      refine ⟨n, inside, .inr (.inl ?_)⟩
      rw [node]
      exact listed
    · exact ⟨_, member, .inr (.inr (nested_iff.mpr ⟨defined, inner⟩))⟩

theorem functions_addStmt (ns : Namespace) (s : Stmt) (x : String) :
    (ns.addStmt s).functions.find? x =
      match s.functionNamed? x with
      | some head => some ((ns.functions.find? x).getD [] ++ [head])
      | none => ns.functions.find? x := by
  cases s with
  | func l head body =>
    simp only [addStmt, Table.add, Table.find_enter, Stmt.functionNamed?, @eq_comm _ x]
    by_cases same : head.name = x
    · simp [same]
    · simp [same]
  | _ => rfl

theorem functions_ofModule (m : Module) (x : String) :
    (ofModule m).functions.find? x = if m.functionsNamed x = [] then none else some (m.functionsNamed x) := by
  have each : ∀ (b : Block) (ns : Namespace), (b.foldl addStmt ns).functions.find? x =
      if b.filterMap (Stmt.functionNamed? x) = [] then ns.functions.find? x
      else some ((ns.functions.find? x).getD [] ++ b.filterMap (Stmt.functionNamed? x)) := by
    intro b
    induction b with
    | nil => exact fun ns => rfl
    | cons s rest ih =>
      intro ns
      rw [List.foldl_cons, ih, functions_addStmt, List.filterMap_cons]
      cases s.functionNamed? x with
      | none => rfl
      | some head =>
        by_cases last : rest.filterMap (Stmt.functionNamed? x) = []
        · simp [last]
        · simp [last]
  exact each m.body _

theorem resolveName_of_rebinds {m : Module} (pristine : (Node.module m).Pristine) {x : String} (again : m.Rebinds x) :
    (ofModule m).resolveName x = none := by
  rw [resolveName, rebound_ofModule, if_pos (List.contains_iff_mem.mpr ((mem_reboundIn_iff pristine).mpr again))]

theorem resolveName_iff {m : Module} (pristine : (Node.module m).Pristine) {x : String}
    (defined : m.functionsNamed x ≠ []) (callee : Callee) :
    (ofModule m).resolveName x = some callee ↔
      ¬ m.Rebinds x ∧ (∀ d ∈ m.functionsNamed x, d.isNeutral) ∧
        callee = .function x (variantsOf (m.functionsNamed x) false) := by
  by_cases again : m.Rebinds x
  · rw [resolveName_of_rebinds pristine again]
    exact ⟨nofun, fun found => absurd again found.1⟩
  · have free : ¬ (ofModule m).rebound.contains x := by
      rw [rebound_ofModule, List.contains_iff_mem, mem_reboundIn_iff pristine]
      exact again
    have found : (ofModule m).functions.find? x = some (m.functionsNamed x) := by
      rw [functions_ofModule, if_neg defined]
    rw [resolveName, if_neg free, found]
    dsimp only
    by_cases neutral : (m.functionsNamed x).all FunctionHead.isNeutral
    · have each := List.all_eq_true.mp neutral
      rw [if_pos neutral, Option.some_inj, eq_comm]
      exact ⟨fun same => ⟨again, each, same⟩, fun all => all.2.2⟩
    · rw [if_neg neutral]
      exact ⟨nofun, fun all => absurd (List.all_eq_true.mpr all.2.1) neutral⟩

-- Labels do not matter for what a name refers to.
theorem resolveName_number (m : Module) (x : String) : (ofModule m.number).resolveName x = (ofModule m).resolveName x := by
  have bare : ∀ m : Module, (ofModule m.unlabelled).resolveName x = (ofModule m).resolveName x := by
    intro m
    rw [Module.unlabelled, ofModule_trim (Node.quiet_nil _), resolveName_trim]
  rw [← bare m.number, m.unlabelled_number, bare]

-- A name that a scope assigns is assigned in the module, whatever is cut from the scope.
theorem mem_reboundIn_of_assigns {m : Module} {n : Node.Located} (member : n ∈ (Node.module m).located) {s : Scope}
    (around : s ∈ Scope.enclosing n.ancestors) {cuts : Cuts} {x : String} (assigned : s.assigns cuts x) :
    x ∈ reboundIn m := by
  obtain ⟨higher, trimmed⟩ := Scope.node_of_mem_enclosing around
  obtain ⟨y, inside, stored⟩ := List.any_eq_true.mp assigned
  have bound : y.boundName? = some x := by
    split at stored
    · exact congrArg some (eq_of_beq stored)
    · cases stored
  obtain ⟨placed, below, rfl⟩ := mem_walk_iff_placed.mp (trimmed cuts ▸ inside)
  obtain ⟨origin, here, rfl⟩ := Node.mem_locate_trim cuts id [] below
  have scope : s.node ∈ (Node.module m).walk := (Node.mem_walk_of_ancestor member higher).resolve_left nofun
  have outer : origin.node ∈ (Node.module m).walk :=
    (Node.walk_sublist scope).subset (mem_walk_iff_placed.mpr ⟨origin, here, rfl⟩)
  obtain ⟨whole, there, same⟩ := mem_walk_iff_placed.mp outer
  refine mem_reboundIn.mpr ⟨whole, there, .inl ?_⟩
  rw [same, ← bound]
  exact (origin.node.boundName_trim cuts id).symm

theorem resolve_name {m : Module} {n : Node.Located} (member : n ∈ (Node.module m).located) (cuts : Cuts) (l : Label)
    (x : String) (ctx : Context) :
    (ofModule m).resolve cuts n.ancestors (.name l x ctx) =
      .ok (if Scope.shadows n.ancestors x then none else (ofModule m).resolveName x) := by
  have rebound : x ∈ reboundIn m → (ofModule m).resolveName x = none := by
    intro listed
    rw [resolveName, rebound_ofModule, if_pos (List.contains_iff_mem.mpr listed)]
  have binds : (Scope.enclosing n.ancestors).any (fun s => s.binds cuts x) →
      Scope.shadows n.ancestors x ∨ x ∈ reboundIn m := by
    intro bound
    obtain ⟨s, around, either⟩ := List.any_eq_true.mp bound
    obtain named | assigned := Bool.or_eq_true_iff.mp either
    · exact .inl (List.any_eq_true.mpr ⟨s, around, named⟩)
    · exact .inr (mem_reboundIn_of_assigns member around assigned)
  rw [resolve]
  by_cases hidden : Scope.shadows n.ancestors x
  · obtain ⟨s, around, named⟩ := List.any_eq_true.mp hidden
    have bound : (Scope.enclosing n.ancestors).any (fun s => s.binds cuts x) = true :=
      List.any_eq_true.mpr ⟨s, around, by rw [Scope.binds, named, Bool.true_or]⟩
    rw [if_pos bound, if_pos hidden]
  · rw [if_neg hidden]
    split
    · rename_i bound
      rw [rebound ((binds bound).resolve_left hidden)]
    · rfl

-- The first part covers every binding of the name that is noticed. The second says exactly which calls reach the
-- functions: no other binding of the name matters.
theorem name_refers_to_functions {source : List Char} {m : Module} (parsed : Module.parse source = .ok m)
    {n : Node.Located} (member : n ∈ (Node.module m.number).located) (cuts : Cuts) (l : Label) (x : String)
    (ctx : Context) :
    (Scope.shadows n.ancestors x ∨ m.Rebinds x →
      (ofModule m.number).resolve cuts n.ancestors (.name l x ctx) = .ok none) ∧
    (m.functionsNamed x ≠ [] → ∀ callee,
      ((ofModule m.number).resolve cuts n.ancestors (.name l x ctx) = .ok (some callee) ↔
        ¬ Scope.shadows n.ancestors x ∧ ¬ m.Rebinds x ∧ (∀ d ∈ m.functionsNamed x, d.isNeutral) ∧
          callee = .function x (variantsOf (m.functionsNamed x) false))) := by
  have pristine := Module.pristine_of_parse parsed
  rw [resolve_name member, resolveName_number]
  constructor
  · rintro (hidden | again)
    · rw [if_pos hidden]
    · rw [resolveName_of_rebinds pristine again, ite_self]
  · intro defined callee
    by_cases hidden : Scope.shadows n.ancestors x
    · rw [if_pos hidden]
      exact ⟨nofun, fun all => absurd hidden all.1⟩
    · rw [if_neg hidden, Except.ok.injEq, resolveName_iff pristine defined]
      exact (and_iff_right hidden).symm

def disguisedSource : List Char :=
  ("def f(): pass\nclass f: pass\ntry: pass\nexcept E as f: pass\n" ++
    "match v:\n case [*f] | \x7b**f\x7d | f: f(v)\n").toList

def disguised : Module :=
  ⟨[.method "f" [] [] [], .classOf "f" [] [.filler],
    .tryBlock none false [.filler] [.mk none (some (.name none "E" .load)) (some "f") [.filler]] [] [],
    .matchOn none (.name none "v" .load)
      [.mk none
        (.either none
          [.sequence none [.star none (some "f")], .mapping none [] [] (some "f"), .capture none none (some "f")])
        none
        [.simple none (.expr (.call none (.name none "f" .load) [.name none "v" .load] []))]]]⟩

theorem parse_disguised : Module.parse disguisedSource = .ok disguised := by
  change Module.parse (String.ofList _ ++ String.ofList _).toList = _
  rw [← String.ofList_append]
  exact Module.parse_of_tokens
    [.word .wDef, .name "f", .symbol .lparen, .symbol .rparen, .symbol .colon, .word .wPass, .newline,
      .word .wClass, .name "f", .symbol .colon, .word .wPass, .newline,
      .word .wTry, .symbol .colon, .word .wPass, .newline,
      .word .wExcept, .name "E", .word .wAs, .name "f", .symbol .colon, .word .wPass, .newline,
      .name "match", .name "v", .symbol .colon, .newline, .indent,
      .name "case", .symbol .lbracket, .symbol .star, .name "f", .symbol .rbracket, .symbol .bar,
      .symbol .lbrace, .symbol .doubleStar, .name "f", .symbol .rbrace, .symbol .bar, .name "f", .symbol .colon,
      .name "f", .symbol .lparen, .name "v", .symbol .rparen, .newline, .dedent, .done]
    rfl (by decide +kernel) rfl

-- The callee may be an exception, what is left of a sequence or a mapping, or the class, but it is taken for the function.
theorem name_refers_to_functions_disguised :
    (Node.module disguised).walk.filterMap Node.ownName? = ["f", "f", "f", "f"] ∧
    (∃ l head body, .klass l head body ∈ disguised.body ∧ head.name = "f") ∧
    ∃ n ∈ (Node.module disguised.number).located,
      n.node = .expr (.call (some 19) (.name (some 20) "f" .load) [.name (some 21) "v" .load] []) ∧
      (ofModule disguised.number).resolve [] n.ancestors (.name (some 20) "f" .load) =
        .ok (some (.function "f" [⟨[], false⟩])) := by
  have fresh : ¬ disguised.Rebinds "f" := by
    rw [← mem_reboundIn_iff (Module.pristine_of_parse parse_disguised)]
    exact List.not_mem_nil
  refine ⟨rfl, ⟨_, _, _, List.mem_of_getElem? (i := 1) rfl, rfl⟩, _, List.mem_of_getElem? (i := 22) rfl, rfl, ?_⟩
  have refers := (name_refers_to_functions parse_disguised (List.mem_of_getElem? (i := 22) rfl) [] (some 20) "f" .load).2
  exact (refers nofun _).mpr ⟨by decide, fresh, by decide, rfl⟩

end Namespace

end Whittle
