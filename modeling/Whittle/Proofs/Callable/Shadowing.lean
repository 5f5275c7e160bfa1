import Whittle.Proofs.Callable.Receiving
import Whittle.Proofs.Syntax.Traversal

namespace Whittle

-- A class at module level has this name, and nothing but parameters and definitions at module level binds it.
structure Module.DefinesClass (m : Module) (x : String) : Prop where
  defined : ∃ l head body, .klass l head body ∈ m.body ∧ head.name = x
  unassigned : ∀ l ctx, .expr (.name l x ctx) ∈ (Node.module m).walk → ctx = .load
  unimported : ∀ a, .alias a ∈ (Node.module m).walk → firstPart (a.asName.getD a.name) ≠ x
  undeclared : ∀ l names, .stmt (.simple l (.global names)) ∈ (Node.module m).walk → x ∉ names
  unnested : ∀ n ∈ (Node.module m).located, n.node.definedName? = some x → ∃ m, n.ancestors.head? = some (.module m)

namespace Namespace

theorem rebound_ofModule (m : Module) : (ofModule m).rebound = reboundIn m := by
  have each : ∀ (b : Block) (ns : Namespace), (b.foldl addStmt ns).rebound = ns.rebound := by
    intro b
    induction b with
    | nil => exact fun ns => rfl
    | cons s rest ih =>
      intro ns
      rw [List.foldl_cons, ih]
      cases s <;> rfl
  exact each m.body _

theorem has_ofModule (m : Module) (x : String) :
    (ofModule m).classes.has x ↔ ∃ l head body, .klass l head body ∈ m.body ∧ head.name = x := by
  rw [Table.has, find_ofModule, List.findSome?_isSome_iff]
  simp only [List.mem_reverse]
  constructor
  · rintro ⟨s, member, found⟩
    cases s with
    | klass l head body =>
      refine ⟨l, head, body, member, ?_⟩
      by_contra apart
      rw [Stmt.classNamed?, if_neg apart] at found
      cases found
    | _ => cases found
  · rintro ⟨l, head, body, member, rfl⟩
    refine ⟨_, member, ?_⟩
    rw [Stmt.classNamed?, if_pos rfl]
    rfl

theorem bound_iff {n : Node} {x : String} :
    n.boundName? = some x ↔
      (∃ l ctx, n = .expr (.name l x ctx) ∧ ctx ≠ .load) ∨ ∃ a, n = .alias a ∧ firstPart (a.asName.getD a.name) = x := by
  cases n with
  | expr e =>
    cases e with
    | name l y ctx => cases ctx <;> simp [Node.boundName?]
    | _ => simp [Node.boundName?]
  | _ => simp [Node.boundName?]

theorem nested_iff {n : Node.Located} {x : String} :
    nestedName? n = some x ↔ n.node.definedName? = some x ∧ ¬ ∃ m, n.ancestors.head? = some (.module m) := by
  unfold nestedName?
  split
  · rename_i m rest around
    simp [around]
  · rename_i other
    refine ⟨fun found => ⟨found, ?_⟩, fun both => both.1⟩
    rintro ⟨m, first⟩
    obtain ⟨rest, around⟩ := List.head?_eq_some_iff.mp first
    exact other m rest around

theorem mem_reboundIn {m : Module} {x : String} :
    x ∈ reboundIn m ↔ ∃ n ∈ (Node.module m).located,
      n.node.boundName? = some x ∨ x ∈ n.node.globalNames ∨ nestedName? n = some x := by
  simp [reboundIn, Option.mem_toList]

theorem isClass_iff (m : Module) (x : String) : (ofModule m).isClass x ↔ m.DefinesClass x := by
  have placed : ∀ n, n ∈ (Node.module m).walk ↔ ∃ l ∈ (Node.module m).located, l.node = n := by
    intro n
    rw [← Node.map_node_located, List.mem_map]
  have opened : (ofModule m).isClass x ↔ (ofModule m).classes.has x ∧ x ∉ reboundIn m := by
    simp [isClass, rebound_ofModule]
  rw [opened, has_ofModule, mem_reboundIn]
  constructor
  · rintro ⟨defined, free⟩
    refine ⟨defined, fun l ctx member => ?_, fun a member same => ?_, fun l names member declared => ?_,
      fun n member found => ?_⟩
    · obtain ⟨n, inside, node⟩ := (placed _).mp member
      by_contra stored
      exact free ⟨n, inside, .inl (bound_iff.mpr (.inl ⟨l, ctx, node, stored⟩))⟩
    · obtain ⟨n, inside, node⟩ := (placed _).mp member
      exact free ⟨n, inside, .inl (bound_iff.mpr (.inr ⟨a, node, same⟩))⟩
    · obtain ⟨n, inside, node⟩ := (placed _).mp member
      refine free ⟨n, inside, .inr (.inl ?_)⟩
      rw [node]
      exact declared
    · by_contra inner
      exact free ⟨n, member, .inr (.inr (nested_iff.mpr ⟨found, inner⟩))⟩
  · intro only
    refine ⟨only.defined, ?_⟩
    rintro ⟨n, member, bound | declared | nested⟩
    · rcases bound_iff.mp bound with ⟨l, ctx, node, stored⟩ | ⟨a, node, same⟩
      · exact stored (only.unassigned l ctx ((placed _).mpr ⟨n, member, node⟩))
      · exact only.unimported a ((placed _).mpr ⟨n, member, node⟩) same
    · unfold Node.globalNames at declared
      split at declared
      · rename_i l names node
        exact only.undeclared l names ((placed _).mpr ⟨n, member, node⟩) declared
      · cases declared
    · obtain ⟨found, inner⟩ := nested_iff.mp nested
      exact inner (only.unnested n member found)

-- The parameter hides the name from a call of it, but not from a call of its attributes.
theorem attribute_of_hidden_class {m : Module} {cuts : Cuts} {above : List Node} {l k : Label} {ctx ctx' : Context}
    {x method : String} (hidden : Scope.shadows above x) :
    (ofModule m).resolve cuts above (.name k x ctx') = .ok none ∧
    ((ofModule m).kindOf (.attribute l (.name k x ctx') method ctx) = .static ↔ m.DefinesClass x) ∧
    (m.DefinesClass x →
      (ofModule m).resolve cuts above (.attribute l (.name k x ctx') method ctx) =
        .ok (((ofModule m).method? x method false).map .method) ∧
      ∀ d, (ofModule m).Defines x method d →
        (ofModule m).resolve cuts above (.attribute l (.name k x ctx') method ctx) =
          .ok (some (.method ⟨x, method, [d.filled .onClass]⟩))) ∧
    (¬ m.DefinesClass x → ∀ callee,
      (ofModule m).resolve cuts above (.attribute l (.name k x ctx') method ctx) = .ok (some callee) →
      ∀ r ∈ callee.methods, ∃ classes, r.owner ∈ classes ∧
        (ofModule m).Reaches cuts above (.attribute l (.name k x ctx') method ctx) .onInstance classes r.name) := by
  have kind : (ofModule m).kindOf (.attribute l (.name k x ctx') method ctx) = .static ↔ (ofModule m).isClass x := by
    rw [kindOf]
    split <;> simp_all
  refine ⟨?_, kind.trans (isClass_iff m x), fun only => ?_, fun other callee resolved r member => ?_⟩
  · have bound : (Scope.enclosing above).any (fun s => s.binds cuts x) = true := by
      obtain ⟨s, around, named⟩ := List.any_eq_true.mp hidden
      refine List.any_eq_true.mpr ⟨s, around, ?_⟩
      rw [Scope.binds, named, Bool.true_or]
    rw [resolve, bound]
    rfl
  · have single := (isClass_iff m x).mpr only
    have resolved : (ofModule m).resolve cuts above (.attribute l (.name k x ctx') method ctx) =
        .ok (((ofModule m).method? x method false).map .method) := by
      rw [resolve, resolveAttribute, if_pos single]
    refine ⟨resolved, fun d defines => ?_⟩
    have found : (ofModule m).method? x method false = some _ := method_of_defines defines .onClass
    rw [resolved, found]
    rfl
  · have foreign : (ofModule m).isClass x = false :=
      Bool.eq_false_iff.mpr fun single => other ((isClass_iff m x).mp single)
    obtain ⟨classes, reaches, listed, -⟩ := gives_through_instance rfl foreign resolved r member
    exact ⟨classes, listed, reaches⟩

def veilingFunction : Stmt := .method "f" [] ["X", "a", "b"] [.callOn "X" "m" ["a", "b"]]

def veiled : Module := ⟨[.classOf "X" [] [.method "m" [] ["self"] []], veilingFunction]⟩

-- The parameter `X` of `f` may be anything, but the call in `f` is taken for one of the class.
theorem attribute_of_hidden_class_veiled :
    Scope.shadows [.stmt veilingFunction] "X" ∧ veiled.DefinesClass "X" ∧
      (ofModule veiled).kindOf (.attribute none (.name none "X" .load) "m" .load) = .static ∧
      ∃ d, (ofModule veiled).Defines "X" "m" d ∧ d.explicit .onClass = ["self"] ∧
        (ofModule veiled).resolve [] [.stmt veilingFunction] (.attribute none (.name none "X" .load) "m" .load) =
          .ok (some (.method ⟨"X", "m", [d.filled .onClass]⟩)) := by
  have hidden : Scope.shadows [.stmt veilingFunction] "X" := by decide
  have defines : (ofModule veiled).Defines "X" "m" _ := ⟨_, rfl, rfl, by decide⟩
  have static : (ofModule veiled).kindOf (.attribute none (.name none "X" .load) "m" .load) = .static := by decide +kernel
  obtain ⟨-, kind, taken, -⟩ := attribute_of_hidden_class hidden
  have only : veiled.DefinesClass "X" := kind.mp static
  exact ⟨hidden, only, static, _, defines, by decide, (taken only).2 _ defines⟩

end Namespace

end Whittle
