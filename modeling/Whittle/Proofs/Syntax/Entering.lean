import Mathlib.Data.List.Nodup
import Std.Data.HashMap.Lemmas
import Whittle.Proofs.Syntax.BreadthFirst
import Whittle.Syntax.Tree

namespace Whittle

namespace Mark

def all : List Mark :=
  [Context.load, .store, .del].map .context ++ [BoolOp.and, .or].map .boolOp ++
    [UnaryOp.invert, .not, .plus, .minus].map .unaryOp ++
    [BinaryOp.add, .sub, .mult, .matMult, .div, .mod, .pow, .lShift, .rShift, .bitOr, .bitXor, .bitAnd, .floorDiv].map
      .binaryOp ++
    [CompareOp.eq, .notEq, .lt, .ltE, .gt, .gtE, .is, .isNot, .isIn, .notIn].map .compareOp

theorem mem_all (m : Mark) : m ∈ all := by
  cases m with
  | context c => cases c <;> decide
  | boolOp op => cases op <;> decide
  | binaryOp op => cases op <;> decide
  | unaryOp op => cases op <;> decide
  | compareOp op => cases op <;> decide

theorem code_injective : Function.Injective code := by
  intro a b same
  have distinct : (all.map code).Nodup := by decide
  exact List.inj_on_of_nodup_map distinct a.mem_all b.mem_all same

theorem code_bounds (m : Mark) : 0 < m.code ∧ m.code < Node.firstLabelKey := by
  have each : ∀ m ∈ all, 0 < m.code ∧ m.code < Node.firstLabelKey := by decide
  exact each m m.mem_all

end Mark

namespace Node

-- The nodes that all their holders share.
def isShared : Node → Bool
  | .mark _ => true
  | _ => false

theorem ne_module_of_child {n c : Node} (child : c ∈ n.children) (m : Module) : c ≠ .module m := by
  rintro rfl
  cases n with
  | expr e => cases e <;> simp [children, Expr.children, ofContext] at child
  | stmt s =>
    cases s with
    | simple l form => cases form <;> simp [children, Stmt.children, Simple.children] at child
    | _ => simp [children, Stmt.children] at child
  | pattern p => cases p <;> simp [children, Pattern.children] at child
  | comprehension c => cases c; simp [children] at child
  | handler h => cases h; simp [children] at child
  | matchCase c => cases c; simp [children] at child
  | _ => simp [children, Params.children] at child

theorem eq_of_module_mem_walk {n : Node} {m : Module} (member : .module m ∈ n.walk) : n = .module m := by
  induction n using induct with
  | step n ih =>
    rw [walk_eq] at member
    rcases List.mem_cons.mp member with same | below
    · exact same.symm
    · obtain ⟨c, child, inside⟩ := List.mem_flatMap.mp below
      exact absurd (ih c child inside) (ne_module_of_child child m)

-- The three sorts of keys.
inductive KeyCases (n : Node) (k : Nat) : Prop
  | module {m : Module} : n = .module m → k = 0 → KeyCases n k
  | mark {s : Mark} : n = .mark s → k = s.code → KeyCases n k
  | label {l : Nat} : some l ∈ n.ownLabels → k = l + firstLabelKey → KeyCases n k

theorem keyCases {n : Node} {k : Nat} (key : n.key? = some k) : n.KeyCases k := by
  have labelled : n.ownLabels = [n.label] → n.key? = n.label.map (· + firstLabelKey) → n.KeyCases k := by
    intro own keyed
    rw [keyed] at key
    obtain ⟨l, given, same⟩ := Option.map_eq_some_iff.mp key
    exact .label (by rw [own, given]; exact List.mem_cons_self) same.symm
  cases n with
  | module m => exact .module rfl (Option.some.inj key).symm
  | mark s => exact .mark rfl (Option.some.inj key).symm
  | _ => exact labelled rfl rfl

end Node

-- Every node has a key, and no two have the same.
structure Keyed (ns : List Node) : Prop where
  given : ∀ n ∈ ns, ∃ k, n.key? = some k
  distinct : ∀ x ∈ ns, ∀ y ∈ ns, x.key? = y.key? → x = y

theorem Keyed.subset {ns inner : List Node} (keyed : Keyed ns) (inside : inner ⊆ ns) : Keyed inner :=
  ⟨fun n member => keyed.given n (inside member),
    fun x here y there same => keyed.distinct x (inside here) y (inside there) same⟩

theorem Module.key_of_mem_walk {m : Module} {n : Node} (member : n ∈ (Node.module m.number).walk) :
    ∃ k, n.key? = some k := by
  have labelled : n.ownLabels = [n.label] → n.key? = n.label.map (· + Node.firstLabelKey) → ∃ k, n.key? = some k := by
    intro own key
    obtain ⟨l, given⟩ := label_eq_some member (own ▸ List.mem_cons_self)
    exact ⟨l + Node.firstLabelKey, by rw [key, given]; rfl⟩
  cases n with
  | module m => exact ⟨0, rfl⟩
  | mark s => exact ⟨s.code, rfl⟩
  | _ => exact labelled rfl rfl

theorem Module.keyed_walk (m : Module) : Keyed (Node.module m.number).walk := by
  refine ⟨fun n => key_of_mem_walk, fun x here y there same => ?_⟩
  obtain ⟨k, keyX⟩ := key_of_mem_walk here
  have keyY : y.key? = some k := same.symm.trans keyX
  have apart : 0 < Node.firstLabelKey := by decide
  cases Node.keyCases keyX with
  | module shapeX zero =>
    subst shapeX
    cases Node.keyCases keyY with
    | module shapeY _ =>
      subst shapeY
      exact (Node.eq_of_module_mem_walk here).symm.trans (Node.eq_of_module_mem_walk there)
    | @mark s _ code =>
      have bounds := s.code_bounds
      omega
    | label _ sum => omega
  | @mark s shapeX code =>
    have bounds := s.code_bounds
    cases Node.keyCases keyY with
    | module _ zero => omega
    | mark shapeY again => rw [shapeX, shapeY, Mark.code_injective (code.symm.trans again)]
    | label _ sum => omega
  | label own sum =>
    cases Node.keyCases keyY with
    | module _ zero => omega
    | @mark s _ code =>
      have bounds := s.code_bounds
      omega
    | label again total =>
      have equal := Nat.add_right_cancel (sum.symm.trans total)
      exact eq_of_label here there own (equal ▸ again)

namespace Arena

-- The nodes that have been met stand in the arena, each at the index by which it is found.
structure Indexes (a : Arena) (met : List Node) : Prop where
  entered : ∀ n ∈ met, ∃ i : Nat, a.nodes[i]? = some n
  found : ∀ (i : Nat) (n : Node), a.nodes[i]? = some n → n ∈ met ∧ a.indexOf? n = some i
  owned : ∀ k i : Nat, a.indices[k]? = some i → ∃ n : Node, n.key? = some k ∧ a.nodes[i]? = some n

-- All that stood in the arena stands where it did.
def Extends (before after : Arena) : Prop :=
  ∀ (i : Nat) (n : Node), before.nodes[i]? = some n → after.nodes[i]? = some n

theorem indexes_empty : Indexes ⟨#[], {}, {}⟩ [] := by
  refine ⟨?_, ?_, ?_⟩
  · intro n member
    cases member
  · intro i n there
    simp at there
  · intro k i there
    simp at there

section

variable {a : Arena} {met : List Node} {n : Node}

theorem register_of_met {k i : Nat} (key : n.key? = some k) (known : a.indices[k]? = some i) : a.register n = a := by
  have contains : a.indices.contains k := by
    rw [Std.HashMap.contains_eq_isSome_getElem?, known]
    rfl
  simp only [register, key, contains, if_true]

theorem register_of_new {k : Nat} (key : n.key? = some k) (new : a.indices[k]? = none) :
    a.register n = { a with nodes := a.nodes.push n, indices := a.indices.insert k a.nodes.size } := by
  have contains : a.indices.contains k = false := by
    rw [Std.HashMap.contains_eq_isSome_getElem?, new]
    rfl
  simp [register, key, contains]

theorem extends_register (a : Arena) (n : Node) : a.Extends (a.register n) := by
  intro i x there
  have bound := (Array.getElem?_eq_some_iff.mp there).1
  unfold register
  split
  · exact there
  · split
    · exact there
    · rw [Array.getElem?_push_lt bound, ← there, Array.getElem?_eq_getElem bound]

theorem extends_registers (a : Arena) (ns : List Node) : a.Extends (ns.foldl register a) := by
  induction ns generalizing a with
  | nil => exact fun i n there => there
  | cons n rest ih => exact fun i x there => ih (a.register n) i x (extends_register a n i x there)

theorem Indexes.register_met {k i : Nat} (indexes : a.Indexes met) (keyed : Keyed (n :: met)) (key : n.key? = some k)
    (known : a.indices[k]? = some i) : a.Indexes (n :: met) := by
  -- The node with this key has been met, and it is this one.
  obtain ⟨x, same, there⟩ := indexes.owned k i known
  obtain ⟨inside, -⟩ := indexes.found i x there
  have equal : x = n :=
    keyed.distinct x (List.mem_cons_of_mem _ inside) n List.mem_cons_self (same.trans key.symm)
  subst equal
  refine ⟨?_, ?_, indexes.owned⟩
  · intro y member
    rcases List.mem_cons.mp member with rfl | earlier
    · exact ⟨i, there⟩
    · exact indexes.entered y earlier
  · intro j y here
    obtain ⟨earlier, index⟩ := indexes.found j y here
    exact ⟨List.mem_cons_of_mem _ earlier, index⟩

theorem Indexes.register_new {k : Nat} (indexes : a.Indexes met) (keyed : Keyed (n :: met)) (key : n.key? = some k)
    (new : a.indices[k]? = none) : (a.register n).Indexes (n :: met) := by
  have kept := extends_register a n
  rw [register_of_new key new] at kept ⊢
  refine ⟨?_, ?_, ?_⟩
  · intro y member
    rcases List.mem_cons.mp member with rfl | earlier
    · exact ⟨a.nodes.size, by simp⟩
    · obtain ⟨i, there⟩ := indexes.entered y earlier
      exact ⟨i, kept i y there⟩
  · intro i y here
    rw [Array.getElem?_push] at here
    split at here
    · rename_i last
      cases here
      exact ⟨List.mem_cons_self, by simp [indexOf?, key, last]⟩
    · obtain ⟨earlier, index⟩ := indexes.found i y here
      refine ⟨List.mem_cons_of_mem _ earlier, ?_⟩
      obtain ⟨l, keyY⟩ := keyed.given y (List.mem_cons_of_mem _ earlier)
      rw [indexOf?, keyY, Option.bind_some] at index ⊢
      have other : k ≠ l := by
        rintro rfl
        rw [new] at index
        cases index
      rw [Std.HashMap.getElem?_insert, if_neg (by simpa using other), index]
  · intro l i here
    rw [Std.HashMap.getElem?_insert] at here
    split at here
    · rename_i same
      cases here
      exact ⟨n, by rw [key, eq_of_beq same], by simp⟩
    · obtain ⟨x, keyX, there⟩ := indexes.owned l i here
      exact ⟨x, keyX, kept i x there⟩

theorem Indexes.register (indexes : a.Indexes met) (keyed : Keyed (n :: met)) : (a.register n).Indexes (n :: met) := by
  obtain ⟨k, key⟩ := keyed.given n List.mem_cons_self
  cases known : a.indices[k]? with
  | some i =>
    rw [register_of_met key known]
    exact indexes.register_met keyed key known
  | none => exact indexes.register_new keyed key known

theorem Indexes.registers (indexes : a.Indexes met) (ns : List Node) (keyed : Keyed (ns.reverse ++ met)) :
    (ns.foldl Arena.register a).Indexes (ns.reverse ++ met) := by
  induction ns generalizing a met with
  | nil => exact indexes
  | cons n rest ih =>
    rw [List.reverse_cons, List.append_assoc, List.singleton_append] at keyed ⊢
    exact ih (indexes.register (keyed.subset (List.subset_append_right _ _))) keyed

end

-- The arena after the nodes have been met in an order.
def entering (order : List Node) : Arena := order.foldl register ⟨#[], {}, {}⟩

theorem indexes_entering {order : List Node} (keyed : Keyed order) : (entering order).Indexes order := by
  have indexes := indexes_empty.registers order (keyed.subset (by simp))
  simp only [List.append_nil] at indexes
  refine ⟨fun n member => indexes.entered n (List.mem_reverse.mpr member), fun i n there => ?_, indexes.owned⟩
  obtain ⟨member, index⟩ := indexes.found i n there
  exact ⟨List.mem_reverse.mp member, index⟩

theorem parents_entering (order : List Node) : (entering order).parents = {} := by
  have kept : ∀ a : Arena, (order.foldl register a).parents = a.parents := by
    induction order with
    | nil => exact fun a => rfl
    | cons n rest ih =>
      intro a
      rw [List.foldl_cons, ih]
      unfold register
      split
      · rfl
      · split <;> rfl
  exact kept _

-- Who is met first has the smaller index.
theorem entering_before {front back : List Node} {p c : Node} (keyed : Keyed (front ++ c :: back)) (earlier : p ∈ front)
    (new : c ∉ front) :
    ∃ i j : Nat, (entering (front ++ c :: back)).nodes[i]? = some p ∧
      (entering (front ++ c :: back)).nodes[j]? = some c ∧ i < j := by
  have indexes := indexes_entering (keyed.subset (List.subset_append_left front (c :: back)))
  obtain ⟨i, there⟩ := indexes.entered p earlier
  obtain ⟨k, key⟩ := keyed.given c (by simp)
  have unknown : (entering front).indices[k]? = none := by
    cases known : (entering front).indices[k]? with
    | none => rfl
    | some j =>
      obtain ⟨x, same, place⟩ := indexes.owned k j known
      have inside := (indexes.found j x place).1
      have equal := keyed.distinct x (List.mem_append_left _ inside) c (by simp) (same.trans key.symm)
      exact absurd (equal ▸ inside) new
  have here : ((entering front).register c).nodes[(entering front).nodes.size]? = some c := by
    rw [register_of_new key unknown]
    simp
  have later : entering (front ++ c :: back) = back.foldl register ((entering front).register c) := by
    rw [entering, List.foldl_append]
    rfl
  rw [later]
  refine ⟨i, (entering front).nodes.size, ?_, ?_, (Array.getElem?_eq_some_iff.mp there).1⟩
  · exact extends_registers _ back i p (extends_register _ c i p there)
  · exact extends_registers _ back _ c here

-- Records the parent of one child.
def adoptChild (i : Nat) (a : Arena) (c : Node) : Arena :=
  match a.indexOf? c with
  | some j => { a with parents := a.parents.insert j i }
  | none => a

-- Parents are recorded, and nothing else.
structure SameNodes (a b : Arena) : Prop where
  nodes : a.nodes = b.nodes
  indices : a.indices = b.indices

theorem SameNodes.indexOf {a b : Arena} (same : a.SameNodes b) (n : Node) : a.indexOf? n = b.indexOf? n := by
  rw [indexOf?, indexOf?, same.indices]

section

variable {a : Arena} {i j : Nat} {n : Node}

theorem sameNodes_adoptChild (i : Nat) (a : Arena) (c : Node) : (adoptChild i a c).SameNodes a := by
  unfold adoptChild
  split <;> exact ⟨rfl, rfl⟩

theorem adoptChildren (i j : Nat) (a : Arena) (cs : List Node) :
    (cs.foldl (adoptChild i) a).SameNodes a ∧
      (cs.foldl (adoptChild i) a).parents[j]? =
        if ∃ c ∈ cs, a.indexOf? c = some j then some i else a.parents[j]? := by
  induction cs generalizing a with
  | nil => exact ⟨⟨rfl, rfl⟩, by simp⟩
  | cons c rest ih =>
    have here := sameNodes_adoptChild i a c
    obtain ⟨same, parents⟩ := ih (adoptChild i a c)
    refine ⟨⟨same.nodes.trans here.nodes, same.indices.trans here.indices⟩, ?_⟩
    rw [List.foldl_cons, parents]
    simp only [here.indexOf, List.exists_mem_cons_iff]
    by_cases later : ∃ d ∈ rest, a.indexOf? d = some j
    · simp [later]
    · simp only [later, if_false, or_false]
      unfold adoptChild
      split
      · rename_i k index
        rw [index, Std.HashMap.getElem?_insert]
        simp
      · rename_i none
        simp [none]

theorem adopt_of_index (index : a.indexOf? n = some i) : a.adopt n = n.children.foldl (adoptChild i) a := by
  simp only [adopt, index]
  rfl

theorem sameNodes_adopt (a : Arena) (n : Node) : (a.adopt n).SameNodes a := by
  cases index : a.indexOf? n with
  | none =>
    simp only [adopt, index]
    exact ⟨rfl, rfl⟩
  | some i =>
    rw [adopt_of_index index]
    exact (adoptChildren i 0 a n.children).1

theorem sameNodes_adopts (a : Arena) (ns : List Node) : (ns.foldl adopt a).SameNodes a := by
  induction ns generalizing a with
  | nil => exact ⟨rfl, rfl⟩
  | cons n rest ih =>
    have here := sameNodes_adopt a n
    have later := ih (a.adopt n)
    exact ⟨later.nodes.trans here.nodes, later.indices.trans here.indices⟩

theorem parents_of_unheld {ns : List Node} (unheld : ∀ n ∈ ns, ∀ c ∈ n.children, a.indexOf? c ≠ some j) :
    (ns.foldl adopt a).parents[j]? = a.parents[j]? := by
  induction ns generalizing a with
  | nil => rfl
  | cons n rest ih =>
    have same := sameNodes_adopt a n
    have later : ∀ x ∈ rest, ∀ c ∈ x.children, (a.adopt n).indexOf? c ≠ some j := by
      intro x member c child
      rw [same.indexOf]
      exact unheld x (List.mem_cons_of_mem _ member) c child
    rw [List.foldl_cons, ih later]
    cases index : a.indexOf? n with
    | none => simp only [adopt, index]
    | some i =>
      have none : ¬∃ c ∈ n.children, a.indexOf? c = some j := fun ⟨c, child, held⟩ =>
        unheld n List.mem_cons_self c child held
      rw [adopt_of_index index, (adoptChildren i j a n.children).2, if_neg none]

theorem parents_of_last (front : List Node) {back : List Node} {p c : Node} (child : c ∈ p.children)
    (held : a.indexOf? c = some j)
    (unheld : ∀ n ∈ back, ∀ c ∈ n.children, a.indexOf? c ≠ some j) (index : a.indexOf? p = some i) :
    ((front ++ p :: back).foldl adopt a).parents[j]? = some i := by
  have before := sameNodes_adopts a front
  have after := sameNodes_adopt (front.foldl adopt a) p
  have later : ∀ n ∈ back, ∀ c ∈ n.children, ((front.foldl adopt a).adopt p).indexOf? c ≠ some j := by
    intro n member c below
    rw [after.indexOf, before.indexOf]
    exact unheld n member c below
  rw [List.foldl_append, List.foldl_cons, parents_of_unheld later]
  rw [adopt_of_index ((before.indexOf p).trans index), (adoptChildren i j _ p.children).2, if_pos]
  exact ⟨c, child, (before.indexOf c).trans held⟩

end

end Arena

end Whittle
