import Whittle.Proofs.Syntax.Entering

namespace Whittle

namespace Arena

-- The indices above an index, the nearest first, up to one without a parent.
inductive Ascent (a : Arena) : Nat → List Nat → Prop
  | top {i : Nat} : a.parentOf? i = none → Ascent a i []
  | up {i j : Nat} {above : List Nat} : a.parentOf? i = some j → Ascent a j above → Ascent a i (j :: above)

theorem climb_of_ascent {a : Arena} {i : Nat} {above : List Nat} (ascent : a.Ascent i above)
    (stand : ∀ j ∈ above, j < a.nodes.size) (p : Node → Bool) {fuel : Nat} (enough : above.length ≤ fuel) :
    a.climb p fuel i = above.find? fun j => (a.nodes[j]?).any p := by
  induction ascent generalizing fuel with
  | top root =>
    cases fuel with
    | zero => rfl
    | succ fuel => simp [climb, root]
  | @up i j above parent _ ih =>
    cases fuel with
    | zero => simp at enough
    | succ fuel =>
      obtain ⟨here, higher⟩ := List.forall_mem_cons.mp stand
      rw [List.length_cons] at enough
      rw [climb, parent, List.find?_cons]
      simp only [Array.getElem?_eq_getElem here, Option.any_some]
      cases p a.nodes[j] with
      | true => rfl
      | false => exact ih higher (Nat.le_of_succ_le_succ enough)

-- What an arena says about a module whose nodes are met in an order.
structure Represents (a : Arena) (m : Module) (order : List Node) : Prop where
  -- The nodes are those of the module, each once.
  nodes : ∀ n, n ∈ a.nodes ↔ (Node.module m).Reaches n
  distinct : (a.nodes.toList.map Node.key?).Nodup
  root : a.nodes[0]? = some (.module m)
  index : ∀ (n : Node) (i : Nat), a.indexOf? n = some i ↔ ∃ x, a.nodes[i]? = some x ∧ x.key? = n.key?
  -- The module has no parent, any other node that is not shared has its only holder, and a shared one the last.
  top : a.parentOf? 0 = none
  holder : ∀ (j : Nat) (c : Node), a.nodes[j]? = some c → c.isShared = false → j ≠ 0 →
    ∃ (i : Nat) (p : Node), a.parentOf? j = some i ∧ a.nodes[i]? = some p ∧ c ∈ p.children ∧
      (∀ q ∈ a.nodes, c ∈ q.children → q = p) ∧ i < j
  lastHolder : ∀ (j : Nat) (c : Node), a.nodes[j]? = some c → c.isShared →
    ∃ (i : Nat) (front : List Node) (p : Node) (back : List Node), a.parentOf? j = some i ∧ a.nodes[i]? = some p ∧
      order = front ++ p :: back ∧ c ∈ p.children ∧ ∀ q ∈ back, c ∉ q.children
  -- The way up from every node has an end, and the nearest node above that satisfies a condition is found on it.
  nearest : ∀ i < a.nodes.size, ∃ above, a.Ascent i above ∧
    ∀ p : Node → Bool, a.findParent? p i = above.find? fun j => (a.nodes[j]?).any p

end Arena

-- A child that is not shared has no other place in the module.
theorem Module.eq_of_child {m : Module} {p q c : Node} (unshared : c.isShared = false)
    (here : p ∈ (Node.module m.number).walk) (there : q ∈ (Node.module m.number).walk) (ofP : c ∈ p.children)
    (ofQ : c ∈ q.children) : p = q := by
  have queued := (Node.module m.number).queued_breadthFirst
  have labels : ((Node.module m.number).breadthFirst.flatMap fun n => n.children.flatMap Node.ownLabels).Nodup := by
    have walk := queued.perm_walk.flatMap_right Node.ownLabels
    have parts := queued.perm_children.flatMap_right Node.ownLabels
    rw [List.flatMap_singleton] at walk
    rw [List.flatMap_append, List.flatMap_assoc] at parts
    exact List.Nodup.of_append_right (parts.nodup_iff.mp (walk.nodup_iff.mpr m.walk_labels_nodup))
  have own : c.label ∈ c.ownLabels := by
    cases c with
    | module m => exact absurd rfl (Node.ne_module_of_child ofP m)
    | mark s => cases unshared
    | _ => exact List.mem_singleton_self _
  by_contra different
  have apart := (List.nodup_flatMap.mp labels).2
  have symmetric : Std.Symm (Function.onFun List.Disjoint fun n : Node => n.children.flatMap Node.ownLabels) :=
    ⟨fun _ _ apart _ inY inX => apart inX inY⟩
  exact apart.forall (Node.mem_breadthFirst_iff.mpr here) (Node.mem_breadthFirst_iff.mpr there) different
    (List.mem_flatMap.mpr ⟨c, ofP, own⟩) (List.mem_flatMap.mpr ⟨c, ofQ, own⟩)

theorem exists_last {α : Type} {P : α → Prop} {as : List α} (some : ∃ a ∈ as, P a) :
    ∃ front a back, as = front ++ a :: back ∧ P a ∧ ∀ b ∈ back, ¬P b := by
  induction as with
  | nil => simp at some
  | cons first rest ih =>
    by_cases later : ∃ a ∈ rest, P a
    · obtain ⟨front, a, back, split, holds, none⟩ := ih later
      exact ⟨first :: front, a, back, by rw [split, List.cons_append], holds, none⟩
    · obtain ⟨a, member, holds⟩ := some
      rcases List.mem_cons.mp member with rfl | inside
      · exact ⟨[], a, rest, rfl, holds, fun b below held => later ⟨b, below, held⟩⟩
      · exact absurd ⟨a, inside, holds⟩ later

namespace Arena

section

variable {a : Arena} {met : List Node}

theorem Indexes.index_iff (indexes : a.Indexes met) (n : Node) (i : Nat) :
    a.indexOf? n = some i ↔ ∃ x, a.nodes[i]? = some x ∧ x.key? = n.key? := by
  constructor
  · intro index
    obtain ⟨k, key, known⟩ := Option.bind_eq_some_iff.mp index
    obtain ⟨x, same, there⟩ := indexes.owned k i known
    exact ⟨x, there, same.trans key.symm⟩
  · rintro ⟨x, there, same⟩
    rw [← (indexes.found i x there).2, indexOf?, indexOf?, same]

theorem Indexes.eq_of_index (indexes : a.Indexes met) {x y : Node} {i : Nat} (member : x ∈ met)
    (index : a.indexOf? x = some i) (there : a.nodes[i]? = some y) : x = y := by
  obtain ⟨j, here⟩ := indexes.entered x member
  have same := (indexes.found j x here).2.symm.trans index
  cases same
  exact Option.some.inj (here.symm.trans there)

theorem Indexes.nodup_keys (indexes : a.Indexes met) : (a.nodes.toList.map Node.key?).Nodup := by
  rw [List.nodup_iff_getElem?_ne_getElem?]
  intro i j less bound same
  rw [List.length_map, Array.length_toList] at bound
  rw [List.getElem?_map, List.getElem?_map, Array.getElem?_toList, Array.getElem?_toList,
    Array.getElem?_eq_getElem bound, Array.getElem?_eq_getElem (Nat.lt_trans less bound)] at same
  have key := Option.some.inj same
  have here := (indexes.found i _ (Array.getElem?_eq_getElem (Nat.lt_trans less bound))).2
  have there := (indexes.found j _ (Array.getElem?_eq_getElem bound)).2
  rw [indexOf?, key] at here
  rw [indexOf?, here] at there
  cases there
  exact Nat.lt_irrefl _ less

end

section

variable {m : Module}

theorem sameNodes_ofModule (m : Module) : (ofModule m).SameNodes (entering (Node.module m).breadthFirst) :=
  sameNodes_adopts _ _

theorem keyed_breadthFirst (m : Module) : Keyed (Node.module m.number).breadthFirst :=
  m.keyed_walk.subset fun _ => Node.mem_breadthFirst_iff.mp

theorem indexes_ofModule (m : Module) : (ofModule m.number).Indexes (Node.module m.number).breadthFirst := by
  have same := sameNodes_ofModule m.number
  obtain ⟨entered, found, owned⟩ := indexes_entering (keyed_breadthFirst m)
  refine ⟨?_, ?_, ?_⟩
  · rw [same.nodes]
    exact entered
  · intro i n
    rw [same.nodes, same.indexOf]
    exact found i n
  · rw [same.nodes, same.indices]
    exact owned

theorem root_ofModule (m : Module) : (ofModule m).nodes[0]? = some (.module m) := by
  rw [(sameNodes_ofModule m).nodes]
  have first : ∃ rest, (Node.module m).breadthFirst = .module m :: rest := by
    cases (Node.module m).queued_breadthFirst with
    | visit _ => exact ⟨_, rfl⟩
  obtain ⟨rest, order⟩ := first
  rw [order, entering, List.foldl_cons]
  apply extends_registers
  simp [register, Node.key?]

theorem eq_zero_of_module {j : Nat} {n : Module} (there : (ofModule m.number).nodes[j]? = some (.module n)) :
    j = 0 := by
  have indexes := indexes_ofModule m
  obtain ⟨member, index⟩ := indexes.found j _ there
  have same := Node.eq_of_module_mem_walk (Node.mem_breadthFirst_iff.mp member)
  have root := (indexes.found 0 _ (root_ofModule m.number)).2
  rw [← same, root] at index
  exact (Option.some.inj index).symm

theorem exists_parent {j : Nat} {c : Node} (there : (ofModule m.number).nodes[j]? = some c) (lower : j ≠ 0) :
    ∃ (i : Nat) (front : List Node) (p : Node) (back : List Node), (ofModule m.number).parentOf? j = some i ∧
      (ofModule m.number).nodes[i]? = some p ∧ (Node.module m.number).breadthFirst = front ++ p :: back ∧
      c ∈ p.children ∧ ∀ q ∈ back, c ∉ q.children := by
  have indexes := indexes_ofModule m
  have same := sameNodes_ofModule m.number
  have queued := (Node.module m.number).queued_breadthFirst
  obtain ⟨member, index⟩ := indexes.found j c there
  have held : ∃ p ∈ (Node.module m.number).breadthFirst, c ∈ p.children := by
    rcases List.mem_append.mp (queued.perm_children.mem_iff.mp member) with root | below
    · rw [List.mem_singleton.mp root] at there
      exact absurd (eq_zero_of_module there) lower
    · exact List.mem_flatMap.mp below
  obtain ⟨front, p, back, split, child, last⟩ := exists_last held
  have inside : p ∈ (Node.module m.number).breadthFirst := by simp [split]
  obtain ⟨i, place⟩ := indexes.entered p inside
  refine ⟨i, front, p, back, ?_, place, split, child, last⟩
  have unheld : ∀ n ∈ back, ∀ d ∈ n.children,
      (entering (Node.module m.number).breadthFirst).indexOf? d ≠ some j := by
    intro n later d below held
    have met : d ∈ (Node.module m.number).breadthFirst := by
      apply queued.perm_children.mem_iff.mpr
      apply List.mem_append_right
      exact List.mem_flatMap.mpr ⟨n, by simp [split, later], below⟩
    rw [← same.indexOf] at held
    exact last n later (indexes.eq_of_index met held there ▸ below)
  rw [same.indexOf] at index
  have parent := (indexes.found i p place).2
  rw [same.indexOf] at parent
  have recorded := parents_of_last front child index unheld parent
  rw [← split] at recorded
  exact recorded

theorem isShared_of_holder {p c : Node} (child : c ∈ p.children) : p.isShared = false := by
  cases p with
  | mark s => cases child
  | _ => rfl

theorem parent_of_unshared {j : Nat} {c : Node} (there : (ofModule m.number).nodes[j]? = some c)
    (unshared : c.isShared = false) (lower : j ≠ 0) :
    ∃ (i : Nat) (p : Node), (ofModule m.number).parentOf? j = some i ∧ (ofModule m.number).nodes[i]? = some p ∧
      c ∈ p.children ∧ (∀ q ∈ (ofModule m.number).nodes, c ∈ q.children → q = p) ∧ i < j := by
  have indexes := indexes_ofModule m
  obtain ⟨i, -, p, -, parent, place, -, child, -⟩ := exists_parent there lower
  have inWalk : ∀ {k : Nat} {q : Node}, (ofModule m.number).nodes[k]? = some q → q ∈ (Node.module m.number).walk :=
    fun stands => Node.mem_breadthFirst_iff.mp (indexes.found _ _ stands).1
  refine ⟨i, p, parent, place, child, ?_, ?_⟩
  · intro q member held
    obtain ⟨k, stands⟩ := Array.mem_iff_getElem?.mp member
    exact Module.eq_of_child unshared (inWalk stands) (inWalk place) held child
  · -- The holder stood in the queue before the node was put into it.
    obtain ⟨front, back, split, new⟩ := List.eq_append_cons_of_mem (indexes.found j c there).1
    rcases (Node.module m.number).queued_breadthFirst.holder_before split with root | ⟨q, earlier, held⟩
    · rw [List.mem_singleton.mp root] at there
      exact absurd (eq_zero_of_module there) lower
    · have met : q ∈ (Node.module m.number).breadthFirst := by
        rw [split]
        exact List.mem_append_left _ earlier
      obtain rfl : q = p :=
        Module.eq_of_child unshared (Node.mem_breadthFirst_iff.mp met) (inWalk place) held child
      have keyed := keyed_breadthFirst m
      rw [split] at keyed
      obtain ⟨x, y, atX, atY, less⟩ := entering_before keyed earlier new
      rw [← split, ← (sameNodes_ofModule m.number).nodes] at atX atY
      have first := (indexes.found x q atX).2.symm.trans (indexes.found i q place).2
      have second := (indexes.found y c atY).2.symm.trans (indexes.found j c there).2
      cases first
      cases second
      exact less

theorem parent_of_root (m : Module) : (ofModule m.number).parentOf? 0 = none := by
  have indexes := indexes_ofModule m
  have queued := (Node.module m.number).queued_breadthFirst
  have unheld : ∀ n ∈ (Node.module m.number).breadthFirst, ∀ c ∈ n.children,
      (entering (Node.module m.number).breadthFirst).indexOf? c ≠ some 0 := by
    intro n member c child index
    rw [← (sameNodes_ofModule m.number).indexOf] at index
    have met : c ∈ (Node.module m.number).breadthFirst := by
      apply queued.perm_children.mem_iff.mpr
      exact List.mem_append_right _ (List.mem_flatMap.mpr ⟨n, member, child⟩)
    exact Node.ne_module_of_child child _ (indexes.eq_of_index met index (root_ofModule m.number))
  have parents := parents_of_unheld unheld
  rw [parents_entering] at parents
  exact parents.trans Std.HashMap.getElem?_empty

-- Indices of nodes that are not shared fall on the way up.
theorem ascent_of_unshared {i : Nat} {n : Node} (there : (ofModule m.number).nodes[i]? = some n)
    (unshared : n.isShared = false) :
    ∃ above, (ofModule m.number).Ascent i above ∧ above.length ≤ i ∧ ∀ j ∈ above, j < i := by
  induction i using Nat.strongRecOn generalizing n with
  | ind i ih =>
    by_cases root : i = 0
    · subst root
      exact ⟨[], .top (parent_of_root m), Nat.le_refl _, by simp⟩
    · obtain ⟨j, p, parent, place, child, -, less⟩ := parent_of_unshared there unshared root
      obtain ⟨above, ascent, short, lower⟩ := ih j less place (isShared_of_holder child)
      refine ⟨j :: above, .up parent ascent, ?_, ?_⟩
      · rw [List.length_cons]
        omega
      · exact List.forall_mem_cons.mpr ⟨less, fun k member => Nat.lt_trans (lower k member) less⟩

theorem exists_ascent {i : Nat} (bound : i < (ofModule m.number).nodes.size) :
    ∃ above, (ofModule m.number).Ascent i above ∧ above.length ≤ (ofModule m.number).nodes.size ∧
      ∀ j ∈ above, j < (ofModule m.number).nodes.size := by
  have there := Array.getElem?_eq_getElem bound
  cases shared : ((ofModule m.number).nodes[i]).isShared with
  | false =>
    obtain ⟨above, ascent, short, lower⟩ := ascent_of_unshared there shared
    exact ⟨above, ascent, by omega, fun j member => Nat.lt_trans (lower j member) bound⟩
  | true =>
    have lower : i ≠ 0 := by
      rintro rfl
      rw [root_ofModule m.number] at there
      rw [← Option.some.inj there] at shared
      cases shared
    obtain ⟨j, -, p, -, parent, place, -, child, -⟩ := exists_parent there lower
    have inside := (Array.getElem?_eq_some_iff.mp place).1
    obtain ⟨above, ascent, short, lower⟩ := ascent_of_unshared place (isShared_of_holder child)
    refine ⟨j :: above, .up parent ascent, ?_, ?_⟩
    · rw [List.length_cons]
      omega
    · exact List.forall_mem_cons.mpr ⟨inside, fun k member => Nat.lt_trans (lower k member) inside⟩

end

-- A node that is not shared has one holder only, which was met before it, so the way up leads to ever smaller
-- indices. A shared node holds nothing, so it can only be the start of such a way.
theorem represents_module (m : Module) :
    ∃ order, Node.Queued [.module (Tree.ofModule m).module] order ∧
      (Tree.ofModule m).arena.Represents (Tree.ofModule m).module order := by
  have indexes := indexes_ofModule m
  refine ⟨_, Node.queued_breadthFirst _, ?_⟩
  constructor
  case nodes =>
    intro n
    rw [← Node.mem_walk_iff_reaches, ← Node.mem_breadthFirst_iff, Array.mem_iff_getElem?]
    exact ⟨fun ⟨i, there⟩ => (indexes.found i n there).1, indexes.entered n⟩
  case distinct => exact indexes.nodup_keys
  case root => exact root_ofModule m.number
  case index => exact indexes.index_iff
  case top => exact parent_of_root m
  case holder =>
    intro j c there unshared lower
    exact parent_of_unshared there unshared lower
  case lastHolder =>
    intro j c there shared
    apply exists_parent there
    rintro rfl
    rw [← Option.some.inj ((root_ofModule m.number).symm.trans there)] at shared
    cases shared
  case nearest =>
    intro i bound
    obtain ⟨above, ascent, short, stand⟩ := exists_ascent bound
    exact ⟨above, ascent, fun p => climb_of_ascent ascent stand p short⟩

end Arena

end Whittle
