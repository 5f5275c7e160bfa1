import Mathlib.Data.List.Basic
import Whittle.Syntax.Node

namespace Whittle

-- The sizes of lists all count the head and go on with the tail.
theorem size_le_total {α : Type} {f : α → Nat} {total : List α → Nat}
    (step : ∀ a rest, total (a :: rest) = f a + total rest) {a : α} {as : List α} (member : a ∈ as) :
    f a ≤ total as := by
  induction as with
  | nil => cases member
  | cons head rest ih =>
    rw [step]
    rcases List.mem_cons.mp member with rfl | tail
    · omega
    · have bound := ih tail
      omega

theorem size_le_sizes {e : Expr} {es : List Expr} (member : e ∈ es) : e.size ≤ sizes es :=
  size_le_total (fun _ _ => rfl) member

theorem size_le_paramSizes {p : Param} {ps : List Param} (member : p ∈ ps) : p.size ≤ paramSizes ps :=
  size_le_total (fun _ _ => rfl) member

theorem size_le_patternSizes {p : Pattern} {ps : List Pattern} (member : p ∈ ps) : p.size ≤ patternSizes ps :=
  size_le_total (fun _ _ => rfl) member

theorem size_le_withItemSizes {w : WithItem} {ws : List WithItem} (member : w ∈ ws) : w.size ≤ withItemSizes ws :=
  size_le_total (fun _ _ => rfl) member

theorem size_le_blockSize {s : Stmt} {b : Block} (member : s ∈ b) : s.size ≤ blockSize b :=
  size_le_total (fun _ _ => rfl) member

theorem size_le_clauseSizes {c : Comprehension} {cs : List Comprehension} (member : c ∈ cs) :
    (Node.comprehension c).size ≤ clauseSizes cs :=
  size_le_total (f := fun c => clauseSizes [c]) (fun c _ => by cases c; simp only [clauseSizes]; omega) member

theorem size_le_keywordSizes {k : Keyword} {ks : List Keyword} (member : k ∈ ks) :
    (Node.keyword k).size ≤ keywordSizes ks :=
  size_le_total (f := fun k => 1 + k.value.size) (fun k _ => by cases k; simp only [keywordSizes, Keyword.value]) member

theorem size_le_handlerSizes {h : Handler} {hs : List Handler} (member : h ∈ hs) :
    (Node.handler h).size ≤ handlerSizes hs :=
  size_le_total (f := fun h => handlerSizes [h]) (fun h _ => by cases h; simp only [handlerSizes]; omega) member

theorem size_le_caseSizes {c : MatchCase} {cs : List MatchCase} (member : c ∈ cs) :
    (Node.matchCase c).size ≤ caseSizes cs :=
  size_le_total (f := fun c => caseSizes [c]) (fun c _ => by cases c; simp only [caseSizes]; omega) member

theorem itemSize_le_itemSizes {item : DictItem} {items : List DictItem} (member : item ∈ items) :
    itemSizes [item] ≤ itemSizes items :=
  size_le_total (f := fun i => itemSizes [i]) (fun i _ => by cases i <;> simp only [itemSizes] <;> omega) member

theorem key_le_itemSizes {item : DictItem} {items : List DictItem} {e : Expr} (member : item ∈ items)
    (given : item.key? = some e) : e.size ≤ itemSizes items := by
  have bound := itemSize_le_itemSizes member
  cases item with
  | pair key value =>
    cases given
    simp only [itemSizes] at bound
    omega
  | spread value => cases given

theorem value_le_itemSizes {item : DictItem} {items : List DictItem} (member : item ∈ items) :
    item.value.size ≤ itemSizes items := by
  have bound := itemSize_le_itemSizes member
  cases item <;> simp only [itemSizes, DictItem.value] at bound ⊢ <;> omega

theorem hint_lt_size {p : Param} {e : Expr} (given : p.hint = some e) : e.size < p.size := by
  obtain ⟨_, _, hint, _⟩ := p
  simp only [Param.hint] at given
  subst given
  simp only [Param.size, optionSize]
  omega

theorem default_lt_size {p : Param} {e : Expr} (given : p.default = some e) : e.size < p.size := by
  obtain ⟨_, _, _, default⟩ := p
  simp only [Param.default] at given
  subst given
  simp only [Param.size, optionSize]
  omega

namespace Node

@[simp] theorem mem_ofExprs {n : Node} {es : List Expr} : n ∈ ofExprs es ↔ ∃ e ∈ es, .expr e = n := List.mem_map

@[simp] theorem mem_ofStmts {n : Node} {ss : List Stmt} : n ∈ ofStmts ss ↔ ∃ s ∈ ss, .stmt s = n := List.mem_map

@[simp] theorem mem_ofOption {n : Node} {o : Option Expr} : n ∈ ofOption o ↔ ∃ e, o = some e ∧ .expr e = n := by
  cases o <;> simp [ofOption, eq_comm]

end Node

open Node

theorem Expr.size_yield (l : Label) (value : Option Expr) : (Expr.yield l value).size = 1 + optionSize value := by
  cases value <;> rfl

theorem Expr.size_formatted (l : Label) (value : Expr) (conversion : Option Conversion) (spec : Option Expr) :
    (Expr.formatted l value conversion spec).size = 1 + value.size + optionSize spec := by
  cases spec <;> rfl

theorem Expr.size_child_lt {e : Expr} {c : Node} (member : c ∈ e.children) : c.size < e.size := by
  cases e <;> simp [Expr.children, ofContext] at member <;>
    grind [Expr.size, Expr.size_yield, Expr.size_formatted, Node.size, optionSize, → size_le_sizes,
      → key_le_itemSizes, → value_le_itemSizes, → size_le_clauseSizes, → size_le_keywordSizes]

theorem Params.size_child_lt {p : Params} {c : Node} (member : c ∈ p.children) : c.size < p.size := by
  obtain ⟨_, posOnly, args, vararg, kwOnly, kwarg⟩ := p
  simp [Params.children, Params.positional, Params.posOnly, Params.args, Params.vararg, Params.kwOnly, Params.kwarg]
    at member
  grind [Params.size, Node.size, optionParamSize, → size_le_paramSizes, → default_lt_size]

theorem Pattern.size_child_lt {p : Pattern} {c : Node} (member : c ∈ p.children) : c.size < p.size := by
  cases p <;> simp [Pattern.children] at member <;>
    grind [Pattern.size, Node.size, → size_le_sizes, → size_le_patternSizes]

theorem Stmt.size_pos (s : Stmt) : 0 < s.size := by
  cases s <;> rw [size] <;> omega

theorem Stmt.size_child_lt {s : Stmt} {c : Node} (member : c ∈ s.children) : c.size < s.size := by
  cases s with
  | simple l form =>
    cases form <;> simp [Stmt.children, Simple.children] at member <;>
      grind [Stmt.size, Simple.size, Node.size, optionSize, → size_le_sizes]
  | _ =>
    simp [Stmt.children] at member
    grind [Stmt.size, Node.size, optionSize, → size_le_sizes, → size_le_blockSize, → size_le_keywordSizes,
      → size_le_withItemSizes, → size_le_caseSizes, → size_le_handlerSizes]

namespace Node

theorem size_child_lt {n c : Node} (member : c ∈ n.children) : c.size < n.size := by
  cases n with
  | stmt s => exact s.size_child_lt member
  | expr e => exact e.size_child_lt member
  | params p => exact p.size_child_lt member
  | pattern p => exact p.size_child_lt member
  | param p =>
    simp only [children, mem_ofOption] at member
    obtain ⟨e, given, rfl⟩ := member
    exact hint_lt_size given
  | comprehension c =>
    cases c
    simp [children] at member
    grind [Node.size, clauseSizes, → size_le_sizes]
  | handler h =>
    cases h
    simp [children] at member
    grind [Node.size, handlerSizes, optionSize, → size_le_blockSize]
  | matchCase c =>
    cases c
    simp [children] at member
    grind [Node.size, caseSizes, optionSize, → size_le_blockSize]
  | module m =>
    obtain ⟨s, inside, rfl⟩ := mem_ofStmts.mp member
    have bound := size_le_blockSize inside
    simp only [Node.size]
    omega
  | keyword k =>
    cases List.mem_singleton.mp member
    simp only [Node.size]
    omega
  | withItem w =>
    simp [children] at member
    grind [Node.size, WithItem.size, optionSize]
  | «alias» a => cases member
  | mark m => cases member

-- What holds of a node as soon as it holds of its children holds of every node.
theorem induct {P : Node → Prop} (step : ∀ n : Node, (∀ c ∈ n.children, P c) → P n) (n : Node) : P n :=
  step n fun c _ => induct step c
termination_by n.size
decreasing_by exact size_child_lt ‹_›

-- More depth than the size is never used.
theorem locate_of_size_le {n : Node} {depth : Nat} (enough : n.size ≤ depth) (above : List Node) :
    locate depth above n = locate n.size above n := by
  induction n using induct generalizing depth above with
  | step n ih =>
    cases depth with
    | zero => rw [Nat.le_zero.mp enough]
    | succ depth =>
      cases size : n.size with
      | zero =>
        have childless : n.children = [] := by
          apply List.eq_nil_iff_forall_not_mem.mpr
          intro c member
          have smaller := size_child_lt member
          omega
        simp [locate, childless]
      | succ own =>
        simp only [locate, List.cons.injEq, true_and]
        apply List.flatMap_congr
        intro c member
        have smaller := size_child_lt member
        rw [ih c member (by omega), ih c member (show c.size ≤ own by omega)]

theorem locate_eq (above : List Node) (n : Node) :
    locate n.size above n = ⟨n, above⟩ :: n.children.flatMap fun c => locate c.size (n :: above) c := by
  rw [← locate_of_size_le (Nat.le_succ n.size)]
  simp only [locate, List.cons.injEq, true_and]
  apply List.flatMap_congr
  intro c member
  exact locate_of_size_le (Nat.le_of_lt (size_child_lt member)) _

theorem map_node_locate (depth : Nat) (above : List Node) (n : Node) :
    (locate depth above n).map Located.node = preorder depth n := by
  induction depth generalizing above n with
  | zero => rfl
  | succ depth ih => simp [locate, preorder, List.map_flatMap, ih]

theorem map_node_located (n : Node) : n.located.map Located.node = n.walk := map_node_locate _ _ _

theorem walk_eq (n : Node) : n.walk = n :: n.children.flatMap walk := by
  rw [← map_node_located, located, locate_eq]
  simp only [List.map_cons, List.map_flatMap, map_node_locate]
  rfl

theorem self_mem_walk (n : Node) : n ∈ n.walk := by
  rw [walk_eq]
  exact List.mem_cons_self

theorem mem_walk_of_child {n c x : Node} (child : c ∈ n.children) (below : x ∈ c.walk) : x ∈ n.walk := by
  rw [walk_eq]
  exact List.mem_cons_of_mem _ (List.mem_flatMap.mpr ⟨c, child, below⟩)

theorem walk_sublist {n x : Node} (member : x ∈ n.walk) : x.walk.Sublist n.walk := by
  induction n using induct with
  | step n ih =>
    rw [walk_eq n] at member ⊢
    rcases List.mem_cons.mp member with rfl | below
    · rw [walk_eq x]
    · obtain ⟨c, child, inside⟩ := List.mem_flatMap.mp below
      have here : c.walk.Sublist (n.children.flatMap walk) := by
        rw [List.flatMap_def]
        exact List.sublist_flatten_of_mem (List.mem_map_of_mem child)
      exact ((ih c child inside).trans here).trans (List.sublist_cons_self _ _)

theorem mem_walk_of_ancestor {n a : Node} {above : List Node} {x : Located} (member : x ∈ locate n.size above n)
    (higher : a ∈ x.ancestors) : a ∈ above ∨ a ∈ n.walk := by
  induction n using induct generalizing above with
  | step n ih =>
    rw [locate_eq, List.mem_cons, List.mem_flatMap] at member
    obtain rfl | ⟨c, child, below⟩ := member
    · exact .inl higher
    · obtain outer | inner := ih c child below
      · obtain rfl | outer := List.mem_cons.mp outer
        · exact .inr a.self_mem_walk
        · exact .inl outer
      · exact .inr (mem_walk_of_child child inner)

end Node

end Whittle
