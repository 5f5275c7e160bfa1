import Whittle.Proofs.Syntax.Blocks
import Whittle.Proofs.Syntax.Trimming

namespace Whittle

section Parts

variable (cuts : Cuts) (f : Label → Label)

def Keyword.trim : Keyword → Keyword
  | .mk l name value => .mk (f l) name (value.trim cuts f)

def Comprehension.trim : Comprehension → Comprehension
  | .mk l target iter ifs isAsync =>
    .mk (f l) (target.trim cuts f) (iter.trim cuts f) (trimExprs cuts f ifs) isAsync

def Handler.trim : Handler → Handler
  | .mk l type name body => .mk (f l) (trimOption cuts f type) name (trimBlock cuts f body)

def MatchCase.trim : MatchCase → MatchCase
  | .mk l p guard body => .mk (f l) (p.trim cuts f) (trimOption cuts f guard) (trimBlock cuts f body)

end Parts

namespace Node

section Children

variable (cuts : Cuts) (f : Label → Label)

def trim : Node → Node
  | .module m => .module (m.trim cuts f)
  | .stmt s => .stmt (s.trim cuts f)
  | .expr e => .expr (e.trim cuts f)
  | .params p => .params (p.trim cuts f)
  | .param p => .param (p.trim cuts f)
  | .keyword k => .keyword (k.trim cuts f)
  | .comprehension c => .comprehension (c.trim cuts f)
  | .alias a => .alias (a.relabel f)
  | .withItem w => .withItem (w.trim cuts f)
  | .handler h => .handler (h.trim cuts f)
  | .matchCase c => .matchCase (c.trim cuts f)
  | .pattern p => .pattern (p.trim cuts f)
  | .mark m => .mark m

-- The children that no cut drops.
def kept : Node → List Node
  | .expr (.call l func args keywords) => .expr func :: ofExprs (cuts.keep l args) ++ keywords.map .keyword
  | n => n.children

@[simp] theorem ofExprs_trim (es : List Expr) : ofExprs (trimExprs cuts f es) = (ofExprs es).map (trim cuts f) := by
  rw [trimExprs_eq, ofExprs, ofExprs, List.map_map, List.map_map]
  rfl

@[simp] theorem ofOption_trim (o : Option Expr) : ofOption (trimOption cuts f o) = (ofOption o).map (trim cuts f) := by
  cases o <;> rfl

@[simp] theorem clauses_trim (cs : List Comprehension) :
    (trimClauses cuts f cs).map Node.comprehension = (cs.map Node.comprehension).map (trim cuts f) := by
  induction cs with
  | nil => rfl
  | cons c rest ih => cases c; rw [trimClauses, List.map_cons, ih]; rfl

@[simp] theorem keywords_trim (ks : List Keyword) :
    (trimKeywords cuts f ks).map Node.keyword = (ks.map Node.keyword).map (trim cuts f) := by
  induction ks with
  | nil => rfl
  | cons k rest ih => cases k; rw [trimKeywords, List.map_cons, ih]; rfl

@[simp] theorem params_trim (ps : List Param) :
    (trimParamList cuts f ps).map Node.param = (ps.map Node.param).map (trim cuts f) := by
  induction ps with
  | nil => rfl
  | cons p rest ih => rw [trimParamList, List.map_cons, ih]; rfl

@[simp] theorem paramOption_trim (o : Option Param) :
    (trimParamOption cuts f o).toList.map Node.param = (o.toList.map Node.param).map (trim cuts f) := by
  cases o <;> rfl

theorem defaults_trim (ps : List Param) :
    (trimParamList cuts f ps).filterMap Param.default = trimExprs cuts f (ps.filterMap Param.default) := by
  induction ps with
  | nil => rfl
  | cons p rest ih =>
    cases p with
    | mk l name hint default =>
      cases default <;> simp [trimParamList, List.filterMap_cons, Param.trim, Param.default, trimOption, ih, trimExprs]

@[simp] theorem patterns_trim (ps : List Pattern) :
    (trimPatterns cuts f ps).map Node.pattern = (ps.map Node.pattern).map (trim cuts f) := by
  induction ps with
  | nil => rfl
  | cons p rest ih => rw [trimPatterns, List.map_cons, ih]; rfl

@[simp] theorem ofStmts_trim (b : Block) : ofStmts (trimBlock cuts f b) = (ofStmts b).map (trim cuts f) := by
  induction b with
  | nil => rfl
  | cons s rest ih => rw [trimBlock, ofStmts, List.map_cons, ← ofStmts, ih]; rfl

@[simp] theorem aliases_relabel (names : List Alias) :
    (names.map (Alias.relabel f)).map Node.alias = (names.map Node.alias).map (trim cuts f) := by
  rw [List.map_map, List.map_map]
  rfl

@[simp] theorem withItems_trim (ws : List WithItem) :
    (ws.map (WithItem.trim cuts f)).map Node.withItem = (ws.map Node.withItem).map (trim cuts f) := by
  rw [List.map_map, List.map_map]
  rfl

@[simp] theorem handlers_trim (hs : List Handler) :
    (trimHandlers cuts f hs).map Node.handler = (hs.map Node.handler).map (trim cuts f) := by
  induction hs with
  | nil => rfl
  | cons h rest ih => cases h; rw [trimHandlers, List.map_cons, ih]; rfl

@[simp] theorem cases_trim (cs : List MatchCase) :
    (trimCases cuts f cs).map Node.matchCase = (cs.map Node.matchCase).map (trim cuts f) := by
  induction cs with
  | nil => rfl
  | cons c rest ih => cases c; rw [trimCases, List.map_cons, ih]; rfl

theorem keys_trim (items : List DictItem) :
    (trimItems cuts f items).filterMap DictItem.key? = trimExprs cuts f (items.filterMap DictItem.key?) := by
  induction items with
  | nil => rfl
  | cons item rest ih => cases item <;> simp [trimItems, List.filterMap_cons, DictItem.key?, ih, trimExprs]

theorem values_trim (items : List DictItem) :
    (trimItems cuts f items).map DictItem.value = trimExprs cuts f (items.map DictItem.value) := by
  induction items with
  | nil => rfl
  | cons item rest ih => cases item <;> simp [trimItems, DictItem.value, ih, trimExprs]

theorem ofExprs_append (front back : List Expr) : ofExprs (front ++ back) = ofExprs front ++ ofExprs back :=
  List.map_append

end Children

end Node

section Children

open Node

variable (cuts : Cuts) (f : Label → Label)

theorem Params.children_trim (p : Params) : (p.trim cuts f).children = p.children.map (Node.trim cuts f) := by
  cases p
  simp only [Params.trim, children, positional, posOnly, args, vararg, kwOnly, kwarg, List.filterMap_append,
    ofExprs_append, params_trim, paramOption_trim, defaults_trim, ofExprs_trim, List.map_append]

theorem Expr.children_trim (e : Expr) :
    (e.trim cuts f).children = ((Node.expr e).kept cuts).map (Node.trim cuts f) := by
  cases e with
  | call l func args keywords =>
    have positional : ofExprs (cuts.keep l (trimExprs cuts f args)) =
        (ofExprs (cuts.keep l args)).map (Node.trim cuts f) := by
      rw [trimExprs_eq, Cuts.keep_map, ← trimExprs_eq, ofExprs_trim]
    simp [Expr.trim, Expr.children, kept, Node.trim, positional]
  | _ => simp [Expr.trim, Expr.children, kept, Node.children, keys_trim, values_trim, Node.trim, ofContext]

theorem Pattern.children_trim (p : Pattern) : (p.trim cuts f).children = p.children.map (Node.trim cuts f) := by
  match p with
  | .capture l none name => rfl
  | .capture l (some p) name => rfl
  | .singleton .. | .star .. | .value .. => rfl
  | .sequence .. | .mapping .. | .classOf .. | .either .. => simp [Pattern.trim, children, Node.trim]

theorem Simple.children_trim (s : Simple) : (s.trim cuts f).children = s.children.map (Node.trim cuts f) := by
  cases s <;> simp [Simple.trim, children, Node.trim]

theorem Stmt.children_trim (s : Stmt) : (s.trim cuts f).children = s.children.map (Node.trim cuts f) := by
  cases s <;> simp [Stmt.trim, children, Simple.children_trim, FunctionHead.trim, ClassHead.trim, Node.trim]

theorem Node.children_trim (n : Node) : (n.trim cuts f).children = (n.kept cuts).map (Node.trim cuts f) := by
  cases n with
  | module m => exact ofStmts_trim cuts f m.body
  | stmt s => exact s.children_trim cuts f
  | expr e => exact e.children_trim cuts f
  | params p => exact p.children_trim cuts f
  | param p => cases p; exact ofOption_trim cuts f _
  | keyword k => cases k; rfl
  | comprehension c => cases c; simp [Node.trim, Comprehension.trim, kept, children]
  | «alias» a => rfl
  | withItem w => simp [Node.trim, kept, children, WithItem.trim]
  | handler h => cases h; simp [Node.trim, Handler.trim, kept, children]
  | matchCase c => cases c; simp [Node.trim, MatchCase.trim, kept, children]
  | pattern p => exact p.children_trim cuts f
  | mark m => rfl

end Children

-- What a cut drops of the arguments of the call with a label.
def Cuts.drop {α : Type} (cuts : Cuts) (l : Label) (args : List α) : List α :=
  match l.bind (List.lookup · cuts) with
  | some n => args.drop n
  | none => []

theorem Cuts.keep_append_drop {α : Type} (cuts : Cuts) (l : Label) (args : List α) :
    cuts.keep l args ++ cuts.drop l args = args := by
  cases found : l.bind (List.lookup · cuts) <;> simp [keep, drop, found]

namespace Node

def dropped (cuts : Cuts) : Node → List Node
  | .expr (.call l _ args _) => ofExprs (cuts.drop l args)
  | _ => []

theorem dropped_nil (n : Node) : n.dropped [] = [] := by
  unfold dropped
  split
  · rename_i l func args keywords
    cases l <;> rfl
  · rfl

theorem kept_subset (cuts : Cuts) {n c : Node} (member : c ∈ n.kept cuts) : c ∈ n.children := by
  unfold kept at member
  split at member
  · rename_i l func args keywords
    have whole : ∀ e ∈ cuts.keep l args, e ∈ args := by
      intro e inside
      rw [← cuts.keep_append_drop l args]
      exact List.mem_append_left _ inside
    simp only [children, Expr.children, List.cons_append, List.mem_cons, List.mem_append, mem_ofExprs] at member ⊢
    obtain rfl | ⟨e, inside, rfl⟩ | keyword := member
    · exact .inl rfl
    · exact .inr (.inl ⟨e, whole e inside, rfl⟩)
    · exact .inr (.inr keyword)
  · exact member

theorem flatMap_kept {α : Type} (cuts : Cuts) {n : Node} {h : Node → List α} (silent : ∀ d ∈ n.dropped cuts, h d = []) :
    (n.kept cuts).flatMap h = n.children.flatMap h := by
  unfold kept
  split
  · rename_i l func args keywords
    have none : (ofExprs (cuts.drop l args)).flatMap h = [] := List.flatMap_eq_nil_iff.mpr silent
    have whole := congrArg ofExprs (cuts.keep_append_drop l args)
    rw [ofExprs_append] at whole
    simp only [children, Expr.children, ← whole, List.flatMap_append, List.flatMap_cons, List.cons_append, none,
      List.append_nil]
  · rfl

section Located

variable (cuts : Cuts) (f : Label → Label)

def Located.trim (l : Located) : Located := ⟨l.node.trim cuts f, l.ancestors.map (Node.trim cuts f)⟩

theorem mem_locate_trim {n : Node} (above : List Node) {x : Located}
    (member : x ∈ locate (n.trim cuts f).size (above.map (Node.trim cuts f)) (n.trim cuts f)) :
    ∃ y ∈ locate n.size above n, x = y.trim cuts f := by
  induction n using induct generalizing above with
  | step n ih =>
    rw [locate_eq, children_trim, List.mem_cons, List.mem_flatMap] at member
    rw [locate_eq]
    obtain rfl | ⟨c, child, inside⟩ := member
    · exact ⟨_, List.mem_cons_self, rfl⟩
    · obtain ⟨d, kept, rfl⟩ := List.mem_map.mp child
      obtain ⟨y, below, same⟩ := ih d (kept_subset cuts kept) (n :: above) inside
      exact ⟨y, List.mem_cons_of_mem _ (List.mem_flatMap.mpr ⟨d, kept_subset cuts kept, below⟩), same⟩

variable {f} {α : Type} {G H : Located → List α}

-- `H` gathers from a trimmed node what `G` gathers from the node, and `G` gathers nothing where arguments are dropped.
theorem gather_locate_trim {n : Node} (above : List Node) (alike : ∀ x : Located, H (x.trim cuts f) = G x)
    (silent : ∀ x ∈ n.walk, ∀ d ∈ x.dropped cuts, ∀ y ∈ d.walk, ∀ higher, G ⟨y, higher⟩ = []) :
    (locate (n.trim cuts f).size (above.map (Node.trim cuts f)) (n.trim cuts f)).flatMap H =
      (locate n.size above n).flatMap G := by
  induction n using induct generalizing above with
  | step n ih =>
    have below : ∀ c ∈ n.kept cuts, (locate (c.trim cuts f).size ((n :: above).map (Node.trim cuts f))
        (c.trim cuts f)).flatMap H = (locate c.size (n :: above) c).flatMap G := fun c member =>
      ih c (kept_subset cuts member) (n :: above) fun x inside =>
        silent x (mem_walk_of_child (kept_subset cuts member) inside)
    have quiet : ∀ d ∈ n.dropped cuts, (locate d.size (n :: above) d).flatMap G = [] := by
      intro d member
      refine List.flatMap_eq_nil_iff.mpr fun x inside => silent n (self_mem_walk n) d member x.node ?_ x.ancestors
      rw [walk, ← map_node_locate]
      exact List.mem_map_of_mem inside
    rw [locate_eq, locate_eq, children_trim, List.flatMap_cons, List.flatMap_cons, List.flatMap_map, List.flatMap_assoc,
      List.flatMap_assoc, ← flatMap_kept cuts quiet]
    exact congr (congrArg _ (alike ⟨n, above⟩)) (List.flatMap_congr below)

end Located

theorem located_relabel (f : Label → Label) (n : Node) :
    (n.trim [] f).located = n.located.map (Located.trim [] f) := by
  have gathered := gather_locate_trim (G := fun x => [x.trim [] f]) (H := fun x => [x]) (f := f) [] (n := n) []
    (fun _ => rfl) (fun x _ d member => by rw [dropped_nil] at member; cases member)
  rw [List.flatMap_singleton'] at gathered
  rw [located, List.map_eq_flatMap]
  exact gathered

section Walk

variable {cuts : Cuts} {f : Label → Label} {α : Type} {g : Node → List α}

theorem gather_walk_trim {n : Node} (alike : ∀ x : Node, g (x.trim cuts f) = g x)
    (silent : ∀ x ∈ n.walk, ∀ d ∈ x.dropped cuts, ∀ y ∈ d.walk, g y = []) :
    (n.trim cuts f).walk.flatMap g = n.walk.flatMap g := by
  have gathered := gather_locate_trim (G := fun x => g x.node) (H := fun x => g x.node) cuts []
    (fun x => alike x.node) (fun x inside d member y below _ => silent x inside d member y below)
  rw [← map_node_located, ← map_node_located, List.flatMap_map, List.flatMap_map]
  exact gathered

theorem any_walk_trim {p : Node → Bool} {n : Node} (alike : ∀ x : Node, p (x.trim cuts f) = p x)
    (silent : ∀ x ∈ n.walk, ∀ d ∈ x.dropped cuts, ∀ y ∈ d.walk, p y = false) :
    (n.trim cuts f).walk.any p = n.walk.any p := by
  have gathered : (n.trim cuts f).walk.flatMap (fun x => [p x].filter id) =
      n.walk.flatMap fun x => [p x].filter id := by
    refine gather_walk_trim (fun x => ?_) (fun x inside d member y below => ?_)
    · rw [alike]
    · rw [silent x inside d member y below]
      rfl
  have emptied : ∀ nodes : List Node, nodes.any p = !(nodes.flatMap fun x => [p x].filter id).isEmpty := by
    intro nodes
    induction nodes with
    | nil => rfl
    | cons x rest ih => cases known : p x <;> simp [known, ih]
  rw [emptied, emptied, gathered]

end Walk

end Node

end Whittle
