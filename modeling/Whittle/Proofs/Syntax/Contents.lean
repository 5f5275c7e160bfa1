import Whittle.Proofs.Syntax.Quotes

namespace Whittle

-- The text that a node is, if it is one.
def Node.text? : Node → Option Text.Points
  | .expr (.constant _ (.text _ points)) => some points
  | _ => none

-- The texts below a node, at any depth.
def Node.texts (n : Node) : List Text.Points := n.walk.filterMap Node.text?

def Expr.texts (e : Expr) : List Text.Points := (Node.expr e).texts

open Node

namespace Node

-- Every text below the node fits between two quotes within the bound.
def Short (bound : Nat) (n : Node) : Prop := ∀ points ∈ n.texts, points.length + 2 ≤ bound

variable {bound : Nat}

theorem short_iff (n : Node) :
    n.Short bound ↔
      (∀ points, n.text? = some points → points.length + 2 ≤ bound) ∧ ∀ c ∈ n.children, c.Short bound := by
  unfold Short texts
  rw [walk_eq]
  simp only [List.mem_filterMap, List.mem_cons, List.mem_flatMap]
  grind

theorem Short.of_children {n : Node} (plain : n.text? = none) (below : ∀ c ∈ n.children, c.Short bound) :
    n.Short bound :=
  n.short_iff.mpr ⟨by simp [plain], below⟩

theorem Short.below {n c : Node} (short : n.Short bound) (child : c ∈ n.children) : c.Short bound :=
  (n.short_iff.mp short).2 c child

theorem Short.mono {n : Node} {wider : Nat} (short : n.Short bound) (le : bound ≤ wider) : n.Short wider :=
  fun points member => Nat.le_trans (short points member) le

@[simp] theorem short_mark (m : Mark) : (Node.mark m).Short bound := .of_children rfl (List.forall_mem_nil _)

@[simp] theorem short_ofContext (c : Context) : (ofContext c).Short bound := short_mark _

end Node

namespace Expr

variable {bound : Nat}

abbrev Short (bound : Nat) (e : Expr) : Prop := (Node.expr e).Short bound

theorem short_of {e : Expr} (plain : (Node.expr e).text? = none) (below : ∀ c ∈ e.children, c.Short bound) :
    e.Short bound :=
  .of_children plain below

@[simp] theorem short_name (l : Label) (id : String) (ctx : Context) : (Expr.name l id ctx).Short bound :=
  short_of rfl (by simp [children])

theorem short_constant {value : Literal} (fits : value.room ≤ bound) : (Expr.constant none value).Short bound := by
  refine (short_iff _).mpr ⟨?_, List.forall_mem_nil _⟩
  cases value with
  | text marked points =>
    rintro _ ⟨⟩
    exact fits
  | _ => nofun

theorem short_elements {es : List Expr} {ctx : Context} :
    (∀ c ∈ ofExprs es ++ [ofContext ctx], c.Short bound) ↔ ∀ e ∈ es, e.Short bound := by
  simp [or_imp, forall_and]

theorem short_tuple {es : List Expr} {ctx : Context} (each : ∀ e ∈ es, e.Short bound) :
    (Expr.tuple none es ctx).Short bound :=
  short_of rfl (short_elements.mpr each)

theorem short_list {es : List Expr} {ctx : Context} (each : ∀ e ∈ es, e.Short bound) :
    (Expr.list none es ctx).Short bound :=
  short_of rfl (short_elements.mpr each)

theorem short_starred {value : Expr} {ctx : Context} (here : value.Short bound) :
    (Expr.starred none value ctx).Short bound :=
  short_of rfl (by simpa [Expr.children] using here)

mutual

-- A target has the texts of the expression that it was read as.
theorem short_of_turned {ctx : Context} (e : Expr) {t : Expr} (turned : e.toTarget? ctx = some t)
    (short : e.Short bound) : t.Short bound := by
  match e with
  | .name l id c =>
    cases turned
    exact short_name l id ctx
  | .attribute l value attr c =>
    cases turned
    have inner : value.Short bound := Node.Short.below short (by simp [Node.children, children])
    exact short_of rfl (by simp [children, inner])
  | .subscript l value index c =>
    cases turned
    have inner : value.Short bound := Node.Short.below short (by simp [Node.children, children])
    have key : index.Short bound := Node.Short.below short (by simp [Node.children, children])
    exact short_of rfl (by simp [children, inner, key])
  | .list l elts c =>
    obtain ⟨es, each, rfl⟩ := Option.map_eq_some_iff.mp turned
    refine short_of rfl (short_elements.mpr (short_of_turnedEach elts each fun e member => Node.Short.below short ?_))
    simpa [Node.children, children] using .inl member
  | .tuple l elts c =>
    obtain ⟨es, each, rfl⟩ := Option.map_eq_some_iff.mp turned
    refine short_of rfl (short_elements.mpr (short_of_turnedEach elts each fun e member => Node.Short.below short ?_))
    simpa [Node.children, children] using .inl member
  | .starred l value c =>
    unfold toTarget? at turned
    split at turned
    · cases turned
    · obtain ⟨v, inner, rfl⟩ := Option.map_eq_some_iff.mp turned
      have here := short_of_turned value inner (Node.Short.below short (by simp [Node.children, children]))
      exact short_of rfl (by simp [children, here])
    · cases turned
  | .boolOp .. | .namedExpr .. | .binOp .. | .unaryOp .. | .lambda .. | .ifExp .. | .dict .. | .set .. | .comp ..
  | .dictComp .. | .await .. | .yield .. | .yieldFrom .. | .compare .. | .call .. | .formatted .. | .joined ..
  | .constant .. | .slice .. => cases turned

theorem short_of_turnedEach {ctx : Context} (es : List Expr) {ts : List Expr}
    (turned : toTargets? ctx es = some ts) (short : ∀ e ∈ es, e.Short bound) : ∀ t ∈ ts, t.Short bound := by
  match es with
  | [] =>
    cases turned
    simp
  | e :: rest =>
    rw [toTargets?] at turned
    split at turned
    · rename_i here there
      cases turned
      rw [List.forall_mem_cons] at short ⊢
      exact ⟨short_of_turned e here short.1, short_of_turnedEach rest there short.2⟩
    · cases turned

end

end Expr

-- A parameter with its default, which stands beside it in the list.
def Param.Short (bound : Nat) (p : Param) : Prop := (Node.param p).Short bound ∧ ∀ e ∈ p.default, e.Short bound

def DictItem.Short (bound : Nat) (item : DictItem) : Prop :=
  (∀ e ∈ item.key?, e.Short bound) ∧ item.value.Short bound

namespace FormatText

variable {bound : Nat}

-- The texts in the pieces are short, and so is the pending one with as many characters more as are left to read.
structure Pieces.Fit (bound left : Nat) (pieces : Pieces) : Prop where intro ::
  values : ∀ e ∈ pieces.values, e.Short bound
  literal : pieces.literal.length + left + 2 ≤ bound

namespace Pieces.Fit

variable {left : Nat} {pieces : Pieces}

theorem start (room : left + 2 ≤ bound) : Fit bound left ⟨[], []⟩ :=
  ⟨List.forall_mem_nil _, by simpa using room⟩

theorem append {fewer : Nat} {points : Text.Points} (fit : Fit bound left pieces)
    (within : points.length + fewer ≤ left) : Fit bound fewer (pieces.append points) := by
  refine ⟨fit.values, ?_⟩
  have room := fit.literal
  simp only [Pieces.append, List.length_append]
  omega

theorem mono {fewer : Nat} (fit : Fit bound left pieces) (within : fewer ≤ left) : Fit bound fewer pieces :=
  ⟨fit.values, Nat.le_trans (by omega) fit.literal⟩

theorem flush (fit : Fit bound left pieces) (marked : Bool) : ∀ e ∈ pieces.flush marked, e.Short bound := by
  unfold Pieces.flush
  split
  · exact fit.values
  · have room := fit.literal
    refine List.forall_mem_cons.mpr ⟨Expr.short_constant ?_, fit.values⟩
    dsimp only [Literal.room]
    omega

theorem push {e : Expr} (fit : Fit bound left pieces) (marked : Bool) (here : e.Short bound) :
    Fit bound left (pieces.push marked e) :=
  ⟨List.forall_mem_cons.mpr ⟨here, fit.flush marked⟩, Nat.le_trans (by simp [Pieces.push]) fit.literal⟩

theorem joined (fit : Fit bound left pieces) (marked : Bool) :
    (Expr.joined none (pieces.flush marked).reverse).Short bound := by
  refine Expr.short_of rfl ?_
  simpa [Expr.children] using fit.flush marked

end Pieces.Fit

theorem length_blanks (cs : List Char) :
    (cs.takeWhile isPlainBlank).length + (cs.dropWhile isPlainBlank).length = cs.length := by
  rw [← List.length_append, List.takeWhile_append_dropWhile]

-- The induction is on the fuel, for the pieces on the same level as for those of a nested format. The braces around an
-- embedded expression make up for what is put around it when it is read.
theorem parse_fits {expr? : List Char → Option Expr}
    (embedded : ∀ cs, Parser.Finds (expr? cs) (Expr.Short (cs.length + 3))) (isRaw marked : Bool) (depth : Nat)
    (outermost : Bool) (fuel : Nat) {pieces : Pieces} {cs : List Char} {later : Nat}
    (fit : Pieces.Fit bound (cs.length + later) pieces) :
    Parser.Finds (parse expr? isRaw marked depth outermost fuel pieces cs) fun r =>
      r.2.length ≤ cs.length ∧ Pieces.Fit bound (r.2.length + later) r.1 := by
  induction fuel generalizing depth outermost pieces cs with
  | zero => exact .none
  | succ fuel ih =>
    rw [parse]
    refine .bind (stretch_splits _ _ _ cs) fun front splits => ?_
    obtain ⟨lit, stop, after⟩ := front
    refine .bind (Escape.text?_short isRaw lit) fun points shorter => ?_
    simp only [Splits] at splits
    have here : Pieces.Fit bound (after.length + later) (pieces.append points) := fit.append (by omega)
    have further : ∀ {fewer : List Char} {more : Pieces} {depth : Nat}, fewer.length ≤ after.length →
        Pieces.Fit bound (fewer.length + later) more →
        Parser.Finds (parse expr? isRaw marked depth outermost fuel more fewer) fun r =>
          r.2.length ≤ cs.length ∧ Pieces.Fit bound (r.2.length + later) r.1 := by
      intro fewer more depth less fit r found
      obtain ⟨left, fits⟩ := ih _ _ fit r found
      exact ⟨by omega, fits⟩
    split
    · exact further (Nat.le_refl _) here
    · exact .ite (.some ⟨Nat.zero_le _, here.mono (by simp)⟩) .none
    · split
      · exact .ite .none (.some ⟨Nat.le_trans (Nat.le_add_left _ _) splits, here⟩)
      · rename_i depth _ body _
        have room := here.literal
        simp only [List.length_cons] at splits room further here
        refine .bind (embedded_short _ _ body) fun between taken => ?_
        obtain ⟨source, more⟩ := between
        dsimp only at taken
        refine .ite .none ?_
        refine .bind (embedded source) fun value found => ?_
        have inner_short : value.Short bound := found.mono (by omega)
        split
        rename_i shown unread parted
        have kept : shown.length + unread.length ≤ source.length + more.length := by
          split at parted
          · rename_i blanks
            cases parted
            have whole := length_blanks blanks
            simp only [List.length_append, List.length_cons]
            omega
          · cases parted
            simp
        refine .bind (conversion?_short unread) fun converted less => ?_
        obtain ⟨conversion, unread'⟩ := converted
        dsimp only at less
        refine .bind (P := fun r => (∀ e ∈ r.1, e.Short bound) ∧ r.2.length ≤ unread'.length) ?_ fun format read => ?_
        · split
          · rename_i nested
            rw [List.length_cons] at less
            refine .bind (ih _ _ (.start (by omega))) fun inner read => .some ⟨?_, Nat.le_succ_of_le read.1⟩
            rintro e ⟨⟩
            exact read.2.joined marked
          · refine .some ⟨fun e format => ?_, Nat.le_refl _⟩
            cases format
        · obtain ⟨spec, last⟩ := format
          obtain ⟨each, fewer⟩ := read
          dsimp only at each fewer ⊢
          split
          · rename_i rest
            rw [List.length_cons] at fewer
            have known : Pieces.Fit bound (rest.length + later)
                ((pieces.append points).append (shown.map Char.toNat)) := here.append (by rw [List.length_map]; omega)
            refine further (by omega) (known.push marked (Expr.short_of rfl ?_))
            simpa [Expr.children, inner_short] using each
          · exact .none
      · exact .none

-- What stands between the quotes of several texts.
def unquoted : List RawText → Nat
  | [] => 0
  | t :: rest => t.body.length + unquoted rest

-- Without their quotes several texts take less room.
theorem unquoted_room (first : RawText) (rest : List RawText) :
    unquoted (first :: rest) + 2 ≤ roomOf ((first :: rest).map .text) := by
  induction rest generalizing first with
  | nil => simp [unquoted, roomOf, Token.room]
  | cons second rest ih =>
    have fewer := ih second
    rw [unquoted, List.map_cons, roomOf, Token.room]
    omega

theorem texts_fit {expr? : List Char → Option Expr}
    (embedded : ∀ cs, Parser.Finds (expr? cs) (Expr.Short (cs.length + 3))) (marked : Bool) (texts : List RawText)
    {pieces : Pieces} (fit : Pieces.Fit bound (unquoted texts) pieces) :
    Parser.Finds (texts.foldlM (fun pieces t =>
      if t.isFormat then read expr? t marked pieces
      else (Escape.text? t.isRaw t.body).map pieces.append) pieces) (Pieces.Fit bound 0) := by
  induction texts generalizing pieces with
  | nil => exact .some fit
  | cons t rest ih =>
    refine .bind (P := Pieces.Fit bound (unquoted rest)) (.ite ?_ ?_) fun pieces fit => ih fit
    · refine .map fun r found => ?_
      rw [unquoted] at fit
      exact (parse_fits embedded _ _ _ _ _ fit r found).2.mono (Nat.le_add_left _ _)
    · refine .map fun points found => fit.append ?_
      rw [unquoted]
      exact Nat.add_le_add_right (Escape.text?_short _ _ points found) _

theorem join_short {expr? : List Char → Option Expr}
    (embedded : ∀ cs, Parser.Finds (expr? cs) (Expr.Short (cs.length + 3))) {texts : List RawText}
    (within : roomOf (texts.map .text) ≤ bound) :
    Parser.Finds (join expr? texts) (Expr.Short bound) := by
  unfold join
  split
  · exact .none
  · rename_i first rest
    refine .ite (.map fun parts _ => Expr.short_constant (Nat.zero_le _)) (.ite .none (.map fun pieces found => ?_))
    have fit := texts_fit embedded _ _ (.start (Nat.le_trans (unquoted_room first rest) within)) pieces found
    split
    · exact fit.joined _
    · exact Expr.short_constant fit.literal

end FormatText

end Whittle
