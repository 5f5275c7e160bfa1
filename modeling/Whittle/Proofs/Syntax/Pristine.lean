import Whittle.Proofs.Syntax.Fullness

namespace Whittle

mutual

-- The names that an expression binds or deletes where it stands as a target, with their marks.
def Expr.heads : Expr → List (String × Context)
  | .name _ id ctx => [(id, ctx)]
  | .list _ elts _ | .tuple _ elts _ => headsOf elts
  | .starred _ value _ => value.heads
  | _ => []

def headsOf : List Expr → List (String × Context)
  | [] => []
  | e :: rest => e.heads ++ headsOf rest

end

theorem mem_headsOf {es : List Expr} {head : String × Context} :
    head ∈ headsOf es ↔ ∃ e ∈ es, head ∈ e.heads := by
  induction es with
  | nil => simp [headsOf]
  | cons e rest ih => simp [headsOf, ih]

-- The expressions of a node that stand where a value is bound or deleted, each with what is done there.
def Node.targets : Node → List (Context × Expr)
  | .expr (.namedExpr _ target _) => [(.store, target)]
  | .comprehension (.mk _ target _ _ _) => [(.store, target)]
  | .withItem w => w.vars.toList.map fun target => (.store, target)
  | .stmt (.forLoop _ _ target _ _ _) => [(.store, target)]
  | .stmt (.simple _ (.assign targets _)) => targets.map fun target => (.store, target)
  | .stmt (.simple _ (.augAssign target _ _)) => [(.store, target)]
  | .stmt (.simple _ (.annAssign target _ _ _)) => [(.store, target)]
  | .stmt (.simple _ (.delete targets)) => targets.map fun target => (.del, target)
  | _ => []

def Expr.IsTarget (ctx : Context) (e : Expr) : Prop := ∀ head ∈ e.heads, head.2 = ctx

theorem isTarget_headsOf {ctx : Context} {es : List Expr} (each : ∀ e ∈ es, e.IsTarget ctx) :
    ∀ head ∈ headsOf es, head.2 = ctx := by
  intro head member
  obtain ⟨e, here, inside⟩ := mem_headsOf.mp member
  exact each e here head inside

-- A target below the node binds or deletes the name.
def Node.HasTarget (n : Node) (x : String) : Prop :=
  ∃ b ∈ n.walk, ∃ t ∈ b.targets, ∃ ctx, (x, ctx) ∈ t.2.heads

-- The mark of an expression: whether it is loaded, bound or deleted where it stands.
def Expr.usage : Expr → Context
  | .name _ _ ctx | .attribute _ _ _ ctx | .subscript _ _ _ ctx => ctx
  | .list _ _ ctx | .tuple _ _ ctx | .starred _ _ ctx => ctx
  | _ => .load

-- The expressions that a target consists of.
def Expr.parts : Expr → List Expr
  | .list _ elts _ | .tuple _ elts _ => elts
  | .starred _ value _ => [value]
  | _ => []

namespace Node

def usage : Node → Context
  | .expr e => e.usage
  | _ => .load

-- A node that is no target and has none.
def isPlain (n : Node) : Bool := n.targets.isEmpty && n.usage == .load

-- The expressions below a node that may have a mark: its targets, or the parts of a target that it is itself.
def places (n : Node) : List Expr :=
  n.targets.map Prod.snd ++
    match n with
    | .expr e => if e.usage = .load then [] else e.parts
    | _ => []

structure AsRead (n : Node) : Prop where
  unlabelled : n.label = none
  marked : ∀ t ∈ n.targets, t.2.IsTarget t.1
  placed : ∀ c ∈ n.children, c.usage = .load ∨ ∃ e ∈ n.places, c = .expr e

def Sound (n : Node) : Prop := ∀ x ∈ n.walk, x.AsRead

-- A node that is read as one that is no target.
structure Pristine (n : Node) : Prop where intro ::
  loaded : n.usage = .load
  sound : n.Sound

theorem sound_iff (n : Node) : n.Sound ↔ n.AsRead ∧ ∀ c ∈ n.children, c.Sound := by
  unfold Sound
  rw [walk_eq, List.forall_mem_cons]
  refine and_congr_right fun _ => ?_
  simp only [List.mem_flatMap]
  exact ⟨fun all c child x below => all x ⟨c, child, below⟩, fun all x ⟨c, child, below⟩ => all c child x below⟩

theorem Sound.asRead {n : Node} (sound : n.Sound) : n.AsRead := ((sound_iff n).mp sound).1

theorem Sound.below {n c : Node} (sound : n.Sound) (child : c ∈ n.children) : c.Sound :=
  ((sound_iff n).mp sound).2 c child

theorem Sound.pristine_below {n c : Node} (sound : n.Sound) (bare : n.places = []) (child : c ∈ n.children) :
    c.Pristine := by
  refine ⟨?_, sound.below child⟩
  obtain loaded | ⟨e, place, -⟩ := sound.asRead.placed c child
  · exact loaded
  · rw [bare] at place
    cases place

end Node

-- An expression that may stand as a target.
structure Expr.Fits (ctx : Context) (e : Expr) : Prop where
  marked : e.IsTarget ctx
  sound : (Node.expr e).Sound

namespace Node

theorem Pristine.of_targets {n : Node} (unlabelled : n.label = none) (fits : ∀ t ∈ n.targets, t.2.Fits t.1)
    (below : ∀ c ∈ n.children, c.Pristine ∨ ∃ t ∈ n.targets, c = .expr t.2) (loaded : n.usage = .load) : n.Pristine := by
  refine ⟨loaded, (sound_iff n).mpr ⟨⟨unlabelled, fun t member => (fits t member).marked, fun c child => ?_⟩, ?_⟩⟩
  · obtain here | ⟨t, member, rfl⟩ := below c child
    · exact .inl here.loaded
    · exact .inr ⟨t.2, List.mem_append_left _ (List.mem_map_of_mem member), rfl⟩
  · intro c child
    obtain here | ⟨t, member, rfl⟩ := below c child
    · exact here.sound
    · exact (fits t member).sound

theorem Pristine.mk {n : Node} (unlabelled : n.label = none) (plain : n.isPlain)
    (below : ∀ c ∈ n.children, c.Pristine) : n.Pristine := by
  obtain ⟨none, loaded⟩ : n.targets = [] ∧ n.usage = .load := by simpa [isPlain] using plain
  refine .of_targets unlabelled (fun t member => ?_) (fun c child => .inl (below c child)) loaded
  rw [none] at member
  cases member

@[simp] theorem pristine_mark (m : Mark) : (Node.mark m).Pristine := .mk rfl rfl (List.forall_mem_nil _)

@[simp] theorem pristine_ofContext (c : Context) : (ofContext c).Pristine := pristine_mark _

-- The induction is on the tree: a mark that no target below explains belongs to the root, which then has the name too.
theorem Sound.hasTarget {n : Node} (sound : n.Sound) {l : Label} {x : String} {ctx : Context}
    (member : .expr (.name l x ctx) ∈ n.walk) (bound : ctx ≠ .load) :
    n.HasTarget x ∨ ∃ e ctx, n = .expr e ∧ e.usage ≠ .load ∧ (x, ctx) ∈ e.heads := by
  induction n using induct with
  | step n ih =>
    rw [walk_eq, List.mem_cons, List.mem_flatMap] at member
    obtain rfl | ⟨c, child, below⟩ := member
    · exact .inr ⟨_, ctx, rfl, bound, by simp [Expr.heads]⟩
    · obtain ⟨b, inside, found⟩ | ⟨e, ctx', rfl, marked, head⟩ := ih c child (sound.below child) below
      · exact .inl ⟨b, mem_walk_of_child child inside, found⟩
      · obtain loaded | ⟨e', place, same⟩ := sound.asRead.placed _ child
        · exact absurd loaded marked
        · cases same
          obtain target | part := List.mem_append.mp place
          · obtain ⟨t, here, rfl⟩ := List.mem_map.mp target
            exact .inl ⟨n, self_mem_walk n, t, here, ctx', head⟩
          · split at part
            · rename_i whole
              split at part
              · cases part
              · rename_i outer
                refine .inr ⟨whole, ctx', rfl, outer, ?_⟩
                cases whole with
                | list l elts ctx => exact mem_headsOf.mpr ⟨e, part, head⟩
                | tuple l elts ctx => exact mem_headsOf.mpr ⟨e, part, head⟩
                | starred l value ctx =>
                  rw [List.mem_singleton.mp part] at head
                  exact head
                | _ => cases part
            · cases part

theorem child_of_target {n : Node} {t : Context × Expr} (member : t ∈ n.targets) :
    .expr t.2 ∈ n.children ∧ t.1 ≠ .load := by
  unfold targets at member
  split at member
  all_goals
    simp only [List.mem_map, List.mem_singleton, Option.mem_toList, List.not_mem_nil] at member
  case h_3 | h_5 | h_8 =>
    obtain ⟨target, listed, rfl⟩ := member
    simp [children, Stmt.children, Simple.children, listed]
  all_goals
    subst member
    simp [children, Expr.children, Stmt.children, Simple.children]

mutual

theorem exists_name_of_head (e : Expr) {head : String × Context} (member : head ∈ e.heads) :
    ∃ l, .expr (.name l head.1 head.2) ∈ (Node.expr e).walk := by
  match e with
  | .name l id ctx =>
    cases List.mem_singleton.mp member
    exact ⟨l, self_mem_walk _⟩
  | .list l elts ctx | .tuple l elts ctx =>
    obtain ⟨e, inside, l, below⟩ := exists_name_of_headEach elts member
    exact ⟨l, mem_walk_of_child (by simpa [children, Expr.children] using .inl inside) below⟩
  | .starred l value ctx =>
    obtain ⟨l, below⟩ := exists_name_of_head value member
    exact ⟨l, mem_walk_of_child (by simp [children, Expr.children]) below⟩
  | .attribute .. | .subscript .. | .boolOp .. | .namedExpr .. | .binOp .. | .unaryOp .. | .lambda .. | .ifExp ..
  | .dict .. | .set .. | .comp .. | .dictComp .. | .await .. | .yield .. | .yieldFrom .. | .compare .. | .call ..
  | .formatted .. | .joined .. | .constant .. | .slice .. => cases member

theorem exists_name_of_headEach (es : List Expr) {head : String × Context} (member : head ∈ headsOf es) :
    ∃ e ∈ es, ∃ l, .expr (.name l head.1 head.2) ∈ (Node.expr e).walk := by
  match es with
  | [] => cases member
  | e :: rest =>
    obtain here | there := List.mem_append.mp member
    · exact ⟨e, List.mem_cons_self, exists_name_of_head e here⟩
    · obtain ⟨other, inside, found⟩ := exists_name_of_headEach rest there
      exact ⟨other, List.mem_cons_of_mem _ inside, found⟩

end

theorem Pristine.hasTarget_iff {n : Node} (pristine : n.Pristine) {x : String} :
    n.HasTarget x ↔ ∃ l ctx, .expr (.name l x ctx) ∈ n.walk ∧ ctx ≠ .load := by
  constructor
  · rintro ⟨b, inside, t, member, ctx, head⟩
    obtain ⟨child, bound⟩ := child_of_target member
    have same : ctx = t.1 := (pristine.sound b inside).marked t member _ head
    obtain ⟨l, below⟩ := exists_name_of_head t.2 head
    exact ⟨l, ctx, (walk_sublist inside).subset (mem_walk_of_child child below), same ▸ bound⟩
  · rintro ⟨l, ctx, member, bound⟩
    obtain found | ⟨e, ctx, rfl, marked, head⟩ := pristine.sound.hasTarget member bound
    · exact found
    · exact absurd pristine.loaded marked

end Node

open Node

namespace Expr

abbrev Pristine (e : Expr) : Prop := (Node.expr e).Pristine

theorem pristine_of {e : Expr} (unlabelled : e.label = none) (plain : (Node.expr e).isPlain)
    (below : ∀ c ∈ e.children, c.Pristine) : e.Pristine :=
  Node.Pristine.mk unlabelled plain below

theorem pristine_elements {es : List Expr} {ctx : Context} :
    (∀ c ∈ ofExprs es ++ [ofContext ctx], c.Pristine) ↔ ∀ e ∈ es, e.Pristine := by
  simp [or_imp, forall_and]

theorem pristine_name (id : String) : (Expr.name none id .load).Pristine :=
  pristine_of rfl rfl (by simp [children])

theorem pristine_constant (value : Literal) : (Expr.constant none value).Pristine :=
  pristine_of rfl rfl (List.forall_mem_nil _)

theorem pristine_tuple {es : List Expr} (each : ∀ e ∈ es, e.Pristine) : (Expr.tuple none es .load).Pristine :=
  pristine_of rfl rfl (pristine_elements.mpr each)

theorem pristine_list {es : List Expr} (each : ∀ e ∈ es, e.Pristine) : (Expr.list none es .load).Pristine :=
  pristine_of rfl rfl (pristine_elements.mpr each)

-- A target: its parts are marked with it, and what else it holds is loaded.
theorem fits_of {ctx : Context} {e : Expr} (usage : e.usage = ctx) (bound : ctx ≠ .load) (marked : e.IsTarget ctx)
    (unlabelled : e.label = none) (plain : (Node.expr e).targets = [])
    (below : ∀ c ∈ e.children, c.Pristine ∨ ∃ p ∈ e.parts, c = .expr p ∧ c.Sound) : e.Fits ctx := by
  subst usage
  refine ⟨marked, (sound_iff _).mpr ⟨⟨unlabelled, by simp [plain], fun c child => ?_⟩, fun c child => ?_⟩⟩
  · obtain here | ⟨p, part, rfl, -⟩ := below c child
    · exact .inl here.loaded
    · refine .inr ⟨p, List.mem_append_right _ ?_, rfl⟩
      simpa only [if_neg bound] using part
  · obtain here | ⟨p, part, rfl, sound⟩ := below c child
    · exact here.sound
    · exact sound

theorem fits_name {ctx : Context} (bound : ctx ≠ .load) (id : String) : (Expr.name none id ctx).Fits ctx :=
  fits_of rfl bound (by simp [IsTarget, heads]) rfl rfl (by simp [children])

theorem fits_elements {ctx : Context} {es : List Expr} (each : ∀ e ∈ es, e.Fits ctx) :
    ∀ c ∈ ofExprs es ++ [ofContext ctx], c.Pristine ∨ ∃ p ∈ es, c = .expr p ∧ c.Sound := by
  simp only [List.mem_append, mem_ofExprs, List.mem_singleton]
  rintro c (⟨e, member, rfl⟩ | rfl)
  · exact .inr ⟨e, member, rfl, (each e member).sound⟩
  · exact .inl (pristine_ofContext _)

theorem fits_tuple {ctx : Context} (bound : ctx ≠ .load) {es : List Expr} (each : ∀ e ∈ es, e.Fits ctx) :
    (Expr.tuple none es ctx).Fits ctx :=
  fits_of rfl bound (isTarget_headsOf fun e member => (each e member).marked) rfl rfl (fits_elements each)

theorem fits_list {ctx : Context} (bound : ctx ≠ .load) {es : List Expr} (each : ∀ e ∈ es, e.Fits ctx) :
    (Expr.list none es ctx).Fits ctx :=
  fits_of rfl bound (isTarget_headsOf fun e member => (each e member).marked) rfl rfl (fits_elements each)

theorem fits_starred {ctx : Context} (bound : ctx ≠ .load) {value : Expr} (fits : value.Fits ctx) :
    (Expr.starred none value ctx).Fits ctx :=
  fits_of rfl bound fits.marked rfl rfl (by simp [children, parts, fits.sound])

mutual

theorem fits_of_turned {ctx : Context} (bound : ctx ≠ .load) (e : Expr) {t : Expr} (turned : e.toTarget? ctx = some t)
    (sound : (Node.expr e).Sound) : t.Fits ctx := by
  have unlabelled : e.label = none := sound.asRead.unlabelled
  match e with
  | .name l id c =>
    cases turned
    cases unlabelled
    exact fits_name bound id
  | .attribute l value attr c =>
    cases turned
    have inner : value.Pristine := sound.pristine_below (by simp [places, targets, parts]) (by
      simp [Node.children, children])
    exact fits_of rfl bound (by simp [IsTarget, heads]) unlabelled rfl (by simp [children, inner])
  | .subscript l value index c =>
    cases turned
    have bare : (Node.expr (.subscript l value index c)).places = [] := by simp [places, targets, parts]
    have inner : value.Pristine := sound.pristine_below bare (by simp [Node.children, children])
    have key : index.Pristine := sound.pristine_below bare (by simp [Node.children, children])
    exact fits_of rfl bound (by simp [IsTarget, heads]) unlabelled rfl (by simp [children, inner, key])
  | .list l elts c =>
    obtain ⟨es, each, rfl⟩ := Option.map_eq_some_iff.mp turned
    cases unlabelled
    refine fits_list bound (fits_of_turnedEach bound elts each fun e member => sound.below ?_)
    simpa [Node.children, children] using .inl member
  | .tuple l elts c =>
    obtain ⟨es, each, rfl⟩ := Option.map_eq_some_iff.mp turned
    cases unlabelled
    refine fits_tuple bound (fits_of_turnedEach bound elts each fun e member => sound.below ?_)
    simpa [Node.children, children] using .inl member
  | .starred l value c =>
    cases unlabelled
    unfold toTarget? at turned
    split at turned
    · cases turned
    · obtain ⟨v, inner, rfl⟩ := Option.map_eq_some_iff.mp turned
      refine fits_starred bound (fits_of_turned bound value inner (sound.below ?_))
      simp [Node.children, children]
    · cases turned
  | .boolOp .. | .namedExpr .. | .binOp .. | .unaryOp .. | .lambda .. | .ifExp .. | .dict .. | .set .. | .comp ..
  | .dictComp .. | .await .. | .yield .. | .yieldFrom .. | .compare .. | .call .. | .formatted .. | .joined ..
  | .constant .. | .slice .. => cases turned

theorem fits_of_turnedEach {ctx : Context} (bound : ctx ≠ .load) (es : List Expr) {ts : List Expr}
    (turned : toTargets? ctx es = some ts) (sound : ∀ e ∈ es, (Node.expr e).Sound) : ∀ t ∈ ts, t.Fits ctx := by
  match es with
  | [] =>
    cases turned
    simp
  | e :: rest =>
    rw [toTargets?] at turned
    split at turned
    · rename_i here there
      cases turned
      rw [List.forall_mem_cons] at sound ⊢
      exact ⟨fits_of_turned bound e here sound.1, fits_of_turnedEach bound rest there sound.2⟩
    · cases turned

end

theorem fits_of_single {e t : Expr} (turned : e.toSingleTarget? = some t) (sound : (Node.expr e).Sound) :
    t.Fits .store := by
  have same : e.toTarget? .store = some t := by
    cases e with
    | name | «attribute» | subscript => exact turned
    | _ => cases turned
  exact fits_of_turned (by decide) e same sound

end Expr

-- A parameter with its default, which stands beside it in the list.
def Param.Pristine (p : Param) : Prop := (Node.param p).Pristine ∧ ∀ e ∈ p.default, e.Pristine

def DictItem.Pristine (item : DictItem) : Prop := (∀ e ∈ item.key?, e.Pristine) ∧ item.value.Pristine

namespace Parser

-- Whatever is found has a property.
def Finds {α : Type} (x : Option α) (P : α → Prop) : Prop := ∀ a, x = some a → P a

namespace Finds

variable {α β : Type} {x : Option α} {g : α → Option β} {P : α → Prop} {Q : β → Prop}

theorem bind (first : Finds x P) (next : ∀ a, P a → Finds (g a) Q) : Finds (x >>= g) Q := by
  intro b found
  obtain ⟨a, here, there⟩ := Option.bind_eq_some_iff.mp found
  exact next a (first a here) b there

theorem skip (next : ∀ a, Finds (g a) Q) : Finds (x >>= g) Q :=
  bind (P := fun _ => True) (fun _ _ => trivial) fun a _ => next a

theorem some {a : α} (holds : P a) : Finds (Option.some a) P := by
  rintro b ⟨⟩
  exact holds

theorem none : Finds (Option.none : Option α) P := nofun

theorem map {f : α → β} (each : Finds x fun a => Q (f a)) : Finds (x.map f) Q := by
  intro b found
  obtain ⟨a, here, rfl⟩ := Option.map_eq_some_iff.mp found
  exact each a here

theorem foldlM {f : α → β → Option α} {a : α} {bs : List β} (first : P a)
    (step : ∀ a b, P a → Finds (f a b) P) : Finds (bs.foldlM f a) P := by
  induction bs generalizing a with
  | nil => exact some first
  | cons b rest ih => exact bind (step a b first) fun _ holds => ih holds

theorem ite {c : Prop} [Decidable c] {y : Option α} (yes : Finds x P) (no : Finds y P) :
    Finds (if c then x else y) P := by
  split
  · exact yes
  · exact no

end Finds

namespace Reads

variable {α β : Type} {p : Parser α} {P : α → Prop} {Q : β → Prop}

theorem lift {x : Option α} (holds : Finds x P) : Reads (StateT.lift x) P := by
  intro ts a rest read
  obtain ⟨b, found, same⟩ := Option.bind_eq_some_iff.mp read
  cases same
  exact holds a found

theorem map {f : α → β} (each : Reads p fun a => Q (f a)) : Reads (f <$> p) Q := by
  intro ts b rest read
  obtain ⟨⟨a, between⟩, here, same⟩ := Option.bind_eq_some_iff.mp read
  cases same
  exact each ts a _ here

theorem commaList (each : Reads p P) (n : Nat) : Reads (Parser.commaList p n) fun r => ∀ a ∈ r.1, P a := by
  induction n with
  | zero => exact failure
  | succ n ih =>
    refine bind each fun a here => skip fun more => ite (bind (optionally ih) fun found others => ?_) ?_
    · split
      · exact pure (List.forall_mem_cons.mpr ⟨here, others _ rfl⟩)
      · exact pure (List.forall_mem_singleton.mpr here)
    · exact pure (List.forall_mem_singleton.mpr here)

theorem strictCommaList (each : Reads p P) (n : Nat) : Reads (Parser.strictCommaList p n) fun as => ∀ a ∈ as, P a :=
  bind (commaList each n) fun _ all => ite failure (pure all)

theorem chain {q : Parser β} {combine : α → β → α → α} (operand : Reads p P)
    (combined : ∀ l op r, P l → P r → P (combine l op r)) (n : Nat) {left : α} (first : P left) :
    Reads (Parser.chain p q combine n left) P := by
  induction n generalizing left with
  | zero => exact pure first
  | succ n ih =>
    have link : Reads (do let op ← q; let right ← p; Pure.pure (op, right)) fun l => P l.2 :=
      skip fun op => bind operand fun right here => pure here
    refine bind (optionally link) fun found last => ?_
    split
    · exact ih (combined _ _ _ first (last _ rfl))
    · exact pure first

end Reads

abbrev Rule.Pristine : (r : Rule) → r.Result → Prop
  | .expression | .disjunction | .inversion | .bitwiseOr | .factor | .primary => Expr.Pristine
  | .pattern => fun p => (Node.pattern p).Pristine
  | .block | .otherwise => fun b => ∀ s ∈ b, (Node.stmt s).Pristine

abbrev Argument.Pristine : Argument → Prop
  | .positional e | .spread e | .keyword _ e => e.Pristine

variable {n : Nat} {rules : Rules}

section Expressions

variable (good : ∀ r, Reads (rules r) r.Pristine)

include good

theorem namedExpression_pristine : Reads (namedExpression rules) Expr.Pristine := by
  refine .skip fun t => .skip fun u => ?_
  split
  · refine .skip fun _ => .skip fun _ => .bind (good .expression) fun value here => .pure ?_
    refine .of_targets rfl ?_ (by simp [Node.children, Expr.children, targets, here]) rfl
    have bound : Context.store ≠ .load := by decide
    simpa [targets] using Expr.fits_name bound _
  · exact good .expression

theorem orSpread_pristine {other : Parser Expr} (each : Reads other Expr.Pristine) :
    Reads (orSpread rules other) Expr.Pristine := by
  refine .skip fun found => .ite (.bind (good .bitwiseOr) fun value here => .pure ?_) each
  exact Expr.pristine_of rfl rfl (by simpa [Expr.children] using here)

theorem starNamedExpression_pristine : Reads (starNamedExpression rules) Expr.Pristine :=
  orSpread_pristine good (namedExpression_pristine good)

theorem starExpression_pristine : Reads (starExpression rules) Expr.Pristine :=
  orSpread_pristine good (good .expression)

omit good in
theorem tupled_pristine {values : List Expr} (each : ∀ e ∈ values, e.Pristine) (trailing : Bool) :
    (tupled values trailing).Pristine := by
  unfold tupled
  split
  · exact each _ List.mem_cons_self
  · exact Expr.pristine_tuple each

theorem starExpressions_pristine : Reads (starExpressions n rules) Expr.Pristine :=
  .bind (.commaList (starExpression_pristine good) n) fun _ each => .pure (tupled_pristine each _)

theorem yieldExpression_pristine : Reads (yieldExpression n rules) Expr.Pristine := by
  refine .skip fun _ => .skip fun found => .ite ?_ ?_
  · refine .bind (good .expression) fun value here => .pure (Expr.pristine_of rfl rfl ?_)
    simpa [Expr.children] using here
  · refine .bind (.optionally (starExpressions_pristine good)) fun value here => .pure (Expr.pristine_of rfl rfl ?_)
    simpa [Expr.children] using here

theorem assigned_pristine : Reads (assigned n rules) Expr.Pristine := by
  refine .skip fun next => ?_
  split
  · exact yieldExpression_pristine good
  · exact starExpressions_pristine good

theorem starTarget_fits (m : Nat) : Reads (starTarget rules m) (Expr.Fits .store) := by
  induction m with
  | zero => exact .failure
  | succ m ih =>
    refine .skip fun found => .ite (.bind ih fun inner here => .lift fun e turned => ?_) ?_
    · exact Expr.fits_of_turned (by decide) _ turned (Expr.fits_starred (by decide) here).sound
    · exact .bind (good .primary) fun e here => .lift fun t turned => Expr.fits_of_turned (by decide) e turned here.sound

theorem starTargets_fits : Reads (starTargets n rules) (Expr.Fits .store) := by
  refine .bind (.commaList (starTarget_fits good n) n) fun r each => .pure ?_
  split
  · rename_i same _
    rw [same] at each
    exact each _ List.mem_cons_self
  · exact Expr.fits_tuple (by decide) each

theorem comprehension_pristine : Reads (comprehension n rules) fun c => (Node.comprehension c).Pristine := by
  refine .skip fun isAsync => .skip fun _ => .bind (starTargets_fits good) fun target here => .skip fun _ => ?_
  refine .bind (good .disjunction) fun iter values => ?_
  refine .bind (.many (.skip fun _ => good .disjunction) n) fun ifs tests => .pure ?_
  refine .of_targets rfl (by simpa [targets] using here) ?_ rfl
  simpa [Node.children, targets, values] using fun e member => Or.inl (tests e member)

theorem comprehensions_pristine :
    Reads (comprehensions n rules) fun cs => ∀ c ∈ cs, (Node.comprehension c).Pristine := by
  refine .bind (comprehension_pristine good) fun first here => ?_
  exact .bind (.many (comprehension_pristine good) n) fun rest others => .pure (List.forall_mem_cons.mpr ⟨here, others⟩)

omit good in
theorem after_pristine {p : Parser Expr} (each : Reads p Expr.Pristine) (allowed : Bool) (s : Symbol) :
    Reads (after allowed s p) fun o => ∀ e ∈ o, e.Pristine := by
  have none : Reads (Pure.pure Option.none : Parser (Option Expr)) fun o => ∀ e ∈ o, e.Pristine :=
    .pure (by simp)
  refine .ite none (.skip fun found => .ite (.bind each fun e here => .pure ?_) none)
  rintro e ⟨⟩
  exact here

theorem param_pristine (annotated starAnnotated withDefault : Bool) :
    Reads (param rules annotated starAnnotated withDefault) Param.Pristine := by
  have hinted : Reads (if starAnnotated then starExpression rules else rules .expression) Expr.Pristine :=
    .ite (starExpression_pristine good) (good .expression)
  refine .skip fun id => .bind (after_pristine hinted _ _) fun hint here => ?_
  refine .bind (after_pristine (good .expression) _ _) fun default given => .pure ⟨.mk rfl rfl ?_, given⟩
  simpa [Node.children, Param.hint] using here

theorem kwargParam_pristine (annotated : Bool) : Reads (kwargParam rules annotated) Param.Pristine := by
  refine .skip fun _ => .bind (param_pristine good _ _ _) fun p here => .skip fun _ => .skip fun _ => ?_
  exact .ite (.pure here) .failure

theorem positional_pristine (annotated : Bool) :
    Reads (many (do
      let p ← param rules annotated false true
      paramComma annotated
      Pure.pure p) n) fun ps => ∀ p ∈ ps, p.Pristine :=
  .many (.bind (param_pristine good _ _ _) fun _ here => .skip fun _ => .pure here) n

theorem keywordParams_pristine (annotated : Bool) :
    Reads (keywordParams n rules annotated) fun r => (∀ p ∈ r.1, p.Pristine) ∧ ∀ p ∈ r.2, p.Pristine := by
  refine .bind (positional_pristine good annotated) fun params each => .skip fun _ => .ite ?_ ?_
  · exact .pure ⟨each, by simp⟩
  · exact .bind (kwargParam_pristine good annotated) fun p here => .pure ⟨each, by simpa using here⟩

theorem starParams_pristine (annotated : Bool) :
    Reads (starParams n rules annotated) fun r =>
      (∀ p ∈ r.1, p.Pristine) ∧ (∀ p ∈ r.2.1, p.Pristine) ∧ ∀ p ∈ r.2.2, p.Pristine := by
  refine .skip fun _ => .ite (.pure (by simp)) (.skip fun _ => .ite (.skip fun _ => .ite ?_ ?_) ?_)
  · refine .bind (keywordParams_pristine good annotated) fun r each => .ite .failure (.pure ?_)
    exact ⟨by simp, each⟩
  · refine .bind (param_pristine good _ _ _) fun vararg here => .skip fun _ => ?_
    refine .bind (keywordParams_pristine good annotated) fun r each => .pure ⟨?_, each⟩
    simpa using here
  · exact .bind (kwargParam_pristine good annotated) fun p here => .pure (by simpa using here)

omit good in
theorem Params.pristine_of {posOnly args kwOnly : List Param} {vararg kwarg : Option Param}
    (only : ∀ p ∈ posOnly, p.Pristine) (plain : ∀ p ∈ args, p.Pristine) (rest : ∀ p ∈ vararg, p.Pristine)
    (named : ∀ p ∈ kwOnly, p.Pristine) (others : ∀ p ∈ kwarg, p.Pristine) :
    (Node.params (.mk none posOnly args vararg kwOnly kwarg)).Pristine := by
  have default : ∀ p : Param, p.Pristine → ∀ e, p.default = some e → e.Pristine := fun p here e given => here.2 e given
  simp only [Option.mem_def] at rest others
  refine .mk rfl rfl fun c child => ?_
  simp only [Node.children, Params.children, Params.posOnly, Params.args, Params.vararg, Params.kwOnly, Params.kwarg,
    Params.positional, List.mem_append, List.mem_map, mem_ofExprs, List.mem_filterMap, Option.mem_toList] at child
  grind [Param.Pristine]

theorem params_pristine (annotated : Bool) : Reads (params n rules annotated) fun p => (Node.params p).Pristine := by
  have positional := positional_pristine good (n := n) annotated
  refine .bind positional fun before each => ?_
  refine .bind (P := fun r => (∀ p ∈ r.1, p.Pristine) ∧ ∀ p ∈ r.2, p.Pristine) (.ite (.pure (by simp)) ?_) ?_
  · refine .skip fun _ => .ite (.skip fun _ => .bind positional fun args plain => .pure ⟨each, plain⟩) (.pure ?_)
    exact ⟨by simp, each⟩
  · rintro ⟨posOnly, args⟩ ⟨only, plain⟩
    refine .ite (.skip fun _ => ?_) ?_
    all_goals
      refine .bind (starParams_pristine good annotated) fun _ each => .pure ?_
      exact Params.pristine_of only plain each.1 each.2.1 each.2.2

omit good in
theorem sortArguments_pristine {arguments : List Argument} {named spreads : Bool} {args : List Expr}
    {keywords : List Keyword} (each : ∀ a ∈ arguments, a.Pristine)
    (sorted : sortArguments arguments named spreads = some (args, keywords)) :
    (∀ e ∈ args, e.Pristine) ∧ ∀ k ∈ keywords, (Node.keyword k).Pristine := by
  induction arguments generalizing named spreads args keywords with
  | nil =>
    cases sorted
    simp
  | cons a rest ih =>
    rw [List.forall_mem_cons] at each
    cases a with
    | positional e =>
      rw [sortArguments] at sorted
      split at sorted
      · cases sorted
      · obtain ⟨⟨as, ks⟩, found, same⟩ := Option.map_eq_some_iff.mp sorted
        cases same
        obtain ⟨plain, others⟩ := ih each.2 found
        exact ⟨List.forall_mem_cons.mpr ⟨each.1, plain⟩, others⟩
    | spread e =>
      rw [sortArguments] at sorted
      split at sorted
      · cases sorted
      · obtain ⟨⟨as, ks⟩, found, same⟩ := Option.map_eq_some_iff.mp sorted
        cases same
        obtain ⟨plain, others⟩ := ih each.2 found
        refine ⟨List.forall_mem_cons.mpr ⟨Expr.pristine_of rfl rfl ?_, plain⟩, others⟩
        simpa [Expr.children] using each.1
    | keyword id e =>
      obtain ⟨⟨as, ks⟩, found, same⟩ := Option.map_eq_some_iff.mp sorted
      cases same
      obtain ⟨plain, others⟩ := ih each.2 found
      refine ⟨plain, List.forall_mem_cons.mpr ⟨.mk rfl rfl ?_, others⟩⟩
      simpa [Node.children, Keyword.value] using each.1

theorem argument_pristine : Reads (argument rules) Argument.Pristine := by
  refine .skip fun _ => .ite (.bind (good .expression) fun e here => .pure here) (.skip fun _ => .ite ?_ ?_)
  · exact .bind (good .expression) fun e here => .pure here
  · refine .skip fun t => .skip fun u => ?_
    split
    · exact .skip fun _ => .skip fun _ => .bind (good .expression) fun e here => .pure here
    · exact .bind (namedExpression_pristine good) fun e here => .pure here

theorem arguments_pristine :
    Reads (arguments n rules) fun r => (∀ e ∈ r.1, e.Pristine) ∧ ∀ k ∈ r.2, (Node.keyword k).Pristine := by
  refine .skip fun next => ?_
  split
  · exact .pure (by simp)
  · refine .bind (.commaList (argument_pristine good) n) fun args each => .lift fun r sorted => ?_
    exact sortArguments_pristine each sorted

theorem callTail_pristine {func : Expr} (callee : func.Pristine) : Reads (callTail n rules func) Expr.Pristine := by
  refine .skip fun _ => .ite (.pure (Expr.pristine_of rfl rfl (by simpa [Expr.children] using callee))) ?_
  refine .bind (argument_pristine good) fun first here => .skip fun ahead => ?_
  split
  · refine .bind (comprehensions_pristine good) fun generators clauses => .skip fun _ => .pure ?_
    have lone := Expr.pristine_of (e := .comp none .generator _ generators) rfl rfl (by
      simpa [Expr.children] using And.intro here clauses)
    exact Expr.pristine_of rfl rfl (by simp [Expr.children, callee, lone])
  · refine .bind (P := fun rest => ∀ a ∈ rest, a.Pristine) ?_ fun rest others => .skip fun _ => ?_
    · refine .skip fun _ => .ite (.skip fun _ => .ite (.pure (by simp)) ?_) (.pure (by simp))
      exact .bind (.commaList (argument_pristine good) n) fun r each => .pure each
    · refine .bind (.lift fun r sorted => sortArguments_pristine (List.forall_mem_cons.mpr ⟨here, others⟩) sorted) ?_
      rintro ⟨args, keywords⟩ ⟨plain, named⟩
      refine .pure (Expr.pristine_of rfl rfl ?_)
      simpa [Expr.children, callee, or_imp, forall_and] using And.intro plain named

theorem sliceBound_pristine : Reads (sliceBound rules) fun o => ∀ e ∈ o, e.Pristine := by
  refine .skip fun next => ?_
  split
  · exact .pure (by simp)
  · exact .pure (by simp)
  · exact .pure (by simp)
  · exact .map fun ts e rest read => by simpa using good .expression ts e rest read

theorem sliceTail_pristine {lower : Option Expr} (given : ∀ e ∈ lower, e.Pristine) :
    Reads (sliceTail rules lower) Expr.Pristine := by
  refine .skip fun _ => .bind (sliceBound_pristine good) fun upper above => ?_
  refine .bind (P := fun o => ∀ e ∈ o, e.Pristine) ?_ fun step beyond => .pure (Expr.pristine_of rfl rfl ?_)
  · exact .skip fun _ => .ite (sliceBound_pristine good) (.pure (by simp))
  · simpa [Expr.children, or_imp, forall_and] using And.intro given (And.intro above beyond)

theorem sliceItem_pristine : Reads (sliceItem rules) Expr.Pristine := by
  refine .skip fun next => ?_
  split
  · exact sliceTail_pristine good (by simp)
  · refine .skip fun _ => .bind (good .expression) fun e here => .pure (Expr.pristine_of rfl rfl ?_)
    simpa [Expr.children] using here
  · refine .skip fun _ => .bind (namedExpression_pristine good) fun e here => .skip fun _ => ?_
    have given : ∀ lower ∈ some e, lower.Pristine := by simpa using here
    have tail := sliceTail_pristine good given
    split
    · exact .ite .failure tail
    · exact tail
    · exact .pure here

theorem slices_pristine : Reads (slices n rules) Expr.Pristine := by
  refine .bind (.commaList (sliceItem_pristine good) n) fun r each => .pure ?_
  split
  · rename_i same _
    rw [same] at each
    split
    · exact Expr.pristine_tuple each
    · exact each _ List.mem_cons_self
  · exact Expr.pristine_tuple each

omit good in
theorem comp_pristine {kind : Collection} {elt : Expr} {generators : List Comprehension} (here : elt.Pristine)
    (clauses : ∀ c ∈ generators, (Node.comprehension c).Pristine) : (Expr.comp none kind elt generators).Pristine :=
  Expr.pristine_of rfl rfl (by simpa [Expr.children] using And.intro here clauses)

theorem parenthesised_pristine : Reads (parenthesised n rules) Expr.Pristine := by
  refine .skip fun _ => .ite (.pure (Expr.pristine_tuple (List.forall_mem_nil _))) (.skip fun _ => .ite ?_ ?_)
  · exact .bind (yieldExpression_pristine good) fun e here => .skip fun _ => .pure here
  · refine .bind (starNamedExpression_pristine good) fun first here => ?_
    refine .skip fun _ => .ite ?_ (.skip fun _ => .ite ?_ ?_)
    · refine .ite .failure (.bind (comprehensions_pristine good) fun generators clauses => .skip fun _ => .pure ?_)
      exact comp_pristine here clauses
    · refine .skip fun _ => .ite (.pure (Expr.pristine_tuple (List.forall_mem_singleton.mpr here))) ?_
      refine .bind (.commaList (starNamedExpression_pristine good) n) fun rest others => .skip fun _ => .pure ?_
      exact Expr.pristine_tuple (List.forall_mem_cons.mpr ⟨here, others⟩)
    · exact .ite .failure (.skip fun _ => .pure here)

theorem bracketed_pristine : Reads (bracketed n rules) Expr.Pristine := by
  refine .skip fun _ => .ite (.pure (Expr.pristine_list (List.forall_mem_nil _))) ?_
  refine .bind (starNamedExpression_pristine good) fun first here => .skip fun _ => .ite ?_ (.skip fun _ => .ite ?_ ?_)
  · refine .ite .failure (.bind (comprehensions_pristine good) fun generators clauses => .skip fun _ => .pure ?_)
    exact comp_pristine here clauses
  · refine .skip fun _ => .ite (.pure (Expr.pristine_list (List.forall_mem_singleton.mpr here))) ?_
    refine .bind (.commaList (starNamedExpression_pristine good) n) fun rest others => .skip fun _ => .pure ?_
    exact Expr.pristine_list (List.forall_mem_cons.mpr ⟨here, others⟩)
  · exact .skip fun _ => .pure (Expr.pristine_list (List.forall_mem_singleton.mpr here))

theorem dictItem_pristine : Reads (dictItem rules) DictItem.Pristine := by
  refine .skip fun _ => .ite (.bind (good .bitwiseOr) fun value here => .pure ⟨nofun, here⟩) ?_
  refine .bind (good .expression) fun key known => .skip fun _ => .bind (good .expression) fun value here => .pure ?_
  exact ⟨by rintro e ⟨⟩; exact known, here⟩

omit good in
theorem dict_pristine {items : List DictItem} (each : ∀ item ∈ items, item.Pristine) :
    (Expr.dict none items).Pristine := by
  refine Expr.pristine_of rfl rfl fun c child => ?_
  simp only [Expr.children, List.mem_append, mem_ofExprs, List.mem_filterMap, List.mem_map] at child
  obtain ⟨e, ⟨item, member, key⟩, rfl⟩ | ⟨e, ⟨item, member, rfl⟩, rfl⟩ := child
  · exact (each item member).1 e key
  · exact (each item member).2

theorem dictTail_pristine {first : DictItem} (here : first.Pristine) :
    Reads (dictTail n rules first) Expr.Pristine := by
  refine .bind (P := fun rest => ∀ item ∈ rest, item.Pristine) ?_ fun rest others => .skip fun _ => .pure ?_
  · refine .skip fun _ => .ite (.skip fun _ => .ite (.pure (by simp)) ?_) (.pure (by simp))
    exact .bind (.commaList (dictItem_pristine good) n) fun r each => .pure each
  · exact dict_pristine (List.forall_mem_cons.mpr ⟨here, others⟩)

theorem braced_pristine : Reads (braced n rules) Expr.Pristine := by
  refine .skip fun _ => .ite (.pure (dict_pristine (List.forall_mem_nil _))) ?_
  refine .skip fun _ => .ite ?_ (.skip fun _ => ?_)
  · exact .bind (dictItem_pristine good) fun first here => dictTail_pristine good here
  · refine .bind (starNamedExpression_pristine good) fun first here => ?_
    refine .skip fun _ => .ite ?_ (.skip fun _ => .ite ?_ ?_)
    · refine .ite .failure (.skip fun _ => .bind (good .expression) fun value given => .skip fun _ => .ite ?_ ?_)
      · refine .bind (comprehensions_pristine good) fun generators clauses => .skip fun _ => .pure ?_
        refine Expr.pristine_of rfl rfl ?_
        simpa [Expr.children] using And.intro here (And.intro given clauses)
      · have item : (DictItem.pair first value).Pristine := by
          refine ⟨?_, given⟩
          rintro e ⟨⟩
          exact here
        exact dictTail_pristine good item
    · refine .ite .failure (.bind (comprehensions_pristine good) fun generators clauses => .skip fun _ => .pure ?_)
      exact comp_pristine here clauses
    · refine .bind (P := fun rest => ∀ e ∈ rest, e.Pristine) ?_ fun rest others => .skip fun _ => .pure ?_
      · refine .skip fun _ => .ite (.skip fun _ => .ite (.pure (by simp)) ?_) (.pure (by simp))
        exact .bind (.commaList (starNamedExpression_pristine good) n) fun r each => .pure each
      · refine Expr.pristine_of rfl rfl ?_
        simpa [Expr.children, or_imp, forall_and] using And.intro here others

omit good in
theorem pieces_flush {pieces : FormatText.Pieces} (each : ∀ e ∈ pieces.values, e.Pristine) (marked : Bool) :
    ∀ e ∈ pieces.flush marked, e.Pristine := by
  unfold FormatText.Pieces.flush
  split
  · exact each
  · exact List.forall_mem_cons.mpr ⟨Expr.pristine_constant _, each⟩

omit good in
theorem joined_pristine {pieces : FormatText.Pieces} (each : ∀ e ∈ pieces.values, e.Pristine) (marked : Bool) :
    (Expr.joined none (pieces.flush marked).reverse).Pristine := by
  refine Expr.pristine_of rfl rfl ?_
  simpa [Expr.children] using pieces_flush each marked

omit good in
-- The induction is on the fuel, for the pieces on the same level as for those of a nested format.
theorem formatText_pristine {expr? : List Char → Option Expr} (embedded : ∀ cs, Finds (expr? cs) Expr.Pristine)
    (isRaw marked : Bool) (depth : Nat) (outermost : Bool) (fuel : Nat) {pieces : FormatText.Pieces} (cs : List Char)
    (each : ∀ e ∈ pieces.values, e.Pristine) :
    Finds (FormatText.parse expr? isRaw marked depth outermost fuel pieces cs) fun r =>
      ∀ e ∈ r.1.values, e.Pristine := by
  induction fuel generalizing depth outermost pieces cs with
  | zero => exact .none
  | succ fuel ih =>
    rw [FormatText.parse]
    refine .skip fun ⟨lit, stop, after⟩ => .skip fun points => ?_
    dsimp only
    split
    · exact ih _ _ _ each
    · exact .ite (.some each) .none
    · split
      · exact .ite .none (.some each)
      · rename_i depth _ body _
        refine .skip fun ⟨source, more⟩ => .ite .none (.bind (embedded _) fun value here => ?_)
        refine .skip fun ⟨conversion, unread⟩ => ?_
        refine .bind (P := fun r => ∀ e ∈ r.1, e.Pristine) ?_ fun ⟨spec, last⟩ format => ?_
        · split
          · refine .bind (ih _ _ _ (List.forall_mem_nil _)) fun ⟨inner, after⟩ parts => .some ?_
            rintro e ⟨⟩
            exact joined_pristine parts marked
          · exact .some nofun
        · split
          · refine ih _ _ _ (List.forall_mem_cons.mpr ⟨Expr.pristine_of rfl rfl ?_, ?_⟩)
            · simpa [Expr.children, here] using format
            · refine pieces_flush ?_ marked
              exact each
          · exact .none
      · exact .none

omit good in
theorem join_pristine {expr? : List Char → Option Expr} (embedded : ∀ cs, Finds (expr? cs) Expr.Pristine)
    (texts : List RawText) : Finds (FormatText.join expr? texts) Expr.Pristine := by
  unfold FormatText.join
  split
  · exact .none
  · refine .ite (.map fun parts _ => Expr.pristine_constant _) (.ite .none (.map fun pieces found => ?_))
    have each : ∀ e ∈ pieces.values, e.Pristine := by
      refine Finds.foldlM (P := fun pieces => ∀ e ∈ pieces.values, e.Pristine) (List.forall_mem_nil _) ?_ pieces found
      intro pieces text each
      exact .ite (.map (formatText_pristine embedded _ _ _ _ _ _ each)) (.map fun points _ => each)
    split
    · exact joined_pristine each _
    · exact Expr.pristine_constant _

theorem embeddedExpression_pristine (cs : List Char) : Finds (embeddedExpression n rules cs) Expr.Pristine :=
  .skip fun tokens => .bind (fun r read => starExpressions_pristine good tokens r.1 r.2 read) fun _ here => .some here

theorem texts_pristine : Reads (texts n rules) Expr.Pristine :=
  .skip fun _ => .skip fun _ => .lift (join_pristine (embeddedExpression_pristine good) _)

theorem atom_pristine : Reads (atom n rules) Expr.Pristine := by
  intro ts e rest read
  unfold atom at read
  split at read
  · cases read
    exact Expr.pristine_name _
  · cases read
    exact Expr.pristine_constant _
  · exact texts_pristine good _ _ _ read
  · cases read
    exact Expr.pristine_constant _
  · cases read
    exact Expr.pristine_constant _
  · cases read
    exact Expr.pristine_constant _
  · cases read
    exact Expr.pristine_constant _
  · exact parenthesised_pristine good _ _ _ read
  · exact bracketed_pristine good _ _ _ read
  · exact braced_pristine good _ _ _ read
  · cases read

theorem trailers_pristine (m : Nat) {e : Expr} (here : e.Pristine) : Reads (trailers n rules m e) Expr.Pristine := by
  induction m generalizing e with
  | zero => exact .pure here
  | succ m ih =>
    refine .skip fun next => ?_
    split
    · refine .skip fun _ => .skip fun attr => ih (Expr.pristine_of rfl rfl ?_)
      simpa [Expr.children] using here
    · exact .skip fun _ => .bind (callTail_pristine good here) fun e made => ih made
    · refine .skip fun _ => .bind (slices_pristine good) fun index key => .skip fun _ => ?_
      refine ih (Expr.pristine_of rfl rfl ?_)
      simpa [Expr.children] using And.intro here key
    · exact .pure here

theorem primary_pristine : Reads (primary n rules) Expr.Pristine :=
  .bind (atom_pristine good) fun _ here => trailers_pristine good n here

omit good in
theorem binOp_pristine (l : Expr) (op : BinaryOp) (r : Expr) (left : l.Pristine) (right : r.Pristine) :
    (Expr.binOp none l op r).Pristine :=
  Expr.pristine_of rfl rfl (by simp [Expr.children, left, right])

omit good in
theorem unaryOp_pristine (op : UnaryOp) {e : Expr} (here : e.Pristine) : (Expr.unaryOp none op e).Pristine :=
  Expr.pristine_of rfl rfl (by simp [Expr.children, here])

theorem power_pristine : Reads (power n rules) Expr.Pristine := by
  refine .bind (P := Expr.Pristine) (.skip fun _ => .ite ?_ (primary_pristine good)) fun base here => ?_
  · refine .bind (good .primary) fun e here => .pure (Expr.pristine_of rfl rfl ?_)
    simpa [Expr.children] using here
  · refine .skip fun _ => .ite (.bind (good .factor) fun e there => .pure ?_) (.pure here)
    exact binOp_pristine _ _ _ here there

theorem factor_pristine : Reads (factor n rules) Expr.Pristine := by
  refine .skip fun next => ?_
  split
  · exact .skip fun _ => .bind (good .factor) fun e here => .pure (unaryOp_pristine _ here)
  · exact .skip fun _ => .bind (good .factor) fun e here => .pure (unaryOp_pristine _ here)
  · exact .skip fun _ => .bind (good .factor) fun e here => .pure (unaryOp_pristine _ here)
  · exact power_pristine good

omit good in
theorem leftAssociative_pristine {table : List (Symbol × BinaryOp)} {operand : Parser Expr}
    (each : Reads operand Expr.Pristine) : Reads (leftAssociative n table operand) Expr.Pristine :=
  .bind each fun _ here => .chain each binOp_pristine n here

-- The six levels of binary operators.
theorem bitwiseOr_pristine : Reads (bitwiseOr n rules) Expr.Pristine :=
  leftAssociative_pristine <| leftAssociative_pristine <| leftAssociative_pristine <| leftAssociative_pristine <|
    leftAssociative_pristine <| leftAssociative_pristine (factor_pristine good)

theorem comparison_pristine : Reads (comparison n rules) Expr.Pristine := by
  have link : Reads (do let op ← compareOp; let right ← bitwiseOr n rules; Pure.pure (op, right))
      fun l => l.2.Pristine :=
    .skip fun _ => .bind (bitwiseOr_pristine good) fun _ here => .pure here
  refine .bind (bitwiseOr_pristine good) fun left here => .bind (.many link n) fun links others => .pure ?_
  split
  · exact here
  · refine Expr.pristine_of rfl rfl fun c child => ?_
    simp only [Expr.children, List.cons_append, List.mem_cons, List.mem_append, List.mem_map, mem_ofExprs] at child
    obtain rfl | ⟨op, -, rfl⟩ | ⟨e, ⟨link, member, rfl⟩, rfl⟩ := child
    · exact here
    · exact pristine_mark _
    · exact others link member

theorem inversion_pristine : Reads (inversion n rules) Expr.Pristine := by
  refine .skip fun _ => .ite (.bind (good .inversion) fun e here => .pure ?_) (comparison_pristine good)
  exact unaryOp_pristine _ here

omit good in
theorem logical_pristine {w : Word} {op : BoolOp} {operand : Parser Expr} (each : Reads operand Expr.Pristine) :
    Reads (logical n w op operand) Expr.Pristine := by
  refine .bind each fun first here => .bind (.many (.skip fun _ => each) n) fun rest others => .pure ?_
  split
  · exact here
  · refine Expr.pristine_of rfl rfl ?_
    simpa [Expr.children, or_imp, forall_and] using And.intro here others

theorem disjunction_pristine : Reads (disjunction n rules) Expr.Pristine :=
  logical_pristine (logical_pristine (inversion_pristine good))

theorem expression_pristine : Reads (expression n rules) Expr.Pristine := by
  refine .skip fun _ => .ite ?_ (.bind (disjunction_pristine good) fun body here => ?_)
  · refine .bind (params_pristine good false) fun ps listed => .skip fun _ => .bind (good .expression) fun e here => ?_
    exact .pure (Expr.pristine_of rfl rfl (by simp [Expr.children, listed, here]))
  · refine .bind (.optionally (P := Expr.Pristine) ?_) fun choice chosen => .pure ?_
    · refine .skip fun _ => .bind (disjunction_pristine good) fun test tested => .skip fun _ => ?_
      refine .bind (good .expression) fun orelse other => .pure (Expr.pristine_of rfl rfl ?_)
      simp [Expr.children, tested, here, other]
    · cases choice with
      | none => exact here
      | some e => exact chosen e rfl

end Expressions

end Parser

end Whittle
