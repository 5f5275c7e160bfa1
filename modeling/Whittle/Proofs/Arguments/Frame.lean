import Whittle.Proofs.Arguments.SecondRun
import Whittle.Proofs.Syntax.Form

namespace Whittle

namespace ExtraArguments

-- The callee is a method that is reached through `super(...)` or `type(...)`.
def IsThroughCall (func : Expr) : Prop :=
  ∃ l value attr ctx, func = .attribute l value attr ctx ∧ value.callsName ["super", "type"]

-- The call has more than `limit` arguments, and that is the most that the signatures of its callee take.
structure Exceeds (func : Expr) (args : List Expr) (callee : Option Callee) (limit : Nat) : Prop where
  more : limit < args.length
  unspread : ∀ l value ctx, .starred l value ctx ∉ args
  direct : ¬IsThroughCall func
  known : ∃ c, callee = some c ∧ (∀ name members, c ≠ .union name members) ∧ c.variants ≠ [] ∧
    (∀ v ∈ c.variants, v.isVariadic = false ∧ v.parameters.length ≤ limit) ∧
    ∃ v ∈ c.variants, v.parameters.length = limit

-- The call is reached, and what it refers to then takes at most `limit` arguments.
def CutsTo (ns : Namespace) (before : Step) (above : List Node) (func : Expr) (args : List Expr) (limit : Nat) : Prop :=
  before.failure = none ∧
    ∃ callee, ns.resolve before.draft.cuts above func = .ok callee ∧ Exceeds func args callee limit

theorem isIndirect_iff (ns : Namespace) (func : Expr) : isIndirect ns func ↔ IsThroughCall func := by
  cases func with
  | «attribute» l value attr ctx =>
    have through : IsThroughCall (.attribute l value attr ctx) ↔ value.callsName ["super", "type"] := by
      refine ⟨?_, fun calls => ⟨l, value, attr, ctx, rfl, calls⟩⟩
      rintro ⟨_, _, _, _, same, calls⟩
      cases same
      exact calls
    rw [through]
    cases value with
    | name => simp [isIndirect, Expr.callsName]
    | call l' callee args keywords =>
      cases calls : (Expr.call l' callee args keywords).callsName ["super", "type"] <;>
        simp [isIndirect, Namespace.kindOf, calls]
    | _ => exact iff_of_false Bool.false_ne_true Bool.false_ne_true
  | _ =>
    refine iff_of_false Bool.false_ne_true ?_
    rintro ⟨_, _, _, _, same, -⟩
    cases same

theorem most_spec {variants : List Variant} (some : variants ≠ []) :
    (∀ v ∈ variants, v.parameters.length ≤ most variants) ∧ ∃ v ∈ variants, v.parameters.length = most variants := by
  have fold : ∀ (vs : List Variant) (start : Nat),
      let top := vs.foldl (fun n v => max n v.parameters.length) start
      start ≤ top ∧ (∀ v ∈ vs, v.parameters.length ≤ top) ∧ (top = start ∨ ∃ v ∈ vs, v.parameters.length = top) := by
    intro vs
    induction vs with
    | nil => exact fun start => ⟨Nat.le_refl _, List.forall_mem_nil _, .inl rfl⟩
    | cons v rest ih =>
      intro start
      obtain ⟨least, all, attained⟩ := ih (max start v.parameters.length)
      refine ⟨Nat.le_trans (Nat.le_max_left ..) least, List.forall_mem_cons.mpr ⟨?_, all⟩, ?_⟩
      · exact Nat.le_trans (Nat.le_max_right ..) least
      · obtain same | ⟨u, member, length⟩ := attained
        · simp only [List.foldl_cons, List.mem_cons, exists_eq_or_imp, same]
          omega
        · exact .inr ⟨u, List.mem_cons_of_mem _ member, length⟩
  obtain ⟨-, all, attained⟩ := fold variants 0
  refine ⟨all, attained.elim (fun zero => ?_) id⟩
  obtain ⟨v, rest, rfl⟩ := List.exists_cons_of_ne_nil some
  refine ⟨v, List.mem_cons_self, ?_⟩
  have bound := all v List.mem_cons_self
  rw [most]
  omega

theorem limit_iff (c : Callee) (limit : Nat) :
    limit? c = some limit ↔ (∀ name members, c ≠ .union name members) ∧ c.variants ≠ [] ∧
      (∀ v ∈ c.variants, v.isVariadic = false ∧ v.parameters.length ≤ limit) ∧
      ∃ v ∈ c.variants, v.parameters.length = limit := by
  have plain : (if c.variants.isEmpty || c.variants.any Variant.isVariadic then none else some (most c.variants)) =
        some limit ↔ c.variants ≠ [] ∧ (∀ v ∈ c.variants, v.isVariadic = false ∧ v.parameters.length ≤ limit) ∧
          ∃ v ∈ c.variants, v.parameters.length = limit := by
    by_cases some : c.variants = []
    · simp [some]
    · obtain ⟨all, u, member, length⟩ := most_spec some
      by_cases variadic : c.variants.any Variant.isVariadic
      · obtain ⟨v, inside, takesMore⟩ := List.any_eq_true.mp variadic
        simp only [variadic, Bool.or_true, if_true, reduceCtorEq, false_iff]
        rintro ⟨-, bounded, -⟩
        simp [(bounded v inside).1] at takesMore
      · have fixed : ∀ v ∈ c.variants, v.isVariadic = false := by simpa using variadic
        have given : c.variants.isEmpty = false := by simpa using some
        simp only [given, eq_false_of_ne_true variadic, Bool.or_self, Bool.false_eq_true, if_false, Option.some.injEq]
        constructor
        · rintro rfl
          exact ⟨some, fun v inside => ⟨fixed v inside, all v inside⟩, u, member, length⟩
        · rintro ⟨-, bounded, v, inside, reached⟩
          exact Nat.le_antisymm (length ▸ (bounded u member).2) (reached ▸ all v inside)
  cases c with
  | union name members => simp [limit?]
  | _ => simpa [limit?] using plain

theorem isSpread_iff (e : Expr) : isSpread e ↔ ∃ l value ctx, e = .starred l value ctx := by
  cases e <;> simp [isSpread]

theorem isUncountable_iff (args : List Expr) :
    isUncountable args ↔ args = [] ∨ ∃ l value ctx, .starred l value ctx ∈ args := by
  simp only [isUncountable, Bool.or_eq_true, List.isEmpty_iff, List.any_eq_true, isSpread_iff]
  refine or_congr_right ⟨?_, ?_⟩
  · rintro ⟨e, member, l, value, ctx, rfl⟩
    exact ⟨l, value, ctx, member⟩
  · rintro ⟨l, value, ctx, member⟩
    exact ⟨_, member, l, value, ctx, rfl⟩

-- The code asks whether the arguments forbid a cut before it looks at the callee.
theorem excess_iff {ns : Namespace} {cuts : Cuts} {above : List Node} {func : Expr} {args : List Expr} {limit : Nat} :
    excess? ns cuts above func args = .ok (some limit) ↔
      ∃ callee, ns.resolve cuts above func = .ok callee ∧ Exceeds func args callee limit := by
  rw [excess?]
  split
  · rename_i forbidden
    simp only [Except.ok.injEq, reduceCtorEq, false_iff]
    rintro ⟨callee, -, more, unspread, direct, -⟩
    rw [Bool.or_eq_true, isUncountable_iff, isIndirect_iff] at forbidden
    obtain (rfl | ⟨l, value, ctx, member⟩) | through := forbidden
    · exact Nat.not_lt_zero _ more
    · exact unspread l value ctx member
    · exact direct through
  · rename_i allowed
    rw [Bool.or_eq_true, isUncountable_iff, isIndirect_iff] at allowed
    push Not at allowed
    obtain ⟨⟨-, unspread⟩, direct⟩ := allowed
    cases ns.resolve cuts above func with
    | error e => simp [bind, Except.bind]
    | ok callee =>
      change Except.ok ((callee.bind limit?).filter (· < args.length)) = .ok (some limit) ↔ _
      simp only [Except.ok.injEq, exists_eq_left', Option.filter_eq_some_iff, Option.bind_eq_some_iff, limit_iff,
        decide_eq_true_eq]
      constructor
      · rintro ⟨known, more⟩
        exact ⟨more, unspread, direct, known⟩
      · intro exceeds
        exact ⟨exceeds.known, exceeds.more⟩

end ExtraArguments

namespace ActiveRule

theorem traverse_append (ns : Namespace) (front back : List Node.Located) (rules : List ActiveRule) (d : Draft) :
    traverse ns (front ++ back) rules d =
      let s := traverse ns front rules d
      if s.failure.isSome then s else traverse ns back s.rules s.draft := by
  induction front generalizing rules d with
  | nil => rfl
  | cons x rest ih =>
    rw [List.cons_append, traverse, traverse, ih]
    split
    · rename_i failed
      simp only [failed, if_true]
    · rfl

variable (ns : Namespace) {xs : List Node.Located} (changes : Nat) (d : Draft)

-- The state after a traversal: nothing but the count and the cuts has changed, whether or not a step failed.
theorem exists_traversed (xs : List Node.Located) :
    ∃ counted cuts failure, traverse ns xs [⟨.extraArguments, changes⟩] d =
      ⟨[⟨.extraArguments, counted⟩], { d with cuts := cuts }, failure⟩ := by
  induction xs generalizing changes d with
  | nil => exact ⟨changes, d.cuts, none, rfl⟩
  | cons x rest ih =>
    rw [traverse, visitAll_calls]
    cases x.cut? ns d.cuts with
    | error e => exact ⟨_, _, _, rfl⟩
    | ok made =>
      cases made with
      | none => exact ih _ _
      | some made => exact ih _ _

theorem lookup_traverse {k : Nat} (other : some k ∉ xs.flatMap fun x => x.node.ownLabels) :
    (traverse ns xs [⟨.extraArguments, changes⟩] d).draft.cuts.lookup k = d.cuts.lookup k := by
  induction xs generalizing changes d with
  | nil => rfl
  | cons x rest ih =>
    rw [List.flatMap_cons, List.mem_append, not_or] at other
    rw [traverse, visitAll_calls]
    cases judged : x.cut? ns d.cuts with
    | error e => rfl
    | ok made =>
      cases made with
      | none => exact ih _ _ other.2
      | some made =>
        have different : k ≠ made.1 := fun same => other.1 (same ▸ Visits.label_of_cut judged)
        refine (ih _ _ other.2).trans ?_
        rw [List.lookup_cons, beq_false_of_ne different]

variable {ns changes d}

-- A call is looked at once, and by what the visits before it have left.
theorem lookup_of_call {front back : List Node.Located} {x : Node.Located}
    (distinct : ((front ++ x :: back).flatMap fun x => x.node.ownLabels).Nodup) {k : Nat} {func : Expr}
    {args : List Expr} {keywords : List Keyword} (call : x.node = .expr (.call (some k) func args keywords))
    (fresh : d.cuts.lookup k = none) (limit : Nat) :
    (traverse ns (front ++ x :: back) [⟨.extraArguments, changes⟩] d).draft.cuts.lookup k = some limit ↔
      ExtraArguments.CutsTo ns (traverse ns front [⟨.extraArguments, changes⟩] d) x.ancestors func args limit := by
  have own : some k ∈ x.node.ownLabels := by
    rw [call]
    exact List.mem_singleton.mpr rfl
  rw [List.flatMap_append, List.flatMap_cons] at distinct
  have earlier : some k ∉ front.flatMap fun x => x.node.ownLabels := fun met =>
    List.disjoint_of_nodup_append distinct met (List.mem_append_left _ own)
  have later : some k ∉ back.flatMap fun x => x.node.ownLabels := fun met =>
    List.disjoint_of_nodup_append distinct.of_append_right own met
  have uncut := (lookup_traverse ns changes d earlier).trans fresh
  obtain ⟨counted, cuts, outcome, state⟩ := exists_traversed ns changes d front
  rw [traverse_append, ExtraArguments.CutsTo, ← ExtraArguments.excess_iff]
  simp only [state] at uncut ⊢
  cases outcome with
  | some f => simp [uncut]
  | none =>
    simp only [Option.isSome_none, Bool.false_eq_true, if_false, true_and]
    rw [traverse, visitAll_calls]
    cases judged : x.cut? ns cuts with
    | error e =>
      have refused : ExtraArguments.excess? ns cuts x.ancestors func args ≠ .ok (some limit) := by
        intro excess
        rw [Node.Located.cut?, call] at judged
        simp [ExtraArguments.cut_eq_excess, Cuts.keep, uncut, excess, Except.map] at judged
      simp [uncut, refused]
    | ok made =>
      rw [Visits.excess_of_judged call uncut judged]
      cases made with
      | none =>
        have kept : (traverse ns back _ _).draft.cuts.lookup k = none :=
          (lookup_traverse ns counted { d with cuts := cuts } later).trans uncut
        simp [kept]
      | some made =>
        have label := Visits.label_of_cut judged
        rw [call] at label
        obtain rfl : made.1 = k := Option.some.inj (List.mem_singleton.mp label)
        have kept : (traverse ns back _ _).draft.cuts.lookup made.1 = some made.2 :=
          (lookup_traverse ns (counted + 1) { d with cuts := made :: cuts } later).trans List.lookup_cons_self
        simp [kept]

end ActiveRule

theorem Cuts.keep_eq (cuts : Cuts) {k : Nat} {args : List Expr} :
    (∀ limit, cuts.lookup k = some limit → cuts.keep (some k) args = args.take limit) ∧
      ((∀ limit, cuts.lookup k ≠ some limit) → cuts.keep (some k) args = args) := by
  cases found : cuts.lookup k with
  | none => simp [keep, found]
  | some n => simp [keep, found]

-- What is left of a call: its callee and keywords, and of its arguments those that are kept.
theorem Expr.cut_call (cuts : Cuts) (l : Label) (func : Expr) (args : List Expr) (keywords : List Keyword) :
    (Expr.call l func args keywords).cut cuts =
      .call l (func.cut cuts) ((cuts.keep l args).map (Expr.cut cuts)) (cutKeywords cuts keywords) := by
  have each : ∀ es : List Expr, cutExprs cuts es = es.map (Expr.cut cuts) := by
    intro es
    induction es with
    | nil => rfl
    | cons e rest ih => rw [cutExprs, ih, List.map_cons]
  rw [Expr.cut, each, Cuts.keep_map]

namespace Engine

-- Calls lose their last arguments and nothing else is touched; which calls and how many is decided as each is visited.
theorem calls_shortened (changes : Nat) (ambient : Ambient) (m : Module) :
    let s := (onCalls changes ambient).inspect m.number
    let cuts := s.draft.cuts
    (m.isFull → finish m.number s.draft = .ok (m.number.cut cuts)) ∧
    (Node.module m.number).Shortened cuts (.module (m.number.cut cuts)) ∧
    ∀ (front back : List Node.Located) (x : Node.Located) (l : Label) (func : Expr) (args : List Expr)
      (keywords : List Keyword), (Node.module m.number).located = front ++ x :: back →
      x.node = .expr (.call l func args keywords) →
      let ns := Namespace.ofModule m.number
      let before := ActiveRule.traverse ns front [⟨.extraArguments, 0⟩] { ambient := ambient }
      (Expr.call l func args keywords).cut cuts =
        .call l (func.cut cuts) ((cuts.keep l args).map (Expr.cut cuts)) (cutKeywords cuts keywords) ∧
      (∀ limit, ExtraArguments.CutsTo ns before x.ancestors func args limit → cuts.keep l args = args.take limit) ∧
      ((∀ limit, ¬ExtraArguments.CutsTo ns before x.ancestors func args limit) → cuts.keep l args = args) := by
  intro s cuts
  refine ⟨fun full => ?_, Module.shortened_cut cuts m.number, ?_⟩
  · obtain ⟨counted, made, failure, state⟩ := ActiveRule.exists_traversed (.ofModule m.number) 0 { ambient := ambient }
      (Node.module m.number).located
    have draft : s.draft = { ambient := ambient, cuts := made } := congrArg Step.draft state
    simp only [cuts, draft]
    exact finish_onCalls (by rwa [Module.isFull_number]) made
  · intro front back x l func args keywords order call ns before
    have member : x ∈ (Node.module m.number).located := by
      rw [order]
      exact List.mem_append_right _ List.mem_cons_self
    obtain ⟨k, rfl⟩ : ∃ k, l = some k := Module.label_of_located member (by rw [call]; exact List.mem_singleton.mpr rfl)
    have labels := m.walk_labels_nodup
    rw [← Node.map_node_located, List.flatMap_map, order] at labels
    have decided : ∀ limit,
        cuts.lookup k = some limit ↔ ExtraArguments.CutsTo ns before x.ancestors func args limit := by
      intro limit
      rw [← ActiveRule.lookup_of_call labels call rfl limit, ← order]
      rfl
    simp only [← decided]
    exact ⟨Expr.cut_call cuts _ func args keywords, cuts.keep_eq⟩

-- In `id(0, len(0, id := 0))` the inner call loses its second argument; the outer one keeps both, for `id` is bound.
theorem calls_shortened_nested :
    let s := (onCalls 0 ⟨.ok .null, 0⟩).inspect rebinding.number
    let zero (k : Nat) := Expr.constant (some k) (.int 0)
    let bound := Expr.namedExpr (some 7) (.name (some 8) "id" .store) (zero 9)
    let inner (args : List Expr) := Expr.call (some 4) (.name (some 5) "len" .load) args []
    let outer (args : List Expr) := Expr.call (some 1) (.name (some 2) "id" .load) args []
    let whole (value : Expr) : Module := ⟨[.simple (some 0) (.expr value)]⟩
    rebinding.number = whole (outer [zero 3, inner [zero 6, bound]]) ∧
      (Node.module rebinding.number).Shortened s.draft.cuts (.module (whole (outer [zero 3, inner [zero 6]]))) ∧
      finish rebinding.number s.draft = .ok (whole (outer [zero 3, inner [zero 6]])) := by
  intro s zero bound inner outer whole
  obtain ⟨finished, shortened, calls⟩ := calls_shortened 0 ⟨.ok .null, 0⟩ rebinding
  let nodes := (Node.module rebinding.number).located
  have cutInner : (inner [zero 6, bound]).cut s.draft.cuts = inner [zero 6] := by
    obtain ⟨left, cutTo, -⟩ := calls (nodes.take 6) (nodes.drop 7) (nodes.get ⟨6, by decide⟩) _ _ _ [] rfl rfl
    refine left.trans ?_
    rw [cutTo 1 ⟨?_, ?_⟩]
    · rfl
    · exact Option.isNone_iff_eq_none.mp (by decide +kernel)
    · exact ExtraArguments.excess_iff.mp (by decide +kernel)
  have cutOuter : (outer [zero 3, inner [zero 6, bound]]).cut s.draft.cuts =
      outer [zero 3, (inner [zero 6, bound]).cut s.draft.cuts] := by
    obtain ⟨left, -, whole⟩ := calls (nodes.take 2) (nodes.drop 3) (nodes.get ⟨2, by decide⟩) _ _ _ [] rfl rfl
    refine left.trans ?_
    rw [whole ?_]
    · rfl
    · rintro limit ⟨-, known⟩
      have nothing : Except.ok (some limit) = .ok none :=
        (ExtraArguments.excess_iff.mpr known).symm.trans (by decide +kernel)
      cases nothing
  have result : rebinding.number.cut s.draft.cuts = whole (outer [zero 3, inner [zero 6]]) :=
    congrArg whole (cutOuter.trans (congrArg (fun e => outer [zero 3, e]) cutInner))
  rw [← result]
  exact ⟨rfl, shortened, finished (by decide)⟩

end Engine

end Whittle
