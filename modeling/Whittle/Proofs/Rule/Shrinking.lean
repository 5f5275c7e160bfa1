import Whittle.Proofs.Rule.Creation
import Whittle.Proofs.Rule.Independence
import Whittle.Proofs.Syntax.Weight

namespace Whittle

namespace Node

def isCondition : Node → Bool
  | .stmt (.ifElse ..) => true
  | _ => false

def positionals : Node → Nat
  | .expr (.call _ _ args _) => args.length
  | _ => 0

theorem isCondition_trim (cuts : Cuts) (f : Label → Label) (n : Node) :
    (n.trim cuts f).isCondition = n.isCondition := by
  cases n with
  | stmt s => cases s <;> rfl
  | _ => rfl

theorem positionals_trim (cuts : Cuts) (f : Label → Label) (n : Node) :
    (n.trim cuts f).positionals + (n.dropped cuts).length = n.positionals := by
  cases n with
  | expr e =>
    cases e with
    | call l func args keywords =>
      have kept : (cuts.keep l (trimExprs cuts f args)).length = (cuts.keep l args).length := by
        rw [trimExprs_eq, Cuts.keep_map, List.length_map]
      have dropped : (ofExprs (cuts.drop l args)).length = (cuts.drop l args).length := List.length_map _
      have whole := congrArg List.length (cuts.keep_append_drop l args)
      rw [List.length_append] at whole
      change (cuts.keep l (trimExprs cuts f args)).length + (ofExprs (cuts.drop l args)).length = args.length
      rw [kept, dropped, whole]
    | _ => rfl
  | _ => rfl

theorem fault_trim (cuts : Cuts) (f : Label → Label) (n : Node) : (n.trim cuts f).fault? = n.fault? := by
  cases n with
  | param p =>
    cases p with
    | mk l name hint default =>
      cases hint with
      | none => rfl
      | some e => simp only [Node.trim, Param.trim, trimOption, fault?, Param.fault?, Param.hint, Option.bind_some,
          TypeHint.names_trim]
  | _ => rfl

end Node

-- The number of conditions and the number of positional arguments of all calls, together.
def Module.measure (m : Module) : Nat :=
  (Node.module m).walk.countP Node.isCondition + ((Node.module m).walk.map Node.positionals).sum

namespace Weight

def reducible : Weight where
  of n := (if n.isCondition then 1 else 0) + n.positionals
  relabel f n := by
    have same := n.positionals_trim [] f
    rw [n.dropped_nil, List.length_nil] at same
    rw [Node.isCondition_trim, ← same]
    rfl
  trim_le cuts f n := by
    have less := n.positionals_trim cuts f
    rw [Node.isCondition_trim]
    omega
  stmt f s := by cases s <;> rfl
  handler f h := rfl
  case f c := rfl
  module m := rfl
  filler := rfl

-- Counts the annotations that cannot be read.
def refused : Weight where
  of n := if n.fault?.isSome then 1 else 0
  relabel f n := by rw [Node.fault_trim]
  trim_le cuts f n := by rw [Node.fault_trim]
  stmt f s := rfl
  handler f h := rfl
  case f c := rfl
  module m := rfl
  filler := rfl

end Weight

theorem Module.measure_eq (m : Module) : m.measure = Weight.reducible.total (.module m) := by
  have counted : ∀ nodes : List Node, nodes.countP Node.isCondition + (nodes.map Node.positionals).sum =
      (nodes.map Weight.reducible.of).sum := by
    intro nodes
    induction nodes with
    | nil => rfl
    | cons n rest ih =>
      rw [List.countP_cons, List.map_cons, List.sum_cons, List.map_cons, List.sum_cons, ← ih]
      simp only [Weight.reducible]
      omega
  exact counted _

theorem Module.isReadable_iff (m : Module) : m.isReadable ↔ Weight.refused.total (.module m) = 0 := by
  rw [isReadable, List.all_eq_true, Weight.total, List.sum_eq_zero_iff]
  simp [Weight.refused]

-- A pass that does not fail decides some conditions and cuts some calls, and counts a change if there are any.
structure Engine.Decides (e : Engine) (m : Module) (v : Verdicts) (cuts : Cuts) : Prop where
  calm : (e.inspect m.number).failure = none
  rules : (e.inspect m.number).rules.map ActiveRule.rule = e.rules.map ActiveRule.rule
  draft : (e.inspect m.number).draft =
    { ambient := e.ambient, edits := .ofGuards (m.number.guards v), cuts := cuts }
  idle : applied (e.inspect m.number).rules = [] ↔ m.number.guards v = [] ∧ cuts = []
  blind : v.Blind
  made : cuts = [] ∨ Visits (.ofModule m.number) (Node.module m.number).located [] cuts

theorem Visits.exists_caller {ns : Namespace} {xs : List Node.Located} {start final : Cuts}
    (visits : Visits ns xs start final) {k n : Nat} (member : (k, n) ∈ final) :
    (k, n) ∈ start ∨ ∃ x ∈ xs, ∃ func args keywords, x.node = .expr (.call (some k) func args keywords) := by
  induction visits with
  | done => exact .inl member
  | keep _ _ ih =>
    obtain before | ⟨x, later, call⟩ := ih member
    · exact .inl before
    · exact .inr ⟨x, List.mem_cons_of_mem _ later, call⟩
  | @cut x rest cuts final made judged _ ih =>
    obtain before | ⟨x, later, call⟩ := ih member
    · obtain rfl | before := List.mem_cons.mp before
      · refine .inr ⟨x, List.mem_cons_self, ?_⟩
        unfold Node.Located.cut? at judged
        split at judged
        · rename_i l func args keywords call
          cases ExtraArguments.label_of_cut judged
          exact ⟨func, args, keywords, call⟩
        · cases judged
      · exact .inl before
    · exact .inr ⟨x, List.mem_cons_of_mem _ later, call⟩

theorem ExtraArguments.lt_of_excess {ns : Namespace} {cuts : Cuts} {above : List Node} {func : Expr} {args : List Expr}
    {n : Nat} (excess : excess? ns cuts above func args = .ok (some n)) : n < args.length := by
  rw [excess?] at excess
  split at excess
  · cases excess
  · cases resolved : ns.resolve cuts above func with
    | error e =>
      rw [resolved] at excess
      cases excess
    | ok callee =>
      rw [resolved] at excess
      have limited : (callee.bind limit?).filter (· < args.length) = some n := Except.ok.inj excess
      simpa using (Option.filter_eq_some_iff.mp limited).2

-- The last cut that was made is one of a call, and the call loses arguments.
theorem Visits.exists_dropped {m : Module} {cuts : Cuts}
    (visits : Visits (.ofModule m.number) (Node.module m.number).located [] cuts) (some : cuts ≠ []) :
    ∃ n ∈ (Node.module m.number).walk, n.dropped cuts ≠ [] := by
  obtain ⟨⟨k, n⟩, earlier, rfl⟩ := List.exists_cons_of_ne_nil some
  obtain before | ⟨x, here, func, args, keywords, call⟩ := visits.exists_caller List.mem_cons_self
  · cases before
  · have labels : ((Node.module m.number).located.flatMap fun x => x.node.ownLabels).Nodup := by
      have nodup := m.walk_labels_nodup
      rwa [← Node.map_node_located, List.flatMap_map] at nodup
    obtain ⟨seen, -, excess⟩ := visits.decided labels (fun _ _ => rfl) here call
    rw [List.lookup_cons_self] at excess
    have many := ExtraArguments.lt_of_excess excess
    refine ⟨x.node, ?_, ?_⟩
    · rw [← Node.map_node_located]
      exact List.mem_map_of_mem here
    · rw [call]
      have left : 0 < (args.drop n).length := by rw [List.length_drop]; omega
      simpa [Node.dropped, Cuts.drop, Node.ofExprs] using List.length_pos_iff.mp left

theorem Weight.total_pass_le (w : Weight) (v : Verdicts) (cuts : Cuts) (m : Module) :
    w.total (.module ((m.number.cut cuts).prune v).fill) ≤ w.total (.module m) :=
  calc
    _ ≤ w.total (.module (m.number.cut cuts)) := w.total_rewritten_le v _
    _ ≤ w.total (.module m.number) := w.total_cut_le cuts _
    _ = w.total (.module m) := w.total_number m

namespace Engine.Decides

variable {e : Engine} {m : Module} {v : Verdicts} {cuts : Cuts}

theorem pass_idle (decides : e.Decides m v cuts) (idle : applied (e.inspect m.number).rules = []) :
    (e.pass m).2 = .ok ([], m.number) := by
  rw [pass_of_idle decides.calm idle, decides.draft, (decides.idle.mp idle).2, Module.cut_nil]

theorem pass_busy (decides : e.Decides m v cuts) (busy : applied (e.inspect m.number).rules ≠ []) :
    (e.pass m).2 = .ok (applied (e.inspect m.number).rules, ((m.number.cut cuts).prune v).fill) := by
  refine pass_of_busy decides.calm rfl busy ?_
  rw [decides.draft]
  exact finish_cut decides.blind m cuts e.ambient

theorem heavy (v : Verdicts) (s : Stmt) (decided : (s.verdict? v).isSome) : 0 < Weight.reducible.of (.stmt s) := by
  cases s with
  | ifElse => exact Nat.one_pos
  | _ => cases decided

theorem measure_lt (decides : e.Decides m v cuts) (busy : applied (e.inspect m.number).rules ≠ []) :
    ((m.number.cut cuts).prune v).fill.measure < m.measure := by
  rw [Module.measure_eq, Module.measure_eq, ← Weight.total_number _ m]
  by_cases uncut : cuts = []
  · have unsettled : m.number.isSettled v = false := by
      rw [Bool.eq_false_iff, ne_eq, ← Module.guards_eq_nil_iff]
      exact fun none => busy (decides.idle.mpr ⟨none, uncut⟩)
    rw [uncut, Module.cut_nil]
    exact Weight.reducible.total_rewritten_lt (heavy v) unsettled
  · obtain ⟨n, member, some⟩ := (decides.made.resolve_left uncut).exists_dropped uncut
    have lighter : Weight.reducible.of (n.trim cuts id) < Weight.reducible.of n := by
      have dropped := n.positionals_trim cuts id
      have pos := List.length_pos_iff.mpr some
      simp only [Weight.reducible, Node.isCondition_trim]
      omega
    refine Nat.lt_of_le_of_lt (Weight.reducible.total_rewritten_le v _) ?_
    rw [Module.cut_eq_trim]
    exact Weight.reducible.total_trim_lt (n := .module m.number) member lighter

end Engine.Decides

theorem Module.guards_unknown (m : Module) : m.guards .unknown = [] := by
  refine List.filterMap_eq_nil_iff.mpr fun n _ => ?_
  unfold Node.guard?
  split
  · simp [Verdicts.decide, Verdicts.unknown]
  · rfl

theorem traverse_nothing (ns : Namespace) (xs : List Node.Located) (d : Draft) :
    ActiveRule.traverse ns xs [] d = ⟨[], d, none⟩ := by
  induction xs with
  | nil => rfl
  | cons x rest ih => exact ih

namespace Engine

theorem applied_guards_eq_nil_iff (g : VersionGuard) (gs : List Guard) :
    applied [⟨.versionGuard g, Guard.weights gs⟩] = [] ↔ gs = [] := by
  cases gs with
  | nil => exact iff_of_true rfl rfl
  | cons first rest => cases action : first.action <;> simp [applied, Guard.weight, action]

theorem applied_calls_eq_nil_iff (cuts : Cuts) : applied [⟨.extraArguments, cuts.length⟩] = [] ↔ cuts = [] := by
  cases cuts with
  | nil => exact iff_of_true rfl rfl
  | cons cut rest => simp [applied]

theorem Decides.of_rules {e e' : Engine} {m : Module} {v : Verdicts} {cuts : Cuts} (decides : e'.Decides m v cuts)
    (rules : e.rules.map ActiveRule.rule = e'.rules.map ActiveRule.rule) (ambient : e.ambient = e'.ambient) :
    e.Decides m v cuts where
  calm := by rw [inspect_of_rules rules ambient]; exact decides.calm
  rules := by rw [inspect_of_rules rules ambient, rules]; exact decides.rules
  draft := by rw [inspect_of_rules rules ambient, ambient]; exact decides.draft
  idle := by rw [inspect_of_rules rules ambient]; exact decides.idle
  blind := decides.blind
  made := decides.made

theorem decides_nothing (ambient : Ambient) (m : Module) : Decides ⟨[], ambient⟩ m .unknown [] where
  calm := congrArg Step.failure (traverse_nothing _ _ _)
  rules := congrArg (List.map ActiveRule.rule) (congrArg Step.rules (traverse_nothing _ _ _))
  draft := by
    rw [Module.guards_unknown]
    exact congrArg Step.draft (traverse_nothing _ _ _)
  idle := by
    rw [Module.guards_unknown]
    refine iff_of_true ?_ ⟨rfl, rfl⟩
    exact congrArg applied (congrArg Step.rules (traverse_nothing _ _ _))
  blind := Verdicts.blind_unknown
  made := .inl rfl

theorem decides_onGuards (constant : String) (target : Int) (known : Option Value) (ambient : Ambient) (m : Module) :
    (onGuards constant target known 0 ambient).Decides m (.ofTarget constant target) [] where
  calm := by rw [inspect_onGuards]
  rules := by rw [inspect_onGuards]; rfl
  draft := by rw [inspect_onGuards]; rfl
  idle := by rw [inspect_onGuards, applied_guards_eq_nil_iff, and_iff_left rfl]
  blind := Verdicts.blind_ofTarget constant target
  made := .inl rfl

section

variable {ambient : Ambient} {m : Module} (calm : ((onCalls 0 ambient).inspect m.number).failure = none)

include calm

theorem decides_onCalls : ∃ cuts, (onCalls 0 ambient).Decides m .unknown cuts := by
  obtain ⟨cuts, visits, same⟩ := inspect_onCalls calm
  refine ⟨cuts, calm, ?_, ?_, ?_, Verdicts.blind_unknown, .inr visits⟩
  · rw [same]
    rfl
  · rw [same, Module.guards_unknown]
    rfl
  · rw [same, Module.guards_unknown, applied_calls_eq_nil_iff, and_iff_right rfl]

theorem decides_onBoth (constant : String) (target : Int) (known : Option Value) :
    ∃ cuts, (onBoth constant target known 0 0 ambient).Decides m (.ofTarget constant target) cuts ∧
      (onBoth constant target known 0 0 ambient).turned.Decides m (.ofTarget constant target) cuts := by
  obtain ⟨cuts, visits, -, same⟩ := inspect_onBoth constant target known 0 0 ambient calm
  have turned : (onBoth constant target known 0 0 ambient).turned.inspect m.number =
      ((onBoth constant target known 0 0 ambient).inspect m.number).turned := inspect_turned _ 0 0 ambient m.number
  have idle : applied ((onBoth constant target known 0 0 ambient).inspect m.number).rules = [] ↔
      m.number.guards (.ofTarget constant target) = [] ∧ cuts = [] := by
    rw [same, ← applied_guards_eq_nil_iff ⟨constant, some target, known⟩, ← applied_calls_eq_nil_iff cuts,
      ← List.append_eq_nil_iff, ← applied_append]
    rfl
  have blind := Verdicts.blind_ofTarget constant target
  refine ⟨cuts, ⟨?_, ?_, ?_, idle, blind, .inr visits⟩, ⟨?_, ?_, ?_, ?_, blind, .inr visits⟩⟩
  · rw [same]
  · rw [same]
    rfl
  · rw [same]
    rfl
  · rw [turned, same]
    rfl
  · rw [turned, same]
    rfl
  · rw [turned, same]
    rfl
  · rw [turned, Step.turned, applied_reverse, List.reverse_eq_nil_iff, idle]

end

-- A pass decides, or an annotation stops it.
def Ends (e : Engine) (m : Module) : Prop :=
  (∃ v cuts, e.Decides m v cuts) ∨
    ∃ err, (e.inspect m.number).failure = some (.source err) ∧ Refuses (Node.module m.number).walk err

theorem Ends.of_rules {e e' : Engine} {m : Module} (ends : e'.Ends m)
    (rules : e.rules.map ActiveRule.rule = e'.rules.map ActiveRule.rule) (ambient : e.ambient = e'.ambient) :
    e.Ends m := by
  obtain ⟨v, cuts, decides⟩ | ⟨err, failed, refuses⟩ := ends
  · exact .inl ⟨v, cuts, decides.of_rules rules ambient⟩
  · exact .inr ⟨err, by rw [inspect_of_rules rules ambient, failed], refuses⟩

theorem ends_onCalls (ambient : Ambient) (m : Module) : (onCalls 0 ambient).Ends m := by
  cases failure : ((onCalls 0 ambient).inspect m.number).failure with
  | none => exact .inl ⟨_, decides_onCalls failure⟩
  | some f =>
    obtain ⟨err, rfl, refuses⟩ := failure_onCalls failure
    exact .inr ⟨err, failure, refuses⟩

theorem ends_onBoth (constant : String) (target : Int) (known : Option Value) (ambient : Ambient) (m : Module) :
    (onBoth constant target known 0 0 ambient).Ends m ∧ (onBoth constant target known 0 0 ambient).turned.Ends m := by
  have together := failure_onBoth constant target known 0 0 ambient m.number
  have turned : (onBoth constant target known 0 0 ambient).turned.inspect m.number =
      ((onBoth constant target known 0 0 ambient).inspect m.number).turned := inspect_turned _ 0 0 ambient m.number
  cases failure : ((onCalls 0 ambient).inspect m.number).failure with
  | none =>
    obtain ⟨cuts, decides, other⟩ := decides_onBoth failure constant target known
    exact ⟨.inl ⟨_, cuts, decides⟩, .inl ⟨_, cuts, other⟩⟩
  | some f =>
    obtain ⟨err, rfl, refuses⟩ := failure_onCalls failure
    exact ⟨.inr ⟨err, together.trans failure, refuses⟩, .inr ⟨err, turned ▸ together.trans failure, refuses⟩⟩

theorem ends_of_configured {e : Engine} (configured : ∀ r ∈ e.rules.map ActiveRule.rule, r.isConfigured)
    (distinct : ((e.rules.map ActiveRule.rule).map Rule.name).Nodup) (m : Module) : e.Ends m := by
  have form : ∀ g, .versionGuard g ∈ e.rules.map ActiveRule.rule →
      ∃ constant target known, g = ⟨constant, some target, known⟩ := by
    rintro ⟨constant, target, known⟩ member
    obtain ⟨n, rfl⟩ := Option.isSome_iff_exists.mp (configured _ member)
    exact ⟨constant, n, known, rfl⟩
  obtain none | ⟨g, rules⟩ | rules | ⟨g, rules⟩ | ⟨g, rules⟩ := Rule.cases_of_distinct distinct
  · exact .inl ⟨_, _, (decides_nothing e.ambient m).of_rules none rfl⟩
  · obtain ⟨constant, target, known, rfl⟩ := form g (by simp [rules])
    exact .inl ⟨_, _, (decides_onGuards constant target known e.ambient m).of_rules rules rfl⟩
  · exact (ends_onCalls e.ambient m).of_rules rules rfl
  · obtain ⟨constant, target, known, rfl⟩ := form g (by simp [rules])
    exact (ends_onBoth constant target known e.ambient m).1.of_rules rules rfl
  · obtain ⟨constant, target, known, rfl⟩ := form g (by simp [rules])
    exact (ends_onBoth constant target known e.ambient m).2.of_rules rules rfl

theorem Decides.engine {e : Engine} {m : Module} {v : Verdicts} {cuts : Cuts} (decides : e.Decides m v cuts) :
    (e.pass m).1.rules.map ActiveRule.rule = e.rules.map ActiveRule.rule ∧ (e.pass m).1.ambient = e.ambient :=
  ⟨decides.rules, congrArg Draft.ambient decides.draft⟩

-- What a pass comes to: nothing, something smaller, or a failure.
inductive Comes (e : Engine) (m : Module) : Prop
  | idle : (e.pass m).2 = .ok ([], m.number) → Comes e m
  | busy {names : List String} {written : Module} : (e.pass m).2 = .ok (names, written) → names ≠ [] →
      written.measure < m.measure → (m.isReadable → written.isReadable) →
      (e.pass m).1.rules.map ActiveRule.rule = e.rules.map ActiveRule.rule → Comes e m
  | failed {err : ParseError} : (e.pass m).2 = .error (.source err) → Refuses (Node.module m.number).walk err →
      Comes e m

theorem Ends.comes {e : Engine} {m : Module} (ends : e.Ends m) : e.Comes m := by
  obtain ⟨v, cuts, decides⟩ | ⟨err, failed, refuses⟩ := ends
  · by_cases idle : applied (e.inspect m.number).rules = []
    · exact .idle (decides.pass_idle idle)
    · refine .busy (decides.pass_busy idle) idle (decides.measure_lt idle) ?_ decides.engine.1
      rw [Module.isReadable_iff, Module.isReadable_iff]
      intro none
      exact Nat.le_zero.mp (none ▸ Weight.refused.total_pass_le v cuts m)
  · exact .failed (pass_of_failed failed) refuses

end Engine

theorem Module.measure_unlabelled (m : Module) : m.unlabelled.measure = m.measure := by
  rw [measure_eq, measure_eq]
  exact Weight.reducible.total_relabel noLabel (.module m)

theorem Module.isReadable_number (m : Module) : m.number.isReadable = m.isReadable := by
  rw [Bool.eq_iff_iff, isReadable_iff, isReadable_iff, Weight.total_number]

namespace Engine

-- Passes until no rule counts a change, or one fails. Each pass before that takes something from the measure.
theorem exists_last_pass {e : Engine} (configured : ∀ r ∈ e.rules.map ActiveRule.rule, r.isConfigured)
    (distinct : ((e.rules.map ActiveRule.rule).map Rule.name).Nodup) (m : Module) :
    ∃ k ≤ m.measure, ∃ e' m', e.passes k m = (e', .ok m') ∧
      ((e'.pass m').2 = .ok ([], m'.number) ∨
        ∃ err, (e'.pass m').2 = .error (.source err) ∧ Refuses (Node.module m'.number).walk err) ∧
      (m.isReadable → m'.isReadable) := by
  induction size : m.measure using Nat.strongRecOn generalizing e m with
  | ind n ih =>
    subst size
    cases (ends_of_configured configured distinct m).comes with
    | idle made => exact ⟨0, Nat.zero_le _, e, m, rfl, .inl made, id⟩
    | failed made refuses => exact ⟨0, Nat.zero_le _, e, m, rfl, .inr ⟨_, made, refuses⟩, id⟩
    | @busy names written made some smaller readable rules =>
      obtain ⟨k, bound, e', m', reached, last, kept⟩ :=
        ih _ smaller (rules ▸ configured) (rules ▸ distinct) written rfl
      refine ⟨k + 1, by omega, e', m', ?_, last, kept ∘ readable⟩
      rw [passes, ← reached]
      generalize e.pass m = result at made
      obtain ⟨after, outcome⟩ := result
      cases made
      rfl

-- What a pass changes leaves fewer conditions and positional arguments, so repeated passes come to an end.
theorem passes_shrink {a : Ambient} {wanted : List (String × List (Value × Value))} {rules : List Rule}
    (distinct : (wanted.map Prod.fst).Nodup) (created : Rule.create a wanted = .ok rules) {e : Engine}
    (holds : e.rules.map ActiveRule.rule = rules) (m : Module) :
    ((∃ names written, (e.pass m).2 = .ok (names, written) ∧
        (names = [] ∧ written = m.number ∨ names ≠ [] ∧ written.measure < m.measure) ∧
        (names ≠ [] ↔ written.unlabelled ≠ m.unlabelled)) ∨
      ∃ err, (e.pass m).2 = .error (.source err) ∧ Refuses (Node.module m.number).walk err) ∧
    (∃ k ≤ m.measure, ∃ e' m', e.passes k m = (e', .ok m') ∧
      ((e'.pass m').2 = .ok ([], m'.number) ∨
        ∃ err, (e'.pass m').2 = .error (.source err) ∧ Refuses (Node.module m'.number).walk err)) ∧
    (m.isReadable →
      (∃ names written, (e.pass m).2 = .ok (names, written)) ∧
      ∃ k ≤ m.measure, ∃ e' m', e.passes k m = (e', .ok m') ∧ (e'.pass m').2 = .ok ([], m'.number)) := by
  obtain ⟨configured, named⟩ := Rule.isConfigured_of_create created
  rw [← named, ← holds] at distinct
  rw [← holds] at configured
  refine ⟨?_, ?_, fun readable => ⟨?_, ?_⟩⟩
  · cases (ends_of_configured configured distinct m).comes with
    | idle made =>
      refine .inl ⟨[], m.number, made, .inl ⟨rfl, rfl⟩, iff_of_false (fun some => some rfl) ?_⟩
      exact fun changed => changed m.unlabelled_number
    | @busy names written made some smaller _ _ =>
      refine .inl ⟨names, written, made, .inr ⟨some, smaller⟩, iff_of_true some fun same => ?_⟩
      rw [← written.measure_unlabelled, ← m.measure_unlabelled, same] at smaller
      exact Nat.lt_irrefl _ smaller
    | failed made refuses => exact .inr ⟨_, made, refuses⟩
  · obtain ⟨k, bound, e', m', reached, last, -⟩ := exists_last_pass configured distinct m
    exact ⟨k, bound, e', m', reached, last⟩
  · cases (ends_of_configured configured distinct m).comes with
    | idle made => exact ⟨_, _, made⟩
    | busy made _ _ _ _ => exact ⟨_, _, made⟩
    | failed made refuses => exact absurd refuses (Module.not_refuses (m.isReadable_number ▸ readable) _)
  · obtain ⟨k, bound, e', m', reached, last, kept⟩ := exists_last_pass configured distinct m
    refine ⟨k, bound, e', m', reached, last.resolve_right ?_⟩
    rintro ⟨err, -, refuses⟩
    exact Module.not_refuses (m'.isReadable_number ▸ kept readable) _ refuses

-- The first pass takes away the branch and with it the alternative, so that the second finds a guard.
theorem passes_shrink_exposing :
    let wanted := [("remove_version_id_check", [(.text "target_version", .text "3.8")]), ("remove_extra_arguments", [])]
    ∃ rules m, Rule.create ⟨.ok .null, 0⟩ wanted = .ok rules ∧
      Module.parse "if PY_VERSION_ID<30900:x\nelif PY_VERSION_ID<30800:y\n".toList = .ok m ∧ m.measure = 2 ∧
      ∃ k ≤ 2, ∃ e' m', (Engine.of rules ⟨.ok .null, 0⟩).passes k m = (e', .ok m') ∧
        (e'.pass m').2 = .ok ([], m'.number) := by
  intro wanted
  let rules : List Rule := [.versionGuard ⟨"PY_VERSION_ID", some 30800, none⟩, .extraArguments]
  have created : Rule.create ⟨.ok .null, 0⟩ wanted = .ok rules := rfl
  obtain ⟨m, parsed, size, readable⟩ : ∃ m,
      Module.parse "if PY_VERSION_ID<30900:x\nelif PY_VERSION_ID<30800:y\n".toList = .ok m ∧
        m.measure = 2 ∧ m.isReadable :=
    Module.exists_parsed (by decide +kernel)
  refine ⟨rules, m, created, parsed, size, ?_⟩
  have shrinks := passes_shrink (by decide) created (e := Engine.of rules ⟨.ok .null, 0⟩) rfl m
  rw [size] at shrinks
  exact (shrinks.2.2 readable).2

end Engine

end Whittle
