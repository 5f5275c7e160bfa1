import Whittle.Proofs.Arguments.Excess
import Whittle.Proofs.Guard.Rewriting
import Whittle.Proofs.Run
import Whittle.Proofs.Syntax.Fullness
import Whittle.Proofs.Syntax.Renumbering

namespace Whittle

def Node.Located.cut? (ns : Namespace) (cuts : Cuts) (x : Node.Located) : Except ParseError (Option (Nat × Nat)) :=
  match x.node with
  | .expr (.call l func args _) => ExtraArguments.cut? ns cuts x.ancestors l func args
  | _ => .ok none

-- The nodes are shown one after the other, and the cuts grow from the first list to the second. No step fails.
inductive Visits (ns : Namespace) : List Node.Located → Cuts → Cuts → Prop
  | done {cuts : Cuts} : Visits ns [] cuts cuts
  | keep {x : Node.Located} {rest : List Node.Located} {cuts final : Cuts} :
      x.cut? ns cuts = .ok none → Visits ns rest cuts final → Visits ns (x :: rest) cuts final
  | cut {x : Node.Located} {rest : List Node.Located} {cuts final : Cuts} {made : Nat × Nat} :
      x.cut? ns cuts = .ok (some made) → Visits ns rest (made :: cuts) final → Visits ns (x :: rest) cuts final

section Traverse

variable {ns : Namespace}

theorem visitAll_calls (x : Node.Located) (changes : Nat) (d : Draft) :
    ActiveRule.visitAll ns x [⟨.extraArguments, changes⟩] d =
      match x.cut? ns d.cuts with
      | .error e => ⟨[⟨.extraArguments, changes⟩], d, some (.source e)⟩
      | .ok none => ⟨[⟨.extraArguments, changes⟩], d, none⟩
      | .ok (some made) => ⟨[⟨.extraArguments, changes + 1⟩], { d with cuts := made :: d.cuts }, none⟩ := by
  obtain ⟨n, above⟩ := x
  cases n with
  | expr e =>
    cases e with
    | call l func args keywords =>
      simp only [ActiveRule.visitAll, ActiveRule.visit, ActiveRule.visitCall, Node.Located.cut?]
      cases ExtraArguments.cut? ns d.cuts above l func args with
      | error e => rfl
      | ok made => cases made <;> rfl
    | _ => rfl
  | _ => rfl

theorem visits_of_traverse {xs : List Node.Located} {changes : Nat} {d : Draft}
    (calm : (ActiveRule.traverse ns xs [⟨.extraArguments, changes⟩] d).failure = none) :
    ∃ n final, Visits ns xs d.cuts final ∧ final.length = d.cuts.length + n ∧
      ActiveRule.traverse ns xs [⟨.extraArguments, changes⟩] d =
        ⟨[⟨.extraArguments, changes + n⟩], { d with cuts := final }, none⟩ := by
  induction xs generalizing changes d with
  | nil => exact ⟨0, d.cuts, .done, rfl, rfl⟩
  | cons x rest ih =>
    rw [ActiveRule.traverse, visitAll_calls] at calm ⊢
    cases judged : x.cut? ns d.cuts with
    | error e =>
      rw [judged] at calm
      cases calm
    | ok made =>
      rw [judged] at calm
      cases made with
      | none =>
        obtain ⟨n, final, visits, grown, same⟩ := ih calm
        exact ⟨n, final, .keep judged visits, grown, same⟩
      | some made =>
        obtain ⟨n, final, visits, grown, same⟩ := ih calm
        refine ⟨n + 1, final, .cut judged visits, ?_, ?_⟩
        · rw [grown, List.length_cons]
          omega
        · rw [Nat.add_comm n 1, ← Nat.add_assoc]
          exact same

theorem traverse_of_kept {xs : List Node.Located} {d : Draft} (kept : ∀ x ∈ xs, x.cut? ns d.cuts = .ok none)
    (changes : Nat) :
    ActiveRule.traverse ns xs [⟨.extraArguments, changes⟩] d = ⟨[⟨.extraArguments, changes⟩], d, none⟩ := by
  induction xs with
  | nil => rfl
  | cons x rest ih =>
    obtain ⟨here, there⟩ := List.forall_mem_cons.mp kept
    rw [ActiveRule.traverse, visitAll_calls, here]
    exact ih there

end Traverse

namespace Visits

variable {ns : Namespace} {xs : List Node.Located} {start final : Cuts}

theorem length_le (visits : Visits ns xs start final) : start.length ≤ final.length := by
  induction visits with
  | done => exact Nat.le_refl _
  | keep _ _ ih => exact ih
  | cut _ _ ih => exact Nat.le_of_succ_le ih

theorem kept_of_length (visits : Visits ns xs start final) (same : final.length = start.length) :
    ∀ x ∈ xs, x.cut? ns start = .ok none := by
  induction visits with
  | done => exact List.forall_mem_nil _
  | keep kept _ ih => exact List.forall_mem_cons.mpr ⟨kept, ih same⟩
  | cut _ after _ =>
    have grown := after.length_le
    rw [same, List.length_cons] at grown
    omega

-- A cut bears the label of the call that it was made for.
theorem label_of_cut {x : Node.Located} {cuts : Cuts} {made : Nat × Nat} (judged : x.cut? ns cuts = .ok (some made)) :
    some made.1 ∈ x.node.ownLabels := by
  unfold Node.Located.cut? at judged
  split at judged
  · rename_i call
    rw [call, ← ExtraArguments.label_of_cut judged]
    exact List.mem_singleton.mpr rfl
  · cases judged

theorem lookup_of_other (visits : Visits ns xs start final) {k : Nat}
    (other : some k ∉ xs.flatMap fun x => x.node.ownLabels) : final.lookup k = start.lookup k := by
  induction visits with
  | done => rfl
  | keep _ _ ih =>
    rw [List.flatMap_cons, List.mem_append, not_or] at other
    exact ih other.2
  | cut judged _ ih =>
    rw [List.flatMap_cons, List.mem_append, not_or] at other
    have different : k ≠ _ := fun same => other.1 (same ▸ label_of_cut judged)
    rw [ih other.2, List.lookup_cons, beq_false_of_ne different]

-- What a list of cuts says of a label is what another says, if it says anything.
def Within (some all : Cuts) : Prop := ∀ k, some.lookup k = none ∨ some.lookup k = all.lookup k

theorem within (visits : Visits ns xs start final)
    (fresh : ∀ k, some k ∈ (xs.flatMap fun x => x.node.ownLabels) → start.lookup k = none) : Within start final := by
  intro k
  by_cases met : some k ∈ xs.flatMap fun x => x.node.ownLabels
  · exact .inl (fresh k met)
  · exact .inr (visits.lookup_of_other met).symm

theorem excess_of_judged {x : Node.Located} {cuts : Cuts} {k : Nat} {func : Expr} {args : List Expr}
    {keywords : List Keyword} {made : Option (Nat × Nat)} (call : x.node = .expr (.call (some k) func args keywords))
    (uncut : cuts.lookup k = none) (judged : x.cut? ns cuts = .ok made) :
    ExtraArguments.excess? ns cuts x.ancestors func args = .ok (made.map Prod.snd) := by
  have whole : Cuts.keep cuts (some k) args = args := by simp [Cuts.keep, uncut]
  rw [Node.Located.cut?, call] at judged
  simp only [ExtraArguments.cut_eq_excess, whole] at judged
  cases excess : ExtraArguments.excess? ns cuts x.ancestors func args with
  | error e =>
    rw [excess] at judged
    cases judged
  | ok found =>
    rw [excess] at judged
    cases Except.ok.inj judged
    cases found <;> rfl

-- A call is judged once, by cuts that are all made in the end, and what is made of it then stays.
theorem decided (visits : Visits ns xs start final) (distinct : (xs.flatMap fun x => x.node.ownLabels).Nodup)
    (fresh : ∀ k, some k ∈ (xs.flatMap fun x => x.node.ownLabels) → start.lookup k = none)
    {x : Node.Located} (member : x ∈ xs) {k : Nat} {func : Expr} {args : List Expr} {keywords : List Keyword}
    (call : x.node = .expr (.call (some k) func args keywords)) :
    ∃ seen, Within seen final ∧ ExtraArguments.excess? ns seen x.ancestors func args = .ok (final.lookup k) := by
  have own : some k ∈ x.node.ownLabels := by rw [call]; exact List.mem_singleton.mpr rfl
  induction visits with
  | done => cases member
  | @keep y rest cuts final kept after ih =>
    have whole := (Visits.keep kept after).within fresh
    rw [List.flatMap_cons] at distinct fresh
    have apart := List.disjoint_of_nodup_append distinct
    obtain rfl | later := List.mem_cons.mp member
    · have uncut := fresh k (List.mem_append_left _ own)
      refine ⟨cuts, whole, ?_⟩
      rw [excess_of_judged call uncut kept, after.lookup_of_other (apart own), uncut]
      rfl
    · exact ih distinct.of_append_right (fun j met => fresh j (List.mem_append_right _ met)) later
  | @cut y rest cuts final made judged after ih =>
    have whole := (Visits.cut judged after).within fresh
    rw [List.flatMap_cons] at distinct fresh
    have apart := List.disjoint_of_nodup_append distinct
    obtain rfl | later := List.mem_cons.mp member
    · have uncut := fresh k (List.mem_append_left _ own)
      have same : some made.1 = some k := by
        have label := label_of_cut judged
        rw [call] at label
        exact List.mem_singleton.mp label
      refine ⟨cuts, whole, ?_⟩
      rw [excess_of_judged call uncut judged, after.lookup_of_other (apart own), List.lookup_cons,
        Option.some.inj same, beq_self_eq_true]
      rfl
    · refine ih distinct.of_append_right (fun j met => ?_) later
      have different : j ≠ made.1 := fun same => apart (label_of_cut judged) (same ▸ met)
      rw [List.lookup_cons, beq_false_of_ne different]
      exact fresh j (List.mem_append_right _ met)

end Visits

theorem Node.Quiet.within {some all : Cuts} {n : Node} (quiet : n.Quiet all) (inside : Visits.Within some all) :
    n.Quiet some := by
  intro x here d member
  refine quiet x here d ?_
  unfold dropped at member ⊢
  split at member
  · rename_i l func args keywords
    cases l with
    | none => exact member
    | some k =>
      obtain undecided | same := inside k
      · simp [Cuts.drop, undecided] at member
      · simpa [Cuts.drop, same] using member
  · cases member

-- Where no binding is dropped, the run leaves nothing to cut.
theorem Module.isTight_of_quiet {m : Module} {cuts : Cuts}
    (visits : Visits (.ofModule m.number) (Node.module m.number).located [] cuts)
    (quiet : (Node.module m.number).Quiet cuts) {f : Label → Label} (distinct : Function.Injective f) :
    (m.number.trim cuts f).isTight := by
  have labels : ((Node.module m.number).located.flatMap fun x => x.node.ownLabels).Nodup := by
    have nodup := m.walk_labels_nodup
    rwa [← Node.map_node_located, List.flatMap_map] at nodup
  rw [isTight_iff, Namespace.ofModule_trim quiet]
  intro y member
  obtain ⟨x, here, rfl⟩ := Node.mem_locate_trim (n := .module m.number) cuts f [] member
  have above := quiet.ancestors here
  rw [Node.excess_located_trim _ distinct above]
  split
  · rename_i l func args keywords call
    obtain ⟨k, rfl⟩ : ∃ k, l = some k := Module.label_of_located here (by rw [call]; exact List.mem_singleton.mpr rfl)
    obtain ⟨seen, within, excess⟩ := visits.decided labels (fun _ _ => rfl) here call
    rw [ExtraArguments.excess_of_quiet _ fun a higher => (above a higher).within within] at excess
    cases left : cuts.lookup k with
    | none =>
      rw [left] at excess
      simpa [Cuts.keep, left] using excess
    | some n =>
      rw [left] at excess
      simpa [Cuts.keep, left] using ExtraArguments.excess_of_cut _ excess
  · rfl

-- Every call of a numbered module has a label, so a cut can be made wherever there is too much.
theorem Module.cut_eq_none_iff {m : Module} {x : Node.Located} (member : x ∈ (Node.module m.number).located)
    (ns : Namespace) : x.cut? ns [] = .ok none ↔ x.excess? ns = .ok none := by
  obtain ⟨n, above⟩ := x
  cases n with
  | expr e =>
    cases e with
    | call l func args keywords =>
      obtain ⟨k, rfl⟩ : ∃ k, l = some k := Module.label_of_located member (List.mem_singleton.mpr rfl)
      change ExtraArguments.cut? ns [] above (some k) func args = _ ↔ ExtraArguments.excess? ns [] above func args = _
      rw [ExtraArguments.cut_eq_excess, Cuts.keep_nil]
      cases ExtraArguments.excess? ns [] above func args with
      | error e => simp [Except.map]
      | ok found => cases found <;> simp [Except.map]
    | _ => exact iff_of_true rfl rfl
  | _ => exact iff_of_true rfl rfl

-- Without edits there is nothing to prune.
theorem Edits.apply_nothing {m : Module} (full : m.isFull) : ({} : Edits).apply m = some m := by
  have settled : m.isSettled fun _ => none := by
    rw [Module.isSettled_iff_walk]
    rintro t -
    cases t with
    | ifElse l test body orelse => exact ite_self none
    | _ => rfl
  have follows : ∀ s, .stmt s ∈ (Node.module m).walk → ({} : Edits).Follows (fun _ => none) s := by
    intro s member
    have undecided := (Module.isSettled_iff_walk _ m).mp settled s member
    refine ⟨?_, ?_⟩
    · rw [undecided]
      cases s.label <;> rfl
    · rw [Stmt.hoisted_of_undecided undecided]
      cases s.label <;> rfl
  rw [apply_eq_prune follows, Module.prune_of_settled settled, Module.fill_of_full full]

namespace Engine

-- The only rule is the one on extra arguments.
def onCalls (changes : Nat) (ambient : Ambient) : Engine := ⟨[⟨.extraArguments, changes⟩], ambient⟩

section

variable {changes : Nat} {ambient : Ambient}

theorem inspect_onCalls {m : Module} (calm : ((onCalls changes ambient).inspect m).failure = none) :
    ∃ cuts, Visits (.ofModule m) (Node.module m).located [] cuts ∧
      (onCalls changes ambient).inspect m =
        ⟨[⟨.extraArguments, cuts.length⟩], { ambient := ambient, cuts := cuts }, none⟩ := by
  obtain ⟨n, cuts, visits, grown, same⟩ := visits_of_traverse calm
  rw [List.length_nil, Nat.zero_add] at grown
  rw [← grown, Nat.zero_add] at same
  exact ⟨cuts, visits, same⟩

theorem applied_onCalls (cuts : Cuts) :
    applied [⟨.extraArguments, cuts.length⟩] = if cuts = [] then [] else ["remove_extra_arguments"] := by
  cases cuts <;> rfl

theorem idle_onCalls_iff (m : Module) :
    ((onCalls changes ambient).inspect m.number).failure = none ∧
        applied ((onCalls changes ambient).inspect m.number).rules = [] ↔ m.number.isTight := by
  rw [Module.isTight_iff, ← forall₂_congr fun x member => Module.cut_eq_none_iff member _]
  constructor
  · rintro ⟨calm, idle⟩
    obtain ⟨cuts, visits, same⟩ := inspect_onCalls calm
    have none : cuts = [] := by
      rw [same, applied_onCalls] at idle
      by_contra busy
      simp [busy] at idle
    subst none
    exact visits.kept_of_length rfl
  · intro kept
    have same : (onCalls changes ambient).inspect m.number = _ := traverse_of_kept kept 0
    rw [same]
    exact ⟨rfl, rfl⟩

theorem finish_onCalls {m : Module} (full : m.isFull) (cuts : Cuts) :
    finish m { ambient := ambient, cuts := cuts } = .ok (m.cut cuts) := by
  have cut : (m.cut cuts).isFull := by rwa [Module.isFull_cut]
  have applied : (({} : Edits).cut cuts).apply (m.cut cuts) = some (m.cut cuts) := Edits.apply_nothing cut
  rw [finish, applied]

theorem idle_on_cut_iff (m : Module) (cuts : Cuts) :
    ((onCalls changes ambient).inspect (m.number.cut cuts).number).failure = none ∧
        applied ((onCalls changes ambient).inspect (m.number.cut cuts).number).rules = [] ↔
      (m.number.cut cuts).isTight := by
  have relabelled : (m.number.cut cuts).number =
      (m.number.cut cuts).trim [] (positions (m.number.cut cuts).labels) := by
    rw [Module.number_cut, Module.trim, Module.trim, Module.cut, trimBlock_cut]
  rw [idle_onCalls_iff, relabelled, Module.isTight_relabel (positions_injective _)]

theorem isTight_cut_of_quiet {m : Module} {cuts : Cuts}
    (visits : Visits (.ofModule m.number) (Node.module m.number).located [] cuts)
    (quiet : (Node.module m.number).Quiet cuts) : (m.number.cut cuts).isTight := by
  rw [Module.cut_eq_trim]
  exact Module.isTight_of_quiet visits quiet Function.injective_id

theorem run_onCalls (path : String) {source : String} {m : Module} (cuts : Cuts)
    (parsed : Module.parse source.toList = .ok m)
    (made : (onCalls changes ambient).inspect m.number =
      ⟨[⟨.extraArguments, cuts.length⟩], { ambient := ambient, cuts := cuts }, none⟩) :
    ((onCalls changes ambient).run path source).2 =
      if cuts = [] then .ok { path := path, before := source, after := source }
      else
        match (m.number.cut cuts).render with
        | .ok after =>
          .ok { path := path, before := source, after := after, applied := ["remove_extra_arguments"] }
        | .error f => .error (.render f) := by
  have calm : ((onCalls changes ambient).inspect m.number).failure = none := by rw [made]
  have names : applied ((onCalls changes ambient).inspect m.number).rules =
      if cuts = [] then [] else ["remove_extra_arguments"] := by
    rw [made, applied_onCalls]
  split
  · rename_i none
    exact run_of_idle parsed calm (names.trans (if_pos none))
  · rename_i some
    have full : m.number.isFull := (Module.isFull_number m).trans (Module.isFull_of_parse parsed)
    refine run_of_finished parsed calm (names.trans (if_neg some)) (List.cons_ne_nil _ _) ?_
    rw [made]
    exact finish_onCalls full cuts

-- The engine that comes out of a run differs in its count of changes only.
theorem run_keeps_onCalls {path source : String} {m : Module} {change : Change}
    (parsed : Module.parse source.toList = .ok m) (ran : ((onCalls changes ambient).run path source).2 = .ok change) :
    ((onCalls changes ambient).inspect m.number).failure = none ∧
      ∃ counted, ((onCalls changes ambient).run path source).1 = onCalls counted ambient := by
  have calm : ((onCalls changes ambient).inspect m.number).failure = none := by
    cases failure : ((onCalls changes ambient).inspect m.number).failure with
    | none => rfl
    | some f => simp [run, parsed, failure] at ran
  obtain ⟨cuts, -, same⟩ := inspect_onCalls calm
  rw [run_engine parsed, same]
  exact ⟨rfl, cuts.length, rfl⟩

end

-- A second run finds what is too much in the module that the first wrote; there is nothing if no binding was dropped.
theorem trimmed_again_iff (changes : Nat) (ambient : Ambient) :
    let e := onCalls changes ambient
    (∀ m : Module, m.isFull → (e.inspect m.number).failure = none →
      let cuts := (e.inspect m.number).draft.cuts
      finish m.number (e.inspect m.number).draft = .ok (m.number.cut cuts) ∧
      ((e.inspect (m.number.cut cuts).number).failure = none ∧
          applied (e.inspect (m.number.cut cuts).number).rules = [] ↔ (m.number.cut cuts).isTight) ∧
      ((Node.module m.number).Quiet cuts → (m.number.cut cuts).isTight)) ∧
    ∀ (path source : String) (m : Module) (change : Change), Module.parse source.toList = .ok m →
      (e.run path source).2 = .ok change →
      let cuts := (e.inspect m.number).draft.cuts
      (m.number.cut cuts).ReadsBack →
      (((e.run path source).1.run path change.after).2 =
          .ok { path := path, before := change.after, after := change.after } ↔ (m.number.cut cuts).isTight) ∧
      ((Node.module m.number).Quiet cuts → (m.number.cut cuts).isTight) := by
  intro e
  constructor
  · intro m full calm
    obtain ⟨cuts, visits, same⟩ := inspect_onCalls calm
    simp only [e, same]
    exact ⟨finish_onCalls (by rwa [Module.isFull_number]) cuts, idle_on_cut_iff m cuts, isTight_cut_of_quiet visits⟩
  · intro path source m change parsed ran
    obtain ⟨calm, counted, again⟩ := run_keeps_onCalls parsed ran
    obtain ⟨cuts, visits, same⟩ := inspect_onCalls calm
    simp only [e, same, again]
    intro reads
    refine ⟨?_, isTight_cut_of_quiet visits⟩
    rw [run_onCalls path cuts parsed same] at ran
    split at ran
    · rename_i none
      subst none
      cases ran
      rw [run_idle_iff path ⟨m, parsed, rfl⟩, idle_onCalls_iff, Module.cut_nil]
    · split at ran
      · rename_i after written
        cases ran
        rw [run_idle_iff path (reads after written), idle_on_cut_iff]
      · cases ran

-- `id(0, len(0, ...))` with these arguments after the zero of the inner call.
def nested (dropped : List Expr) : Module :=
  let zero := Expr.constant none (.int 0)
  let call (x : String) (args : List Expr) := Expr.call none (.name none x .load) args []
  ⟨[.simple none (.expr (call "id" [zero, call "len" (zero :: dropped)]))]⟩

def rebinding : Module := nested [.namedExpr none (.name none "id" .store) (.constant none (.int 0))]

set_option maxRecDepth 20000 in
theorem parse_rebinding : Module.parse "id(0,len(0,id:=0))\n".toList = .ok rebinding :=
  Module.parse_of_tokens
    [.name "id", .symbol .lparen, .number (.int 0), .symbol .comma, .name "len", .symbol .lparen, .number (.int 0),
      .symbol .comma, .name "id", .symbol .walrus, .number (.int 0), .symbol .rparen, .symbol .rparen, .newline, .done]
    rfl (by decide +kernel) rfl

set_option maxRecDepth 20000 in
theorem parse_nested : Module.parse "id(0, len(0))\n".toList = .ok (nested []) :=
  Module.parse_of_tokens
    [.name "id", .symbol .lparen, .number (.int 0), .symbol .comma, .name "len", .symbol .lparen, .number (.int 0),
      .symbol .rparen, .symbol .rparen, .newline, .done]
    rfl (by decide +kernel) rfl

theorem inspect_rebinding :
    (onCalls 0 ⟨.ok .null, 0⟩).inspect rebinding.number =
      ⟨[⟨.extraArguments, 1⟩], { ambient := ⟨.ok .null, 0⟩, cuts := [(4, 1)] }, none⟩ := by
  have calm : ((onCalls 0 ⟨.ok .null, 0⟩).inspect rebinding.number).failure = none :=
    Option.isNone_iff_eq_none.mp (by decide +kernel)
  have made : ((onCalls 0 ⟨.ok .null, 0⟩).inspect rebinding.number).draft.cuts = [(4, 1)] := by decide +kernel
  obtain ⟨cuts, -, same⟩ := inspect_onCalls calm
  rw [same] at made
  rw [same, show cuts = [(4, 1)] from made]
  rfl

theorem render_rebinding : (rebinding.number.cut [(4, 1)]).render = .ok "id(0, len(0))\n" := by decide +kernel

-- With the assignment gone `id` is the built-in function, which takes one argument.
theorem trimmed_again_iff_rebound :
    let e := onCalls 0 ⟨.ok .null, 0⟩
    let source := "id(0,len(0,id:=0))\n"
    let once := "id(0, len(0))\n"
    (e.run "a.py" source).2 =
      .ok { path := "a.py", before := source, after := once, applied := ["remove_extra_arguments"] } ∧
    ((e.run "a.py" source).1.run "a.py" once).2 ≠ .ok { path := "a.py", before := once, after := once } := by
  intro e source once
  have first : (e.run "a.py" source).2 =
      .ok { path := "a.py", before := source, after := once, applied := ["remove_extra_arguments"] } := by
    rw [run_onCalls "a.py" [(4, 1)] parse_rebinding inspect_rebinding, render_rebinding]
    rfl
  have reads : (rebinding.number.cut [(4, 1)]).ReadsBack := by
    intro text again
    cases render_rebinding.symm.trans again
    exact ⟨_, parse_nested, rfl⟩
  have second := (trimmed_again_iff 0 ⟨.ok .null, 0⟩).2 "a.py" source rebinding _ parse_rebinding first
  rw [inspect_rebinding] at second
  refine ⟨first, fun unchanged => ?_⟩
  have tight := (second reads).1.mp unchanged
  revert tight
  decide +kernel

end Engine

end Whittle
