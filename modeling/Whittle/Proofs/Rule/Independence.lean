import Whittle.Proofs.Arguments.Unreadable
import Whittle.Proofs.Guard.Cutting
import Whittle.Proofs.Pass

namespace Whittle

namespace ActiveRule

variable (ns : Namespace)

-- No node is for both.
theorem unmoved (x : Node.Located) :
    (∀ g n d, visitGuard g n x d = (⟨.versionGuard g, n⟩, d, none)) ∨
      ∀ k d, visitCall ns k x d = (⟨.extraArguments, k⟩, d, none) := by
  obtain ⟨node, above⟩ := x
  cases node with
  | expr e =>
    cases e with
    | call l func args keywords => exact .inl fun _ _ _ => rfl
    | _ => exact .inr fun _ _ => rfl
  | _ => exact .inr fun _ _ => rfl

theorem exists_guard (g : VersionGuard) (n : Nat) (x : Node.Located) (d : Draft) :
    ∃ g' n', (visitGuard g n x d).1 = ⟨.versionGuard g', n'⟩ := by
  unfold visitGuard
  split
  · split
    · exact ⟨_, _, rfl⟩
    · split
      · exact ⟨_, _, rfl⟩
      · split <;> exact ⟨_, _, rfl⟩
  · exact ⟨_, _, rfl⟩

theorem exists_calls (k : Nat) (x : Node.Located) (d : Draft) :
    ∃ k', (visitCall ns k x d).1 = ⟨.extraArguments, k'⟩ := by
  unfold visitCall
  split
  · split <;> exact ⟨_, rfl⟩
  · exact ⟨_, rfl⟩

end ActiveRule

-- The same state, with the rules in the opposite order.
def Step.turned (s : Step) : Step := { s with rules := s.rules.reverse }

def Engine.turned (e : Engine) : Engine := ⟨e.rules.reverse, e.ambient⟩

section Turned

open ActiveRule

variable (ns : Namespace)

theorem visitAll_turned (g : VersionGuard) (n k : Nat) (x : Node.Located) (d : Draft) :
    visitAll ns x [⟨.extraArguments, k⟩, ⟨.versionGuard g, n⟩] d =
      (visitAll ns x [⟨.versionGuard g, n⟩, ⟨.extraArguments, k⟩] d).turned := by
  obtain noGuard | noCall := unmoved ns x
  · simp only [visitAll, visit, noGuard]
    obtain ⟨r, after, failure⟩ := visitCall ns k x d
    cases failure <;> rfl
  · simp only [visitAll, visit, noCall]
    obtain ⟨r, after, failure⟩ := visitGuard g n x d
    cases failure <;> rfl

theorem visitAll_rules (g : VersionGuard) (n k : Nat) (x : Node.Located) (d : Draft) :
    ∃ g' n' k', (visitAll ns x [⟨.versionGuard g, n⟩, ⟨.extraArguments, k⟩] d).rules =
      [⟨.versionGuard g', n'⟩, ⟨.extraArguments, k'⟩] := by
  obtain ⟨g', n', guard⟩ := exists_guard g n x d
  simp only [visitAll, visit]
  generalize visitGuard g n x d = shown at guard ⊢
  obtain ⟨r, after, failure⟩ := shown
  cases guard
  cases failure with
  | some f => exact ⟨_, _, _, rfl⟩
  | none =>
    obtain ⟨k', call⟩ := exists_calls ns k x after
    simp only
    generalize visitCall ns k x after = shown at call ⊢
    obtain ⟨r, final, failure⟩ := shown
    cases call
    cases failure <;> exact ⟨_, _, _, rfl⟩

theorem traverse_turned (g : VersionGuard) (n k : Nat) (xs : List Node.Located) (d : Draft) :
    ActiveRule.traverse ns xs [⟨.extraArguments, k⟩, ⟨.versionGuard g, n⟩] d =
      (ActiveRule.traverse ns xs [⟨.versionGuard g, n⟩, ⟨.extraArguments, k⟩] d).turned := by
  induction xs generalizing g n k d with
  | nil => rfl
  | cons x rest ih =>
    obtain ⟨g', n', k', rules⟩ := visitAll_rules ns g n k x d
    rw [ActiveRule.traverse, ActiveRule.traverse, visitAll_turned]
    simp only [Step.turned, rules]
    split
    · rw [rules]
    · exact ih g' n' k' _

end Turned

namespace Engine

theorem applied_reverse (rules : List ActiveRule) : applied rules.reverse = (applied rules).reverse := by
  rw [applied, applied, List.filter_reverse, List.map_reverse]

theorem inspect_turned (g : VersionGuard) (n k : Nat) (ambient : Ambient) (m : Module) :
    (turned ⟨[⟨.versionGuard g, n⟩, ⟨.extraArguments, k⟩], ambient⟩).inspect m =
      (inspect ⟨[⟨.versionGuard g, n⟩, ⟨.extraArguments, k⟩], ambient⟩ m).turned :=
  traverse_turned _ g 0 0 _ _

theorem pass_turned (g : VersionGuard) (n k : Nat) (ambient : Ambient) (m : Module) :
    let e : Engine := ⟨[⟨.versionGuard g, n⟩, ⟨.extraArguments, k⟩], ambient⟩
    (e.turned.pass m).2 = (e.pass m).2.map fun (names, written) => (names.reverse, written) := by
  intro e
  have turned : e.turned.inspect m.number = (e.inspect m.number).turned := inspect_turned g n k ambient m.number
  simp only [pass, turned, Step.turned, applied_reverse]
  cases (e.inspect m.number).failure with
  | some f => rfl
  | none =>
    cases applied (e.inspect m.number).rules with
    | nil => rfl
    | cons name rest =>
      cases finish m.number (e.inspect m.number).draft <;> cases reversed : (name :: rest).reverse <;>
        simp_all [Except.map]

theorem record_reverse (path source : String) (names : List String) (m : Module) :
    record path source (names.reverse, m) =
      (record path source (names, m)).map fun c => { c with applied := c.applied.reverse } := by
  cases names with
  | nil => rfl
  | cons name rest =>
    cases reversed : (name :: rest).reverse with
    | nil => simp at reversed
    | cons first others => simp only [record]; cases m.render <;> simp [Except.map, ← reversed]

-- A run names the rules in the order in which it has them, and that is all that tells the orders apart.
theorem run_turned (g : VersionGuard) (n k : Nat) (ambient : Ambient) (path source : String) :
    let e : Engine := ⟨[⟨.versionGuard g, n⟩, ⟨.extraArguments, k⟩], ambient⟩
    (e.turned.run path source).2 = (e.run path source).2.map fun c => { c with applied := c.applied.reverse } := by
  intro e
  cases parsed : Module.parse source.toList with
  | error err => cases err <;> simp only [run, parsed] <;> rfl
  | ok m =>
    rw [run_of_parsed _ path parsed, run_of_parsed _ path parsed, pass_turned]
    cases (e.pass m).2 with
    | error f => rfl
    | ok made => exact record_reverse path source made.1 made.2

end Engine

-- A draft with further guards in its queue.
def Draft.enter (d : Draft) (gs : List Guard) : Draft := { d with edits := gs.foldl (fun e g => g.enter e) d.edits }

theorem Draft.enter_enter (d : Draft) (front back : List Guard) :
    (d.enter front).enter back = d.enter (front ++ back) := by
  simp only [enter, List.foldl_append]

section Both

variable {ns : Namespace} (constant : String) (target : Int) (known : Option Value)

theorem visitAll_both (n k : Nat) (x : Node.Located) (d : Draft) :
    let found := (guardAt constant target x).toList
    let guards : ActiveRule := ⟨.versionGuard ⟨constant, some target, known⟩, n + Guard.weights found⟩
    ActiveRule.visitAll ns x [⟨.versionGuard ⟨constant, some target, known⟩, n⟩, ⟨.extraArguments, k⟩] d =
      match x.cut? ns d.cuts with
      | .error e => ⟨[guards, ⟨.extraArguments, k⟩], d.enter found, some (.source e)⟩
      | .ok none => ⟨[guards, ⟨.extraArguments, k⟩], d.enter found, none⟩
      | .ok (some made) =>
        ⟨[guards, ⟨.extraArguments, k + 1⟩], { d.enter found with cuts := made :: d.cuts }, none⟩ := by
  intro found guards
  rw [ActiveRule.visitAll, visit_guard]
  simp only [visitAll_calls]
  cases x.cut? ns d.cuts with
  | error e => rfl
  | ok made => cases made <;> rfl

theorem failure_both (xs : List Node.Located) (n k k' : Nat) {d d' : Draft} (same : d.cuts = d'.cuts) :
    (ActiveRule.traverse ns xs
        [⟨.versionGuard ⟨constant, some target, known⟩, n⟩, ⟨.extraArguments, k⟩] d).failure =
      (ActiveRule.traverse ns xs [⟨.extraArguments, k'⟩] d').failure := by
  induction xs generalizing n k k' d d' with
  | nil => rfl
  | cons x rest ih =>
    rw [ActiveRule.traverse, ActiveRule.traverse, visitAll_both, visitAll_calls, same]
    cases x.cut? ns d'.cuts with
    | error e => rfl
    | ok made =>
      cases made with
      | none => exact ih _ _ _ same
      | some made => exact ih _ _ _ rfl

theorem traverse_both {xs : List Node.Located} {d : Draft} {final : Cuts} (visits : Visits ns xs d.cuts final)
    (n k : Nat) :
    ∃ made, final.length = d.cuts.length + made ∧
      ActiveRule.traverse ns xs [⟨.versionGuard ⟨constant, some target, known⟩, n⟩, ⟨.extraArguments, k⟩] d =
        ⟨[⟨.versionGuard ⟨constant, some target, known⟩,
            n + Guard.weights (xs.filterMap (guardAt constant target))⟩, ⟨.extraArguments, k + made⟩],
          { d.enter (xs.filterMap (guardAt constant target)) with cuts := final }, none⟩ := by
  have found : ∀ (x : Node.Located) (rest : List Node.Located), (x :: rest).filterMap (guardAt constant target) =
      (guardAt constant target x).toList ++ rest.filterMap (guardAt constant target) := by
    intro x rest
    rw [List.filterMap_cons]
    cases guardAt constant target x <;> rfl
  have weights : ∀ front back, Guard.weights (front ++ back) = Guard.weights front + Guard.weights back := by
    intro front back
    induction front with
    | nil => simp
    | cons g rest ih => simp [ih, Nat.add_assoc]
  generalize start : d.cuts = cuts at visits
  induction visits generalizing n k d with
  | done =>
    subst start
    exact ⟨0, rfl, rfl⟩
  | @keep x rest cuts final judged _ ih =>
    obtain ⟨made, grown, traversed⟩ :=
      ih (d := d.enter (guardAt constant target x).toList)
        (n + Guard.weights (guardAt constant target x).toList) k start
    refine ⟨made, grown, ?_⟩
    rw [ActiveRule.traverse, visitAll_both, start, judged]
    simp only [Option.isSome_none, Bool.false_eq_true, if_false, traversed, found, weights, Draft.enter_enter,
      Nat.add_assoc]
  | @cut x rest cuts final one judged _ ih =>
    obtain ⟨made, grown, traversed⟩ :=
      ih (d := { d.enter (guardAt constant target x).toList with cuts := one :: cuts })
        (n + Guard.weights (guardAt constant target x).toList) (k + 1) rfl
    refine ⟨made + 1, ?_, ?_⟩
    · rw [grown, List.length_cons]
      omega
    · rw [ActiveRule.traverse, visitAll_both, start, judged]
      simp only [Option.isSome_none, Bool.false_eq_true, if_false, traversed, found, weights, Nat.add_assoc,
        Nat.add_comm 1 made]
      simp only [Draft.enter, List.foldl_append]

end Both

namespace Engine

-- Both rules are in use, and the one on version guards knows its constant and its target.
def onBoth (constant : String) (target : Int) (known : Option Value) (changes counted : Nat) (ambient : Ambient) :
    Engine :=
  ⟨[⟨.versionGuard ⟨constant, some target, known⟩, changes⟩, ⟨.extraArguments, counted⟩], ambient⟩

section

variable (constant : String) (target : Int) (known : Option Value) (changes counted : Nat) (ambient : Ambient)
  (m : Module)

theorem failure_onBoth :
    ((onBoth constant target known changes counted ambient).inspect m).failure =
      ((onCalls counted ambient).inspect m).failure :=
  failure_both constant target known _ 0 0 0 rfl

variable {m} in
theorem inspect_onBoth (calm : ((onCalls counted ambient).inspect m.number).failure = none) :
    ∃ cuts, Visits (.ofModule m.number) (Node.module m.number).located [] cuts ∧
      (onCalls counted ambient).inspect m.number =
        ⟨[⟨.extraArguments, cuts.length⟩], { ambient := ambient, cuts := cuts }, none⟩ ∧
      (onBoth constant target known changes counted ambient).inspect m.number =
        ⟨[⟨.versionGuard ⟨constant, some target, known⟩,
            Guard.weights (m.number.guards (.ofTarget constant target))⟩, ⟨.extraArguments, cuts.length⟩],
          { ambient := ambient, edits := .ofGuards (m.number.guards (.ofTarget constant target)), cuts := cuts },
          none⟩ := by
  obtain ⟨cuts, visits, alone⟩ := inspect_onCalls calm
  obtain ⟨made, grown, together⟩ := traverse_both constant target known (d := { ambient := ambient }) visits 0 0
  refine ⟨cuts, visits, alone, ?_⟩
  rw [List.length_nil] at grown
  rw [found_in_module, ← grown, Nat.zero_add] at together
  exact together

theorem applied_append (front back : List ActiveRule) : applied (front ++ back) = applied front ++ applied back := by
  rw [applied, List.filter_append, List.map_append, applied, applied]

section

variable {counted ambient m} (calm : ((onCalls counted ambient).inspect m.number).failure = none)

include calm

theorem applied_onBoth :
    applied ((onBoth constant target known changes counted ambient).inspect m.number).rules =
      applied ((onGuards constant target known changes ambient).inspect m.number).rules ++
        applied ((onCalls counted ambient).inspect m.number).rules := by
  obtain ⟨cuts, -, alone, together⟩ := inspect_onBoth constant target known changes counted ambient calm
  rw [together, alone, inspect_onGuards, ← applied_append]
  rfl

theorem draft_onBoth :
    ((onBoth constant target known changes counted ambient).inspect m.number).draft =
      { ((onGuards constant target known changes ambient).inspect m.number).draft with
        cuts := ((onCalls counted ambient).inspect m.number).draft.cuts } := by
  obtain ⟨cuts, -, alone, together⟩ := inspect_onBoth constant target known changes counted ambient calm
  rw [together, alone, inspect_onGuards]

theorem finish_onBoth :
    finish m.number ((onBoth constant target known changes counted ambient).inspect m.number).draft =
      .ok ((m.number.cut ((onCalls counted ambient).inspect m.number).draft.cuts).prune
        (.ofTarget constant target)).fill := by
  rw [draft_onBoth constant target known changes calm, inspect_onGuards]
  exact finish_cut (Verdicts.blind_ofTarget constant target) m _ ambient

theorem record_onBoth (path source : String) :
    ((onBoth constant target known changes counted ambient).pass m).2.bind (record path source) =
      record path source
        (applied ((onGuards constant target known changes ambient).inspect m.number).rules ++
            applied ((onCalls counted ambient).inspect m.number).rules,
          ((m.number.cut ((onCalls counted ambient).inspect m.number).draft.cuts).prune
            (.ofTarget constant target)).fill) := by
  have names := applied_onBoth constant target known changes calm
  have finished := finish_onBoth constant target known changes calm
  rw [← failure_onBoth constant target known changes] at calm
  rw [← names]
  cases listed : applied ((onBoth constant target known changes counted ambient).inspect m.number).rules with
  | nil =>
    rw [pass_of_idle calm listed]
    rfl
  | cons name rest =>
    rw [pass_of_busy calm listed (List.cons_ne_nil _ _) finished]
    rfl

end

theorem applied_of_unparsed (e : Engine) {path source : String} {c : Change} {err : ParseError}
    (unparsed : Module.parse source.toList = .error err) (ran : (e.run path source).2 = .ok c) : c.applied = [] := by
  cases err with
  | malformed =>
    simp only [run, unparsed] at ran
    cases ran
    rfl
  | _ => simp [run, unparsed] at ran

variable {counted ambient m} in
theorem listed_onBoth {path source : String} {c : Change} (parsed : Module.parse source.toList = .ok m)
    (ran : ((onBoth constant target known changes counted ambient).run path source).2 = .ok c) :
    ((onCalls counted ambient).inspect m.number).failure = none ∧
      c.applied = applied ((onGuards constant target known changes ambient).inspect m.number).rules ++
        applied ((onCalls counted ambient).inspect m.number).rules := by
  have calm : ((onCalls counted ambient).inspect m.number).failure = none := by
    rw [← failure_onBoth constant target known changes]
    rw [run_of_parsed _ path parsed] at ran
    cases made : ((onBoth constant target known changes counted ambient).pass m).2 with
    | error f => simp [made, Except.bind] at ran
    | ok result => exact (names_of_pass made).1
  exact ⟨calm, (applied_of_run parsed ran).trans (applied_onBoth constant target known changes calm)⟩

end

-- The order of the rules only shows in the order of their names. Where every annotation that is asked for can be read,
-- each rule is listed as if it were alone, and what is cut is edited as the rule on guards would edit the whole.
theorem rules_independent (constant : String) (target : Int) (known : Option Value) (changes counted : Nat)
    (ambient : Ambient) (path source : String) :
    let guards := onGuards constant target known changes ambient
    let calls := onCalls counted ambient
    let both := onBoth constant target known changes counted ambient
    (both.turned.run path source).2 =
        (both.run path source).2.map (fun c => { c with applied := c.applied.reverse }) ∧
    (∀ c, (both.run path source).2 = .ok c →
      c.applied.Sublist ["remove_version_id_check", "remove_extra_arguments"] ∧
      (∀ alone, (guards.run path source).2 = .ok alone →
        ("remove_version_id_check" ∈ c.applied ↔ "remove_version_id_check" ∈ alone.applied)) ∧
      ∀ alone, (calls.run path source).2 = .ok alone →
        ("remove_extra_arguments" ∈ c.applied ↔ "remove_extra_arguments" ∈ alone.applied)) ∧
    ∀ m, Module.parse source.toList = .ok m →
      let v := Verdicts.ofTarget constant target
      let cuts := (calls.inspect m.number).draft.cuts
      match (calls.inspect m.number).failure with
      | some f =>
        (both.run path source).2 = .error f ∧ (calls.run path source).2 = .error f ∧
          ∃ e, f = .source e ∧ Refuses (Node.module m.number).walk e
      | none =>
        let names := applied (guards.inspect m.number).rules ++ applied (calls.inspect m.number).rules
        applied (both.inspect m.number).rules = names ∧
        (both.inspect m.number).draft = { (guards.inspect m.number).draft with cuts := cuts } ∧
        finish m.number (both.inspect m.number).draft = .ok ((m.number.cut cuts).prune v).fill ∧
        (m.number.cut cuts).prune v = (m.number.prune v).cut cuts ∧
        (both.run path source).2 = record path source (names, ((m.number.cut cuts).prune v).fill) := by
  intro guards calls both
  refine ⟨run_turned _ changes counted ambient path source, ?_, ?_⟩
  · intro c ran
    cases parsed : Module.parse source.toList with
    | error err =>
      have nothing := applied_of_unparsed both parsed ran
      refine ⟨nothing ▸ List.nil_sublist _, fun alone other => ?_, fun alone other => ?_⟩
      · rw [nothing, applied_of_unparsed guards parsed other]
      · rw [nothing, applied_of_unparsed calls parsed other]
    | ok m =>
      obtain ⟨calm, listed⟩ := listed_onBoth constant target known changes parsed ran
      obtain ⟨cuts, -, made⟩ := inspect_onCalls calm
      refine ⟨?_, fun alone other => ?_, fun alone other => ?_⟩
      · rw [listed, applied_onGuards, made, applied_onCalls]
        split <;> split <;> decide
      · rw [listed, applied_of_run parsed other, made, applied_onCalls, applied_onGuards]
        split <;> split <;> simp
      · rw [listed, applied_of_run parsed other, made, applied_onCalls, applied_onGuards]
        split <;> split <;> simp
  · intro m parsed v cuts
    split
    · rename_i f failed
      have together : (both.inspect m.number).failure = some f := (failure_onBoth ..).trans failed
      rw [run_of_parsed both path parsed, run_of_parsed calls path parsed, pass_of_failed together,
        pass_of_failed failed]
      exact ⟨rfl, rfl, failure_onCalls failed⟩
    · rename_i calm
      refine ⟨applied_onBoth constant target known changes calm, draft_onBoth constant target known changes calm,
        finish_onBoth constant target known changes calm, Module.prune_cut cuts (Verdicts.blind_ofTarget _ _) _, ?_⟩
      rw [run_of_parsed both path parsed]
      exact record_onBoth constant target known changes calm path source

-- One call goes away with its guard, the other is cut.
theorem rules_independent_listed :
    let both := onBoth "V" 8 none 0 0 ⟨.ok .null, 0⟩
    let source := "if V<9:len(0,1)\nlen(0,2)\n"
    let names := ["remove_version_id_check", "remove_extra_arguments"]
    (both.run "a.py" source).2 =
        .ok { path := "a.py", before := source, after := "len(0)\n", applied := names } ∧
      (both.turned.run "a.py" source).2 =
        .ok { path := "a.py", before := source, after := "len(0)\n", applied := names.reverse } := by
  intro both source names
  obtain ⟨m, parsed, calm, listed, written⟩ : ∃ m, Module.parse source.toList = .ok m ∧
      ((onCalls 0 ⟨.ok .null, 0⟩).inspect m.number).failure.isNone ∧
      applied ((onGuards "V" 8 none 0 ⟨.ok .null, 0⟩).inspect m.number).rules ++
        applied ((onCalls 0 ⟨.ok .null, 0⟩).inspect m.number).rules = names ∧
      ((m.number.cut ((onCalls 0 ⟨.ok .null, 0⟩).inspect m.number).draft.cuts).prune (.ofTarget "V" 8)).fill.render =
        .ok "len(0)\n" :=
    Module.exists_parsed (by decide +kernel)
  obtain ⟨turned, -, parsing⟩ := rules_independent "V" 8 none 0 0 ⟨.ok .null, 0⟩ "a.py" source
  have outcome := parsing m parsed
  rw [Option.isNone_iff_eq_none.mp calm] at outcome
  obtain ⟨-, -, -, -, ran⟩ := outcome
  rw [listed] at ran
  have both : (both.run "a.py" source).2 =
      .ok { path := "a.py", before := source, after := "len(0)\n", applied := names } := by
    rw [ran]
    simp only [record, names, written]
  refine ⟨both, ?_⟩
  rw [turned, both]
  rfl

end Engine

end Whittle
