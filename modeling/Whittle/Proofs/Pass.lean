import Whittle.Proofs.Run

namespace Whittle.Engine

-- The module with the names of the rules that counted a change, as far as no rule failed.
def pass (e : Engine) (m : Module) : Engine × Except Failure (List String × Module) :=
  let s := e.inspect m.number
  (⟨s.rules, s.draft.ambient⟩,
    match s.failure with
    | some f => .error f
    | none =>
      match applied s.rules with
      | [] => .ok ([], m.number.cut s.draft.cuts)
      | names => (finish m.number s.draft).map (names, ·))

-- What is recorded of a pass.
def record (path source : String) : List String × Module → Except Failure Change
  | ([], _) => .ok { path := path, before := source, after := source }
  | (names, m) =>
    match m.render with
    | .ok after => .ok { path := path, before := source, after := after, applied := names }
    | .error f => .error (.render f)

section

variable {e : Engine} {m : Module}

theorem run_of_parsed (e : Engine) (path : String) {source : String} (parsed : Module.parse source.toList = .ok m) :
    e.run path source = ((e.pass m).1, (e.pass m).2.bind (record path source)) := by
  simp only [run, parsed, pass]
  cases (e.inspect m.number).failure with
  | some f => rfl
  | none =>
    cases applied (e.inspect m.number).rules with
    | nil => rfl
    | cons name rest =>
      simp only [bind, Except.bind]
      cases finish m.number (e.inspect m.number).draft with
      | error f => rfl
      | ok written => simp only [Except.map, record]; cases written.render <;> rfl

theorem pass_of_failed {f : Failure} (failed : (e.inspect m.number).failure = some f) : (e.pass m).2 = .error f := by
  simp only [pass, failed]

theorem pass_of_idle (calm : (e.inspect m.number).failure = none) (idle : applied (e.inspect m.number).rules = []) :
    (e.pass m).2 = .ok ([], m.number.cut (e.inspect m.number).draft.cuts) := by
  simp only [pass, calm, idle]

theorem pass_of_busy {names : List String} {written : Module} (calm : (e.inspect m.number).failure = none)
    (busy : applied (e.inspect m.number).rules = names) (some : names ≠ [])
    (finished : finish m.number (e.inspect m.number).draft = .ok written) : (e.pass m).2 = .ok (names, written) := by
  simp only [pass, calm, busy, finished]
  cases names with
  | nil => exact absurd rfl some
  | cons name rest => rfl

theorem names_of_pass {names : List String} {written : Module} (made : (e.pass m).2 = .ok (names, written)) :
    (e.inspect m.number).failure = none ∧ names = applied (e.inspect m.number).rules := by
  simp only [pass] at made
  cases failure : (e.inspect m.number).failure with
  | some f => simp [failure] at made
  | none =>
    rw [failure] at made
    refine ⟨rfl, ?_⟩
    cases listed : applied (e.inspect m.number).rules with
    | nil =>
      rw [listed] at made
      cases made
      rfl
    | cons name rest =>
      rw [listed] at made
      cases finished : finish m.number (e.inspect m.number).draft with
      | error f => simp [finished, Except.map] at made
      | ok written =>
        rw [finished] at made
        cases made
        rfl

theorem applied_of_run {path source : String} {c : Change} (parsed : Module.parse source.toList = .ok m)
    (ran : (e.run path source).2 = .ok c) : c.applied = applied (e.inspect m.number).rules := by
  rw [run_of_parsed e path parsed] at ran
  cases made : (e.pass m).2 with
  | error f => simp [made, Except.bind] at ran
  | ok result =>
    obtain ⟨names, written⟩ := result
    rw [← (names_of_pass made).2]
    rw [made] at ran
    change record path source (names, written) = .ok c at ran
    cases names with
    | nil =>
      cases ran
      rfl
    | cons name rest =>
      simp only [record] at ran
      split at ran
      · cases ran
        rfl
      · cases ran

-- Earlier counts of changes make no difference.
theorem inspect_of_rules {e e' : Engine} (rules : e.rules.map ActiveRule.rule = e'.rules.map ActiveRule.rule)
    (ambient : e.ambient = e'.ambient) (m : Module) : e.inspect m = e'.inspect m := by
  have fresh : ∀ rules : List ActiveRule,
      (rules.map fun r => { r with changes := 0 }) = (rules.map ActiveRule.rule).map fun r => ⟨r, 0⟩ := by
    intro rules
    rw [List.map_map]
    rfl
  rw [inspect, inspect, fresh, fresh, rules, ambient]

end

-- One pass after the other, each over what the one before has made; a failure stops.
def passes (e : Engine) : Nat → Module → Engine × Except Failure Module
  | 0, m => (e, .ok m)
  | k + 1, m =>
    match e.pass m with
    | (e, .ok (_, m)) => e.passes k m
    | (e, .error f) => (e, .error f)

end Whittle.Engine
