import Whittle.Refactor

namespace Whittle

theorem Module.exists_parsed {source : List Char} {P : Module → Prop} [DecidablePred P]
    (holds : (match Module.parse source with | .ok m => decide (P m) | .error _ => false) = true) :
    ∃ m, Module.parse (String.ofList source).toList = .ok m ∧ P m := by
  rw [String.toList_ofList]
  cases parsed : Module.parse source with
  | ok m =>
    rw [parsed] at holds
    exact ⟨m, rfl, of_decide_eq_true holds⟩
  | error e =>
    rw [parsed] at holds
    cases holds

-- The text is read as the module, but for labels.
def Module.IsReadFrom (m : Module) (text : String) : Prop :=
  ∃ reread, Module.parse text.toList = .ok reread ∧ reread.number = m.number

-- What the module is written as is read as the module.
def Module.ReadsBack (m : Module) : Prop := ∀ text, m.render = .ok text → m.IsReadFrom text

namespace Engine

variable {e : Engine} {path source : String} {m written : Module} {names : List String}

theorem run_of_idle (parsed : Module.parse source.toList = .ok m) (calm : (e.inspect m.number).failure = none)
    (idle : applied (e.inspect m.number).rules = []) :
    (e.run path source).2 = .ok { path := path, before := source, after := source } := by
  simp only [run, parsed, calm, idle]

theorem run_of_finished (parsed : Module.parse source.toList = .ok m) (calm : (e.inspect m.number).failure = none)
    (busy : applied (e.inspect m.number).rules = names) (some : names ≠ [])
    (finished : finish m.number (e.inspect m.number).draft = .ok written) :
    (e.run path source).2 =
      match written.render with
      | .ok after => .ok { path := path, before := source, after := after, applied := names }
      | .error f => .error (.render f) := by
  simp only [run, parsed, calm, busy, finished]
  cases names with
  | nil => exact absurd rfl some
  | cons name rest =>
    simp only [bind, Except.bind]
    cases written.render <;> rfl

theorem run_engine (parsed : Module.parse source.toList = .ok m) :
    (e.run path source).1 = ⟨(e.inspect m.number).rules, (e.inspect m.number).draft.ambient⟩ := by
  simp only [run, parsed]
  split
  · rfl
  · split <;> rfl

theorem run_idle_iff (path : String) (reads : m.IsReadFrom source) :
    (e.run path source).2 = .ok { path := path, before := source, after := source } ↔
      (e.inspect m.number).failure = none ∧ applied (e.inspect m.number).rules = [] := by
  obtain ⟨reread, parsed, same⟩ := reads
  rw [← same]
  refine ⟨fun unchanged => ?_, fun ⟨calm, idle⟩ => run_of_idle parsed calm idle⟩
  cases failure : (e.inspect reread.number).failure with
  | some f => simp [run, parsed, failure] at unchanged
  | none =>
    refine ⟨rfl, ?_⟩
    cases busy : applied (e.inspect reread.number).rules with
    | nil => rfl
    | cons name rest =>
      cases finished : finish reread.number (e.inspect reread.number).draft with
      | error f => simp [run, parsed, failure, busy, finished, bind, Except.bind] at unchanged
      | ok written =>
        rw [run_of_finished parsed failure busy (List.cons_ne_nil _ _) finished] at unchanged
        cases render : written.render <;> simp [render] at unchanged

end Engine

end Whittle
