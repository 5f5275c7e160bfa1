import Whittle.CommandLine.Run
import Whittle.Proofs.Config.Loading
import Whittle.Proofs.Rule.Reuse

namespace Whittle

namespace VersionGuard

variable {g : VersionGuard} {a : Ambient} {options : List (Value × Value)}

theorem askAmbient_token (g : VersionGuard) (a : Ambient) : (g.askAmbient a).2.2.token = a.token := by
  unfold askAmbient
  split
  · rfl
  · dsimp only
    split <;> rename_i answer <;> exact answer.symm ▸ rfl

theorem take_ambient (asked : Except Failure Value × VersionGuard × Ambient) : (take asked).2.2 = asked.2.2 := by
  unfold take
  split <;> rfl

theorem configure_token (options : List (Value × Value)) (g : VersionGuard) (a : Ambient) :
    (g.configure options a).2.2.token = a.token := by
  rw [configure_eq, take_ambient]
  cases targetOf? options with
  | some v => rfl
  | none => exact askAmbient_token _ a

end VersionGuard

namespace Rule

-- The ambient version is asked for: a rule has no target of its own, and no rule before it is refused.
inductive Asks : List (String × List (Value × Value)) → Prop
  | here {options : List (Value × Value)} {rest : List (String × List (Value × Value))} :
    VersionGuard.targetOf? options = none → (∀ w ∈ rest, w.1 ∈ names) → Asks ((VersionGuard.ruleName, options) :: rest)
  | aimed {options : List (Value × Value)} {rest : List (String × List (Value × Value))} {v : Value} {n : Int} :
    VersionGuard.targetOf? options = some v → Version.id v = .ok n → Asks rest →
    Asks ((VersionGuard.ruleName, options) :: rest)
  | other {name : String} {options : List (Value × Value)} {rest : List (String × List (Value × Value))} :
    name ∈ names → name ≠ VersionGuard.ruleName → Asks rest → Asks ((name, options) :: rest)

theorem Asks.known {wanted : List (String × List (Value × Value))} (asks : Asks wanted) : ∀ w ∈ wanted, w.1 ∈ names := by
  have guard : VersionGuard.ruleName ∈ names := by decide
  induction asks with
  | here _ later => exact List.forall_mem_cons.mpr ⟨guard, later⟩
  | aimed _ _ _ ih => exact List.forall_mem_cons.mpr ⟨guard, ih⟩
  | other known _ _ ih => exact List.forall_mem_cons.mpr ⟨known, ih⟩

-- The rules of the given names, before they take their options.
def fresh (wanted : List (String × List (Value × Value))) : List (Rule × List (Value × Value)) :=
  wanted.filterMap fun (n, options) => (ofName? n).map (·, options)

theorem fresh_cons {name : String} (known : name ∈ names) (options : List (Value × Value))
    (rest : List (String × List (Value × Value))) :
    name = VersionGuard.ruleName ∧ fresh ((name, options) :: rest) = (.versionGuard {}, options) :: fresh rest ∨
      name ≠ VersionGuard.ruleName ∧ fresh ((name, options) :: rest) = (.extraArguments, options) :: fresh rest := by
  have listed : names = [VersionGuard.ruleName, ExtraArguments.ruleName] := rfl
  rw [listed, List.mem_cons, List.mem_singleton] at known
  rcases known with rfl | rfl
  · exact .inl ⟨rfl, rfl⟩
  · exact .inr ⟨by decide, rfl⟩

section

variable {a : Ambient} {f : Failure} {options : List (Value × Value)} {rest : List (Rule × List (Value × Value))}

theorem configureAll_of_refused {g : VersionGuard} {e : Failure} (refused : (g.configure options a).1 = some e) :
    configureAll a ((.versionGuard g, options) :: rest) = .error e := by
  rw [configureAll, configure]
  generalize g.configure options a = result at refused
  obtain ⟨error, g', a'⟩ := result
  cases refused
  rfl

end

theorem create_cases (a : Ambient) (wanted : List (String × List (Value × Value))) :
    (∀ w ∈ wanted, w.1 ∈ names) ∧ create a wanted = configureAll a (fresh wanted) ∨
      ¬(∀ w ∈ wanted, w.1 ∈ names) ∧ ∃ unknown, create a wanted = .error (.unknownRules unknown names) := by
  unfold create
  dsimp only
  split
  · rename_i none
    refine .inl ⟨?_, rfl⟩
    simpa [List.isEmpty_iff, List.filter_eq_nil_iff] using none
  · rename_i some
    refine .inr ⟨fun known => some ?_, _, rfl⟩
    simpa [List.isEmpty_iff, List.filter_eq_nil_iff] using known

end Rule

namespace Manifest

end Manifest

namespace CommandLine

end CommandLine

end Whittle
