import Mathlib.Data.List.Nodup
import Whittle.Rule.Basic

namespace Whittle

namespace VersionGuard

-- The target is taken from the token that was given or asked for.
def take (asked : Except Failure Value × VersionGuard × Ambient) : Option Failure × VersionGuard × Ambient :=
  match asked.1.bind asked.2.1.setTarget with
  | .ok g => (none, g, asked.2.2)
  | .error e => (some e, asked.2.1, asked.2.2)

theorem configure_eq (options : List (Value × Value)) (g : VersionGuard) (a : Ambient) :
    g.configure options a =
      take (match targetOf? options with
        | some v => (.ok v, { g with constant := constantOf options }, a)
        | none => askAmbient { g with constant := constantOf options } a) := rfl

theorem take_of_token (g : VersionGuard) (a : Ambient) (v : Value) :
    take (.ok v, g, a) =
      match Version.id v with
      | .ok n => (none, { g with target := some n }, a)
      | .error e => (some (.version e), g, a) := by
  simp only [take, Except.bind, setTarget]
  cases Version.id v <;> rfl

theorem isSome_target_of_configure {options : List (Value × Value)} {g g' : VersionGuard} {a a' : Ambient}
    (configured : g.configure options a = (none, g', a')) : g'.target.isSome := by
  rw [configure_eq] at configured
  generalize (match targetOf? options with
    | some v => (Except.ok v, { g with constant := constantOf options }, a)
    | none => askAmbient { g with constant := constantOf options } a) = asked at configured
  obtain ⟨token, g, a⟩ := asked
  cases token with
  | error e => cases configured
  | ok v =>
    rw [take_of_token] at configured
    split at configured
    · cases configured
      rfl
    · cases configured

end VersionGuard

namespace Rule

-- The rule has all that it needs to know.
def isConfigured : Rule → Bool
  | .versionGuard g => g.target.isSome
  | .extraArguments => true

theorem isConfigured_of_configure {options : List (Value × Value)} {r r' : Rule} {a a' : Ambient}
    (configured : r.configure options a = (none, r', a')) : r'.isConfigured ∧ r'.name = r.name := by
  cases r with
  | extraArguments =>
    cases configured
    exact ⟨rfl, rfl⟩
  | versionGuard g =>
    cases made : g.configure options a with
    | mk e rest =>
      simp only [configure, made, Prod.mk.injEq] at configured
      obtain ⟨rfl, rfl, rfl⟩ := configured
      exact ⟨VersionGuard.isSome_target_of_configure made, rfl⟩

theorem isConfigured_of_configureAll {wanted : List (Rule × List (Value × Value))} {a : Ambient} {rules : List Rule}
    (made : configureAll a wanted = .ok rules) :
    (∀ r ∈ rules, r.isConfigured) ∧ rules.map name = wanted.map fun w => w.1.name := by
  induction wanted generalizing a rules with
  | nil =>
    cases made
    exact ⟨List.forall_mem_nil _, rfl⟩
  | cons w rest ih =>
    obtain ⟨r, options⟩ := w
    rw [configureAll] at made
    split at made
    · cases made
    · rename_i r' a' configured
      cases later : configureAll a' rest with
      | error e => simp [later, bind, Except.bind] at made
      | ok others =>
        rw [later] at made
        cases made
        obtain ⟨here, name⟩ := isConfigured_of_configure configured
        obtain ⟨there, names⟩ := ih later
        exact ⟨List.forall_mem_cons.mpr ⟨here, there⟩, by rw [List.map_cons, List.map_cons, name, names]⟩

theorem ofName_of_mem {n : String} (known : n ∈ names) : ∃ r, ofName? n = some r ∧ r.name = n := by
  obtain ⟨r, member, named⟩ := List.mem_map.mp known
  have found : (ofName? n).isSome := List.find?_isSome.mpr ⟨r, member, by simp [named]⟩
  obtain ⟨r, found⟩ := Option.isSome_iff_exists.mp found
  exact ⟨r, found, by simpa using List.find?_some found⟩

theorem isConfigured_of_create {a : Ambient} {wanted : List (String × List (Value × Value))} {rules : List Rule}
    (created : create a wanted = .ok rules) :
    (∀ r ∈ rules, r.isConfigured) ∧ rules.map name = wanted.map Prod.fst := by
  unfold create at created
  simp only at created
  split at created
  · rename_i unknown
    obtain ⟨configured, named⟩ := isConfigured_of_configureAll created
    refine ⟨configured, named.trans ?_⟩
    have known : ∀ w ∈ wanted, w.1 ∈ names := by
      simpa [List.isEmpty_iff, List.filter_eq_nil_iff] using unknown
    rw [List.map_filterMap, ← List.filterMap_eq_map]
    refine List.filterMap_congr fun w member => ?_
    obtain ⟨r, found, name⟩ := ofName_of_mem (known w member)
    simp [found, name]
  · cases created

-- There are but two rules, so there are few lists of distinct ones.
theorem cases_of_distinct {rules : List Rule} (distinct : (rules.map name).Nodup) :
    rules = [] ∨ (∃ g, rules = [.versionGuard g]) ∨ rules = [.extraArguments] ∨
      (∃ g, rules = [.versionGuard g, .extraArguments]) ∨ ∃ g, rules = [.extraArguments, .versionGuard g] := by
  match rules with
  | [] => simp
  | [.versionGuard g] => simp
  | [.extraArguments] => simp
  | [.versionGuard g, .extraArguments] => simp
  | [.extraArguments, .versionGuard g] => simp
  | .versionGuard _ :: .versionGuard _ :: _ | .extraArguments :: .extraArguments :: _ =>
    exact absurd List.mem_cons_self (List.nodup_cons.mp distinct).1
  | .versionGuard _ :: .extraArguments :: .versionGuard _ :: _
  | .extraArguments :: .versionGuard _ :: .extraArguments :: _ =>
    exact absurd (List.mem_cons_of_mem _ List.mem_cons_self) (List.nodup_cons.mp distinct).1
  | .versionGuard _ :: .extraArguments :: .extraArguments :: _
  | .extraArguments :: .versionGuard _ :: .versionGuard _ :: _ =>
    exact absurd List.mem_cons_self (List.nodup_cons.mp (List.nodup_cons.mp distinct).2).1

end Rule

end Whittle
