import Whittle.Proofs.Callable.Search

namespace Whittle

namespace Namespace

-- The collection of ancestors, as it goes without a bound. There is no result unless it ends.
def gather (ns : Namespace) (className : String) : StateT (List String) Option Unit := do
  let some c := ns.classes.find? className | return
  if (← get).contains className then return
  modify (className :: ·)
  c.bases.forM fun base => do
    if ns.classes.has base then ns |>.gather base
partial_fixpoint

mutual

-- The search for a method, as it goes without a bound.
def seek (ns : Namespace) (method className : String) : StateT (List String) Option (Option (List FunctionHead)) := do
  let some c := ns.classes.find? className | return none
  if (← get).contains className then return none
  modify (className :: ·)
  if c.assigned.contains method then return none
  if let some defs := c.methods.find? method then return some defs
  if method == "__init__" && !c.head.decorators.isEmpty then return none
  ns |>.seekAmong method c.bases
partial_fixpoint

def seekAmong (ns : Namespace) (method : String) :
    List String → StateT (List String) Option (Option (List FunctionHead))
  | [] => return none
  | base :: rest => do
    if base == "object" then ns |>.seekAmong method rest
    else if !ns.classes.has base then return none
    else
      match ← ns |>.seek method base with
      | some defs => return some defs
      | none => ns |>.seekAmong method rest
partial_fixpoint

end

variable {ns : Namespace} {method : String}

theorem gather_bases {fuel : Nat}
    (each : ∀ x seen, ns.unseen seen < fuel → (ns.gather x).run seen = some ((), ns.collectAncestors fuel seen x))
    (bases seen : List String) (enough : ns.unseen seen < fuel) :
    (forM bases fun base => if ns.classes.has base then ns.gather base else pure ()).run seen =
      some ((), bases.foldl (ns.collectBase fuel) seen) := by
  induction bases generalizing seen with
  | nil => rfl
  | cons base rest ih =>
    rw [List.forM_cons, StateT.run_bind, List.foldl_cons, collectBase]
    by_cases known : ns.classes.has base
    · rw [if_pos known, if_pos known, each base seen enough]
      have grown := (spans_collectAncestors fuel seen base enough).1.1
      exact ih _ (Nat.lt_of_le_of_lt (unseen_mono grown) enough)
    · rw [if_neg known, if_neg known]
      exact ih seen enough

theorem gather_eq {fuel : Nat} {x : String} {seen : List String} (enough : ns.unseen seen < fuel) :
    (ns.gather x).run seen = some ((), ns.collectAncestors fuel seen x) := by
  induction fuel generalizing x seen with
  | zero => omega
  | succ fuel ih =>
    rw [gather]
    cases known : ns.classes.find? x with
    | none => simp [collectAncestors, known]
    | some c =>
      rw [collectAncestors_at known]
      by_cases old : x ∈ seen
      · simp [old]
      · have left := unseen_enter known old
        have above := gather_bases (fun y seen => ih) c.bases (x :: seen) (by omega)
        simpa [old] using above

theorem subset_firstOfBases {search : String → StateM (List String) (Option (List FunctionHead))}
    (each : ∀ base seen, seen ⊆ (search base seen).2) (bases seen : List String) :
    seen ⊆ (ns.firstOfBases search bases seen).2 := by
  induction bases generalizing seen with
  | nil => exact List.Subset.refl _
  | cons base rest ih =>
    rw [firstOfBases_at]
    split
    · exact ih seen
    · split
      · exact List.Subset.refl _
      · have grown := each base seen
        generalize search base seen = outcome at grown
        obtain ⟨_ | defs, after⟩ := outcome
        · exact List.Subset.trans grown (ih after)
        · exact grown

theorem subset_searchMethod {fuel : Nat} (x : String) (seen : List String) :
    seen ⊆ (ns.searchMethod method fuel x seen).2 := by
  induction fuel generalizing x seen with
  | zero => exact List.Subset.refl _
  | succ fuel ih =>
    cases known : ns.classes.find? x with
    | none =>
      rw [searchMethod_of_unknown known]
      exact List.Subset.refl _
    | some c =>
      by_cases old : x ∈ seen
      · rw [searchMethod_of_seen old]
        exact List.Subset.refl _
      · rw [searchMethod_of_fresh known old]
        split
        · exact List.Subset.trans (List.subset_cons_self x seen) (subset_firstOfBases ih c.bases _)
        · exact List.subset_cons_self x seen

theorem seek_bases {fuel : Nat}
    (each : ∀ x seen, ns.unseen seen < fuel → (ns.seek method x).run seen = some (ns.searchMethod method fuel x seen))
    (bases seen : List String) (enough : ns.unseen seen < fuel) :
    (ns.seekAmong method bases).run seen = some (ns.firstOfBases (ns.searchMethod method fuel) bases seen) := by
  induction bases generalizing seen with
  | nil => rw [seekAmong, firstOfBases]; rfl
  | cons base rest ih =>
    rw [seekAmong, firstOfBases_at]
    split
    · exact ih seen enough
    · split
      · rfl
      · have grown : seen ⊆ (ns.searchMethod method fuel base seen).2 := subset_searchMethod base seen
        rw [StateT.run_bind, each base seen enough]
        generalize ns.searchMethod method fuel base seen = outcome at grown
        obtain ⟨_ | defs, after⟩ := outcome
        · exact ih after (Nat.lt_of_le_of_lt (unseen_mono grown) enough)
        · rfl

theorem seek_of_fresh {x : String} {c : ClassEntry} {seen : List String} (known : ns.classes.find? x = some c)
    (fresh : x ∉ seen) :
    (ns.seek method x).run seen =
      if c.leaves method then (ns.seekAmong method c.bases).run (x :: seen)
      else some (c.own? method, x :: seen) := by
  rw [seek, known, ClassEntry.leaves, ClassEntry.own?, ClassEntry.binds, Table.has]
  by_cases taken : method ∈ c.assigned
  · simp [fresh, taken]
  · cases found : c.methods.find? method with
    | some defs => simp [fresh, taken, found]
    | none =>
      cases generated : method == "__init__" && !c.head.decorators.isEmpty <;> simp [fresh, taken, found, generated]

theorem seek_eq {fuel : Nat} {x : String} {seen : List String} (enough : ns.unseen seen < fuel) :
    (ns.seek method x).run seen = some (ns.searchMethod method fuel x seen) := by
  induction fuel generalizing x seen with
  | zero => omega
  | succ fuel ih =>
    cases known : ns.classes.find? x with
    | none => simp [seek, known, searchMethod_of_unknown known]
    | some c =>
      by_cases old : x ∈ seen
      · simp [seek, known, old, searchMethod_of_seen old]
      · have left := unseen_enter known old
        rw [seek_of_fresh known old, searchMethod_of_fresh known old]
        split
        · exact seek_bases (fun y seen => ih) c.bases (x :: seen) (by omega)
        · rfl

-- A class is entered once only, so neither recursion needs a bound, whether classes inherit in a circle, from
-- themselves or twice from the same base.
theorem ascents_end (ns : Namespace) (x : String) :
    (ns.gather x).run [] = some ((), ns.ancestors x) ∧
    (∀ y, y ∈ ns.ancestors x ↔ ns.Inherits x y) ∧
    ∀ method, (∃ seen, (ns.seek method x).run [] = some (ns.lookupMethod x method, seen)) ∧
      ∀ defs, ns.lookupMethod x method = some defs →
        ∃ path y d, ns.Leads x path y ∧ ns.classes.find? y = some d ∧
          d.methods.find? method = some defs ∧ method ∉ d.assigned ∧
          ∀ c ∈ path, c.binds method = false ∧ (method = "__init__" → c.head.decorators = []) := by
  refine ⟨gather_eq enough_at_start, fun y => mem_ancestors_iff, fun method => ⟨?_, fun defs found => ?_⟩⟩
  · exact ⟨_, seek_eq enough_at_start⟩
  · obtain ⟨path, y, d, leads, silent, there, own⟩ := leads_of_search found
    rw [ClassEntry.own?] at own
    split at own
    · cases own
    · rename_i free
      refine ⟨path, y, d, leads, there, own, by simpa using free, fun c member => ?_⟩
      have leaves := silent c member
      refine ⟨ClassEntry.silent_of_leaves leaves, ?_⟩
      intro initialiser
      have plain : c.binds method = false ∧ c.head.decorators = [] := by
        simpa [ClassEntry.leaves, initialiser] using leaves
      exact plain.2

-- Each class is below itself, two of them are below each other, and one has the same base twice.
def looping : Module :=
  ⟨[.classOf "A" ["A", "B", "B"] [], .classOf "B" ["B", "A", "C"] [], .classOf "C" [] [.method "m" [] ["self"] []]]⟩

theorem ascents_end_looping :
    ((ofModule looping).gather "A").run [] = some ((), ["C", "B", "A"]) ∧
      ∃ defs, (ofModule looping).lookupMethod "A" "m" = some defs ∧
        ∃ path y d, (ofModule looping).Leads "A" path y ∧ (ofModule looping).classes.find? y = some d ∧
          d.methods.find? "m" = some defs ∧ "m" ∉ d.assigned ∧ ∀ c ∈ path, c.binds "m" = false := by
  obtain ⟨gathered, -, sought⟩ := ascents_end (ofModule looping) "A"
  refine ⟨gathered, _, rfl, ?_⟩
  obtain ⟨path, y, d, leads, there, own, free, silent⟩ := (sought "m").2 _ rfl
  exact ⟨path, y, d, leads, there, own, free, fun c member => (silent c member).1⟩

end Namespace

end Whittle
