import Whittle.Proofs.Callable.Ancestry
import Whittle.Proofs.Callable.Resolution

namespace Whittle

namespace ClassEntry

-- What the body defines by itself; a method that is bound in another way, too, is unknown.
def own? (c : ClassEntry) (method : String) : Option (List FunctionHead) :=
  if c.assigned.contains method then none else c.methods.find? method

-- Whether a method is left to the bases; a decorator may give a class an initialiser.
def leaves (c : ClassEntry) (method : String) : Bool :=
  !c.binds method && !(method == "__init__" && !c.head.decorators.isEmpty)

theorem own_of_silent {c : ClassEntry} {method : String} (silent : c.binds method = false) : c.own? method = none := by
  rw [binds, Bool.or_eq_false_iff] at silent
  rw [own?, silent.2]
  exact Option.isSome_eq_false_iff.mp silent.1 |> Option.isNone_iff_eq_none.mp

theorem binds_of_own {c : ClassEntry} {method : String} {defs : List FunctionHead} (own : c.own? method = some defs) :
    c.binds method := by
  cases bound : c.binds method with
  | true => rfl
  | false =>
    rw [own_of_silent bound] at own
    cases own

theorem silent_of_leaves {c : ClassEntry} {method : String} (leaves : c.leaves method) : c.binds method = false := by
  rw [ClassEntry.leaves, Bool.and_eq_true, Bool.not_eq_true'] at leaves
  exact leaves.1

end ClassEntry

-- A method of plain parameters.
def Stmt.method (name : String) (decorators params : List String) (body : Block) : Stmt :=
  .func none
    { isAsync := false, name := name, decorators := decorators.map (Expr.name none · .load), returns := none,
      params := .mk none [] (params.map (Param.mk none · none none)) none [] none }
    (.filler :: body)

-- A statement that calls an attribute of a plain name with plain names.
def Stmt.callOn (receiver method : String) (args : List String) : Stmt :=
  .simple none (.expr (.call none (.attribute none (.name none receiver .load) method .load)
    (args.map (Expr.name none · .load)) []))

-- A class on classes that are given by plain names.
def Stmt.classOf (name : String) (bases : List String) (body : Block) : Stmt :=
  .klass none { name := name, bases := bases.map (Expr.name none · .load), keywords := [], decorators := [] } body

namespace Namespace

variable {ns : Namespace} {method : String}

theorem searchMethod_of_unknown {x : String} (unknown : ns.classes.find? x = none) (fuel : Nat) (seen : List String) :
    ns.searchMethod method fuel x seen = (none, seen) := by
  cases fuel with
  | zero => rfl
  | succ fuel =>
    rw [searchMethod, unknown]
    rfl

theorem searchMethod_of_seen {x : String} {seen : List String} (old : x ∈ seen) (fuel : Nat) :
    ns.searchMethod method fuel x seen = (none, seen) := by
  cases fuel with
  | zero => rfl
  | succ fuel =>
    cases known : ns.classes.find? x with
    | none => exact searchMethod_of_unknown known _ _
    | some c => rw [searchMethod_at known, if_pos (by simpa using old)]

theorem searchMethod_of_fresh {x : String} {c : ClassEntry} {seen : List String} (known : ns.classes.find? x = some c)
    (fresh : x ∉ seen) (fuel : Nat) :
    ns.searchMethod method (fuel + 1) x seen =
      if c.leaves method then ns.firstOfBases (ns.searchMethod method fuel) c.bases (x :: seen)
      else (c.own? method, x :: seen) := by
  rw [searchMethod_at known, if_neg (by simpa using fresh), ClassEntry.leaves, ClassEntry.own?, ClassEntry.binds,
    Table.has]
  cases c.assigned.contains method with
  | true => simp
  | false =>
    cases found : c.methods.find? method with
    | some defs => simp
    | none => cases (method == "__init__" && !c.head.decorators.isEmpty) <;> simp

theorem found_in_bases {search : String → StateM (List String) (Option (List FunctionHead))} {bases seen : List String}
    {defs : List FunctionHead} (found : (ns.firstOfBases search bases seen).1 = some defs) :
    ∃ b ∈ bases, ∃ before, (search b before).1 = some defs := by
  induction bases generalizing seen with
  | nil => cases found
  | cons base rest ih =>
    rw [firstOfBases_at] at found
    split at found
    · obtain ⟨b, listed, before, result⟩ := ih found
      exact ⟨b, List.mem_cons_of_mem _ listed, before, result⟩
    · split at found
      · cases found
      · split at found
        · rename_i defs' after result
          refine ⟨base, List.mem_cons_self, seen, ?_⟩
          rw [result]
          exact found
        · obtain ⟨b, listed, before, result⟩ := ih found
          exact ⟨b, List.mem_cons_of_mem _ listed, before, result⟩

-- A way from a class up to another; the list holds the classes before the other one, each with the next among its bases.
inductive Leads (ns : Namespace) : String → List ClassEntry → String → Prop where
  | here (x : String) : Leads ns x [] x
  | up {x b y : String} {c : ClassEntry} {path : List ClassEntry} (known : ns.classes.find? x = some c)
      (listed : b ∈ c.bases) (above : Leads ns b path y) : Leads ns x (c :: path) y

theorem Leads.inherits {x y : String} {path : List ClassEntry} {d : ClassEntry} (leads : ns.Leads x path y)
    (target : ns.classes.find? y = some d) : ns.Inherits x y := by
  induction leads with
  | here x => exact .self target
  | up known listed above ih => exact .base known listed (ih target)

-- The search goes on only where a class has no say, so none of those before the last one has.
theorem leads_of_search {fuel : Nat} {x : String} {seen : List String} {defs : List FunctionHead}
    (found : (ns.searchMethod method fuel x seen).1 = some defs) :
    ∃ path y d, ns.Leads x path y ∧ (∀ c ∈ path, c.leaves method) ∧ ns.classes.find? y = some d ∧
      d.own? method = some defs := by
  induction fuel generalizing x seen with
  | zero => cases found
  | succ fuel ih =>
    cases known : ns.classes.find? x with
    | none =>
      rw [searchMethod_of_unknown known] at found
      cases found
    | some c =>
      by_cases old : x ∈ seen
      · rw [searchMethod_of_seen old] at found
        cases found
      · rw [searchMethod_of_fresh known old] at found
        split at found
        · rename_i leaves
          obtain ⟨b, listed, before, result⟩ := found_in_bases found
          obtain ⟨path, y, d, above, silent, there, own⟩ := ih result
          exact ⟨c :: path, y, d, .up known listed above, List.forall_mem_cons.mpr ⟨leaves, silent⟩, there, own⟩
        · exact ⟨[], x, c, .here x, List.forall_mem_nil _, known, found⟩

theorem inherits_of_search {fuel : Nat} {x : String} {seen : List String} {defs : List FunctionHead}
    (found : (ns.searchMethod method fuel x seen).1 = some defs) :
    ∃ y c, ns.Inherits x y ∧ ns.classes.find? y = some c ∧ c.own? method = some defs := by
  obtain ⟨path, y, d, leads, -, there, own⟩ := leads_of_search found
  exact ⟨y, d, leads.inherits there, there, own⟩

theorem inherits_of_lookup {x : String} {defs : List FunctionHead} (found : ns.lookupMethod x method = some defs) :
    ∃ y c, ns.Inherits x y ∧ ns.classes.find? y = some c ∧ c.own? method = some defs :=
  inherits_of_search found

def IsBase (ns : Namespace) (b x : String) : Prop :=
  ns.classes.has b ∧ ∃ c, ns.classes.find? x = some c ∧ b ∈ c.bases

-- Every way up from the class through the bases comes to an end.
def Grounded (ns : Namespace) (x : String) : Prop := Acc ns.IsBase x

theorem Grounded.base {x b : String} (grounded : ns.Grounded x) (base : ns.IsBase b x) : ns.Grounded b :=
  Acc.inv grounded base

theorem Grounded.not_inherits {x b : String} (grounded : ns.Grounded x) (below : ns.IsBase b x) : ¬ ns.Inherits b x := by
  induction grounded generalizing b with
  | intro x _ ih =>
    intro back
    have ⟨_, c, known, listed⟩ := below
    cases back with
    | self there => exact ih x below below (.self there)
    | base there lower above =>
      -- the way back to `x` goes on to `b`, so the next class on it inherits from `b`
      exact ih b below ⟨above.known, _, there, lower⟩ (above.trans (.base known listed (.self there)))

-- What the bases give, in order; nothing after a base that the module does not define.
def inherited (ns : Namespace) (look : String → Option (List FunctionHead)) : List String → Option (List FunctionHead)
  | [] => none
  | base :: rest =>
    if base == "object" then inherited ns look rest
    else if !ns.classes.has base then none
    else (look base).or (inherited ns look rest)

-- The classes seen that a class inherits from have been searched in vain.
def Spent (ns : Namespace) (method : String) (seen : List String) (x : String) : Prop :=
  ∀ s ∈ seen, ns.Inherits x s → ns.lookupMethod s method = none

-- The search ends with a result; if that is nothing, the classes it went through have nothing.
def Ends (ns : Namespace) (method : String) (seen : List String) (result : Option (List FunctionHead))
    (outcome : Option (List FunctionHead) × List String) : Prop :=
  outcome.1 = result ∧ seen ⊆ outcome.2 ∧
    (result = none → ∀ z ∈ outcome.2, z ∈ seen ∨ ns.lookupMethod z method = none)

theorem ends_at_bases {fuel : Nat} {bases seen : List String} (enough : ns.unseen seen < fuel)
    (each : ∀ b ∈ bases, ns.classes.has b → ∀ seen, ns.unseen seen < fuel → ns.Spent method seen b →
      ns.Ends method seen (ns.lookupMethod b method) (ns.searchMethod method fuel b seen))
    (spent : ∀ b ∈ bases, ns.Spent method seen b) :
    ns.Ends method seen (ns.inherited (ns.lookupMethod · method) bases)
      (ns.firstOfBases (ns.searchMethod method fuel) bases seen) := by
  induction bases generalizing seen with
  | nil => exact ⟨rfl, List.Subset.refl _, fun _ z member => .inl member⟩
  | cons base rest ih =>
    have later : ∀ b ∈ rest, ns.classes.has b → ∀ seen, ns.unseen seen < fuel → ns.Spent method seen b →
        ns.Ends method seen (ns.lookupMethod b method) (ns.searchMethod method fuel b seen) :=
      fun b listed => each b (List.mem_cons_of_mem _ listed)
    rw [firstOfBases_at, inherited]
    split
    · exact ih enough later fun b listed => spent b (List.mem_cons_of_mem _ listed)
    · by_cases known : ns.classes.has base
      · simp only [known, Bool.not_true, Bool.false_eq_true, if_false]
        obtain ⟨result, grown, barren⟩ := each base List.mem_cons_self known seen enough (spent base List.mem_cons_self)
        generalize ns.searchMethod method fuel base seen = outcome at result grown barren
        obtain ⟨found, after⟩ := outcome
        dsimp only at result grown barren
        cases here : ns.lookupMethod base method with
        | some defs =>
          rw [here] at result
          subst result
          exact ⟨rfl, grown, fun none => nomatch none⟩
        | none =>
          rw [here] at result
          subst result
          have vain := barren here
          have next := ih (Nat.lt_of_le_of_lt (unseen_mono grown) enough) later ?_
          · refine ⟨next.1, List.Subset.trans grown next.2.1, fun none z member => ?_⟩
            rcases next.2.2 none z member with early | nothing
            · exact vain z early
            · exact .inr nothing
          · intro b listed z member inherits
            rcases vain z member with early | nothing
            · exact spent b (List.mem_cons_of_mem _ listed) z early inherits
            · exact nothing
      · simp only [known, Bool.not_false, if_true]
        exact ⟨rfl, List.Subset.refl _, fun _ z member => .inl member⟩

-- What a class gives when its bases give what they give.
def answer (ns : Namespace) (method : String) (c : ClassEntry) : Option (List FunctionHead) :=
  if c.leaves method then ns.inherited (ns.lookupMethod · method) c.bases else c.own? method

theorem ends_at_fresh {x : String} {c : ClassEntry} (grounded : ns.Grounded x) (known : ns.classes.find? x = some c)
    (each : ∀ b, ns.IsBase b x → ∀ fuel seen, ns.unseen seen < fuel → ns.Spent method seen b →
      ns.Ends method seen (ns.lookupMethod b method) (ns.searchMethod method fuel b seen))
    {fuel : Nat} {seen : List String} (enough : ns.unseen seen < fuel) (spent : ns.Spent method seen x)
    (fresh : x ∉ seen) :
    let outcome := ns.searchMethod method fuel x seen
    outcome.1 = ns.answer method c ∧ seen ⊆ outcome.2 ∧
      (ns.answer method c = none → ∀ z ∈ outcome.2, z ∈ seen ∨ z = x ∨ ns.lookupMethod z method = none) := by
  intro outcome
  have shape : outcome = ns.searchMethod method fuel x seen := rfl
  obtain ⟨fuel, rfl⟩ : ∃ n, fuel = n + 1 := ⟨fuel - 1, by omega⟩
  rw [searchMethod_of_fresh known fresh] at shape
  rw [answer]
  split at shape
  · have left := unseen_enter known fresh
    have bases := @ends_at_bases ns method fuel c.bases (x :: seen) (by omega)
      (fun b listed there => each b ⟨there, c, known, listed⟩ fuel) ?_
    · rw [if_pos ‹_›, shape]
      refine ⟨bases.1, fun z member => bases.2.1 (List.mem_cons_of_mem _ member), fun none z member => ?_⟩
      rcases bases.2.2 none z member with early | nothing
      · rcases List.mem_cons.mp early with rfl | old
        · exact .inr (.inl rfl)
        · exact .inl old
      · exact .inr (.inr nothing)
    · intro b listed z member inherits
      rcases List.mem_cons.mp member with rfl | old
      · exact absurd inherits (grounded.not_inherits ⟨inherits.known, c, known, listed⟩)
      · exact spent z old (.base known listed inherits)
  · rw [if_neg ‹_›, shape]
    refine ⟨rfl, List.subset_cons_self _ _, fun _ z member => ?_⟩
    rcases List.mem_cons.mp member with rfl | old
    · exact .inr (.inl rfl)
    · exact .inl old

theorem enough_at_start : ns.unseen [] < ns.classes.length + 1 := by
  rw [unseen_nil]
  omega

theorem ends_of_grounded {x : String} (grounded : ns.Grounded x) {fuel : Nat} {seen : List String}
    (enough : ns.unseen seen < fuel) (spent : ns.Spent method seen x) :
    ns.Ends method seen (ns.lookupMethod x method) (ns.searchMethod method fuel x seen) := by
  have all := grounded
  induction grounded generalizing fuel seen with
  | intro x _ ih =>
    cases known : ns.classes.find? x with
    | none =>
      rw [lookupMethod, searchMethod_of_unknown known, searchMethod_of_unknown known]
      exact ⟨rfl, List.Subset.refl _, fun _ z member => .inl member⟩
    | some c =>
      have fresh := @ends_at_fresh ns method x c all known
        (fun b base fuel seen enough spent => ih b base enough spent (all.base base))
      have first := fresh enough_at_start (fun s member => absurd member List.not_mem_nil) List.not_mem_nil
      have value : ns.lookupMethod x method = ns.answer method c := first.1
      by_cases old : x ∈ seen
      · rw [searchMethod_of_seen old, spent x old (.self known)]
        exact ⟨rfl, List.Subset.refl _, fun _ z member => .inl member⟩
      · obtain ⟨result, grown, barren⟩ := fresh enough spent old
        rw [value]
        refine ⟨result, grown, fun none z member => ?_⟩
        rcases barren none z member with early | rfl | nothing
        · exact .inl early
        · exact .inr (value.trans none)
        · exact .inr nothing

theorem lookupMethod_of_grounded {x : String} {c : ClassEntry} (grounded : ns.Grounded x)
    (known : ns.classes.find? x = some c) : ns.lookupMethod x method = ns.answer method c :=
  (ends_at_fresh grounded known (fun _ base _ _ enough spent => ends_of_grounded (grounded.base base) enough spent)
    enough_at_start (fun _ member => absurd member List.not_mem_nil) List.not_mem_nil).1

end Namespace

end Whittle
