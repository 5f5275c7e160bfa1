import Whittle.Proofs.Callable.Receiving

namespace Whittle

namespace Namespace

variable {ns : Namespace} {method : String}

-- The base that decides: the first one that is unknown or has something to give.
def decider? (ns : Namespace) (method : String) (bases : List String) : Option String :=
  bases.find? fun b => b != "object" && (!ns.classes.has b || (ns.lookupMethod b method).isSome)

theorem has_of_lookup {x : String} {defs : List FunctionHead} (found : ns.lookupMethod x method = some defs) :
    ns.classes.has x := by
  obtain ⟨y, c, inherits, -⟩ := inherits_of_lookup found
  exact inherits.known

theorem inherited_eq_decider (bases : List String) :
    ns.inherited (ns.lookupMethod · method) bases = (ns.decider? method bases).bind (ns.lookupMethod · method) := by
  induction bases with
  | nil => rfl
  | cons base rest ih =>
    rw [inherited, decider?, List.find?_cons]
    by_cases root : base = "object"
    · simpa [root, decider?] using ih
    · have apart : (base != "object") = true := by simpa using root
      cases here : ns.lookupMethod base method with
      | some defs => simp [root, apart, has_of_lookup here, here]
      | none =>
        by_cases known : ns.classes.has base
        · simpa [root, known, here, decider?] using ih
        · simp [root, apart, known, here]

theorem decider_mem {bases : List String} {b : String} (decides : ns.decider? method bases = some b) : b ∈ bases :=
  List.mem_of_find?_eq_some decides

-- The classes that the search goes through, from base to deciding base.
inductive Follows (ns : Namespace) (method : String) : String → String → Prop where
  | here {x : String} {c : ClassEntry} (known : ns.classes.find? x = some c) : Follows ns method x x
  | up {x b y : String} {c : ClassEntry} (known : ns.classes.find? x = some c) (leaves : c.leaves method)
      (decides : ns.decider? method c.bases = some b) (above : Follows ns method b y) : Follows ns method x y

theorem Follows.inherits {x y : String} (follows : ns.Follows method x y) : ns.Inherits x y := by
  induction follows with
  | here known => exact .self known
  | up known leaves decides above ih => exact .base known (decider_mem decides) ih

theorem Follows.lookup_eq {x y : String} (follows : ns.Follows method x y) (grounded : ns.Grounded x) :
    ns.lookupMethod x method = ns.lookupMethod y method := by
  induction follows with
  | here known => rfl
  | @up x b y c known leaves decides above ih =>
    have base : ns.IsBase b x := ⟨above.inherits.known, c, known, decider_mem decides⟩
    rw [lookupMethod_of_grounded grounded known, answer, if_pos leaves, inherited_eq_decider, decides]
    exact ih (grounded.base base)

theorem lookup_of_own {x : String} {c : ClassEntry} {defs : List FunctionHead} (known : ns.classes.find? x = some c)
    (own : c.own? method = some defs) : ns.lookupMethod x method = some defs := by
  have held : ¬ c.leaves method := fun leaves => by
    rw [ClassEntry.own_of_silent (ClassEntry.silent_of_leaves leaves)] at own
    cases own
  rw [lookupMethod, searchMethod_of_fresh known List.not_mem_nil, if_neg held, own]

theorem follows_of_lookup {x : String} {defs : List FunctionHead} (grounded : ns.Grounded x)
    (found : ns.lookupMethod x method = some defs) :
    ∃ y c, ns.Follows method x y ∧ ns.classes.find? y = some c ∧ c.own? method = some defs := by
  have all := grounded
  induction grounded with
  | intro x _ ih =>
    obtain ⟨c, known⟩ := Table.find_of_has (has_of_lookup found)
    have value := found
    rw [lookupMethod_of_grounded all known, answer] at value
    split at value
    · rename_i leaves
      rw [inherited_eq_decider] at value
      obtain ⟨b, decides, above⟩ := Option.bind_eq_some_iff.mp value
      have base : ns.IsBase b x := ⟨has_of_lookup above, c, known, decider_mem decides⟩
      obtain ⟨y, d, follows, there, own⟩ := ih b base above (all.base base)
      exact ⟨y, d, .up known leaves decides follows, there, own⟩
    · exact ⟨x, c, .here known, known, value⟩

theorem silent_of_kept {m : Module} {x y : String} {c : ClassEntry}
    (kept : (ofModule m).isOverridden x method = false) (below : x ∈ (ofModule m).ancestors y) (apart : y ≠ x)
    (known : (ofModule m).classes.find? y = some c) : c.binds method = false := by
  rw [isOverridden, List.any_eq_false] at kept
  have entry := kept _ (Table.mem_of_find known)
  simpa [name_of_find known, apart, below] using entry

-- A class that defines the method below the receiver's class is that class.
theorem eq_of_kept {m : Module} {x y : String} {c : ClassEntry} {defs : List FunctionHead}
    (kept : (ofModule m).isOverridden x method = false) (below : x ∈ (ofModule m).ancestors y)
    (known : (ofModule m).classes.find? y = some c) (own : c.own? method = some defs) : y = x := by
  by_contra apart
  have silent := silent_of_kept kept below apart known
  rw [ClassEntry.binds_of_own own] at silent
  cases silent

-- The first base of every subclass leads on to the class.
def Straight (ns : Namespace) (method x : String) : Prop :=
  ∀ z c, x ∈ ns.ancestors z → z ≠ x → ns.classes.find? z = some c →
    c.leaves method ∧ ∃ b, c.bases.head? = some b ∧ b ≠ "object" ∧ x ∈ ns.ancestors b

theorem follows_of_straight {x y : String} {defs : List FunctionHead} (straight : ns.Straight method x)
    (found : ns.lookupMethod x method = some defs) (grounded : ns.Grounded y) (below : x ∈ ns.ancestors y) :
    ns.Follows method y x := by
  have all := grounded
  induction grounded with
  | intro y _ ih =>
    obtain ⟨c, known⟩ := Table.find_of_has (mem_ancestors_iff.mp below).known
    by_cases same : y = x
    · subst same
      exact .here known
    · obtain ⟨leaves, b, first, apart, lower⟩ := straight y c below same known
      have base : ns.IsBase b y := ⟨(mem_ancestors_iff.mp lower).known, c, known, List.mem_of_mem_head? first⟩
      have follows := ih b base lower (all.base base)
      have gives := (follows.lookup_eq (all.base base)).trans found
      refine .up known leaves ?_ follows
      obtain ⟨rest, listed⟩ := List.head?_eq_some_iff.mp first
      rw [decider?, listed]
      exact List.find?_cons_of_pos (by simp [apart, gives])

-- A class that does not inherit from `x` defines the method so.
def DefinedBeside (ns : Namespace) (method x : String) (defs : List FunctionHead) (z : String) : Prop :=
  x ∉ ns.ancestors z ∧ ∃ c, ns.classes.find? z = some c ∧ c.own? method = some defs

-- What a class `y` on `x` has to do with a method that is found on `x`.
structure Serves (ns : Namespace) (method x : String) (defs : List FunctionHead) (y : String) : Prop where
  silent : y ≠ x → ∀ c, ns.classes.find? y = some c → c.binds method = false
  sources : ∀ found, ns.lookupMethod y method = some found →
    found = defs ∨ ∃ z ∈ ns.ancestors y, ns.DefinedBeside method x found z
  through : ns.Grounded y → ns.Follows method y x → ns.lookupMethod y method = some defs
  beside : ns.Grounded y → ¬ ns.Follows method y x → ∀ found, ns.lookupMethod y method = some found ↔
    ∃ z, ns.Follows method y z ∧ ns.DefinedBeside method x found z

theorem serves_of_kept {m : Module} {x y : String} {defs : List FunctionHead}
    (kept : (ofModule m).isOverridden x method = false) (found : (ofModule m).lookupMethod x method = some defs)
    (below : x ∈ (ofModule m).ancestors y) : (ofModule m).Serves method x defs y where
  silent apart c := silent_of_kept kept below apart
  sources result given := by
    obtain ⟨z, c, inherits, known, own⟩ := inherits_of_lookup given
    by_cases lower : x ∈ (ofModule m).ancestors z
    · have given := lookup_of_own known own
      rw [eq_of_kept kept lower known own, found] at given
      exact .inl (Option.some.inj given).symm
    · exact .inr ⟨z, mem_ancestors_iff.mpr inherits, lower, c, known, own⟩
  through grounded follows := (follows.lookup_eq grounded).trans found
  beside grounded apart result := by
    constructor
    · intro given
      obtain ⟨z, c, follows, known, own⟩ := follows_of_lookup grounded given
      refine ⟨z, follows, fun lower => ?_, c, known, own⟩
      rw [eq_of_kept kept lower known own] at follows
      exact apart follows
    · rintro ⟨z, follows, -, c, known, own⟩
      rw [follows.lookup_eq grounded]
      exact lookup_of_own known own

-- A subclass gets the same definitions if its search comes to the receiver's class; if not, those of a class beside it.
theorem subclass_lookup {m : Module} {cuts : Cuts} {above : List Node} {func : Expr} {receiver : String} {callee : Callee}
    (plain : func.receiver? = some receiver) (other : (ofModule m).isClass receiver = false)
    (resolved : (ofModule m).resolve cuts above func = .ok (some callee)) :
    ∀ r ∈ callee.methods, ∃ defs, (ofModule m).lookupMethod r.owner r.name = some defs ∧
      (∀ y, r.owner ∈ (ofModule m).ancestors y → (ofModule m).Serves r.name r.owner defs y) ∧
      ((ofModule m).Straight r.name r.owner → ∀ y, r.owner ∈ (ofModule m).ancestors y → (ofModule m).Grounded y →
        (ofModule m).lookupMethod y r.name = some defs) := by
  intro r member
  obtain ⟨classes, -, -, kept, method⟩ := gives_through_instance plain other resolved r member
  obtain ⟨defs, last, found, -⟩ := method_eq_some_iff.mp method
  refine ⟨defs, found, fun y below => serves_of_kept kept found below, fun straight y below grounded => ?_⟩
  have follows := follows_of_straight straight found grounded below
  exact (serves_of_kept kept found below).through grounded follows

def caller : Stmt := .method "run" [] ["self", "value"] [.callOn "self" "m" ["value"]]

def callerClass : Stmt := .classOf "C" [] [.method "m" [] ["self"] [], caller]

-- `D` is a class on `X` and `C`, and `X` has a method `m` of its own.
def crossed : Module :=
  ⟨[callerClass, .classOf "X" [] [.method "m" [] ["self", "x"] []], .classOf "D" ["X", "C"] [.filler]]⟩

theorem grounded_crossed : (ofModule crossed).Grounded "D" := by
  refine .intro _ fun b base => .intro _ fun a above => ?_
  obtain ⟨-, c, known, listed⟩ := base
  cases known
  obtain ⟨-, d, there, member⟩ := above
  rcases List.mem_cons.mp (show b ∈ ["X", "C"] from listed) with rfl | last
  · cases there
    cases member
  · cases List.mem_singleton.mp last
    cases there
    cases member

theorem subclass_lookup_crossed :
    let ns := ofModule crossed
    ∃ r, ns.resolve [] [.stmt caller, .stmt callerClass] (.attribute none (.name none "self" .load) "m" .load) =
        .ok (some (.method r)) ∧ r.variants = [⟨[], false⟩] ∧ "C" ∈ ns.ancestors "D" ∧
      (ns.lookupMethod "D" "m").map (List.map (·.params.names)) = some [["self", "x"]] ∧ ¬ ns.Follows "m" "D" "C" := by
  intro ns
  have resolved : ns.resolve [] [.stmt caller, .stmt callerClass] (.attribute none (.name none "self" .load) "m" .load) =
      .ok (some (.method ⟨"C", "m", [⟨[], false⟩]⟩)) := rfl
  have below : "C" ∈ ns.ancestors "D" := by decide +kernel
  have searched : (ns.lookupMethod "D" "m").map (List.map (·.params.names)) = some [["self", "x"]] := by decide +kernel
  have called : (ns.lookupMethod "C" "m").map (List.map (·.params.names)) = some [["self"]] := by decide +kernel
  refine ⟨_, resolved, rfl, below, searched, fun follows => ?_⟩
  obtain ⟨defs, found, each, -⟩ := subclass_lookup rfl rfl resolved _ List.mem_cons_self
  rw [(each "D" below).through grounded_crossed follows, ← found, called] at searched
  revert searched
  decide

end Namespace

end Whittle
