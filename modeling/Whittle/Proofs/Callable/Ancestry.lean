import Mathlib.Data.List.Basic
import Whittle.Callable.Resolve

namespace Whittle

namespace Table

variable {α : Type} {t : Table α} {name : String}

theorem has_of_find {a : α} (found : t.find? name = some a) : t.has name := by
  rw [has, found]
  rfl

theorem find_of_has (known : t.has name) : ∃ a, t.find? name = some a := Option.isSome_iff_exists.mp known

theorem mem_of_find {a : α} (found : t.find? name = some a) : (name, a) ∈ t := by
  obtain ⟨front, back, rfl, -⟩ := List.lookup_eq_some_iff.mp found
  simp

theorem find_cons (key : String) (a : α) (rest : Table α) :
    find? ((key, a) :: rest) name = if name = key then some a else rest.find? name := by
  rw [find?, List.lookup_cons]
  cases same : name == key with
  | true => rw [if_pos (eq_of_beq same)]
  | false => rw [if_neg (ne_of_beq_false same), find?]

theorem find_enter (f : Option α → α) (t : Table α) (key : String) :
    (t.enter key f).find? name = if name = key then some (f (t.find? key)) else t.find? name := by
  induction t with
  | nil => rw [enter, find_cons]; rfl
  | cons entry rest ih =>
    obtain ⟨n, a⟩ := entry
    rw [enter]
    by_cases here : n = key
    · subst here
      by_cases same : name = n <;> simp [find_cons, same]
    · simp only [beq_iff_eq, here, if_false, find_cons, ih, Ne.symm here]
      by_cases same : name = n
      · simp [same, here]
      · simp [same]

end Table

-- The class that a statement defines, if it has this name.
def Stmt.classNamed? (name : String) : Stmt → Option ClassEntry
  | .klass l head body => if head.name = name then some (ClassEntry.of l head body) else none
  | _ => none

theorem Stmt.name_of_classNamed {s : Stmt} {name : String} {c : ClassEntry} (found : s.classNamed? name = some c) :
    c.name = name := by
  unfold classNamed? at found
  split at found
  · split at found
    · rename_i same
      cases found
      exact same
    · cases found
  · cases found

namespace Namespace

theorem find_addStmt (ns : Namespace) (s : Stmt) (name : String) :
    (ns.addStmt s).classes.find? name = (s.classNamed? name).or (ns.classes.find? name) := by
  cases s with
  | klass l head body =>
    simp only [addStmt, Table.find_enter, Stmt.classNamed?, @eq_comm _ name]
    split <;> rfl
  | _ => rfl

-- A later class of the same name takes the place of an earlier one.
theorem find_ofModule (m : Module) (name : String) :
    (ofModule m).classes.find? name = m.body.reverse.findSome? (Stmt.classNamed? name) := by
  have each : ∀ (b : Block) (ns : Namespace), (b.foldl addStmt ns).classes.find? name =
      (b.reverse.findSome? (Stmt.classNamed? name)).or (ns.classes.find? name) := by
    intro b
    induction b with
    | nil => exact fun ns => rfl
    | cons s rest ih =>
      intro ns
      rw [List.foldl_cons, ih, find_addStmt, List.reverse_cons, List.findSome?_append, ← Option.or_assoc,
        List.findSome?_singleton]
  rw [ofModule, each]
  exact Option.or_none

theorem name_of_find {m : Module} {name : String} {c : ClassEntry} (known : (ofModule m).classes.find? name = some c) :
    c.name = name := by
  rw [find_ofModule] at known
  obtain ⟨s, -, found⟩ := List.exists_of_findSome?_eq_some known
  exact Stmt.name_of_classNamed found

-- A class of the module inherits from itself and from all that its bases in the module inherit from.
inductive Inherits (ns : Namespace) : String → String → Prop where
  | self {x : String} {c : ClassEntry} (known : ns.classes.find? x = some c) : Inherits ns x x
  | base {x b y : String} {c : ClassEntry} (known : ns.classes.find? x = some c) (listed : b ∈ c.bases)
      (above : Inherits ns b y) : Inherits ns x y

variable {ns : Namespace}

theorem Inherits.known {x y : String} (inherits : ns.Inherits x y) : ns.classes.has x := by
  cases inherits with
  | self known => exact Table.has_of_find known
  | base known listed above => exact Table.has_of_find known

theorem Inherits.target {x y : String} (inherits : ns.Inherits x y) : ∃ c, ns.classes.find? y = some c := by
  induction inherits with
  | self known => exact ⟨_, known⟩
  | base known listed above ih => exact ih

theorem Inherits.trans {x y z : String} (lower : ns.Inherits x y) (upper : ns.Inherits y z) : ns.Inherits x z := by
  induction lower with
  | self known => exact upper
  | base known listed above ih => exact .base known listed (ih upper)

-- The entries of the table whose names have not been seen; every class that is entered takes one of them away.
def unseen (ns : Namespace) (seen : List String) : Nat :=
  (ns.classes.filter fun entry => !seen.contains entry.1).length

theorem unseen_nil : ns.unseen [] = ns.classes.length := by
  simp [unseen]

theorem unseen_mono {seen seen' : List String} (grown : seen ⊆ seen') : ns.unseen seen' ≤ ns.unseen seen := by
  apply List.Sublist.length_le
  apply List.monotone_filter_right
  intro entry fresh
  simp only [Bool.not_eq_true', List.contains_eq_mem, decide_eq_false_iff_not] at fresh ⊢
  intro old
  exact fresh (grown old)

theorem unseen_enter {x : String} {c : ClassEntry} {seen : List String} (known : ns.classes.find? x = some c)
    (fresh : x ∉ seen) : ns.unseen (x :: seen) < ns.unseen seen := by
  have split : (ns.classes.filter fun entry => !(x :: seen).contains entry.1) =
      (ns.classes.filter fun entry => !seen.contains entry.1).filter fun entry => !entry.1 == x := by
    rw [List.filter_filter]
    apply List.filter_congr
    intro entry _
    simp only [List.contains_cons, Bool.not_or]
  rw [unseen, unseen, split]
  apply List.length_filter_lt_length_iff_exists.mpr
  refine ⟨(x, c), List.mem_filter.mpr ⟨Table.mem_of_find known, ?_⟩, ?_⟩
  · simpa using fresh
  · simp

-- All that has been added to the classes seen has its bases there, too.
def Spans (ns : Namespace) (seen seen' : List String) : Prop :=
  seen ⊆ seen' ∧ ∀ z ∈ seen', z ∉ seen → ∀ c, ns.classes.find? z = some c → ∀ b ∈ c.bases, ns.classes.has b → b ∈ seen'

theorem Spans.refl (seen : List String) : ns.Spans seen seen :=
  ⟨List.Subset.refl _, fun _ member fresh => absurd member fresh⟩

theorem Spans.trans {first second third : List String} (lower : ns.Spans first second)
    (upper : ns.Spans second third) : ns.Spans first third := by
  refine ⟨List.Subset.trans lower.1 upper.1, fun z member fresh c known b listed there => ?_⟩
  by_cases early : z ∈ second
  · exact upper.1 (lower.2 z early fresh c known b listed there)
  · exact upper.2 z member early c known b listed there

-- The step that adds the ancestors of one base.
def collectBase (ns : Namespace) (fuel : Nat) (seen : List String) (base : String) : List String :=
  if ns.classes.has base then ns.collectAncestors fuel seen base else seen

theorem collectAncestors_at {x : String} {c : ClassEntry} (known : ns.classes.find? x = some c) (fuel : Nat)
    (seen : List String) :
    ns.collectAncestors (fuel + 1) seen x =
      if seen.contains x then seen else c.bases.foldl (ns.collectBase fuel) (x :: seen) := by
  rw [collectAncestors, known]
  rfl

theorem spans_foldl {fuel : Nat}
    (each : ∀ seen x, ns.unseen seen < fuel →
      ns.Spans seen (ns.collectAncestors fuel seen x) ∧ (ns.classes.has x → x ∈ ns.collectAncestors fuel seen x))
    (bases seen : List String) (enough : ns.unseen seen < fuel) :
    ns.Spans seen (bases.foldl (ns.collectBase fuel) seen) ∧
      ∀ b ∈ bases, ns.classes.has b → b ∈ bases.foldl (ns.collectBase fuel) seen := by
  induction bases generalizing seen with
  | nil => exact ⟨Spans.refl _, fun b member => absurd member List.not_mem_nil⟩
  | cons base rest ih =>
    have first : ns.Spans seen (ns.collectBase fuel seen base) ∧
        (ns.classes.has base → base ∈ ns.collectBase fuel seen base) := by
      unfold collectBase
      split
      · exact each seen base enough
      · rename_i foreign
        exact ⟨Spans.refl _, fun known => absurd known foreign⟩
    have left : ns.unseen (ns.collectBase fuel seen base) < fuel :=
      Nat.lt_of_le_of_lt (unseen_mono first.1.1) enough
    obtain ⟨later, listed⟩ := ih _ left
    refine ⟨first.1.trans later, fun b member known => ?_⟩
    rcases List.mem_cons.mp member with rfl | tail
    · exact later.1 (first.2 known)
    · exact listed b tail known

theorem spans_collectAncestors (fuel : Nat) (seen : List String) (x : String) (enough : ns.unseen seen < fuel) :
    ns.Spans seen (ns.collectAncestors fuel seen x) ∧ (ns.classes.has x → x ∈ ns.collectAncestors fuel seen x) := by
  induction fuel generalizing seen x with
  | zero => omega
  | succ fuel ih =>
    cases known : ns.classes.find? x with
    | none =>
      rw [collectAncestors, known]
      refine ⟨Spans.refl _, fun there => ?_⟩
      rw [Table.has, known] at there
      cases there
    | some c =>
      rw [collectAncestors_at known]
      by_cases old : x ∈ seen
      · rw [if_pos (by simpa using old)]
        exact ⟨Spans.refl _, fun _ => old⟩
      · rw [if_neg (by simpa using old)]
        have left := unseen_enter known old
        obtain ⟨spans, listed⟩ := spans_foldl ih c.bases (x :: seen) (by omega)
        refine ⟨⟨fun z member => spans.1 (List.mem_cons_of_mem _ member), ?_⟩, fun _ => spans.1 List.mem_cons_self⟩
        intro z member fresh d found b base there
        by_cases same : z = x
        · subst same
          rw [known] at found
          cases found
          exact listed b base there
        · refine spans.2 z member ?_ d found b base there
          intro early
          rcases List.mem_cons.mp early with here | early
          · exact same here
          · exact fresh early

theorem inherits_foldl {fuel : Nat}
    (each : ∀ seen x, ∀ y ∈ ns.collectAncestors fuel seen x, y ∈ seen ∨ ns.Inherits x y) (bases seen : List String) :
    ∀ y ∈ bases.foldl (ns.collectBase fuel) seen, y ∈ seen ∨ ∃ b ∈ bases, ns.Inherits b y := by
  induction bases generalizing seen with
  | nil => exact fun y member => .inl member
  | cons base rest ih =>
    intro y member
    rcases ih _ y member with early | ⟨b, listed, above⟩
    · unfold collectBase at early
      split at early
      · rcases each seen base y early with old | above
        · exact .inl old
        · exact .inr ⟨base, List.mem_cons_self, above⟩
      · exact .inl early
    · exact .inr ⟨b, List.mem_cons_of_mem _ listed, above⟩

theorem inherits_of_collected (fuel : Nat) (seen : List String) (x : String) :
    ∀ y ∈ ns.collectAncestors fuel seen x, y ∈ seen ∨ ns.Inherits x y := by
  induction fuel generalizing seen x with
  | zero => exact fun y member => .inl member
  | succ fuel ih =>
    intro y member
    cases known : ns.classes.find? x with
    | none =>
      rw [collectAncestors, known] at member
      exact .inl member
    | some c =>
      rw [collectAncestors_at known] at member
      split at member
      · exact .inl member
      · rcases inherits_foldl ih c.bases _ y member with early | ⟨b, listed, above⟩
        · rcases List.mem_cons.mp early with rfl | old
          · exact .inr (.self known)
          · exact .inl old
        · exact .inr (.base known listed above)

theorem mem_ancestors_iff {x y : String} : y ∈ ns.ancestors x ↔ ns.Inherits x y := by
  have enough : ns.unseen [] < ns.classes.length + 1 := by
    rw [unseen_nil]
    omega
  constructor
  · intro member
    rcases inherits_of_collected _ _ _ y member with old | inherits
    · cases old
    · exact inherits
  · intro inherits
    obtain ⟨spans, entered⟩ := spans_collectAncestors _ [] x enough
    have start : x ∈ ns.ancestors x := entered inherits.known
    -- the classes collected hold the bases of each of them, so they hold whatever is inherited
    have closed : ∀ z w, ns.Inherits z w → z ∈ ns.ancestors x → w ∈ ns.ancestors x := by
      intro z w above
      induction above with
      | self known => exact id
      | base known listed above ih =>
        intro here
        exact ih (spans.2 _ here List.not_mem_nil _ known _ listed above.known)
    exact closed x y inherits start

end Namespace

end Whittle
