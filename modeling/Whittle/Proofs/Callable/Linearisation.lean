import Mathlib.Data.List.Nodup
import Mathlib.Tactic.Choose
import Whittle.Proofs.Callable.Search

namespace Whittle

section Merging

variable {α : Type}

theorem exists_first_of_flatten {lists : List (List α)} (some : lists.flatten ≠ []) :
    ∃ front a tail back, lists = front ++ (a :: tail) :: back ∧ ∀ l ∈ front, l = [] := by
  induction lists with
  | nil => exact absurd rfl some
  | cons l rest ih =>
    cases l with
    | cons a tail => exact ⟨[], a, tail, rest, rfl, fun _ member => absurd member List.not_mem_nil⟩
    | nil =>
      obtain ⟨front, a, tail, back, shape, empty⟩ := ih some
      refine ⟨[] :: front, a, tail, back, by rw [shape]; rfl, fun l member => ?_⟩
      rcases List.mem_cons.mp member with rfl | later
      · rfl
      · exact empty l later

theorem mem_flatten_of_head {lists : List (List α)} {a : α} (member : a ∈ lists.filterMap List.head?) :
    a ∈ lists.flatten := by
  obtain ⟨l, listed, first⟩ := List.mem_filterMap.mp member
  exact List.mem_flatten.mpr ⟨l, listed, List.mem_of_mem_head? first⟩

theorem heads_of_empty {front : List (List α)} (empty : ∀ l ∈ front, l = []) : front.filterMap List.head? = [] := by
  apply List.filterMap_eq_nil_iff.mpr
  intro l listed
  rw [empty l listed]
  rfl

variable [DecidableEq α]

-- The first head that no list holds further on.
def nextOf (lists : List (List α)) : Option α :=
  (lists.filterMap List.head?).find? fun a => lists.all fun l => !l.tail.contains a

-- Lists are merged by taking such heads away until nothing is left; there may be none to take.
inductive Merges : List (List α) → List α → Prop where
  | done {lists : List (List α)} (empty : ∀ l ∈ lists, l = []) : Merges lists []
  | next {lists : List (List α)} {a : α} {rest : List α} (chosen : nextOf lists = some a)
      (later : Merges (lists.map (List.erase · a)) rest) : Merges lists (a :: rest)

theorem nextOf_spec {lists : List (List α)} {a : α} (chosen : nextOf lists = some a) :
    (∃ l ∈ lists, l.head? = some a) ∧ ∀ l ∈ lists, a ∉ l.tail := by
  constructor
  · exact List.mem_filterMap.mp (List.mem_of_find?_eq_some chosen)
  · have free := List.find?_some chosen
    simpa using free

theorem Merges.mem_iff {lists : List (List α)} {rest : List α} (merged : Merges lists rest) (b : α) :
    b ∈ rest ↔ ∃ l ∈ lists, b ∈ l := by
  induction merged with
  | done empty =>
    constructor
    · intro member
      cases member
    · rintro ⟨l, listed, member⟩
      rw [empty l listed] at member
      cases member
  | @next lists a rest chosen later ih =>
    obtain ⟨⟨l, listed, first⟩, -⟩ := nextOf_spec chosen
    by_cases same : b = a
    · subst same
      exact iff_of_true List.mem_cons_self ⟨l, listed, List.mem_of_mem_head? first⟩
    · rw [List.mem_cons, or_iff_right same, ih]
      simp only [List.mem_map, exists_exists_and_eq_and, List.mem_erase_of_ne same]

-- A list that holds something twice would never be used up.
theorem Merges.nodup {lists : List (List α)} {rest : List α} (merged : Merges lists rest) : ∀ l ∈ lists, l.Nodup := by
  induction merged with
  | done empty =>
    intro l listed
    rw [empty l listed]
    exact List.nodup_nil
  | @next lists a rest chosen later ih =>
    intro l listed
    have shorter := ih _ (List.mem_map_of_mem listed)
    have free := (nextOf_spec chosen).2 l listed
    cases l with
    | nil => exact List.nodup_nil
    | cons b tail =>
      have absent : a ∉ tail := free
      by_cases same : b = a
      · subst same
        rw [List.erase_cons_head] at shorter
        exact List.nodup_cons.mpr ⟨absent, shorter⟩
      · rw [List.erase_cons_tail (by simpa using same), List.erase_of_not_mem absent] at shorter
        exact shorter

theorem Merges.unique {lists : List (List α)} {left : List α} (merged : Merges lists left) :
    ∀ right, Merges lists right → left = right := by
  induction merged with
  | done empty =>
    intro right other
    cases other with
    | done _ => rfl
    | next chosen later =>
      obtain ⟨⟨l, listed, first⟩, -⟩ := nextOf_spec chosen
      rw [empty l listed] at first
      cases first
  | next chosen later ih =>
    intro right other
    cases other with
    | done empty =>
      obtain ⟨⟨l, listed, first⟩, -⟩ := nextOf_spec chosen
      rw [empty l listed] at first
      cases first
    | next again rest =>
      rw [chosen] at again
      cases again
      rw [ih _ rest]

section Apart

variable {front back : List (List α)} {a : α} {tail heads : List α} (empty : ∀ l ∈ front, l = [])
  (single : a ∉ tail ++ back.flatten)
include empty single

theorem nextOf_of_apart (starts : heads.Sublist (a :: back.filterMap List.head?)) :
    nextOf (front ++ (a :: tail) :: back ++ [heads]) = some a := by
  have absent : a ∉ back.flatten := fun member => single (List.mem_append_right _ member)
  have free : ((front ++ (a :: tail) :: back) ++ [heads]).all (fun l => !l.tail.contains a) = true := by
    simp only [List.all_eq_true, Bool.not_eq_true', List.contains_eq_mem, decide_eq_false_iff_not]
    intro l listed
    rcases List.mem_append.mp listed with inside | last
    · rcases List.mem_append.mp inside with early | inside
      · rw [empty l early]
        exact List.not_mem_nil
      · rcases List.mem_cons.mp inside with rfl | inside
        · exact fun member => single (List.mem_append_left _ member)
        · exact fun member => absent (List.mem_flatten.mpr ⟨l, inside, List.mem_of_mem_tail member⟩)
    · rw [List.mem_singleton.mp last]
      exact fun member => absent (mem_flatten_of_head (starts.tail.subset member))
  have first : (front ++ (a :: tail) :: back ++ [heads]).filterMap List.head? =
      a :: (back ++ [heads]).filterMap List.head? := by
    simp [heads_of_empty empty]
  rw [nextOf, first]
  exact List.find?_cons_of_pos free

theorem erase_of_apart :
    (front ++ (a :: tail) :: back ++ [heads]).map (List.erase · a) = front ++ tail :: back ++ [heads.erase a] := by
  have before : front.map (List.erase · a) = front := by
    refine (List.map_congr_left fun l listed => ?_).trans (List.map_id front)
    rw [empty l listed]
    rfl
  have behind : back.map (List.erase · a) = back := by
    refine (List.map_congr_left fun l listed => List.erase_of_not_mem fun member => ?_).trans (List.map_id back)
    exact single (List.mem_append_right _ (List.mem_flatten.mpr ⟨l, listed, member⟩))
  simp [before, behind]

end Apart

-- Such lists are merged one after the other; `heads` are those of lists that have not been begun.
theorem Merges.eq_flatten {all : List (List α)} {rest : List α} (merged : Merges all rest) :
    ∀ lists heads, all = lists ++ [heads] → lists.flatten.Nodup → heads.Sublist (lists.filterMap List.head?) →
      rest = lists.flatten := by
  induction merged with
  | @done all empty =>
    rintro lists heads rfl - -
    apply Eq.symm
    apply List.flatten_eq_nil_iff.mpr
    intro l listed
    exact empty l (List.mem_append_left _ listed)
  | @next all b rest chosen later ih =>
    rintro lists heads rfl distinct starts
    by_cases used : lists.flatten = []
    · -- without lists there are no heads, so nothing could have been chosen
      have empty := List.flatten_eq_nil_iff.mp used
      rw [heads_of_empty empty, List.sublist_nil] at starts
      obtain ⟨⟨l, listed, first⟩, -⟩ := nextOf_spec chosen
      rcases List.mem_append.mp listed with inside | last
      · rw [empty l inside] at first
        cases first
      · rw [List.mem_singleton.mp last, starts] at first
        cases first
    · obtain ⟨front, a, tail, back, rfl, empty⟩ := exists_first_of_flatten used
      have blank : front.flatten = [] := List.flatten_eq_nil_iff.mpr empty
      have heading : (front ++ (a :: tail) :: back).filterMap List.head? = a :: back.filterMap List.head? := by
        simp [heads_of_empty empty]
      simp only [List.flatten_append, blank, List.nil_append, List.flatten_cons, List.cons_append, List.nodup_cons]
        at distinct
      rw [heading] at starts
      obtain ⟨single, distinct⟩ := distinct
      rw [nextOf_of_apart empty single starts] at chosen
      obtain rfl : a = b := Option.some.inj chosen
      have result := ih _ _ (erase_of_apart empty single) ?_ ?_
      · rw [result]
        simp [blank]
      · simpa [blank] using distinct
      · have erased := starts.erase a
        rw [List.erase_cons_head] at erased
        refine erased.trans ?_
        rw [List.filterMap_append, heads_of_empty empty]
        cases tail with
        | nil => exact List.Sublist.refl _
        | cons c tail => exact List.sublist_cons_self _ _

end Merging

-- A class that is inherited from: one of the module, or one that is defined elsewhere.
inductive Ancestor (κ : Type) where
  | own (name : String)
  | foreign (k : κ)
  deriving DecidableEq

-- What the module does not show: the class that the base of a class at some place stands for, and its linearisation.
structure Outside (κ : Type) where
  base : String → Nat → κ
  line : κ → List κ
  starts : ∀ k, (line k).head? = some k

namespace Namespace

variable {κ : Type}

-- What a base stands for. The root, with which every linearisation ends, is left out.
def parent? (ns : Namespace) (out : Outside κ) (x : String) (base : String × Nat) : Option (Ancestor κ) :=
  if ns.classes.has base.1 then some (.own base.1)
  else if base.1 == "object" then none
  else some (.foreign (out.base x base.2))

def parents (ns : Namespace) (out : Outside κ) (x : String) (c : ClassEntry) : List (Ancestor κ) :=
  c.bases.zipIdx.filterMap (ns.parent? out x)

theorem mem_parents_of_base {ns : Namespace} {out : Outside κ} {x b : String} {c : ClassEntry} (listed : b ∈ c.bases)
    (known : ns.classes.has b) : Ancestor.own b ∈ ns.parents out x c := by
  obtain ⟨i, bound, rfl⟩ := List.mem_iff_getElem.mp listed
  refine List.mem_filterMap.mpr ⟨(c.bases[i], i), ?_, ?_⟩
  · exact List.mem_zipIdx_iff_getElem?.mpr (List.getElem?_eq_getElem bound)
  · rw [parent?, if_pos known]

variable [DecidableEq κ]

inductive Linearises (ns : Namespace) (out : Outside κ) : Ancestor κ → List (Ancestor κ) → Prop where
  | foreign (k : κ) : Linearises ns out (.foreign k) ((out.line k).map .foreign)
  | own {x : String} {c : ClassEntry} (line : Ancestor κ → List (Ancestor κ)) {rest : List (Ancestor κ)}
      (known : ns.classes.find? x = some c) (each : ∀ a ∈ ns.parents out x c, Linearises ns out a (line a))
      (merged : Merges ((ns.parents out x c).map line ++ [ns.parents out x c]) rest) :
      Linearises ns out (.own x) (.own x :: rest)

-- Each class is followed by all that its first base leads to, then by all that the next leads to.
inductive DepthFirst (ns : Namespace) (out : Outside κ) : Ancestor κ → List (Ancestor κ) → Prop where
  | foreign (k : κ) : DepthFirst ns out (.foreign k) ((out.line k).map .foreign)
  | own {x : String} {c : ClassEntry} (order : Ancestor κ → List (Ancestor κ))
      (known : ns.classes.find? x = some c) (each : ∀ a ∈ ns.parents out x c, DepthFirst ns out a (order a)) :
      DepthFirst ns out (.own x) (.own x :: (ns.parents out x c).flatMap order)

-- No two bases of a class have an ancestor in common.
def Unshared (ns : Namespace) (out : Outside κ) (line : List (Ancestor κ)) : Prop :=
  ∀ x c, .own x ∈ line → ns.classes.find? x = some c → (ns.parents out x c).Pairwise fun a b =>
    ∀ left right, ns.Linearises out a left → ns.Linearises out b right → left.Disjoint right

variable {ns : Namespace} {out : Outside κ} {a : Ancestor κ} {line : List (Ancestor κ)}

theorem Linearises.head (lined : ns.Linearises out a line) : line.head? = some a := by
  cases lined with
  | foreign k => rw [List.head?_map, out.starts k]; rfl
  | own line known each merged => rfl

theorem Linearises.parent_subset {x : String} {c : ClassEntry} {line : Ancestor κ → List (Ancestor κ)}
    {rest : List (Ancestor κ)} (merged : Merges ((ns.parents out x c).map line ++ [ns.parents out x c]) rest)
    (member : a ∈ ns.parents out x c) : line a ⊆ rest := by
  intro b inside
  exact (merged.mem_iff b).mpr ⟨line a, List.mem_append_left _ (List.mem_map_of_mem member), inside⟩

theorem Linearises.unique (lined : ns.Linearises out a line) : ∀ other, ns.Linearises out a other → line = other := by
  induction lined with
  | foreign k =>
    intro other again
    cases again
    rfl
  | @own x c line rest known each merged ih =>
    intro other again
    cases again with
    | @own _ _ line' rest' there each' merged' =>
      rw [known] at there
      cases there
      have same : (ns.parents out x c).map line = (ns.parents out x c).map line' :=
        List.map_congr_left fun a member => ih a member _ (each' a member)
      rw [← same] at merged'
      rw [merged.unique _ merged']

-- What a class of the line inherits is part of the line.
theorem Linearises.inner (lined : ns.Linearises out a line) :
    ∀ x, .own x ∈ line → ∃ inner, ns.Linearises out (.own x) inner ∧ inner ⊆ line := by
  induction lined with
  | foreign k =>
    intro x member
    obtain ⟨j, -, same⟩ := List.mem_map.mp member
    cases same
  | @own y c line rest known each merged ih =>
    intro x member
    rcases List.mem_cons.mp member with same | later
    · cases same
      exact ⟨_, .own line known each merged, List.Subset.refl _⟩
    · have above : ∃ p ∈ ns.parents out y c, .own x ∈ line p := by
        obtain ⟨l, listed, inside⟩ := (merged.mem_iff _).mp later
        rcases List.mem_append.mp listed with full | last
        · obtain ⟨p, parent, rfl⟩ := List.mem_map.mp full
          exact ⟨p, parent, inside⟩
        · rw [List.mem_singleton.mp last] at inside
          exact ⟨_, inside, List.mem_of_mem_head? (each _ inside).head⟩
      obtain ⟨p, parent, inside⟩ := above
      obtain ⟨inner, own, within⟩ := ih p parent x inside
      exact ⟨inner, own, fun b member => List.mem_cons_of_mem _ (Linearises.parent_subset merged parent (within member))⟩

theorem Linearises.mem_of_inherits (lined : ns.Linearises out a line) :
    ∀ x y, a = .own x → ns.Inherits x y → .own y ∈ line := by
  induction lined with
  | foreign k =>
    intro x y same
    cases same
  | @own x c line rest known each merged ih =>
    intro z y same inherits
    cases same
    cases inherits with
    | self there => exact List.mem_cons_self
    | base there listed above =>
      rw [known] at there
      cases there
      have member : .own _ ∈ ns.parents out x c := mem_parents_of_base listed above.known
      exact List.mem_cons_of_mem _ (Linearises.parent_subset merged member (ih _ member _ y rfl above))

theorem Linearises.grounded (lined : ns.Linearises out a line) : ∀ x, a = .own x → ns.Grounded x := by
  induction lined with
  | foreign k =>
    intro x same
    cases same
  | own line known each merged ih =>
    rintro x same
    cases same
    refine .intro _ ?_
    rintro b ⟨there, c, found, listed⟩
    rw [known] at found
    cases found
    exact ih _ (mem_parents_of_base listed there) b rfl

theorem exists_depthFirst (lined : ns.Linearises out a line) : ∃ order, ns.DepthFirst out a order := by
  induction lined with
  | foreign k => exact ⟨_, .foreign k⟩
  | @own x c line rest known each merged ih =>
    have chosen : ∀ a, ∃ order, a ∈ ns.parents out x c → ns.DepthFirst out a order := by
      intro a
      by_cases member : a ∈ ns.parents out x c
      · obtain ⟨order, unfolded⟩ := ih a member
        exact ⟨order, fun _ => unfolded⟩
      · exact ⟨[], fun inside => absurd inside member⟩
    choose order unfolded using chosen
    exact ⟨_, .own order known unfolded⟩

theorem Unshared.parent {x : String} {c : ClassEntry} {line : Ancestor κ → List (Ancestor κ)}
    {rest : List (Ancestor κ)} (unshared : ns.Unshared out (.own x :: rest))
    (merged : Merges ((ns.parents out x c).map line ++ [ns.parents out x c]) rest)
    (member : a ∈ ns.parents out x c) : ns.Unshared out (line a) :=
  fun y d inside => unshared y d (List.mem_cons_of_mem _ (Linearises.parent_subset merged member inside))

-- Bases without common ancestors are merged one after the other.
theorem depthFirst_eq_line (lined : ns.Linearises out a line) (unshared : ns.Unshared out line) :
    ∀ order, ns.DepthFirst out a order → order = line := by
  induction lined with
  | foreign k =>
    intro order unfolded
    cases unfolded
    rfl
  | @own x c line rest known each merged ih =>
    intro order unfolded
    cases unfolded with
    | @own _ _ order there below =>
      rw [known] at there
      cases there
      have alike : ∀ a ∈ ns.parents out x c, order a = line a :=
        fun a member => ih a member (unshared.parent merged member) _ (below a member)
      have apart : ((ns.parents out x c).map line).Pairwise List.Disjoint := by
        rw [List.pairwise_map]
        refine (unshared x c List.mem_cons_self known).imp_of_mem ?_
        intro a b left right disjoint
        exact disjoint _ _ (each a left) (each b right)
      have distinct : ((ns.parents out x c).map line).flatten.Nodup :=
        List.nodup_flatten.mpr ⟨fun l listed => merged.nodup l (List.mem_append_left _ listed), apart⟩
      have heads : ((ns.parents out x c).map line).filterMap List.head? = ns.parents out x c := by
        rw [List.filterMap_map]
        exact (List.filterMap_congr fun a member => (each a member).head).trans List.filterMap_some
      have starts : (ns.parents out x c).Sublist (((ns.parents out x c).map line).filterMap List.head?) := by
        rw [heads]
      rw [merged.eq_flatten _ _ rfl distinct starts, ← List.flatMap_def, List.flatMap_congr alike]

end Namespace

end Whittle
