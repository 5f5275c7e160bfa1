import Whittle.Proofs.Callable.Linearisation

namespace Whittle

namespace Namespace

section Dispatch

variable {κ : Type}

-- A class from elsewhere may define any method.
def speaks (ns : Namespace) (method : String) : Ancestor κ → Bool
  | .own x => (ns.classes.find? x).any (·.binds method)
  | .foreign _ => true

-- The definitions of the first class that has a say, if they are known.
def dispatched (ns : Namespace) (method : String) (line : List (Ancestor κ)) : Option (List FunctionHead) :=
  match line.find? (ns.speaks method) with
  | some (.own x) => (ns.classes.find? x).bind (·.own? method)
  | _ => none

-- Where the search stops without a definition, though there may be one further on; a base named `object` is left out.
def halts (ns : Namespace) (method : String) : Ancestor κ → Bool
  | .own x => x == "object" || (ns.classes.find? x).any fun c => !c.leaves method && (c.own? method).isNone
  | .foreign _ => true

variable {ns : Namespace} {method : String} {front line : List (Ancestor κ)}

theorem dispatched_of_silent (silent : ∀ a ∈ front, ns.speaks method a = false) :
    ns.dispatched method (front ++ line) = ns.dispatched method line := by
  have skipped : front.find? (ns.speaks method) = none := by
    apply List.find?_eq_none.mpr
    intro a member
    rw [silent a member]
    exact Bool.false_ne_true
  rw [dispatched, dispatched, List.find?_append, skipped, Option.none_or]

theorem dispatched_append {defs : List FunctionHead} (found : ns.dispatched method front = some defs) :
    ns.dispatched method (front ++ line) = some defs := by
  rw [← found, dispatched, dispatched, List.find?_append]
  cases first : front.find? (ns.speaks method) with
  | some a => rfl
  | none =>
    rw [dispatched, first] at found
    cases found

theorem dispatched_of_own {x : String} {c : ClassEntry} {defs : List FunctionHead}
    (known : ns.classes.find? x = some c) (own : c.own? method = some defs) :
    ns.dispatched method (.own x :: line) = some defs := by
  have bound : ns.speaks method (.own x : Ancestor κ) = true := by
    rw [speaks, known]
    exact ClassEntry.binds_of_own own
  rw [dispatched, List.find?_cons_of_pos bound]
  simp only [known, Option.bind_some, own]

theorem dispatched_eq_none (silent : ∀ a ∈ line, ns.speaks method a = false) : ns.dispatched method line = none := by
  have nothing := @dispatched_of_silent κ ns method line [] silent
  rw [List.append_nil] at nothing
  exact nothing

theorem silent_of_leaves {x : String} {c : ClassEntry} (known : ns.classes.find? x = some c)
    (leaves : c.leaves method) : ns.speaks method (.own x : Ancestor κ) = false := by
  rw [speaks, known]
  exact ClassEntry.silent_of_leaves leaves

theorem not_halts_own {x : String} {c : ClassEntry} (known : ns.classes.find? x = some c)
    (goes : ns.halts method (.own x : Ancestor κ) = false) :
    x ≠ "object" ∧ (c.own? method = none → c.leaves method) := by
  rw [halts, known, Bool.or_eq_false_iff] at goes
  refine ⟨by simpa using goes.1, fun nothing => ?_⟩
  have open' := goes.2
  simp only [Option.any_some, nothing, Option.isNone_none, Bool.and_true, Bool.not_eq_false'] at open'
  exact open'

variable {out : Outside κ} {look : String → Option (List FunctionHead)} {bases : List String}

-- A definition comes from a base that the module defines, after bases that gave nothing.
theorem found_among_parents {x : String} {n : Nat} {defs : List FunctionHead} (found : ns.inherited look bases = some defs) :
    ∃ front b back, (bases.zipIdx n).filterMap (ns.parent? out x) = front ++ .own b :: back ∧ look b = some defs ∧
      ∀ a ∈ front, ∃ b', a = .own b' ∧ (b' = "object" ∨ look b' = none) := by
  induction bases generalizing n with
  | nil => cases found
  | cons base rest ih =>
    rw [inherited] at found
    rw [List.zipIdx_cons, List.filterMap_cons]
    by_cases root : base = "object"
    · rw [if_pos (by simpa using root)] at found
      obtain ⟨front, b, back, shape, given, before⟩ := @ih (n + 1) found
      rw [shape, parent?]
      by_cases known : ns.classes.has base
      · rw [if_pos known]
        refine ⟨.own base :: front, b, back, rfl, given, fun a member => ?_⟩
        rcases List.mem_cons.mp member with rfl | later
        · exact ⟨base, rfl, .inl root⟩
        · exact before a later
      · rw [if_neg known, if_pos (by simpa using root)]
        exact ⟨front, b, back, rfl, given, before⟩
    · rw [if_neg (by simpa using root)] at found
      by_cases known : ns.classes.has base
      · rw [if_neg (by simpa using known)] at found
        rw [parent?, if_pos known]
        cases here : look base with
        | some own =>
          rw [here] at found
          exact ⟨[], base, _, rfl, here.trans found, fun a member => absurd member List.not_mem_nil⟩
        | none =>
          rw [here, Option.none_or] at found
          obtain ⟨front, b, back, shape, given, before⟩ := @ih (n + 1) found
          rw [shape]
          refine ⟨.own base :: front, b, back, rfl, given, fun a member => ?_⟩
          rcases List.mem_cons.mp member with rfl | later
          · exact ⟨base, rfl, .inr here⟩
          · exact before a later
      · rw [if_pos (by simpa using known)] at found
        cases found

-- Where the search halts nowhere and finds nothing, it has been through all bases.
theorem vain_at_parents {x : String} {n : Nat} (nothing : ns.inherited look bases = none)
    (goes : ∀ a ∈ (bases.zipIdx n).filterMap (ns.parent? out x), ns.halts method a = false) :
    ∀ a ∈ (bases.zipIdx n).filterMap (ns.parent? out x), ∃ b, a = .own b ∧ look b = none := by
  induction bases generalizing n with
  | nil =>
    intro a member
    cases member
  | cons base rest ih =>
    rw [inherited] at nothing
    rw [List.zipIdx_cons, List.filterMap_cons] at goes ⊢
    by_cases known : ns.classes.has base
    · rw [parent?, if_pos known] at goes ⊢
      obtain ⟨c, there⟩ := Table.find_of_has known
      have root := (not_halts_own there (goes _ List.mem_cons_self)).1
      rw [if_neg (by simpa using root), if_neg (by simpa using known)] at nothing
      obtain ⟨first, later⟩ := Option.or_eq_none_iff.mp nothing
      intro a member
      rcases List.mem_cons.mp member with rfl | behind
      · exact ⟨base, rfl, first⟩
      · exact ih later (fun a member => goes a (List.mem_cons_of_mem _ member)) a behind
    · rw [parent?, if_neg known] at goes ⊢
      by_cases root : base = "object"
      · rw [if_pos (by simpa using root)] at nothing goes ⊢
        exact ih nothing goes
      · rw [if_neg (by simpa using root)] at goes
        have foreign := goes _ List.mem_cons_self
        cases foreign

end Dispatch

variable {κ : Type} [DecidableEq κ]

-- Only the last base of a class leads to a class at which the search halts.
def HaltsLast (ns : Namespace) (out : Outside κ) (method : String) (line : List (Ancestor κ)) : Prop :=
  ∀ x c, .own x ∈ line → ns.classes.find? x = some c → ∀ a ∈ (ns.parents out x c).dropLast,
    ∀ above, ns.Linearises out a above → ∀ b ∈ above, ns.halts method b = false

variable {ns : Namespace} {out : Outside κ} {method : String} {a : Ancestor κ} {line : List (Ancestor κ)}

theorem HaltsLast.parent {x : String} {c : ClassEntry} {line : Ancestor κ → List (Ancestor κ)}
    {rest : List (Ancestor κ)} (last : ns.HaltsLast out method (.own x :: rest))
    (merged : Merges ((ns.parents out x c).map line ++ [ns.parents out x c]) rest)
    (member : a ∈ ns.parents out x c) : ns.HaltsLast out method (line a) :=
  fun y d inside => last y d (List.mem_cons_of_mem _ (Linearises.parent_subset merged member inside))

theorem haltsLast_of_unhalted (lined : ns.Linearises out a line) (goes : ∀ b ∈ line, ns.halts method b = false) :
    ns.HaltsLast out method line := by
  intro x c member known p dropped above along b inside
  obtain ⟨inner, own, within⟩ := lined.inner x member
  cases own with
  | own line there each merged =>
    rw [known] at there
    cases there
    have parent := List.dropLast_subset _ dropped
    rw [← (each p parent).unique above along] at inside
    exact goes b (within (List.mem_cons_of_mem _ (Linearises.parent_subset merged parent inside)))

theorem silent_of_vain (lined : ns.Linearises out a line) (goes : ∀ b ∈ line, ns.halts method b = false) :
    ∀ x order, a = .own x → ns.lookupMethod x method = none → ns.DepthFirst out (.own x) order →
      ∀ b ∈ order, ns.speaks method b = false := by
  have all := lined
  induction lined with
  | foreign k =>
    intro x order same
    cases same
  | @own x c line rest known each merged ih =>
    intro z order same nothing unfolded
    cases same
    have value := @lookupMethod_of_grounded ns method x c (all.grounded x rfl) known
    cases unfolded with
    | own order there below =>
      rw [known] at there
      cases there
      rw [nothing, answer] at value
      have leaves : c.leaves method := by
        by_contra held
        rw [if_neg held] at value
        exact held ((not_halts_own known (goes _ List.mem_cons_self)).2 value.symm)
      rw [if_pos leaves] at value
      have inside : ∀ a ∈ ns.parents out x c, ∀ b ∈ line a, ns.halts method b = false :=
        fun a member b above => goes b (List.mem_cons_of_mem _ (Linearises.parent_subset merged member above))
      have barren := vain_at_parents value.symm fun a member =>
        inside a member a (List.mem_of_mem_head? (each a member).head)
      intro b member
      rcases List.mem_cons.mp member with rfl | later
      · exact silent_of_leaves known leaves
      · obtain ⟨a, parent, above⟩ := List.mem_flatMap.mp later
        obtain ⟨y, rfl, vain⟩ := barren a parent
        exact ih _ parent (inside _ parent) (each _ parent) y _ rfl vain (below _ parent) b above

theorem dispatched_of_lookup (lined : ns.Linearises out a line) (last : ns.HaltsLast out method line) :
    ∀ x order defs, a = .own x → ns.lookupMethod x method = some defs → ns.DepthFirst out (.own x) order →
      ns.dispatched method order = some defs := by
  have all := lined
  induction lined with
  | foreign k =>
    intro x order defs same
    cases same
  | @own x c line rest known each merged ih =>
    intro z order defs same found unfolded
    cases same
    have value := @lookupMethod_of_grounded ns method x c (all.grounded x rfl) known
    cases unfolded with
    | @own _ _ order there below =>
      rw [known] at there
      cases there
      rw [found, answer] at value
      by_cases leaves : c.leaves method
      · rw [if_pos leaves] at value
        obtain ⟨front, b, back, shape, given, before⟩ := @found_among_parents κ ns out _ _ x 0 defs value.symm
        have parents : ns.parents out x c = front ++ .own b :: back := shape
        have here : .own b ∈ ns.parents out x c := by
          rw [parents]
          simp
        have early : ∀ a ∈ front, a ∈ (ns.parents out x c).dropLast ∧ a ∈ ns.parents out x c := by
          intro a member
          rw [parents, List.dropLast_append_of_ne_nil (List.cons_ne_nil _ _)]
          exact ⟨List.mem_append_left _ member, List.mem_append_left _ member⟩
        -- the bases before the one with the definition halt nowhere, so nothing above them has a say
        have silent : ∀ e ∈ front.flatMap order, ns.speaks method e = false := by
          intro e member
          obtain ⟨a, ahead, above⟩ := List.mem_flatMap.mp member
          obtain ⟨dropped, parent⟩ := early a ahead
          have goes := last x c List.mem_cons_self known a dropped _ (each a parent)
          obtain ⟨y, rfl, root | vain⟩ := before a ahead
          · have halted := goes _ (List.mem_of_mem_head? (each _ parent).head)
            rw [root] at halted
            cases halted
          · exact silent_of_vain (each _ parent) goes y _ rfl vain (below _ parent) e above
        have own := ih _ here (last.parent merged here) (each _ here) b _ _ rfl given (below _ here)
        have first : ∀ e ∈ .own x :: front.flatMap order, ns.speaks method e = false := by
          intro e member
          rcases List.mem_cons.mp member with rfl | later
          · exact silent_of_leaves known leaves
          · exact silent e later
        rw [parents, List.flatMap_append, List.flatMap_cons, ← List.cons_append, dispatched_of_silent first]
        exact dispatched_append own
      · rw [if_neg leaves] at value
        exact dispatched_of_own known value.symm

theorem lookup_of_unhalted {x : String} {order : List (Ancestor κ)} (lined : ns.Linearises out (.own x) line)
    (unfolded : ns.DepthFirst out (.own x) order) (goes : ∀ b ∈ line, ns.halts method b = false) :
    ns.lookupMethod x method = ns.dispatched method order := by
  cases found : ns.lookupMethod x method with
  | none => exact (dispatched_eq_none (silent_of_vain lined goes x order rfl found unfolded)).symm
  | some defs =>
    exact (dispatched_of_lookup lined (haltsLast_of_unhalted lined goes) x order defs rfl found unfolded).symm

-- The search ends at a class of the linearisation, but a class before it may have been passed over.
theorem lookup_along_line {x : String} (lined : ns.Linearises out (.own x) line) (method : String) :
    ∃ order, ns.DepthFirst out (.own x) order ∧
      (∀ defs, ns.lookupMethod x method = some defs →
        ∃ front y back c, line = front ++ .own y :: back ∧ ns.classes.find? y = some c ∧ c.own? method = some defs ∧
          (line.find? (ns.speaks method) = some (.own y) ↔ ∀ b ∈ front, ns.speaks method b = false)) ∧
      ((∀ b ∈ line, ns.halts method b = false) → ns.lookupMethod x method = ns.dispatched method order) ∧
      (ns.Unshared out line → order = line) ∧
      (ns.Unshared out line → ns.HaltsLast out method line →
        ∀ defs, ns.lookupMethod x method = some defs → ns.dispatched method line = some defs) := by
  obtain ⟨order, unfolded⟩ := exists_depthFirst lined
  refine ⟨order, unfolded, fun defs found => ?_, lookup_of_unhalted lined unfolded, fun unshared => ?_,
    fun unshared last defs found => ?_⟩
  · obtain ⟨y, c, inherits, known, own⟩ := inherits_of_lookup found
    have member := lined.mem_of_inherits x y rfl inherits
    obtain ⟨front, back, rfl, fresh⟩ := List.eq_append_cons_of_mem member
    refine ⟨front, y, back, c, rfl, known, own, ?_⟩
    have bound : ns.speaks method (.own y : Ancestor κ) = true := by
      rw [speaks, known]
      exact ClassEntry.binds_of_own own
    rw [List.find?_append, List.find?_cons_of_pos bound]
    cases first : front.find? (ns.speaks method) with
    | none =>
      have silent := List.find?_eq_none.mp first
      exact iff_of_true rfl fun b before => Bool.eq_false_iff.mpr (silent b before)
    | some b =>
      have before := List.mem_of_find?_eq_some first
      refine iff_of_false (fun same => fresh (Option.some.inj same ▸ before)) fun silent => ?_
      exact absurd (List.find?_some first) (by rw [silent b before]; exact Bool.false_ne_true)
  · exact depthFirst_eq_line lined unshared order unfolded
  · have same := depthFirst_eq_line lined unshared order unfolded
    subst same
    exact dispatched_of_lookup lined last x order defs rfl found unfolded

-- `A` and `C` define `m`, `B` and `C` are classes on `A`, and `D` is one on both.
def diamond : Module :=
  ⟨[.classOf "A" [] [.method "m" [] ["self"] []], .classOf "B" ["A"] [.filler],
    .classOf "C" ["A"] [.method "m" [] ["self", "x"] []], .classOf "D" ["B", "C"] [.filler]]⟩

def nowhere : Outside Unit := ⟨fun _ _ => (), fun k => [k], fun _ => rfl⟩

theorem linearises_diamond :
    (ofModule diamond).Linearises nowhere (.own "D") [.own "D", .own "B", .own "C", .own "A"] := by
  have base : (ofModule diamond).Linearises nowhere (.own "A") [.own "A"] :=
    .own (fun _ => []) rfl (fun a member => nomatch member) (.done (by decide +kernel))
  have side : ∀ x, x = "B" ∨ x = "C" → (ofModule diamond).Linearises nowhere (.own x) [.own x, .own "A"] := by
    rintro x (rfl | rfl)
    all_goals
      refine .own (fun _ => [.own "A"]) rfl (fun a member => ?_) (.next (by decide +kernel) (.done (by decide +kernel)))
      rw [List.mem_singleton.mp (show a ∈ [.own "A"] from member)]
      exact base
  refine .own (fun a => [a, .own "A"]) rfl (fun a member => ?_) ?_
  · rcases List.mem_cons.mp (show a ∈ [.own "B", .own "C"] from member) with rfl | later
    · exact side "B" (.inl rfl)
    · rw [List.mem_singleton.mp later]
      exact side "C" (.inr rfl)
  · exact .next (by decide +kernel) (.next (by decide +kernel) (.next (by decide +kernel) (.done (by decide +kernel))))

-- The search comes to `A` through `B`; a method of `D` is that of `C`.
theorem lookup_along_line_diamond :
    let ns := ofModule diamond
    let line : List (Ancestor Unit) := [.own "D", .own "B", .own "C", .own "A"]
    ns.Linearises nowhere (.own "D") line ∧ ns.HaltsLast nowhere "m" line ∧ ¬ ns.Unshared nowhere line ∧
      (ns.lookupMethod "D" "m").map (List.map (·.params.names)) = some [["self"]] ∧
      (ns.dispatched "m" line).map (List.map (·.params.names)) = some [["self", "x"]] := by
  intro ns line
  have last : ns.HaltsLast nowhere "m" line := haltsLast_of_unhalted linearises_diamond (by decide +kernel)
  have searched : (ns.lookupMethod "D" "m").map (List.map (·.params.names)) = some [["self"]] := by decide +kernel
  have prescribed : (ns.dispatched "m" line).map (List.map (·.params.names)) = some [["self", "x"]] := by
    decide +kernel
  refine ⟨linearises_diamond, last, fun unshared => ?_, searched, prescribed⟩
  obtain ⟨order, -, -, -, -, agrees⟩ := lookup_along_line linearises_diamond "m"
  obtain ⟨defs, found, names⟩ := Option.map_eq_some_iff.mp searched
  rw [agrees unshared last defs found, Option.map_some, names] at prescribed
  revert prescribed
  decide

end Namespace

end Whittle
