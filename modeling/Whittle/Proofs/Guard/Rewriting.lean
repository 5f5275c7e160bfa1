import Whittle.Proofs.Guard.Found
import Whittle.Proofs.Run
import Whittle.Proofs.Syntax.Filling
import Whittle.Proofs.Syntax.Trimming

namespace Whittle

namespace Edits

theorem lookup_extendAt (n m : Nat) (stmts : Block) (inserted : List (Nat × Block)) :
    (extendAt n stmts inserted).lookup m =
      if m = n then some ((inserted.lookup n).getD [] ++ stmts) else inserted.lookup m := by
  induction inserted with
  | nil =>
    by_cases same : m = n
    · simp [extendAt, same]
    · simp [extendAt, same, List.lookup_cons, beq_false_of_ne same]
  | cons entry rest ih =>
    obtain ⟨k, old⟩ := entry
    rw [extendAt]
    by_cases here : k = n
    · subst here
      by_cases same : m = k
      · simp [same]
      · simp [same, List.lookup_cons, beq_false_of_ne same]
    · have apart : (n == k) = false := beq_false_of_ne (Ne.symm here)
      by_cases same : m = k
      · subst same
        simp [here]
      · simp [here, List.lookup_cons, beq_false_of_ne same, apart, ih]

theorem isRemoved_remove (e : Edits) (n m : Nat) :
    (e.remove n).isRemoved (some m) = (e.isRemoved (some m) || n == m) := by
  grind [remove, isRemoved]

theorem before_remove (e : Edits) (n : Nat) (l : Label) : (e.remove n).before l = e.before l := by
  unfold remove
  split <;> rfl

theorem before_insertBefore (e : Edits) (n m : Nat) (stmts : Block) :
    (e.insertBefore n stmts).before (some m) = e.before (some m) ++ if n = m then stmts else [] := by
  simp only [before, insertBefore, lookup_extendAt]
  by_cases same : m = n
  · simp [same]
  · simp [same, Ne.symm same]

-- The edits that the guards of a list ask for.
def ofGuards (gs : List Guard) : Edits := gs.foldl (fun e g => g.enter e) {}

theorem isRemoved_enter (g : Guard) (e : Edits) (n : Nat) :
    (g.enter e).isRemoved (some n) = (e.isRemoved (some n) || g.label == n) := by
  unfold Guard.enter
  split <;> exact isRemoved_remove ..

theorem before_enter (g : Guard) (e : Edits) (n : Nat) :
    (g.enter e).before (some n) =
      e.before (some n) ++ if g.label = n ∧ g.action = .hoist then g.body else [] := by
  unfold Guard.enter
  split
  · rename_i action
    simp [before_remove, action]
  · rename_i action
    simp [before_remove, before_insertBefore, action]

theorem isRemoved_ofGuards (gs : List Guard) (n : Nat) :
    (ofGuards gs).isRemoved (some n) = gs.any (·.label == n) := by
  have fold : ∀ e : Edits, (gs.foldl (fun e g => g.enter e) e).isRemoved (some n) =
      (e.isRemoved (some n) || gs.any (·.label == n)) := by
    induction gs with
    | nil => simp
    | cons g rest ih => simp [ih, isRemoved_enter, Bool.or_assoc]
  exact (fold {}).trans (Bool.false_or _)

theorem before_ofGuards (gs : List Guard) (n : Nat) :
    (ofGuards gs).before (some n) =
      gs.flatMap fun g => if g.label = n ∧ g.action = .hoist then g.body else [] := by
  have fold : ∀ e : Edits, (gs.foldl (fun e g => g.enter e) e).before (some n) =
      e.before (some n) ++ gs.flatMap fun g => if g.label = n ∧ g.action = .hoist then g.body else [] := by
    induction gs with
    | nil => simp
    | cons g rest ih => simp [ih, before_enter]
  exact fold {}

-- The queue treats a statement as the verdicts say: it goes away when it is decided, and leaves what is hoisted.
structure Follows (e : Edits) (v : Verdicts) (s : Stmt) : Prop where
  removed : e.isRemoved s.label = (s.verdict? v).isSome
  before : e.before s.label = s.hoisted v

theorem isSome_verdict_iff {v : Verdicts} {s : Stmt} {n : Nat} (labelled : s.label = some n) :
    (s.verdict? v).isSome ↔ ∃ g, Node.guard? v (.stmt s) = some g := by
  cases s with
  | ifElse l test body orelse =>
    cases labelled
    cases decided : v.decide test orelse <;> simp [Stmt.verdict?, Node.guard?, decided]
  | _ => simp [Stmt.verdict?, Node.guard?]

theorem removed_by_guards (m : Module) (v : Verdicts) {s : Stmt} (member : .stmt s ∈ (Node.module m.number).walk) :
    (ofGuards (m.number.guards v)).isRemoved s.label = (s.verdict? v).isSome := by
  obtain ⟨n, labelled⟩ := Module.label_eq_some member (List.mem_singleton.mpr rfl)
  change s.label = some n at labelled
  rw [Bool.eq_iff_iff, isSome_verdict_iff labelled, labelled, isRemoved_ofGuards]
  simp only [List.any_eq_true, beq_iff_eq, Module.guards, List.mem_filterMap]
  constructor
  · rintro ⟨g, ⟨y, inside, found⟩, rfl⟩
    obtain ⟨test, orelse, isNew, rfl, -, -⟩ := Node.guard_form found
    have same := Module.eq_of_label inside member (List.mem_singleton.mpr rfl) (List.mem_singleton.mpr labelled.symm)
    exact ⟨g, same ▸ found⟩
  · rintro ⟨g, found⟩
    refine ⟨g, ⟨_, member, found⟩, ?_⟩
    obtain ⟨test, orelse, isNew, same, -, -⟩ := Node.guard_form found
    cases same
    exact Option.some.inj labelled

theorem before_by_guards (m : Module) (v : Verdicts) {s : Stmt} (member : .stmt s ∈ (Node.module m.number).walk) :
    (ofGuards (m.number.guards v)).before s.label = s.hoisted v := by
  obtain ⟨n, labelled⟩ := Module.label_eq_some member (List.mem_singleton.mpr rfl)
  change s.label = some n at labelled
  rw [labelled, before_ofGuards, Module.guards, List.filterMap_eq_flatMap_toList, List.flatMap_assoc,
    Module.flatMap_of_label member (List.mem_singleton.mpr labelled.symm)]
  · cases s with
    | ifElse l test body orelse =>
      cases labelled
      cases decided : v.decide test orelse with
      | none => simp [Node.guard?, Stmt.hoisted, decided]
      | some isNew => cases isNew <;> simp [Node.guard?, Stmt.hoisted, decided]
    | _ => simp [Node.guard?, Stmt.hoisted]
  · intro y other
    cases found : y.guard? v with
    | none => rfl
    | some g =>
      obtain ⟨test, orelse, isNew, rfl, -, -⟩ := Node.guard_form found
      have different : g.label ≠ n := fun same => other (List.mem_singleton.mpr (same ▸ rfl))
      simp [different]

theorem follows_ofGuards (m : Module) (v : Verdicts) {s : Stmt} (member : .stmt s ∈ (Node.module m.number).walk) :
    (ofGuards (m.number.guards v)).Follows v s :=
  ⟨removed_by_guards m v member, before_by_guards m v member⟩

theorem visit_block {e : Edits} {v : Verdicts} {fuel : Nat} {b : Block}
    (each : ∀ t ∈ b, e.visit fuel t = some (t.prune v)) :
    (do return (← b.mapM (e.visit fuel)).flatten) = some (pruneBlock v b) := by
  rw [mapM_eq_some each, pruneBlock_eq]
  rfl

-- Statements that are put before a guard come from its body, so they are smaller than the guard and fuel suffices.
theorem visit_eq_prune {e : Edits} {v : Verdicts} {fuel : Nat} {s : Stmt}
    (follows : ∀ t, .stmt t ∈ (Node.stmt s).walk → e.Follows v t) (enough : s.size ≤ fuel) :
    e.visit fuel s = some (s.prune v) := by
  induction fuel generalizing s with
  | zero => exact absurd enough (Nat.not_le.mpr s.size_pos)
  | succ fuel ih =>
    have below : ∀ b ∈ s.blocks, ∀ t ∈ b, e.visit fuel t = some (t.prune v) := by
      intro b block t member
      obtain ⟨inside, smaller⟩ := Stmt.below_of_mem_blocks block member
      exact ih (fun u deeper => follows u ((Node.walk_sublist inside).subset deeper)) (by omega)
    have front : (do return (← (s.hoisted v).mapM (e.visit fuel)).flatten) = some (pruneBlock v (s.hoisted v)) := by
      refine visit_block fun t member => ?_
      obtain ⟨b, block, member⟩ := Stmt.mem_blocks_of_hoisted member
      exact below b block t member
    have blocks := Stmt.mapBlocksM_eq_some fun b block => visit_block (below b block)
    obtain ⟨removed, before⟩ := follows s (Node.self_mem_walk _)
    rw [visit, before, removed]
    cases verdict : s.verdict? v with
    | none =>
      simp only [Stmt.hoisted_of_undecided verdict, Stmt.prune_of_undecided verdict, List.mapM_nil, blocks]
      rfl
    | some isNew =>
      rw [Stmt.prune_of_decided (by simp [verdict]), ← front]
      rfl

theorem blockSize_lt_fuelFor (e : Edits) (m : Module) : blockSize m.body < e.fuelFor m := by
  have grows : ∀ (entries : List (Nat × Block)) (start : Nat),
      start ≤ entries.foldl (fun total entry => total + blockSize entry.2) start := by
    intro entries
    induction entries with
    | nil => exact Nat.le_refl
    | cons entry rest ih => exact fun start => Nat.le_trans (Nat.le_add_right ..) (ih _)
  exact grows e.inserted (blockSize m.body + 1)

theorem apply_eq_prune {e : Edits} {v : Verdicts} {m : Module}
    (follows : ∀ s, .stmt s ∈ (Node.module m).walk → e.Follows v s) : e.apply m = some (m.prune v).fill := by
  have each : ∀ s ∈ m.body, e.visit (e.fuelFor m) s = some (s.prune v) := by
    intro s member
    have child : Node.stmt s ∈ (Node.module m).children := by simpa [Node.children] using member
    have inside : Node.stmt s ∈ (Node.module m).walk := Node.mem_walk_of_child child (Node.self_mem_walk _)
    refine visit_eq_prune (fun t below => follows t ((Node.walk_sublist inside).subset below)) ?_
    have size := size_le_blockSize member
    have fuel := e.blockSize_lt_fuelFor m
    omega
  rw [apply, mapM_eq_some each, Module.prune, pruneBlock_eq]
  rfl

theorem cut_nil (e : Edits) : e.cut [] = e := by
  simp [cut, cutBlock_nil]

end Edits

theorem Module.guards_eq_nil_iff (v : Verdicts) (m : Module) : m.number.guards v = [] ↔ m.number.isSettled v := by
  rw [isSettled_iff_walk, guards, List.filterMap_eq_nil_iff]
  constructor
  · intro none t member
    obtain ⟨n, labelled⟩ := Module.label_eq_some member (List.mem_singleton.mpr rfl)
    have undecided : ¬(t.verdict? v).isSome := by simp [Edits.isSome_verdict_iff labelled, none _ member]
    simpa using undecided
  · intro undecided n member
    cases found : n.guard? v with
    | none => rfl
    | some g =>
      obtain ⟨test, orelse, isNew, rfl, decided, -⟩ := Node.guard_form found
      have unknown : v.decide test orelse = none := undecided _ member
      simp [unknown] at decided

namespace Engine

-- The only rule is the one on version guards, and it knows its constant and its target.
def onGuards (constant : String) (target : Int) (known : Option Value) (changes : Nat) (ambient : Ambient) : Engine :=
  ⟨[⟨.versionGuard ⟨constant, some target, known⟩, changes⟩], ambient⟩

section

variable (constant : String) (target : Int) (known : Option Value) (changes : Nat) (ambient : Ambient) (m : Module)

theorem inspect_onGuards :
    (onGuards constant target known changes ambient).inspect m.number =
      ⟨[⟨.versionGuard ⟨constant, some target, known⟩,
        Guard.weights (m.number.guards (.ofTarget constant target))⟩],
       { ambient := ambient, edits := .ofGuards (m.number.guards (.ofTarget constant target)) }, none⟩ := by
  rw [inspect, onGuards, List.map_singleton, traverse_guards, found_in_module, Nat.zero_add]
  rfl

theorem finish_onGuards :
    finish m.number ((onGuards constant target known changes ambient).inspect m.number).draft =
      .ok (m.number.prune (.ofTarget constant target)).fill := by
  rw [inspect_onGuards, finish, Edits.cut_nil, Module.cut_nil,
    Edits.apply_eq_prune fun s member => Edits.follows_ofGuards m (.ofTarget constant target) member]

theorem applied_onGuards :
    applied ((onGuards constant target known changes ambient).inspect m.number).rules =
      if m.number.isSettled (.ofTarget constant target) then [] else ["remove_version_id_check"] := by
  rw [inspect_onGuards, applied]
  have counts : Guard.weights (m.number.guards (.ofTarget constant target)) = 0 ↔
      m.number.isSettled (.ofTarget constant target) := by
    rw [← Module.guards_eq_nil_iff]
    cases m.number.guards (.ofTarget constant target) with
    | nil => simp
    | cons g rest => cases action : g.action <;> simp [Guard.weight, action]
  by_cases settled : m.number.isSettled (.ofTarget constant target)
  · simp [counts.mpr settled, settled]
  · simp only [mt counts.mp settled, settled, bne_iff_ne, ne_eq, not_false_eq_true, List.filter_cons_of_pos]
    rfl

variable {m}

theorem run_onGuards (path : String) {source : String} (parsed : Module.parse source.toList = .ok m) :
    ((onGuards constant target known changes ambient).run path source).2 =
      if m.number.isSettled (.ofTarget constant target) then .ok { path := path, before := source, after := source }
      else
        match (m.number.prune (.ofTarget constant target)).fill.render with
        | .ok after =>
          .ok { path := path, before := source, after := after, applied := ["remove_version_id_check"] }
        | .error f => .error (.render f) := by
  have calm : ((onGuards constant target known changes ambient).inspect m.number).failure = none := by
    rw [inspect_onGuards]
  have names := applied_onGuards constant target known changes ambient m
  split
  · rename_i settled
    exact run_of_idle parsed calm (names.trans (if_pos settled))
  · rename_i unsettled
    exact run_of_finished parsed calm (names.trans (if_neg unsettled)) (List.cons_ne_nil _ _) (finish_onGuards ..)

end

-- The module that is written is the pruned one with fillers where a block must hold a statement and holds none, and
-- nothing else touched; without a guard there is nothing to write.
theorem prunes_module (constant : String) (target : Int) (known : Option Value) (changes : Nat) (ambient : Ambient) :
    let e := onGuards constant target known changes ambient
    let v := Verdicts.ofTarget constant target
    (∀ m : Module,
      (e.inspect m.number).failure = none ∧
      finish m.number (e.inspect m.number).draft = .ok (m.number.prune v).fill ∧
      BlockPadded (m.number.prune v).body (m.number.prune v).fill.body ∧
      applied (e.inspect m.number).rules = (if m.number.isSettled v then [] else ["remove_version_id_check"]) ∧
      (m.number.isSettled v → m.number.prune v = m.number)) ∧
    ∀ (path source : String) (m : Module), Module.parse source.toList = .ok m →
      (e.run path source).2 =
        if m.number.isSettled v then .ok { path := path, before := source, after := source }
        else
          match (m.number.prune v).fill.render with
          | .ok after =>
            .ok { path := path, before := source, after := after, applied := ["remove_version_id_check"] }
          | .error f => .error (.render f) := by
  refine ⟨fun m => ⟨?_, ?_, ?_, ?_, Module.prune_of_settled⟩, fun path source m parsed => ?_⟩
  · rw [inspect_onGuards]
  · exact finish_onGuards constant target known changes ambient m
  · exact padded_fillBlock _
  · exact applied_onGuards constant target known changes ambient m
  · exact run_onGuards constant target known changes ambient path parsed

theorem prunes_module_nested :
    let source :=
      "class A:\n    if 30800 < V:\n        try:\n            if V < 30900:\n                x\n        finally:\n            y\n"
    ∃ m, Module.parse source.toList = .ok m ∧
      ((onGuards "V" 30800 none 0 ⟨.ok .null, 0⟩).run "a.py" source).2 =
        .ok { path := "a.py", before := source, applied := ["remove_version_id_check"],
              after := "class A:\n    try:\n        pass\n    finally:\n        y\n" } := by
  intro source
  obtain ⟨m, parsed, unsettled, written⟩ : ∃ m, Module.parse source.toList = .ok m ∧
      m.number.isSettled (.ofTarget "V" 30800) = false ∧
      (m.number.prune (.ofTarget "V" 30800)).fill.render =
        .ok "class A:\n    try:\n        pass\n    finally:\n        y\n" :=
    Module.exists_parsed (by decide +kernel)
  refine ⟨m, parsed, ?_⟩
  rw [(prunes_module "V" 30800 none 0 ⟨.ok .null, 0⟩).2 "a.py" source m parsed, written, unsettled]
  rfl

end Engine

end Whittle
