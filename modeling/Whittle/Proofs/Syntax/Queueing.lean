import Mathlib.Data.List.Induction
import Whittle.Proofs.Guard.Rewriting
import Whittle.Proofs.Syntax.Deferral

namespace Whittle

namespace Tree

namespace Request

-- The request is to edit at a statement of the module.
def IsEdit (m : Module) (r : Request) : Prop :=
  ∃ s, r.target? = some (.stmt s) ∧ .stmt s ∈ (Node.module m.number).walk

-- Statements of a tree are told apart by their labels.
def removes (l : Label) : Request → Bool
  | .remove n => n.label == l
  | _ => false

def inserts (l : Label) : Request → Block
  | .insertBefore stmts anchor => if anchor.label == l then stmts else []
  | _ => []

def statements : Request → Block
  | .insertBefore stmts _ => stmts
  | _ => []

def enter (r : Request) (e : Edits) : Edits :=
  match r with
  | .remove n => n.label.elim e e.remove
  | .insertBefore stmts anchor => anchor.label.elim e fun l => e.insertBefore l stmts
  | .look | .apply => e

end Request

def queued (requests : List Request) : Edits := requests.foldl (fun e r => r.enter e) {}

section

variable {m : Module} {t : Tree} {r : Request}

theorem statementLabel_of_member {s : Stmt} (member : .stmt s ∈ (Node.module m.number).walk)
    (arena : t.arena = (ofModule m).arena) : ∃ l, s.label = some l ∧ t.statementLabel (.stmt s) = .ok l := by
  have indexes := Arena.indexes_ofModule m
  obtain ⟨i, entered⟩ := indexes.entered _ (Node.mem_breadthFirst_iff.mpr member)
  have index : t.arena.indexOf? (.stmt s) = some i := arena ▸ (indexes.found i _ entered).2
  obtain ⟨l, label⟩ := Module.label_eq_some member (List.mem_singleton_self s.label)
  exact ⟨l, label, by simp only [statementLabel, label, index]⟩

theorem ask_of_edit (wreck : Wreck) (edit : r.IsEdit m) (arena : t.arena = (ofModule m).arena) :
    t.ask wreck r = (.queued, { t with edits := r.enter t.edits }) := by
  obtain ⟨s, target, member⟩ := edit
  obtain ⟨l, label, known⟩ := statementLabel_of_member member arena
  cases r with
  | remove =>
    cases target
    simp only [ask, remove, known, Request.enter, Node.label, label]
    rfl
  | insertBefore stmts =>
    cases target
    simp only [ask, insertBefore, known, Request.enter, Node.label, label]
    rfl
  | look => cases target
  | apply => cases target

theorem askAll_of_edits (wreck : Wreck) {requests : List Request} (edits : ∀ r ∈ requests, r.IsEdit m)
    (arena : t.arena = (ofModule m).arena) :
    (t.askAll wreck requests).2 = { t with edits := requests.foldl (fun e r => r.enter e) t.edits } := by
  induction requests generalizing t with
  | nil => rfl
  | cons r rest ih =>
    rw [List.forall_mem_cons] at edits
    have asked := ask_of_edit wreck edits.1 arena
    rw [askAll, asked]
    exact ih edits.2 arena

end

theorem Request.isRemoved_enter (r : Request) (e : Edits) (l : Nat) :
    (r.enter e).isRemoved (some l) = (e.isRemoved (some l) || r.removes (some l)) := by
  cases r with
  | remove n => cases label : n.label <;> simp [enter, removes, label, Edits.isRemoved_remove]
  | insertBefore stmts anchor =>
    change _ = (e.isRemoved (some l) || false)
    rw [Bool.or_false]
    cases label : anchor.label <;> simp only [enter, label] <;> rfl
  | look => simp [enter, removes]
  | apply => simp [enter, removes]

theorem Request.before_enter (r : Request) (e : Edits) (l : Nat) :
    (r.enter e).before (some l) = e.before (some l) ++ r.inserts (some l) := by
  cases r with
  | remove n => cases label : n.label <;> simp [enter, inserts, label, Edits.before_remove]
  | insertBefore stmts anchor =>
    cases label : anchor.label <;> simp [enter, inserts, label, Edits.before_insertBefore]
  | look => simp [enter, inserts]
  | apply => simp [enter, inserts]

theorem mem_extendAt {l : Nat} {stmts : Block} {inserted : List (Nat × Block)} {entry : Nat × Block} {u : Stmt}
    (member : entry ∈ Edits.extendAt l stmts inserted) (inside : u ∈ entry.2) :
    (∃ old ∈ inserted, u ∈ old.2) ∨ u ∈ stmts := by
  induction inserted with
  | nil =>
    cases List.mem_singleton.mp member
    exact .inr inside
  | cons first rest ih =>
    rw [Edits.extendAt] at member
    split at member
    · rcases List.mem_cons.mp member with rfl | later
      · exact (List.mem_append.mp inside).imp_left fun old => ⟨first, List.mem_cons_self, old⟩
      · exact .inl ⟨entry, List.mem_cons_of_mem _ later, inside⟩
    · rcases List.mem_cons.mp member with rfl | later
      · exact .inl ⟨_, List.mem_cons_self, inside⟩
      · rcases ih later with ⟨old, known, there⟩ | added
        · exact .inl ⟨old, List.mem_cons_of_mem _ known, there⟩
        · exact .inr added

theorem Request.mem_inserted_enter {r : Request} {e : Edits} {entry : Nat × Block} {u : Stmt}
    (member : entry ∈ (r.enter e).inserted) (inside : u ∈ entry.2) :
    (∃ old ∈ e.inserted, u ∈ old.2) ∨ u ∈ r.statements := by
  cases r with
  | remove n =>
    refine .inl ⟨entry, ?_, inside⟩
    cases label : n.label with
    | none => simpa only [enter, label, Option.elim_none] using member
    | some l =>
      simp only [enter, label, Option.elim_some, Edits.remove] at member
      split at member <;> exact member
  | insertBefore stmts anchor =>
    cases label : anchor.label with
    | none =>
      simp only [enter, label, Option.elim_none] at member
      exact .inl ⟨entry, member, inside⟩
    | some l =>
      simp only [enter, label, Option.elim_some, Edits.insertBefore] at member
      exact mem_extendAt member inside
  | look => exact .inl ⟨entry, member, inside⟩
  | apply => exact .inl ⟨entry, member, inside⟩

theorem Request.isPending_enter {m : Module} {r : Request} (edit : r.IsEdit m) (e : Edits) : (r.enter e).isPending := by
  obtain ⟨s, target, member⟩ := edit
  obtain ⟨l, label⟩ := Module.label_eq_some member (List.mem_singleton_self s.label)
  cases r with
  | remove =>
    cases target
    simp only [enter, Node.label, label]
    exact e.isPending_remove l
  | insertBefore stmts =>
    cases target
    simp only [enter, Node.label, label]
    exact e.isPending_insertBefore l stmts
  | look => cases target
  | apply => cases target

-- Entering the last request is the step of each induction on the queue.
theorem queued_snoc (requests : List Request) (r : Request) : queued (requests ++ [r]) = r.enter (queued requests) := by
  rw [queued, List.foldl_append]
  rfl

variable {m : Module} {requests : List Request}

theorem isRemoved_queued (l : Nat) (requests : List Request) :
    (queued requests).isRemoved (some l) = requests.any (·.removes (some l)) := by
  induction requests using List.reverseRecOn with
  | nil => rfl
  | append_singleton rest r ih =>
    rw [queued_snoc, r.isRemoved_enter, ih, List.any_append, List.any_cons, List.any_nil, Bool.or_false]

theorem before_queued (l : Nat) (requests : List Request) :
    (queued requests).before (some l) = requests.flatMap (·.inserts (some l)) := by
  induction requests using List.reverseRecOn with
  | nil => rfl
  | append_singleton rest r ih => rw [queued_snoc, r.before_enter, ih, List.flatMap_append, List.flatMap_singleton]

theorem mem_inserted_queued {entry : Nat × Block} {u : Stmt} (member : entry ∈ (queued requests).inserted)
    (inside : u ∈ entry.2) : ∃ r ∈ requests, u ∈ r.statements := by
  induction requests using List.reverseRecOn generalizing entry with
  | nil => cases member
  | append_singleton rest r ih =>
    rw [queued_snoc] at member
    rcases Request.mem_inserted_enter member inside with ⟨old, known, there⟩ | new
    · obtain ⟨q, earlier, listed⟩ := ih known there
      exact ⟨q, List.mem_append_left _ earlier, listed⟩
    · exact ⟨r, List.mem_append_right _ (List.mem_singleton_self r), new⟩

theorem isPending_queued (edits : ∀ r ∈ requests, r.IsEdit m) : (queued requests).isPending = !requests.isEmpty := by
  rcases requests.eq_nil_or_concat with rfl | ⟨rest, r, rfl⟩
  · rfl
  · rw [List.concat_eq_append] at edits ⊢
    have last := edits r (List.mem_append_right _ (List.mem_singleton_self r))
    rw [queued_snoc, Request.isPending_enter last]
    simp

theorem apply_of_idle {t : Tree} (idle : t.isPending = false) : t.apply = some (t, false) := by
  rw [apply, idle]
  rfl

-- As long as no statement stands in two places, the queue alone says what becomes of the module.
theorem apply_of_fresh {t : Tree} {left : Module} (pending : t.isPending) (apart : t.sharing = false)
    (fresh : t.edits.insertsFresh) (edited : t.edits.apply t.module = some left) :
    ∃ after, t.apply = some (after, true) ∧ after.module = left ∧ after.arena = t.arena := by
  refine ⟨{ t with module := left, edits := {}, versions := t.versions.enterAll left }, ?_, rfl, rfl⟩
  rw [apply, pending, apart, fresh, edited]
  rfl

end Tree

end Whittle
