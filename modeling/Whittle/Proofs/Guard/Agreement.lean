import Whittle.Proofs.Guard.Pruning
import Whittle.Proofs.Syntax.Labels

namespace Whittle

theorem Stmt.label_mem_labels (s : Stmt) : s.label ∈ s.labels := by
  cases s <;> exact List.mem_cons_self

theorem labelsOfBlock_single (s : Stmt) : labelsOfBlock [s] = s.labels := List.append_nil _

theorem labelsOfBlock_append (front back : Block) :
    labelsOfBlock (front ++ back) = labelsOfBlock front ++ labelsOfBlock back := by
  induction front with
  | nil => rfl
  | cons s rest ih => rw [List.cons_append, labelsOfBlock, ih, labelsOfBlock, List.append_assoc]

theorem label_mem_labelsOfBlock {s : Stmt} {b : Block} (member : s ∈ b) : s.label ∈ labelsOfBlock b := by
  induction b with
  | nil => cases member
  | cons t rest ih =>
    rcases List.mem_cons.mp member with rfl | later
    · exact List.mem_append_left _ s.label_mem_labels
    · exact List.mem_append_right _ (ih later)

section Labels

variable (v : Verdicts)

mutual

theorem Stmt.labels_prune (s : Stmt) : (labelsOfBlock (s.prune v)).Sublist s.labels := by
  match s with
  | .simple l form => exact (labelsOfBlock_single _).symm ▸ .refl _
  | .func l head body | .klass l head body =>
    rw [Stmt.prune, labelsOfBlock_single]
    exact ((List.Sublist.refl _).append (labels_pruneBlock body)).cons_cons l
  | .ifElse l test body orelse =>
    have below : (labelsOfBlock body).Sublist (Stmt.ifElse l test body orelse).labels :=
      ((List.sublist_append_right _ _).trans (List.sublist_append_left _ _)).cons l
    rw [Stmt.prune]
    split
    · exact (labels_pruneBlock body).trans below
    · exact List.nil_sublist _
    · rw [labelsOfBlock_single]
      exact (((List.Sublist.refl _).append (labels_pruneBlock body)).append (labels_pruneBlock orelse)).cons_cons l
  | .forLoop l _ target iter body orelse =>
    rw [Stmt.prune, labelsOfBlock_single]
    exact (((List.Sublist.refl _).append (labels_pruneBlock body)).append (labels_pruneBlock orelse)).cons_cons l
  | .whileLoop l test body orelse =>
    rw [Stmt.prune, labelsOfBlock_single]
    exact (((List.Sublist.refl _).append (labels_pruneBlock body)).append (labels_pruneBlock orelse)).cons_cons l
  | .withBlock l _ items body =>
    rw [Stmt.prune, labelsOfBlock_single]
    exact ((List.Sublist.refl _).append (labels_pruneBlock body)).cons_cons l
  | .matchOn l subject cases =>
    rw [Stmt.prune, labelsOfBlock_single]
    exact ((List.Sublist.refl _).append (labels_pruneCases cases)).cons_cons l
  | .tryBlock l _ body handlers orelse finalbody =>
    have front := (labels_pruneBlock body).append (labels_pruneHandlers handlers)
    rw [Stmt.prune, labelsOfBlock_single]
    exact ((front.append (labels_pruneBlock orelse)).append (labels_pruneBlock finalbody)).cons_cons l

theorem labels_pruneBlock (b : List Stmt) : (labelsOfBlock (pruneBlock v b)).Sublist (labelsOfBlock b) := by
  match b with
  | [] => exact .refl _
  | s :: rest =>
    rw [pruneBlock, labelsOfBlock_append]
    exact s.labels_prune.append (labels_pruneBlock rest)

theorem labels_pruneHandlers (hs : List Handler) :
    (labelsOfHandlers (pruneHandlers v hs)).Sublist (labelsOfHandlers hs) := by
  match hs with
  | [] => exact .refl _
  | .mk l type name body :: rest =>
    exact (((List.Sublist.refl _).append (labels_pruneBlock body)).append (labels_pruneHandlers rest)).cons_cons l

theorem labels_pruneCases (cs : List MatchCase) :
    (labelsOfCases (pruneCases v cs)).Sublist (labelsOfCases cs) := by
  match cs with
  | [] => exact .refl _
  | .mk l p guard body :: rest =>
    exact (((List.Sublist.refl _).append (labels_pruneBlock body)).append (labels_pruneCases rest)).cons_cons l

end

end Labels

-- Two blocks are the same if they are the same part by part, and the parts are told apart by their labels.
theorem append_eq_iff_of_labels {first rest : List Label} (apart : first.Disjoint rest) {a b c d : Block}
    (ofA : labelsOfBlock a ⊆ first) (ofB : labelsOfBlock b ⊆ rest) (ofC : labelsOfBlock c ⊆ first)
    (ofD : labelsOfBlock d ⊆ rest) : a ++ b = c ++ d ↔ a = c ∧ b = d := by
  have all : ∀ {x : Block}, labelsOfBlock x ⊆ first → x.filter (fun s => s.label ∈ first) = x := by
    intro x inside
    exact List.filter_eq_self.mpr fun s member => decide_eq_true (inside (label_mem_labelsOfBlock member))
  have none : ∀ {x : Block}, labelsOfBlock x ⊆ rest → x.filter (fun s => s.label ∈ first) = [] := by
    intro x outside
    refine List.filter_eq_nil_iff.mpr fun s member => ?_
    exact fun here => apart (of_decide_eq_true here) (outside (label_mem_labelsOfBlock member))
  constructor
  · intro same
    have front := congrArg (List.filter fun s => s.label ∈ first) same
    rw [List.filter_append, List.filter_append, all ofA, all ofC, none ofB, none ofD, List.append_nil,
      List.append_nil] at front
    subst front
    exact ⟨rfl, List.append_cancel_left same⟩
  · rintro ⟨rfl, rfl⟩
    rfl

theorem pruneBlock_append (v : Verdicts) (front back : Block) :
    pruneBlock v (front ++ back) = pruneBlock v front ++ pruneBlock v back := by
  simp only [pruneBlock_eq, List.flatMap_append]

section Agreement

variable (v w : Verdicts)

mutual

-- Whether what `w` leaves of a statement is the same after `v`.
def Stmt.agrees : Stmt → Bool
  | .simple .. => true
  | .func _ _ body => agreesBlock body
  | .klass _ _ body => agreesBlock body
  | .ifElse _ test body orelse =>
    match v.decide test orelse, w.decide test orelse with
    | some true, some true => agreesBlock body
    | some false, some false => true
    -- what one keeps and the other does not must come to nothing
    | some true, some false => (pruneBlock w (pruneBlock v body)).isEmpty
    | some false, some true => (pruneBlock w body).isEmpty
    | some _, none => false
    | none, some true => agreesBlock body
    | none, some false => true
    | none, none =>
      (w.decide test (pruneBlock v orelse)).isNone && agreesBlock body && agreesBlock orelse
  | .forLoop _ _ _ _ body orelse => agreesBlock body && agreesBlock orelse
  | .whileLoop _ _ body orelse => agreesBlock body && agreesBlock orelse
  | .withBlock _ _ _ body => agreesBlock body
  | .matchOn _ _ cases => agreesCases cases
  | .tryBlock _ _ body handlers orelse finalbody =>
    agreesBlock body && agreesHandlers handlers && agreesBlock orelse && agreesBlock finalbody

def agreesBlock : List Stmt → Bool
  | [] => true
  | s :: rest => s.agrees && agreesBlock rest

def agreesHandlers : List Handler → Bool
  | [] => true
  | .mk _ _ _ body :: rest => agreesBlock body && agreesHandlers rest

def agreesCases : List MatchCase → Bool
  | [] => true
  | .mk _ _ _ body :: rest => agreesBlock body && agreesCases rest

end

def Module.agrees (m : Module) : Bool := agreesBlock v w m.body

variable {v w}

theorem Verdicts.decide_of_some {test : Expr} {orelse : Block} {isNew : Bool}
    (decided : v.decide test orelse = some isNew) : orelse = [] ∧ v test = some isNew := by
  cases orelse with
  | nil => exact ⟨rfl, decided⟩
  | cons => cases decided

-- Nothing below a condition is the condition itself.
theorem prune_body_ne {l : Label} {test : Expr} {body orelse b c : Block}
    (distinct : (Stmt.ifElse l test body orelse).labels.Nodup) :
    pruneBlock w (pruneBlock v body) ≠ [.ifElse l test b c] := by
  intro same
  have member : Stmt.ifElse l test b c ∈ pruneBlock w (pruneBlock v body) := same ▸ List.mem_singleton_self _
  have inside := ((labels_pruneBlock w _).trans (labels_pruneBlock v body)).subset (label_mem_labelsOfBlock member)
  have fresh := (List.nodup_cons.mp distinct).1
  exact fresh (List.mem_append_left _ (List.mem_append_right _ inside))

mutual

theorem Stmt.prune_prune_iff (s : Stmt) (distinct : s.labels.Nodup) :
    pruneBlock w (s.prune v) = s.prune w ↔ s.agrees v w := by
  match s with
  | .simple .. => simp [Stmt.prune, pruneBlock, Stmt.agrees]
  | .func l head body | .klass l head body | .withBlock l _ head body =>
    have inner := pruneBlock_pruneBlock_iff body (List.nodup_append.mp (List.nodup_cons.mp distinct).2).2.1
    simp [Stmt.prune, pruneBlock, Stmt.agrees, inner]
  | .forLoop l _ _ _ body orelse | .whileLoop l _ body orelse =>
    obtain ⟨front, last, -⟩ := List.nodup_append.mp (List.nodup_cons.mp distinct).2
    have inner := pruneBlock_pruneBlock_iff body (List.nodup_append.mp front).2.1
    have other := pruneBlock_pruneBlock_iff orelse last
    simp [Stmt.prune, pruneBlock, Stmt.agrees, inner, other]
  | .matchOn l subject cases =>
    have inner := pruneCases_pruneCases_iff cases (List.nodup_append.mp (List.nodup_cons.mp distinct).2).2.1
    simp [Stmt.prune, pruneBlock, Stmt.agrees, inner]
  | .tryBlock l isStar body handlers orelse finalbody =>
    obtain ⟨front, last, -⟩ := List.nodup_append.mp (List.nodup_cons.mp distinct).2
    obtain ⟨front, third, -⟩ := List.nodup_append.mp front
    obtain ⟨first, second, -⟩ := List.nodup_append.mp front
    have inner := pruneBlock_pruneBlock_iff body first
    have handled := pruneHandlers_pruneHandlers_iff handlers second
    have other := pruneBlock_pruneBlock_iff orelse third
    have final := pruneBlock_pruneBlock_iff finalbody last
    simp [Stmt.prune, pruneBlock, Stmt.agrees, inner, handled, other, final, and_assoc]
  | .ifElse l test body orelse =>
    obtain ⟨front, last, -⟩ := List.nodup_append.mp (List.nodup_cons.mp distinct).2
    have inner := pruneBlock_pruneBlock_iff body (List.nodup_append.mp front).2.1
    have other := pruneBlock_pruneBlock_iff orelse last
    have below := prune_body_ne (v := v) (w := w) (b := pruneBlock w body) (c := pruneBlock w orelse) distinct
    rw [Stmt.prune, Stmt.prune, Stmt.agrees]
    match byV : v.decide test orelse, byW : w.decide test orelse with
    | some true, some true => exact inner
    | some false, some false => simp [pruneBlock]
    | some true, some false => exact List.isEmpty_iff.symm
    | some false, some true => exact eq_comm.trans List.isEmpty_iff.symm
    | some true, none => simp [below]
    | some false, none => simp [pruneBlock]
    | none, some holds =>
      obtain ⟨rfl, -⟩ := Verdicts.decide_of_some byW
      cases holds <;> simp [pruneBlock, Stmt.prune, byW, inner]
    | none, none =>
      cases exposed : w.decide test (pruneBlock v orelse) with
      | none => simp [pruneBlock, Stmt.prune, exposed, inner, other]
      | some holds => cases holds <;> simp [pruneBlock, Stmt.prune, exposed, below]

theorem pruneBlock_pruneBlock_iff (b : List Stmt) (distinct : (labelsOfBlock b).Nodup) :
    pruneBlock w (pruneBlock v b) = pruneBlock w b ↔ agreesBlock v w b := by
  match b with
  | [] => simp [pruneBlock, agreesBlock]
  | s :: rest =>
    obtain ⟨front, back, -⟩ := List.nodup_append.mp distinct
    have parts := append_eq_iff_of_labels (List.disjoint_of_nodup_append distinct)
      ((labels_pruneBlock w _).trans (s.labels_prune v)).subset
      ((labels_pruneBlock w _).trans (labels_pruneBlock v rest)).subset
      (s.labels_prune w).subset (labels_pruneBlock w rest).subset
    rw [pruneBlock, pruneBlock_append, pruneBlock, parts, s.prune_prune_iff front, pruneBlock_pruneBlock_iff rest back,
      agreesBlock, Bool.and_eq_true]

theorem pruneHandlers_pruneHandlers_iff (hs : List Handler) (distinct : (labelsOfHandlers hs).Nodup) :
    pruneHandlers w (pruneHandlers v hs) = pruneHandlers w hs ↔ agreesHandlers v w hs := by
  match hs with
  | [] => simp [pruneHandlers, agreesHandlers]
  | .mk l type name body :: rest =>
    obtain ⟨front, last, -⟩ := List.nodup_append.mp (List.nodup_cons.mp distinct).2
    have inner := pruneBlock_pruneBlock_iff body (List.nodup_append.mp front).2.1
    have others := pruneHandlers_pruneHandlers_iff rest last
    simp [pruneHandlers, agreesHandlers, inner, others]

theorem pruneCases_pruneCases_iff (cs : List MatchCase) (distinct : (labelsOfCases cs).Nodup) :
    pruneCases w (pruneCases v cs) = pruneCases w cs ↔ agreesCases v w cs := by
  match cs with
  | [] => simp [pruneCases, agreesCases]
  | .mk l p guard body :: rest =>
    obtain ⟨front, last, -⟩ := List.nodup_append.mp (List.nodup_cons.mp distinct).2
    have inner := pruneBlock_pruneBlock_iff body (List.nodup_append.mp front).2.1
    have others := pruneCases_pruneCases_iff rest last
    simp [pruneCases, agreesCases, inner, others]

end

end Agreement

end Whittle
