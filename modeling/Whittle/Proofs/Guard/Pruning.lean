import Whittle.Proofs.Syntax.Blocks
import Whittle.Rule.VersionGuard

namespace Whittle

-- How a test compares the constant with an integer, by operator and side.
inductive Comparison where
  | below (n : Nat)
  | atLeast (n : Nat)
  | above (n : Nat)
  | atMost (n : Nat)
  deriving DecidableEq, Repr

def Expr.integer? : Expr → Option Nat
  | .constant _ (.int n) => some n
  | _ => none

namespace Comparison

-- `constant < n`, `constant >= n`, `n < constant` and `n >= constant` are comparisons; no other test is.
def of? (constant : String) : Expr → Option Comparison
  | .compare _ left [op] [right] =>
    if left.dottedName? = some constant then
      match op, right.integer? with
      | .lt, some n => some (.below n)
      | .gtE, some n => some (.atLeast n)
      | _, _ => none
    else if right.dottedName? = some constant then
      match op, left.integer? with
      | .lt, some n => some (.above n)
      | .gtE, some n => some (.atMost n)
      | _, _ => none
    else none
  | _ => none

def literal : Comparison → Nat
  | .below n | .atLeast n | .above n | .atMost n => n

def isTrue (version : Int) : Comparison → Bool
  | .below n => version < n
  | .atLeast n => n ≤ version
  | .above n => n < version
  | .atMost n => version ≤ n

-- Whether it asks for new versions; the others ask for old ones.
def asksNew : Comparison → Bool
  | .atLeast _ | .above _ => true
  | .below _ | .atMost _ => false

end Comparison

abbrev Verdicts := Expr → Option Bool

namespace Verdicts

-- A target that is at most the literal takes it that the version is new.
def ofTarget (constant : String) (target : Int) : Verdicts := fun test =>
  (Comparison.of? constant test).bind fun c => if target ≤ c.literal then some c.asksNew else none

def ofVersion (constant : String) (version : Int) : Verdicts := fun test =>
  (Comparison.of? constant test).map (Comparison.isTrue version)

-- Only a condition without alternative is decided.
def decide (v : Verdicts) (test : Expr) (orelse : Block) : Option Bool := if orelse.isEmpty then v test else none

end Verdicts

variable (v : Verdicts)

mutual

def Stmt.prune : Stmt → Block
  | .simple l s => [.simple l s]
  | .func l head body => [.func l head (pruneBlock body)]
  | .klass l head body => [.klass l head (pruneBlock body)]
  | .ifElse l test body orelse =>
    match v.decide test orelse with
    | some true => pruneBlock body
    | some false => []
    | none => [.ifElse l test (pruneBlock body) (pruneBlock orelse)]
  | .forLoop l isAsync target iter body orelse =>
    [.forLoop l isAsync target iter (pruneBlock body) (pruneBlock orelse)]
  | .whileLoop l test body orelse => [.whileLoop l test (pruneBlock body) (pruneBlock orelse)]
  | .withBlock l isAsync items body => [.withBlock l isAsync items (pruneBlock body)]
  | .matchOn l subject cases => [.matchOn l subject (pruneCases cases)]
  | .tryBlock l isStar body handlers orelse finalbody =>
    [.tryBlock l isStar (pruneBlock body) (pruneHandlers handlers) (pruneBlock orelse) (pruneBlock finalbody)]

def pruneBlock : List Stmt → List Stmt
  | [] => []
  | s :: rest => s.prune ++ pruneBlock rest

def pruneHandlers : List Handler → List Handler
  | [] => []
  | .mk l type name body :: rest => .mk l type name (pruneBlock body) :: pruneHandlers rest

def pruneCases : List MatchCase → List MatchCase
  | [] => []
  | .mk l p guard body :: rest => .mk l p guard (pruneBlock body) :: pruneCases rest

end

def Module.prune (m : Module) : Module := ⟨pruneBlock v m.body⟩

-- What is known of a statement; of most there is nothing to know.
def Stmt.verdict? : Stmt → Option Bool
  | .ifElse _ test _ orelse => v.decide test orelse
  | _ => none

-- What a statement is replaced by when it is decided.
def Stmt.hoisted : Stmt → Block
  | .ifElse _ test body orelse => if v.decide test orelse = some true then body else []
  | _ => []

theorem pruneBlock_eq (b : Block) : pruneBlock v b = b.flatMap (Stmt.prune v) := by
  induction b with
  | nil => rfl
  | cons s rest ih => rw [pruneBlock, ih, List.flatMap_cons]

theorem pruneHandlers_eq (hs : List Handler) : pruneHandlers v hs = hs.map (Handler.mapBody (pruneBlock v)) := by
  induction hs with
  | nil => rfl
  | cons h rest ih => cases h; rw [pruneHandlers, ih, List.map_cons, Handler.mapBody]

theorem pruneCases_eq (cs : List MatchCase) : pruneCases v cs = cs.map (MatchCase.mapBody (pruneBlock v)) := by
  induction cs with
  | nil => rfl
  | cons c rest ih => cases c; rw [pruneCases, ih, List.map_cons, MatchCase.mapBody]

namespace Stmt

variable {v} {s : Stmt}

theorem prune_of_undecided (undecided : s.verdict? v = none) : s.prune v = [s.mapBlocks (pruneBlock v)] := by
  cases s with
  | ifElse l test body orelse =>
    change v.decide test orelse = none at undecided
    rw [prune, undecided, mapBlocks]
  | _ => simp only [prune, mapBlocks, pruneHandlers_eq, pruneCases_eq]

theorem prune_of_decided (decided : (s.verdict? v).isSome) : s.prune v = pruneBlock v (s.hoisted v) := by
  cases s with
  | ifElse l test body orelse =>
    obtain ⟨isNew, known⟩ := Option.isSome_iff_exists.mp decided
    change v.decide test orelse = some isNew at known
    cases isNew <;> simp [prune, hoisted, known, pruneBlock]
  | _ => exact absurd decided Bool.false_ne_true

theorem hoisted_of_undecided (undecided : s.verdict? v = none) : s.hoisted v = [] := by
  cases s with
  | ifElse l test body orelse =>
    change v.decide test orelse = none at undecided
    simp [hoisted, undecided]
  | _ => rfl

theorem mem_blocks_of_hoisted {t : Stmt} (member : t ∈ s.hoisted v) : ∃ b ∈ s.blocks, t ∈ b := by
  cases s with
  | ifElse l test body orelse =>
    rw [hoisted] at member
    split at member
    · exact ⟨body, List.mem_cons_self, member⟩
    · exact absurd member List.not_mem_nil
  | _ => exact absurd member List.not_mem_nil

end Stmt

mutual

-- Whether no condition at or below a statement is decided.
def Stmt.isSettled : Stmt → Bool
  | .simple .. => true
  | .func _ _ body => isSettledBlock body
  | .klass _ _ body => isSettledBlock body
  | .ifElse _ test body orelse => (v.decide test orelse).isNone && isSettledBlock body && isSettledBlock orelse
  | .forLoop _ _ _ _ body orelse => isSettledBlock body && isSettledBlock orelse
  | .whileLoop _ _ body orelse => isSettledBlock body && isSettledBlock orelse
  | .withBlock _ _ _ body => isSettledBlock body
  | .matchOn _ _ cases => isSettledCases cases
  | .tryBlock _ _ body handlers orelse finalbody =>
    isSettledBlock body && isSettledHandlers handlers && isSettledBlock orelse && isSettledBlock finalbody

def isSettledBlock : List Stmt → Bool
  | [] => true
  | s :: rest => s.isSettled && isSettledBlock rest

def isSettledHandlers : List Handler → Bool
  | [] => true
  | .mk _ _ _ body :: rest => isSettledBlock body && isSettledHandlers rest

def isSettledCases : List MatchCase → Bool
  | [] => true
  | .mk _ _ _ body :: rest => isSettledBlock body && isSettledCases rest

end

def Module.isSettled (m : Module) : Bool := isSettledBlock v m.body

theorem isSettledBlock_iff (b : Block) : isSettledBlock v b ↔ ∀ s ∈ b, s.isSettled v := by
  induction b with
  | nil => simp [isSettledBlock]
  | cons s rest ih => simp [isSettledBlock, ih]

theorem isSettledHandlers_iff (hs : List Handler) : isSettledHandlers v hs ↔ ∀ h ∈ hs, isSettledBlock v h.body := by
  induction hs with
  | nil => simp [isSettledHandlers]
  | cons h rest ih => cases h; simp [isSettledHandlers, ih, Handler.body]

theorem isSettledCases_iff (cs : List MatchCase) : isSettledCases v cs ↔ ∀ c ∈ cs, isSettledBlock v c.body := by
  induction cs with
  | nil => simp [isSettledCases]
  | cons c rest ih => cases c; simp [isSettledCases, ih, MatchCase.body]

theorem Stmt.isSettled_iff (s : Stmt) :
    s.isSettled v ↔ s.verdict? v = none ∧ ∀ b ∈ s.blocks, isSettledBlock v b := by
  cases s with
  | matchOn l subject cases => simp [isSettled, verdict?, blocks, isSettledCases_iff]
  | tryBlock l isStar body handlers orelse finalbody =>
    simp [isSettled, verdict?, blocks, isSettledHandlers_iff]
    grind
  | _ => simp [isSettled, verdict?, blocks, and_assoc]

theorem Stmt.isSettled_iff_walk (s : Stmt) :
    s.isSettled v ↔ ∀ t, .stmt t ∈ (Node.stmt s).walk → t.verdict? v = none := by
  induction size : s.size using Nat.strongRecOn generalizing s with
  | ind n ih =>
    subst size
    have blocks : (∀ b ∈ s.blocks, isSettledBlock v b) ↔
        ∀ b ∈ s.blocks, ∀ u ∈ b, ∀ t, .stmt t ∈ (Node.stmt u).walk → t.verdict? v = none := by
      refine forall₂_congr fun b block => ?_
      rw [isSettledBlock_iff]
      exact forall₂_congr fun u member => ih _ (below_of_mem_blocks block member).2 u rfl
    rw [isSettled_iff, blocks]
    constructor
    · rintro ⟨undecided, below⟩ t member
      obtain rfl | ⟨b, block, u, inner, inside⟩ := mem_walk_iff.mp member
      · exact undecided
      · exact below b block u inner t inside
    · intro all
      refine ⟨all s (Node.self_mem_walk _), fun b block u inner t inside => all t ?_⟩
      exact mem_walk_iff.mpr (.inr ⟨b, block, u, inner, inside⟩)

theorem Module.isSettled_iff_walk (m : Module) :
    m.isSettled v ↔ ∀ t, .stmt t ∈ (Node.module m).walk → t.verdict? v = none := by
  rw [isSettled, isSettledBlock_iff]
  constructor
  · intro settled t member
    obtain ⟨s, top, inside⟩ := mem_walk_iff.mp member
    exact (s.isSettled_iff_walk v).mp (settled s top) t inside
  · intro undecided s top
    exact (s.isSettled_iff_walk v).mpr fun t inside => undecided t (mem_walk_iff.mpr ⟨s, top, inside⟩)

theorem pruneBlock_of_each {v : Verdicts} {b : Block} (each : ∀ s ∈ b, s.prune v = [s]) : pruneBlock v b = b := by
  rw [pruneBlock_eq, List.flatMap_congr each, List.flatMap_singleton']

theorem Stmt.prune_of_settled {v : Verdicts} {s : Stmt} (settled : s.isSettled v) : s.prune v = [s] := by
  induction size : s.size using Nat.strongRecOn generalizing s with
  | ind n ih =>
    subst size
    obtain ⟨undecided, below⟩ := (s.isSettled_iff v).mp settled
    have blocks : ∀ b ∈ s.blocks, pruneBlock v b = b := by
      intro b block
      refine pruneBlock_of_each fun t member => ?_
      exact ih _ (below_of_mem_blocks block member).2 ((isSettledBlock_iff v b).mp (below b block) t member) rfl
    rw [prune_of_undecided undecided, mapBlocks_congr (g := id) blocks, mapBlocks_id]

theorem Module.prune_of_settled {v : Verdicts} {m : Module} (settled : m.isSettled v) : m.prune v = m :=
  congrArg Module.mk (pruneBlock_of_each fun s member =>
    Stmt.prune_of_settled ((isSettledBlock_iff v m.body).mp settled s member))

end Whittle
