import Whittle.Proofs.Callable.Resolution
import Whittle.Proofs.Syntax.Numbering
import Whittle.Rule.ExtraArguments

namespace Whittle

namespace ExtraArguments

-- How many of too many arguments a call keeps; a cut without its label.
def excess? (ns : Namespace) (cuts : Cuts) (above : List Node) (func : Expr) (args : List Expr) :
    Except ParseError (Option Nat) :=
  if isUncountable args || isIndirect ns func then .ok none
  else do
    let callee ← ns.resolve cuts above func
    return (callee.bind limit?).filter (· < args.length)

theorem cut_eq_excess (ns : Namespace) (cuts : Cuts) (above : List Node) (k : Nat) (func : Expr) (args : List Expr) :
    cut? ns cuts above (some k) func args =
      (excess? ns cuts above func (cuts.keep (some k) args)).map (Option.map fun n => (k, n)) := by
  rw [cut?, excess?]
  split
  · rfl
  · cases ns.resolve cuts above func with
    | error e => rfl
    | ok callee =>
      cases callee with
      | none => rfl
      | some callee =>
        cases limit : limit? callee with
        | none => simp [bind, Except.bind, pure, Except.pure, Except.map, limit]
        | some n =>
          by_cases many : n < (cuts.keep (some k) args).length <;>
            simp [bind, Except.bind, pure, Except.pure, Except.map, limit, many, Option.filter]

theorem label_of_cut {ns : Namespace} {cuts : Cuts} {above : List Node} {l : Label} {func : Expr} {args : List Expr}
    {made : Nat × Nat} (judged : cut? ns cuts above l func args = .ok (some made)) : l = some made.1 := by
  cases l with
  | none =>
    rw [cut?] at judged
    split at judged
    · cases judged
    · cases resolved : ns.resolve cuts above func <;> simp [resolved, bind, Except.bind, pure, Except.pure] at judged
  | some k =>
    rw [cut_eq_excess] at judged
    cases excess : excess? ns cuts above func (cuts.keep (some k) args) with
    | error e =>
      rw [excess] at judged
      cases judged
    | ok found =>
      rw [excess] at judged
      obtain ⟨n, -, rfl⟩ := Option.map_eq_some_iff.mp (Except.ok.inj judged)
      rfl

section Trim

variable {cuts : Cuts} {f : Label → Label} (ns : Namespace) {above : List Node}

theorem isUncountable_trim (cuts : Cuts) (f : Label → Label) (args : List Expr) :
    isUncountable (args.map (Expr.trim cuts f)) = isUncountable args := by
  have spread : (isSpread ∘ Expr.trim cuts f) = isSpread := by
    funext e
    cases e <;> rfl
  rw [isUncountable, List.isEmpty_map, List.any_map, spread, isUncountable]

theorem isIndirect_trim (cuts : Cuts) (f : Label → Label) (func : Expr) :
    isIndirect (ns.trim cuts f) (func.trim cuts f) = isIndirect ns func := by
  unfold isIndirect
  rw [Namespace.kindOf_trim]
  cases func with
  | «attribute» l value attr ctx => cases value <;> rfl
  | _ => rfl

theorem excess_trim (distinct : Function.Injective f) (quiet : ∀ n ∈ above, n.Quiet cuts) (func : Expr)
    (args : List Expr) :
    excess? (ns.trim cuts f) [] (above.map (Node.trim cuts f)) (func.trim cuts f) (args.map (Expr.trim cuts f)) =
      excess? ns [] above func args := by
  rw [excess?, isUncountable_trim, isIndirect_trim, Namespace.resolve_trim distinct ns quiet, List.length_map, excess?]

theorem excess_of_quiet (quiet : ∀ n ∈ above, n.Quiet cuts) (func : Expr) (args : List Expr) :
    excess? ns cuts above func args = excess? ns [] above func args := by
  rw [excess?, Namespace.resolve_of_quiet ns quiet, excess?]

-- A call that was cut has as many arguments as its callee takes.
theorem excess_of_cut {cuts : Cuts} {func : Expr} {args : List Expr} {n : Nat}
    (excess : excess? ns cuts above func args = .ok (some n)) :
    excess? ns cuts above func (args.take n) = .ok none := by
  rw [excess?] at excess ⊢
  split at excess
  · cases excess
  · cases resolved : ns.resolve cuts above func with
    | error e =>
      rw [resolved] at excess
      cases excess
    | ok callee =>
      rw [resolved] at excess
      have limited : (callee.bind limit?).filter (· < args.length) = some n := Except.ok.inj excess
      obtain ⟨limit, -⟩ := Option.filter_eq_some_iff.mp limited
      have few : (callee.bind limit?).filter (· < (args.take n).length) = none := by
        have short : ¬n < (args.take n).length := Nat.not_lt.mpr (List.length_take_le _ _)
        rw [limit, Option.filter_some, decide_eq_false short]
        rfl
      split
      · rfl
      · exact congrArg Except.ok few

end Trim

end ExtraArguments

namespace Node

def Located.excess? (ns : Namespace) (x : Located) : Except ParseError (Option Nat) :=
  match x.node with
  | .expr (.call _ func args _) => ExtraArguments.excess? ns [] x.ancestors func args
  | _ => .ok none

section Trim

variable {cuts : Cuts} {f : Label → Label} (ns : Namespace)

-- What is too much of a trimmed call is too much of what the cuts keep of its arguments.
theorem excess_located_trim (distinct : Function.Injective f) {x : Located} (quiet : ∀ a ∈ x.ancestors, a.Quiet cuts) :
    (x.trim cuts f).excess? (ns.trim cuts f) =
      match x.node with
      | .expr (.call l func args _) => ExtraArguments.excess? ns [] x.ancestors func (cuts.keep l args)
      | _ => .ok none := by
  obtain ⟨n, above⟩ := x
  cases n with
  | expr e =>
    cases e with
    | call l func args keywords =>
      have kept : cuts.keep l (trimExprs cuts f args) = (cuts.keep l args).map (Expr.trim cuts f) := by
        rw [trimExprs_eq, Cuts.keep_map]
      change ExtraArguments.excess? (ns.trim cuts f) [] (above.map (Node.trim cuts f)) (func.trim cuts f)
        (cuts.keep l (trimExprs cuts f args)) = _
      rw [kept, ExtraArguments.excess_trim ns distinct quiet]
    | _ => rfl
  | _ => rfl

end Trim

end Node

-- Every call takes the arguments that it is given, as far as is known.
def Module.isTight (m : Module) : Bool := (Node.module m).located.all fun x => x.excess? (.ofModule m) = .ok none

theorem Module.isTight_iff (m : Module) :
    m.isTight ↔ ∀ x ∈ (Node.module m).located, x.excess? (.ofModule m) = .ok none := by
  simp only [isTight, List.all_eq_true, decide_eq_true_eq]

theorem Module.isTight_relabel {f : Label → Label} (distinct : Function.Injective f) (m : Module) :
    (m.trim [] f).isTight = m.isTight := by
  have same : ∀ x : Node.Located,
      (x.trim [] f).excess? ((Namespace.ofModule m).trim [] f) = x.excess? (.ofModule m) := by
    intro x
    rw [Node.excess_located_trim _ distinct fun a _ => a.quiet_nil]
    simp only [Cuts.keep_nil]
    rfl
  rw [isTight, Namespace.ofModule_trim (Node.quiet_nil _)]
  change ((Node.module m).trim [] f).located.all _ = _
  rw [Node.located_relabel, List.all_map]
  simp only [Function.comp_def, same, isTight]

end Whittle
