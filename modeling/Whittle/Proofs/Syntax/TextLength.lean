import Whittle.Proofs.Syntax.Contents

namespace Whittle

open Node

namespace Parser

-- Reading leaves no more room than there was.
class Narrows {α : Type} (p : Parser α) : Prop where
  left : ∀ ts, Finds (p ts) fun r => roomOf r.2 ≤ roomOf ts

-- From tokens within a bound, values with a property are read, and what is left is within the bound.
def Keeps {α : Type} (bound : Nat) (p : Parser α) (P : α → Prop) : Prop :=
  ∀ ts, roomOf ts ≤ bound → Finds (p ts) fun r => P r.1 ∧ roomOf r.2 ≤ bound

theorem roomOf_le_cons (t : Token) (ts : List Token) : roomOf ts ≤ roomOf (t :: ts) := by
  rw [roomOf]
  exact Nat.le_add_left _ _

namespace Narrows

instance : Narrows peek := ⟨fun _ => .some (Nat.le_refl _)⟩

instance : Narrows peekSecond := ⟨fun _ => .some (Nat.le_refl _)⟩

instance (t : Token) : Narrows (expect t) where
  left
    | [] => .none
    | u :: rest => .ite (.some (roomOf_le_cons u rest)) .none

instance (s : Symbol) : Narrows (symbol s) := inferInstanceAs (Narrows (expect _))

instance (w : Word) : Narrows (word w) := inferInstanceAs (Narrows (expect _))

instance (t : Token) : Narrows (accept t) where
  left
    | [] => .some (Nat.le_refl _)
    | u :: rest => .ite (.some (roomOf_le_cons u rest)) (.some (Nat.le_refl _))

instance : Narrows name where
  left ts := by
    unfold name
    split
    · exact .some (roomOf_le_cons _ _)
    · exact .none

variable {α β : Type} {p : Parser α} {g : α → Parser β}

instance (a : α) : Narrows (pure a : Parser α) := ⟨fun _ => .some (Nat.le_refl _)⟩

instance : Narrows (failure : Parser α) := ⟨fun _ => .none⟩

theorem bind (first : Narrows p) (next : ∀ a, Narrows (g a)) : Narrows (p >>= g) where
  left ts := .bind (first.left ts) fun r less => fun r' found => Nat.le_trans ((next r.1).left r.2 r' found) less

theorem ite {c : Prop} [Decidable c] {q : Parser α} (yes : Narrows p) (no : Narrows q) :
    Narrows (if c then p else q) := by
  split
  · exact yes
  · exact no

instance : Narrows clausesAhead := by
  refine bind inferInstance fun t => ?_
  split <;> infer_instance

instance (annotated : Bool) : Narrows (paramsEnd annotated) := bind inferInstance fun _ => inferInstance

instance (annotated : Bool) : Narrows (paramComma annotated) :=
  bind inferInstance fun _ => ite inferInstance (bind inferInstance fun _ => ite inferInstance inferInstance)

instance : Narrows compareOp where
  left ts := by
    unfold compareOp
    split
    all_goals first
      | exact .none
      | exact .some (by simp only [roomOf]; omega)

instance (table : List (Symbol × BinaryOp)) : Narrows (operator table) where
  left ts := by
    unfold operator
    split
    · exact .map fun op _ => roomOf_le_cons _ _
    · exact .none

end Narrows

namespace Keeps

variable {α β : Type} {bound : Nat} {p : Parser α} {g : α → Parser β} {P : α → Prop} {Q : β → Prop}

theorem bind (first : Keeps bound p P) (next : ∀ a, P a → Keeps bound (g a) Q) : Keeps bound (p >>= g) Q :=
  fun ts within => Finds.bind (first ts within) fun r found => next r.1 found.1 r.2 found.2

theorem skip [narrows : Narrows p] (next : ∀ a, Keeps bound (g a) Q) : Keeps bound (p >>= g) Q :=
  bind (P := fun _ => True) (fun ts within r found => ⟨trivial, Nat.le_trans (narrows.left ts r found) within⟩)
    fun a _ => next a

theorem pure {a : α} (holds : P a) : Keeps bound (Pure.pure a) P := fun _ within => .some ⟨holds, within⟩

theorem failure : Keeps bound (Alternative.failure : Parser α) P := fun _ _ => .none

theorem ite {c : Prop} [Decidable c] {q : Parser α} (yes : Keeps bound p P) (no : Keeps bound q P) :
    Keeps bound (if c then p else q) P := by
  split
  · exact yes
  · exact no

theorem lift {x : Option α} (holds : Finds x P) : Keeps bound (StateT.lift x) P :=
  fun _ within => Finds.bind holds fun _ here => .some ⟨here, within⟩

theorem map {f : α → β} (each : Keeps bound p fun a => Q (f a)) : Keeps bound (f <$> p) Q :=
  fun ts within => Finds.bind (each ts within) fun _ found => .some found

theorem optionally (each : Keeps bound p P) : Keeps bound (Parser.optionally p) fun o => ∀ a ∈ o, P a := by
  intro ts within
  unfold Parser.optionally
  split
  · rename_i a rest read
    obtain ⟨here, left⟩ := each ts within _ read
    refine .some ⟨?_, left⟩
    rintro a ⟨⟩
    exact here
  · exact .some ⟨nofun, within⟩

theorem many (each : Keeps bound p P) (n : Nat) : Keeps bound (Parser.many p n) fun as => ∀ a ∈ as, P a := by
  induction n with
  | zero => exact pure (List.forall_mem_nil _)
  | succ n ih =>
    intro ts within
    unfold Parser.many
    split
    · rename_i a rest read
      obtain ⟨here, left⟩ := each ts within _ read
      refine .map fun r found => ?_
      obtain ⟨others, after⟩ := ih rest left _ found
      exact ⟨List.forall_mem_cons.mpr ⟨here, others⟩, after⟩
    · exact .some ⟨List.forall_mem_nil _, within⟩

theorem commaList (each : Keeps bound p P) (n : Nat) :
    Keeps bound (Parser.commaList p n) fun r => ∀ a ∈ r.1, P a := by
  induction n with
  | zero => exact failure
  | succ n ih =>
    refine bind each fun a here => skip fun more => ite (bind (optionally ih) fun found others => ?_) ?_
    · split
      · exact pure (List.forall_mem_cons.mpr ⟨here, others _ rfl⟩)
      · exact pure (List.forall_mem_singleton.mpr here)
    · exact pure (List.forall_mem_singleton.mpr here)

theorem chain {q : Parser β} [Narrows q] {combine : α → β → α → α} (operand : Keeps bound p P)
    (combined : ∀ l op r, P l → P r → P (combine l op r)) (n : Nat) {left : α} (first : P left) :
    Keeps bound (Parser.chain p q combine n left) P := by
  induction n generalizing left with
  | zero => exact pure first
  | succ n ih =>
    have link : Keeps bound (do let op ← q; let right ← p; Pure.pure (op, right)) fun l => P l.2 :=
      skip fun op => bind operand fun right here => pure here
    refine bind (optionally link) fun found last => ?_
    split
    · exact ih (combined _ _ _ first (last _ rfl))
    · exact pure first

end Keeps

-- The rules for expressions read short texts from tokens within a bound.
structure ReadsShort (rules : Rules) : Prop where
  expression : ∀ {bound}, Keeps bound (rules .expression) (Expr.Short bound)
  disjunction : ∀ {bound}, Keeps bound (rules .disjunction) (Expr.Short bound)
  inversion : ∀ {bound}, Keeps bound (rules .inversion) (Expr.Short bound)
  bitwiseOr : ∀ {bound}, Keeps bound (rules .bitwiseOr) (Expr.Short bound)
  factor : ∀ {bound}, Keeps bound (rules .factor) (Expr.Short bound)
  primary : ∀ {bound}, Keeps bound (rules .primary) (Expr.Short bound)

abbrev Argument.Short (bound : Nat) : Argument → Prop
  | .positional e | .spread e | .keyword _ e => e.Short bound

theorem text_left (ts : List Token) : Finds (text ts) fun r => (Token.text r.1).room + roomOf r.2 = roomOf ts := by
  unfold text
  split
  · exact .some rfl
  · exact .none

theorem many_text_left (m : Nat) (ts : List Token) :
    Finds (many text m ts) fun r => roomOf (r.1.map .text) + roomOf r.2 = roomOf ts := by
  induction m generalizing ts with
  | zero => exact .some (Nat.zero_add _)
  | succ m ih =>
    unfold many
    split
    · rename_i raw rest read
      have left := text_left ts _ read
      refine .map fun r found => ?_
      have others := ih rest r found
      simp only [List.map_cons, roomOf] at left ⊢
      omega
    · exact .some (Nat.zero_add _)

variable {n bound : Nat} {rules : Rules}

section Expressions

variable (good : ReadsShort rules)

include good

theorem namedExpression_short : Keeps bound (namedExpression rules) (Expr.Short bound) := by
  refine .skip fun t => .skip fun u => ?_
  split
  · refine .skip fun _ => .skip fun _ => .bind good.expression fun value here => .pure (Expr.short_of rfl ?_)
    simp [Expr.children, here]
  · exact good.expression

theorem orSpread_short {other : Parser Expr} (each : Keeps bound other (Expr.Short bound)) :
    Keeps bound (orSpread rules other) (Expr.Short bound) := by
  refine .skip fun found => .ite (.bind good.bitwiseOr fun value here => .pure ?_) each
  exact Expr.short_of rfl (by simpa [Expr.children] using here)

theorem starNamedExpression_short : Keeps bound (starNamedExpression rules) (Expr.Short bound) :=
  orSpread_short good (namedExpression_short good)

theorem starExpression_short : Keeps bound (starExpression rules) (Expr.Short bound) :=
  orSpread_short good good.expression

omit good in
theorem tupled_short {values : List Expr} (each : ∀ e ∈ values, e.Short bound) (trailing : Bool) :
    (tupled values trailing).Short bound := by
  unfold tupled
  split
  · exact each _ List.mem_cons_self
  · exact Expr.short_tuple each

theorem starExpressions_short : Keeps bound (starExpressions n rules) (Expr.Short bound) :=
  .bind (.commaList (starExpression_short good) n) fun _ each => .pure (tupled_short each _)

theorem yieldExpression_short : Keeps bound (yieldExpression n rules) (Expr.Short bound) := by
  refine .skip fun _ => .skip fun found => .ite ?_ ?_
  · refine .bind good.expression fun value here => .pure (Expr.short_of rfl ?_)
    simpa [Expr.children] using here
  · refine .bind (.optionally (starExpressions_short good)) fun value here => .pure (Expr.short_of rfl ?_)
    simpa [Expr.children] using here

theorem starTarget_short (m : Nat) : Keeps bound (starTarget rules m) (Expr.Short bound) := by
  induction m with
  | zero => exact .failure
  | succ m ih =>
    refine .skip fun found => .ite (.bind ih fun inner here => .lift fun e turned => ?_) ?_
    · exact Expr.short_of_turned _ turned (Expr.short_starred here)
    · exact .bind good.primary fun e here => .lift fun t turned => Expr.short_of_turned e turned here

theorem starTargets_short : Keeps bound (starTargets n rules) (Expr.Short bound) := by
  refine .bind (.commaList (starTarget_short good n) n) fun r each => .pure ?_
  split
  · rename_i same _
    rw [same] at each
    exact each _ List.mem_cons_self
  · exact Expr.short_tuple each

theorem comprehension_short : Keeps bound (comprehension n rules) fun c => (Node.comprehension c).Short bound := by
  refine .skip fun isAsync => .skip fun _ => .bind (starTargets_short good) fun target here => .skip fun _ => ?_
  refine .bind good.disjunction fun iter values => ?_
  refine .bind (.many (.skip fun _ => good.disjunction) n) fun ifs tests => .pure ?_
  refine .of_children rfl ?_
  simpa [Node.children, here, values] using tests

theorem comprehensions_short :
    Keeps bound (comprehensions n rules) fun cs => ∀ c ∈ cs, (Node.comprehension c).Short bound := by
  refine .bind (comprehension_short good) fun first here => ?_
  exact .bind (.many (comprehension_short good) n) fun rest others => .pure (List.forall_mem_cons.mpr ⟨here, others⟩)

omit good in
theorem after_short {p : Parser Expr} (each : Keeps bound p (Expr.Short bound)) (allowed : Bool) (s : Symbol) :
    Keeps bound (after allowed s p) fun o => ∀ e ∈ o, e.Short bound := by
  have none : Keeps bound (Pure.pure Option.none : Parser (Option Expr)) fun o => ∀ e ∈ o, e.Short bound :=
    .pure (by simp)
  refine .ite none (.skip fun found => .ite (.bind each fun e here => .pure ?_) none)
  rintro e ⟨⟩
  exact here

theorem param_short (annotated starAnnotated withDefault : Bool) :
    Keeps bound (param rules annotated starAnnotated withDefault) (Param.Short bound) := by
  have hinted : Keeps bound (if starAnnotated then starExpression rules else rules .expression) (Expr.Short bound) :=
    .ite (starExpression_short good) good.expression
  refine .skip fun id => .bind (after_short hinted _ _) fun hint here => ?_
  refine .bind (after_short good.expression _ _) fun default given => .pure ⟨.of_children rfl ?_, given⟩
  simpa [Node.children, Param.hint] using here

theorem kwargParam_short (annotated : Bool) : Keeps bound (kwargParam rules annotated) (Param.Short bound) := by
  refine .skip fun _ => .bind (param_short good _ _ _) fun p here => .skip fun _ => .skip fun _ => ?_
  exact .ite (.pure here) .failure

theorem positional_short (annotated : Bool) :
    Keeps bound (many (do
      let p ← param rules annotated false true
      paramComma annotated
      Pure.pure p) n) fun ps => ∀ p ∈ ps, p.Short bound :=
  .many (.bind (param_short good _ _ _) fun _ here => .skip fun _ => .pure here) n

theorem keywordParams_short (annotated : Bool) :
    Keeps bound (keywordParams n rules annotated) fun r => (∀ p ∈ r.1, p.Short bound) ∧ ∀ p ∈ r.2, p.Short bound := by
  refine .bind (positional_short good annotated) fun params each => .skip fun _ => .ite ?_ ?_
  · exact .pure ⟨each, by simp⟩
  · exact .bind (kwargParam_short good annotated) fun p here => .pure ⟨each, by simpa using here⟩

theorem starParams_short (annotated : Bool) :
    Keeps bound (starParams n rules annotated) fun r =>
      (∀ p ∈ r.1, p.Short bound) ∧ (∀ p ∈ r.2.1, p.Short bound) ∧ ∀ p ∈ r.2.2, p.Short bound := by
  refine .skip fun _ => .ite (.pure (by simp)) (.skip fun _ => .ite (.skip fun _ => .ite ?_ ?_) ?_)
  · refine .bind (keywordParams_short good annotated) fun r each => .ite .failure (.pure ?_)
    exact ⟨by simp, each⟩
  · refine .bind (param_short good _ _ _) fun vararg here => .skip fun _ => ?_
    refine .bind (keywordParams_short good annotated) fun r each => .pure ⟨?_, each⟩
    simpa using here
  · exact .bind (kwargParam_short good annotated) fun p here => .pure (by simpa using here)

omit good in
theorem Params.short_of {posOnly args kwOnly : List Param} {vararg kwarg : Option Param}
    (only : ∀ p ∈ posOnly, p.Short bound) (plain : ∀ p ∈ args, p.Short bound) (rest : ∀ p ∈ vararg, p.Short bound)
    (named : ∀ p ∈ kwOnly, p.Short bound) (others : ∀ p ∈ kwarg, p.Short bound) :
    (Node.params (.mk none posOnly args vararg kwOnly kwarg)).Short bound := by
  have default : ∀ p : Param, p.Short bound → ∀ e, p.default = some e → e.Short bound :=
    fun p here e given => here.2 e given
  simp only [Option.mem_def] at rest others
  refine .of_children rfl fun c child => ?_
  simp only [Node.children, Params.children, Params.posOnly, Params.args, Params.vararg, Params.kwOnly, Params.kwarg,
    Params.positional, List.mem_append, List.mem_map, mem_ofExprs, List.mem_filterMap, Option.mem_toList] at child
  grind [Param.Short]

theorem params_short (annotated : Bool) :
    Keeps bound (params n rules annotated) fun p => (Node.params p).Short bound := by
  have positional := @positional_short n bound rules good annotated
  refine .bind positional fun before each => ?_
  refine .bind (P := fun r => (∀ p ∈ r.1, p.Short bound) ∧ ∀ p ∈ r.2, p.Short bound) (.ite (.pure (by simp)) ?_) ?_
  · refine .skip fun _ => .ite (.skip fun _ => .bind positional fun args plain => .pure ⟨each, plain⟩) (.pure ?_)
    exact ⟨by simp, each⟩
  · rintro ⟨posOnly, args⟩ ⟨only, plain⟩
    refine .ite (.skip fun _ => ?_) ?_
    all_goals
      refine .bind (starParams_short good annotated) fun _ each => .pure ?_
      exact Params.short_of only plain each.1 each.2.1 each.2.2

omit good in
theorem sortArguments_short {arguments : List Argument} {named spreads : Bool} {args : List Expr}
    {keywords : List Keyword} (each : ∀ a ∈ arguments, a.Short bound)
    (sorted : sortArguments arguments named spreads = some (args, keywords)) :
    (∀ e ∈ args, e.Short bound) ∧ ∀ k ∈ keywords, (Node.keyword k).Short bound := by
  induction arguments generalizing named spreads args keywords with
  | nil =>
    cases sorted
    simp
  | cons a rest ih =>
    rw [List.forall_mem_cons] at each
    cases a with
    | positional e =>
      rw [sortArguments] at sorted
      split at sorted
      · cases sorted
      · obtain ⟨⟨as, ks⟩, found, same⟩ := Option.map_eq_some_iff.mp sorted
        cases same
        obtain ⟨plain, others⟩ := ih each.2 found
        exact ⟨List.forall_mem_cons.mpr ⟨each.1, plain⟩, others⟩
    | spread e =>
      rw [sortArguments] at sorted
      split at sorted
      · cases sorted
      · obtain ⟨⟨as, ks⟩, found, same⟩ := Option.map_eq_some_iff.mp sorted
        cases same
        obtain ⟨plain, others⟩ := ih each.2 found
        refine ⟨List.forall_mem_cons.mpr ⟨Expr.short_of rfl ?_, plain⟩, others⟩
        simpa [Expr.children] using each.1
    | keyword id e =>
      obtain ⟨⟨as, ks⟩, found, same⟩ := Option.map_eq_some_iff.mp sorted
      cases same
      obtain ⟨plain, others⟩ := ih each.2 found
      refine ⟨plain, List.forall_mem_cons.mpr ⟨.of_children rfl ?_, others⟩⟩
      simpa [Node.children, Keyword.value] using each.1

theorem argument_short : Keeps bound (argument rules) (Argument.Short bound) := by
  refine .skip fun _ => .ite (.bind good.expression fun e here => .pure here) (.skip fun _ => .ite ?_ ?_)
  · exact .bind good.expression fun e here => .pure here
  · refine .skip fun t => .skip fun u => ?_
    split
    · exact .skip fun _ => .skip fun _ => .bind good.expression fun e here => .pure here
    · exact .bind (namedExpression_short good) fun e here => .pure here

theorem callTail_short {func : Expr} (callee : func.Short bound) :
    Keeps bound (callTail n rules func) (Expr.Short bound) := by
  refine .skip fun _ => .ite (.pure (Expr.short_of rfl (by simpa [Expr.children] using callee))) ?_
  refine .bind (argument_short good) fun first here => .skip fun ahead => ?_
  split
  · refine .bind (comprehensions_short good) fun generators clauses => .skip fun _ => .pure ?_
    have lone := Expr.short_of (e := .comp none .generator _ generators) rfl (by
      simpa [Expr.children] using And.intro here clauses)
    exact Expr.short_of rfl (by simp [Expr.children, callee, lone])
  · refine .bind (P := fun rest => ∀ a ∈ rest, a.Short bound) ?_ fun rest others => .skip fun _ => ?_
    · refine .skip fun _ => .ite (.skip fun _ => .ite (.pure (by simp)) ?_) (.pure (by simp))
      exact .bind (.commaList (argument_short good) n) fun r each => .pure each
    · refine .bind (.lift fun r sorted => sortArguments_short (List.forall_mem_cons.mpr ⟨here, others⟩) sorted) ?_
      rintro ⟨args, keywords⟩ ⟨plain, named⟩
      refine .pure (Expr.short_of rfl ?_)
      simpa [Expr.children, callee, or_imp, forall_and] using And.intro plain named

theorem sliceBound_short : Keeps bound (sliceBound rules) fun o => ∀ e ∈ o, e.Short bound := by
  refine .skip fun next => ?_
  split
  · exact .pure (by simp)
  · exact .pure (by simp)
  · exact .pure (by simp)
  · exact .map fun ts e rest read => by simpa using good.expression ts e rest read

theorem sliceTail_short {lower : Option Expr} (given : ∀ e ∈ lower, e.Short bound) :
    Keeps bound (sliceTail rules lower) (Expr.Short bound) := by
  refine .skip fun _ => .bind (sliceBound_short good) fun upper above => ?_
  refine .bind (P := fun o => ∀ e ∈ o, e.Short bound) ?_ fun step beyond => .pure (Expr.short_of rfl ?_)
  · exact .skip fun _ => .ite (sliceBound_short good) (.pure (by simp))
  · simpa [Expr.children, or_imp, forall_and] using And.intro given (And.intro above beyond)

theorem sliceItem_short : Keeps bound (sliceItem rules) (Expr.Short bound) := by
  refine .skip fun next => ?_
  split
  · exact sliceTail_short good (by simp)
  · refine .skip fun _ => .bind good.expression fun e here => .pure (Expr.short_of rfl ?_)
    simpa [Expr.children] using here
  · refine .skip fun _ => .bind (namedExpression_short good) fun e here => .skip fun _ => ?_
    have given : ∀ lower ∈ some e, lower.Short bound := by simpa using here
    have tail := sliceTail_short good given
    split
    · exact .ite .failure tail
    · exact tail
    · exact .pure here

theorem slices_short : Keeps bound (slices n rules) (Expr.Short bound) := by
  refine .bind (.commaList (sliceItem_short good) n) fun r each => .pure ?_
  split
  · rename_i same _
    rw [same] at each
    split
    · exact Expr.short_tuple each
    · exact each _ List.mem_cons_self
  · exact Expr.short_tuple each

omit good in
theorem comp_short {kind : Collection} {elt : Expr} {generators : List Comprehension} (here : elt.Short bound)
    (clauses : ∀ c ∈ generators, (Node.comprehension c).Short bound) :
    (Expr.comp none kind elt generators).Short bound :=
  Expr.short_of rfl (by simpa [Expr.children] using And.intro here clauses)

theorem parenthesised_short : Keeps bound (parenthesised n rules) (Expr.Short bound) := by
  refine .skip fun _ => .ite (.pure (Expr.short_tuple (List.forall_mem_nil _))) (.skip fun _ => .ite ?_ ?_)
  · exact .bind (yieldExpression_short good) fun e here => .skip fun _ => .pure here
  · refine .bind (starNamedExpression_short good) fun first here => ?_
    refine .skip fun _ => .ite ?_ (.skip fun _ => .ite ?_ ?_)
    · refine .ite .failure (.bind (comprehensions_short good) fun generators clauses => .skip fun _ => .pure ?_)
      exact comp_short here clauses
    · refine .skip fun _ => .ite (.pure (Expr.short_tuple (List.forall_mem_singleton.mpr here))) ?_
      refine .bind (.commaList (starNamedExpression_short good) n) fun rest others => .skip fun _ => .pure ?_
      exact Expr.short_tuple (List.forall_mem_cons.mpr ⟨here, others⟩)
    · exact .ite .failure (.skip fun _ => .pure here)

theorem bracketed_short : Keeps bound (bracketed n rules) (Expr.Short bound) := by
  refine .skip fun _ => .ite (.pure (Expr.short_list (List.forall_mem_nil _))) ?_
  refine .bind (starNamedExpression_short good) fun first here => .skip fun _ => .ite ?_ (.skip fun _ => .ite ?_ ?_)
  · refine .ite .failure (.bind (comprehensions_short good) fun generators clauses => .skip fun _ => .pure ?_)
    exact comp_short here clauses
  · refine .skip fun _ => .ite (.pure (Expr.short_list (List.forall_mem_singleton.mpr here))) ?_
    refine .bind (.commaList (starNamedExpression_short good) n) fun rest others => .skip fun _ => .pure ?_
    exact Expr.short_list (List.forall_mem_cons.mpr ⟨here, others⟩)
  · exact .skip fun _ => .pure (Expr.short_list (List.forall_mem_singleton.mpr here))

theorem dictItem_short : Keeps bound (dictItem rules) (DictItem.Short bound) := by
  refine .skip fun _ => .ite (.bind good.bitwiseOr fun value here => .pure ⟨nofun, here⟩) ?_
  refine .bind good.expression fun key known => .skip fun _ => .bind good.expression fun value here => .pure ?_
  exact ⟨by rintro e ⟨⟩; exact known, here⟩

omit good in
theorem dict_short {items : List DictItem} (each : ∀ item ∈ items, item.Short bound) :
    (Expr.dict none items).Short bound := by
  refine Expr.short_of rfl fun c child => ?_
  simp only [Expr.children, List.mem_append, mem_ofExprs, List.mem_filterMap, List.mem_map] at child
  obtain ⟨e, ⟨item, member, key⟩, rfl⟩ | ⟨e, ⟨item, member, rfl⟩, rfl⟩ := child
  · exact (each item member).1 e key
  · exact (each item member).2

theorem dictTail_short {first : DictItem} (here : first.Short bound) :
    Keeps bound (dictTail n rules first) (Expr.Short bound) := by
  refine .bind (P := fun rest => ∀ item ∈ rest, item.Short bound) ?_ fun rest others => .skip fun _ => .pure ?_
  · refine .skip fun _ => .ite (.skip fun _ => .ite (.pure (by simp)) ?_) (.pure (by simp))
    exact .bind (.commaList (dictItem_short good) n) fun r each => .pure each
  · exact dict_short (List.forall_mem_cons.mpr ⟨here, others⟩)

theorem braced_short : Keeps bound (braced n rules) (Expr.Short bound) := by
  refine .skip fun _ => .ite (.pure (dict_short (List.forall_mem_nil _))) ?_
  refine .skip fun _ => .ite ?_ (.skip fun _ => ?_)
  · exact .bind (dictItem_short good) fun first here => dictTail_short good here
  · refine .bind (starNamedExpression_short good) fun first here => ?_
    refine .skip fun _ => .ite ?_ (.skip fun _ => .ite ?_ ?_)
    · refine .ite .failure (.skip fun _ => .bind good.expression fun value given => .skip fun _ => .ite ?_ ?_)
      · refine .bind (comprehensions_short good) fun generators clauses => .skip fun _ => .pure ?_
        refine Expr.short_of rfl ?_
        simpa [Expr.children] using And.intro here (And.intro given clauses)
      · have item : (DictItem.pair first value).Short bound := by
          refine ⟨?_, given⟩
          rintro e ⟨⟩
          exact here
        exact dictTail_short good item
    · refine .ite .failure (.bind (comprehensions_short good) fun generators clauses => .skip fun _ => .pure ?_)
      exact comp_short here clauses
    · refine .bind (P := fun rest => ∀ e ∈ rest, e.Short bound) ?_ fun rest others => .skip fun _ => .pure ?_
      · refine .skip fun _ => .ite (.skip fun _ => .ite (.pure (by simp)) ?_) (.pure (by simp))
        exact .bind (.commaList (starNamedExpression_short good) n) fun r each => .pure each
      · refine Expr.short_of rfl ?_
        simpa [Expr.children, or_imp, forall_and] using And.intro here others

theorem embeddedExpression_short (cs : List Char) :
    Finds (embeddedExpression n rules cs) (Expr.Short (cs.length + 3)) := by
  refine .bind (Lexer.tokens?_short _) fun tokens within => ?_
  refine .bind (starExpressions_short good tokens (by simpa using within)) fun r found => .some found.1

theorem texts_short : Keeps bound (texts n rules) (Expr.Short bound) := by
  intro ts within
  refine .bind (text_left ts) fun ⟨first, between⟩ here => ?_
  refine .bind (many_text_left n between) fun ⟨rest, last⟩ others => ?_
  have together : roomOf ((first :: rest).map .text) + roomOf last ≤ bound := by
    dsimp only at here others
    rw [List.map_cons, roomOf]
    omega
  have joined := FormatText.join_short (embeddedExpression_short good (n := n))
    (Nat.le_trans (Nat.le_add_right _ _) together)
  exact Keeps.lift joined last (Nat.le_trans (Nat.le_add_left _ _) together)

theorem atom_short : Keeps bound (atom n rules) (Expr.Short bound) := by
  intro ts within
  unfold atom
  split
  · rename_i id rest
    exact .some ⟨Expr.short_name _ _ _, Nat.le_trans (roomOf_le_cons _ _) within⟩
  · rename_i value rest
    rw [roomOf] at within
    dsimp only [Token.room] at within
    exact .some ⟨Expr.short_constant (by omega), by dsimp only; omega⟩
  · exact texts_short good _ within
  · exact .some ⟨Expr.short_constant (Nat.zero_le _), Nat.le_trans (roomOf_le_cons _ _) within⟩
  · exact .some ⟨Expr.short_constant (Nat.zero_le _), Nat.le_trans (roomOf_le_cons _ _) within⟩
  · exact .some ⟨Expr.short_constant (Nat.zero_le _), Nat.le_trans (roomOf_le_cons _ _) within⟩
  · exact .some ⟨Expr.short_constant (Nat.zero_le _), Nat.le_trans (roomOf_le_cons _ _) within⟩
  · exact parenthesised_short good _ (Nat.le_trans (roomOf_le_cons _ _) within)
  · exact bracketed_short good _ (Nat.le_trans (roomOf_le_cons _ _) within)
  · exact braced_short good _ (Nat.le_trans (roomOf_le_cons _ _) within)
  · exact .none

theorem trailers_short (m : Nat) {e : Expr} (here : e.Short bound) :
    Keeps bound (trailers n rules m e) (Expr.Short bound) := by
  induction m generalizing e with
  | zero => exact .pure here
  | succ m ih =>
    refine .skip fun next => ?_
    split
    · refine .skip fun _ => .skip fun attr => ih (Expr.short_of rfl ?_)
      simpa [Expr.children] using here
    · exact .skip fun _ => .bind (callTail_short good here) fun e made => ih made
    · refine .skip fun _ => .bind (slices_short good) fun index key => .skip fun _ => ?_
      refine ih (Expr.short_of rfl ?_)
      simpa [Expr.children] using And.intro here key
    · exact .pure here

theorem primary_short : Keeps bound (primary n rules) (Expr.Short bound) :=
  .bind (atom_short good) fun _ here => trailers_short good n here

omit good in
theorem binOp_short (l : Expr) (op : BinaryOp) (r : Expr) (left : l.Short bound) (right : r.Short bound) :
    (Expr.binOp none l op r).Short bound :=
  Expr.short_of rfl (by simp [Expr.children, left, right])

omit good in
theorem unaryOp_short (op : UnaryOp) {e : Expr} (here : e.Short bound) : (Expr.unaryOp none op e).Short bound :=
  Expr.short_of rfl (by simp [Expr.children, here])

theorem power_short : Keeps bound (power n rules) (Expr.Short bound) := by
  refine .bind (P := Expr.Short bound) (.skip fun _ => .ite ?_ (primary_short good)) fun base here => ?_
  · refine .bind good.primary fun e here => .pure (Expr.short_of rfl ?_)
    simpa [Expr.children] using here
  · refine .skip fun _ => .ite (.bind good.factor fun e there => .pure ?_) (.pure here)
    exact binOp_short _ _ _ here there

theorem factor_short : Keeps bound (factor n rules) (Expr.Short bound) := by
  refine .skip fun next => ?_
  split
  · exact .skip fun _ => .bind good.factor fun e here => .pure (unaryOp_short _ here)
  · exact .skip fun _ => .bind good.factor fun e here => .pure (unaryOp_short _ here)
  · exact .skip fun _ => .bind good.factor fun e here => .pure (unaryOp_short _ here)
  · exact power_short good

omit good in
theorem leftAssociative_short {table : List (Symbol × BinaryOp)} {operand : Parser Expr}
    (each : Keeps bound operand (Expr.Short bound)) :
    Keeps bound (leftAssociative n table operand) (Expr.Short bound) :=
  .bind each fun _ here => .chain each binOp_short n here

-- The six levels of binary operators.
theorem bitwiseOr_short : Keeps bound (bitwiseOr n rules) (Expr.Short bound) :=
  leftAssociative_short <| leftAssociative_short <| leftAssociative_short <| leftAssociative_short <|
    leftAssociative_short <| leftAssociative_short (factor_short good)

theorem comparison_short : Keeps bound (comparison n rules) (Expr.Short bound) := by
  have link : Keeps bound (do let op ← compareOp; let right ← bitwiseOr n rules; Pure.pure (op, right))
      fun l => l.2.Short bound :=
    .skip fun _ => .bind (bitwiseOr_short good) fun _ here => .pure here
  refine .bind (bitwiseOr_short good) fun left here => .bind (.many link n) fun links others => .pure ?_
  split
  · exact here
  · refine Expr.short_of rfl fun c child => ?_
    simp only [Expr.children, List.cons_append, List.mem_cons, List.mem_append, List.mem_map, mem_ofExprs] at child
    obtain rfl | ⟨op, -, rfl⟩ | ⟨e, ⟨link, member, rfl⟩, rfl⟩ := child
    · exact here
    · exact short_mark _
    · exact others link member

theorem inversion_short : Keeps bound (inversion n rules) (Expr.Short bound) := by
  refine .skip fun _ => .ite (.bind good.inversion fun e here => .pure ?_) (comparison_short good)
  exact unaryOp_short _ here

omit good in
theorem logical_short {w : Word} {op : BoolOp} {operand : Parser Expr} (each : Keeps bound operand (Expr.Short bound)) :
    Keeps bound (logical n w op operand) (Expr.Short bound) := by
  refine .bind each fun first here => .bind (.many (.skip fun _ => each) n) fun rest others => .pure ?_
  split
  · exact here
  · refine Expr.short_of rfl ?_
    simpa [Expr.children, or_imp, forall_and] using And.intro here others

theorem disjunction_short : Keeps bound (disjunction n rules) (Expr.Short bound) :=
  logical_short (logical_short (inversion_short good))

theorem expression_short : Keeps bound (expression n rules) (Expr.Short bound) := by
  refine .skip fun _ => .ite ?_ (.bind (disjunction_short good) fun body here => ?_)
  · refine .bind (params_short good false) fun ps listed => .skip fun _ => .bind good.expression fun e here => ?_
    exact .pure (Expr.short_of rfl (by simp [Expr.children, listed, here]))
  · refine .bind (.optionally (P := Expr.Short bound) ?_) fun choice chosen => .pure ?_
    · refine .skip fun _ => .bind (disjunction_short good) fun test tested => .skip fun _ => ?_
      refine .bind good.expression fun orelse other => .pure (Expr.short_of rfl ?_)
      simp [Expr.children, tested, here, other]
    · cases choice with
      | none => exact here
      | some e => exact chosen e rfl

end Expressions

-- The induction is on the fuel: the rules read short texts if those that they refer to do.
theorem ruleWithin_short (n : Nat) : ReadsShort (ruleWithin n) := by
  induction n with
  | zero => exact ⟨.failure, .failure, .failure, .failure, .failure, .failure⟩
  | succ n ih =>
    exact ⟨expression_short ih, disjunction_short ih, inversion_short ih, bitwiseOr_short ih, factor_short ih,
      primary_short ih⟩

theorem expressions_short (good : ReadsShort rules) : Keeps bound (expressions n rules) (Expr.Short bound) :=
  .bind (.commaList good.expression n) fun _ each => .pure (tupled_short each _)

end Parser

theorem Text.length_universalNewlines (cs : List Char) : (Text.universalNewlines cs).length ≤ cs.length := by
  fun_induction Text.universalNewlines cs <;> grind

theorem Expr.length_text_lt {source : List Char} {e : Expr} (parsed : Expr.parse source = .ok e) :
    ∀ points ∈ e.texts, points.length < source.length := by
  unfold parse at parsed
  split at parsed
  · cases parsed
  · split at parsed
    · rename_i read
      cases parsed
      obtain ⟨tokens, scanned, read⟩ := Option.bind_eq_some_iff.mp read
      have room := Nat.le_trans (Lexer.tokens?_short _ _ scanned) (Text.length_universalNewlines source)
      unfold Parser.singleExpression? at read
      split at read
      · rename_i found
        have short := (Parser.expressions_short (Parser.ruleWithin_short _) _ room _ found).1
        split at read
        · cases read
          intro points member
          have fits := short points member
          omega
        · cases read
      · cases read
    · cases parsed

end Whittle
