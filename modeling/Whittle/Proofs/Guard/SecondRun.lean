import Whittle.Proofs.Guard.Specialisation

namespace Whittle

section Settled

variable {v : Verdicts}

theorem isSettledBlock_append (front back : Block) :
    isSettledBlock v (front ++ back) = (isSettledBlock v front && isSettledBlock v back) := by
  induction front with
  | nil => rfl
  | cons s rest ih => simp [isSettledBlock, ih, Bool.and_assoc]

mutual

theorem Stmt.isSettled_prune (s : Stmt) : isSettledBlock v (s.prune v) = !s.exposes v v := by
  match s with
  | .simple .. => rfl
  | .ifElse l test body orelse =>
    cases decided : v.decide test orelse with
    | none =>
      have lost : (v.decide test (pruneBlock v orelse)).isNone =
          !(!orelse.isEmpty && (pruneBlock v orelse).isEmpty && (v test).isSome) := by
        cases orelse with
        | nil =>
          change v test = none at decided
          simp [pruneBlock, Verdicts.decide, decided]
        | cons s rest => cases pruneBlock v (s :: rest) <;> simp [Verdicts.decide]
      simp [Stmt.prune, Stmt.exposes, decided, isSettledBlock, Stmt.isSettled, lost, isSettled_pruneBlock body,
        isSettled_pruneBlock orelse]
    | some isNew =>
      cases isNew with
      | false => simp [Stmt.prune, Stmt.exposes, decided, isSettledBlock]
      | true => simpa [Stmt.prune, Stmt.exposes, decided] using isSettled_pruneBlock body
  | .func l head body | .klass l head body | .withBlock l _ _ body =>
    simp [Stmt.prune, Stmt.exposes, isSettledBlock, Stmt.isSettled, isSettled_pruneBlock body]
  | .forLoop l _ _ _ body orelse | .whileLoop l _ body orelse =>
    simp [Stmt.prune, Stmt.exposes, isSettledBlock, Stmt.isSettled, isSettled_pruneBlock body,
      isSettled_pruneBlock orelse]
  | .matchOn l subject cases =>
    simp [Stmt.prune, Stmt.exposes, isSettledBlock, Stmt.isSettled, isSettled_pruneCases cases]
  | .tryBlock l isStar body handlers orelse finalbody =>
    simp [Stmt.prune, Stmt.exposes, isSettledBlock, Stmt.isSettled, isSettled_pruneBlock body,
      isSettled_pruneHandlers handlers, isSettled_pruneBlock orelse, isSettled_pruneBlock finalbody]

theorem isSettled_pruneBlock (b : List Stmt) : isSettledBlock v (pruneBlock v b) = !exposesBlock v v b := by
  match b with
  | [] => rfl
  | s :: rest =>
    simp [pruneBlock, exposesBlock, isSettledBlock_append, s.isSettled_prune, isSettled_pruneBlock rest]

theorem isSettled_pruneHandlers (hs : List Handler) :
    isSettledHandlers v (pruneHandlers v hs) = !exposesHandlers v v hs := by
  match hs with
  | [] => rfl
  | .mk l type name body :: rest =>
    simp [pruneHandlers, exposesHandlers, isSettledHandlers, isSettled_pruneBlock body, isSettled_pruneHandlers rest]

theorem isSettled_pruneCases (cs : List MatchCase) : isSettledCases v (pruneCases v cs) = !exposesCases v v cs := by
  match cs with
  | [] => rfl
  | .mk l p guard body :: rest =>
    simp [pruneCases, exposesCases, isSettledCases, isSettled_pruneBlock body, isSettled_pruneCases rest]

end

theorem isSettled_required (b : Block) : isSettledBlock v (required b) = isSettledBlock v b := by
  cases b <;> rfl

mutual

theorem Stmt.isSettled_fill (s : Stmt) : s.fill.isSettled v = s.isSettled v := by
  match s with
  | .simple .. => rfl
  | .ifElse l test body orelse =>
    simp only [Stmt.fill, Stmt.isSettled, Verdicts.decide, isEmpty_fillBlock, isSettled_required,
      isSettled_fillBlock body, isSettled_fillBlock orelse]
  | .func l head body | .klass l head body | .withBlock l _ _ body =>
    simp only [Stmt.fill, Stmt.isSettled, isSettled_required, isSettled_fillBlock body]
  | .forLoop l _ _ _ body orelse | .whileLoop l _ body orelse =>
    simp only [Stmt.fill, Stmt.isSettled, isSettled_required, isSettled_fillBlock body, isSettled_fillBlock orelse]
  | .matchOn l subject cases => exact isSettled_fillCases cases
  | .tryBlock l isStar body handlers orelse finalbody =>
    have final : isSettledBlock v (if handlers.isEmpty then required (fillBlock finalbody) else fillBlock finalbody) =
        isSettledBlock v finalbody := by
      split
      · rw [isSettled_required, isSettled_fillBlock finalbody]
      · exact isSettled_fillBlock finalbody
    simp only [Stmt.fill, Stmt.isSettled, isSettled_required, isSettled_fillBlock body, isSettled_fillHandlers handlers,
      isSettled_fillBlock orelse, final]

theorem isSettled_fillBlock (b : List Stmt) : isSettledBlock v (fillBlock b) = isSettledBlock v b := by
  match b with
  | [] => rfl
  | s :: rest => rw [fillBlock, isSettledBlock, s.isSettled_fill, isSettled_fillBlock rest, isSettledBlock]

theorem isSettled_fillHandlers (hs : List Handler) :
    isSettledHandlers v (fillHandlers hs) = isSettledHandlers v hs := by
  match hs with
  | [] => rfl
  | .mk l type name body :: rest =>
    simp only [fillHandlers, isSettledHandlers, isSettled_required, isSettled_fillBlock body,
      isSettled_fillHandlers rest]

theorem isSettled_fillCases (cs : List MatchCase) : isSettledCases v (fillCases cs) = isSettledCases v cs := by
  match cs with
  | [] => rfl
  | .mk l p guard body :: rest =>
    simp only [fillCases, isSettledCases, isSettled_required, isSettled_fillBlock body, isSettled_fillCases rest]

end

end Settled

theorem Verdicts.ofTarget_number (constant : String) (target : Int) (e : Expr) (k : Nat) :
    ofTarget constant target (e.number k).1 = ofTarget constant target e := by
  rw [ofTarget, ofTarget, Comparison.of_number]

section Number

variable {constant : String} {target : Int}

mutual

theorem Stmt.isSettled_number (s : Stmt) (k : Nat) :
    (s.number k).1.isSettled (.ofTarget constant target) = s.isSettled (.ofTarget constant target) := by
  match s with
  | .simple .. => rfl
  | .ifElse l test body orelse =>
    simp only [Stmt.number, bind_at, pure_at, Stmt.isSettled, Verdicts.decide, Verdicts.ofTarget_number,
      isEmpty_numberBlock, isSettled_numberBlock body, isSettled_numberBlock orelse]
  | .func l head body | .klass l head body | .withBlock l _ _ body =>
    simp only [Stmt.number, bind_at, pure_at, Stmt.isSettled, isSettled_numberBlock body]
  | .forLoop l _ _ _ body orelse | .whileLoop l _ body orelse =>
    simp only [Stmt.number, bind_at, pure_at, Stmt.isSettled, isSettled_numberBlock body, isSettled_numberBlock orelse]
  | .matchOn l subject cases =>
    simp only [Stmt.number, bind_at, pure_at, Stmt.isSettled, isSettled_numberCases cases]
  | .tryBlock l isStar body handlers orelse finalbody =>
    simp only [Stmt.number, bind_at, pure_at, Stmt.isSettled, isSettled_numberBlock body,
      isSettled_numberHandlers handlers, isSettled_numberBlock orelse, isSettled_numberBlock finalbody]

theorem isSettled_numberBlock (b : List Stmt) (k : Nat) :
    isSettledBlock (.ofTarget constant target) (numberBlock b k).1 =
      isSettledBlock (.ofTarget constant target) b := by
  match b with
  | [] => rfl
  | s :: rest =>
    simp only [numberBlock, bind_at, pure_at, isSettledBlock, s.isSettled_number, isSettled_numberBlock rest]

theorem isSettled_numberHandlers (hs : List Handler) (k : Nat) :
    isSettledHandlers (.ofTarget constant target) (numberHandlers hs k).1 =
      isSettledHandlers (.ofTarget constant target) hs := by
  match hs with
  | [] => rfl
  | .mk l type name body :: rest =>
    simp only [numberHandlers, bind_at, pure_at, isSettledHandlers, isSettled_numberBlock body,
      isSettled_numberHandlers rest]

theorem isSettled_numberCases (cs : List MatchCase) (k : Nat) :
    isSettledCases (.ofTarget constant target) (numberCases cs k).1 =
      isSettledCases (.ofTarget constant target) cs := by
  match cs with
  | [] => rfl
  | .mk l p guard body :: rest =>
    simp only [numberCases, bind_at, pure_at, isSettledCases, isSettled_numberBlock body, isSettled_numberCases rest]

end

end Number

theorem Module.isSettled_rewritten (constant : String) (target : Int) (m : Module) :
    (m.prune (.ofTarget constant target)).fill.number.isSettled (.ofTarget constant target) =
      !m.exposes (.ofTarget constant target) (.ofTarget constant target) := by
  rw [isSettled, number, isSettled_numberBlock, fill, isSettled_fillBlock, prune, isSettled_pruneBlock, exposes]

-- Where there was nothing to prune, nothing is exposed.
theorem Module.exposes_of_settled {v : Verdicts} {m : Module} (settled : m.isSettled v) : m.exposes v v = false := by
  have still := isSettled_pruneBlock (v := v) m.body
  have same : pruneBlock v m.body = m.body := congrArg Module.body (prune_of_settled settled)
  rw [same] at still
  rw [exposes, ← Bool.not_eq_true', ← still]
  exact settled

namespace Engine

section

variable (constant : String) (target : Int) (known : Option Value) (changes : Nat) (ambient : Ambient)

theorem idle_onGuards_iff (m : Module) :
    applied ((onGuards constant target known changes ambient).inspect m.number).rules = [] ↔
      m.number.isSettled (.ofTarget constant target) := by
  rw [applied_onGuards]
  split <;> simp_all

theorem idle_on_rewritten_iff (m : Module) :
    applied ((onGuards constant target known changes ambient).inspect
      (m.prune (.ofTarget constant target)).fill.number).rules = [] ↔
      m.exposes (.ofTarget constant target) (.ofTarget constant target) = false := by
  rw [idle_onGuards_iff, Module.isSettled_rewritten, Bool.not_eq_true']

-- The engine that comes out of a run differs in its count of changes only.
theorem run_keeps_onGuards (path : String) {source : String} {m : Module}
    (parsed : Module.parse source.toList = .ok m) :
    ∃ counted, ((onGuards constant target known changes ambient).run path source).1 =
      onGuards constant target known counted ambient := by
  rw [run_engine parsed, inspect_onGuards]
  exact ⟨_, rfl⟩

end

-- A second run finds what the first exposed, and nothing else.
theorem second_run_idle_iff (constant : String) (target : Int) (known : Option Value) (changes : Nat)
    (ambient : Ambient) :
    let e := onGuards constant target known changes ambient
    let v := Verdicts.ofTarget constant target
    (∀ m : Module, ∃ rewritten, finish m.number (e.inspect m.number).draft = .ok rewritten ∧
      (applied (e.inspect rewritten.number).rules = [] ↔ m.number.exposes v v = false)) ∧
    ∀ (path source : String) (m : Module) (change : Change), Module.parse source.toList = .ok m →
      (e.run path source).2 = .ok change →
      (m.number.prune v).fill.ReadsBack →
      (((e.run path source).1.run path change.after).2 =
          .ok { path := path, before := change.after, after := change.after } ↔
        m.number.exposes v v = false) := by
  intro e v
  constructor
  · intro m
    exact ⟨_, finish_onGuards constant target known changes ambient m,
      idle_on_rewritten_iff constant target known changes ambient m.number⟩
  · intro path source m change parsed first reads
    obtain ⟨counted, again⟩ := run_keeps_onGuards constant target known changes ambient path parsed
    have calm : ∀ n : Module, ((onGuards constant target known counted ambient).inspect n.number).failure = none := by
      intro n
      rw [inspect_onGuards]
    rw [run_onGuards constant target known changes ambient path parsed] at first
    rw [again]
    split at first
    · rename_i settled
      cases first
      rw [run_idle_iff path ⟨m, parsed, rfl⟩, and_iff_right (calm m), idle_onGuards_iff,
        iff_true_right (Module.exposes_of_settled settled)]
      exact settled
    · split at first
      · rename_i after written
        cases first
        rw [run_idle_iff path (reads after written), and_iff_right (calm _)]
        exact idle_on_rewritten_iff constant target known counted ambient m.number
      · cases first

-- `if V < 9` with the statement `x` and this alternative.
def branching (orelse : Block) : Module :=
  ⟨[.ifElse none (.compare none (.name none "V" .load) [.lt] [.constant none (.int 9)])
    [.simple none (.expr (.name none "x" .load))] orelse]⟩

def exposing : Module :=
  branching [.ifElse none (.compare none (.name none "V" .load) [.lt] [.constant none (.int 8)])
    [.simple none (.expr (.name none "y" .load))] []]

theorem parse_exposing : Module.parse "if V<9:x\nelif V<8:y\n".toList = .ok exposing :=
  Module.parse_of_tokens
    [.word .wIf, .name "V", .symbol .less, .number (.int 9), .symbol .colon, .name "x", .newline,
      .word .wElif, .name "V", .symbol .less, .number (.int 8), .symbol .colon, .name "y", .newline, .done]
    rfl (by decide +kernel) rfl

theorem parse_branching : Module.parse "if V < 9:\n    x\n".toList = .ok (branching []) :=
  Module.parse_of_tokens
    [.word .wIf, .name "V", .symbol .less, .number (.int 9), .symbol .colon, .newline, .indent, .name "x", .newline,
      .dedent, .done]
    rfl (by decide +kernel) rfl

theorem render_exposing : (exposing.number.prune (.ofTarget "V" 8)).fill.render = .ok "if V < 9:\n    x\n" := by
  decide +kernel

-- With the inner condition gone, the outer one has no alternative any more.
theorem second_run_idle_iff_exposing :
    let e := onGuards "V" 8 none 0 ⟨.ok .null, 0⟩
    let source := "if V<9:x\nelif V<8:y\n"
    let once := "if V < 9:\n    x\n"
    (e.run "a.py" source).2 =
      .ok { path := "a.py", before := source, after := once, applied := ["remove_version_id_check"] } ∧
    ((e.run "a.py" source).1.run "a.py" once).2 ≠ .ok { path := "a.py", before := once, after := once } := by
  intro e source once
  have first : (e.run "a.py" source).2 =
      .ok { path := "a.py", before := source, after := once, applied := ["remove_version_id_check"] } := by
    have unsettled : exposing.number.isSettled (.ofTarget "V" 8) = false := by decide +kernel
    rw [run_onGuards "V" 8 none 0 ⟨.ok .null, 0⟩ "a.py" parse_exposing, unsettled, render_exposing]
    rfl
  have reads : (exposing.number.prune (.ofTarget "V" 8)).fill.ReadsBack := by
    intro text again
    cases render_exposing.symm.trans again
    exact ⟨_, parse_branching, rfl⟩
  have second := (second_run_idle_iff "V" 8 none 0 ⟨.ok .null, 0⟩).2 "a.py" source exposing _ parse_exposing first reads
  refine ⟨first, fun unchanged => ?_⟩
  have kept := second.mp unchanged
  revert kept
  decide +kernel

end Engine

end Whittle
