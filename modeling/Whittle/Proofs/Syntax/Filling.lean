import Whittle.Proofs.Syntax.Fullness

namespace Whittle

theorem isBody_required {b : Block} (full : isFullBlock b) : IsBody (required b) := by
  unfold required
  split
  · exact ⟨rfl, rfl⟩
  · rename_i holding
    exact ⟨Bool.eq_false_iff.mpr holding, full⟩

theorem isEmpty_fillHandlers (hs : List Handler) : (fillHandlers hs).isEmpty = hs.isEmpty := by
  cases hs with
  | nil => rfl
  | cons h rest => cases h; rfl

mutual

theorem Stmt.isFull_fill (s : Stmt) : s.fill.isFull := by
  cases s with
  | simple => rfl
  | func | klass | withBlock =>
    rename_i body
    have held := isBody_required (isFull_fillBlock body)
    simp [Stmt.fill, Stmt.isFull, held.1, held.2]
  | ifElse | forLoop | whileLoop =>
    rename_i body orelse
    have held := isBody_required (isFull_fillBlock body)
    simp [Stmt.fill, Stmt.isFull, held.1, held.2, isFull_fillBlock orelse]
  | matchOn l subject cases => exact isFull_fillCases cases
  | tryBlock l isStar body handlers orelse finalbody =>
    have held := isBody_required (isFull_fillBlock body)
    have final := isBody_required (isFull_fillBlock finalbody)
    simp only [Stmt.fill, Stmt.isFull, held.1, held.2, isFull_fillHandlers handlers, isFull_fillBlock orelse,
      isEmpty_fillHandlers]
    cases handles : handlers.isEmpty with
    | true => simp [final.1, final.2]
    | false => simp [isFull_fillBlock finalbody]

theorem isFull_fillBlock (b : List Stmt) : isFullBlock (fillBlock b) := by
  match b with
  | [] => rfl
  | s :: rest => simp [fillBlock, isFullBlock, s.isFull_fill, isFull_fillBlock rest]

theorem isFull_fillHandlers (hs : List Handler) : isFullHandlers (fillHandlers hs) := by
  match hs with
  | [] => rfl
  | .mk l type name body :: rest =>
    have held := isBody_required (isFull_fillBlock body)
    simp [fillHandlers, isFullHandlers, held.1, held.2, isFull_fillHandlers rest]

theorem isFull_fillCases (cs : List MatchCase) : isFullCases (fillCases cs) := by
  match cs with
  | [] => rfl
  | .mk l p guard body :: rest =>
    have held := isBody_required (isFull_fillBlock body)
    simp [fillCases, isFullCases, held.1, held.2, isFull_fillCases rest]

end

theorem Module.isFull_fill (m : Module) : m.fill.isFull := isFull_fillBlock m.body

mutual

-- The second statement is the first with a filler in every block that must hold a statement and holds none.
inductive Stmt.Padded : Stmt → Stmt → Prop
  | simple (l : Label) (form : Simple) : Stmt.Padded (.simple l form) (.simple l form)
  | func {l : Label} {head : FunctionHead} {body body' : List Stmt} : BodyPadded body body' →
    Stmt.Padded (.func l head body) (.func l head body')
  | klass {l : Label} {head : ClassHead} {body body' : List Stmt} : BodyPadded body body' →
    Stmt.Padded (.klass l head body) (.klass l head body')
  | ifElse {l : Label} {test : Expr} {body body' orelse orelse' : List Stmt} : BodyPadded body body' →
    BlockPadded orelse orelse' → Stmt.Padded (.ifElse l test body orelse) (.ifElse l test body' orelse')
  | forLoop {l : Label} {isAsync : Bool} {target iter : Expr} {body body' orelse orelse' : List Stmt} :
    BodyPadded body body' → BlockPadded orelse orelse' →
    Stmt.Padded (.forLoop l isAsync target iter body orelse) (.forLoop l isAsync target iter body' orelse')
  | whileLoop {l : Label} {test : Expr} {body body' orelse orelse' : List Stmt} : BodyPadded body body' →
    BlockPadded orelse orelse' → Stmt.Padded (.whileLoop l test body orelse) (.whileLoop l test body' orelse')
  | withBlock {l : Label} {isAsync : Bool} {items : List WithItem} {body body' : List Stmt} : BodyPadded body body' →
    Stmt.Padded (.withBlock l isAsync items body) (.withBlock l isAsync items body')
  | matchOn {l : Label} {subject : Expr} {cases cases' : List MatchCase} : CasesPadded cases cases' →
    Stmt.Padded (.matchOn l subject cases) (.matchOn l subject cases')
  -- The `finally` of a `try` must hold a statement only where nothing is handled.
  | handled {l : Label} {isStar : Bool} {body body' : List Stmt} {h h' : Handler} {rest rest' : List Handler}
    {orelse orelse' final final' : List Stmt} : BodyPadded body body' →
    HandlersPadded (h :: rest) (h' :: rest') → BlockPadded orelse orelse' → BlockPadded final final' →
    Stmt.Padded (.tryBlock l isStar body (h :: rest) orelse final)
      (.tryBlock l isStar body' (h' :: rest') orelse' final')
  | unhandled {l : Label} {isStar : Bool} {body body' orelse orelse' final final' : List Stmt} :
    BodyPadded body body' → BlockPadded orelse orelse' → BodyPadded final final' →
    Stmt.Padded (.tryBlock l isStar body [] orelse final) (.tryBlock l isStar body' [] orelse' final')

-- Statement by statement: the block itself gets nothing.
inductive BlockPadded : List Stmt → List Stmt → Prop
  | nil : BlockPadded [] []
  | cons {s s' : Stmt} {rest rest' : List Stmt} : Stmt.Padded s s' → BlockPadded rest rest' →
    BlockPadded (s :: rest) (s' :: rest')

inductive BodyPadded : List Stmt → List Stmt → Prop
  | filler : BodyPadded [] [Stmt.filler]
  | holding {s s' : Stmt} {rest rest' : List Stmt} : BlockPadded (s :: rest) (s' :: rest') →
    BodyPadded (s :: rest) (s' :: rest')

inductive HandlersPadded : List Handler → List Handler → Prop
  | nil : HandlersPadded [] []
  | cons {l : Label} {type : Option Expr} {name : Option String} {body body' : List Stmt}
    {rest rest' : List Handler} : BodyPadded body body' → HandlersPadded rest rest' →
    HandlersPadded (.mk l type name body :: rest) (.mk l type name body' :: rest')

inductive CasesPadded : List MatchCase → List MatchCase → Prop
  | nil : CasesPadded [] []
  | cons {l : Label} {p : Pattern} {guard : Option Expr} {body body' : List Stmt} {rest rest' : List MatchCase} :
    BodyPadded body body' → CasesPadded rest rest' →
    CasesPadded (.mk l p guard body :: rest) (.mk l p guard body' :: rest')

end

theorem BlockPadded.required {b b' : Block} (padded : BlockPadded b b') : BodyPadded b (required b') := by
  cases padded with
  | nil => exact .filler
  | cons first rest => exact .holding (.cons first rest)

mutual

theorem Stmt.padded_fill (s : Stmt) : s.Padded s.fill := by
  cases s with
  | simple l form => exact .simple l form
  | func l head body => exact .func (padded_fillBlock body).required
  | klass l head body => exact .klass (padded_fillBlock body).required
  | ifElse l test body orelse => exact .ifElse (padded_fillBlock body).required (padded_fillBlock orelse)
  | forLoop l isAsync target iter body orelse =>
    exact .forLoop (padded_fillBlock body).required (padded_fillBlock orelse)
  | whileLoop l test body orelse => exact .whileLoop (padded_fillBlock body).required (padded_fillBlock orelse)
  | withBlock l isAsync items body => exact .withBlock (padded_fillBlock body).required
  | matchOn l subject cases => exact .matchOn (padded_fillCases cases)
  | tryBlock l isStar body handlers orelse finalbody =>
    match handlers with
    | [] =>
      exact .unhandled (padded_fillBlock body).required (padded_fillBlock orelse) (padded_fillBlock finalbody).required
    | .mk hl type name inner :: rest =>
      exact .handled (padded_fillBlock body).required (padded_fillHandlers (.mk hl type name inner :: rest))
        (padded_fillBlock orelse) (padded_fillBlock finalbody)

theorem padded_fillBlock (b : List Stmt) : BlockPadded b (fillBlock b) := by
  match b with
  | [] => exact .nil
  | s :: rest => exact .cons s.padded_fill (padded_fillBlock rest)

theorem padded_fillHandlers (hs : List Handler) : HandlersPadded hs (fillHandlers hs) := by
  match hs with
  | [] => exact .nil
  | .mk l type name body :: rest => exact .cons (padded_fillBlock body).required (padded_fillHandlers rest)

theorem padded_fillCases (cs : List MatchCase) : CasesPadded cs (fillCases cs) := by
  match cs with
  | [] => exact .nil
  | .mk l p guard body :: rest => exact .cons (padded_fillBlock body).required (padded_fillCases rest)

end

end Whittle
