import Whittle.Proofs.Syntax.Blocks
import Whittle.Proofs.Syntax.Numbering
import Whittle.Syntax.Block
import Whittle.Syntax.Cut
import Whittle.Syntax.Parser.Statement

namespace Whittle

-- A module that was read is full, and neither numbering nor cutting changes that; in a full module there is nothing
-- to fill.
mutual

def Stmt.isFull : Stmt → Bool
  | .simple .. => true
  | .func _ _ body | .klass _ _ body | .withBlock _ _ _ body => !body.isEmpty && isFullBlock body
  | .ifElse _ _ body orelse | .forLoop _ _ _ _ body orelse | .whileLoop _ _ body orelse =>
    !body.isEmpty && isFullBlock body && isFullBlock orelse
  | .matchOn _ _ cases => isFullCases cases
  | .tryBlock _ _ body handlers orelse finalbody =>
    !body.isEmpty && isFullBlock body && isFullHandlers handlers && isFullBlock orelse && isFullBlock finalbody &&
      !(handlers.isEmpty && finalbody.isEmpty)

def isFullBlock : List Stmt → Bool
  | [] => true
  | s :: rest => s.isFull && isFullBlock rest

def isFullHandlers : List Handler → Bool
  | [] => true
  | .mk _ _ _ body :: rest => !body.isEmpty && isFullBlock body && isFullHandlers rest

def isFullCases : List MatchCase → Bool
  | [] => true
  | .mk _ _ _ body :: rest => !body.isEmpty && isFullBlock body && isFullCases rest

end

def Module.isFull (m : Module) : Bool := isFullBlock m.body

theorem isFullBlock_iff (b : Block) : isFullBlock b ↔ ∀ s ∈ b, s.isFull := by
  induction b with
  | nil => simp [isFullBlock]
  | cons s rest ih => simp [isFullBlock, ih]

-- A block that holds a statement.
def IsBody (b : Block) : Prop := b.isEmpty = false ∧ isFullBlock b

theorem isFullHandlers_iff (hs : List Handler) : isFullHandlers hs ↔ ∀ h ∈ hs, IsBody h.body := by
  induction hs with
  | nil => simp [isFullHandlers]
  | cons h rest ih => cases h; simp [isFullHandlers, ih, IsBody, Handler.body]

theorem isFullCases_iff (cs : List MatchCase) : isFullCases cs ↔ ∀ c ∈ cs, IsBody c.body := by
  induction cs with
  | nil => simp [isFullCases]
  | cons c rest ih => cases c; simp [isFullCases, ih, IsBody, MatchCase.body]

theorem required_of_holding {b : Block} (holding : b.isEmpty = false) : required b = b := by
  rw [required, holding]
  rfl

mutual

theorem Stmt.fill_of_full (s : Stmt) (full : s.isFull) : s.fill = s := by
  cases s with
  | simple => rfl
  | func | klass | withBlock =>
    rename_i body
    simp only [Stmt.isFull, Bool.and_eq_true, Bool.not_eq_true'] at full
    rw [Stmt.fill, fillBlock_of_full body full.2, required_of_holding full.1]
  | ifElse | forLoop | whileLoop =>
    rename_i body orelse
    simp only [Stmt.isFull, Bool.and_eq_true, Bool.not_eq_true'] at full
    rw [Stmt.fill, fillBlock_of_full body full.1.2, fillBlock_of_full orelse full.2, required_of_holding full.1.1]
  | matchOn l subject cases => rw [Stmt.fill, fillCases_of_full cases full]
  | tryBlock l isStar body handlers orelse finalbody =>
    simp only [Stmt.isFull, Bool.and_eq_true, Bool.not_eq_true', Bool.and_eq_false_iff] at full
    obtain ⟨⟨⟨⟨⟨holding, block⟩, handling⟩, other⟩, final⟩, ends⟩ := full
    rw [Stmt.fill, fillBlock_of_full body block, fillHandlers_of_full handlers handling, fillBlock_of_full orelse other,
      fillBlock_of_full finalbody final, required_of_holding holding]
    obtain handles | closes := ends
    · simp [handles]
    · simp [required_of_holding closes]

theorem fillBlock_of_full (b : List Stmt) (full : isFullBlock b) : fillBlock b = b := by
  match b with
  | [] => rfl
  | s :: rest =>
    simp only [isFullBlock, Bool.and_eq_true] at full
    rw [fillBlock, s.fill_of_full full.1, fillBlock_of_full rest full.2]

theorem fillHandlers_of_full (hs : List Handler) (full : isFullHandlers hs) : fillHandlers hs = hs := by
  match hs with
  | [] => rfl
  | .mk l type name body :: rest =>
    simp only [isFullHandlers, Bool.and_eq_true, Bool.not_eq_true'] at full
    rw [fillHandlers, fillBlock_of_full body full.1.2, required_of_holding full.1.1, fillHandlers_of_full rest full.2]

theorem fillCases_of_full (cs : List MatchCase) (full : isFullCases cs) : fillCases cs = cs := by
  match cs with
  | [] => rfl
  | .mk l p guard body :: rest =>
    simp only [isFullCases, Bool.and_eq_true, Bool.not_eq_true'] at full
    rw [fillCases, fillBlock_of_full body full.1.2, required_of_holding full.1.1, fillCases_of_full rest full.2]

end

theorem Module.fill_of_full {m : Module} (full : m.isFull) : m.fill = m :=
  congrArg Module.mk (fillBlock_of_full m.body full)

theorem isEmpty_numberHandlers (hs : List Handler) (k : Nat) : (numberHandlers hs k).1.isEmpty = hs.isEmpty := by
  cases hs with
  | nil => rfl
  | cons h rest => cases h; rfl

mutual

theorem Stmt.isFull_number (s : Stmt) (k : Nat) : (s.number k).1.isFull = s.isFull := by
  cases s with
  | simple => rfl
  | func | klass | withBlock =>
    rename_i body
    simp only [Stmt.number, bind_at, pure_at, Stmt.isFull, isEmpty_numberBlock, isFull_numberBlock body]
  | ifElse | forLoop | whileLoop =>
    rename_i body orelse
    simp only [Stmt.number, bind_at, pure_at, Stmt.isFull, isEmpty_numberBlock, isFull_numberBlock body,
      isFull_numberBlock orelse]
  | matchOn l subject cases => simp only [Stmt.number, bind_at, pure_at, Stmt.isFull, isFull_numberCases cases]
  | tryBlock l isStar body handlers orelse finalbody =>
    simp only [Stmt.number, bind_at, pure_at, Stmt.isFull, isEmpty_numberBlock, isEmpty_numberHandlers,
      isFull_numberBlock body, isFull_numberHandlers handlers, isFull_numberBlock orelse, isFull_numberBlock finalbody]

theorem isFull_numberBlock (b : List Stmt) (k : Nat) : isFullBlock (numberBlock b k).1 = isFullBlock b := by
  match b with
  | [] => rfl
  | s :: rest => simp only [numberBlock, bind_at, pure_at, isFullBlock, s.isFull_number, isFull_numberBlock rest]

theorem isFull_numberHandlers (hs : List Handler) (k : Nat) :
    isFullHandlers (numberHandlers hs k).1 = isFullHandlers hs := by
  match hs with
  | [] => rfl
  | .mk l type name body :: rest =>
    simp only [numberHandlers, bind_at, pure_at, isFullHandlers, isEmpty_numberBlock, isFull_numberBlock body,
      isFull_numberHandlers rest]

theorem isFull_numberCases (cs : List MatchCase) (k : Nat) : isFullCases (numberCases cs k).1 = isFullCases cs := by
  match cs with
  | [] => rfl
  | .mk l p guard body :: rest =>
    simp only [numberCases, bind_at, pure_at, isFullCases, isEmpty_numberBlock, isFull_numberBlock body,
      isFull_numberCases rest]

end

theorem Module.isFull_number (m : Module) : m.number.isFull = m.isFull := isFull_numberBlock m.body 0

section Cut

variable (cuts : Cuts)

theorem isEmpty_cutBlock (b : Block) : (cutBlock cuts b).isEmpty = b.isEmpty := by
  cases b <;> rfl

theorem isEmpty_cutHandlers (hs : List Handler) : (cutHandlers cuts hs).isEmpty = hs.isEmpty := by
  cases hs with
  | nil => rfl
  | cons h rest => cases h; rfl

mutual

theorem Stmt.isFull_cut (s : Stmt) : (s.cut cuts).isFull = s.isFull := by
  cases s with
  | simple => rfl
  | func | klass | withBlock =>
    rename_i body
    simp only [Stmt.cut, Stmt.isFull, isEmpty_cutBlock, isFull_cutBlock body]
  | ifElse | forLoop | whileLoop =>
    rename_i body orelse
    simp only [Stmt.cut, Stmt.isFull, isEmpty_cutBlock, isFull_cutBlock body, isFull_cutBlock orelse]
  | matchOn l subject cases => simp only [Stmt.cut, Stmt.isFull, isFull_cutCases cases]
  | tryBlock l isStar body handlers orelse finalbody =>
    simp only [Stmt.cut, Stmt.isFull, isEmpty_cutBlock, isEmpty_cutHandlers, isFull_cutBlock body,
      isFull_cutHandlers handlers, isFull_cutBlock orelse, isFull_cutBlock finalbody]

theorem isFull_cutBlock (b : List Stmt) : isFullBlock (cutBlock cuts b) = isFullBlock b := by
  match b with
  | [] => rfl
  | s :: rest => simp only [cutBlock, isFullBlock, s.isFull_cut, isFull_cutBlock rest]

theorem isFull_cutHandlers (hs : List Handler) : isFullHandlers (cutHandlers cuts hs) = isFullHandlers hs := by
  match hs with
  | [] => rfl
  | .mk l type name body :: rest =>
    simp only [cutHandlers, isFullHandlers, isEmpty_cutBlock, isFull_cutBlock body, isFull_cutHandlers rest]

theorem isFull_cutCases (cs : List MatchCase) : isFullCases (cutCases cuts cs) = isFullCases cs := by
  match cs with
  | [] => rfl
  | .mk l p guard body :: rest =>
    simp only [cutCases, isFullCases, isEmpty_cutBlock, isFull_cutBlock body, isFull_cutCases rest]

end

theorem Module.isFull_cut (m : Module) : (m.cut cuts).isFull = m.isFull := isFull_cutBlock cuts m.body

end Cut

namespace Parser

-- Whatever is read has a property.
def Reads {α : Type} (p : Parser α) (P : α → Prop) : Prop := ∀ ts a rest, p ts = some (a, rest) → P a

namespace Reads

variable {α β : Type} {p : Parser α} {g : α → Parser β} {P : α → Prop} {Q : β → Prop}

theorem bind (first : Reads p P) (next : ∀ a, P a → Reads (g a) Q) : Reads (p >>= g) Q := by
  intro ts b rest read
  obtain ⟨⟨a, between⟩, here, there⟩ := Option.bind_eq_some_iff.mp read
  exact next a (first ts a between here) between b rest there

theorem skip (next : ∀ a, Reads (g a) Q) : Reads (p >>= g) Q :=
  bind (P := fun _ => True) (fun _ _ _ _ => trivial) fun a _ => next a

theorem pure {a : α} (holds : P a) : Reads (Pure.pure a) P := by
  rintro ts b rest ⟨⟩
  exact holds

theorem failure : Reads (Alternative.failure : Parser α) P := by
  rintro ts a rest ⟨⟩

theorem ite {c : Prop} [Decidable c] {q : Parser α} (yes : Reads p P) (no : Reads q P) :
    Reads (if c then p else q) P := by
  split
  · exact yes
  · exact no

theorem many (each : Reads p P) (n : Nat) : Reads (Parser.many p n) fun as => ∀ a ∈ as, P a := by
  induction n with
  | zero => exact pure fun _ member => absurd member List.not_mem_nil
  | succ n ih =>
    intro ts as rest read
    simp only [Parser.many] at read
    split at read
    · rename_i a between here
      obtain ⟨⟨more, last⟩, there, joined⟩ := Option.map_eq_some_iff.mp read
      cases joined
      exact List.forall_mem_cons.mpr ⟨each ts a between here, ih between more last there⟩
    · cases read
      exact fun _ member => absurd member List.not_mem_nil

theorem optionally (each : Reads p P) : Reads (Parser.optionally p) fun o => ∀ a ∈ o, P a := by
  intro ts o rest read
  rw [Parser.optionally] at read
  split at read
  · rename_i a between here
    cases read
    rintro b ⟨⟩
    exact each ts a rest here
  · cases read
    rintro b ⟨⟩

end Reads

variable {n : Nat} {rules : Rules}

theorem simpleStatements_full (m : Nat) : Reads (simpleStatements n rules m) IsBody := by
  induction m with
  | zero => exact .failure
  | succ m ih =>
    rw [simpleStatements]
    refine .skip fun s => .skip fun more => ?_
    split
    · refine .skip fun last => ?_
      split
      · exact .pure ⟨rfl, rfl⟩
      · exact .bind ih fun rest full => .pure ⟨rfl, full.2⟩
    · exact .skip fun _ => .pure ⟨rfl, rfl⟩

section Compound

variable (blocks : Reads (rules .block) IsBody)

include blocks

theorem body_full : Reads (body rules) IsBody := .skip fun _ => blocks

theorem elseBody_full : Reads (elseBody rules) fun b => isFullBlock b := by
  refine .skip fun found => .ite (fun ts b rest read => ?_) (.pure rfl)
  exact (body_full blocks ts b rest read).2

theorem functionTail_full (isAsync : Bool) (decorators : List Expr) :
    Reads (functionTail n rules isAsync decorators) fun s => s.isFull := by
  refine .skip fun id => .skip fun _ => .skip fun ps => .skip fun _ => .skip fun returns => ?_
  exact .bind (body_full blocks) fun b full => .pure (by simp [Stmt.isFull, full.1, full.2])

theorem classTail_full (decorators : List Expr) : Reads (classTail n rules decorators) fun s => s.isFull := by
  refine .skip fun id => .skip fun args => ?_
  exact .bind (body_full blocks) fun b full => .pure (by simp [Stmt.isFull, full.1, full.2])

theorem forTail_full (isAsync : Bool) : Reads (forTail n rules isAsync) fun s => s.isFull := by
  refine .skip fun target => .skip fun _ => .skip fun iter => .bind (body_full blocks) fun b full => ?_
  exact .bind (elseBody_full blocks) fun orelse other => .pure (by simp [Stmt.isFull, full.1, full.2, other])

theorem withTail_full (isAsync : Bool) : Reads (withTail n rules isAsync) fun s => s.isFull := by
  refine .skip fun grouped => .skip fun items => ?_
  exact .bind (body_full blocks) fun b full => .pure (by simp [Stmt.isFull, full.1, full.2])

theorem handler_full (starred : Bool) : Reads (handler rules starred) fun h => IsBody h.body := by
  have plain : Reads (body rules >>= fun b => Pure.pure (Handler.mk none none none b)) fun h => IsBody h.body :=
    .bind (body_full blocks) fun b full => .pure full
  have typed : Reads (do
      let type ← rules .expression
      let id ← asName
      return Handler.mk none (some type) id (← body rules)) fun h => IsBody h.body :=
    .skip fun type => .skip fun id => .bind (body_full blocks) fun b full => .pure full
  refine .skip fun _ => ?_
  split
  · exact .skip fun _ => .skip fun _ => .ite plain typed
  · exact .skip fun _ => .ite plain typed

theorem tryTail_full : Reads (tryTail n rules) fun s => s.isFull := by
  have other : Reads (Pure.pure []) fun b => isFullBlock b := .pure rfl
  have closing : Reads (do if ← accept (.word .wFinally) then body rules else Pure.pure []) fun b => isFullBlock b := by
    refine .skip fun found => .ite (fun ts b rest read => ?_) other
    exact (body_full blocks ts b rest read).2
  refine .bind (body_full blocks) fun b full => .bind (.many (handler_full blocks false) n) fun plain handled => ?_
  refine .bind (.ite (.many (handler_full blocks true) n) (.pure (List.forall_mem_nil _))) fun starred caught => ?_
  refine .bind (.ite other (elseBody_full blocks)) fun orelse other => .bind closing fun finalbody final => ?_
  split
  · exact .bind (P := fun _ => False) .failure fun _ => False.elim
  · rename_i ends
    have handlers : isFullHandlers (plain ++ starred) :=
      (isFullHandlers_iff _).mpr (List.forall_mem_append.mpr ⟨handled, caught⟩)
    refine .pure ?_
    simp only [Stmt.isFull, full.1, full.2, handlers, other, final, Bool.eq_false_iff.mpr ends]
    rfl

theorem matchCase_full : Reads (matchCase n rules) fun c => IsBody c.body := by
  refine .skip fun _ => .skip fun p => .skip fun guard => ?_
  exact .bind (body_full blocks) fun b full => .pure full

theorem matchStatement_full : Reads (matchStatement n rules) fun s => s.isFull := by
  refine .skip fun _ => .skip fun e => .skip fun _ => .skip fun _ => .skip fun _ => ?_
  refine .bind (matchCase_full blocks) fun first full => .bind (.many (matchCase_full blocks) n) fun rest each => ?_
  refine .skip fun _ => .pure ((isFullCases_iff _).mpr (List.forall_mem_cons.mpr ⟨full, each⟩))

theorem definition_full (decorators : List Expr) : Reads (definition n rules decorators) fun s => s.isFull := by
  refine .skip fun _ => .ite (functionTail_full blocks false decorators) (.skip fun _ => ?_)
  exact .ite (classTail_full blocks decorators) (.skip fun _ => .skip fun _ => functionTail_full blocks true decorators)

variable (others : Reads (rules .otherwise) fun b => isFullBlock b)

include others

theorem otherwise_full : Reads (otherwise rules) fun b => isFullBlock b := by
  refine .skip fun _ => .ite ?_ (elseBody_full blocks)
  refine .skip fun test => .bind (body_full blocks) fun b full => .bind others fun orelse other => ?_
  exact .pure (by simp [isFullBlock, Stmt.isFull, full.1, full.2, other])

theorem compound_full (w : Word) : Reads (compound n rules w) fun s => s.isFull := by
  unfold compound
  split
  · exact functionTail_full blocks false []
  · exact classTail_full blocks []
  · refine .skip fun test => .bind (body_full blocks) fun b full => ?_
    exact .bind (otherwise_full blocks others) fun orelse other => .pure (by simp [Stmt.isFull, full.1, full.2, other])
  · refine .skip fun test => .bind (body_full blocks) fun b full => ?_
    exact .bind (elseBody_full blocks) fun orelse other => .pure (by simp [Stmt.isFull, full.1, full.2, other])
  · exact forTail_full blocks false
  · exact withTail_full blocks false
  · exact tryTail_full blocks
  · refine .skip fun _ => .ite (functionTail_full blocks true []) (.skip fun _ => ?_)
    exact .ite (forTail_full blocks true) (.skip fun _ => withTail_full blocks true)
  · exact .failure

theorem statement_full : Reads (statement n rules) fun b => isFullBlock b := by
  have simple : Reads (simpleStatements n rules n) fun b => isFullBlock b :=
    fun ts b rest read => (simpleStatements_full n ts b rest read).2
  have single : ∀ {p : Parser Stmt}, Reads p (fun s => s.isFull) →
      Reads (p >>= fun s => Pure.pure [s]) fun b => isFullBlock b :=
    fun full => .bind full fun s here => .pure (by simp [isFullBlock, here])
  refine .skip fun next => ?_
  split
  · rename_i w
    exact .ite (.skip fun _ => single (compound_full blocks others w)) simple
  · exact .skip fun ds => single (definition_full blocks ds)
  · refine .bind (.optionally (matchStatement_full blocks)) fun found full => ?_
    split
    · exact .pure (by simp [isFullBlock, full _ rfl])
    · exact simple
  · exact simple

theorem statements_full : Reads (statements n rules) fun b => isFullBlock b := by
  refine .bind (.many (statement_full blocks others) n) fun lines full => .pure ?_
  refine (isFullBlock_iff _).mpr fun s member => ?_
  obtain ⟨line, here, inside⟩ := List.mem_flatten.mp member
  exact (isFullBlock_iff _).mp (full line here) s inside

theorem block_full : Reads (block n rules) IsBody := by
  refine .skip fun _ => .ite ?_ (simpleStatements_full n)
  refine .skip fun _ => .bind (statements_full blocks others) fun b full => .skip fun _ => ?_
  split
  · exact .failure
  · rename_i holding
    exact .pure ⟨Bool.eq_false_iff.mpr holding, full⟩

end Compound

-- The induction is on the fuel: a rule reads full blocks if those that it refers to do.
theorem ruleWithin_full (n : Nat) :
    Reads (ruleWithin n .block) IsBody ∧ Reads (ruleWithin n .otherwise) fun b => isFullBlock b := by
  induction n with
  | zero => exact ⟨.failure, .failure⟩
  | succ n ih => exact ⟨block_full ih.1 ih.2, otherwise_full ih.1 ih.2⟩

end Parser

theorem Module.isFull_of_parse {source : List Char} {m : Module} (parsed : Module.parse source = .ok m) : m.isFull := by
  unfold parse at parsed
  split at parsed
  · cases parsed
  · split at parsed
    · rename_i read
      cases parsed
      obtain ⟨tokens, -, read⟩ := Option.bind_eq_some_iff.mp read
      unfold Parser.module? at read
      split at read
      · rename_i body statements
        cases read
        exact Parser.statements_full (Parser.ruleWithin_full _).1 (Parser.ruleWithin_full _).2 _ _ _ statements
      · cases read
    · cases parsed

end Whittle
