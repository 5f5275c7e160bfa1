import Whittle.Syntax.Stmt

namespace Whittle

namespace Stmt

def mapBlocksM {m : Type → Type} [Monad m] (f : Block → m Block) : Stmt → m Stmt
  | .simple l s => return .simple l s
  | .func l head body => do return .func l head (← f body)
  | .klass l head body => do return .klass l head (← f body)
  | .ifElse l test body orelse => do return .ifElse l test (← f body) (← f orelse)
  | .forLoop l isAsync target iter body orelse => do return .forLoop l isAsync target iter (← f body) (← f orelse)
  | .whileLoop l test body orelse => do return .whileLoop l test (← f body) (← f orelse)
  | .withBlock l isAsync items body => do return .withBlock l isAsync items (← f body)
  | .matchOn l subject cases => do
    return .matchOn l subject (← cases.mapM fun
      | .mk l p guard body => do return .mk l p guard (← f body))
  | .tryBlock l isStar body handlers orelse finalbody => do
    let b ← f body
    let hs ← handlers.mapM fun
      | .mk l type name body => do return .mk l type name (← f body)
    return .tryBlock l isStar b hs (← f orelse) (← f finalbody)

end Stmt

def required (b : Block) : Block := if b.isEmpty then [Stmt.filler] else b

mutual

-- A required block that is empty gets a `pass`, and a `try` that handles nothing gets a `finally`.
def Stmt.fill : Stmt → Stmt
  | .simple l s => .simple l s
  | .func l head body => .func l head (required (fillBlock body))
  | .klass l head body => .klass l head (required (fillBlock body))
  | .ifElse l test body orelse => .ifElse l test (required (fillBlock body)) (fillBlock orelse)
  | .forLoop l isAsync target iter body orelse =>
    .forLoop l isAsync target iter (required (fillBlock body)) (fillBlock orelse)
  | .whileLoop l test body orelse => .whileLoop l test (required (fillBlock body)) (fillBlock orelse)
  | .withBlock l isAsync items body => .withBlock l isAsync items (required (fillBlock body))
  | .matchOn l subject cases => .matchOn l subject (fillCases cases)
  | .tryBlock l isStar body handlers orelse finalbody =>
    let final := fillBlock finalbody
    .tryBlock l isStar (required (fillBlock body)) (fillHandlers handlers) (fillBlock orelse)
      (if handlers.isEmpty then required final else final)

def fillBlock : List Stmt → List Stmt
  | [] => []
  | s :: rest => s.fill :: fillBlock rest

def fillHandlers : List Handler → List Handler
  | [] => []
  | .mk l type name body :: rest => .mk l type name (required (fillBlock body)) :: fillHandlers rest

def fillCases : List MatchCase → List MatchCase
  | [] => []
  | .mk l p guard body :: rest => .mk l p guard (required (fillBlock body)) :: fillCases rest

end

def Module.fill (m : Module) : Module := ⟨fillBlock m.body⟩

end Whittle
