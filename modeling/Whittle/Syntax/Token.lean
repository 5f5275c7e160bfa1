import Whittle.Syntax.Literal

namespace Whittle

inductive Word where
  | wFalse | wNone | wTrue | wAnd | wAs | wAssert | wAsync | wAwait | wBreak | wClass | wContinue | wDef | wDel
  | wElif | wElse | wExcept | wFinally | wFor | wFrom | wGlobal | wIf | wImport | wIn | wIs | wLambda | wNonlocal
  | wNot | wOr | wPass | wRaise | wReturn | wTry | wWhile | wWith | wYield
  deriving Repr, DecidableEq

def Word.spellings : List (String × Word) :=
  [("False", .wFalse), ("None", .wNone), ("True", .wTrue), ("and", .wAnd), ("as", .wAs), ("assert", .wAssert),
   ("async", .wAsync), ("await", .wAwait), ("break", .wBreak), ("class", .wClass), ("continue", .wContinue),
   ("def", .wDef), ("del", .wDel), ("elif", .wElif), ("else", .wElse), ("except", .wExcept),
   ("finally", .wFinally), ("for", .wFor), ("from", .wFrom), ("global", .wGlobal), ("if", .wIf),
   ("import", .wImport), ("in", .wIn), ("is", .wIs), ("lambda", .wLambda), ("nonlocal", .wNonlocal),
   ("not", .wNot), ("or", .wOr), ("pass", .wPass), ("raise", .wRaise), ("return", .wReturn), ("try", .wTry),
   ("while", .wWhile), ("with", .wWith), ("yield", .wYield)]

def Word.ofName? (s : String) : Option Word := Word.spellings.lookup s

inductive Symbol where
  | lparen | rparen | lbracket | rbracket | lbrace | rbrace | comma | colon | semicolon | dot | ellipsis | at
  | assign | arrow | walrus | plus | minus | star | slash | percent | doubleStar | doubleSlash | lshift | rshift
  | amp | bar | caret | tilde | less | greater | lessEq | greaterEq | equal | notEqual
  | augmented (op : BinaryOp)
  deriving Repr, DecidableEq

def Symbol.spellings : List (List Char × Symbol) :=
  [(['*', '*', '='], .augmented .pow), (['/', '/', '='], .augmented .floorDiv),
   (['>', '>', '='], .augmented .rShift), (['<', '<', '='], .augmented .lShift), (['.', '.', '.'], .ellipsis),
   (['*', '*'], .doubleStar), (['/', '/'], .doubleSlash), (['>', '>'], .rshift), (['<', '<'], .lshift),
   (['-', '>'], .arrow), ([':', '='], .walrus), (['=', '='], .equal), (['!', '='], .notEqual),
   (['<', '='], .lessEq), (['>', '='], .greaterEq), (['+', '='], .augmented .add), (['-', '='], .augmented .sub),
   (['*', '='], .augmented .mult), (['/', '='], .augmented .div), (['%', '='], .augmented .mod),
   (['@', '='], .augmented .matMult), (['&', '='], .augmented .bitAnd), (['|', '='], .augmented .bitOr),
   (['^', '='], .augmented .bitXor), (['('], .lparen), ([')'], .rparen), (['['], .lbracket), ([']'], .rbracket),
   (['\x7b'], .lbrace), (['\x7d'], .rbrace), ([','], .comma), ([':'], .colon), ([';'], .semicolon), (['.'], .dot),
   (['@'], .at), (['='], .assign), (['+'], .plus), (['-'], .minus), (['*'], .star), (['/'], .slash),
   (['%'], .percent), (['&'], .amp), (['|'], .bar), (['^'], .caret), (['~'], .tilde), (['<'], .less),
   (['>'], .greater)]

structure RawText where
  isBytes : Bool
  isRaw : Bool
  isFormat : Bool
  marked : Bool
  body : List Char
  deriving Repr, DecidableEq

inductive Token where
  | name (id : String)
  | word (w : Word)
  | number (value : Literal)
  | text (raw : RawText)
  | symbol (s : Symbol)
  | newline
  | indent
  | dedent
  | done
  deriving Repr, DecidableEq

end Whittle
