import Whittle.Document.Value
import Whittle.Number.Integer

namespace Whittle.Toml

abbrev Key := List String

inductive Cause where
  | statement
  | lineEnd
  | tableEnd
  | arrayTableEnd
  | declaredTwice (key : Key)
  | immutable (key : Key)
  | redefined (key : Key)
  | overwritten
  | equalsSign
  | keyStart
  | openArray
  | openTable
  | duplicate (name : String)
  | backslash
  | hexValue
  | codePoint
  | openString
  | illegal (c : Char)
  | invalidCharacter (c : Char)
  | expected (mark : String)
  | date
  | value
  | longInteger (digits : Nat)
  deriving DecidableEq, Repr

-- Why a text is no document, with the number of characters left where it was noticed.
structure Fault where
  cause : Cause
  left : Nat
  deriving DecidableEq, Repr

def Fault.isLongInteger (f : Fault) : Bool :=
  match f.cause with
  | .longInteger _ => true
  | _ => false

abbrev Reader := StateT (List Char) (Except Fault)

def fail {α : Type} (cause : Cause) : Reader α := fun cs => .error ⟨cause, cs.length⟩

def failAt {α : Type} (cause : Cause) (rest : List Char) : Reader α := fun _ => .error ⟨cause, rest.length⟩

def next? : Reader (Option Char) := fun cs => .ok (cs.head?, cs)

def takeWhile (p : Char → Bool) : Reader (List Char) := fun cs => .ok (cs.takeWhile p, cs.dropWhile p)

def skip (n : Nat) : Reader Unit := fun cs => .ok ((), cs.drop n)

def ahead (mark : List Char) : Reader Bool := fun cs => .ok (mark.isPrefixOf cs, cs)

def isSpace (c : Char) : Bool := c == ' ' || c == '\t'

def isSpaceOrLine (c : Char) : Bool := isSpace c || c == '\n'

def isControl (c : Char) : Bool := c.toNat < 32 || c.toNat == 127

def isIllegal (c : Char) : Bool := isControl c && c != '\t'

def isIllegalInLines (c : Char) : Bool := isControl c && c != '\t' && c != '\n'

def isBareKey (c : Char) : Bool := c.isAlphanum || c == '-' || c == '_'

def isHexDigit (c : Char) : Bool := c.isDigit || ('a' ≤ c && c ≤ 'f') || ('A' ≤ c && c ≤ 'F')

def hexDigitValue (c : Char) : Nat :=
  if c.isDigit then c.toNat - 48 else if 'a' ≤ c then c.toNat - 87 else c.toNat - 55

def skipSpace : Reader Unit := do
  let _ ← takeWhile isSpace

def upTo (mark : List Char) (illegal : Char → Bool) (needed : Bool) : Reader (List Char) := do
  let cs ← get
  match (List.range (cs.length + 1)).find? fun n => mark.isPrefixOf (cs.drop n) with
  | some n => checked cs n
  | none => if needed then failAt (.expected (Text.quote (String.ofList mark))) [] else checked cs cs.length
where
  checked (cs : List Char) (n : Nat) : Reader (List Char) := do
    let front := cs.take n
    match front.dropWhile fun c => !illegal c with
    | [] => skip n; return front
    | c :: rest => failAt (.invalidCharacter c) (c :: rest ++ cs.drop n)

def skipComment : Reader Unit := do
  if ← ahead ['#'] then
    skip 1
    let _ ← upTo ['\n'] isIllegal false

-- Skips blanks, line ends and comments; a round that skips nothing is the last.
def skipBetween : Nat → Reader Unit
  | 0 => return
  | n + 1 => do
    let before := (← get).length
    let _ ← takeWhile isSpaceOrLine
    skipComment
    if (← get).length == before then return else skipBetween n

def shortEscape? : Char → Option Char
  | 'b' => some '\x08'
  | 't' => some '\t'
  | 'n' => some '\n'
  | 'f' => some '\x0c'
  | 'r' => some '\r'
  | '"' => some '"'
  | '\\' => some '\\'
  | _ => none

def hexChar (width : Nat) : Reader (List Char) := do
  let cs ← get
  let digits := cs.take width
  if digits.length != width || !digits.all isHexDigit then fail .hexValue
  else
    skip width
    let n := Integer.ofDigits 16 (digits.map hexDigitValue)
    if n < 0xd800 || (0xe000 ≤ n && n < 0x110000) then return [Char.ofNat n] else fail .codePoint

def escapeTail (manyLines : Bool) : Reader (List Char) := do
  let second := (← get)[1]?
  skip 2
  match second with
  | some 'u' => hexChar 4
  | some 'U' => hexChar 8
  | some '\n' =>
    if manyLines then
      let _ ← takeWhile isSpaceOrLine
      return []
    else fail .backslash
  | some c =>
    if manyLines && isSpace c then
      skipSpace
      match ← next? with
      | none => return []
      | some '\n' =>
        let _ ← takeWhile isSpaceOrLine
        return []
      | some _ => fail .backslash
    else
      match shortEscape? c with
      | some d => return [d]
      | none => fail .backslash
  | none => fail .backslash

def basicTail (manyLines : Bool) : Nat → Reader (List Char)
  | 0 => fail .openString
  | n + 1 => do
    match ← next? with
    | none => fail .openString
    | some '"' =>
      if !manyLines then skip 1; return []
      else if ← ahead ['"', '"', '"'] then skip 3; return []
      else skip 1; return '"' :: (← basicTail manyLines n)
    | some '\\' => return (← escapeTail manyLines) ++ (← basicTail manyLines n)
    | some c =>
      if (if manyLines then isIllegalInLines c else isIllegal c) then fail (.illegal c)
      else skip 1; return c :: (← basicTail manyLines n)

def basicText : Reader (List Char) := do
  skip 1
  basicTail false ((← get).length + 1)

def literalText : Reader (List Char) := do
  skip 1
  let cs ← upTo ['\''] isIllegal true
  skip 1
  return cs

-- A text of several lines; up to two quotes may stand before the closing ones.
def manyLinesText (quote : Char) : Reader (List Char) := do
  skip 3
  if ← ahead ['\n'] then skip 1
  let body ←
    if quote == '\'' then do
      let cs ← upTo [quote, quote, quote] isIllegalInLines true
      skip 3
      pure cs
    else basicTail true ((← get).length + 1)
  if !(← ahead [quote]) then return body
  skip 1
  if !(← ahead [quote]) then return body ++ [quote]
  skip 1
  return body ++ [quote, quote]

def keyPart : Reader String := do
  match ← next? with
  | some '\'' => return String.ofList (← literalText)
  | some '"' => return String.ofList (← basicText)
  | some c => if isBareKey c then return String.ofList (← takeWhile isBareKey) else fail .keyStart
  | none => fail .keyStart

def keyTail : Nat → Reader Key
  | 0 => return []
  | n + 1 => do
    skipSpace
    if ← ahead ['.'] then
      skip 1
      skipSpace
      return (← keyPart) :: (← keyTail n)
    else return []

def key : Reader Key := do
  return (← keyPart) :: (← keyTail ((← get).length + 1))

def digitRun (p : Char → Bool) : (fresh : Bool) → List Char → List Char × List Char
  | _, [] => ([], [])
  | fresh, c :: rest =>
    if p c then
      let (ds, after) := digitRun p false rest
      (c :: ds, after)
    else if c == '_' && !fresh && (rest.head?.map p).getD false then digitRun p true rest
    else ([], c :: rest)

def fixedDigits? (n : Nat) (cs : List Char) : Option (Nat × List Char) :=
  let ds := cs.take n
  if ds.length == n && ds.all Char.isDigit then
    some (Integer.ofDigits 10 (ds.map fun c => c.toNat - 48), cs.drop n)
  else none

def field? (mark : Option Char) (width low high : Nat) (cs : List Char) : Option (Nat × List Char) := do
  let cs ← match mark, cs with
    | none, cs => some cs
    | some m, c :: rest => if c == m then some rest else none
    | some _, [] => none
  let (n, rest) ← fixedDigits? width cs
  if low ≤ n && n ≤ high then some (n, rest) else none

-- Digits after the sixth are read and dropped.
def fraction (cs : List Char) : Nat × List Char :=
  match cs with
  | '.' :: rest =>
    match rest.takeWhile Char.isDigit with
    | [] => (0, cs)
    | ds =>
      let six := ds.take 6
      (Integer.ofDigits 10 ((six ++ List.replicate (6 - six.length) '0').map fun c => c.toNat - 48), rest.drop ds.length)
  | cs => (0, cs)

def clock? (cs : List Char) : Option (Clock × List Char) := do
  let (hour, cs) ← field? none 2 0 23 cs
  let (minute, cs) ← field? (some ':') 2 0 59 cs
  let (second, cs) ← field? (some ':') 2 0 59 cs
  let (micro, cs) := fraction cs
  return (⟨hour, minute, second, micro⟩, cs)

def zone? (cs : List Char) : Option (Zone × List Char) :=
  match cs with
  | 'Z' :: rest | 'z' :: rest => some (0, rest)
  | c :: rest =>
    if c == '+' || c == '-' then do
      let (hour, rest) ← field? none 2 0 23 rest
      let (minute, rest) ← field? (some ':') 2 0 59 rest
      let seconds : Int := hour * 3600 + minute * 60
      return (if c == '-' then -seconds else seconds, rest)
    else none
  | [] => none

def dateTime? (cs : List Char) : Option (Except MomentError Moment × List Char) := do
  let (year, cs) ← fixedDigits? 4 cs
  let (month, cs) ← field? (some '-') 2 1 12 cs
  let (day, cs) ← field? (some '-') 2 1 31 cs
  let date := Date.of year month day
  let time? := match cs with
    | c :: rest => if c == 'T' || c == 't' || c == ' ' then clock? rest else none
    | [] => none
  match time? with
  | none => return (date.map .date, cs)
  | some (clock, cs) =>
    match zone? cs with
    | some (z, cs) => return (date.map (.dateTime · clock (some z)), cs)
    | none => return (date.map (.dateTime · clock none), cs)

def based? (cs : List Char) : Option (Value × List Char) :=
  let read (base : Nat) (p : Char → Bool) (rest : List Char) : Option (Value × List Char) :=
    match digitRun p true rest with
    | ([], _) => none
    | (ds, after) => some (.int (Integer.ofDigits base (ds.map hexDigitValue)), after)
  match cs with
  | '0' :: 'x' :: rest => read 16 isHexDigit rest
  | '0' :: 'b' :: rest => read 2 (fun c => c == '0' || c == '1') rest
  | '0' :: 'o' :: rest => read 8 (fun c => '0' ≤ c && c ≤ '7') rest
  | _ => none

def markedDigits (isMark : Char → Bool) (signed : Bool) (cs : List Char) : Option (Bool × List Char × List Char) :=
  match cs with
  | c :: rest =>
    if isMark c then
      let (negative, rest) := match signed, rest with
        | true, '-' :: r => (true, r)
        | true, '+' :: r => (false, r)
        | _, r => (false, r)
      match digitRun Char.isDigit true rest with
      | ([], _) => none
      | (ds, after) => some (negative, ds, after)
    else none
  | [] => none

def digitsValue (ds : List Char) : Nat := Integer.ofDigits 10 (ds.map fun c => c.toNat - 48)

def decimal? (cs : List Char) : Option (Except Nat Value × List Char) := do
  let (negative, cs) := match cs with
    | '-' :: rest => (true, rest)
    | '+' :: rest => (false, rest)
    | cs => (false, cs)
  let (whole, cs) ← match cs with
    | '0' :: rest => some (['0'], rest)
    | c :: _ => if c.isDigit then some (digitRun Char.isDigit true cs) else none
    | [] => none
  let (places, cs, hasFraction) := match markedDigits (· == '.') false cs with
    | some (_, ds, rest) => (ds, rest, true)
    | none => ([], cs, false)
  let (power, cs, hasPower) := match markedDigits (fun c => c == 'e' || c == 'E') true cs with
    | some (neg, ds, rest) => ((if neg then -(digitsValue ds : Int) else digitsValue ds), rest, true)
    | none => ((0 : Int), cs, false)
  if hasFraction || hasPower then
    return (.ok (.float (.ofDecimal negative (digitsValue (whole ++ places)) (power - places.length))), cs)
  else if Integer.maxDigits < whole.length then return (.error whole.length, cs)
  else
    let n : Int := digitsValue whole
    return (.ok (.int (if negative then -n else n)), cs)

def special? (cs : List Char) : Option (Value × List Char) :=
  match cs with
  | 'i' :: 'n' :: 'f' :: rest | '+' :: 'i' :: 'n' :: 'f' :: rest => some (.float (.infinite false), rest)
  | '-' :: 'i' :: 'n' :: 'f' :: rest => some (.float (.infinite true), rest)
  | 'n' :: 'a' :: 'n' :: rest | '+' :: 'n' :: 'a' :: 'n' :: rest | '-' :: 'n' :: 'a' :: 'n' :: rest =>
    some (.float .nan, rest)
  | _ => none

def scalar : Reader Value := do
  let cs ← get
  if let some (moment, rest) := dateTime? cs then
    match moment with
    | .ok m => set rest; return .moment m
    | .error _ => fail .date
  else if let some (clock, rest) := clock? cs then
    set rest
    return .moment (.time clock)
  else if let some (v, rest) := based? cs then
    set rest
    return v
  else if let some (v, rest) := decimal? cs then
    match v with
    | .ok v => set rest; return v
    | .error n => fail (.longInteger n)
  else if let some (v, rest) := special? cs then
    set rest
    return v
  else fail .value

abbrev Entries := List (Value × Value)

-- Changes the table at a key; tables on the way are made, and of an array of tables the last one counts.
def within (throughArrays : Bool) (f : Entries → Option Entries) : Key → Entries → Option Entries
  | [], es => f es
  | k :: ks, es => do
    match (Value.get? es k).getD (.mapping []) with
    | .mapping inner => return Value.put (.text k) (.mapping (← within throughArrays f ks inner)) es
    | .list items =>
      if !throughArrays then none
      else
        match items.getLast? with
        | some (.mapping inner) =>
          return Value.put (.text k) (.list (items.dropLast ++ [.mapping (← within throughArrays f ks inner)])) es
        | _ => none
    | _ => none

inductive Flag where
  | frozen
  | declared
  deriving DecidableEq

structure Mark where
  key : Key
  flag : Flag
  isDeep : Bool
  deriving DecidableEq

def isFlagged (marks : List Mark) (key : Key) (flag : Flag) : Bool :=
  marks.any fun m => m.flag == flag && (m.key == key || (m.isDeep && !m.key.isEmpty && m.key.isPrefixOf key))

def isContainer : Value → Bool
  | .mapping _ | .list _ => true
  | _ => false

def addInline (key : Key) (value : Value) (es : Entries) (marks : List Mark) : Reader Entries := do
  if isFlagged marks key .frozen then fail (.immutable key)
  else
    let stem := key.getLastD ""
    let parent := key.dropLast
    match within false some parent es with
    | none => fail .overwritten
    | some _ =>
      let add (nest : Entries) : Option Entries :=
        if (Value.get? nest stem).isSome then none else some (Value.put (.text stem) value nest)
      match within false add parent es with
      | some es => return es
      | none => fail (.duplicate stem)

mutual

def value : Nat → Reader Value
  | 0 => fail .value
  | n + 1 => do
    match ← next? with
    | some '"' =>
      if ← ahead ['"', '"', '"'] then return .text (String.ofList (← manyLinesText '"'))
      else return .text (String.ofList (← basicText))
    | some '\'' =>
      if ← ahead ['\'', '\'', '\''] then return .text (String.ofList (← manyLinesText '\''))
      else return .text (String.ofList (← literalText))
    | some '[' =>
      skip 1
      skipBetween n
      if ← ahead [']'] then skip 1; return .list []
      else return .list (← arrayTail n)
    | some '{' =>
      skip 1
      skipSpace
      if ← ahead ['}'] then skip 1; return .mapping []
      else return .mapping (← inlineTail n [] [])
    | _ =>
      if ← ahead ['t', 'r', 'u', 'e'] then skip 4; return .bool true
      else if ← ahead ['f', 'a', 'l', 's', 'e'] then skip 5; return .bool false
      else scalar

def arrayTail : Nat → Reader (List Value)
  | 0 => fail .openArray
  | n + 1 => do
    let v ← value n
    skipBetween ((← get).length + 1)
    match ← next? with
    | some ']' => skip 1; return [v]
    | some ',' =>
      skip 1
      skipBetween ((← get).length + 1)
      if ← ahead [']'] then skip 1; return [v]
      else return v :: (← arrayTail n)
    | _ => fail .openArray

def inlineTail : Nat → Entries → List Mark → Reader Entries
  | 0, _, _ => fail .openTable
  | n + 1, es, marks => do
    let (k, v) ← pair n
    let es ← addInline k v es marks
    skipSpace
    match ← next? with
    | some '}' => skip 1; return es
    | some ',' =>
      let marks := if isContainer v then ⟨k, .frozen, true⟩ :: marks else marks
      skip 1
      skipSpace
      inlineTail n es marks
    | _ => fail .openTable

def pair : Nat → Reader (Key × Value)
  | 0 => fail .value
  | n + 1 => do
    let k ← key
    if !(← ahead ['=']) then fail .equalsSign
    else
      skip 1
      skipSpace
      return (k, ← value n)

end

structure Draft where
  entries : Entries := []
  marks : List Mark := []
  -- Tables that dotted keys opened; they are closed at the next header.
  pending : List Key := []
  header : Key := []

def Draft.settle (d : Draft) : Draft :=
  { d with marks := d.pending.map (⟨·, .declared, false⟩) ++ d.marks, pending := [] }

def tableHeader (d : Draft) : Reader Draft := do
  skip 1
  skipSpace
  let k ← key
  if isFlagged d.marks k .declared || isFlagged d.marks k .frozen then fail (.declaredTwice k)
  else
    match within true some k d.entries with
    | none => fail .overwritten
    | some es =>
      if !(← ahead [']']) then fail .tableEnd
      else
        skip 1
        return { d with entries := es, marks := ⟨k, .declared, false⟩ :: d.marks, header := k }

def appendTable (stem : String) (nest : Entries) : Option Entries :=
  match Value.get? nest stem with
  | none => some (Value.put (.text stem) (.list [.mapping []]) nest)
  | some (.list items) => some (Value.put (.text stem) (.list (items ++ [.mapping []])) nest)
  | some _ => none

def arrayHeader (d : Draft) : Reader Draft := do
  skip 2
  skipSpace
  let k ← key
  if isFlagged d.marks k .frozen then fail (.immutable k)
  else
    let marks := d.marks.filter fun m => !k.isPrefixOf m.key
    match within true (appendTable (k.getLastD "")) k.dropLast d.entries with
    | none => fail .overwritten
    | some es =>
      if !(← ahead [']', ']']) then fail .arrayTableEnd
      else
        skip 2
        return { d with entries := es, marks := ⟨k, .declared, false⟩ :: marks, header := k }

def opened (header key : Key) : List Key :=
  ((List.range key.length).drop 1).map fun n => header ++ key.take n

def statementPair (d : Draft) : Reader Draft := do
  let (k, v) ← pair (2 * (← get).length + 2)
  let tables := opened d.header k
  match tables.find? fun t => isFlagged d.marks t .declared with
  | some t => fail (.redefined t)
  | none =>
    let parent := d.header ++ k.dropLast
    if isFlagged d.marks parent .frozen then fail (.immutable parent)
    else
      let stem := k.getLastD ""
      let add (nest : Entries) : Option Entries :=
        if (Value.get? nest stem).isSome then none else some (Value.put (.text stem) v nest)
      match within true add parent d.entries with
      | none => fail .overwritten
      | some es =>
        let marks := if isContainer v then ⟨d.header ++ k, .frozen, true⟩ :: d.marks else d.marks
        return { d with entries := es, marks := marks, pending := d.pending ++ tables }

def statement (c : Char) (d : Draft) : Reader Draft := do
  if isBareKey c || c == '"' || c == '\'' then
    let d ← statementPair d
    skipSpace
    return d
  else if c == '[' then
    let d := d.settle
    let d ← if ← ahead ['[', '['] then arrayHeader d else tableHeader d
    skipSpace
    return d
  else if c == '#' then return d
  else fail .statement

def statements : Nat → Draft → Reader Draft
  | 0, d => return d
  | n + 1, d => do
    skipSpace
    match ← next? with
    | none => return d
    | some '\n' => skip 1; statements n d
    | some c =>
      let d ← statement c d
      skipComment
      match ← next? with
      | none => return d
      | some '\n' => skip 1; statements n d
      | some _ => fail .lineEnd

def plainLines : List Char → List Char
  | [] => []
  | '\r' :: '\n' :: rest => '\n' :: plainLines rest
  | c :: rest => c :: plainLines rest

def parse (text : String) : Except Fault Entries := do
  let cs := plainLines text.toList
  let (d, _) ← statements (cs.length + 1) {} cs
  return d.entries

def keyText (key : Key) : String := (Value.tuple (key.map .text)).quoted

def Cause.message : Cause → String
  | .statement => "Invalid statement"
  | .lineEnd => "Expected newline or end of document after a statement"
  | .tableEnd => "Expected ']' at the end of a table declaration"
  | .arrayTableEnd => "Expected ']]' at the end of an array declaration"
  | .declaredTwice k => "Cannot declare " ++ keyText k ++ " twice"
  | .immutable k => "Cannot mutate immutable namespace " ++ keyText k
  | .redefined k => "Cannot redefine namespace " ++ keyText k
  | .overwritten => "Cannot overwrite a value"
  | .equalsSign => "Expected '=' after a key in a key/value pair"
  | .keyStart => "Invalid initial character for a key part"
  | .openArray => "Unclosed array"
  | .openTable => "Unclosed inline table"
  | .duplicate name => "Duplicate inline table key " ++ Text.quote name
  | .backslash => "Unescaped '\\' in a string"
  | .hexValue => "Invalid hex value"
  | .codePoint => "Escaped character is not a Unicode scalar value"
  | .openString => "Unterminated string"
  | .illegal c => "Illegal character " ++ Text.quote (String.ofList [c])
  | .invalidCharacter c => "Found invalid character " ++ Text.quote (String.ofList [c])
  | .expected mark => "Expected " ++ mark
  | .date => "Invalid date or datetime"
  | .value => "Invalid value"
  | .longInteger n =>
    "Exceeds the limit (4300 digits) for integer string conversion: value has " ++ toString n ++
      " digits; use sys.set_int_max_str_digits() to increase the limit"

def place (cs : List Char) (left : Nat) : String :=
  if left == 0 then "end of document"
  else
    let before := cs.take (cs.length - left)
    let line := (before.filter (· == '\n')).length + 1
    let column := (before.reverse.takeWhile (· != '\n')).length + 1
    "line " ++ toString line ++ ", column " ++ toString column

def Fault.message (text : String) (f : Fault) : String :=
  match f.cause with
  | .longInteger n => (Cause.longInteger n).message
  | c => c.message ++ " (at " ++ place (plainLines text.toList) f.left ++ ")"

end Whittle.Toml
