import Whittle.Text.Blank
import Whittle.Text.Digit
import Whittle.Text.Quoted

namespace Whittle.CommandLine

structure Switch where
  names : List String
  takesValue : Bool := false
  deriving DecidableEq, Repr

structure Syntax where
  program : String
  usage : String
  details : String
  switches : List Switch

def help : Switch := { names := ["-h", "--help"] }

inductive Stop where
  | help (s : Syntax)
  | error (s : Syntax) (message : String)

inductive Word where
  | argument
  | dashes
  | switch (s : Switch) (name : String) (value : Option String)
  | unknown
  deriving DecidableEq, Repr

def splitValue? (s : String) : Option (String × String) :=
  let cs := s.toList
  let name := cs.takeWhile (· != '=')
  if name.length < cs.length then some (String.ofList name, String.ofList (cs.drop (name.length + 1))) else none

def isNegativeNumber (s : String) : Bool :=
  match s.toList with
  | '-' :: body =>
    let whole := body.takeWhile Text.isDecimal
    match body.drop whole.length with
    | [] => !whole.isEmpty
    | '.' :: fraction => !fraction.isEmpty && fraction.all Text.isDecimal
    | _ => false
  | _ => false

namespace Syntax

def named (x : Syntax) : List (String × Switch) := x.switches.flatMap fun s => s.names.map (·, s)

-- Long options may be cut short as long as only one of them fits.
def meanings (x : Syntax) (word : String) : List (Switch × String × Option String) :=
  let starts (part : String) (name : String) : Bool := part.toList.isPrefixOf name.toList
  if starts "--" word then
    let (part, value) := match splitValue? word with
      | some (part, value) => (part, some value)
      | none => (word, none)
    x.named.filterMap fun (name, s) => if starts part name then some (s, name, value) else none
  else
    let short := String.ofList (word.toList.take 2)
    x.named.filterMap fun (name, s) =>
      if name == short then some (s, name, some (String.ofList (word.toList.drop 2)))
      else if starts word name then some (s, name, none)
      else none

def classify (x : Syntax) (word : String) : Except Stop Word :=
  if word == "--" then .ok .dashes
  else if word.toList.head? != some '-' then .ok .argument
  else
    match x.named.lookup word with
    | some s => .ok (.switch s word none)
    | none =>
      if word == "-" then .ok .argument
      else
        match (splitValue? word).bind fun (name, value) => (x.named.lookup name).map (·, name, value) with
        | some (s, name, value) => .ok (.switch s name (some value))
        | none =>
          match x.meanings word with
          | [(s, name, value)] => .ok (.switch s name value)
          | [] =>
            if isNegativeNumber word || word.toList.contains ' ' then .ok .argument else .ok .unknown
          | many =>
            .error (.error x ("ambiguous option: " ++ word ++ " could match " ++
              Text.join ", " (many.map fun (_, name, _) => name)))

def classifyAll (x : Syntax) : List String → Except Stop (List (String × Word))
  | [] => .ok []
  | w :: rest => do
    match ← x.classify w with
    | .dashes => return (w, .dashes) :: rest.map (·, .argument)
    | k => return (w, k) :: (← x.classifyAll rest)

def complaint (x : Syntax) (s : Switch) (text : String) : Stop :=
  .error x ("argument " ++ Text.join "/" s.names ++ ": " ++ text)

def ignored (x : Syntax) (s : Switch) (value : String) : Stop :=
  x.complaint s ("ignored explicit argument " ++ Text.quote value)

-- Short options that stand in one word, after the first of them; each must be one that takes no value.
def cluster (x : Syntax) (s : Switch) : List Char → Except Stop (List Switch)
  | [] => .ok []
  | c :: rest =>
    match x.named.lookup (String.ofList ['-', c]) with
    | none => .error (x.ignored s (String.ofList (c :: rest)))
    | some t => do return t :: (← x.cluster t rest)

def within (x : Syntax) (s : Switch) (name value : String) : Except Stop (List (Switch × String)) :=
  if s.takesValue then .ok [(s, value)]
  else if "--".toList.isPrefixOf name.toList || value.isEmpty then .error (x.ignored s value)
  else do return (s, "") :: (← x.cluster s value.toList).map (·, "")

end Syntax

structure Given where
  switches : List (Switch × String) := []
  arguments : List String := []
  extra : List String := []

namespace Given

def take (g : Given) (x : Syntax) (taken : List (Switch × String)) : Except Stop Given :=
  if taken.any fun (s, _) => s == help then .error (.help x)
  else .ok { g with switches := g.switches ++ taken }

def value? (g : Given) (s : Switch) : Option String := (g.switches.reverse.find? (·.1 == s)).map (·.2)

def has (g : Given) (s : Switch) : Bool := g.switches.any (·.1 == s)

end Given

def Word.isSwitch : Word → Bool
  | .switch .. | .unknown => true
  | _ => false

def withoutDashes (words : List String) : List String := words.erase "--"

namespace Syntax

-- Reads the words of a command that takes arguments in one place, if at all: `room` while they may still come.
def readWords (x : Syntax) : Nat → (room : Bool) → List (String × Word) → Given → Except Stop Given
  | 0, _, _, g => .ok g
  | fuel + 1, room, words, g =>
    match words with
    | [] => .ok g
    | (w, .unknown) :: rest => x.readWords fuel room rest { g with extra := g.extra ++ [w] }
    | (_, .switch s name (some value)) :: rest => do
      x.readWords fuel room rest (← g.take x (← x.within s name value))
    | (_, .switch s _ none) :: rest =>
      if s.takesValue then
        match rest with
        | (value, .argument) :: rest => do x.readWords fuel room rest (← g.take x [(s, value)])
        | _ => .error (x.complaint s "expected one argument")
      else do x.readWords fuel room rest (← g.take x [(s, "")])
    | words =>
      let here := (words.takeWhile fun (_, k) => !k.isSwitch).map (·.1)
      let rest := words.dropWhile fun (_, k) => !k.isSwitch
      if room then x.readWords fuel false rest { g with arguments := withoutDashes here }
      else x.readWords fuel false rest { g with extra := g.extra ++ here }

def read (x : Syntax) (takesArguments : Bool) (words : List String) : Except Stop Given := do
  let classified ← x.classifyAll words
  x.readWords (words.length + 1) takesArguments classified {}

end Syntax

end Whittle.CommandLine
