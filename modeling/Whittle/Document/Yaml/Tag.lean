import Whittle.Document.Yaml.Cursor

namespace Whittle.Yaml

inductive Tag where
  | null | bool | int | float | binary | timestamp
  | omap | pairs | set
  | str | seq | map
  | merge | value
  | other
  deriving DecidableEq, Repr

def Tag.stem : String := "tag:yaml.org,2002:"

def Tag.ofName (name : String) : Tag :=
  match [("null", Tag.null), ("bool", .bool), ("int", .int), ("float", .float), ("binary", .binary),
      ("timestamp", .timestamp), ("omap", .omap), ("pairs", .pairs), ("set", .set), ("str", .str), ("seq", .seq),
      ("map", .map), ("merge", .merge), ("value", .value)].find? fun (n, _) => name == stem ++ n with
  | some (_, t) => t
  | none => .other

namespace Form

def chopped (cs : List Char) : List Char :=
  match cs.getLast? with
  | some '\n' => cs.dropLast
  | _ => cs

def unsigned (cs : List Char) : List Char :=
  match cs with
  | '+' :: rest | '-' :: rest => rest
  | _ => cs

def isDigitOrLine (c : Char) : Bool := c.isDigit || c == '_'

def isDigits (cs : List Char) : Bool :=
  match cs with
  | [] => false
  | c :: rest => c.isDigit && rest.all isDigitOrLine

def someAll (p : Char → Bool) (cs : List Char) : Bool := !cs.isEmpty && cs.all p

def isSixtieth : List Char → Bool
  | [d] => d.isDigit
  | [t, d] => '0' ≤ t && t ≤ '5' && d.isDigit
  | _ => false

def isSexagesimal (cs : List Char) : Bool :=
  match Text.splitAt ':' cs with
  | first :: second :: rest => isDigits first && (second :: rest).all isSixtieth
  | _ => false

def isBool (cs : List Char) : Bool :=
  ["yes", "Yes", "YES", "no", "No", "NO", "true", "True", "TRUE", "false", "False", "FALSE", "on", "On", "ON",
    "off", "Off", "OFF"].contains (String.ofList cs)

def isPower : List Char → Bool
  | [] => true
  | e :: s :: ds => (e == 'e' || e == 'E') && (s == '+' || s == '-') && someAll Char.isDigit ds
  | _ => false

def isFraction (cs : List Char) : Bool := isPower (cs.dropWhile isDigitOrLine)

def isFloat (cs : List Char) : Bool :=
  let body := unsigned cs
  let whole := body.takeWhile (· != '.')
  let after := body.drop (whole.length + 1)
  let hasPoint := body.contains '.'
  let name := String.ofList cs
  (hasPoint && isDigits whole && isFraction after) ||
    (cs.head? == some '.' && (cs.drop 1).head?.any Char.isDigit && isFraction (cs.drop 1)) ||
    (hasPoint && isSexagesimal whole && after.all isDigitOrLine) ||
    [".inf", ".Inf", ".INF"].contains (String.ofList body) ||
    [".nan", ".NaN", ".NAN"].contains name

def isInt (cs : List Char) : Bool :=
  match unsigned cs with
  | ['0'] => true
  | '0' :: 'b' :: ds => someAll (fun c => c == '0' || c == '1' || c == '_') ds
  | '0' :: 'x' :: ds => someAll (fun c => isHexDigit c || c == '_') ds
  | '0' :: ds => someAll (fun c => ('0' ≤ c && c ≤ '7') || c == '_') ds
  | body => isDigits body || isSexagesimal body

def isNull (cs : List Char) : Bool := ["~", "null", "Null", "NULL", ""].contains (String.ofList cs)

structure MomentText where
  year : List Char
  month : List Char
  day : List Char
  clock : Option (List Char × List Char × List Char × List Char) := none
  zone : Option (Option (Char × List Char × List Char)) := none

def digits? (least most : Nat) (cs : List Char) : Option (List Char × List Char) :=
  let ds := (cs.take most).takeWhile Char.isDigit
  if least ≤ ds.length then some (ds, cs.drop ds.length) else none

def mark? (c : Char) : List Char → Option (List Char)
  | d :: rest => if c == d then some rest else none
  | [] => none

def zone? (cs : List Char) : Option (Option (Option (Char × List Char × List Char))) :=
  match cs with
  | [] => some none
  | cs =>
    match cs.dropWhile isSpaceOrTab with
    | ['Z'] => some (some none)
    | s :: rest =>
      if s == '+' || s == '-' then do
        let (hour, rest) ← digits? 1 2 rest
        match rest with
        | [] => some (some (some (s, hour, [])))
        | ':' :: rest =>
          let (minute, rest) ← digits? 2 2 rest
          if rest.isEmpty then some (some (some (s, hour, minute))) else none
        | _ => none
      else none
    | [] => none

def clock? (m : MomentText) (cs : List Char) : Option MomentText := do
  let rest ← match cs with
    | 'T' :: rest | 't' :: rest => some rest
    | c :: rest => if isSpaceOrTab c then some (rest.dropWhile isSpaceOrTab) else none
    | [] => none
  let (hour, rest) ← digits? 1 2 rest
  let (minute, rest) ← digits? 2 2 (← mark? ':' rest)
  let (second, rest) ← digits? 2 2 (← mark? ':' rest)
  let (fraction, rest) := match rest with
    | '.' :: rest => rest.span Char.isDigit
    | rest => ([], rest)
  return { m with clock := some (hour, minute, second, fraction), zone := ← zone? rest }

def moment? (cs : List Char) : Option MomentText := do
  let (year, rest) ← digits? 4 4 cs
  let (month, rest) ← digits? 1 2 (← mark? '-' rest)
  let (day, rest) ← digits? 1 2 (← mark? '-' rest)
  let m : MomentText := { year := year, month := month, day := day }
  if rest.isEmpty then return m else clock? m rest

-- A date alone needs two digits each for month and day.
def isMoment (cs : List Char) : Bool :=
  match moment? cs with
  | some m => m.clock.isSome || (m.month.length == 2 && m.day.length == 2)
  | none => false

end Form

def Tag.ofForm (text : List Char) : Tag :=
  let cs := Form.chopped text
  if Form.isBool cs then .bool
  else if Form.isFloat cs then .float
  else if Form.isInt cs then .int
  else if cs == ['<', '<'] then .merge
  else if Form.isNull cs then .null
  else if Form.isMoment cs then .timestamp
  else if cs == ['='] then .value
  else if cs == ['!'] || cs == ['&'] || cs == ['*'] then .other
  else .str

end Whittle.Yaml
