import Whittle.Document.Base64
import Whittle.Document.Value
import Whittle.Document.Yaml.Node
import Whittle.Number.Float
import Whittle.Text.LowerCase
import Whittle.Text.Line

namespace Whittle.Yaml

def dropUnderscores (cs : List Char) : List Char := cs.filter (· != '_')

def lowerText (cs : List Char) : List Char := (Text.lower (String.ofList cs)).toList

def boolean (cs : List Char) : Except Fault Value :=
  let word := String.ofList (lowerText cs)
  if ["yes", "true", "on"].contains word then .ok (.bool true)
  else if ["no", "false", "off"].contains word then .ok (.bool false)
  else .error (.noBoolean word)

def baseDigits? (base : Nat) : (fresh : Bool) → List Char → Option (List Nat)
  | fresh, [] => if fresh then none else some []
  | fresh, c :: rest =>
    if c == '_' then if fresh then none else baseDigits? base true rest
    else do
      let d ← if c.isAlpha then some (c.toLower.toNat - 87) else Text.digitValue? c
      if d < base then return d :: (← baseDigits? base false rest) else none

def baseMark (base : Nat) : Char := if base == 2 then 'b' else if base == 8 then 'o' else 'x'

def magnitude? (base : Nat) (cs : List Char) : Option (List Nat) :=
  match cs with
  | '0' :: m :: rest =>
    if base != 10 && m.toLower == baseMark base then
      match rest with
      | '_' :: rest => baseDigits? base true rest
      | rest => baseDigits? base true rest
    else baseDigits? base true cs
  | cs => baseDigits? base true cs

def integerIn (base : Nat) (cs : List Char) : Except Fault Int :=
  let body := Text.trimBy Integer.isPadding cs
  let (negative, body) := match body with
    | '-' :: rest => (true, rest)
    | '+' :: rest => (false, rest)
    | body => (false, body)
  match magnitude? base body with
  | none => .error (.noInteger base (String.ofList cs))
  | some ds =>
    if base == 10 && Integer.maxDigits < ds.length then .error (.longInteger ds.length)
    else
      let n : Int := Integer.ofDigits base ds
      .ok (if negative then -n else n)

def signed (cs : List Char) : Except Fault (Bool × List Char) :=
  match cs with
  | [] => .error .emptyNumber
  | '-' :: rest => .ok (true, rest)
  | '+' :: rest => .ok (false, rest)
  | cs => .ok (false, cs)

def integer (cs : List Char) : Except Fault Value := do
  let (negative, body) ← signed (dropUnderscores cs)
  let n ← match body with
    | [] => throw .emptyNumber
    | ['0'] => pure 0
    | '0' :: 'b' :: rest => integerIn 2 rest
    | '0' :: 'x' :: rest => integerIn 16 rest
    | '0' :: _ => integerIn 8 body
    | _ =>
      if body.contains ':' then do
        let parts ← (Text.splitAt ':' body).mapM (integerIn 10)
        pure (parts.foldl (fun n p => n * 60 + p) 0)
      else integerIn 10 body
  return .int (if negative then -n else n)

def floatPart (cs : List Char) : Except Fault Binary64 :=
  match Binary64.read? cs with
  | some x => .ok x
  | none => .error (.noFloat (String.ofList cs))

-- A sum of parts, the first one of the given weight and each one after it of sixty times the weight. A weight is
-- rounded to a double before it counts.
def sumParts : (weight : Nat) → (total : Binary64) → List Binary64 → Except Fault Binary64
  | _, total, [] => .ok total
  | weight, total, x :: rest =>
    match Binary64.ofInt weight with
    | .infinite _ => .error .hugeWeight
    | w => sumParts (weight * 60) (total.add (x.mul w)) rest

def float (cs : List Char) : Except Fault Value := do
  let (negative, body) ← signed (lowerText (dropUnderscores cs))
  let x ←
    if body == ['.', 'i', 'n', 'f'] then pure (.infinite false)
    else if body == ['.', 'n', 'a', 'n'] then return .float .nan
    else if body.contains ':' then do
      let parts ← (Text.splitAt ':' body).mapM floatPart
      sumParts 1 (.finite false 0 0) parts.reverse
    else floatPart body
  return .float (if negative then x.negate else x)

def numberOf (cs : List Char) : Nat := Integer.ofDigits 10 (cs.map fun c => c.toNat - 48)

def micros (ds : List Char) : Nat := numberOf ((ds ++ List.replicate 6 '0').take 6)

def momentOf (m : Form.MomentText) : Except MomentError Moment :=
  match m.clock with
  | none => do return .date (← Date.of (numberOf m.year) (numberOf m.month) (numberOf m.day))
  | some (hour, minute, second, fraction) => do
    let zone ← match m.zone with
      | none => pure none
      | some none => pure (some 0)
      | some (some (sign, h, min)) =>
        let distance : Int := numberOf h * 3600 + numberOf min * 60
        some <$> Zone.of (if sign == '-' then -distance else distance)
    let d ← Date.of (numberOf m.year) (numberOf m.month) (numberOf m.day)
    let t ← Clock.of (numberOf hour) (numberOf minute) (numberOf second) (micros fraction)
    return .dateTime d t zone

def timestamp (cs : List Char) : Except Fault Value :=
  match Form.moment? (Form.chopped cs) with
  | none => .error .noMoment
  | some m =>
    match momentOf m with
    | .ok m => .ok (.moment m)
    | .error e => .error (.moment e)

def binary (cs : List Char) : Except Fault Value :=
  if cs.all fun c => c.toNat < 128 then
    match Base64.decode? cs with
    | some bs => .ok (.bytes bs)
    | none => .error .malformed
  else .error .malformed

abbrev Surroundings := List (String × Node)

structure Built where
  value : Value
  fault : Option (Nat × Fault) := none

-- Of several faults the one in the outermost collection counts, and of those the first.
def outermost (a b : Option (Nat × Fault)) : Option (Nat × Fault) :=
  match a, b with
  | some (m, f), some (n, g) => if n < m then some (n, g) else some (m, f)
  | some a, none => some a
  | none, b => b

def Built.bad (depth : Nat) (f : Fault) : Built := ⟨.null, some (depth, f)⟩

def Built.of (depth : Nat) : Except Fault Value → Built
  | .ok v => ⟨v, none⟩
  | .error f => .bad depth f

namespace Node

def tag : Node → Tag
  | .scalar t _ | .sequence t _ _ | .mapping t _ _ => t
  | .back _ => .other

def text? : Nat → Node → Option (List Char)
  | 0, _ => none
  | fuel + 1, n =>
    match n with
    | .scalar _ text => some text
    | .mapping _ _ entries => (entries.find? fun (k, _) => k.tag == .value).bind fun (_, v) => text? fuel v
    | _ => none

mutual

-- The entries of a mapping with those of the mappings that it merges in front.
def flattened : Nat → List (Node × Node) → Except Fault (List (Node × Node))
  | 0, entries => .ok entries
  | fuel + 1, entries => do
    let merged ← mergedAll fuel (entries.filterMap fun (k, v) => if k.tag == .merge then some v else none)
    let own := (entries.filter fun (k, _) => k.tag != .merge).map fun (k, v) =>
      match k with
      | .scalar .value text => (Node.scalar .str text, v)
      | k => (k, v)
    return merged ++ own

def mergedAll : Nat → List Node → Except Fault (List (Node × Node))
  | 0, _ => .ok []
  | _, [] => .ok []
  | fuel + 1, n :: rest => do
    let here ← match n with
      | .mapping _ _ entries => flattened fuel entries
      | .sequence _ _ items => do
        let each ← mergedItems fuel items
        pure each.reverse.flatten
      | .back _ => pure []
      | .scalar _ _ => throw .malformed
    return here ++ (← mergedAll fuel rest)

def mergedItems : Nat → List Node → Except Fault (List (List (Node × Node)))
  | 0, _ => .ok []
  | _, [] => .ok []
  | fuel + 1, n :: rest => do
    let here ← match n with
      | .mapping _ _ entries => flattened fuel entries
      | .back _ => pure []
      | _ => throw .malformed
    return here :: (← mergedItems fuel rest)

end

def inside (around : Surroundings) (anchor : Option String) (n : Node) : Surroundings :=
  match anchor with
  | some a => (a, n) :: around
  | none => around

mutual

-- Builds a node. `depth` is the number of collections around it, `turns` how often a node may still be unrolled.
def build : (fuel turns depth : Nat) → Surroundings → Node → Built
  | 0, _, _, _, _ => ⟨.null, none⟩
  | fuel + 1, turns, depth, around, n =>
    match n with
    | .back name =>
      match turns, around.lookup name with
      | turns + 1, some n => build fuel turns depth around n
      | _, _ => ⟨.list [], none⟩
    | n =>
      let scalar (f : List Char → Except Fault Value) : Built :=
        match n.text? (fuel + 1) with
        | some text => .of depth (f text)
        | none => .bad depth .malformed
      match n.tag with
      | .null => scalar fun _ => .ok .null
      | .bool => scalar boolean
      | .int => scalar integer
      | .float => scalar float
      | .binary => scalar binary
      | .timestamp => scalar timestamp
      | .str => scalar fun text => .ok (.text (String.ofList text))
      | .seq =>
        match n with
        | .sequence _ anchor items =>
          let (vs, f) := buildItems fuel turns (depth + 1) (inside around anchor n) items
          ⟨.list vs, f⟩
        | _ => .bad (depth + 1) .malformed
      | .omap | .pairs =>
        match n with
        | .sequence _ anchor items =>
          let (vs, f) := buildPairs fuel turns (depth + 1) (inside around anchor n) items
          ⟨.list vs, f⟩
        | _ => .bad (depth + 1) .malformed
      | .map =>
        let (es, f) := buildMapping fuel turns (depth + 1) around n
        ⟨.mapping es, f⟩
      | .set =>
        let (es, f) := buildMapping fuel turns (depth + 1) around n
        ⟨.set (es.map (·.1)), f⟩
      | .merge | .value | .other => .bad depth .malformed

def buildItems : (fuel turns depth : Nat) → Surroundings → List Node → List Value × Option (Nat × Fault)
  | 0, _, _, _, _ => ([], none)
  | _, _, _, _, [] => ([], none)
  | fuel + 1, turns, depth, around, n :: rest =>
    let b := build fuel turns depth around n
    let (vs, f) := buildItems fuel turns depth around rest
    (b.value :: vs, outermost b.fault f)

def buildPairs : (fuel turns depth : Nat) → Surroundings → List Node → List Value × Option (Nat × Fault)
  | 0, _, _, _, _ => ([], none)
  | _, _, _, _, [] => ([], none)
  | fuel + 1, turns, depth, around, n :: rest =>
    match n with
    | .mapping _ _ [(k, v)] =>
      let kb := build fuel turns depth around k
      let vb := build fuel turns depth around v
      let (vs, f) := buildPairs fuel turns depth around rest
      (.tuple [kb.value, vb.value] :: vs, outermost (outermost kb.fault vb.fault) f)
    | _ => ([], some (depth, .malformed))

def buildMapping : (fuel turns depth : Nat) → Surroundings → Node → List (Value × Value) × Option (Nat × Fault)
  | 0, _, _, _, _ => ([], none)
  | fuel + 1, turns, depth, around, n =>
    match n with
    | .mapping _ anchor entries =>
      match flattened (fuel + 1) entries with
      | .error f => ([], some (depth, f))
      | .ok es => buildEntries fuel turns depth (inside around anchor n) es []
    | _ => ([], some (depth, .malformed))

def buildEntries : (fuel turns depth : Nat) → Surroundings → List (Node × Node) → List (Value × Value) →
    List (Value × Value) × Option (Nat × Fault)
  | 0, _, _, _, _, done => (done, none)
  | _, _, _, _, [], done => (done, none)
  | fuel + 1, turns, depth, around, (k, v) :: rest, done =>
    let kb := build fuel turns depth around k
    let keyFault := if kb.fault.isNone && !kb.value.isKey then some (depth, .malformed) else kb.fault
    let vb := build fuel turns depth around v
    let (es, f) := buildEntries fuel turns depth around rest (Value.put kb.value vb.value done)
    (es, outermost (outermost keyFault vb.fault) f)

end

end Node

-- A node that points back to one around it is unrolled a few times.
def turns : Nat := 4

def parse (s : Stream) : Except Fault Value := do
  match ← Node.parse? s with
  | none => return .null
  | some n =>
    match Node.build ((turns + 2) * (4 * s.chars.length + 8)) turns 0 [] n with
    | ⟨v, none⟩ => return v
    | ⟨_, some (_, f)⟩ => throw f

def Fault.message : Fault → String
  | .malformed | .unclosed => "the text is no document"
  | .undecodable e => e.message
  | .surrogate => "the text is no text of characters"
  | .codePoint huge =>
    if huge then "Python int too large to convert to C int" else "chr() arg not in range(0x110000)"
  | .noBoolean word => Text.quote word
  | .emptyNumber => "string index out of range"
  | .noInteger base text => "invalid literal for int() with base " ++ toString base ++ ": " ++ Text.quote text
  | .longInteger n =>
    "Exceeds the limit (4300 digits) for integer string conversion: value has " ++ toString n ++
      " digits; use sys.set_int_max_str_digits() to increase the limit"
  | .noFloat text => "could not convert string to float: " ++ Text.quote text
  | .hugeWeight => "int too large to convert to float"
  | .noMoment => "'NoneType' object has no attribute 'groupdict'"
  | .moment e => e.message

end Whittle.Yaml
