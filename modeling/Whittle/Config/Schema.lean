import Whittle.Config.Problem
import Whittle.Document.Value
import Whittle.Text.LowerCase
import Whittle.Text.Utf8

namespace Whittle.Config

abbrev Entries := List (Value × Value)

inductive RuleTable where
  | names (ns : List String)
  | options (table : List (String × Entries))

-- What a document declares; a key that is missing or null declares nothing.
structure Declared where
  version : Option String
  paths : Option (List String)
  wanted : Option (List String)
  unwanted : Option (List String)
  output : Option String
  report : Option Bool
  rules : Option RuleTable

namespace Schema

def encoded? (bs : List Nat) : Option String := (Utf8.decode (bs.map UInt8.ofNat)).toOption

def text : Value → Checked String
  | .text s => .ok s
  | .bytes bs => (encoded? bs).elim (.refuse .noEncodedText) .ok
  | _ => .refuse .noText

def items? : Value → Option (List Value)
  | .list xs | .tuple xs | .set xs => some xs
  | _ => none

def eachFrom {α : Type} (form : Value → Checked α) : Nat → List Value → List (Checked α)
  | _, [] => []
  | n, v :: rest => (form v).below (toString n) :: eachFrom form (n + 1) rest

def textList (v : Value) : Checked (List String) :=
  match items? v with
  | some xs => .all (eachFrom text 0 xs)
  | none => .refuse .noList

def falseWords : List String := ["0", "off", "f", "false", "n", "no"]

def trueWords : List String := ["1", "on", "t", "true", "y", "yes"]

def wordBoolean (s : String) : Checked Bool :=
  let w := s.map Char.toLower
  if falseWords.contains w then .ok false
  else if trueWords.contains w then .ok true
  else .refuse .unclearBoolean

def wordBound : Int := 9223372036854775808

def isWord (n : Int) : Bool := -wordBound ≤ n && n < wordBound

-- The boolean that a whole number means; one beyond 64 bits is not even taken for one.
def numberBoolean (n : Int) : Checked Bool :=
  if n == 0 then .ok false
  else if n == 1 then .ok true
  else .refuse (if isWord n then .unclearBoolean else .noBoolean)

def boolean : Value → Checked Bool
  | .bool b => .ok b
  | .text s => wordBoolean s
  | .bytes bs => (encoded? bs).elim (.refuse .unclearBoolean) wordBoolean
  | .int n => numberBoolean n
  | .float x => x.toInt?.elim (.refuse .noBoolean) fun n => if n == -wordBound then .refuse .noBoolean else numberBoolean n
  | _ => .refuse .noBoolean

def integer : Value → Checked Int
  | .int n => .ok n
  | .bool b => .ok (if b then 1 else 0)
  | .float x =>
    match x with
    | .finite .. =>
      match x.toInt? with
      | some n => if isWord n && n != -wordBound then .ok n else .refuse .tooLarge
      | none => .refuse .fraction
    | _ => .refuse .infinite
  | .text _ | .bytes _ => .refuse .unclearInteger
  | _ => .refuse .noInteger

def nullable {α : Type} (form : Value → Checked α) : Value → Checked (Option α)
  | .null => .ok none
  | v => (form v).map some

-- Either of two forms, the first if both fit; the problems of each carry its name.
def either {α : Type} (first second : String × (Value → Checked α)) (v : Value) : Checked α :=
  match first.2 v with
  | .ok a => .ok a
  | .error ps =>
    match second.2 v with
    | .ok a => .ok a
    | .error qs => .error (ps.map (.below first.1) ++ qs.map (.below second.1))

def keyName : Value → String
  | .text s => s
  | .bool b => if b then "1" else "0"
  | v => v.quoted

def enter {α : Type} (name : String) (a : α) : List (String × α) → List (String × α)
  | [] => [(name, a)]
  | (n, b) :: rest => if n == name then (n, a) :: rest else (n, b) :: enter name a rest

def dictionary {α : Type} (form : Value → Checked α) : Value → Checked (List (String × α))
  | .mapping es =>
    (Checked.all (es.map fun (k, v) =>
        (((text k).below "[key]").map Prod.mk |>.app (form v)).below (keyName k))).map
      fun pairs => pairs.foldl (fun acc (name, a) => enter name a acc) []
  | _ => .refuse .noDictionary

def field {α : Type} (es : Entries) (name : String) (form : Value → Checked (Option α)) : Checked (Option α) :=
  match Value.get? es name with
  | some v => (form v).below name
  | none => .ok none

def keyProblem? (es : Entries) (fields : List String) (k : Value) : Option Problem :=
  match text k with
  | .error _ => some ⟨[keyName k], .key⟩
  | .ok name =>
    if fields.contains name && (Value.get? es name).isSome then none else some ⟨[keyName k], .extra⟩

def noMore (es : Entries) (fields : List String) : Checked Unit :=
  match es.filterMap fun (k, _) => keyProblem? es fields k with
  | [] => .ok ()
  | ps => .error ps

def options (v : Value) : Checked Entries :=
  (dictionary (fun v => .ok v) v).map (·.map fun (name, v) => (.text name, v))

def ruleTable : Value → Checked RuleTable :=
  either ("list[str]", fun v => (textList v).map .names)
    ("dict[str,nullable[dict[str,any]]]",
      fun v => (dictionary (nullable options) v).map fun t => .options (t.map fun (n, o) => (n, o.getD [])))

def tableEntries : RuleTable → List (String × Entries)
  | .names ns => ns.foldl (fun acc n => enter n [] acc) []
  | .options table => table

def target : Value → Checked Unit :=
  either ("int", fun v => (integer v).map fun _ => ()) ("str", fun v => (text v).map fun _ => ())

abbrev OptionForms := List (String × (Value → Checked (Option Unit)))

-- The rules that may stand in a document, with the options that each may have.
def optionForms : List (String × OptionForms) :=
  [("remove_version_id_check",
      [("target_version", nullable target), ("constant_name", nullable fun v => (text v).map fun _ => ())]),
    ("remove_extra_arguments", [])]

def checkOptions (forms : OptionForms) (es : Entries) : Checked Unit :=
  ((Checked.all (forms.map fun (name, form) => field es name form)).map fun _ _ => ()).app
    (noMore es (forms.map Prod.fst))

def ruleProblems (name : String) (es : Entries) : List Problem :=
  match optionForms.lookup name with
  | none => [⟨["rules", name], .unknownRule⟩]
  | some forms => (checkOptions forms es).problems.map (.within ["rules", name])

def fields : List String := ["version", "paths", "include", "exclude", "output", "report", "rules"]

-- The form of a document, without regard to which rules there are.
def document : Value → Checked Declared
  | .mapping es =>
    let lists (name : String) := field es name fun v => (textList v).map some
    let declared : Checked (Unit → Declared) :=
      ((((((((field es "version" (nullable text)).map fun a b c d e f g (_ : Unit) => Declared.mk a b c d e f g).app
        (lists "paths")).app (lists "include")).app (lists "exclude")).app
        (field es "output" (nullable text))).app (field es "report" (nullable boolean))).app
        (field es "rules" (nullable ruleTable)))
    declared.app (noMore es fields)
  | _ => .refuse .noDocument

def declaredRules (d : Declared) : List (String × Entries) :=
  (d.rules.map tableEntries).getD []

-- What a document declares. Rules are looked at once the form is right.
def validate (v : Value) : Checked Declared := do
  let d ← document v
  match (declaredRules d).flatMap fun (name, es) => ruleProblems name es with
  | [] => return d
  | ps => throw ps

end Schema

end Whittle.Config
