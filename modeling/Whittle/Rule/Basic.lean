import Whittle.Rule.ExtraArguments
import Whittle.Rule.VersionGuard

namespace Whittle

inductive Rule where
  | versionGuard (g : VersionGuard)
  | extraArguments

namespace Rule

def outline : Rule → RuleOutline
  | .versionGuard _ => VersionGuard.outline
  | .extraArguments => ExtraArguments.outline

def name (r : Rule) : String := r.outline.name

def all : List Rule := [.versionGuard {}, .extraArguments]

def names : List String := all.map name

def ofName? (name : String) : Option Rule := all.find? fun r => r.name == name

def configure (options : List (Value × Value)) (r : Rule) (a : Ambient) : Option Failure × Rule × Ambient :=
  match r with
  | .versionGuard g =>
    let (e, g, a) := g.configure options a
    (e, .versionGuard g, a)
  | .extraArguments => (none, .extraArguments, a)

def configureAll (a : Ambient) : List (Rule × List (Value × Value)) → Except Failure (List Rule)
  | [] => .ok []
  | (r, options) :: rest =>
    match r.configure options a with
    | (some e, _, _) => .error e
    | (none, r, a) => do return r :: (← configureAll a rest)

def create (a : Ambient) (wanted : List (String × List (Value × Value))) : Except Failure (List Rule) :=
  let unknown := (wanted.map (·.1)).filter fun n => !names.contains n
  if unknown.isEmpty then
    configureAll a (wanted.filterMap fun (n, options) => (ofName? n).map (·, options))
  else .error (.unknownRules (unknown.mergeSort fun x y => !(y < x)) names)

end Rule

end Whittle
