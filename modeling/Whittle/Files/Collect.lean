import Whittle.Files.Glob
import Whittle.Files.Workspace

namespace Whittle.Files

-- What is looked for: patterns of files to take, all if there is none, and of files and folders to leave out.
structure Selection where
  wanted : List String
  unwanted : List String

def relText (parts : List String) : String := Text.join "/" parts

namespace Selection

def enters (s : Selection) (parts : List String) : Bool :=
  !Glob.isMatchAny s.unwanted (relText parts ++ "/") && !Glob.isMatchAny s.unwanted (relText parts)

def takes (s : Selection) (parts : List String) : Bool :=
  ((parts.getLast?.map fun n => ['y', 'p', '.'].isPrefixOf n.toList.reverse).getD false) &&
    !Glob.isMatchAny s.unwanted (relText parts) &&
    (s.wanted.isEmpty || Glob.isMatchAny s.wanted (relText parts))

end Selection

def byName {α : Type} (a b : String × α) : Bool := !(b.1 < a.1)

mutual

def listEntry (s : Selection) (above : List String) : Entry → List (List String)
  | .file _ => []
  | .folder entries =>
    let names := (entries.filter fun (_, e) => e.isFile).mergeSort byName
    let here := (names.map fun (n, _) => above ++ [n]).filter s.takes
    here ++ ((listFolders s above entries).mergeSort byName).flatMap (·.2)

def listFolders (s : Selection) (above : List String) : List (String × Entry) → List (String × List (List String))
  | [] => []
  | (_, .file _) :: rest => listFolders s above rest
  | (name, .folder entries) :: rest =>
    if s.enters (above ++ [name]) then
      (name, listEntry s (above ++ [name]) (.folder entries)) :: listFolders s above rest
    else listFolders s above rest

end

def listRoot (w : Workspace) (s : Selection) (root : Path) : List Path :=
  match w.entry? root with
  | none => []
  | some (.file _) => if root.suffix == ".py" then [root] else []
  | some folder => (listEntry s [] folder).map fun parts => { root with parts := root.parts ++ parts }

def firstOfPlace (w : Workspace) : (seen : List (List String)) → List Path → List Path
  | _, [] => []
  | seen, p :: rest =>
    let place := w.resolve p
    if seen.contains place then firstOfPlace w seen rest else p :: firstOfPlace w (place :: seen) rest

def collect (w : Workspace) (s : Selection) (roots : List String) : List Path :=
  firstOfPlace w [] (roots.flatMap fun r => listRoot w s (.of r))

end Whittle.Files
