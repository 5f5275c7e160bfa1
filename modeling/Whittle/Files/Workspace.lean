import Whittle.Files.Path
import Whittle.Text.Utf8

namespace Whittle

inductive Entry where
  | file (content : Bytes)
  | folder (entries : List (String × Entry))

instance : Inhabited Entry := ⟨.folder []⟩

namespace Entry

def isFile : Entry → Bool
  | .file _ => true
  | .folder _ => false

def isFolder (e : Entry) : Bool := !e.isFile

def entries : Entry → List (String × Entry)
  | .file _ => []
  | .folder es => es

def find? (e : Entry) : List String → Option Entry
  | [] => some e
  | name :: rest => (e.entries.lookup name).bind (find? · rest)

def set (name : String) (e : Entry) : List (String × Entry) → List (String × Entry)
  | [] => [(name, e)]
  | (n, old) :: rest => if n == name then (n, e) :: rest else (n, old) :: set name e rest

def put (new : Entry) : List String → Entry → Entry
  | [], _ => new
  | name :: rest, e =>
    .folder (set name (put new rest ((e.entries.lookup name).getD (.folder []))) e.entries)

def makeFolder (place : List String) (e : Entry) : Entry :=
  if (e.find? place).isSome then e else put (.folder []) place e

mutual

def files (e : Entry) : List (List String × Bytes) :=
  match e with
  | .file content => [([], content)]
  | .folder entries => filesOf entries

def filesOf : List (String × Entry) → List (List String × Bytes)
  | [] => []
  | (name, e) :: rest => e.files.map (fun (place, content) => (name :: place, content)) ++ filesOf rest

end

end Entry

structure Workspace where
  root : Entry
  cwd : List String

namespace Workspace

def start (w : Workspace) (p : Path) : List String := if p.slashes == 0 then w.cwd else []

def step (w : Workspace) (place : List String) (part : String) : Option (List String) :=
  match w.root.find? place with
  | some (.folder entries) =>
    if part == ".." then some place.dropLast
    else if (entries.lookup part).isSome then some (place ++ [part])
    else none
  | _ => none

def locate? (w : Workspace) (p : Path) : Option (List String) := p.parts.foldlM w.step (w.start p)

def entry? (w : Workspace) (p : Path) : Option Entry := (w.locate? p).bind w.root.find?

-- The place that a path names, whether there is something or not.
def resolve (w : Workspace) (p : Path) : List String :=
  p.parts.foldl (fun place part => if part == ".." then place.dropLast else place ++ [part]) (w.start p)

def exists? (w : Workspace) (p : Path) : Bool := (w.entry? p).isSome

def isFile (w : Workspace) (p : Path) : Bool := ((w.entry? p).map Entry.isFile).getD false

def read? (w : Workspace) (p : Path) : Option Bytes :=
  match w.entry? p with
  | some (.file content) => some content
  | _ => none

def writeAt (w : Workspace) (place : List String) (text : String) : Workspace :=
  { w with root := .put (.file (Utf8.encode text)) place w.root }

inductive Obstacle where
  | occupied
  | throughFile
  | isFolder
  -- a part of the path holds a NUL
  | nul
  deriving DecidableEq, Repr

def makeFoldersFrom (w : Workspace) (place : List String) : List String → Except Obstacle (Workspace × List String)
  | [] => .ok (w, place)
  | part :: rest =>
    let next := if part == ".." then place.dropLast else place ++ [part]
    match w.root.find? next with
    | some (.folder _) => makeFoldersFrom w next rest
    | some (.file _) => .error (if rest.isEmpty then .occupied else .throughFile)
    | none => makeFoldersFrom { w with root := w.root.makeFolder next } next rest

-- Makes a folder with all folders on the way. A NUL anywhere is found before the first folder is made.
def makeFolders (w : Workspace) (p : Path) : Except Obstacle Workspace := do
  if p.hasNul then throw .nul
  return (← w.makeFoldersFrom (w.start p) p.parts).1

def write (w : Workspace) (p : Path) (text : String) : Except Obstacle Workspace :=
  match w.entry? p with
  | some (.folder _) => .error .isFolder
  | _ => .ok (w.writeAt (w.resolve p) text)

def changedSince (new old : Workspace) (folder : List String) : List (List String × Bytes) :=
  let below (w : Workspace) := ((w.root.find? folder).map Entry.files).getD []
  let before := below old
  (below new).filter fun (place, content) => before.lookup place != some content

def shown (w : Workspace) (p base : Path) : String :=
  let place := w.resolve p
  let from_ := w.resolve base
  if !p.hasNul && !base.hasNul && from_.isPrefixOf place then (Path.mk 0 (place.drop from_.length)).text else p.text

end Workspace

end Whittle
