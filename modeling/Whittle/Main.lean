import Whittle.CommandLine.Run

open Whittle

namespace Whittle.Program

def placeText (place : List String) : String := "/" ++ Text.join "/" place

-- Takes in a file or a folder with all that it holds; folders behind links are left out, except the first one.
partial def takeIn (path : String) (mayLink : Bool) : IO (Option Entry) := do
  try
    let here ← IO.FS.realPath path
    if ← here.isDir then
      if !mayLink && here.toString != path then return none
      let found ← here.readDir
      let entries ← found.toList.filterMapM fun e => do
        return (← takeIn e.path.toString false).map (e.fileName, ·)
      return some (.folder entries)
    else if ← here.pathExists then return some (.file (← IO.FS.readBinFile here).toList)
    else return none
  catch _ => return none

structure Gathered where
  files : Workspace
  places : List (List String) := []

namespace Gathered

def addPlace (g : Gathered) (place : List String) : IO Gathered := do
  if g.places.any (·.isPrefixOf place) then return g
  match ← takeIn (placeText place) true with
  | none => return g
  | some e => return ⟨{ g.files with root := .put e place g.files.root }, place :: g.places⟩

def addPath (g : Gathered) (path : String) : IO Gathered := do
  let place := g.files.resolve (.of path)
  (Manifest.upwards place).foldlM (fun g folder => g.addPlace (folder ++ [Manifest.fileName])) (← g.addPlace place)

end Gathered

def workspaceFor (words : List String) : IO Workspace := do
  let cwd := (Path.of (← IO.currentDir).toString).parts
  let g ← Gathered.addPath ⟨⟨.folder [], cwd⟩, []⟩ "."
  match CommandLine.Command.parse words with
  | .error _ => return g.files
  | .ok c =>
    let g ← c.paths.foldlM Gathered.addPath g
    match c with
    | .process o => return (← (CommandLine.settingsPaths g.files o).foldlM Gathered.addPath g).files
    | _ => return g.files

def commit (old new : Workspace) : IO Unit :=
  (new.changedSince old []).forM fun (place, content) => do
    IO.FS.createDirAll (placeText place.dropLast)
    IO.FS.writeBinFile (placeText place) ⟨content.toArray⟩

def code : CommandLine.Ending → UInt32
  | .finished => 0
  | .exit n => UInt32.ofNat n
  | .failed _ | .unsaid => 1

-- Asks the user where a command waits for an answer: the command is run again with the answer.
def runAsking (w : Workspace) (words : List String) : IO CommandLine.Result := do
  let r := CommandLine.run w "" words
  match r.ending with
  | .failed .endOfInput =>
    IO.print r.out
    (← IO.getStdout).flush
    let again := CommandLine.run w (← (← IO.getStdin).getLine) words
    return { again with out := (again.out.drop r.out.length).toString }
  | _ => return r

end Whittle.Program

def main (words : List String) : IO UInt32 := do
  let w ← Program.workspaceFor words
  let r ← Program.runAsking w words
  Program.commit w r.files
  IO.print r.out
  IO.eprint r.err
  if let .failed f := r.ending then IO.eprintln f.message
  return Program.code r.ending
