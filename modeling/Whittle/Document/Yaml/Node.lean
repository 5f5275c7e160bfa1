import Whittle.Document.Yaml.Tag
import Whittle.Document.Yaml.Token

namespace Whittle.Yaml

inductive Node where
  | scalar (tag : Tag) (text : List Char)
  | sequence (tag : Tag) (anchor : Option String) (items : List Node)
  | mapping (tag : Tag) (anchor : Option String) (entries : List (Node × Node))
  -- An alias stands for the node of its anchor; inside that node it points back to it.
  | back (anchor : String)

instance : Inhabited Node := ⟨.back ""⟩

namespace Node

def empty : Node := .scalar .null []

-- What is left to read, the fault that comes after it, what handles stand for, and the anchors so far; one without a
-- node is still open.
structure Reading where
  tokens : List Token
  fault : Option Fault
  handles : List (String × String) := []
  anchors : List (String × Option Node) := []

abbrev Reader := StateT Reading (Except Fault)

def standardHandles : List (String × String) := [("!", "!"), ("!!", Tag.stem)]

def fail {α : Type} : Reader α := throw .malformed

def peek? : Reader (Option Token) := do
  let r ← get
  match r.tokens, r.fault with
  | [], some f => throw f
  | ts, _ => return ts.head?

def advance : Reader Unit := modify fun r => { r with tokens := r.tokens.drop 1 }

def sees (ts : List Token) : Reader Bool := do return (← peek?).any ts.contains

def takes (t : Token) : Reader Bool := do
  if ← sees [t] then
    advance
    return true
  else return false

def tagName : Option String × String → Reader String
  | (none, suffix) => return suffix
  | (some h, suffix) => do
    match (← get).handles.lookup h with
    | some stem => return stem ++ suffix
    | none => fail

def takeAnchor : Reader (Option String) := do
  match ← peek? with
  | some (.anchor name) => advance; return some name
  | _ => return none

def takeTag : Reader (Option (Option String × String)) := do
  match ← peek? with
  | some (.tag h s) => advance; return some (h, s)
  | _ => return none

-- An anchor and a tag, in either order. What the tag is called shows after both.
def properties : Reader (Option String × Option String) := do
  match ← takeAnchor with
  | some a =>
    match ← takeTag with
    | some t => return (some a, some (← tagName t))
    | none => return (some a, none)
  | none =>
    match ← takeTag with
    | some t =>
      let anchor ← takeAnchor
      return (anchor, some (← tagName t))
    | none => return (none, none)

def openAnchor (anchor : Option String) : Reader Unit := do
  match anchor with
  | none => return
  | some a =>
    if ((← get).anchors.lookup a).isSome then fail
    else modify fun r => { r with anchors := (a, none) :: r.anchors }

def closeAnchor (anchor : Option String) (n : Node) : Reader Node := do
  match anchor with
  | none => return n
  | some a =>
    modify fun r => { r with anchors := (a, some n) :: r.anchors }
    return n

def ofAlias (name : String) : Reader Node := do
  match (← get).anchors.lookup name with
  | some (some n) => return n
  | some none => return .back name
  | none => fail

def collectionTag (standard : Tag) (tag : Option String) : Tag :=
  match tag with
  | none | some "!" => standard
  | some name => .ofName name

-- The tag of a scalar: an empty tag lets the form decide, and so does none for a plain text.
def scalarTag (tag : Option String) (isPlain : Bool) (text : List Char) : Tag :=
  match tag with
  | some "!" => .ofForm text
  | some name => .ofName name
  | none => if isPlain then .ofForm text else .str

def anchored (anchor : Option String) (content : Reader Node) : Reader Node := do
  openAnchor anchor
  closeAnchor anchor (← content)

mutual

-- Reads a node: a block collection only where `block` allows it, and a sequence without indentation only where
-- `indentless` does.
def read (block indentless : Bool) : Nat → Reader Node
  | 0 => fail
  | fuel + 1 => do
    match ← peek? with
    | some (.alias name) => advance; ofAlias name
    | _ =>
      let (anchor, tag) ← properties
      match ← peek? with
      | some .blockEntry =>
        if indentless then
          anchored anchor (do return .sequence (collectionTag .seq tag) anchor (← indentlessItems fuel))
        else empty? anchor tag
      | some (.scalar text isPlain) =>
        advance
        anchored anchor (return .scalar (scalarTag tag isPlain text) text)
      | some .flowSequenceStart =>
        advance
        anchored anchor (do return .sequence (collectionTag .seq tag) anchor (← flowItems true fuel))
      | some .flowMappingStart =>
        advance
        anchored anchor (do return .mapping (collectionTag .map tag) anchor (← flowEntries true fuel))
      | some .blockSequenceStart =>
        if block then
          advance
          anchored anchor (do return .sequence (collectionTag .seq tag) anchor (← blockItems fuel))
        else empty? anchor tag
      | some .blockMappingStart =>
        if block then
          advance
          anchored anchor (do return .mapping (collectionTag .map tag) anchor (← blockEntries fuel))
        else empty? anchor tag
      | _ => empty? anchor tag

def empty? (anchor tag : Option String) : Reader Node :=
  if anchor.isNone && tag.isNone then fail
  else anchored anchor (return .scalar (scalarTag tag true []) [])

def readUnless (stops : List Token) (block indentless : Bool) : Nat → Reader Node
  | 0 => fail
  | fuel + 1 => do
    if ← sees stops then return empty else read block indentless fuel

def blockItems : Nat → Reader (List Node)
  | 0 => fail
  | fuel + 1 => do
    if ← takes .blockEntry then
      let n ← readUnless [.blockEntry, .blockEnd] true false fuel
      return n :: (← blockItems fuel)
    else if ← takes .blockEnd then return []
    else fail

def indentlessItems : Nat → Reader (List Node)
  | 0 => fail
  | fuel + 1 => do
    if ← takes .blockEntry then
      let n ← readUnless [.blockEntry, .key, .value, .blockEnd] true false fuel
      return n :: (← indentlessItems fuel)
    else return []

def blockEntries : Nat → Reader (List (Node × Node))
  | 0 => fail
  | fuel + 1 => do
    if ← takes .key then
      let k ← readUnless [.key, .value, .blockEnd] true true fuel
      let v ← if ← takes .value then readUnless [.key, .value, .blockEnd] true true fuel else pure empty
      return (k, v) :: (← blockEntries fuel)
    else if ← takes .blockEnd then return []
    else fail

-- The items of a flow sequence; a pair among them is a mapping of its own.
def flowItems (first : Bool) : Nat → Reader (List Node)
  | 0 => fail
  | fuel + 1 => do
    if ← takes .flowSequenceEnd then return []
    if !first then
      if !(← takes .flowEntry) then fail
    if ← takes .key then
      let k ← readUnless [.value, .flowEntry, .flowSequenceEnd] false false fuel
      let v ← if ← takes .value then readUnless [.flowEntry, .flowSequenceEnd] false false fuel else pure empty
      return .mapping .map none [(k, v)] :: (← flowItems false fuel)
    else if ← takes .flowSequenceEnd then return []
    else
      let n ← read false false fuel
      return n :: (← flowItems false fuel)

def flowEntries (first : Bool) : Nat → Reader (List (Node × Node))
  | 0 => fail
  | fuel + 1 => do
    if ← takes .flowMappingEnd then return []
    if !first then
      if !(← takes .flowEntry) then fail
    if ← takes .key then
      let k ← readUnless [.value, .flowEntry, .flowMappingEnd] false false fuel
      let v ← if ← takes .value then readUnless [.flowEntry, .flowMappingEnd] false false fuel else pure empty
      return (k, v) :: (← flowEntries false fuel)
    else if ← takes .flowMappingEnd then return []
    else
      let k ← read false false fuel
      return (k, empty) :: (← flowEntries false fuel)

end

def directives : Nat → (versioned : Bool) → (handles : List (String × String)) → Reader (List (String × String))
  | 0, _, handles => return handles
  | fuel + 1, versioned, handles => do
    match ← peek? with
    | some (.versionDirective major) =>
      if versioned || major != 1 then fail
      advance
      directives fuel true handles
    | some (.tagDirective h stem) =>
      if (handles.lookup h).isSome then fail
      advance
      directives fuel versioned ((h, stem) :: handles)
    | some .otherDirective => advance; directives fuel versioned handles
    | _ => return handles

def isDirective : Token → Bool
  | .versionDirective _ | .tagDirective _ _ | .otherDirective => true
  | _ => false

def skipEnds : Reader Unit :=
  modify fun r => { r with tokens := r.tokens.dropWhile (· == .documentEnd) }

def document : Reader (Option Node) := do
  let fuel := 4 * (← get).tokens.length + 8
  match ← peek? with
  | none => return none
  | some t =>
    let n ←
      if isDirective t || t == .documentStart then do
        let handles ← directives fuel false []
        if !(← takes .documentStart) then fail
        modify fun r => { r with handles := handles ++ standardHandles }
        match ← peek? with
        | none => pure empty
        | some t =>
          if isDirective t || t == .documentStart || t == .documentEnd then pure empty else read true false fuel
      else do
        modify fun r => { r with handles := standardHandles }
        read true false fuel
    skipEnds
    if (← peek?).isSome then
      -- a second document is read up to its start before it is refused
      let _ ← directives fuel false []
      let _ ← takes .documentStart
      fail
    return some n

def parse? (s : Stream) : Except Fault (Option Node) := do
  let (tokens, fault) := Token.scan s
  let (n, _) ← document.run { tokens := tokens, fault := fault }
  return n

end Node

end Whittle.Yaml
