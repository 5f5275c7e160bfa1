import Whittle.Document.Yaml.Cursor
import Whittle.Text.Line

namespace Whittle.Yaml

-- A text that is read piece by piece: its characters as far as they can be had, and what is in the way of the others.
-- What stops the reading is met only when the piece is asked for.
structure Stream where
  chars : List Char
  stop : Option Fault := none

namespace Stream

-- Where the piece starts that a place lies in. The first piece is as long as two others.
def pieceStart (n : Nat) : Nat := if n < 8192 then 0 else n / 4096 * 4096

-- A piece with a character that may not stand in a text is refused as a whole.
def ofChars (cs : List Char) (stop : Option Fault) : Stream :=
  match cs.findIdx? (!isPrintable ·) with
  | some n => ⟨cs.take (pieceStart n), some .malformed⟩
  | none => ⟨cs, stop⟩

-- Decodes bytes whose last character may be cut, and gives the bytes of such a character.
def decodeCut (bytes : Bytes) : Except Utf8.Fault (List Char × Bytes) :=
  match Utf8.decodeFrom 0 0 bytes with
  | .ok cs => .ok (cs, [])
  | .error f =>
    if f.reason == .truncated then do return (← Utf8.decodeFrom 0 0 (bytes.take f.first), bytes.drop f.first)
    else .error f

-- How many bytes are read at once: as many as seem to hold the rest of a piece, by what the last ones held.
def portion (bytes chars sofar : Nat) : Nat := max 8192 (bytes * (4096 - sofar % 4096) / chars)

-- The characters of bytes that are read in portions. `cut` is the start of a character that the last portion cut,
-- `held` a carriage return at its end, which may belong to a line feed. A fault counts its place from `cut`.
def portions : Nat → (size sofar : Nat) → (cut : Bytes) → (held : List Char) → Bytes → List Char × Option Utf8.Fault
  | 0, _, _, _, _, _ => ([], none)
  | _, _, _, cut, held, [] =>
    match Utf8.decodeFrom 0 0 cut with
    | .ok _ => (Text.universalNewlines held, none)
    | .error f => ([], some f)
  | fuel + 1, size, sofar, cut, held, bytes =>
    let portion' := bytes.take size
    match decodeCut (cut ++ portion') with
    | .error f => ([], some f)
    | .ok (cs, cut) =>
      let cs := if cs.isEmpty then cs else held ++ cs
      let kept := if cs.isEmpty then held else if cs.getLast? == some '\r' then ['\r'] else []
      let line := Text.universalNewlines (if cs.getLast? == some '\r' then cs.dropLast else cs)
      let (more, stop) :=
        portions fuel (portion portion'.length line.length (sofar + line.length)) (sofar + line.length) cut kept
          (bytes.drop size)
      (line ++ more, stop)

def ofBytes (bytes : Bytes) : Stream :=
  match portions (bytes.length + 1) 8192 0 [] [] bytes with
  | (cs, none) => ofChars cs none
  | (cs, some f) => ofChars (cs.take (pieceStart cs.length)) (some (.undecodable f))

end Stream

end Whittle.Yaml
