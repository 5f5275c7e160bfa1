
namespace Whittle

abbrev Bytes := List UInt8

namespace Utf8

inductive Reason where
  | start | continuation | truncated
  deriving DecidableEq, Repr

structure Fault where
  first : Nat
  last : Nat
  byte : UInt8
  reason : Reason
  deriving DecidableEq, Repr

def Reason.message : Reason → String
  | .start => "invalid start byte"
  | .continuation => "invalid continuation byte"
  | .truncated => "unexpected end of data"

def byteText (b : UInt8) : String :=
  let digits := Nat.toDigits 16 b.toNat
  String.ofList (List.replicate (2 - digits.length) '0' ++ digits)

def Fault.message (f : Fault) : String :=
  let what :=
    if f.first == f.last then "byte 0x" ++ byteText f.byte ++ " in position " ++ toString f.first
    else "bytes in position " ++ toString f.first ++ "-" ++ toString f.last
  "'utf-8' codec can't decode " ++ what ++ ": " ++ f.reason.message

def encode (s : String) : Bytes := s.toList.flatMap String.utf8EncodeChar

def lengthFrom (b : UInt8) : Option Nat :=
  if b < 0x80 then some 1
  else if b < 0xc2 then none
  else if b < 0xe0 then some 2
  else if b < 0xf0 then some 3
  else if b < 0xf5 then some 4
  else none

def isContinuation (b : UInt8) : Bool := 0x80 ≤ b && b < 0xc0

-- Whether a byte may follow the first one: no overlong forms, no surrogates, nothing beyond the last code point.
def maySecond (first b : UInt8) : Bool :=
  isContinuation b &&
    !(first == 0xe0 && b < 0xa0) && !(first == 0xed && 0xa0 ≤ b) && !(first == 0xf0 && b < 0x90) &&
    !(first == 0xf4 && 0x90 ≤ b)

def following (first : UInt8) : Bytes → Nat
  | [] => 0
  | b :: rest => if maySecond first b then 1 + (rest.takeWhile isContinuation).length else 0

def codePoint (first : UInt8) (rest : Bytes) : Nat :=
  let lead := match rest.length with
    | 0 => first.toNat
    | 1 => first.toNat - 0xc0
    | 2 => first.toNat - 0xe0
    | _ => first.toNat - 0xf0
  rest.foldl (fun n b => n * 64 + (b.toNat - 0x80)) lead

-- The character at the front of bytes with its length, or what is wrong and how many bytes are concerned.
def charAt (first : UInt8) (rest : Bytes) : Except (Reason × Nat) (Char × Nat) :=
  match lengthFrom first with
  | none => .error (.start, 1)
  | some 1 => .ok (Char.ofNat first.toNat, 1)
  | some n =>
    let present := rest.take (n - 1)
    let good := following first present
    if good = n - 1 then .ok (Char.ofNat (codePoint first present), n)
    else if good = present.length then .error (.truncated, good + 1)
    else .error (.continuation, good + 1)

-- Decodes from a place on; `skip` bytes belong to a character already read.
def decodeFrom : (pos skip : Nat) → Bytes → Except Fault (List Char)
  | _, _, [] => .ok []
  | pos, skip + 1, _ :: rest => decodeFrom (pos + 1) skip rest
  | pos, 0, b :: rest =>
    match charAt b rest with
    | .ok (c, n) => do return c :: (← decodeFrom (pos + 1) (n - 1) rest)
    | .error (reason, n) => .error ⟨pos, pos + n - 1, b, reason⟩

def decode (bytes : Bytes) : Except Fault String := do
  return String.ofList (← decodeFrom 0 0 bytes)

end Utf8

end Whittle
