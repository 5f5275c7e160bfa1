import Mathlib.Data.List.Basic
import Whittle.Diff.Unified

namespace Whittle.Text

variable {c : Char} {cs ds line : List Char} {more : List (List Char)}

def Closed (cs : List Char) : Prop := ∃ c, cs.getLast? = some c ∧ endsLine c = true

theorem closed_cons (filled : cs ≠ []) : Closed (c :: cs) ↔ Closed cs := by
  unfold Closed
  rw [List.getLast?_cons_of_ne_nil filled]

theorem closed_append (filled : ds ≠ []) : Closed (cs ++ ds) ↔ Closed ds := by
  unfold Closed
  rw [List.getLast?_append_of_ne_nil _ filled]

theorem closed_singleton : Closed [c] ↔ endsLine c = true := by
  simp [Closed]

theorem lines_cons_of_endsLine (ends : endsLine c = true) (apart : c = '\r' → cs.head? ≠ some '\n') :
    lines (c :: cs) = [c] :: lines cs := by
  rw [lines, if_pos ends]
  rintro rest rfl rfl
  exact apart rfl rfl

theorem lines_cons_of_not_endsLine (inner : endsLine c = false) (split : lines cs = line :: more) :
    lines (c :: cs) = (c :: line) :: more := by
  rw [lines, if_neg (by simp [inner]), split]
  rintro rest rfl
  exact absurd inner (by decide)

theorem lines_singleton : lines [c] = [[c]] := by
  rw [lines]
  · simp [lines]
  · simp

theorem lines_eq_nil : lines cs = [] ↔ cs = [] := by
  constructor
  · intro none
    rw [← flatten_lines cs, none]
    rfl
  · rintro rfl
    rfl

-- The ways in which the first line of a text goes on.
@[elab_as_elim]
theorem lines_induction {motive : List Char → Prop} (nil : motive [])
    (pair : ∀ rest, lines ('\r' :: '\n' :: rest) = ['\r', '\n'] :: lines rest → motive rest → motive ('\r' :: '\n' :: rest))
    (single : ∀ c rest, endsLine c = true → (c = '\r' → rest.head? ≠ some '\n') → lines (c :: rest) = [c] :: lines rest →
      motive rest → motive (c :: rest))
    (last : ∀ c, endsLine c = false → motive [c])
    (inner : ∀ c rest line more, endsLine c = false → lines rest = line :: more →
      lines (c :: rest) = (c :: line) :: more → motive rest → motive (c :: rest)) (cs : List Char) : motive cs := by
  fun_induction lines cs with
  | case1 => exact nil
  | case2 rest ih => exact pair rest (by rw [lines]) ih
  | case3 c rest other ends ih =>
    have apart : c = '\r' → rest.head? ≠ some '\n' := by
      intro first second
      obtain ⟨tail, rfl⟩ := List.head?_eq_some_iff.mp second
      exact other tail first rfl
    exact single c rest ends apart (lines_cons_of_endsLine ends apart) ih
  | case4 c rest _ inside none ih =>
    obtain rfl := lines_eq_nil.mp none
    exact last c (by simpa using inside)
  | case5 c rest _ inside line more split ih =>
    have goesOn : endsLine c = false := by simpa using inside
    exact inner c rest line more goesOn split (lines_cons_of_not_endsLine goesOn split) ih

-- A line: no character but the last is a boundary, except that a pair counts as one.
inductive Line : List Char → Prop
  | pair : Line ['\r', '\n']
  | single (c : Char) : Line [c]
  | cons {c : Char} {line : List Char} : endsLine c = false → Line line → Line (c :: line)

namespace Line

theorem ne_nil (one : Line line) : line ≠ [] := by
  cases one <;> exact List.cons_ne_nil _ _

theorem lines_eq (one : Line line) : lines line = [line] := by
  induction one with
  | pair => rfl
  | single c => exact lines_singleton
  | cons inner _ ih => exact lines_cons_of_not_endsLine inner ih

theorem endsLine_eq_false (one : Line line) (unended : ¬ Closed line) : ∀ c ∈ line, endsLine c = false := by
  induction one with
  | pair => exact absurd ⟨'\n', rfl, by decide⟩ unended
  | single c => simpa [closed_singleton] using unended
  | cons inner one ih =>
    rw [closed_cons one.ne_nil] at unended
    exact List.forall_mem_cons.mpr ⟨inner, ih unended⟩

theorem append (inner : ∀ c ∈ cs, endsLine c = false) (one : Line line) : Line (cs ++ line) := by
  induction cs with
  | nil => exact one
  | cons c cs ih =>
    obtain ⟨first, others⟩ := List.forall_mem_cons.mp inner
    exact .cons first (ih others)

theorem of_mem_lines (member : line ∈ lines cs) : Line line := by
  induction cs using lines_induction generalizing line with
  | nil => exact absurd member List.not_mem_nil
  | pair rest split ih =>
    rw [split, List.mem_cons] at member
    rcases member with rfl | later
    · exact .pair
    · exact ih later
  | single c rest _ _ split ih =>
    rw [split, List.mem_cons] at member
    rcases member with rfl | later
    · exact .single c
    · exact ih later
  | last c _ =>
    rw [lines_singleton, List.mem_singleton] at member
    exact member ▸ .single c
  | inner c rest first more goesOn split whole ih =>
    rw [whole, List.mem_cons] at member
    rcases member with rfl | later
    · exact .cons goesOn (ih (split ▸ List.mem_cons_self))
    · exact ih (split ▸ List.mem_cons_of_mem _ later)

end Line

theorem mem_dropLast_cons {α : Type} {x a : α} {xs : List α} :
    x ∈ (a :: xs).dropLast ↔ xs ≠ [] ∧ (x = a ∨ x ∈ xs.dropLast) := by
  cases xs <;> simp

theorem closed_of_mem_dropLast (member : line ∈ (lines cs).dropLast) : Closed line := by
  induction cs using lines_induction generalizing line with
  | nil => exact absurd member List.not_mem_nil
  | pair rest split ih =>
    rw [split, mem_dropLast_cons] at member
    rcases member with ⟨_, rfl | later⟩
    · exact ⟨'\n', rfl, by decide⟩
    · exact ih later
  | single c rest ends _ split ih =>
    rw [split, mem_dropLast_cons] at member
    rcases member with ⟨_, rfl | later⟩
    · exact closed_singleton.mpr ends
    · exact ih later
  | last c _ =>
    rw [lines_singleton] at member
    exact absurd member List.not_mem_nil
  | inner c rest first more goesOn split whole ih =>
    rw [whole, mem_dropLast_cons] at member
    rw [split] at ih
    rcases member with ⟨onward, rfl | later⟩
    · have one : Line first := Line.of_mem_lines (split ▸ List.mem_cons_self)
      exact (closed_cons one.ne_nil).mpr (ih (mem_dropLast_cons.mpr ⟨onward, .inl rfl⟩))
    · exact ih (mem_dropLast_cons.mpr ⟨onward, .inr later⟩)

theorem closed_getLast (last : (lines cs).getLast? = some line) : Closed line ↔ Closed cs := by
  obtain ⟨front, split⟩ := List.getLast?_eq_some_iff.mp last
  have filled : line ≠ [] := (Line.of_mem_lines (List.mem_of_getLast? last)).ne_nil
  rw [← flatten_lines cs, split, List.flatten_append, List.flatten_singleton]
  exact (closed_append filled).symm

theorem lines_append (closed : cs = [] ∨ Closed cs) (apart : ds.head? ≠ some '\n') :
    lines (cs ++ ds) = lines cs ++ lines ds := by
  induction cs using lines_induction with
  | nil => rfl
  | pair rest split ih =>
    rw [split, List.cons_append, List.cons_append, lines, List.cons_append]
    refine congrArg _ (ih ?_)
    by_cases empty : rest = []
    · exact .inl empty
    · refine .inr ?_
      simpa [closed_cons, empty] using closed
  | single c rest ends notPair split ih =>
    rw [split, List.cons_append, List.cons_append]
    rw [lines_cons_of_endsLine ends, ih]
    · by_cases empty : rest = []
      · exact .inl empty
      · exact .inr (by simpa [closed_cons, empty] using closed)
    · intro first
      cases rest with
      | nil => exact apart
      | cons d rest => exact notPair first
  | last c goesOn =>
    rw [closed_singleton, goesOn] at closed
    exact absurd closed (by simp)
  | inner c rest line more goesOn split whole ih =>
    have filled : rest ≠ [] := by
      rintro rfl
      cases split
    have closed' : Closed rest := by simpa [closed_cons, filled] using closed
    rw [whole, List.cons_append, List.cons_append]
    refine lines_cons_of_not_endsLine goesOn ?_
    rw [ih (.inr closed'), split, List.cons_append]

-- Without a boundary between them the second text goes on in the line of the first.
theorem lines_append_of_not_endsLine (inner : ∀ c ∈ cs, endsLine c = false) (split : lines ds = line :: more) :
    lines (cs ++ ds) = (cs ++ line) :: more := by
  induction cs with
  | nil => exact split
  | cons c cs ih =>
    obtain ⟨first, others⟩ := List.forall_mem_cons.mp inner
    exact lines_cons_of_not_endsLine first (ih others)

end Whittle.Text

namespace Whittle.Diff

open Text (Line Closed)

variable {s t : String}

theorem join_textLines (s : String) : String.join (textLines s) = s := by
  apply String.toList_inj.mp
  rw [String.toList_join, textLines, List.flatMap_map]
  simp only [String.toList_ofList]
  rw [List.flatMap_id', Text.flatten_lines]

theorem textLines_of_line (one : Line s.toList) : textLines s = [s] := by
  rw [textLines, one.lines_eq, List.map_singleton, String.ofList_toList]

theorem textLines_append (closed : Closed s.toList) (apart : t.toList.head? ≠ some '\n') :
    textLines (s ++ t) = textLines s ++ textLines t := by
  rw [textLines, String.toList_append, Text.lines_append (.inr closed) apart, List.map_append]
  rfl

-- A text without a boundary goes on in the line of what follows.
theorem textLines_append_of_not_endsLine (inner : ∀ c ∈ s.toList, Text.endsLine c = false) (filled : t ≠ "") :
    ∃ rest more, rest ≠ "" ∧ textLines (s ++ t) = (s ++ rest) :: more := by
  cases split : Text.lines t.toList with
  | nil => exact absurd (String.toList_eq_nil_iff.mp (Text.lines_eq_nil.mp split)) filled
  | cons line more =>
    have one : Line line := Line.of_mem_lines (split ▸ List.mem_cons_self)
    refine ⟨String.ofList line, more.map String.ofList, by simpa using one.ne_nil, ?_⟩
    rw [textLines, String.toList_append, Text.lines_append_of_not_endsLine inner split, List.map_cons,
      String.ofList_append, String.ofList_toList]

theorem line_of_mem_textLines {line : String} (member : line ∈ textLines s) : Line line.toList := by
  obtain ⟨cs, listed, rfl⟩ := List.mem_map.mp member
  rw [String.toList_ofList]
  exact Line.of_mem_lines listed

theorem closed_of_mem_dropLast_textLines {line : String} (member : line ∈ (textLines s).dropLast) :
    Closed line.toList := by
  rw [textLines, ← List.map_dropLast] at member
  obtain ⟨cs, listed, rfl⟩ := List.mem_map.mp member
  rw [String.toList_ofList]
  exact Text.closed_of_mem_dropLast listed

theorem closed_getLast_textLines {line : String} (last : (textLines s).getLast? = some line) :
    Closed line.toList ↔ Closed s.toList := by
  rw [textLines, List.getLast?_map, Option.map_eq_some_iff] at last
  obtain ⟨cs, last, rfl⟩ := last
  rw [String.toList_ofList]
  exact Text.closed_getLast last

-- A line that does not begin with a line feed, so that it is a line also behind a carriage return.
structure Piece (s : String) : Prop where
  line : Line s.toList
  apart : s.toList.head? ≠ some '\n'

theorem head_join_ne {front : List String} (each : ∀ s ∈ front, Piece s) (apart : t.toList.head? ≠ some '\n') :
    (String.join front ++ t).toList.head? ≠ some '\n' := by
  cases front with
  | nil => simpa using apart
  | cons s front =>
    have piece := each s List.mem_cons_self
    obtain ⟨c, cs, text⟩ := List.exists_cons_of_ne_nil piece.line.ne_nil
    simpa [text] using piece.apart

theorem textLines_join_append {front : List String} (each : ∀ s ∈ front, Piece s)
    (closed : ∀ s ∈ front, Closed s.toList) (apart : t.toList.head? ≠ some '\n') :
    textLines (String.join front ++ t) = front ++ textLines t := by
  induction front with
  | nil => simp
  | cons s front ih =>
    obtain ⟨piece, pieces⟩ := List.forall_mem_cons.mp each
    obtain ⟨ended, others⟩ := List.forall_mem_cons.mp closed
    rw [String.join_cons, String.append_assoc, textLines_append ended (head_join_ne pieces apart),
      textLines_of_line piece.line, ih pieces others, List.singleton_append, List.cons_append]

theorem textLines_join {pieces : List String} (each : ∀ s ∈ pieces, Piece s)
    (closed : ∀ s ∈ pieces.dropLast, Closed s.toList) : textLines (String.join pieces) = pieces := by
  rcases List.eq_nil_or_concat pieces with rfl | ⟨front, last, rfl⟩
  · rfl
  · rw [List.concat_eq_append] at *
    rw [List.dropLast_concat] at closed
    have pieces : ∀ s ∈ front, Piece s := fun s member => each s (List.mem_append_left _ member)
    have final : Piece last := each last (by simp)
    have joined : String.join (front ++ [last]) = String.join front ++ last := by simp
    rw [joined, textLines_join_append pieces closed final.apart, textLines_of_line final.line]

theorem piece_marked {mark line : String} {m : Char} (text : mark.toList = [m]) (inner : Text.endsLine m = false)
    (one : Line line.toList) : Piece (mark ++ line) := by
  have whole : (mark ++ line).toList = m :: line.toList := by simp [text]
  refine ⟨by rw [whole]; exact .cons inner one, ?_⟩
  rw [whole]
  rintro ⟨⟩
  exact absurd inner (by decide)

theorem closed_marked {mark line : String} (one : Line line.toList) :
    Closed (mark ++ line).toList ↔ Closed line.toList := by
  rw [String.toList_append]
  exact Text.closed_append one.ne_nil

theorem closed_append_break (s : String) : Closed (s ++ "\n").toList := by
  rw [String.toList_append]
  exact (Text.closed_append (by simp)).mpr ⟨'\n', by simp, by decide⟩

end Whittle.Diff
