import Mathlib.Data.List.TakeWhile
import Whittle.Proofs.Diff.Hunks

namespace Whittle.Diff

-- Some lines of a text: how many are before them, and how many they are.
structure Span where
  first : Nat
  size : Nat

def readNumber (cs : List Char) : Option (Nat × List Char) :=
  match cs.takeWhile Char.isDigit with
  | [] => none
  | digits => some (Nat.ofDigitChars 10 digits 0, cs.dropWhile Char.isDigit)

-- A size that is left out is one, and an empty span names the line before it.
def readSpan (cs : List Char) : Option (Span × List Char) := do
  match ← readNumber cs with
  | (first, ',' :: cs) =>
    let (size, cs) ← readNumber cs
    some (⟨if size = 0 then first else first - 1, size⟩, cs)
  | (first, cs) => some (⟨first - 1, 1⟩, cs)

def readHead (line : String) : Option (Span × Span) :=
  match line.toList with
  | '@' :: '@' :: ' ' :: '-' :: cs => do
    match ← readSpan cs with
    | (left, ' ' :: '+' :: cs) =>
      let (right, cs) ← readSpan cs
      if cs = " @@\n".toList then some (left, right) else none
    | _ => none
  | _ => none

theorem readNumber_toDigits (n : Nat) (rest : List Char) (ends : ∀ c ∈ rest.head?, c.isDigit = false) :
    readNumber (Nat.toDigits 10 n ++ rest) = some (n, rest) := by
  have digits : ∀ c ∈ Nat.toDigits 10 n, c.isDigit = true := fun c member =>
    Nat.isDigit_of_mem_toDigits (by decide) (by decide) member
  have none : rest.takeWhile Char.isDigit = [] ∧ rest.dropWhile Char.isDigit = rest := by
    cases rest with
    | nil => exact ⟨rfl, rfl⟩
    | cons c rest => simp [ends c rfl]
  unfold readNumber
  rw [List.takeWhile_append_of_pos digits, List.dropWhile_append_of_pos digits, none.1, none.2, List.append_nil]
  split
  · exact absurd ‹_› Nat.toDigits_ne_nil
  · rw [Nat.ofDigitChars_ten_toDigits]

theorem readSpan_rangeText (first last : Nat) (rest : List Char) :
    readSpan ((rangeText first last).toList ++ ' ' :: rest) = some (⟨first, last - first⟩, ' ' :: rest) := by
  have blank (n : Nat) : readNumber (Nat.toDigits 10 n ++ ' ' :: rest) = some (n, ' ' :: rest) :=
    readNumber_toDigits n _ (by simp)
  have comma (n : Nat) (cs : List Char) : readNumber (Nat.toDigits 10 n ++ ',' :: cs) = some (n, ',' :: cs) :=
    readNumber_toDigits n _ (by simp)
  have zero : readNumber ('0' :: ' ' :: rest) = some (0, ' ' :: rest) := blank 0
  unfold rangeText readSpan
  by_cases one : last - first = 1
  · simp [one, blank]
  · by_cases empty : last - first = 0
    · simp [empty, comma, zero]
    · simp [one, empty, comma, blank]

def headText (i i' j j' : Nat) : String := "@@ -" ++ rangeText i i' ++ " +" ++ rangeText j j' ++ " @@\n"

theorem readHead_headText (i i' j j' : Nat) : readHead (headText i i' j j') = some (⟨i, i' - i⟩, ⟨j, j' - j⟩) := by
  have text : (headText i i' j j').toList =
      '@' :: '@' :: ' ' :: '-' :: ((rangeText i i').toList ++ ' ' :: '+' :: ((rangeText j j').toList ++ " @@\n".toList)) := by
    simp [headText]
  unfold readHead
  rw [text]
  simp [readSpan_rangeText]

-- A text in the middle of a change: what is left to read, how much was read, what was made of it, and how many lines the
-- current hunk has still to name on each side.
structure Patching where
  rest : List String
  read : Nat
  made : List String
  owedLeft : Nat
  owedRight : Nat

namespace Patching

-- The lines before a hunk stay.
def enter (s : Patching) (left right : Span) : Option Patching :=
  let n := left.first - s.read
  if s.read ≤ left.first ∧ n ≤ s.rest.length ∧ s.made.length + n = right.first then
    some ⟨s.rest.drop n, left.first, s.made ++ s.rest.take n, left.size, right.size⟩
  else none

def step (s : Patching) (line : String) : Option Patching :=
  if s.owedLeft = 0 ∧ s.owedRight = 0 then
    match readHead line with
    | some (left, right) => s.enter left right
    | none => none
  else
    match line.toList, s with
    | ' ' :: cs, ⟨l :: rest, read, made, m + 1, n + 1⟩ =>
      if l.toList = cs then some ⟨rest, read + 1, made ++ [l], m, n⟩ else none
    | '-' :: cs, ⟨l :: rest, read, made, m + 1, n⟩ =>
      if l.toList = cs then some ⟨rest, read + 1, made, m, n⟩ else none
    | '+' :: cs, ⟨rest, read, made, m, n + 1⟩ => some ⟨rest, read, made ++ [String.ofList cs], m, n⟩
    | _, _ => none

end Patching

-- Applies hunks to a list of lines; what follows the last hunk stays.
def applyHunks (hunkLines lines : List String) : Option (List String) :=
  match hunkLines.foldlM Patching.step ⟨lines, 0, [], 0, 0⟩ with
  | some ⟨rest, _, made, 0, 0⟩ => some (made ++ rest)
  | _ => none

namespace Patching

variable {rest made : List String} {read m n : Nat}

theorem step_kept (l : String) :
    step ⟨l :: rest, read, made, m + 1, n + 1⟩ (" " ++ l) = some ⟨rest, read + 1, made ++ [l], m, n⟩ := by
  simp [step]

theorem step_removed (l : String) :
    step ⟨l :: rest, read, made, m + 1, n⟩ ("-" ++ l) = some ⟨rest, read + 1, made, m, n⟩ := by
  simp [step]

theorem step_added (l : String) :
    step ⟨rest, read, made, m, n + 1⟩ ("+" ++ l) = some ⟨rest, read, made ++ [l], m, n⟩ := by
  simp [step]

theorem foldlM_kept (lines : List String) :
    (lines.map (" " ++ ·)).foldlM step ⟨lines ++ rest, read, made, lines.length + m, lines.length + n⟩ =
      some ⟨rest, read + lines.length, made ++ lines, m, n⟩ := by
  induction lines generalizing read made with
  | nil => simp
  | cons l lines ih =>
    rw [List.map_cons, List.foldlM_cons, List.cons_append, List.length_cons, Nat.add_right_comm, Nat.add_right_comm _ 1 n,
      step_kept]
    simp only [bind, Option.bind]
    rw [ih, List.append_assoc, List.singleton_append, Nat.add_right_comm, Nat.add_assoc]

theorem foldlM_removed (lines : List String) :
    (lines.map ("-" ++ ·)).foldlM step ⟨lines ++ rest, read, made, lines.length + m, n⟩ =
      some ⟨rest, read + lines.length, made, m, n⟩ := by
  induction lines generalizing read with
  | nil => simp
  | cons l lines ih =>
    rw [List.map_cons, List.foldlM_cons, List.cons_append, List.length_cons, Nat.add_right_comm, step_removed]
    simp only [bind, Option.bind]
    rw [ih, Nat.add_right_comm, Nat.add_assoc]

theorem foldlM_added (lines : List String) :
    (lines.map ("+" ++ ·)).foldlM step ⟨rest, read, made, m, lines.length + n⟩ =
      some ⟨rest, read, made ++ lines, m, n⟩ := by
  induction lines generalizing made with
  | nil => simp
  | cons l lines ih =>
    rw [List.map_cons, List.foldlM_cons, List.length_cons, Nat.add_right_comm, step_added]
    simp only [bind, Option.bind]
    rw [ih, List.append_assoc, List.singleton_append]

end Patching

section

variable {left right : List String} {i j i' j' : Nat} {p : Part} {ps : List Part} {hs : List (List Part)}

theorem foldlM_partText {m n : Nat} (sound : p.Sound left right) :
    (partText left right p).foldlM Patching.step
        ⟨left.drop p.left, p.left, right.take p.right, p.leftEnd - p.left + m, p.rightEnd - p.right + n⟩ =
      some ⟨left.drop p.leftEnd, p.leftEnd, right.take p.rightEnd, m, n⟩ := by
  obtain ⟨lefts, rights, leftEnd, rightEnd⟩ := sound.toInside
  have leftSize : (between left p.left p.leftEnd).length = p.leftEnd - p.left := length_between leftEnd
  have rightSize : (between right p.right p.rightEnd).length = p.rightEnd - p.right := length_between rightEnd
  have leftSum : p.left + (p.leftEnd - p.left) = p.leftEnd := Nat.add_sub_cancel' lefts
  rw [← between_append_drop left lefts, ← take_append_between right rights]
  unfold partText
  split
  · rename_i equal
    have kept := @Patching.foldlM_kept (left.drop p.leftEnd) (right.take p.right) p.left m n (between left p.left p.leftEnd)
    have sizes := (sound.same equal).size_eq
    rw [leftSize, leftSum] at kept
    rw [← sizes, ← sound.equal equal]
    exact kept
  · have removed := @Patching.foldlM_removed (left.drop p.leftEnd) (right.take p.right) p.left m
      (p.rightEnd - p.right + n) (between left p.left p.leftEnd)
    have added := @Patching.foldlM_added (left.drop p.leftEnd) (right.take p.right) p.leftEnd m n
      (between right p.right p.rightEnd)
    rw [leftSize, leftSum] at removed
    rw [rightSize] at added
    rw [List.foldlM_append]
    exact (congrArg (· >>= _) removed).trans added

theorem Linked.foldlM_partText (linked : Linked left right i j ps i' j') (leftEnd : i' ≤ left.length)
    (rightEnd : j' ≤ right.length) :
    (ps.flatMap (partText left right)).foldlM Patching.step ⟨left.drop i, i, right.take j, i' - i, j' - j⟩ =
      some ⟨left.drop i', i', right.take j', 0, 0⟩ := by
  induction ps generalizing i j with
  | nil =>
    obtain ⟨rfl, rfl⟩ := linked
    simp
  | cons p ps ih =>
    obtain ⟨rfl, rfl, sound, later⟩ := linked
    have onward := later.inside leftEnd rightEnd
    have leftSize : i' - p.left = p.leftEnd - p.left + (i' - p.leftEnd) := by
      have := sound.left_le
      have := onward.left_le
      omega
    have rightSize : j' - p.right = p.rightEnd - p.right + (j' - p.rightEnd) := by
      have := sound.right_le
      have := onward.right_le
      omega
    rw [List.flatMap_cons, List.foldlM_append, leftSize, rightSize, Diff.foldlM_partText sound]
    exact ih later

theorem step_head {i₁ j₁ : Nat} (same : Same left right i j i₁ j₁) :
    Patching.step ⟨left.drop i, i, right.take j, 0, 0⟩ (headText i₁ i' j₁ j') =
      some ⟨left.drop i₁, i₁, right.take j₁, i' - i₁, j' - j₁⟩ := by
  obtain ⟨lefts, rights, leftEnd, rightEnd⟩ := same.toInside
  have sizes := same.size_eq
  have fits : i ≤ i₁ ∧ i₁ - i ≤ (left.drop i).length ∧ (right.take j).length + (i₁ - i) = j₁ := by
    rw [List.length_drop, List.length_take]
    omega
  have skipped : (left.drop i).drop (i₁ - i) = left.drop i₁ := by rw [List.drop_drop, Nat.add_sub_cancel' lefts]
  have kept : right.take j ++ (left.drop i).take (i₁ - i) = right.take j₁ := by
    rw [← take_append_between right rights, ← same.equal]
    rfl
  unfold Patching.step
  rw [if_pos ⟨rfl, rfl⟩, readHead_headText]
  simp only [Patching.enter]
  rw [if_pos fits, skipped, kept]

theorem hunkText_eq {h : List Part} (filled : h ≠ []) :
    ∃ first last, h.head? = some first ∧ h.getLast? = some last ∧
      hunkText left right h =
        headText first.left last.leftEnd first.right last.rightEnd :: h.flatMap (partText left right) := by
  refine ⟨_, _, List.head?_eq_some_head filled, List.getLast?_eq_some_getLast filled, ?_⟩
  unfold hunkText
  rw [List.head?_eq_some_head filled, List.getLast?_eq_some_getLast filled]
  rfl

theorem Covers.foldlM_hunkText (covers : Covers left right i j hs) :
    ∃ i' j', Same left right i' j' left.length right.length ∧
      (hs.flatMap (hunkText left right)).foldlM Patching.step ⟨left.drop i, i, right.take j, 0, 0⟩ =
        some ⟨left.drop i', i', right.take j', 0, 0⟩ := by
  induction hs generalizing i j with
  | nil => exact ⟨i, j, covers, rfl⟩
  | cons h hs ih =>
    obtain ⟨i₁, j₁, i₂, j₂, before, linked, after⟩ := covers
    cases h with
    | nil =>
      obtain ⟨rfl, rfl⟩ := linked
      exact ih (Covers.earlier before after)
    | cons p ps =>
      obtain ⟨i', j', rest, run⟩ := ih after
      have inside := after.inside
      obtain ⟨first, last, begins, ends, text⟩ := @hunkText_eq left right (p :: ps) (List.cons_ne_nil p ps)
      obtain ⟨lefts, rights⟩ := linked.last_ends ends
      cases begins
      obtain ⟨rfl, rfl, _, _⟩ := id linked
      refine ⟨i', j', rest, ?_⟩
      rw [List.flatMap_cons, text, lefts, rights, List.cons_append, List.foldlM_cons, step_head before, Option.bind_eq_bind,
        Option.bind_some, List.foldlM_append, linked.foldlM_partText inside.left_le inside.right_le]
      exact run

def pieces (left right : List String) : List String := (hunks left right).flatMap (hunkText left right)

theorem applyHunks_pieces (left right : List String) : applyHunks (pieces left right) left = some right := by
  obtain ⟨i, j, same, run⟩ := (hunks_cover left right).foldlM_hunkText
  have rest : left.drop i = right.drop j := by
    have equal := same.equal
    unfold between at equal
    rwa [List.take_of_length_le (by simp), List.take_of_length_le (by simp)] at equal
  rw [List.drop_zero, List.take_zero] at run
  unfold applyHunks pieces
  rw [run, rest]
  exact congrArg some (List.take_append_drop j right)

end

def unmark (mark : Char) (line : String) : Option String :=
  match line.toList with
  | c :: cs => if c = mark then some (String.ofList cs) else none
  | [] => none

def removedLines (hunkLines : List String) : List String := hunkLines.filterMap (unmark '-')

def addedLines (hunkLines : List String) : List String := hunkLines.filterMap (unmark '+')

-- Both texts share some lines in the same order; all others stand in the hunks, each behind a mark of its own.
def OwnLines (hunkLines left right : List String) : Prop :=
  ∃ kept, kept.Sublist left ∧ kept.Sublist right ∧ left.Perm (kept ++ removedLines hunkLines) ∧
    right.Perm (kept ++ addedLines hunkLines)

theorem readHead_eq_some {line : String} {spans : Span × Span} (head : readHead line = some spans) :
    ∃ cs, line.toList = '@' :: cs := by
  unfold readHead at head
  split at head
  · exact ⟨_, ‹_›⟩
  · cases head

namespace Patching

-- All that a line can do.
theorem step_cases {s s' : Patching} {line : String} (accepted : s.step line = some s') :
    (∃ left right, s.owedLeft = 0 ∧ s.owedRight = 0 ∧ readHead line = some (left, right) ∧ s.enter left right = some s') ∨
    (∃ l rest read made m n, line = " " ++ l ∧ s = ⟨l :: rest, read, made, m + 1, n + 1⟩ ∧
      s' = ⟨rest, read + 1, made ++ [l], m, n⟩) ∨
    (∃ l rest read made m n, line = "-" ++ l ∧ s = ⟨l :: rest, read, made, m + 1, n⟩ ∧
      s' = ⟨rest, read + 1, made, m, n⟩) ∨
    (∃ l rest read made m n, line = "+" ++ l ∧ s = ⟨rest, read, made, m, n + 1⟩ ∧
      s' = ⟨rest, read, made ++ [l], m, n⟩) := by
  unfold step at accepted
  split at accepted
  · rename_i owed
    split at accepted
    · exact .inl ⟨_, _, owed.1, owed.2, ‹_›, accepted⟩
    · cases accepted
  · split at accepted
    · rename_i cs l rest read made m n text _
      split at accepted
      · rename_i same
        cases accepted
        exact .inr (.inl ⟨l, rest, read, made, m, n, String.toList_inj.mp (by simp [text, same]), rfl, rfl⟩)
      · cases accepted
    · rename_i cs l rest read made m n text _
      split at accepted
      · rename_i same
        cases accepted
        exact .inr (.inr (.inl ⟨l, rest, read, made, m, n, String.toList_inj.mp (by simp [text, same]), rfl, rfl⟩))
      · cases accepted
    · rename_i cs rest read made m n text _
      cases accepted
      exact .inr (.inr (.inr ⟨String.ofList cs, rest, read, made, m, n, String.toList_inj.mp (by simp [text]), rfl, rfl⟩))
    · cases accepted

-- A line that is not the next one cannot be removed.
theorem step_removed_eq_none {s s' : Patching} {l l' : String} (accepted : s.step ("-" ++ l) = some s') (other : l' ≠ l) :
    s.step ("-" ++ l') = none := by
  have next {x : String} {t : Patching} (accepted : s.step ("-" ++ x) = some t) : s.rest.head? = some x := by
    rcases step_cases accepted with ⟨_, _, _, _, head, _⟩ | ⟨y, _, _, _, _, _, text, _, _⟩ |
      ⟨y, _, _, _, _, _, text, rfl, _⟩ | ⟨y, _, _, _, _, _, text, _, _⟩
    · obtain ⟨cs, text⟩ := readHead_eq_some head
      simp at text
    · simpa using congrArg String.toList text
    · have same := congrArg String.toList text
      simp only [String.toList_append, List.append_cancel_left_eq, String.toList_inj] at same
      rw [same]
      rfl
    · simpa using congrArg String.toList text
  cases result : s.step ("-" ++ l') with
  | none => rfl
  | some t =>
    have clash := (next accepted).symm.trans (next result)
    exact absurd (Option.some.inj clash).symm other

end Patching

-- Hunks that remove another line in the place of the next one cannot be applied.
theorem applyHunks_eq_none {front more more' lines made : List String} {l l' : String}
    (applied : applyHunks (front ++ ("-" ++ l) :: more) lines = some made) (other : l' ≠ l) :
    applyHunks (front ++ ("-" ++ l') :: more') lines = none := by
  unfold applyHunks at applied ⊢
  simp only [List.foldlM_append, List.foldlM_cons, Option.bind_eq_bind] at applied ⊢
  cases early : front.foldlM Patching.step ⟨lines, 0, [], 0, 0⟩ with
  | none => rfl
  | some s =>
    simp only [early, Option.bind_some] at applied ⊢
    cases first : s.step ("-" ++ l) with
    | none => simp [first] at applied
    | some s' => rw [Patching.step_removed_eq_none first other, Option.bind_none]

namespace OwnLines

variable {hunkLines left right : List String}

theorem keep (own : OwnLines hunkLines left right) (lines : List String) :
    OwnLines hunkLines (left ++ lines) (right ++ lines) := by
  obtain ⟨kept, inLeft, inRight, lefts, rights⟩ := own
  have widened {xs marks : List String} (all : xs.Perm (kept ++ marks)) : (xs ++ lines).Perm (kept ++ lines ++ marks) := by
    refine (all.append_right lines).trans ?_
    rw [List.append_assoc, List.append_assoc]
    exact List.perm_append_comm.append_left kept
  exact ⟨kept ++ lines, inLeft.append_right lines, inRight.append_right lines, widened lefts, widened rights⟩

theorem remove (own : OwnLines hunkLines left right) (line : String) :
    OwnLines (hunkLines ++ ["-" ++ line]) (left ++ [line]) right := by
  obtain ⟨kept, inLeft, inRight, lefts, rights⟩ := own
  have removed : removedLines (hunkLines ++ ["-" ++ line]) = removedLines hunkLines ++ [line] := by
    simp [removedLines, unmark]
  have added : addedLines (hunkLines ++ ["-" ++ line]) = addedLines hunkLines := by
    simp [addedLines, unmark]
  refine ⟨kept, inLeft.trans (List.sublist_append_left _ _), inRight, ?_, by rwa [added]⟩
  rw [removed, ← List.append_assoc]
  exact lefts.append_right [line]

theorem add (own : OwnLines hunkLines left right) (line : String) :
    OwnLines (hunkLines ++ ["+" ++ line]) left (right ++ [line]) := by
  obtain ⟨kept, inLeft, inRight, lefts, rights⟩ := own
  have removed : removedLines (hunkLines ++ ["+" ++ line]) = removedLines hunkLines := by
    simp [removedLines, unmark]
  have added : addedLines (hunkLines ++ ["+" ++ line]) = addedLines hunkLines ++ [line] := by
    simp [addedLines, unmark]
  refine ⟨kept, inLeft, inRight.trans (List.sublist_append_left _ _), by rwa [removed], ?_⟩
  rw [added, ← List.append_assoc]
  exact rights.append_right [line]

theorem pass {c : Char} {cs : List Char} {line : String} (own : OwnLines hunkLines left right)
    (text : line.toList = c :: cs) (notMinus : c ≠ '-') (notPlus : c ≠ '+') :
    OwnLines (hunkLines ++ [line]) left right := by
  have removed : removedLines (hunkLines ++ [line]) = removedLines hunkLines := by
    simp [removedLines, unmark, text, notMinus]
  have added : addedLines (hunkLines ++ [line]) = addedLines hunkLines := by
    simp [addedLines, unmark, text, notPlus]
  unfold OwnLines
  rw [removed, added]
  exact own

end OwnLines

namespace Patching

-- What was read and what was made of it, against the lines that the hunks have marked so far.
def Told (lines hunkLines : List String) (s : Patching) : Prop :=
  ∃ front, lines = front ++ s.rest ∧ OwnLines hunkLines front s.made

theorem told_step {lines hunkLines : List String} {s s' : Patching} {line : String} (told : Told lines hunkLines s)
    (accepted : s.step line = some s') : Told lines (hunkLines ++ [line]) s' := by
  obtain ⟨front, rfl, own⟩ := told
  rcases step_cases accepted with ⟨left, right, _, _, head, entered⟩ | ⟨l, rest, read, made, m, n, rfl, rfl, rfl⟩ |
    ⟨l, rest, read, made, m, n, rfl, rfl, rfl⟩ | ⟨l, rest, read, made, m, n, rfl, rfl, rfl⟩
  · obtain ⟨cs, text⟩ := readHead_eq_some head
    unfold enter at entered
    simp only at entered
    split at entered
    · cases entered
      refine ⟨front ++ s.rest.take (left.first - s.read), ?_, (own.keep _).pass text (by decide) (by decide)⟩
      rw [List.append_assoc, List.take_append_drop]
    · cases entered
  · have text : (" " ++ l).toList = ' ' :: l.toList := by simp
    exact ⟨front ++ [l], by simp, (own.keep [l]).pass text (by decide) (by decide)⟩
  · exact ⟨front ++ [l], by simp, own.remove l⟩
  · exact ⟨front, rfl, own.add l⟩

theorem told_run {lines hunkLines more : List String} {s s' : Patching} (told : Told lines hunkLines s)
    (accepted : more.foldlM step s = some s') : Told lines (hunkLines ++ more) s' := by
  induction more generalizing hunkLines s with
  | nil =>
    cases accepted
    rwa [List.append_nil]
  | cons line more ih =>
    rw [List.foldlM_cons, Option.bind_eq_bind, Option.bind_eq_some_iff] at accepted
    obtain ⟨next, first, others⟩ := accepted
    have onward := ih (told_step told first) others
    rwa [List.append_assoc] at onward

end Patching

theorem ownLines_of_applyHunks {hunkLines left right : List String} (applied : applyHunks hunkLines left = some right) :
    OwnLines hunkLines left right := by
  unfold applyHunks at applied
  split at applied
  · rename_i rest read made accepted
    cases applied
    have start : Patching.Told left [] ⟨left, 0, [], 0, 0⟩ := ⟨[], rfl, [], .slnil, .slnil, .nil, .nil⟩
    obtain ⟨front, rfl, own⟩ := Patching.told_run start accepted
    exact own.keep rest
  · cases applied

end Whittle.Diff
