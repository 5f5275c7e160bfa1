import Whittle.Change
import Whittle.Proofs.Diff.Pieces

namespace Whittle.Diff

open Text (Line Closed)

variable {left right : List String} {before after : String}

-- Applies hunks to a text.
def patch (hunkLines : List String) (text : String) : Option String :=
  (applyHunks hunkLines (textLines text)).map String.join

-- The text before does not end with a line boundary, and its last lines give way to others.
def RunsTogether (before after : String) : Prop :=
  ¬ Closed before.toList ∧
    ∃ p, (parts (textLines before) (textLines after)).getLast? = some p ∧ p.isEqual = false ∧ p.left < p.leftEnd ∧
      p.right < p.rightEnd

structure Faithful (hunkLines : List String) (before after : String) : Prop where
  applies : patch hunkLines before = some after
  ownLines : OwnLines hunkLines (textLines before) (textLines after)

theorem textLines_ne (differ : before ≠ after) : textLines before ≠ textLines after := by
  intro same
  rw [← join_textLines before, ← join_textLines after, same] at differ
  exact differ rfl

theorem exists_last_part (differ : left ≠ right) : ∃ ps last, parts left right = ps ++ [last] := by
  rcases List.eq_nil_or_concat (parts left right) with none | ⟨ps, last, shape⟩
  · have linked := parts_linked left right
    rw [none] at linked
    obtain ⟨noLeft, noRight⟩ := linked
    rw [List.length_eq_zero_iff.mp noLeft.symm, List.length_eq_zero_iff.mp noRight.symm] at differ
    exact absurd rfl differ
  · exact ⟨ps, last, by rw [shape, List.concat_eq_append]⟩

theorem pieces_ne_nil (differ : left ≠ right) : pieces left right ≠ [] := by
  intro none
  have applied := applyHunks_pieces left right
  rw [none] at applied
  exact differ (by simpa [applyHunks] using applied)

theorem closed_of_mem_textLines (closed : Closed before.toList) : ∀ l ∈ textLines before, Closed l.toList := by
  intro l member
  rcases List.eq_nil_or_concat (textLines before) with none | ⟨front, last, shape⟩
  · rw [none] at member
    exact absurd member List.not_mem_nil
  · rw [List.concat_eq_append] at shape
    have final : Closed last.toList := (closed_getLast_textLines (by rw [shape]; simp)).mpr closed
    rw [shape, List.mem_append, List.mem_singleton] at member
    rcases member with early | rfl
    · exact closed_of_mem_dropLast_textLines (by rw [shape, List.dropLast_concat]; exact early)
    · exact final

theorem marked_eq_nil_iff {mark : String} {lines : List String} {i j : Nat} :
    marked mark lines i j = [] ↔ j ≤ i ∨ lines.length ≤ i := by
  simp only [marked, List.map_eq_nil_iff, List.take_eq_nil_iff, List.drop_eq_nil_iff]
  omega

theorem closed_dropLast_append {xs ys : List String} (first : ∀ s ∈ xs.dropLast, Closed s.toList)
    (early : ys ≠ [] → ∀ s ∈ xs, Closed s.toList) (second : ∀ s ∈ ys.dropLast, Closed s.toList) :
    ∀ s ∈ (xs ++ ys).dropLast, Closed s.toList := by
  by_cases none : ys = []
  · rwa [none, List.append_nil]
  · rw [List.dropLast_append_of_ne_nil none]
    exact List.forall_mem_append.mpr ⟨early none, second⟩

theorem closed_dropLast_pieces (differ : before ≠ after) (apart : ¬ RunsTogether before after) :
    ∀ s ∈ (pieces (textLines before) (textLines after)).dropLast, Closed s.toList := by
  have lefts := textLines_lined before
  have rights := textLines_lined after
  obtain ⟨ps, last, shape⟩ := exists_last_part (textLines_ne differ)
  obtain ⟨front, final, whole, early, kind⟩ := pieces_concat shape
  have ended : ∀ s ∈ front, Closed s.toList := fun s member => closed_of_mem_early lefts rights shape (early s member)
  rw [whole]
  refine closed_dropLast_append (fun s member => ended s (List.dropLast_subset _ member)) (fun _ => ended) ?_
  rcases kind with ⟨change, rfl⟩ | ⟨_, i, j, rfl⟩
  · unfold partText
    rw [if_neg (by simp [change])]
    refine closed_dropLast_append lefts.closed_dropLast_marked ?_ rights.closed_dropLast_marked
    -- Both a removed and an added line: then the text before ends with a boundary.
    intro added s removed
    have someAdded : last.right < last.rightEnd := by
      rw [Ne, marked_eq_nil_iff] at added
      omega
    have someRemoved : last.left < last.leftEnd := by
      have filled := List.ne_nil_of_mem removed
      rw [Ne, marked_eq_nil_iff] at filled
      omega
    have closed : Closed before.toList := by
      by_contra unended
      exact apart ⟨unended, last, by rw [shape]; simp, change, someRemoved, someAdded⟩
    refine lefts.closed_marked (fun l member => ?_) s removed
    exact closed_of_mem_textLines closed l (between_subset _ _ _ member)
  · exact lefts.closed_dropLast_marked

theorem marked_concat {mark : String} {lines : List String} {i : Nat} {l : String} (inside : i < lines.length)
    (last : lines.getLast? = some l) :
    ∃ front, marked mark lines i lines.length = front ++ [mark ++ l] := by
  obtain ⟨others, shape⟩ := List.getLast?_eq_some_iff.mp last
  subst shape
  refine ⟨(others.drop i).map (mark ++ ·), ?_⟩
  rw [List.length_append, List.length_singleton] at inside ⊢
  unfold marked
  rw [List.drop_append_of_le_length (by omega), List.take_of_length_le (by simp; omega), List.map_append,
    List.map_singleton]

-- The last line of the text before, removed, with the added lines behind it.
theorem pieces_of_runsTogether (together : RunsTogether before after) :
    ∃ front l others, pieces (textLines before) (textLines after) = front ++ ("-" ++ l) :: others ∧ others ≠ [] ∧
      (∀ s ∈ front, Closed s.toList) ∧ Line l.toList ∧ ¬ Closed l.toList := by
  have lefts := textLines_lined before
  have rights := textLines_lined after
  obtain ⟨unended, p, last, change, removed, added⟩ := together
  have linked := parts_linked (textLines before) (textLines after)
  have sound := linked.sound (List.mem_of_getLast? last)
  obtain ⟨leftEnd, rightEnd⟩ := linked.last_ends last
  obtain ⟨ps, shape⟩ := List.getLast?_eq_some_iff.mp last
  obtain ⟨front, final, whole, early, kind⟩ := pieces_concat shape
  obtain rfl : final = partText (textLines before) (textLines after) p := by
    rcases kind with ⟨_, same⟩ | ⟨equal, _⟩
    · exact same
    · exact absurd equal (by simp [change])
  rw [leftEnd] at removed
  obtain ⟨l, final⟩ : ∃ l, (textLines before).getLast? = some l :=
    ⟨_, List.getLast?_eq_some_getLast (List.ne_nil_of_length_pos (by omega))⟩
  obtain ⟨first, lines⟩ := @marked_concat "-" _ p.left l removed final
  refine ⟨front ++ first, l, marked "+" (textLines after) p.right p.rightEnd, ?_, ?_, ?_, ?_, ?_⟩
  · rw [whole, partText, if_neg (by simp [change]), leftEnd, lines, List.append_assoc, List.append_assoc,
      List.singleton_append]
  · rw [Ne, marked_eq_nil_iff]
    omega
  · refine List.forall_mem_append.mpr ⟨fun s member => closed_of_mem_early lefts rights shape (early s member), ?_⟩
    have others := @Lined.closed_dropLast_marked p.left (textLines before).length _ lefts "-"
    rwa [lines, List.dropLast_concat] at others
  · exact lefts.line l (List.mem_of_getLast? final)
  · rwa [closed_getLast_textLines final]

theorem applyHunks_joined (together : RunsTogether before after) :
    applyHunks (textLines (String.join (pieces (textLines before) (textLines after)))) (textLines before) = none := by
  have each := piece_of_mem_pieces (textLines_lined before) (textLines_lined after)
  have applied := applyHunks_pieces (textLines before) (textLines after)
  obtain ⟨front, l, others, whole, someAdded, closed, one, unended⟩ := pieces_of_runsTogether together
  rw [whole] at each applied
  obtain ⟨early, later⟩ := List.forall_mem_append.mp each
  obtain ⟨_, later⟩ := List.forall_mem_cons.mp later
  have inner : ∀ c ∈ ("-" ++ l).toList, Text.endsLine c = false := by
    rw [String.toList_append]
    exact List.forall_mem_append.mpr ⟨by simp [Text.endsLine], one.endsLine_eq_false unended⟩
  have filled : String.join others ≠ "" := by
    obtain ⟨s, others, rfl⟩ := List.exists_cons_of_ne_nil someAdded
    have piece := later s List.mem_cons_self
    rw [String.join_cons, Ne, ← String.toList_inj, String.toList_append]
    exact fun none => piece.line.ne_nil (List.append_eq_nil_iff.mp none).1
  obtain ⟨rest, more, goesOn, joined⟩ := textLines_append_of_not_endsLine inner filled
  have text : String.join (front ++ ("-" ++ l) :: others) = String.join front ++ (("-" ++ l) ++ String.join others) := by
    rw [String.join_append, String.join_cons]
  have apart : (("-" ++ l) ++ String.join others).toList.head? ≠ some '\n' := by simp
  rw [whole, text, textLines_join_append early closed apart, joined, String.append_assoc]
  refine applyHunks_eq_none applied ?_
  intro same
  rw [← String.toList_inj, String.toList_append, List.append_right_eq_self] at same
  exact goesOn (String.toList_eq_nil_iff.mp same)

-- The lines above the hunks.
def fileNames (path : String) : String := "--- " ++ ("a/" ++ path) ++ "\n" ++ ("+++ " ++ ("b/" ++ path) ++ "\n")

-- The lines below the file names.
def hunkLines (c : Change) : List String := (textLines c.diff).drop (textLines (fileNames c.path)).length

theorem textLines_fileNames {path : String} (oneLine : ∀ ch ∈ path.toList, Text.endsLine ch = false) :
    textLines (fileNames path) = ["--- " ++ ("a/" ++ path) ++ "\n", "+++ " ++ ("b/" ++ path) ++ "\n"] := by
  have line (mark side : String) (marks : ∀ ch ∈ mark.toList ++ side.toList, Text.endsLine ch = false) :
      Line (mark ++ (side ++ path) ++ "\n").toList := by
    have text : (mark ++ (side ++ path) ++ "\n").toList = (mark.toList ++ side.toList ++ path.toList) ++ ['\n'] := by
      simp
    rw [text]
    exact Line.append (List.forall_mem_append.mpr ⟨marks, oneLine⟩) (.single '\n')
  have first := line "--- " "a/" (by simp [Text.endsLine])
  have second := line "+++ " "b/" (by simp [Text.endsLine])
  rw [fileNames, textLines_append (closed_append_break _) (by simp), textLines_of_line first, textLines_of_line second]
  rfl

theorem before_ne_after {c : Change} (changed : c.isChanged = true) : c.before ≠ c.after := by
  unfold Change.isChanged at changed
  simp only [Bool.and_eq_true, bne_iff_ne] at changed
  exact changed.2

theorem diff_eq {c : Change} (changed : c.isChanged = true) :
    c.diff = fileNames c.path ++ String.join (pieces (textLines c.before) (textLines c.after)) := by
  have someHunk : hunks (textLines c.before) (textLines c.after) ≠ [] := by
    intro none
    exact pieces_ne_nil (textLines_ne (before_ne_after changed)) (by rw [pieces, none, List.flatMap_nil])
  unfold Change.diff unified
  rw [if_pos changed]
  split
  · exact absurd ‹_› someHunk
  · simp only [String.join_cons, fileNames, pieces, String.append_assoc]

theorem textLines_diff {c : Change} (changed : c.isChanged = true) :
    textLines c.diff =
      textLines (fileNames c.path) ++ textLines (String.join (pieces (textLines c.before) (textLines c.after))) := by
  have closed : Closed (fileNames c.path).toList := by
    rw [fileNames, ← String.append_assoc]
    exact closed_append_break _
  have each := piece_of_mem_pieces (textLines_lined c.before) (textLines_lined c.after)
  have apart := @head_join_ne "" _ each (by simp)
  rw [String.append_empty] at apart
  rw [diff_eq changed, textLines_append closed apart]

-- A difference is faithful exactly if no two of its pieces run together, and cannot be applied otherwise.
theorem diff_faithful_iff (c : Change) (changed : c.isChanged = true) :
    textLines c.diff = textLines (fileNames c.path) ++ hunkLines c ∧
      ((∀ ch ∈ c.path.toList, Text.endsLine ch = false) →
        textLines (fileNames c.path) = ["--- " ++ ("a/" ++ c.path) ++ "\n", "+++ " ++ ("b/" ++ c.path) ++ "\n"]) ∧
      (Faithful (hunkLines c) c.before c.after ↔ ¬ RunsTogether c.before c.after) ∧
      (RunsTogether c.before c.after → patch (hunkLines c) c.before = none) := by
  have text := textLines_diff changed
  have lines : hunkLines c = textLines (String.join (pieces (textLines c.before) (textLines c.after))) := by
    rw [hunkLines, text, List.drop_left]
  have refused (together : RunsTogether c.before c.after) : patch (hunkLines c) c.before = none := by
    rw [patch, lines, applyHunks_joined together]
    rfl
  refine ⟨by rw [lines, text], textLines_fileNames, ⟨?_, ?_⟩, refused⟩
  · intro faithful together
    exact absurd ((refused together).symm.trans faithful.applies) (by simp)
  · intro apart
    have each := piece_of_mem_pieces (textLines_lined c.before) (textLines_lined c.after)
    have applied := applyHunks_pieces (textLines c.before) (textLines c.after)
    rw [← textLines_join each (closed_dropLast_pieces (before_ne_after changed) apart), ← lines] at applied
    refine ⟨?_, ownLines_of_applyHunks applied⟩
    rw [patch, applied, Option.map_some, join_textLines]

-- A call is cut in a file of one line, without and with a line boundary at its end.
theorem diff_faithful_iff_call :
    RunsTogether "len(1, 2)" "len(1)\n" ∧
      patch (hunkLines ⟨"m.py", "len(1, 2)", "len(1)\n", [], none⟩) "len(1, 2)" = none ∧
      Faithful (hunkLines ⟨"m.py", "len(1, 2)\n", "len(1)\n", [], none⟩) "len(1, 2)\n" "len(1)\n" := by
  have together : RunsTogether "len(1, 2)" "len(1)\n" := by
    refine ⟨?_, ⟨false, 0, 1, 0, 1⟩, by decide +kernel, rfl, by decide, by decide⟩
    rintro ⟨c, last, ends⟩
    obtain rfl : ')' = c := by simpa using last
    exact absurd ends (by decide)
  have apart : ¬ RunsTogether "len(1, 2)\n" "len(1)\n" := fun together =>
    together.1 ⟨'\n', by decide, by decide⟩
  exact ⟨together, (diff_faithful_iff _ (by decide)).2.2.2 together, (diff_faithful_iff _ (by decide)).2.2.1.mpr apart⟩

end Whittle.Diff
