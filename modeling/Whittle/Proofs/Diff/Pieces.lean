import Whittle.Proofs.Diff.Patch
import Whittle.Proofs.Diff.Splitting

namespace Whittle.Diff

open Text (Line Closed)

variable {left right : List String} {p : Part} {i j : Nat}

theorem endsLine_of_isDigit {c : Char} (digit : c.isDigit = true) : Text.endsLine c = false := by
  have bounds : 48 ≤ c.toNat ∧ c.toNat ≤ 57 := by
    simpa [Char.isDigit, UInt32.le_iff_toNat_le] using digit
  simp only [Text.endsLine, Bool.or_eq_false_iff, Bool.and_eq_false_iff, decide_eq_false_iff_not, beq_eq_false_iff_ne]
  omega

theorem endsLine_rangeText (first last : Nat) : ∀ c ∈ (rangeText first last).toList, Text.endsLine c = false := by
  have digits (n : Nat) : ∀ c ∈ (toString n).toList, Text.endsLine c = false := by
    rw [Nat.toString_eq_repr, Nat.toList_repr]
    exact fun c member => endsLine_of_isDigit (Nat.isDigit_of_mem_toDigits (by decide) (by decide) member)
  unfold rangeText
  simp only
  split
  · exact digits _
  · split
    · rw [String.toList_append]
      exact List.forall_mem_append.mpr ⟨digits _, by simp [Text.endsLine]⟩
    · rw [String.toList_append, String.toList_append, List.forall_mem_append, List.forall_mem_append]
      exact ⟨⟨digits _, by simp [Text.endsLine]⟩, digits _⟩

theorem piece_headText (i i' j j' : Nat) : Piece (headText i i' j j') ∧ Closed (headText i i' j j').toList := by
  have text : (headText i i' j j').toList =
      ("@@ -".toList ++ (rangeText i i').toList ++ " +".toList ++ (rangeText j j').toList ++ " @@".toList) ++ ['\n'] := by
    simp [headText]
  have inner : ∀ c ∈ "@@ -".toList ++ (rangeText i i').toList ++ " +".toList ++ (rangeText j j').toList ++ " @@".toList,
      Text.endsLine c = false := by
    simp only [List.forall_mem_append]
    exact ⟨⟨⟨⟨by simp [Text.endsLine], endsLine_rangeText i i'⟩, by simp [Text.endsLine]⟩, endsLine_rangeText j j'⟩,
      by simp [Text.endsLine]⟩
  refine ⟨⟨?_, ?_⟩, ?_⟩
  · rw [text]
    exact Line.append inner (.single '\n')
  · rw [text]
    simp
  · rw [text]
    exact (Text.closed_append (List.cons_ne_nil _ _)).mpr (Text.closed_singleton.mpr (by decide))

theorem between_subset (lines : List String) (i j : Nat) : between lines i j ⊆ lines :=
  fun _ member => List.mem_of_mem_drop (List.mem_of_mem_take member)

theorem between_subset_between {lines : List String} {i' j' : Nat} (first : i ≤ i') (last : j' ≤ j) :
    between lines i' j' ⊆ between lines i j := by
  intro line member
  unfold between at member ⊢
  obtain ⟨k, inner, rfl⟩ := List.mem_take_iff_getElem.mp member
  rw [List.length_drop] at inner
  refine List.mem_take_iff_getElem.mpr ⟨i' - i + k, by rw [List.length_drop]; omega, ?_⟩
  rw [List.getElem_drop, List.getElem_drop]
  congr 1
  omega

theorem dropLast_eq_between (lines : List String) : lines.dropLast = between lines 0 (lines.length - 1) :=
  List.dropLast_eq_take

theorem dropLast_between (lines : List String) (i j : Nat) :
    (between lines i j).dropLast = between lines i (min j lines.length - 1) := by
  unfold between
  rw [List.dropLast_eq_take, List.take_take, List.length_take, List.length_drop]
  congr 1
  omega

-- Lines of a text, with their boundaries.
structure Lined (lines : List String) : Prop where
  line : ∀ l ∈ lines, Line l.toList
  closed : ∀ l ∈ lines.dropLast, Closed l.toList

theorem textLines_lined (s : String) : Lined (textLines s) :=
  ⟨fun _ member => line_of_mem_textLines member, fun _ member => closed_of_mem_dropLast_textLines member⟩

namespace Lined

variable {lines : List String}

theorem closed_between (lined : Lined lines) (short : j < lines.length) : ∀ l ∈ between lines i j, Closed l.toList := by
  intro l member
  refine lined.closed l ?_
  rw [dropLast_eq_between]
  exact between_subset_between (Nat.zero_le i) (by omega) member

theorem piece_marked (lined : Lined lines) {mark : String} {m : Char} (text : mark.toList = [m])
    (inner : Text.endsLine m = false) : ∀ s ∈ marked mark lines i j, Piece s := by
  intro s member
  obtain ⟨l, listed, rfl⟩ := List.mem_map.mp member
  exact Diff.piece_marked text inner (lined.line l (between_subset lines i j listed))

theorem closed_marked (lined : Lined lines) {mark : String} (closed : ∀ l ∈ between lines i j, Closed l.toList) :
    ∀ s ∈ marked mark lines i j, Closed s.toList := by
  intro s member
  obtain ⟨l, listed, rfl⟩ := List.mem_map.mp member
  exact (Diff.closed_marked (lined.line l (between_subset lines i j listed))).mpr (closed l listed)

theorem closed_dropLast_marked (lined : Lined lines) {mark : String} :
    ∀ s ∈ (marked mark lines i j).dropLast, Closed s.toList := by
  intro s member
  have pieces : (marked mark lines i j).dropLast = marked mark lines i (min j lines.length - 1) := by
    change ((between lines i j).map _).dropLast = _
    rw [← List.map_dropLast, dropLast_between]
    rfl
  rw [pieces] at member
  by_cases empty : lines = []
  · simp [empty, marked] at member
  · have filled : 0 < lines.length := List.length_pos_iff.mpr empty
    exact lined.closed_marked (lined.closed_between (by omega)) s member

end Lined

theorem piece_of_mem_partText (lefts : Lined left) (rights : Lined right) : ∀ s ∈ partText left right p, Piece s := by
  intro s member
  unfold partText at member
  split at member
  · exact lefts.piece_marked rfl (by decide) s member
  · rcases List.mem_append.mp member with removed | added
    · exact lefts.piece_marked rfl (by decide) s removed
    · exact rights.piece_marked rfl (by decide) s added

theorem closed_of_mem_partText (lefts : Lined left) (rights : Lined right) (sound : p.Sound left right)
    (inner : p.Inner left right) : ∀ s ∈ partText left right p, Closed s.toList := by
  unfold Part.Inner at inner
  unfold partText
  split
  · rename_i equal
    rw [if_pos equal] at inner
    apply lefts.closed_marked
    rcases inner with short | short
    · exact lefts.closed_between short
    · rw [sound.equal equal]
      exact rights.closed_between short
  · rename_i change
    rw [if_neg change] at inner
    exact List.forall_mem_append.mpr ⟨lefts.closed_marked (lefts.closed_between inner.1),
      rights.closed_marked (rights.closed_between inner.2)⟩

theorem partText_keepEnd_subset : partText left right p.keepEnd ⊆ partText left right p := by
  unfold Part.keepEnd
  split
  · rename_i equal
    unfold partText
    rw [if_pos equal, if_pos equal]
    exact List.map_subset _ (between_subset_between (Nat.le_max_left _ _) (Nat.le_refl _))
  · exact List.Subset.refl _

theorem partText_keepFront_subset : partText left right p.keepFront ⊆ partText left right p := by
  unfold Part.keepFront
  split
  · rename_i equal
    unfold partText
    rw [if_pos equal, if_pos equal]
    exact List.map_subset _ (between_subset_between (Nat.le_refl _) (Nat.min_le_left _ _))
  · exact List.Subset.refl _

-- Pieces that stem from some parts.
def FromParts (left right : List String) (ps : List Part) (q : Part) : Prop :=
  ∃ p ∈ ps, partText left right q ⊆ partText left right p

theorem FromParts.of_mem {ps : List Part} (member : p ∈ ps) : FromParts left right ps p := ⟨p, member, List.Subset.refl _⟩

theorem cutHunks_concat {q : Part} (narrow : q.isWide = false) (group ps : List Part) :
    ∃ hs h, cutHunks group (ps ++ [q]) = hs ++ [h ++ [q]] ∧
      ∀ r ∈ hs.flatten ++ h, FromParts left right (group ++ ps) r := by
  induction ps generalizing group with
  | nil =>
    refine ⟨[], group.reverse, ?_, fun r member => .of_mem (by simpa using member)⟩
    simp [cutHunks, narrow]
  | cons p ps ih =>
    by_cases wide : p.isWide = true
    · obtain ⟨hs, h, cut, origin⟩ := ih [p.keepEnd]
      refine ⟨(p.keepFront :: group).reverse :: hs, h, ?_, ?_⟩
      · rw [List.cons_append, cutHunks, if_pos wide, cut, List.cons_append]
      · intro r member
        rw [List.flatten_cons, List.append_assoc, List.mem_append, List.mem_reverse, List.mem_cons] at member
        rcases member with (rfl | grouped) | later
        · exact ⟨p, by simp, partText_keepFront_subset⟩
        · exact .of_mem (List.mem_append_left _ grouped)
        · obtain ⟨s, member, pieces⟩ := origin r later
          rw [List.singleton_append, List.mem_cons] at member
          rcases member with rfl | listed
          · exact ⟨p, by simp, List.Subset.trans pieces partText_keepEnd_subset⟩
          · exact ⟨s, by simp [listed], pieces⟩
    · obtain ⟨hs, h, cut, origin⟩ := ih (p :: group)
      refine ⟨hs, h, by rw [List.cons_append, cutHunks, if_neg wide, cut], ?_⟩
      intro r member
      obtain ⟨s, member, pieces⟩ := origin r member
      refine ⟨s, ?_, pieces⟩
      simp only [List.mem_append, List.mem_cons] at member ⊢
      tauto

theorem mapLast_concat {α : Type} (f : α → α) (xs : List α) (x : α) : mapLast f (xs ++ [x]) = xs ++ [f x] := by
  induction xs with
  | nil => rfl
  | cons y xs ih =>
    cases xs with
    | nil => rfl
    | cons z xs => exact congrArg (y :: ·) ih

theorem isWide_keepFront : p.keepFront.isWide = false := by
  unfold Part.isWide Part.keepFront context
  split
  · simp only [Bool.and_eq_false_iff, decide_eq_false_iff_not]
    omega
  · rename_i change
    simp [change]

-- Only the last hunk can hold lines of the last part, and a change it holds whole.
theorem hunks_concat {ps : List Part} {last : Part} (shape : parts left right = ps ++ [last]) :
    ∃ hs h q, hunks left right = (hs ++ [h ++ [q]]).filter hasChange ∧
      (∀ r ∈ hs.flatten ++ h, FromParts left right ps r) ∧
      (last.isEqual = false ∧ q = last ∨ last.isEqual = true ∧ q.isEqual = true) := by
  have kept : last.isEqual = false ∧ last.keepFront = last ∧ last.keepEnd.keepFront = last ∨
      last.isEqual = true ∧ last.keepFront.isEqual = true ∧ last.keepEnd.keepFront.isEqual = true := by
    cases equal : last.isEqual with
    | false => simp [Part.keepFront, Part.keepEnd, equal]
    | true => simp [Part.keepFront, Part.keepEnd, equal]
  unfold hunks
  rw [shape]
  cases ps with
  | nil =>
    obtain ⟨hs, h, cut, origin⟩ := @cutHunks_concat left right _ (@isWide_keepFront last.keepEnd) [] []
    refine ⟨hs, h, last.keepEnd.keepFront, congrArg _ cut, origin, ?_⟩
    tauto
  | cons p ps =>
    obtain ⟨hs, h, cut, origin⟩ := @cutHunks_concat left right _ (@isWide_keepFront last) [] (p.keepEnd :: ps)
    refine ⟨hs, h, last.keepFront, ?_, ?_, by tauto⟩
    · rw [List.cons_append, mapFirst, ← List.cons_append, mapLast_concat, cut]
    · intro r member
      obtain ⟨s, listed, pieces⟩ := origin r member
      rw [List.nil_append, List.mem_cons] at listed
      rcases listed with rfl | later
      · exact ⟨p, List.mem_cons_self, List.Subset.trans pieces partText_keepEnd_subset⟩
      · exact ⟨s, List.mem_cons_of_mem _ later, pieces⟩

theorem mem_hunkText {h : List Part} {s : String} (member : s ∈ hunkText left right h) :
    (∃ i i' j j', s = headText i i' j j') ∨ ∃ r ∈ h, s ∈ partText left right r := by
  by_cases filled : h = []
  · rw [filled] at member
    exact absurd member List.not_mem_nil
  · obtain ⟨first, last, _, _, text⟩ := @hunkText_eq left right h filled
    rw [text, List.mem_cons, List.mem_flatMap] at member
    rcases member with rfl | inside
    · exact .inl ⟨_, _, _, _, rfl⟩
    · exact .inr inside

-- The pieces of all hunks: those before the last part, and those of it.
theorem pieces_concat {ps : List Part} {last : Part} (shape : parts left right = ps ++ [last]) :
    ∃ front final, pieces left right = front ++ final ∧
      (∀ s ∈ front, (∃ i i' j j', s = headText i i' j j') ∨ ∃ p ∈ ps, s ∈ partText left right p) ∧
      (last.isEqual = false ∧ final = partText left right last ∨
        last.isEqual = true ∧ ∃ i j, final = marked " " left i j) := by
  obtain ⟨hs, h, q, cut, origin, kind⟩ := hunks_concat shape
  have early : ∀ s ∈ (hs.filter hasChange).flatMap (hunkText left right),
      (∃ i i' j j', s = headText i i' j j') ∨ ∃ p ∈ ps, s ∈ partText left right p := by
    intro s member
    obtain ⟨g, listed, inside⟩ := List.mem_flatMap.mp member
    rcases mem_hunkText inside with head | ⟨r, grouped, piece⟩
    · exact .inl head
    · have within : r ∈ hs.flatten ++ h :=
        List.mem_append_left _ (List.mem_flatten_of_mem (List.mem_filter.mp listed).1 grouped)
      obtain ⟨p, member, pieces⟩ := origin r within
      exact .inr ⟨p, member, pieces piece⟩
  unfold pieces
  rw [cut, List.filter_append, List.flatMap_append]
  by_cases change : hasChange (h ++ [q]) = true
  · obtain ⟨first, last', _, _, text⟩ := @hunkText_eq left right (h ++ [q]) (by simp)
    refine ⟨(hs.filter hasChange).flatMap (hunkText left right) ++
      headText first.left last'.leftEnd first.right last'.rightEnd :: h.flatMap (partText left right),
      partText left right q, ?_, ?_, ?_⟩
    · rw [List.filter_cons, if_pos change, List.filter_nil, List.flatMap_singleton, text, List.flatMap_append,
        List.flatMap_singleton, List.append_assoc, List.cons_append]
    · intro s member
      rw [List.mem_append, List.mem_cons] at member
      rcases member with before | rfl | inside
      · exact early s before
      · exact .inl ⟨_, _, _, _, rfl⟩
      · obtain ⟨r, grouped, piece⟩ := List.mem_flatMap.mp inside
        obtain ⟨p, member, pieces⟩ := origin r (List.mem_append_right _ grouped)
        exact .inr ⟨p, member, pieces piece⟩
    · rcases kind with ⟨changed, rfl⟩ | ⟨equal, narrowed⟩
      · exact .inl ⟨changed, rfl⟩
      · exact .inr ⟨equal, q.left, q.leftEnd, by rw [partText, if_pos narrowed]⟩
  · refine ⟨(hs.filter hasChange).flatMap (hunkText left right), [], ?_, early, ?_⟩
    · rw [List.filter_cons, if_neg change, List.filter_nil, List.flatMap_nil]
    · rcases kind with ⟨changed, rfl⟩ | ⟨equal, narrowed⟩
      · exact absurd (by simp [hasChange, changed]) change
      · exact .inr ⟨equal, 0, 0, by simp [marked]⟩

theorem piece_of_mem_pieces (lefts : Lined left) (rights : Lined right) : ∀ s ∈ pieces left right, Piece s := by
  intro s member
  obtain ⟨h, _, inside⟩ := List.mem_flatMap.mp member
  rcases mem_hunkText inside with ⟨i, i', j, j', rfl⟩ | ⟨r, _, piece⟩
  · exact (piece_headText i i' j j').1
  · exact piece_of_mem_partText lefts rights s piece

-- Lines come after every part but the last, so its pieces are closed.
theorem closed_of_mem_early (lefts : Lined left) (rights : Lined right) {ps : List Part} {last : Part}
    (shape : parts left right = ps ++ [last]) {s : String}
    (early : (∃ i i' j j', s = headText i i' j j') ∨ ∃ p ∈ ps, s ∈ partText left right p) : Closed s.toList := by
  rcases early with ⟨i, i', j, j', rfl⟩ | ⟨p, member, piece⟩
  · exact (piece_headText i i' j j').2
  · have sound : p.Sound left right := (parts_linked left right).sound (by rw [shape]; exact List.mem_append_left _ member)
    have inner : p.Inner left right := parts_inner (by rw [shape, List.dropLast_concat]; exact member)
    exact closed_of_mem_partText lefts rights sound inner s piece

end Whittle.Diff
