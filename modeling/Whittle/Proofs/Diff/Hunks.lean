import Whittle.Proofs.Diff.Alignment

namespace Whittle.Diff

variable {left right : List String} {i j i' j' : Nat} {p : Part} {ps : List Part} {hs : List (List Part)}

-- Hunks from a pair of places on, with the same lines before, between and after them.
def Covers (left right : List String) : Nat → Nat → List (List Part) → Prop
  | i, j, [] => Same left right i j left.length right.length
  | i, j, h :: hs =>
    ∃ i₁ j₁ i₂ j₂, Same left right i j i₁ j₁ ∧ Linked left right i₁ j₁ h i₂ j₂ ∧ Covers left right i₂ j₂ hs

namespace Same

theorem refl (lefts : i ≤ left.length) (rights : j ≤ right.length) : Same left right i j i j :=
  ⟨⟨Nat.le_refl _, Nat.le_refl _, lefts, rights⟩, by simp [between]⟩

theorem split {d : Nat} (same : Same left right i j i' j') (short : d ≤ i' - i) :
    Same left right i j (i + d) (j + d) ∧ Same left right (i + d) (j + d) i' j' := by
  obtain ⟨⟨lefts, rights, leftEnd, rightEnd⟩, equal⟩ := id same
  have sizes := same.size_eq
  have lines := equal
  rw [← between_append_between left (show i ≤ i + d by omega) (show i + d ≤ i' by omega),
    ← between_append_between right (show j ≤ j + d by omega) (show j + d ≤ j' by omega)] at lines
  have lengths : (between left i (i + d)).length = (between right j (j + d)).length := by
    rw [length_between (by omega), length_between (by omega)]
    omega
  obtain ⟨front, back⟩ := List.append_inj lines lengths
  exact ⟨⟨⟨by omega, by omega, by omega, by omega⟩, front⟩, ⟨⟨by omega, by omega, by omega, by omega⟩, back⟩⟩

end Same

theorem Covers.earlier (same : Same left right i j i' j') (covers : Covers left right i' j' hs) :
    Covers left right i j hs := by
  cases hs with
  | nil => exact same.trans covers
  | cons h hs =>
    obtain ⟨i₁, j₁, i₂, j₂, before, linked, after⟩ := covers
    exact ⟨i₁, j₁, i₂, j₂, same.trans before, linked, after⟩

theorem Part.Sound.same (sound : p.Sound left right) (equal : p.isEqual = true) :
    Same left right p.left p.right p.leftEnd p.rightEnd := ⟨sound.toInside, sound.equal equal⟩

theorem Part.sound_of_same (same : Same left right p.left p.right p.leftEnd p.rightEnd) : p.Sound left right :=
  ⟨same.toInside, fun _ => same.equal⟩

-- The lines that are dropped in front are the same on both sides.
theorem Part.Sound.keepEnd (sound : p.Sound left right) :
    p.keepEnd.Sound left right ∧ Same left right p.left p.right p.keepEnd.left p.keepEnd.right ∧
      p.keepEnd.leftEnd = p.leftEnd ∧ p.keepEnd.rightEnd = p.rightEnd := by
  obtain ⟨lefts, rights, leftEnd, rightEnd⟩ := sound.toInside
  unfold Part.keepEnd
  split
  · rename_i equal
    have sizes := (sound.same equal).size_eq
    obtain ⟨front, back⟩ := (sound.same equal).split (Nat.sub_le (p.leftEnd - p.left) context)
    have lefts' : max p.left (p.leftEnd - context) = p.left + (p.leftEnd - p.left - context) := by omega
    have rights' : max p.right (p.rightEnd - context) = p.right + (p.leftEnd - p.left - context) := by omega
    rw [lefts', rights']
    exact ⟨Part.sound_of_same back, front, rfl, rfl⟩
  · exact ⟨sound, Same.refl (by omega) (by omega), rfl, rfl⟩

-- The lines that are dropped at the end are the same on both sides.
theorem Part.Sound.keepFront (sound : p.Sound left right) :
    p.keepFront.Sound left right ∧ Same left right p.keepFront.leftEnd p.keepFront.rightEnd p.leftEnd p.rightEnd ∧
      p.keepFront.left = p.left ∧ p.keepFront.right = p.right := by
  obtain ⟨lefts, rights, leftEnd, rightEnd⟩ := sound.toInside
  unfold Part.keepFront
  split
  · rename_i equal
    have sizes := (sound.same equal).size_eq
    obtain ⟨front, back⟩ := (sound.same equal).split (Nat.min_le_left (p.leftEnd - p.left) context)
    have lefts' : min p.leftEnd (p.left + context) = p.left + min (p.leftEnd - p.left) context := by omega
    have rights' : min p.rightEnd (p.right + context) = p.right + min (p.leftEnd - p.left) context := by omega
    rw [lefts', rights']
    exact ⟨Part.sound_of_same front, back, rfl, rfl⟩
  · exact ⟨sound, Same.refl (by omega) (by omega), rfl, rfl⟩

-- A wide part has lines that are neither among its first nor among its last ones.
theorem Part.Sound.middle (sound : p.Sound left right) (wide : p.isWide = true) :
    Same left right p.keepFront.leftEnd p.keepFront.rightEnd p.keepEnd.left p.keepEnd.right := by
  obtain ⟨lefts, rights, leftEnd, rightEnd⟩ := sound.toInside
  unfold Part.isWide context at wide
  simp only [Bool.and_eq_true, decide_eq_true_eq] at wide
  obtain ⟨equal, size⟩ := wide
  have sizes := (sound.same equal).size_eq
  obtain ⟨_, back⟩ := (sound.same equal).split (show context ≤ p.leftEnd - p.left by unfold context; omega)
  obtain ⟨middle, _⟩ := back.split (show p.leftEnd - p.left - 2 * context ≤ _ by unfold context; omega)
  have leftFront : p.keepFront.leftEnd = p.left + context := by
    simp only [Part.keepFront, if_pos equal, context]
    omega
  have rightFront : p.keepFront.rightEnd = p.right + context := by
    simp only [Part.keepFront, if_pos equal, context]
    omega
  have leftBack : p.keepEnd.left = p.left + context + (p.leftEnd - p.left - 2 * context) := by
    simp only [Part.keepEnd, if_pos equal, context]
    omega
  have rightBack : p.keepEnd.right = p.right + context + (p.leftEnd - p.left - 2 * context) := by
    simp only [Part.keepEnd, if_pos equal, context]
    omega
  rw [leftFront, rightFront, leftBack, rightBack]
  exact middle

namespace Linked

theorem inside (linked : Linked left right i j ps i' j') (leftEnd : i' ≤ left.length) (rightEnd : j' ≤ right.length) :
    Inside left right i j i' j' := by
  induction ps generalizing i j with
  | nil =>
    obtain ⟨rfl, rfl⟩ := linked
    exact ⟨Nat.le_refl _, Nat.le_refl _, leftEnd, rightEnd⟩
  | cons p ps ih =>
    obtain ⟨rfl, rfl, sound, later⟩ := linked
    have later := ih later
    exact ⟨Nat.le_trans sound.left_le later.left_le, Nat.le_trans sound.right_le later.right_le, leftEnd, rightEnd⟩

theorem start (linked : Linked left right i j ps i' j') (leftEnd : i' ≤ left.length) (rightEnd : j' ≤ right.length) :
    Same left right i j i j := by
  obtain ⟨lefts, rights, _, _⟩ := linked.inside leftEnd rightEnd
  exact Same.refl (Nat.le_trans lefts leftEnd) (Nat.le_trans rights rightEnd)

-- Parts without a change hold the same lines.
theorem same (linked : Linked left right i j ps i' j') (leftEnd : i' ≤ left.length) (rightEnd : j' ≤ right.length)
    (equal : hasChange ps = false) : Same left right i j i' j' := by
  induction ps generalizing i j with
  | nil =>
    obtain ⟨rfl, rfl⟩ := linked
    exact Same.refl leftEnd rightEnd
  | cons p ps ih =>
    obtain ⟨rfl, rfl, sound, later⟩ := linked
    simp only [hasChange, List.any_cons, Bool.or_eq_false_iff, Bool.not_eq_false'] at equal
    exact (sound.same equal.1).trans (ih later equal.2)

theorem mapFirst_keepEnd (linked : Linked left right i j ps i' j') (leftEnd : i' ≤ left.length)
    (rightEnd : j' ≤ right.length) :
    ∃ i₁ j₁, Same left right i j i₁ j₁ ∧ Linked left right i₁ j₁ (mapFirst Part.keepEnd ps) i' j' := by
  cases ps with
  | nil =>
    obtain ⟨rfl, rfl⟩ := linked
    exact ⟨i, j, Same.refl leftEnd rightEnd, rfl, rfl⟩
  | cons p ps =>
    obtain ⟨rfl, rfl, sound, later⟩ := linked
    obtain ⟨kept, same, lefts, rights⟩ := sound.keepEnd
    refine ⟨_, _, same, rfl, rfl, kept, ?_⟩
    rw [lefts, rights]
    exact later

theorem mapLast_keepFront (linked : Linked left right i j ps i' j') (leftEnd : i' ≤ left.length)
    (rightEnd : j' ≤ right.length) :
    ∃ i₂ j₂, Linked left right i j (mapLast Part.keepFront ps) i₂ j₂ ∧ Same left right i₂ j₂ i' j' := by
  fun_induction mapLast Part.keepFront ps generalizing i j with
  | case1 =>
    obtain ⟨rfl, rfl⟩ := linked
    exact ⟨i, j, ⟨rfl, rfl⟩, Same.refl leftEnd rightEnd⟩
  | case2 p =>
    obtain ⟨rfl, rfl, sound, rfl, rfl⟩ := linked
    obtain ⟨kept, same, lefts, rights⟩ := sound.keepFront
    exact ⟨_, _, ⟨lefts, rights, kept, rfl, rfl⟩, same⟩
  | case3 p ps _ ih =>
    obtain ⟨rfl, rfl, sound, later⟩ := linked
    obtain ⟨i₂, j₂, shorter, same⟩ := ih later
    exact ⟨i₂, j₂, ⟨rfl, rfl, sound, shorter⟩, same⟩

end Linked

theorem cutHunks_covers {i₀ j₀ : Nat} {group : List Part} (before : Linked left right i₀ j₀ group.reverse i j)
    (onward : Linked left right i j ps i' j') (after : Same left right i' j' left.length right.length) :
    Covers left right i₀ j₀ (cutHunks group ps) := by
  induction ps generalizing i j i₀ j₀ group with
  | nil =>
    obtain ⟨rfl, rfl⟩ := onward
    exact ⟨i₀, j₀, i, j, before.start after.left_le after.right_le, before, after⟩
  | cons p ps ih =>
    obtain ⟨rfl, rfl, sound, later⟩ := onward
    unfold cutHunks
    split
    · rename_i wide
      obtain ⟨front, _, frontLeft, frontRight⟩ := sound.keepFront
      obtain ⟨back, _, backLeft, backRight⟩ := sound.keepEnd
      have closed : Linked left right i₀ j₀ (p.keepFront :: group).reverse p.keepFront.leftEnd p.keepFront.rightEnd := by
        rw [List.reverse_cons]
        exact before.append ⟨frontLeft, frontRight, front, rfl, rfl⟩
      have opened : Linked left right p.keepEnd.left p.keepEnd.right [p.keepEnd].reverse p.leftEnd p.rightEnd :=
        ⟨rfl, rfl, back, backLeft, backRight⟩
      exact ⟨i₀, j₀, _, _, closed.start front.left_inside front.right_inside, closed,
        Covers.earlier (sound.middle wide) (ih opened later)⟩
    · refine ih ?_ later
      rw [List.reverse_cons]
      exact before.append ⟨rfl, rfl, sound, rfl, rfl⟩

theorem Covers.inside (covers : Covers left right i j hs) : Inside left right i j left.length right.length := by
  induction hs generalizing i j with
  | nil => exact covers.toInside
  | cons h hs ih =>
    obtain ⟨i₁, j₁, i₂, j₂, before, linked, after⟩ := covers
    have rest := ih after
    have hunk := linked.inside rest.left_le rest.right_le
    exact ⟨Nat.le_trans before.left_le (Nat.le_trans hunk.left_le rest.left_le),
      Nat.le_trans before.right_le (Nat.le_trans hunk.right_le rest.right_le), Nat.le_refl _, Nat.le_refl _⟩

theorem Covers.filter (covers : Covers left right i j hs) : Covers left right i j (hs.filter hasChange) := by
  induction hs generalizing i j with
  | nil => exact covers
  | cons h hs ih =>
    obtain ⟨i₁, j₁, i₂, j₂, before, linked, after⟩ := covers
    rw [List.filter_cons]
    split
    · exact ⟨i₁, j₁, i₂, j₂, before, linked, ih after⟩
    · rename_i equal
      have rest := after.inside
      have same := linked.same rest.left_le rest.right_le (Bool.not_eq_true _ ▸ equal)
      exact Covers.earlier (before.trans same) (ih after)

theorem hunks_cover (left right : List String) : Covers left right 0 0 (hunks left right) := by
  obtain ⟨i₁, j₁, before, first⟩ := (parts_linked left right).mapFirst_keepEnd (Nat.le_refl _) (Nat.le_refl _)
  obtain ⟨i₂, j₂, last, after⟩ := first.mapLast_keepFront (Nat.le_refl _) (Nat.le_refl _)
  have cut : Covers left right i₁ j₁ (cutHunks [] (mapLast Part.keepFront (mapFirst Part.keepEnd (parts left right)))) :=
    cutHunks_covers ⟨rfl, rfl⟩ last after
  exact (Covers.earlier before cut).filter

end Whittle.Diff
