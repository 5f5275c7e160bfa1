import Whittle.Diff.Unified

namespace Whittle.Diff

namespace Pair

variable {p : Pair} {alo ahi blo bhi : Nat} {r : Run}

-- A run between two places on each side whose lines have the same numbers.
structure Fits (p : Pair) (alo ahi blo bhi : Nat) (r : Run) : Prop where
  left_ge : alo ≤ r.left
  left_le : r.left + r.size ≤ ahi
  right_ge : blo ≤ r.right
  right_le : r.right + r.size ≤ bhi
  same : ∀ k < r.size, p.same (r.left + k) (r.right + k) = true

-- Runs that end before a place on the left, each given by its last place on the right and its length.
def Ending (p : Pair) (alo blo bhi i : Nat) (ends : Ends) : Prop :=
  ∀ j k, (j, k) ∈ ends → k ≤ j + 1 ∧ p.Fits alo i blo bhi ⟨i - k, j + 1 - k, k⟩

-- Every place that a line may start a run at holds the same line.
def Placed (p : Pair) : Prop := ∀ i a, p.left[i]? = some a → ∀ js, p.places[a]? = some js → ∀ j ∈ js, p.same i j = true

theorem Fits.lower {i : Nat} (fits : p.Fits alo i blo bhi r) : p.Fits alo (i + 1) blo bhi r :=
  { fits with left_le := Nat.le_succ_of_le fits.left_le }

-- The run of a place that goes on from the line before it.
theorem Ending.next {i j k : Nat} {previous : Ends} (earlier : p.Ending alo blo bhi i previous) (above : alo ≤ i)
    (inside : blo ≤ j ∧ j < bhi) (here : p.same i j = true)
    (found : k = if j = 0 then 0 else (previous.lookup (j - 1)).getD 0) :
    k + 1 ≤ j + 1 ∧ p.Fits alo (i + 1) blo bhi ⟨i + 1 - (k + 1), j + 1 - (k + 1), k + 1⟩ := by
  by_cases start : k = 0
  · subst start
    refine ⟨by omega, by simpa using above, by simp, by simpa using inside.1, by simp only; omega, ?_⟩
    intro n short
    obtain rfl : n = 0 := by simpa using short
    simpa using here
  · have positive : j ≠ 0 := by
      rintro rfl
      exact start (by simpa using found)
    rw [if_neg positive] at found
    have listed : (j - 1, k) ∈ previous := by
      cases known : previous.lookup (j - 1) with
      | none => exact absurd (by simpa [known] using found) start
      | some n =>
        obtain ⟨front, back, rfl, _⟩ := List.lookup_eq_some_iff.mp known
        simp [found, known]
    obtain ⟨short, fits⟩ := earlier _ _ listed
    obtain ⟨left_ge, left_le, right_ge, right_le, same⟩ := fits
    simp only at left_ge left_le right_ge right_le same
    refine ⟨by omega, by simp only; omega, by simp only; omega, by simp only; omega, by simp only; omega, ?_⟩
    intro n inner
    simp only at inner ⊢
    by_cases last : n = k
    · have lefts : i + 1 - (k + 1) + n = i := by omega
      have rights : j + 1 - (k + 1) + n = j := by omega
      rw [lefts, rights]
      exact here
    · have lefts : i + 1 - (k + 1) + n = i - k + n := by omega
      have rights : j + 1 - (k + 1) + n = j - 1 + 1 - k + n := by omega
      rw [lefts, rights]
      exact same n (by omega)

theorem scanPlaces_fits {i : Nat} {previous : Ends} (above : alo ≤ i) (earlier : p.Ending alo blo bhi i previous)
    (js : List Nat) (here : ∀ j ∈ js, p.same i j = true) (best : Run) (ends : Ends)
    (fits : p.Fits alo (i + 1) blo bhi best) (ending : p.Ending alo blo bhi (i + 1) ends) :
    p.Fits alo (i + 1) blo bhi (scanPlaces blo bhi i previous js best ends).1 ∧
      p.Ending alo blo bhi (i + 1) (scanPlaces blo bhi i previous js best ends).2 := by
  have turned {ends : Ends} (ending : p.Ending alo blo bhi (i + 1) ends) : p.Ending alo blo bhi (i + 1) ends.reverse :=
    fun j k listed => ending j k (List.mem_reverse.mp listed)
  induction js generalizing best ends with
  | nil => exact ⟨fits, turned ending⟩
  | cons j js ih =>
    have rest : ∀ j ∈ js, p.same i j = true := fun j member => here j (List.mem_cons_of_mem _ member)
    unfold scanPlaces
    split
    · exact ih rest best ends fits ending
    · split
      · exact ⟨fits, turned ending⟩
      · rename_i reached inside
        simp only
        generalize found : (if j = 0 then 0 else (previous.lookup (j - 1)).getD 0) = k
        obtain ⟨short, next⟩ := earlier.next above ⟨by omega, by omega⟩ (here j List.mem_cons_self) found.symm
        refine ih rest _ _ ?_ ?_
        · split
          · exact next
          · exact fits
        · intro j' k' listed
          rcases List.mem_cons.mp listed with new | old
          · cases new
            exact ⟨short, next⟩
          · exact ending j' k' old

theorem scanLeft_fits (placed : p.Placed) (n i : Nat) (above : alo ≤ i) (best : Run) (previous : Ends)
    (fits : p.Fits alo i blo bhi best) (ending : p.Ending alo blo bhi i previous) :
    p.Fits alo (i + n) blo bhi (p.scanLeft blo bhi n i best previous) := by
  induction n generalizing i best previous with
  | zero => exact fits
  | succ n ih =>
    have here : ∀ j ∈ (p.left[i]?.bind fun a => p.places[a]?).getD [], p.same i j = true := by
      intro j listed
      cases line : p.left[i]? with
      | none => simp [line] at listed
      | some a =>
        cases known : p.places[a]? with
        | none => simp [line, known] at listed
        | some js => exact placed i a line js known j (by simpa [line, known] using listed)
    obtain ⟨fits', ending'⟩ := scanPlaces_fits above ending _ here best [] fits.lower (by simp [Ending])
    have next := ih (i + 1) (by omega) _ _ fits' ending'
    rw [show i + (n + 1) = i + 1 + n by omega]
    exact next

theorem extendFront_fits (n : Nat) (fits : p.Fits alo ahi blo bhi r) :
    p.Fits alo ahi blo bhi (p.extendFront alo blo n r) := by
  induction n generalizing r with
  | zero => exact fits
  | succ n ih =>
    unfold extendFront
    split
    · rename_i equal
      simp only [Bool.and_eq_true, decide_eq_true_eq] at equal
      obtain ⟨⟨left, right⟩, equal⟩ := equal
      obtain ⟨left_ge, left_le, right_ge, right_le, same⟩ := fits
      refine ih ⟨by simp only; omega, by simp only; omega, by simp only; omega, by simp only; omega, ?_⟩
      intro k inner
      cases k with
      | zero => exact equal
      | succ k =>
        have lefts : r.left - 1 + (k + 1) = r.left + k := by omega
        have rights : r.right - 1 + (k + 1) = r.right + k := by omega
        simp only [lefts, rights]
        exact same k (by simpa using inner)
    · exact fits

theorem extendEnd_fits (n : Nat) (fits : p.Fits alo ahi blo bhi r) :
    p.Fits alo ahi blo bhi (p.extendEnd ahi bhi n r) := by
  induction n generalizing r with
  | zero => exact fits
  | succ n ih =>
    unfold extendEnd
    split
    · rename_i equal
      simp only [Bool.and_eq_true, decide_eq_true_eq] at equal
      obtain ⟨⟨left, right⟩, equal⟩ := equal
      refine ih ⟨fits.left_ge, by simp only; omega, fits.right_ge, by simp only; omega, ?_⟩
      intro k inner
      rcases Nat.lt_succ_iff_lt_or_eq.mp inner with before | rfl
      · exact fits.same k before
      · exact equal
    · exact fits

theorem longest_fits (placed : p.Placed) (lefts : alo ≤ ahi) (rights : blo ≤ bhi) :
    p.Fits alo ahi blo bhi (p.longest alo ahi blo bhi) := by
  have empty : p.Fits alo alo blo bhi ⟨alo, blo, 0⟩ :=
    ⟨Nat.le_refl _, Nat.le_refl _, Nat.le_refl _, rights, fun k inner => absurd inner (Nat.not_lt_zero k)⟩
  have found := scanLeft_fits placed (ahi - alo) alo (Nat.le_refl _) ⟨alo, blo, 0⟩ [] empty (by simp [Ending])
  rw [Nat.add_sub_cancel' lefts] at found
  exact extendEnd_fits _ (extendFront_fits _ found)

-- Runs from a pair of places on, in the order of both sides.
def Chained (p : Pair) (ahi bhi : Nat) : Nat → Nat → List Run → Prop
  | i, j, [] => i ≤ ahi ∧ j ≤ bhi
  | i, j, r :: rest =>
    0 < r.size ∧ i ≤ r.left ∧ j ≤ r.right ∧ (∀ k < r.size, p.same (r.left + k) (r.right + k) = true) ∧
      p.Chained ahi bhi (r.left + r.size) (r.right + r.size) rest

variable {i j : Nat} {rs : List Run}

theorem Chained.earlier {i' j' : Nat} (chained : p.Chained ahi bhi i' j' rs) (left : i ≤ i') (right : j ≤ j') :
    p.Chained ahi bhi i j rs := by
  cases rs with
  | nil => exact ⟨Nat.le_trans left chained.1, Nat.le_trans right chained.2⟩
  | cons r rest =>
    obtain ⟨positive, lefts, rights, others⟩ := chained
    exact ⟨positive, Nat.le_trans left lefts, Nat.le_trans right rights, others⟩

theorem Chained.append {i' j' : Nat} {rs' : List Run} (first : p.Chained i' j' i j rs)
    (second : p.Chained ahi bhi i' j' rs') : p.Chained ahi bhi i j (rs ++ rs') := by
  induction rs generalizing i j with
  | nil => exact second.earlier first.1 first.2
  | cons r rest ih =>
    obtain ⟨positive, lefts, rights, same, later⟩ := first
    exact ⟨positive, lefts, rights, same, ih later⟩

theorem runs_chained (placed : p.Placed) (fuel : Nat) (lefts : alo ≤ ahi) (rights : blo ≤ bhi) :
    p.Chained ahi bhi alo blo (p.runs fuel alo ahi blo bhi) := by
  induction fuel generalizing alo ahi blo bhi with
  | zero => exact ⟨lefts, rights⟩
  | succ fuel ih =>
    have fits := longest_fits placed lefts rights
    unfold runs
    simp only
    generalize p.longest alo ahi blo bhi = r at fits
    split
    · exact ⟨lefts, rights⟩
    · rename_i positive
      have onward : p.Chained ahi bhi r.left r.right (r ::
          if r.left + r.size < ahi && r.right + r.size < bhi then
            p.runs fuel (r.left + r.size) ahi (r.right + r.size) bhi
          else []) := by
        refine ⟨by omega, Nat.le_refl _, Nat.le_refl _, fits.same, ?_⟩
        split
        · exact ih fits.left_le fits.right_le
        · exact ⟨fits.left_le, fits.right_le⟩
      refine Chained.append ?_ onward
      split
      · exact ih fits.left_ge fits.right_ge
      · exact ⟨fits.left_ge, fits.right_ge⟩

theorem joinRuns_chained {current : Run} (lefts : i ≤ current.left) (rights : j ≤ current.right)
    (same : ∀ k < current.size, p.same (current.left + k) (current.right + k) = true)
    (chained : p.Chained ahi bhi (current.left + current.size) (current.right + current.size) rs) :
    p.Chained ahi bhi i j (joinRuns current rs) := by
  induction rs generalizing current i j with
  | nil =>
    unfold joinRuns
    split
    · exact ⟨Nat.le_trans (by omega) chained.1, Nat.le_trans (by omega) chained.2⟩
    · exact ⟨by omega, lefts, rights, same, chained⟩
  | cons r rest ih =>
    obtain ⟨positive, left, right, equal, later⟩ := chained
    unfold joinRuns
    split
    · rename_i adjacent
      simp only [Bool.and_eq_true, decide_eq_true_eq] at adjacent
      refine ih lefts rights ?_ ?_
      · intro k inner
        by_cases first : k < current.size
        · exact same k first
        · have next := equal (k - current.size) (by simp only at inner; omega)
          rw [← adjacent.1, ← adjacent.2, Nat.add_assoc, Nat.add_assoc, Nat.add_sub_cancel' (by omega)] at next
          exact next
      · simp only [← Nat.add_assoc, adjacent]
        exact later
    · split
      · exact ih (by omega) (by omega) equal later
      · exact ⟨by omega, lefts, rights, same, ih left right equal later⟩

end Pair

section

variable {left right : List String}

theorem mem_distinctLines {line : String} (member : line ∈ right) : line ∈ distinctLines right := by
  unfold distinctLines
  rw [List.mem_reverse]
  -- A line that was seen stays seen, and every line of the list is seen at its turn.
  have collected (lines seen : List String) (known : line ∈ seen ∨ line ∈ lines) :
      line ∈ lines.foldl (fun (seen : List String) l => if seen.contains l then seen else l :: seen) seen := by
    induction lines generalizing seen with
    | nil => simpa using known
    | cons l lines ih =>
      apply ih
      by_cases seenBefore : l ∈ seen
      · grind
      · grind
  exact collected right [] (.inr member)

theorem Pair.same_of {i j : Nat} (equal : (Pair.of left right).same i j = true) :
    ∃ line, left[i]? = some line ∧ right[j]? = some line := by
  unfold Pair.same Pair.of at equal
  simp only [List.getElem?_toArray, List.getElem?_map] at equal
  cases first : left[i]? with
  | none => simp [first] at equal
  | some a =>
    cases second : right[j]? with
    | none => simp [second] at equal
    | some b =>
      simp only [first, second, Option.map_some, beq_iff_eq] at equal
      have known : b ∈ distinctLines right := mem_distinctLines (List.mem_of_getElem? second)
      have inside : (distinctLines right).idxOf a < (distinctLines right).length :=
        equal ▸ List.idxOf_lt_length_iff.mpr known
      have lines : a = b := by
        rw [← List.getElem_idxOf inside, ← List.getElem_idxOf (List.idxOf_lt_length_iff.mpr known)]
        simp only [equal]
      exact ⟨a, rfl, by rw [lines]⟩

theorem getElem?_of_mem_placesOf {numbers : List Nat} {n number j : Nat} (listed : j ∈ placesOf numbers n number) :
    numbers[j]? = some number := by
  unfold placesOf at listed
  simp only at listed
  split at listed
  · exact absurd listed List.not_mem_nil
  · obtain ⟨⟨l, k⟩, member, rfl⟩ := List.mem_map.mp listed
    obtain ⟨indexed, equal⟩ := List.mem_filter.mp member
    rw [← beq_iff_eq.mp equal]
    exact List.mem_zipIdx_iff_getElem?.mp indexed

theorem Pair.placed_of : (Pair.of left right).Placed := by
  intro i a line js known j listed
  unfold Pair.of at line known
  simp only [List.getElem?_toArray, List.getElem?_map, Option.map_eq_some_iff] at line known
  obtain ⟨number, counted, places⟩ := known
  obtain rfl : number = a := by
    obtain ⟨_, value⟩ := List.getElem?_eq_some_iff.mp counted
    simpa using value.symm
  have there := getElem?_of_mem_placesOf (places ▸ listed)
  obtain ⟨l, first, rfl⟩ := line
  unfold Pair.same Pair.of
  simp only [List.getElem?_toArray, there, List.getElem?_map, first, Option.map_some, beq_self_eq_true]

theorem align_chained (left right : List String) :
    (Pair.of left right).Chained left.length right.length 0 0 (align left right) :=
  Pair.joinRuns_chained (Nat.le_refl _) (Nat.le_refl _) (fun k inner => absurd inner (Nat.not_lt_zero k))
    (Pair.runs_chained Pair.placed_of _ (Nat.zero_le _) (Nat.zero_le _))

end

def between (lines : List String) (first last : Nat) : List String := (lines.drop first).take (last - first)

section

variable {lines : List String} {i j k : Nat}

theorem between_append_drop (lines : List String) (ordered : i ≤ j) :
    between lines i j ++ lines.drop j = lines.drop i := by
  have rest : lines.drop j = (lines.drop i).drop (j - i) := by rw [List.drop_drop, Nat.add_sub_cancel' ordered]
  rw [between, rest, List.take_append_drop]

theorem take_append_between (lines : List String) (ordered : i ≤ j) :
    lines.take i ++ between lines i j = lines.take j := by
  rw [between, ← List.take_add, Nat.add_sub_cancel' ordered]

theorem between_append_between (lines : List String) (first : i ≤ j) (second : j ≤ k) :
    between lines i j ++ between lines j k = between lines i k := by
  unfold between
  rw [show k - i = j - i + (k - j) by omega, List.take_add, List.drop_drop, Nat.add_sub_cancel' first]

theorem length_between (inside : j ≤ lines.length) : (between lines i j).length = j - i := by
  rw [between, List.length_take, List.length_drop]
  omega

end

variable {left right : List String} {i j i' j' : Nat}

-- From a pair of places to a later one, within both lists.
structure Inside (left right : List String) (i j i' j' : Nat) : Prop where
  left_le : i ≤ i'
  right_le : j ≤ j'
  left_inside : i' ≤ left.length
  right_inside : j' ≤ right.length

-- The same lines on both sides from a pair of places to a later one.
structure Same (left right : List String) (i j i' j' : Nat) : Prop extends Inside left right i j i' j' where
  equal : between left i i' = between right j j'

namespace Same

theorem trans {i'' j'' : Nat} (first : Same left right i j i' j') (second : Same left right i' j' i'' j'') :
    Same left right i j i'' j'' where
  left_le := Nat.le_trans first.left_le second.left_le
  right_le := Nat.le_trans first.right_le second.right_le
  left_inside := second.left_inside
  right_inside := second.right_inside
  equal := by
    rw [← between_append_between left first.left_le second.left_le,
      ← between_append_between right first.right_le second.right_le, first.equal, second.equal]

theorem size_eq (same : Same left right i j i' j') : i' - i = j' - j := by
  rw [← length_between same.left_inside, same.equal, length_between same.right_inside]

end Same

namespace Pair

variable {rs : List Run}

theorem Chained.le {p : Pair} {ahi bhi : Nat} (chained : p.Chained ahi bhi i j rs) : i ≤ ahi ∧ j ≤ bhi := by
  induction rs generalizing i j with
  | nil => exact chained
  | cons r rest ih =>
    obtain ⟨_, lefts, rights, _, later⟩ := chained
    have := ih later
    omega

theorem same_run {size : Nat} (lefts : i + size ≤ left.length) (rights : j + size ≤ right.length)
    (equal : ∀ k < size, (Pair.of left right).same (i + k) (j + k) = true) :
    Same left right i j (i + size) (j + size) := by
  refine ⟨⟨Nat.le_add_right _ _, Nat.le_add_right _ _, lefts, rights⟩, ?_⟩
  apply List.ext_getElem?
  intro k
  simp only [between, Nat.add_sub_cancel_left, List.getElem?_take, List.getElem?_drop]
  split
  · rename_i inner
    obtain ⟨line, first, second⟩ := same_of (equal k inner)
    rw [first, second]
  · rfl

end Pair

-- A part within both lists, of equal lines where it says so.
structure Part.Sound (left right : List String) (p : Part) : Prop extends
    Inside left right p.left p.right p.leftEnd p.rightEnd where
  equal : p.isEqual = true → between left p.left p.leftEnd = between right p.right p.rightEnd

-- Parts that follow each other from one pair of places to another.
def Linked (left right : List String) : Nat → Nat → List Part → Nat → Nat → Prop
  | i, j, [], i', j' => i = i' ∧ j = j'
  | i, j, p :: ps, i', j' =>
    p.left = i ∧ p.right = j ∧ p.Sound left right ∧ Linked left right p.leftEnd p.rightEnd ps i' j'

theorem Linked.append {ps qs : List Part} {i'' j'' : Nat} (first : Linked left right i j ps i' j')
    (second : Linked left right i' j' qs i'' j'') : Linked left right i j (ps ++ qs) i'' j'' := by
  induction ps generalizing i j with
  | nil =>
    obtain ⟨rfl, rfl⟩ := first
    exact second
  | cons p ps ih =>
    obtain ⟨lefts, rights, sound, later⟩ := first
    exact ⟨lefts, rights, sound, ih later⟩

theorem Linked.sound {ps : List Part} {p : Part} (linked : Linked left right i j ps i' j') (member : p ∈ ps) :
    p.Sound left right := by
  induction ps generalizing i j with
  | nil => exact absurd member List.not_mem_nil
  | cons q ps ih =>
    obtain ⟨_, _, sound, later⟩ := linked
    rcases List.mem_cons.mp member with rfl | listed
    · exact sound
    · exact ih later listed

theorem Linked.last_ends {ps : List Part} {q : Part} (linked : Linked left right i j ps i' j')
    (last : ps.getLast? = some q) : q.leftEnd = i' ∧ q.rightEnd = j' := by
  induction ps generalizing i j with
  | nil => cases last
  | cons p ps ih =>
    obtain ⟨_, _, _, later⟩ := linked
    cases ps with
    | nil =>
      cases last
      exact later
    | cons r ps =>
      rw [List.getLast?_cons_cons] at last
      exact ih later last

theorem gap_linked (inside : Inside left right i j i' j') : Linked left right i j (gap i i' j j') i' j' := by
  obtain ⟨lefts, rights, _, _⟩ := id inside
  unfold gap
  split
  · exact ⟨rfl, rfl, ⟨inside, fun equal => absurd equal Bool.false_ne_true⟩, rfl, rfl⟩
  · rename_i none
    simp only [Bool.or_eq_true, decide_eq_true_eq, not_or, Nat.not_lt] at none
    exact ⟨Nat.le_antisymm lefts none.1, Nat.le_antisymm rights none.2⟩

theorem partsFrom_linked {rs : List Run} (chained : (Pair.of left right).Chained left.length right.length i j rs) :
    Linked left right i j (partsFrom left.length right.length i j rs) left.length right.length := by
  induction rs generalizing i j with
  | nil => exact gap_linked ⟨chained.1, chained.2, Nat.le_refl _, Nat.le_refl _⟩
  | cons r rest ih =>
    obtain ⟨_, lefts, rights, equal, later⟩ := chained
    obtain ⟨leftEnd, rightEnd⟩ := later.le
    have run := Pair.same_run leftEnd rightEnd equal
    refine (gap_linked ⟨lefts, rights, by omega, by omega⟩).append ?_
    exact ⟨rfl, rfl, ⟨run.toInside, fun _ => run.equal⟩, ih later⟩

theorem parts_linked (left right : List String) : Linked left right 0 0 (parts left right) left.length right.length :=
  partsFrom_linked (align_chained left right)

-- A part that leaves lines to come. After a change both sides go on, since equal lines follow it.
def Part.Inner (left right : List String) (p : Part) : Prop :=
  if p.isEqual then p.leftEnd < left.length ∨ p.rightEnd < right.length
  else p.leftEnd < left.length ∧ p.rightEnd < right.length

theorem lines_left_of_partsFrom {rs : List Run}
    (chained : (Pair.of left right).Chained left.length right.length i j rs)
    (more : partsFrom left.length right.length i j rs ≠ []) : i < left.length ∨ j < right.length := by
  cases rs with
  | nil =>
    unfold partsFrom gap at more
    split at more
    · rename_i lines
      simpa using lines
    · exact absurd rfl more
  | cons r rest =>
    obtain ⟨positive, lefts, _, _, later⟩ := chained
    have := later.le
    omega

theorem partsFrom_inner {rs : List Run} (chained : (Pair.of left right).Chained left.length right.length i j rs)
    {p : Part} (member : p ∈ (partsFrom left.length right.length i j rs).dropLast) : p.Inner left right := by
  induction rs generalizing i j with
  | nil =>
    unfold partsFrom gap at member
    split at member <;> exact absurd member List.not_mem_nil
  | cons r rest ih =>
    obtain ⟨positive, _, _, _, later⟩ := chained
    obtain ⟨leftEnd, rightEnd⟩ := later.le
    unfold partsFrom at member
    rw [List.dropLast_append_of_ne_nil (List.cons_ne_nil _ _), List.mem_append] at member
    rcases member with change | onward
    · unfold gap at change
      split at change
      · obtain rfl := List.mem_singleton.mp change
        exact ⟨by simp only; omega, by simp only; omega⟩
      · exact absurd change List.not_mem_nil
    · by_cases more : partsFrom left.length right.length (r.left + r.size) (r.right + r.size) rest = []
      · rw [more] at onward
        exact absurd onward List.not_mem_nil
      · rw [List.dropLast_cons_of_ne_nil more, List.mem_cons] at onward
        rcases onward with rfl | inner
        · exact lines_left_of_partsFrom later more
        · exact ih later inner

theorem parts_inner {p : Part} (member : p ∈ (parts left right).dropLast) : p.Inner left right :=
  partsFrom_inner (align_chained left right) member

end Whittle.Diff
