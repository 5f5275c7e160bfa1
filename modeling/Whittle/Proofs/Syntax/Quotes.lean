import Whittle.Proofs.Syntax.Pristine

namespace Whittle

-- The room that a literal takes, if it is a text: its quotes count.
def Literal.room : Literal → Nat
  | .text _ points => points.length + 2
  | _ => 0

def Token.room : Token → Nat
  | .text raw => raw.body.length + 2
  | .number value => value.room
  | _ => 0

def roomOf : List Token → Nat
  | [] => 0
  | t :: rest => t.room + roomOf rest

theorem roomOf_append (ts us : List Token) : roomOf (ts ++ us) = roomOf ts + roomOf us := by
  induction ts with
  | nil => exact (Nat.zero_add _).symm
  | cons t rest ih => rw [List.cons_append, roomOf, roomOf, ih, Nat.add_assoc]

theorem roomOf_reverse (ts : List Token) : roomOf ts.reverse = roomOf ts := by
  induction ts with
  | nil => rfl
  | cons t rest ih => rw [List.reverse_cons, roomOf_append, ih, roomOf, roomOf, roomOf, Nat.add_zero, Nat.add_comm]

theorem roomOf_replicate (n : Nat) {t : Token} (plain : t.room = 0) : roomOf (List.replicate n t) = 0 := by
  induction n with
  | zero => rfl
  | succ n ih => rw [List.replicate_succ, roomOf, plain, ih]

namespace Escape

theorem hex?_short (n : Nat) (cs : List Char) : Parser.Finds (hex? n cs) fun r => r.2.length ≤ cs.length :=
  .ite (.some (by simp)) .none

theorem length_octal (cs : List Char) : (octal cs).2.length ≤ cs.length := by
  simp [octal]

theorem braced?_short (cs : List Char) : Parser.Finds (braced? cs) fun r => r.2.length ≤ cs.length := by
  unfold braced?
  split
  · rename_i cs
    split
    · rename_i c rest found
      have shorter := (List.dropWhile_sublist (fun c => c != '\x7d') (l := cs)).length_le
      rw [found, List.length_cons] at shorter
      refine .map fun n _ => ?_
      simp only [List.length_cons]
      omega
    · exact .none
  · exact .none

-- An escape for a single point takes more than that point.
theorem point_short {rest : List Char} {x : Option (Nat × List Char)}
    (left : Parser.Finds x fun r => r.2.length ≤ rest.length) :
    Parser.Finds (x.map fun (n, r) => ([n], r)) fun r => r.1.length + r.2.length ≤ rest.length + 2 := by
  refine .map fun r found => ?_
  have shorter := left r found
  simp only [List.length_cons, List.length_nil]
  omega

theorem textEscape?_short (c : Char) (rest : List Char) :
    Parser.Finds (textEscape? c rest) fun r => r.1.length + r.2.length ≤ rest.length + 2 := by
  unfold textEscape?
  split
  · exact .some (by grind)
  · refine .ite (.some (by simp)) (.ite ?_ (.ite ?_ (.ite ?_ (.ite ?_ (.ite ?_ ?_)))))
    · have left := length_octal (c :: rest)
      exact .some (by grind)
    · exact point_short (hex?_short 2 rest)
    · exact point_short (hex?_short 4 rest)
    · refine .bind (hex?_short 8 rest) fun r left => .ite (.some ?_) .none
      grind
    · exact point_short (braced?_short rest)
    · exact .some (by grind)

theorem decodeWith_short {escape? : Char → List Char → Option (List Nat × List Char)}
    (each : ∀ c rest, Parser.Finds (escape? c rest) fun r => r.1.length + r.2.length ≤ rest.length + 2) (fuel : Nat)
    (cs : List Char) : Parser.Finds (decodeWith escape? fuel cs) fun points => points.length ≤ cs.length := by
  induction fuel generalizing cs with
  | zero => exact .ite (.some (by simp)) .none
  | succ fuel ih =>
    unfold decodeWith
    split
    · exact .some (by simp)
    · rename_i c rest
      refine .bind (each c rest) fun r shorter => .map fun points found => ?_
      have later := ih _ points found
      simp only [List.length_append, List.length_cons]
      omega
    · rename_i c rest _
      refine .map fun points found => ?_
      have later := ih _ points found
      simp only [List.length_cons]
      omega

theorem text?_short (isRaw : Bool) (body : List Char) :
    Parser.Finds (text? isRaw body) fun points => points.length ≤ body.length :=
  .ite (.some (by simp)) (decodeWith_short textEscape?_short _ _)

end Escape

namespace Numeral

-- A numeral is no text, and what is left behind it is within the bound.
def Leaves (bound : Nat) (r : Literal × List Char) : Prop := r.1.room = 0 ∧ r.2.length ≤ bound

theorem digitRun_short (isDigit : Char → Bool) (cs : List Char) :
    Parser.Finds (digitRun isDigit cs) fun r => r.2.length ≤ cs.length := by
  fun_induction digitRun isDigit cs with
  | case1 => exact .some (Nat.le_refl _)
  | case2 d rest digit ih => exact .map fun r found => Nat.le_add_right_of_le (Nat.le_add_right_of_le (ih r found))
  | case3 => exact .none
  | case4 c rest _ digit ih => exact .map fun r found => Nat.le_add_right_of_le (ih r found)
  | case5 => exact .none
  | case6 => exact .some (Nat.le_refl _)

section

variable {bound : Nat} {cs : List Char}

theorem finish_leaves (left : cs.length ≤ bound) (whole fraction : List Char) (exponent : Option Int) (isWhole : Bool) :
    Parser.Finds (finish whole fraction exponent isWhole cs) (Leaves bound) := by
  unfold finish
  split
  · have shorter := Nat.le_of_succ_le left
    exact .ite (.ite (.some ⟨rfl, shorter⟩) .none) (.ite .none (.ite (.some ⟨rfl, left⟩) (.some ⟨rfl, left⟩)))
  · exact .ite (.some ⟨rfl, left⟩) (.some ⟨rfl, left⟩)

theorem afterFraction_leaves (left : cs.length ≤ bound) (whole fraction : List Char) (isWhole : Bool) :
    Parser.Finds (afterFraction whole fraction isWhole cs) (Leaves bound) := by
  have plain := finish_leaves left whole fraction none isWhole
  unfold afterFraction
  split
  · rename_i c rest
    rw [List.length_cons] at left
    refine .ite ?_ plain
    split
    · rename_i s d more
      rw [List.length_cons] at left
      refine .ite (.ite (.bind (digitRun_short _ _) fun r shorter => ?_) .none) (.ite ?_ plain)
      · exact finish_leaves (by omega) _ _ _ _
      · exact .bind (digitRun_short _ _) fun r shorter => finish_leaves (by simp at *; omega) _ _ _ _
    · exact .ite (finish_leaves (Nat.zero_le _) _ _ _ _) plain
    · exact .none
  · exact plain

theorem afterPoint_leaves (left : cs.length ≤ bound) (whole : List Char) :
    Parser.Finds (afterPoint whole cs) (Leaves bound) := by
  unfold afterPoint
  split
  · refine .ite (.bind (digitRun_short _ _) fun r shorter => ?_) (afterFraction_leaves left _ _ _)
    exact afterFraction_leaves (Nat.le_trans shorter left) _ _ _
  · exact afterFraction_leaves left _ _ _

theorem based_leaves (left : cs.length ≤ bound) (base : Nat) (isDigit : Char → Bool) :
    Parser.Finds (based base isDigit cs) (Leaves bound) := by
  unfold based
  dsimp only
  split
  · exact .none
  · refine .ite (.bind (digitRun_short _ _) fun r shorter => .ite .none (.some ⟨rfl, Nat.le_trans shorter ?_⟩)) .none
    -- A grouping underscore may stand between the mark and the digits.
    split
    · exact Nat.le_of_succ_le left
    · exact left

theorem read_leaves (cs : List Char) : Parser.Finds (read cs) (Leaves cs.length) := by
  unfold read
  split
  · exact based_leaves (by simp; omega) _ _
  · exact based_leaves (by simp; omega) _ _
  · exact based_leaves (by simp; omega) _ _
  · exact based_leaves (by simp; omega) _ _
  · exact based_leaves (by simp; omega) _ _
  · exact based_leaves (by simp; omega) _ _
  · refine .bind (digitRun_short _ _) fun ⟨whole, rest⟩ left => .ite .none ?_
    dsimp only at left ⊢
    split
    · exact afterPoint_leaves (Nat.le_of_succ_le left) _
    · refine .bind (afterFraction_leaves left _ _ _) fun ⟨value, r⟩ leaves => ?_
      dsimp only
      split
      · exact .ite .none (.some leaves)
      · exact .some leaves

end

end Numeral

namespace Lexer

theorem textStart_short (m : Marks) (cs : List Char) :
    Parser.Finds (textStart m cs) fun r => r.2.2.length + 1 ≤ cs.length := by
  induction cs generalizing m with
  | nil => exact .none
  | cons c rest ih =>
    refine .ite (.some (Nat.le_refl _)) ?_
    exact .skip fun m' r found => Nat.le_succ_of_le (ih m' r found)

theorem shortBody_short (quote : Char) (cs : List Char) :
    Parser.Finds (shortBody quote cs) fun r => r.1.length + r.2.length + 1 ≤ cs.length := by
  fun_induction shortBody quote cs with
  | case1 => exact .none
  | case2 c rest ih => exact .map fun r found => by grind [ih r found]
  | case3 c rest _ closed => exact .some (by simp)
  | case4 => exact .none
  | case5 c rest _ _ _ ih => exact .map fun r found => by grind [ih r found]

theorem longBody_short (quote : Char) (cs : List Char) :
    Parser.Finds (longBody quote cs) fun r => r.1.length + r.2.length + 1 ≤ cs.length := by
  fun_induction longBody quote cs with
  | case1 => exact .none
  | case2 c rest ih => exact .map fun r found => by grind [ih r found]
  | case3 c rest _ closed => exact .some (by simp)
  | case4 c rest _ _ ih => exact .map fun r found => by grind [ih r found]

theorem textBody_short (quote : Char) (cs : List Char) :
    Parser.Finds (textBody quote cs) fun r => r.1.length + r.2.length + 1 ≤ cs.length := by
  unfold textBody
  split
  · rename_i c d rest
    refine .ite (fun r found => ?_) (.ite (.some (by simp)) (shortBody_short _ _))
    have shorter := longBody_short quote rest r found
    simp only [List.length_cons]
    omega
  · exact shortBody_short _ _

theorem symbol?_short (cs : List Char) : Parser.Finds (symbol? cs) fun r => r.2.length ≤ cs.length :=
  .map fun s _ => by simp

theorem nameToken_room (cs : List Char) : Parser.Finds (nameToken cs) fun t => t.room = 0 := by
  refine .ite (.some ?_) .none
  split <;> rfl

theorem token?_short (cs : List Char) :
    Parser.Finds (token? cs) fun r => r.1.room + r.2.length ≤ cs.length := by
  unfold token?
  split
  · exact .none
  · rename_i c rest
    split
    · rename_i m quote after started
      refine .map fun r found => ?_
      have opened := textStart_short _ _ _ started
      have closed := textBody_short quote after r found
      dsimp only [Token.room] at opened ⊢
      omega
    · refine .ite (.map fun r found => ?_) (.ite (.map fun t found => ?_) (.ite (.map fun r found => ?_) ?_))
      · obtain ⟨plain, left⟩ := Numeral.read_leaves _ r found
        dsimp only [Token.room]
        omega
      · have plain := nameToken_room _ t found
        have left := (List.dropWhile_sublist Numeral.runsOn (l := c :: rest)).length_le
        dsimp only at plain ⊢
        omega
      · obtain ⟨plain, left⟩ := Numeral.afterPoint_leaves (Nat.le_succ rest.length) _ r found
        dsimp only [Token.room, List.length_cons]
        omega
      · refine .map fun r found => ?_
        have left := symbol?_short _ r found
        dsimp only [Token.room] at left ⊢
        omega

theorem measure_short (i : Indentation) (cs : List Char) :
    Parser.Finds (measure i cs) fun r => r.2.length ≤ cs.length := by
  fun_induction measure i cs with
  | case1 i rest ih => exact fun r found => Nat.le_succ_of_le (ih r found)
  | case2 i rest ih => exact fun r found => Nat.le_succ_of_le (ih r found)
  | case3 i rest ih => exact fun r found => Nat.le_succ_of_le (ih r found)
  | case4 => exact .none
  | case5 i rest _ ih => exact fun r found => Nat.le_succ_of_le (Nat.le_succ_of_le (ih r found))
  | case6 => exact .none
  | case7 => exact .some (Nat.le_refl _)

theorem layout_room (levels : List (Nat × Nat)) (i : Indentation) :
    Parser.Finds (layout levels i) fun r => roomOf r.1 = 0 := by
  unfold layout
  dsimp only
  exact .ite (.ite (.some rfl) .none) (.ite (.ite .none (.some rfl)) (.ite (.some (roomOf_replicate _ rfl)) .none))

-- The induction is on the fuel: what was read and what is left to read stay within the bound together.
theorem scan_short {bound : Nat} (fuel : Nat) (place : Place) (levels : List (Nat × Nat)) (opened : List Symbol)
    {cs : List Char} {acc : List Token} (left : roomOf acc + cs.length ≤ bound) :
    Parser.Finds (scan fuel place levels opened cs acc) fun ts => roomOf ts ≤ bound := by
  induction fuel generalizing place levels opened cs acc with
  | zero => exact .none
  | succ fuel ih =>
    cases place with
    | lineStart =>
      unfold scan
      split
      · exact .none
      · rename_i i rest measured
        have shorter := measure_short _ _ _ measured
        dsimp only at shorter ⊢
        refine .ite (ih _ _ _ (by omega)) ?_
        split
        · exact .none
        · rename_i tokens levels laid
          have plain := layout_room _ _ _ laid
          refine ih _ _ _ ?_
          dsimp only at plain
          rw [roomOf_append, roomOf_reverse, plain]
          omega
    | inLine blank =>
      unfold scan
      split
      · refine .ite (.some ?_) .none
        simpa [roomOf, Token.room] using left
      · exact ih _ _ _ (by grind)
      · exact ih _ _ _ (by grind)
      · exact ih _ _ _ (by grind)
      · rename_i rest
        have shorter := (List.dropWhile_sublist (fun c => c != '\n') (l := rest)).length_le
        exact ih _ _ _ (by grind)
      · exact .ite (ih _ _ _ (by grind)) (ih _ _ _ (by grind [roomOf, Token.room]))
      · split
        · exact ih _ _ _ (by grind)
        · exact .none
      · split
        · exact .none
        · rename_i s rest read
          have shorter := token?_short _ _ read
          dsimp only at shorter
          split
          · exact .none
          · refine ih _ _ _ ?_
            rw [roomOf]
            omega
        · rename_i t rest _ read
          have shorter := token?_short _ _ read
          refine ih _ _ _ ?_
          rw [roomOf]
          dsimp only at shorter
          omega

theorem tokens?_short (cs : List Char) : Parser.Finds (tokens? cs) fun ts => roomOf ts ≤ cs.length := by
  refine .map fun ts scanned => ?_
  have start : roomOf [] + cs.length ≤ cs.length := by simp [roomOf]
  have bound := scan_short _ _ _ _ start ts scanned
  exact Nat.le_trans (Nat.le_of_eq (roomOf_reverse ts)) bound

end Lexer

namespace FormatText

-- What is taken from the front of a text and what is left of it are no longer together.
def Splits (cs : List Char) (r : List Char × Stop × List Char) : Prop := r.1.length + r.2.2.length ≤ cs.length

theorem extend_splits {front cs rest : List Char} {x : Option (List Char × Stop × List Char)}
    (splits : Parser.Finds x (Splits rest)) (longer : front.length + rest.length ≤ cs.length) :
    Parser.Finds (extend front x) (Splits cs) := by
  refine .map fun ⟨lit, stop, left⟩ found => ?_
  have inner := splits _ found
  simp only [Splits, List.length_append] at inner ⊢
  omega

theorem atBrace_splits (outermost : Bool) (brace : Char) (rest : List Char) :
    Parser.Finds (atBrace outermost brace rest) (Splits (brace :: rest)) := by
  have whole : Parser.Finds (some ([], .brace, brace :: rest)) (Splits (brace :: rest)) :=
    .some (Nat.le_of_eq (Nat.zero_add _))
  refine .ite ?_ whole
  split
  · rename_i c more
    exact .ite (.some (by simp [Splits]; omega)) (.ite .none whole)
  · exact .ite .none whole

theorem stretch_splits (isRaw outermost inName : Bool) (cs : List Char) :
    Parser.Finds (stretch isRaw outermost inName cs) (Splits cs) := by
  fun_induction stretch isRaw outermost inName cs
  case case1 => exact .some (Nat.le_refl _)
  case case5 => exact extend_splits (atBrace_splits _ _ _) (by simp; omega)
  case case8 => exact atBrace_splits _ _ _
  case case2 ih | case3 ih | case4 ih | case6 ih | case7 ih | case9 ih => exact extend_splits ih (by simp; omega)

theorem embedded_short (quoted : Option (Char × Bool)) (opened cs : List Char) :
    Parser.Finds (embedded quoted opened cs) fun r => r.1.length + r.2.length ≤ cs.length := by
  fun_induction embedded quoted opened cs
  all_goals first
    | exact .none
    | exact .some (Nat.le_of_eq (Nat.zero_add _))
    | rename_i ih
      refine .map fun r found => ?_
      have shorter := ih r found
      simp only [List.length_cons] at shorter ⊢
      omega

theorem conversion?_short (cs : List Char) : Parser.Finds (conversion? cs) fun r => r.2.length ≤ cs.length := by
  unfold conversion?
  split
  · exact .some (by simp; omega)
  · exact .some (by simp; omega)
  · exact .some (by simp; omega)
  · exact .none
  · exact .some (Nat.le_refl _)

end FormatText

end Whittle
