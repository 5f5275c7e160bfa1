import Mathlib.Data.List.Infix
import Whittle.Files.Glob

namespace Whittle.Glob

inductive Fits : List Piece → List Char → Prop
  | nil : Fits [] []
  | star {ps : List Piece} {rest : List Char} (front : List Char) : Fits ps rest → Fits (.star :: ps) (front ++ rest)
  | one {p : Piece} {c : Char} {ps : List Piece} {rest : List Char} :
    p ≠ .star → p.accepts c → Fits ps rest → Fits (p :: ps) (c :: rest)

section

variable {ps : List Piece} {text : List Char}

theorem fits_nil_iff : Fits [] text ↔ text = [] := by
  constructor
  · rintro ⟨⟩
    rfl
  · rintro rfl
    exact .nil

theorem fits_star_iff : Fits (.star :: ps) text ↔ ∃ front rest, text = front ++ rest ∧ Fits ps rest := by
  constructor
  · intro fits
    cases fits with
    | star front inner => exact ⟨front, _, rfl, inner⟩
    | one other _ _ => exact absurd rfl other
  · rintro ⟨front, rest, rfl, inner⟩
    exact .star front inner

theorem fits_one_iff {p : Piece} (other : p ≠ .star) :
    Fits (p :: ps) text ↔ ∃ c rest, text = c :: rest ∧ p.accepts c ∧ Fits ps rest := by
  constructor
  · intro fits
    cases fits with
    | star front inner => exact absurd rfl other
    | one _ accepts inner => exact ⟨_, _, rfl, accepts, inner⟩
  · rintro ⟨c, rest, rfl, accepts, inner⟩
    exact .one other accepts inner

theorem fits_word_iff (word : List Char) :
    Fits (word.map .one ++ ps) text ↔ ∃ rest, text = word ++ rest ∧ Fits ps rest := by
  induction word generalizing text with
  | nil => simp
  | cons c word ih =>
    rw [List.map_cons, List.cons_append, fits_one_iff (by simp)]
    simp only [Piece.accepts, beq_iff_eq, ih]
    constructor
    · rintro ⟨_, rest, rfl, rfl, rest', rfl, inner⟩
      exact ⟨rest', rfl, inner⟩
    · rintro ⟨rest, rfl, inner⟩
      exact ⟨c, word ++ rest, rfl, rfl, rest, rfl, inner⟩

end

-- For each rest of the text, the longest first, whether it has a property.
inductive Flagged (P : List Char → Prop) : List Char → List Bool → Prop
  | nil {b : Bool} : (b ↔ P []) → Flagged P [] [b]
  | cons {c : Char} {text : List Char} {b : Bool} {flags : List Bool} :
    (b ↔ P (c :: text)) → Flagged P text flags → Flagged P (c :: text) (b :: flags)

namespace Flagged

variable {P Q : List Char → Prop} {text : List Char} {flags : List Bool}

theorem imp (flagged : Flagged P text flags) (same : ∀ t, P t ↔ Q t) : Flagged Q text flags := by
  induction flagged with
  | nil here => exact .nil (here.trans (same _))
  | cons here _ ih => exact .cons (here.trans (same _)) ih

theorem exists_cons (flagged : Flagged P text flags) : ∃ b more, flags = b :: more ∧ (b ↔ P text) := by
  cases flagged with
  | nil here => exact ⟨_, _, rfl, here⟩
  | cons here _ => exact ⟨_, _, rfl, here⟩

theorem ends (text : List Char) : Flagged (· = []) text (Glob.ends text) := by
  induction text with
  | nil => exact .nil (by simp)
  | cons c text ih => exact .cons (by simp) ih

theorem fromHereOn (flagged : Flagged P text flags) :
    Flagged (fun t => ∃ front rest, t = front ++ rest ∧ P rest) text (Glob.fromHereOn flags) := by
  induction flagged with
  | nil here => exact .nil (here.trans (by simp))
  | @cons c text b flags here _ ih =>
    obtain ⟨later, more, shape, there⟩ := ih.exists_cons
    simp only [Glob.fromHereOn, shape]
    rw [shape] at ih
    refine .cons ?_ ih
    rw [Bool.or_eq_true, here, there]
    constructor
    · rintro (now | ⟨front, rest, rfl, now⟩)
      · exact ⟨[], _, rfl, now⟩
      · exact ⟨c :: front, rest, rfl, now⟩
    · rintro ⟨front, rest, split, now⟩
      cases front with
      | nil =>
        cases split
        exact .inl now
      | cons d front =>
        obtain ⟨rfl, rfl⟩ := List.cons.inj split
        exact .inr ⟨front, rest, rfl, now⟩

theorem stepOver (p : Piece) (flagged : Flagged P text flags) :
    Flagged (fun t => ∃ c rest, t = c :: rest ∧ p.accepts c ∧ P rest) text (Glob.stepOver p text flags) := by
  induction flagged with
  | nil _ => exact .nil (by simp)
  | @cons c text b flags _ inner ih =>
    obtain ⟨next, more, shape, there⟩ := inner.exists_cons
    rw [shape] at ih
    rw [shape, Glob.stepOver]
    refine .cons ?_ ih
    rw [Bool.and_eq_true, there]
    constructor
    · rintro ⟨accepts, now⟩
      exact ⟨c, text, rfl, accepts, now⟩
    · rintro ⟨d, rest, split, accepts, now⟩
      cases split
      exact ⟨accepts, now⟩

end Flagged

theorem flagged_matchFlags (text : List Char) (ps : List Piece) : Flagged (Fits ps) text (matchFlags text ps) := by
  induction ps with
  | nil => exact (Flagged.ends text).imp fun t => fits_nil_iff.symm
  | cons p ps ih =>
    by_cases star : p = .star
    · rw [star]
      exact ih.fromHereOn.imp fun t => fits_star_iff.symm
    · have stepped : matchFlags text (p :: ps) = Glob.stepOver p text (matchFlags text ps) := by
        cases p with
        | star => exact absurd rfl star
        | _ => rfl
      rw [stepped]
      exact (ih.stepOver p).imp fun t => (fits_one_iff star).symm

theorem isMatch_iff (pattern text : String) : isMatch pattern text ↔ Fits (pieces 0 pattern.toList) text.toList := by
  obtain ⟨b, more, shape, here⟩ := (flagged_matchFlags text.toList (pieces 0 pattern.toList)).exists_cons
  rw [isMatch, shape]
  exact here

-- A mark stands for other characters than itself, or opens a bracket.
def isMark (c : Char) : Bool := c == '*' || c == '?' || c == '['

theorem pieces_of_plain {word : List Char} (plain : ∀ c ∈ word, isMark c = false) (rest : List Char) :
    pieces 0 (word ++ rest) = word.map .one ++ pieces 0 rest := by
  induction word with
  | nil => rfl
  | cons c word ih =>
    have here := plain c List.mem_cons_self
    simp only [isMark, Bool.or_eq_false_iff] at here
    obtain ⟨⟨star, any⟩, bracket⟩ := here
    rw [List.cons_append, pieces, star, any, bracket]
    simp [ih fun d member => plain d (List.mem_cons_of_mem _ member)]

-- A name with slashes around it, anywhere in a text.
theorem isMatch_between_iff {name : String} (plain : ∀ c ∈ name.toList, isMark c = false) (text : String) :
    isMatch ("**/" ++ name ++ "/**") text ↔ ('/' :: name.toList ++ ['/']) <:+: text.toList := by
  have word : ∀ c ∈ '/' :: name.toList ++ ['/'], isMark c = false := by
    intro c member
    simp only [List.cons_append, List.mem_cons, List.mem_append, List.not_mem_nil, or_false] at member
    rcases member with rfl | inside | rfl
    · decide
    · exact plain c inside
    · decide
  have shape : pieces 0 ("**/" ++ name ++ "/**").toList =
      .star :: .star :: (('/' :: name.toList ++ ['/']).map .one ++ [.star, .star]) := by
    have spelled : ("**/" ++ name ++ "/**").toList = '*' :: '*' :: (('/' :: name.toList ++ ['/']) ++ ['*', '*']) := by
      simp
    rw [spelled]
    simp only [pieces, beq_self_eq_true, if_true]
    rw [pieces_of_plain word]
    rfl
  rw [isMatch_iff, shape]
  constructor
  · intro fits
    obtain ⟨front, _, split, second⟩ := fits_star_iff.mp fits
    obtain ⟨more, _, rfl, named⟩ := fits_star_iff.mp second
    obtain ⟨back, rfl, -⟩ := (fits_word_iff _).mp named
    exact ⟨front ++ more, back, by rw [split]; simp⟩
  · rintro ⟨front, back, split⟩
    have tail : Fits [.star, .star] back := by
      have ends := Fits.star back (.star [] .nil)
      rwa [List.append_nil, List.append_nil] at ends
    rw [← split, List.append_assoc]
    exact .star front (.star [] ((fits_word_iff _).mpr ⟨back, rfl, tail⟩))

-- A slash and an ending, with anything around the slash.
theorem isMatch_ending_iff {ending : String} (plain : ∀ c ∈ ending.toList, isMark c = false) (text : String) :
    isMatch ("**/*" ++ ending) text ↔ ∃ front back, text.toList = front ++ '/' :: (back ++ ending.toList) := by
  have shape : pieces 0 ("**/*" ++ ending).toList =
      .star :: .star :: (['/'].map .one ++ .star :: (ending.toList.map .one ++ [])) := by
    have spelled : ("**/*" ++ ending).toList = '*' :: '*' :: '/' :: '*' :: (ending.toList ++ []) := by simp
    have slash : isMark '/' = false := by decide
    rw [spelled]
    simp only [isMark, Bool.or_eq_false_iff] at slash
    simp only [pieces, beq_self_eq_true, if_true, slash, Bool.false_eq_true, if_false]
    rw [pieces_of_plain plain]
    rfl
  rw [isMatch_iff, shape]
  constructor
  · intro fits
    obtain ⟨front, _, split, second⟩ := fits_star_iff.mp fits
    obtain ⟨more, _, rfl, slash⟩ := fits_star_iff.mp second
    obtain ⟨_, rfl, third⟩ := (fits_word_iff _).mp slash
    obtain ⟨back, _, rfl, ends⟩ := fits_star_iff.mp third
    obtain ⟨_, rfl, nothing⟩ := (fits_word_iff _).mp ends
    cases fits_nil_iff.mp nothing
    exact ⟨front ++ more, back, by rw [split]; simp⟩
  · rintro ⟨front, back, split⟩
    have tail : Fits (ending.toList.map .one ++ []) ending.toList := (fits_word_iff _).mpr ⟨[], by simp, .nil⟩
    rw [split]
    exact .star front (.star [] ((fits_word_iff _).mpr ⟨_, rfl, .star back tail⟩))

end Whittle.Glob
