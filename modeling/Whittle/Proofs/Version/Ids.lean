import Mathlib.Data.List.TakeWhile
import Mathlib.Data.Prod.Lex
import Whittle.Version

namespace Whittle

namespace Text

theorem ne_of_isDecimal {c d : Char} (decimal : isDecimal c) (other : isDecimal d = false) : c ≠ d := by
  rintro rfl
  rw [decimal] at other
  cases other

-- The digits of no script are among the blanks.
theorem zeros_not_blank : ∀ z ∈ zeros, ∀ i < 10, isBlankPoint (z + i) = false := by decide +kernel

theorem not_isBlank_of_isDecimal {c : Char} (decimal : isDecimal c) : isBlank c = false := by
  unfold isDecimal digitValue? at decimal
  split at decimal
  · split at decimal
    · rename_i digit
      have range : 48 ≤ c.toNat ∧ c.toNat ≤ 57 := by
        simpa [Char.isDigit, UInt32.le_iff_toNat_le, ← Char.toNat_val] using digit
      simp only [isBlank, isBlankPoint, Bool.or_eq_false_iff, Bool.and_eq_false_iff, decide_eq_false_iff_not,
        beq_eq_false_iff_ne]
      omega
    · cases decimal
  · rw [Option.isSome_map, List.find?_isSome] at decimal
    obtain ⟨z, member, near⟩ := decimal
    simp only [Bool.and_eq_true, decide_eq_true_eq] at near
    have apart := zeros_not_blank z member (c.toNat - z) (by omega)
    rwa [show z + (c.toNat - z) = c.toNat by omega] at apart

theorem trimBy_of_none {α : Type} {p : α → Bool} {cs : List α} (none : ∀ c ∈ cs, p c = false) : trimBy p cs = cs := by
  have kept : ∀ {cs : List α}, (∀ c ∈ cs, p c = false) → cs.dropWhile p = cs := by
    intro cs none
    cases cs with
    | nil => rfl
    | cons c rest => rw [List.dropWhile_cons, none c List.mem_cons_self]; rfl
  rw [trimBy, kept none, kept fun c member => none c (List.mem_reverse.mp member), List.reverse_reverse]

theorem splitAt_of_notMem {sep : Char} {cs : List Char} (none : sep ∉ cs) : splitAt sep cs = [cs] := by
  induction cs with
  | nil => rfl
  | cons c rest ih =>
    rw [List.mem_cons, not_or] at none
    rw [splitAt, ih none.2, beq_false_of_ne (Ne.symm none.1)]
    rfl

theorem splitAt_append {sep : Char} {cs : List Char} (none : sep ∉ cs) (rest : List Char) :
    splitAt sep (cs ++ sep :: rest) = cs :: splitAt sep rest := by
  induction cs with
  | nil => simp [splitAt]
  | cons c cs ih =>
    rw [List.mem_cons, not_or] at none
    rw [List.cons_append, splitAt, ih none.2, beq_false_of_ne (Ne.symm none.1)]
    rfl

end Text

namespace Version

-- A number as it is written, in digits of any script.
structure Numeral where
  digits : List Char
  decimal : ∀ c ∈ digits, Text.isDecimal c
  some : digits ≠ []

namespace Numeral

def value (n : Numeral) : Nat := Integer.ofDigits 10 (n.digits.filterMap Text.digitValue?)

-- Longer numerals are refused.
def isReadable (n : Numeral) : Bool := decide (n.digits.length ≤ Integer.maxDigits)

variable (n : Numeral)

theorem notMem {c : Char} (other : Text.isDecimal c = false) : c ∉ n.digits := by
  intro member
  exact Text.ne_of_isDecimal (n.decimal c member) other rfl

theorem exists_cons : ∃ c rest, n.digits = c :: rest ∧ Text.isDecimal c := by
  obtain ⟨c, rest, split⟩ := List.exists_cons_of_ne_nil n.some
  exact ⟨c, rest, split, n.decimal c (by rw [split]; exact List.mem_cons_self)⟩

theorem length_values : (n.digits.filterMap Text.digitValue?).length = n.digits.length := by
  rw [List.length_filterMap_eq_countP, List.countP_eq_length]
  exact n.decimal

theorem digits_of_decimal {cs : List Char} (decimal : ∀ c ∈ cs, Text.isDecimal c) {fresh : Bool}
    (some : cs = [] → fresh = false) : Integer.digits? fresh cs = .some (cs.filterMap Text.digitValue?) := by
  induction cs generalizing fresh with
  | nil => rw [some rfl]; rfl
  | cons c rest ih =>
    have here := decimal c List.mem_cons_self
    obtain ⟨d, value⟩ := Option.isSome_iff_exists.mp here
    have plain : (c == '_') = false := beq_false_of_ne (Text.ne_of_isDecimal here (by decide))
    have later := ih (fun d member => decimal d (List.mem_cons_of_mem _ member)) fun _ => (rfl : false = false)
    simp [Integer.digits?, plain, value, later]

theorem magnitude_digits :
    Integer.magnitude? n.digits = if n.isReadable then .some n.value else none := by
  rw [Integer.magnitude?, digits_of_decimal n.decimal fun empty => absurd empty n.some]
  simp only [Option.bind_eq_bind, Option.bind_some, length_values, isReadable, value, decide_eq_true_eq]
  split <;> split <;> first | rfl | omega

theorem read_digits : Integer.read? n.digits = if n.isReadable then .some (n.value : Int) else none := by
  have bare : Text.trimBy Integer.isPadding n.digits = n.digits := Text.trimBy_of_none fun c member => by
    rw [Integer.isPadding, Text.not_isBlank_of_isDecimal (n.decimal c member), Bool.false_and]
  have unsigned : Integer.read? n.digits = (Integer.magnitude? n.digits).map Int.ofNat := by
    obtain ⟨c, rest, split, decimal⟩ := n.exists_cons
    have minus : c ≠ '-' := Text.ne_of_isDecimal decimal (by decide)
    have plus : c ≠ '+' := Text.ne_of_isDecimal decimal (by decide)
    rw [Integer.read?, bare, split]
    split
    · rename_i first
      exact absurd (List.cons.inj first).1 minus
    · rename_i first
      exact absurd (List.cons.inj first).1 plus
    · rfl
  rw [unsigned, magnitude_digits]
  split <;> rfl

end Numeral

structure Written where
  major : Numeral
  minor : Numeral
  patch : Option Numeral
  minor_lt : minor.value < 100
  patch_lt : ∀ p ∈ patch, p.value < 100

namespace Written

def numerals (v : Written) : List Numeral := v.major :: v.minor :: v.patch.toList

def text (v : Written) : List Char :=
  v.major.digits ++ '.' :: v.minor.digits ++ v.patch.elim [] fun p => '.' :: p.digits

def isReadable (v : Written) : Bool := v.numerals.all Numeral.isReadable

def patchValue (v : Written) : Nat := v.patch.elim 0 Numeral.value

-- The numbers of a version, in the order of versions.
def release (v : Written) : ℕ ×ₗ ℕ ×ₗ ℕ := toLex (v.major.value, toLex (v.minor.value, v.patchValue))

def number (v : Written) : Int := v.major.value * 10000 + v.minor.value * 100 + v.patchValue

variable (v w : Written)

theorem patchValue_lt : v.patchValue < 100 := by
  unfold patchValue
  cases third : v.patch with
  | none => exact Nat.zero_lt_succ _
  | some p => exact v.patch_lt p third

theorem number_lt_iff : v.number < w.number ↔ v.release < w.release := by
  have first := v.minor_lt
  have second := w.minor_lt
  have third := v.patchValue_lt
  have fourth := w.patchValue_lt
  simp only [number, release, Prod.Lex.toLex_lt_toLex]
  omega

theorem number_le_iff : v.number ≤ w.number ↔ v.release ≤ w.release := by
  rw [← not_lt, number_lt_iff, not_lt]

theorem mem_text {c : Char} (member : c ∈ v.text) : Text.isDecimal c ∨ c = '.' := by
  simp only [text, List.mem_append, List.mem_cons] at member
  rcases member with (major | rfl | minor) | patch
  · exact .inl (v.major.decimal c major)
  · exact .inr rfl
  · exact .inl (v.minor.decimal c minor)
  · cases third : v.patch with
    | none =>
      rw [third] at patch
      cases patch
    | some p =>
      rw [third] at patch
      rcases List.mem_cons.mp patch with rfl | digit
      · exact .inr rfl
      · exact .inl (p.decimal c digit)

theorem notMem_text {c : Char} (other : Text.isDecimal c = false) (dotless : c ≠ '.') : c ∉ v.text := by
  intro member
  rcases v.mem_text member with decimal | dot
  · exact Text.ne_of_isDecimal decimal other rfl
  · exact dotless dot

theorem splitAt_text : Text.splitAt '.' v.text = v.numerals.map Numeral.digits := by
  have dotless : ∀ n : Numeral, '.' ∉ n.digits := fun n => n.notMem (by decide)
  unfold text numerals
  rw [List.append_assoc, List.cons_append, Text.splitAt_append (dotless _)]
  cases v.patch with
  | none =>
    rw [Option.elim_none, List.append_nil, Text.splitAt_of_notMem (dotless _)]
    rfl
  | some p =>
    rw [Option.elim_some, Text.splitAt_append (dotless _), Text.splitAt_of_notMem (dotless _)]
    rfl

theorem pack_two (a b : Numeral) : pack [a.digits, b.digits] =
    if a.isReadable && b.isReadable then some ((a.value : Int) * 10000 + b.value * 100) else none := by
  have open_pack : pack [a.digits, b.digits] = (Integer.read? a.digits).bind fun x =>
      (Integer.read? b.digits).bind fun y => some (x * 10000 + y * 100) := rfl
  rw [open_pack, a.read_digits, b.read_digits]
  cases a.isReadable <;> cases b.isReadable <;> rfl

theorem pack_three (a b c : Numeral) : pack [a.digits, b.digits, c.digits] =
    if a.isReadable && b.isReadable && c.isReadable then some ((a.value : Int) * 10000 + b.value * 100 + c.value)
    else none := by
  have open_pack : pack [a.digits, b.digits, c.digits] = (Integer.read? a.digits).bind fun x =>
      (Integer.read? b.digits).bind fun y => (Integer.read? c.digits).bind fun z =>
        some (x * 10000 + y * 100 + z) := rfl
  rw [open_pack, a.read_digits, b.read_digits, c.read_digits]
  cases a.isReadable <;> cases b.isReadable <;> cases c.isReadable <;> rfl

theorem pack_numerals :
    pack (v.numerals.map Numeral.digits) = if v.isReadable then some v.number else none := by
  unfold numerals isReadable numerals number patchValue
  cases v.patch with
  | none => simpa using pack_two v.major v.minor
  | some p => simpa [and_assoc] using pack_three v.major v.minor p

theorem idOfText_text : idOfText? v.text = if v.isReadable then some v.number else none := by
  have bare : Text.trim v.text = v.text := Text.trimBy_of_none fun c member => by
    rcases v.mem_text member with decimal | rfl
    · exact Text.not_isBlank_of_isDecimal decimal
    · decide
  have dashless : v.text.takeWhile (· != '-') = v.text := by
    refine List.takeWhile_eq_self_iff.mpr fun c member => bne_iff_ne.mpr ?_
    rintro rfl
    exact v.notMem_text (by decide) (by decide) member
  rw [idOfText?, bare, dashless, splitAt_text, pack_numerals]

theorem id_text : id (.text (String.ofList v.text)) =
    if v.isReadable then .ok v.number else .error ⟨.text (String.ofList v.text)⟩ := by
  unfold id Value.plain
  simp only [String.toList_ofList, idOfText_text]
  cases v.isReadable <;> rfl

end Written

end Version

end Whittle
