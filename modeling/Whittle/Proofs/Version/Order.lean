import Mathlib.Data.List.DropRight
import Whittle.Proofs.Version.LowerBound

namespace Whittle

namespace Text

theorem trimBy_eq {α : Type} (p : α → Bool) (cs : List α) : trimBy p cs = (cs.dropWhile p).rdropWhile p := rfl

theorem dropWhile_append_of_all {α : Type} {p : α → Bool} {front : List α} (all : ∀ c ∈ front, p c) (cs : List α) :
    (front ++ cs).dropWhile p = cs.dropWhile p := by
  induction front with
  | nil => rfl
  | cons c rest ih =>
    rw [List.forall_mem_cons] at all
    rw [List.cons_append, List.dropWhile_cons_of_pos all.1, ih all.2]

theorem rdropWhile_append_of_all {α : Type} {p : α → Bool} {back : List α} (all : ∀ c ∈ back, p c) (cs : List α) :
    (cs ++ back).rdropWhile p = cs.rdropWhile p := by
  rw [List.rdropWhile, List.reverse_append, dropWhile_append_of_all fun c member => all c (List.mem_reverse.mp member)]
  rfl

theorem trimBy_padded {α : Type} {p : α → Bool} {front back : List α} (before : ∀ c ∈ front, p c)
    (behind : ∀ c ∈ back, p c) (cs : List α) : trimBy p (front ++ cs ++ back) = trimBy p cs := by
  rw [trimBy_eq, trimBy_eq, List.append_assoc, dropWhile_append_of_all before, List.dropWhile_append]
  split
  · rename_i empty
    rw [List.isEmpty_iff.mp empty, List.dropWhile_eq_nil_iff.mpr behind]
  · exact rdropWhile_append_of_all behind _

theorem trimBy_sublist {α : Type} (p : α → Bool) (cs : List α) : (trimBy p cs).Sublist cs :=
  (List.rdropWhile_prefix p _).sublist.trans (List.dropWhile_suffix p).sublist

theorem splitAt_append_sep (sep : Char) (cs rest : List Char) :
    splitAt sep (cs ++ sep :: rest) = splitAt sep cs ++ splitAt sep rest := by
  induction cs with
  | nil => simp [splitAt]
  | cons c cs ih =>
    rw [List.cons_append, splitAt, splitAt, ih]
    split
    · rfl
    · cases pieces : splitAt sep cs with
      | nil => exact absurd pieces (splitAt_ne_nil sep cs)
      | cons piece more => rfl

theorem mem_of_mem_splitAt {sep c : Char} {cs piece : List Char} (listed : piece ∈ splitAt sep cs) (member : c ∈ piece) :
    c ∈ cs := by
  induction cs generalizing piece with
  | nil =>
    cases List.mem_singleton.mp listed
    cases member
  | cons d rest ih =>
    rw [splitAt] at listed
    split at listed
    · rcases List.mem_cons.mp listed with rfl | later
      · cases member
      · exact List.mem_cons_of_mem _ (ih later member)
    · cases pieces : splitAt sep rest with
      | nil => exact absurd pieces (splitAt_ne_nil sep rest)
      | cons first more =>
        rw [pieces] at listed ih
        rcases List.mem_cons.mp listed with rfl | later
        · rcases List.mem_cons.mp member with rfl | inside
          · exact List.mem_cons_self
          · exact List.mem_cons_of_mem _ (ih List.mem_cons_self inside)
        · exact List.mem_cons_of_mem _ (ih (List.mem_cons_of_mem _ later) member)

end Text

namespace Version

theorem read_nonneg {cs : List Char} {n : Int} (dashless : '-' ∉ cs) (read : Integer.read? cs = some n) : 0 ≤ n := by
  unfold Integer.read? at read
  split at read
  · rename_i rest signed
    have first : '-' ∈ Text.trimBy Integer.isPadding cs := by
      rw [signed]
      exact List.mem_cons_self
    exact absurd ((Text.trimBy_sublist _ _).subset first) dashless
  all_goals
    obtain ⟨k, -, rfl⟩ := Option.map_eq_some_iff.mp read
    exact Int.natCast_nonneg k

theorem pack_nonneg {parts : List (List Char)} {n : Int} (dashless : ∀ part ∈ parts, '-' ∉ part)
    (packed : pack parts = some n) : 0 ≤ n := by
  have each : ∀ part ∈ parts, ∀ k, Integer.read? part = some k → 0 ≤ k :=
    fun part member k => read_nonneg (dashless part member)
  unfold pack at packed
  split at packed
  · exact each _ List.mem_cons_self n packed
  · simp only [Option.bind_eq_bind, Option.bind_eq_some_iff, Option.pure_def, Option.some.injEq] at packed
    obtain ⟨major, first, minor, second, rfl⟩ := packed
    have := each _ (by simp) major first
    have := each _ (by simp) minor second
    omega
  · simp only [Option.bind_eq_bind, Option.bind_eq_some_iff, Option.pure_def, Option.some.injEq] at packed
    obtain ⟨major, first, minor, second, patch, third, rfl⟩ := packed
    have := each _ (by simp) major first
    have := each _ (by simp) minor second
    have := each _ (by simp) patch third
    omega
  · cases packed

theorem id_nonneg {token : Value} {n : Int} (accepted : id token = .ok n) : 0 ≤ n := by
  unfold id at accepted
  split at accepted
  · rename_i k packed
    cases accepted
    refine pack_nonneg (fun part listed member => ?_) packed
    have kept := List.mem_takeWhile_imp (Text.mem_of_mem_splitAt listed member)
    cases kept
  · cases accepted

namespace Written

-- How a version may be written: more numbers only after a third one, and a suffix only after a dash.
structure Spelling (v : Written) where
  front : Blanks := ⟨[], by simp⟩
  more : List Char := []
  suffix : List Char := []
  back : Blanks := ⟨[], by simp⟩
  third : more ≠ [] → v.patch.isSome ∧ more.head? = some '.' := by simp
  dash : suffix ≠ [] → suffix.head? = some '-' := by simp

def Spelling.text {v : Written} (s : v.Spelling) : List Char :=
  s.front.1 ++ (v.text ++ (s.more ++ s.suffix)) ++ s.back.1

-- What may stand behind the three numbers when the dash is gone.
def Continues (v : Written) (rest : List Char) : Prop := rest = [] ∨ v.patch.isSome ∧ ∃ more, rest = '.' :: more

variable {v : Written}

theorem pack_continued {rest : List Char} (continues : v.Continues rest) :
    pack (Text.splitAt '.' (v.text ++ rest)) = pack (Text.splitAt '.' v.text) := by
  rcases continues with rfl | ⟨third, more, rfl⟩
  · rw [List.append_nil]
  · obtain ⟨p, patch⟩ := Option.isSome_iff_exists.mp third
    rw [Text.splitAt_append_sep, splitAt_text]
    simp only [numerals, patch, Option.toList_some, List.map_cons, List.map_nil, List.cons_append, List.nil_append]
    rfl

-- A front part of what is written behind the numbers, up to its dash.
theorem Spelling.continues (s : v.Spelling) {rest : List Char} (front : rest <+: s.more ++ s.suffix) :
    v.Continues (rest.takeWhile (· != '-')) := by
  cases rest with
  | nil => exact .inl rfl
  | cons c rest =>
    obtain ⟨behind, split⟩ := front
    cases more : s.more with
    | nil =>
      rw [more, List.nil_append] at split
      have first : s.suffix.head? = some c := by rw [← split]; rfl
      have dash := s.dash (by rw [← split]; simp)
      rw [first, Option.some_inj] at dash
      subst dash
      exact .inl rfl
    | cons d others =>
      obtain ⟨third, dot⟩ := s.third (by simp [more])
      rw [more, List.head?_cons, Option.some_inj] at dot
      rw [more, dot, List.cons_append, List.cons_append, List.cons.injEq] at split
      rw [split.1]
      exact .inr ⟨third, _, rfl⟩

theorem dropWhile_text (rest : List Char) : (v.text ++ rest).dropWhile Text.isBlank = v.text ++ rest := by
  obtain ⟨c, digits, split, decimal⟩ := v.major.exists_cons
  unfold text
  rw [split]
  simp [Text.not_isBlank_of_isDecimal decimal]

-- The last number of a version ends with a digit, so only what stands behind it is trimmed.
theorem exists_trimmed (rest : List Char) : ∃ kept, kept <+: rest ∧ Text.trim (v.text ++ rest) = v.text ++ kept := by
  refine ⟨rest.rdropWhile Text.isBlank, List.rdropWhile_prefix _ _, ?_⟩
  rw [Text.trim, Text.trimBy_eq, dropWhile_text]
  induction rest using List.reverseRecOn with
  | nil =>
    have bare : Text.trimBy Text.isBlank v.text = v.text := Text.trimBy_of_none fun c member => by
      rcases v.mem_text member with decimal | rfl
      · exact Text.not_isBlank_of_isDecimal decimal
      · decide
    have front := dropWhile_text (v := v) []
    rw [List.append_nil] at front
    rw [Text.trimBy_eq, front] at bare
    rw [List.rdropWhile_nil, List.append_nil, bare]
  | append_singleton rest c ih =>
    rw [← List.append_assoc, List.rdropWhile_concat, List.rdropWhile_concat, ih]
    split
    · rfl
    · rw [List.append_assoc]

theorem takeWhile_text (rest : List Char) :
    (v.text ++ rest).takeWhile (· != '-') = v.text ++ rest.takeWhile (· != '-') := by
  refine List.takeWhile_append_of_pos fun c member => bne_iff_ne.mpr ?_
  rintro rfl
  exact v.notMem_text (by decide) (by decide) member

theorem idOfText_spelling (s : v.Spelling) : idOfText? s.text = if v.isReadable then some v.number else none := by
  obtain ⟨kept, front, trimmed⟩ := exists_trimmed (v := v) (s.more ++ s.suffix)
  have spelled : Text.trim s.text = v.text ++ kept := (Text.trimBy_padded s.front.2 s.back.2 _).trans trimmed
  rw [idOfText?, spelled, takeWhile_text, pack_continued (s.continues front), splitAt_text, pack_numerals]

end Written

-- A token whose text is a way to write a version.
def Spells (token : Value) (v : Written) : Prop := ∃ s : v.Spelling, token.plain.toList = s.text

theorem Spells.id_eq {token : Value} {v : Written} (spells : Spells token v) :
    id token = if v.isReadable then .ok v.number else .error ⟨token⟩ := by
  obtain ⟨s, same⟩ := spells
  rw [id, same, Written.idOfText_spelling]
  cases v.isReadable <;> rfl

-- The spelling of a version does not matter to its id, and ids compare as the versions do.
theorem ids_ordered {v w : Written} (readable : v.isReadable) (readable' : w.isReadable) {a b : Value}
    (spells : Spells a v) (spells' : Spells b w) :
    (∃ m n, id a = .ok m ∧ id b = .ok n ∧ (m ≤ n ↔ v.release ≤ w.release) ∧ (m = n ↔ v.release = w.release)) ∧
    id a = id (.text (String.ofList v.text)) ∧
    ∀ token n, id token = .ok n → 0 ≤ n := by
  have first := spells.id_eq
  have second := spells'.id_eq
  rw [if_pos readable] at first
  rw [if_pos readable'] at second
  refine ⟨⟨v.number, w.number, first, second, v.number_le_iff w, ?_⟩, ?_, fun token n => id_nonneg⟩
  · rw [le_antisymm_iff, le_antisymm_iff, v.number_le_iff w, w.number_le_iff v]
  · rw [first, v.id_text, if_pos readable]

-- `3.8` with a suffix and blanks around it, against `3.10.1` with a fourth number: as texts they are the other way round.
theorem ids_ordered_dressed :
    ∃ m n, id (.text " 3.8-dev\n") = .ok m ∧ id (.text "3.10.1.post2") = .ok n ∧ m < n ∧
      id (.text " 3.8-dev\n") = id (.text "3.8") := by
  let v : Written := ⟨numeral "3", numeral "8", none, by decide, by decide⟩
  let w : Written := ⟨numeral "3", numeral "10", some (numeral "1"), by decide, by decide⟩
  have blank : ∀ c ∈ [' '], Text.isBlank c := List.forall_mem_singleton.mpr (by decide)
  have feed : ∀ c ∈ ['\n'], Text.isBlank c := List.forall_mem_singleton.mpr (by decide)
  have dressed : Spells (.text " 3.8-dev\n") v :=
    ⟨{ front := ⟨[' '], blank⟩, suffix := "-dev".toList, back := ⟨['\n'], feed⟩, dash := by decide }, rfl⟩
  have longer : Spells (.text "3.10.1.post2") w :=
    ⟨{ more := ".post2".toList, third := by decide }, by decide⟩
  obtain ⟨⟨m, n, first, second, order, same⟩, bare, -⟩ := ids_ordered (by decide) (by decide) dressed longer
  refine ⟨m, n, first, second, lt_of_le_of_ne (order.mpr (by decide)) fun equal => ?_, bare⟩
  exact absurd (same.mp equal) (by decide)

end Version

end Whittle
