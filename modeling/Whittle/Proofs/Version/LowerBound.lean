import Whittle.Proofs.Version.Ids

namespace Whittle.Version

inductive Relation where
  | atLeast
  | compatible
  | exactly
  | below
  | atMost
  | unlike
  deriving DecidableEq, Repr

namespace Relation

def sign : Relation → List Char
  | .atLeast => ['>', '=']
  | .compatible => ['~', '=']
  | .exactly => ['=', '=']
  | .below => ['<']
  | .atMost => ['<', '=']
  | .unlike => ['!', '=']

-- Whether a clause gives a version to start from.
def isLower : Relation → Bool
  | .atLeast | .compatible | .exactly => true
  | .below | .atMost | .unlike => false

end Relation

-- White space, which may stand around a clause and after its sign.
abbrev Blanks := { cs : List Char // ∀ c ∈ cs, Text.isBlank c }

structure Clause where
  relation : Relation
  version : Written
  front : Blanks := ⟨[], by simp⟩
  gap : Blanks := ⟨[], by simp⟩
  back : Blanks := ⟨[], by simp⟩

def Clause.text (c : Clause) : List Char :=
  c.front.1 ++ (c.relation.sign ++ (c.gap.1 ++ (c.version.text ++ c.back.1)))

-- Clauses with commas between them.
def specText : List Clause → List Char
  | [] => []
  | [c] => c.text
  | c :: rest => c.text ++ ',' :: specText rest

-- The versions that the clauses start from.
def starts (cs : List Clause) : List Written := (cs.filter (·.relation.isLower)).map Clause.version

theorem bounds_skip (n : Nat) (cs : List Char) : bounds n cs = bounds 0 (cs.drop n) := by
  induction cs generalizing n with
  | nil => simp [bounds]
  | cons c rest ih =>
    cases n with
    | zero => rfl
    | succ n => rw [bounds, ih, List.drop_succ_cons]

-- No operator of a lower bound starts with the character.
def isQuiet (c : Char) : Bool := !(c == '>' || c == '~' || c == '=')

theorem bounds_of_none {c : Char} {rest : List Char} (none : clauseAt? (c :: rest) = none) :
    bounds 0 (c :: rest) = bounds 0 rest := by
  rw [bounds, none]

theorem bounds_of_some {cs v : List Char} {n : Nat} (found : clauseAt? cs = some (v, n)) (long : 0 < n) :
    bounds 0 cs = v :: bounds 0 (cs.drop n) := by
  cases cs with
  | nil => cases found
  | cons c rest =>
    obtain ⟨k, rfl⟩ := Nat.exists_eq_succ_of_ne_zero long.ne'
    rw [bounds, found, Nat.succ_eq_add_one, List.drop_succ_cons, ← bounds_skip]
    rfl

theorem clauseAt_of_quiet {c : Char} (quiet : isQuiet c) (rest : List Char) : clauseAt? (c :: rest) = none := by
  simp only [isQuiet, Bool.not_eq_true', Bool.or_eq_false_iff, beq_eq_false_iff_ne] at quiet
  obtain ⟨⟨greater, tilde⟩, equal⟩ := quiet
  simp [clauseAt?, operators, Ne.symm greater, Ne.symm tilde, Ne.symm equal]

theorem bounds_of_quiet {cs : List Char} (quiet : ∀ c ∈ cs, isQuiet c) (rest : List Char) :
    bounds 0 (cs ++ rest) = bounds 0 rest := by
  induction cs with
  | nil => rfl
  | cons c cs ih =>
    rw [List.cons_append, bounds_of_none (clauseAt_of_quiet (quiet c List.mem_cons_self) _)]
    exact ih fun d member => quiet d (List.mem_cons_of_mem _ member)

theorem isQuiet_of_isBlank {c : Char} (blank : Text.isBlank c) : isQuiet c := by
  have apart : ∀ d : Char, Text.isBlank d = false → (c == d) = false := by
    rintro d other
    refine beq_false_of_ne ?_
    rintro rfl
    rw [blank] at other
    cases other
  rw [isQuiet, apart '>' (by decide), apart '~' (by decide), apart '=' (by decide)]
  rfl

theorem isQuiet_of_written (v : Written) {c : Char} (member : c ∈ v.text) : isQuiet c := by
  rcases v.mem_text member with decimal | rfl
  · have apart : ∀ d : Char, Text.isDecimal d = false → (c == d) = false := fun d other =>
      beq_false_of_ne (Text.ne_of_isDecimal decimal other)
    rw [isQuiet, apart '>' (by decide), apart '~' (by decide), apart '=' (by decide)]
    rfl
  · decide

-- What follows a version: no digit and no dot.
def EndsVersion (rest : List Char) : Prop := ∀ c ∈ rest.head?, Text.isDecimal c = false ∧ c ≠ '.'

theorem takeWhile_numeral (n : Numeral) {rest : List Char} (ends : ∀ c ∈ rest.head?, Text.isDecimal c = false) :
    (n.digits ++ rest).takeWhile Text.isDecimal = n.digits := by
  rw [List.takeWhile_append_of_pos n.decimal]
  cases rest with
  | nil => rw [List.takeWhile_nil, List.append_nil]
  | cons c rest => rw [List.takeWhile_cons, ends c rfl, if_neg Bool.false_ne_true, List.append_nil]

theorem dottedParts_of_ends {rest : List Char} (ends : EndsVersion rest) (n : Nat) : dottedParts n rest = [] := by
  unfold dottedParts
  split
  · rfl
  · exact absurd rfl (ends '.' rfl).2
  · rfl

theorem dottedParts_numeral (k : Nat) (n : Numeral) {rest : List Char}
    (ends : ∀ c ∈ rest.head?, Text.isDecimal c = false) :
    dottedParts (k + 1) ('.' :: (n.digits ++ rest)) = '.' :: n.digits ++ dottedParts k rest := by
  rw [dottedParts, takeWhile_numeral n ends]
  split
  · rename_i empty
    exact absurd empty n.some
  · rw [List.drop_left]

theorem leading_written (v : Written) {rest : List Char} (ends : EndsVersion rest) :
    leading? (v.text ++ rest) = some v.text := by
  have dot : ∀ more : List Char, ∀ c ∈ ('.' :: more).head?, Text.isDecimal c = false := by
    rintro more c ⟨⟩
    decide
  have plain : ∀ c ∈ rest.head?, Text.isDecimal c = false := fun c first => (ends c first).1
  have tail : dottedParts 2 ('.' :: (v.minor.digits ++ (v.patch.elim [] (fun p => '.' :: p.digits) ++ rest))) =
      '.' :: v.minor.digits ++ v.patch.elim [] fun p => '.' :: p.digits := by
    cases v.patch with
    | none =>
      rw [Option.elim_none, List.nil_append, dottedParts_numeral _ _ plain, dottedParts_of_ends ends]
    | some p =>
      rw [Option.elim_some, List.cons_append, dottedParts_numeral _ _ (dot _), dottedParts_numeral _ _ plain,
        dottedParts_of_ends ends, List.append_nil]
  have split : v.text ++ rest = v.major.digits ++
      '.' :: (v.minor.digits ++ (v.patch.elim [] (fun p => '.' :: p.digits) ++ rest)) := by
    simp [Written.text]
  rw [leading?, split, takeWhile_numeral _ (dot _)]
  split
  · rename_i empty
    exact absurd empty v.major.some
  · rw [List.drop_left, tail, Written.text, List.append_assoc]

theorem dropWhile_gap (gap : Blanks) (v : Written) (rest : List Char) :
    (gap.1 ++ (v.text ++ rest)).dropWhile Text.isBlank = v.text ++ rest := by
  obtain ⟨c, more, split, decimal⟩ := v.major.exists_cons
  rw [List.dropWhile_append_of_pos gap.2, Written.text, split]
  simp only [List.cons_append, List.dropWhile_cons, Text.not_isBlank_of_isDecimal decimal]
  rfl

theorem clauseAt_lower {r : Relation} (lower : r.isLower) (gap : Blanks) (v : Written) {rest : List Char}
    (ends : EndsVersion rest) :
    clauseAt? (r.sign ++ (gap.1 ++ (v.text ++ rest))) =
      some (v.text, r.sign.length + (gap.1.length + v.text.length)) := by
  have size : (gap.1 ++ (v.text ++ rest)).length - (v.text ++ rest).length = gap.1.length := by
    rw [List.length_append, Nat.add_sub_cancel]
  have read := leading_written v ends
  cases r with
  | atLeast | compatible | exactly =>
    simp [clauseAt?, operators, Relation.sign, dropWhile_gap, read]
    omega
  | below | atMost | unlike => cases lower

-- An equals sign that is the end of another sign starts no clause.
theorem clauseAt_equals (gap : Blanks) (v : Written) (rest : List Char) :
    clauseAt? ('=' :: (gap.1 ++ (v.text ++ rest))) = none := by
  have other : ∀ c ∈ (gap.1 ++ (v.text ++ rest)).head?, c ≠ '=' := by
    rintro c first rfl
    have member : '=' ∈ gap.1 ∨ '=' ∈ v.text := by
      obtain ⟨d, more, split, -⟩ := v.major.exists_cons
      cases blanks : gap.1 with
      | nil =>
        rw [blanks, Written.text, split] at first
        cases first
        exact .inr (by rw [Written.text, split]; exact List.mem_cons_self)
      | cons b bs =>
        rw [blanks] at first
        cases first
        exact .inl List.mem_cons_self
    rcases member with blank | written
    · exact absurd (isQuiet_of_isBlank (gap.2 _ blank)) (by decide)
    · exact absurd (isQuiet_of_written v written) (by decide)
  cases shape : gap.1 ++ (v.text ++ rest) with
  | nil => rfl
  | cons c more =>
    have apart : '=' ≠ c := Ne.symm (other c (by rw [shape]; rfl))
    simp [clauseAt?, operators, apart]

theorem EndsVersion.blanks {rest : List Char} (ends : EndsVersion rest) (blanks : Blanks) :
    EndsVersion (blanks.1 ++ rest) := by
  obtain ⟨cs, each⟩ := blanks
  cases cs with
  | nil => exact ends
  | cons b bs =>
    rintro _ ⟨⟩
    have blank := each b List.mem_cons_self
    refine ⟨Bool.eq_false_iff.mpr fun decimal => ?_, ?_⟩
    · rw [Text.not_isBlank_of_isDecimal decimal] at blank
      cases blank
    · rintro rfl
      exact absurd blank (by decide)

theorem bounds_blanks (blanks : Blanks) (rest : List Char) : bounds 0 (blanks.1 ++ rest) = bounds 0 rest :=
  bounds_of_quiet (fun _ member => isQuiet_of_isBlank (blanks.2 _ member)) rest

theorem bounds_written (v : Written) (rest : List Char) : bounds 0 (v.text ++ rest) = bounds 0 rest :=
  bounds_of_quiet (fun _ => isQuiet_of_written v) rest

theorem bounds_lower {r : Relation} (lower : r.isLower) (gap : Blanks) (v : Written) {rest : List Char}
    (ends : EndsVersion rest) :
    bounds 0 (r.sign ++ (gap.1 ++ (v.text ++ rest))) = v.text :: bounds 0 rest := by
  have signed : 0 < r.sign.length := by cases r <;> decide
  have passed : (r.sign ++ (gap.1 ++ (v.text ++ rest))).drop (r.sign.length + (gap.1.length + v.text.length)) = rest := by
    rw [← List.drop_drop, List.drop_left, ← List.drop_drop, List.drop_left, List.drop_left]
  rw [bounds_of_some (clauseAt_lower lower gap v ends) (by omega), passed]

theorem bounds_other {r : Relation} (other : r.isLower = false) (gap : Blanks) (v : Written) (rest : List Char) :
    bounds 0 (r.sign ++ (gap.1 ++ (v.text ++ rest))) = bounds 0 rest := by
  have passed : bounds 0 (gap.1 ++ (v.text ++ rest)) = bounds 0 rest := by
    rw [bounds_blanks, bounds_written]
  have equals := bounds_of_none (clauseAt_equals gap v rest)
  cases r with
  | atLeast | compatible | exactly => cases other
  | below => exact (bounds_of_none (clauseAt_of_quiet (by decide) _)).trans passed
  | atMost | unlike => exact (bounds_of_none (clauseAt_of_quiet (by decide) _)).trans (equals.trans passed)

theorem bounds_clause (c : Clause) {rest : List Char} (ends : EndsVersion rest) :
    bounds 0 (c.text ++ rest) = (starts [c]).map Written.text ++ bounds 0 rest := by
  unfold Clause.text starts
  simp only [List.append_assoc]
  rw [bounds_blanks]
  cases lower : c.relation.isLower with
  | true =>
    rw [bounds_lower lower _ _ (ends.blanks c.back), bounds_blanks]
    simp [lower]
  | false =>
    rw [bounds_other lower, bounds_blanks]
    simp [lower]

theorem starts_cons (c : Clause) (cs : List Clause) : starts (c :: cs) = starts [c] ++ starts cs := by
  rw [starts, starts, starts, ← List.map_append, ← List.filter_append, List.singleton_append]

theorem bounds_specText (cs : List Clause) : bounds 0 (specText cs) = (starts cs).map Written.text := by
  induction cs with
  | nil => rfl
  | cons c rest ih =>
    cases rest with
    | nil =>
      have only := @bounds_clause c [] (by rintro _ ⟨⟩)
      rw [List.append_nil] at only
      rw [specText, only, bounds, List.append_nil]
    | cons d more =>
      have comma : EndsVersion (',' :: specText (d :: more)) := by
        rintro _ ⟨⟩
        decide
      have split : specText (c :: d :: more) = c.text ++ ',' :: specText (d :: more) := rfl
      rw [split, bounds_clause c comma, bounds_of_none (clauseAt_of_quiet (by decide) _), ih, starts_cons c (d :: more),
        List.map_append]

-- The first of the least versions of a list.
structure FirstLeast (vs : List Written) (v : Written) (before after : List Written) : Prop where
  listed : vs = before ++ v :: after
  less : ∀ u ∈ before, v.release < u.release
  least : ∀ u ∈ after, v.release ≤ u.release

def keyed (v : Written) : String × Int := (String.ofList v.text, v.number)

theorem exists_firstLeast (v : Written) (vs : List Written) :
    ∃ least before after, FirstLeast (v :: vs) least before after ∧
      leastBy (keyed v).1 (keyed v).2 (vs.map keyed) = (keyed least).1 := by
  induction vs generalizing v with
  | nil => exact ⟨v, [], [], ⟨rfl, by simp, by simp⟩, rfl⟩
  | cons w rest ih =>
    rw [List.map_cons, leastBy]
    split
    · rename_i smaller
      obtain ⟨least, before, after, ⟨listed, less, below⟩, chosen⟩ := ih w
      refine ⟨least, v :: before, after, ⟨by rw [listed]; rfl, ?_, below⟩, chosen⟩
      have under : least.release ≤ w.release := by
        have member : w ∈ before ++ least :: after := listed ▸ List.mem_cons_self
        rcases List.mem_append.mp member with earlier | later
        · exact (less w earlier).le
        · rcases List.mem_cons.mp later with rfl | later
          · exact le_refl _
          · exact below w later
      intro u member
      rcases List.mem_cons.mp member with rfl | earlier
      · exact lt_of_le_of_lt under ((w.number_lt_iff u).mp smaller)
      · exact less u earlier
    · rename_i larger
      have notLess : v.release ≤ w.release := (v.number_le_iff w).mp (not_lt.mp larger)
      obtain ⟨least, before, after, ⟨listed, less, below⟩, chosen⟩ := ih v
      cases before with
      | nil =>
        obtain ⟨rfl, rfl⟩ := List.cons.inj listed
        refine ⟨v, [], w :: rest, ⟨rfl, by simp, fun u member => ?_⟩, chosen⟩
        rcases List.mem_cons.mp member with rfl | later
        · exact notLess
        · exact below u later
      | cons first before =>
        obtain ⟨rfl, rfl⟩ := List.cons.inj listed
        refine ⟨least, v :: w :: before, after, ⟨rfl, fun u member => ?_, below⟩, chosen⟩
        rcases List.mem_cons.mp member with rfl | later
        · exact less u List.mem_cons_self
        · rcases List.mem_cons.mp later with rfl | later
          · exact lt_of_lt_of_le (less v List.mem_cons_self) notLess
          · exact less u (List.mem_cons_of_mem _ later)

-- What the bounds are compared by.
def key (cs : List Char) : Except Invalid (String × Int) := do
  let s := String.ofList cs
  return (s, ← id (.text s))

theorem key_text (v : Written) :
    key v.text = if v.isReadable then .ok (keyed v) else .error ⟨.text (String.ofList v.text)⟩ := by
  have opened : key v.text = (id (.text (String.ofList v.text))).bind fun n => .ok (String.ofList v.text, n) := rfl
  rw [opened, v.id_text]
  cases v.isReadable <;> rfl

theorem mapM_key {vs : List Written} (readable : ∀ v ∈ vs, v.isReadable) :
    (vs.map Written.text).mapM key = .ok (vs.map keyed) := by
  induction vs with
  | nil => rfl
  | cons v rest ih =>
    rw [List.map_cons, List.mapM_cons, key_text, readable v List.mem_cons_self,
      ih fun u member => readable u (List.mem_cons_of_mem _ member)]
    rfl

theorem mapM_key_error {before after : List Written} {v : Written} (readable : ∀ u ∈ before, u.isReadable)
    (refused : v.isReadable = false) :
    ((before ++ v :: after).map Written.text).mapM key = .error ⟨.text (String.ofList v.text)⟩ := by
  rw [List.map_append, List.mapM_append, mapM_key readable, List.map_cons, List.mapM_cons, key_text, refused]
  rfl

theorem lowerBound_eq (cs : List Clause) :
    lowerBound (String.ofList (specText cs)) = ((starts cs).map Written.text).mapM key >>= fun
      | [] => .ok none
      | (v, k) :: rest => .ok (some (leastBy v k rest)) := by
  rw [← bounds_specText]
  unfold lowerBound
  rw [String.toList_ofList]
  rfl

theorem FirstLeast.le {vs before after : List Written} {v : Written} (first : FirstLeast vs v before after) :
    ∀ u ∈ vs, v.release ≤ u.release := by
  intro u member
  rw [first.listed, List.mem_append, List.mem_cons] at member
  rcases member with earlier | rfl | later
  · exact (first.less u earlier).le
  · exact le_refl _
  · exact first.least u later

-- The bound is the first of the least versions that clauses start from. The lowest version that the clauses allow is not
-- below any of these, and the bound has that only where all of them are one version.
theorem lowerBound_least (cs : List Clause) (bounded : ∃ c ∈ cs, c.relation.isLower) :
    ((∀ v ∈ starts cs, v.isReadable) → ∃ v before after, FirstLeast (starts cs) v before after ∧
      lowerBound (String.ofList (specText cs)) = .ok (some (String.ofList v.text)) ∧
      ((∀ u ∈ starts cs, u.release ≤ v.release) ↔ ∀ u ∈ starts cs, u.release = v.release)) ∧
    ∀ before v after, starts cs = before ++ v :: after → (∀ u ∈ before, u.isReadable) → v.isReadable = false →
      lowerBound (String.ofList (specText cs)) = .error ⟨.text (String.ofList v.text)⟩ := by
  constructor
  · intro readable
    have filled : starts cs ≠ [] := by
      obtain ⟨c, member, lower⟩ := bounded
      exact List.ne_nil_of_mem (List.mem_map.mpr ⟨c, List.mem_filter.mpr ⟨member, lower⟩, rfl⟩)
    obtain ⟨v, vs, listed⟩ := List.exists_cons_of_ne_nil filled
    obtain ⟨least, before, after, first, chosen⟩ := exists_firstLeast v vs
    rw [← listed] at first
    refine ⟨least, before, after, first, ?_, fun above u member => ?_, fun same u member => (same u member).le⟩
    · rw [lowerBound_eq, mapM_key readable, listed]
      exact congrArg (Except.ok ∘ some) chosen
    · exact le_antisymm (above u member) (first.le u member)
  · intro before v after listed readable refused
    rw [lowerBound_eq, listed, mapM_key_error readable refused]
    rfl

def numeral (digits : String) (decimal : digits.toList.all Text.isDecimal := by decide)
    (some : digits.toList ≠ [] := by decide) : Numeral :=
  ⟨digits.toList, List.all_eq_true.mp decimal, some⟩

-- Two lower bounds, of which the second is the greater, with an upper bound between them.
def disagreeing : List Clause :=
  [{ relation := .atLeast, version := ⟨numeral "3", numeral "8", none, by decide, by decide⟩ },
   { relation := .below, version := ⟨numeral "4", numeral "0", none, by decide, by decide⟩ },
   { relation := .compatible, version := ⟨numeral "3", numeral "9", some (numeral "1"), by decide, by decide⟩,
     front := ⟨[' '], List.all_eq_true.mp (by decide)⟩ }]

theorem lowerBound_least_disagreeing :
    String.ofList (specText disagreeing) = ">=3.8,<4.0, ~=3.9.1" ∧
      ∃ v ∈ starts disagreeing, lowerBound ">=3.8,<4.0, ~=3.9.1" = .ok (some (String.ofList v.text)) ∧
        ∃ u ∈ starts disagreeing, v.release < u.release := by
  have spelled : String.ofList (specText disagreeing) = ">=3.8,<4.0, ~=3.9.1" := by decide
  obtain ⟨v, before, after, first, found, same⟩ := (lowerBound_least disagreeing (by decide)).1 (by decide)
  refine ⟨spelled, v, by rw [first.listed]; simp, spelled ▸ found, ?_⟩
  by_contra highest
  simp only [not_exists, not_and, not_lt] at highest
  have equal := same.mp highest
  have one := equal _ List.mem_cons_self
  have other := equal _ (List.mem_cons_of_mem _ List.mem_cons_self)
  have minors := congrArg (fun r => (ofLex (ofLex r).2).1) (one.trans other.symm)
  exact absurd minors (by decide)

end Whittle.Version
