import Mathlib.Algebra.Order.BigOperators.Group.List
import Mathlib.Algebra.Order.Ring.Nat
import Whittle.Proofs.Callable.Annotation
import Whittle.Proofs.Syntax.TextLength
import Whittle.Proofs.Version.Order

namespace Whittle

theorem Expr.texts_subset {e x : Expr} (member : .expr x ∈ (Node.expr e).walk) : x.texts ⊆ e.texts :=
  (List.Sublist.filterMap _ (Node.walk_sublist member)).subset

theorem Expr.text_mem_texts (l : Label) (marked : Bool) (points : Text.Points) :
    points ∈ (Expr.constant l (.text marked points)).texts :=
  List.mem_filterMap.mpr ⟨_, Node.self_mem_walk _, rfl⟩

namespace TypeHint

section

variable (read : Text.Points → Except ParseError Expr)

-- Every text in what is read is shorter than the text that is read.
def Shortens : Prop :=
  ∀ source e, read source = .ok e → ∀ points ∈ e.texts, points.length < source.length

-- What a text in an annotation reads as. A blank text is no expression.
def readBare (points : Text.Points) : Except ParseError Expr :=
  match Text.trimBy Text.isBlankPoint points with
  | [] => .error .malformed
  | bare => read bare

-- What an annotation reads as, if it is a text.
def opened? : Expr → Option (Except ParseError Expr)
  | .constant _ (.text _ points) => some (readBare read points)
  | _ => none

-- The annotations that an annotation is made of, if it is made of others.
def inner? : Expr → Option (List Expr)
  | .subscript _ head index _ =>
    if head.decoratorName == "Optional" then some ((items index).take 1)
    else if head.decoratorName == "Union" then some (items index)
    else none
  | .binOp _ left .bitOr right => some [left, right]
  | e =>
    match opened? read e with
    | some (.ok x) => some [x]
    | _ => none

-- Annotations in place of the one that is made of them, as far as it is taken apart.
inductive Parts : Expr → List Expr → Prop
  | whole (e : Expr) : Parts e [e]
  | within {e : Expr} {members : List (Expr × List Expr)} : inner? read e = some (members.map Prod.fst) →
    (∀ m ∈ members, Parts m.1 m.2) → Parts e (members.flatMap Prod.snd)

-- Whether an annotation is a text that is no expression.
def isUnread (e : Expr) : Bool :=
  match opened? read e with
  | some (.error .malformed) => true
  | _ => false

-- An annotation is a text that cannot be read for another reason than its grammar.
def Refused (e : Expr) (reason : ParseError) : Prop :=
  opened? read e = some (.error reason) ∧ reason ≠ .malformed

-- The names of several annotations, one after the other.
def gathered (es : List Expr) : ExceptT ParseError Option (List String) :=
  return (← es.mapM (·.namesBy read)).flatten

-- The names of what a text reads as.
def namesRead : Except ParseError Expr → ExceptT ParseError Option (List String)
  | .ok x => x.namesBy read
  | .error .malformed => return []
  | .error reason => throw reason

end

variable {read : Text.Points → Except ParseError Expr}

theorem gathered_nil : gathered read [] = pure [] := by
  simp [gathered]

theorem gathered_cons (e : Expr) (rest : List Expr) :
    gathered read (e :: rest) = do return (← e.namesBy read) ++ (← gathered read rest) := by
  simp [gathered]

theorem gathered_singleton (e : Expr) : gathered read [e] = e.namesBy read := by
  simp [gathered]

theorem gathered_append (es fs : List Expr) :
    gathered read (es ++ fs) = do return (← gathered read es) ++ (← gathered read fs) := by
  simp [gathered, List.mapM_append]

theorem namesBy_text (l : Label) (marked : Bool) (points : Text.Points) :
    (Expr.constant l (.text marked points)).namesBy read = namesRead read (readBare read points) := by
  rw [Expr.namesBy, readBare]
  cases Text.trimBy Text.isBlankPoint points with
  | nil => rfl
  | cons c rest =>
    dsimp only
    cases read (c :: rest) with
    | ok x => rfl
    | error reason => cases reason <;> rfl

theorem namesBy_of_opened {e : Expr} {result : Except ParseError Expr} (text : opened? read e = some result) :
    e.namesBy read = namesRead read result := by
  unfold opened? at text
  split at text
  · cases text
    exact namesBy_text ..
  · cases text

theorem namesBy_of_unread {e : Expr} (unread : isUnread read e) : e.namesBy read = pure [] := by
  unfold isUnread at unread
  split at unread
  · rename_i text
    exact namesBy_of_opened text
  · cases unread

theorem namesBy_of_refused {e : Expr} {reason : ParseError} (refused : Refused read e reason) :
    e.namesBy read = throw reason := by
  obtain ⟨text, other⟩ := refused
  rw [namesBy_of_opened text]
  cases reason with
  | malformed => exact absurd rfl other
  | nul => rfl
  | surrogate => rfl

theorem inner?_of_opened {e x : Expr} (text : opened? read e = some (.ok x)) : inner? read e = some [x] := by
  unfold opened? at text
  split at text
  · rw [inner?, opened?, text]
    all_goals nofun
  · cases text

theorem namesBy_of_inner {e : Expr} {es : List Expr} (made : inner? read e = some es) :
    e.namesBy read = gathered read es := by
  unfold inner? at made
  split at made
  · rename_i l head index ctx
    rw [Expr.namesBy]
    split at made
    · rename_i optional
      cases made
      rw [if_pos optional]
      rfl
    · rename_i other
      rw [if_neg other]
      split at made
      · rename_i union
        cases made
        rw [if_pos union]
        rfl
      · cases made
  · cases made
    rw [Expr.namesBy, gathered_cons, gathered_singleton]
  · split at made
    · rename_i x text
      cases made
      rw [namesBy_of_opened text, gathered_singleton]
      rfl
    · cases made

-- What cannot be taken apart has its names at once, unless it is refused.
theorem namesBy_of_atom {e : Expr} (atom : inner? read e = none) :
    (∃ names, e.namesBy read = pure names) ∨ ∃ reason, Refused read e reason := by
  cases text : opened? read e with
  | some result =>
    rw [namesBy_of_opened text]
    cases result with
    | ok x =>
      rw [inner?_of_opened text] at atom
      cases atom
    | error reason =>
      by_cases grammar : reason = .malformed
      · exact .inl ⟨[], by rw [grammar]; rfl⟩
      · exact .inr ⟨reason, text, grammar⟩
  | none =>
    left
    unfold Expr.namesBy
    split
    · exact ⟨_, rfl⟩
    · exact ⟨_, rfl⟩
    · rw [inner?] at atom
      split at atom
      · cases atom
      · rename_i plain
        split at atom
        · cases atom
        · rename_i single
          rw [if_neg plain, if_neg single]
          exact ⟨_, rfl⟩
    · cases atom
    · exact ⟨_, rfl⟩
    · cases text
    · exact ⟨_, rfl⟩

theorem gathered_members {members : List (Expr × List Expr)}
    (each : ∀ m ∈ members, m.1.namesBy read = gathered read m.2) :
    gathered read (members.map Prod.fst) = gathered read (members.flatMap Prod.snd) := by
  induction members with
  | nil => rfl
  | cons m rest ih =>
    obtain ⟨here, later⟩ := List.forall_mem_cons.mp each
    rw [List.map_cons, List.flatMap_cons, gathered_cons, gathered_append, here, ih later]

theorem namesBy_of_parts {e : Expr} {ps : List Expr} (parts : Parts read e ps) :
    e.namesBy read = gathered read ps := by
  induction parts with
  | whole e => exact (gathered_singleton e).symm
  | within made _ each => rw [namesBy_of_inner made, gathered_members each]

theorem parts_single {e x : Expr} {ps : List Expr} (made : inner? read e = some [x]) (parts : Parts read x ps) :
    Parts read e ps := by
  have all : Parts read e ([(x, ps)].flatMap Prod.snd) := .within made (List.forall_mem_singleton.mpr parts)
  simpa using all

theorem parts_pair {e x y : Expr} {ps qs : List Expr} (made : inner? read e = some [x, y]) (first : Parts read x ps)
    (second : Parts read y qs) : Parts read e (ps ++ qs) := by
  have all : Parts read e ([(x, ps), (y, qs)].flatMap Prod.snd) :=
    .within made (List.forall_mem_cons.mpr ⟨first, List.forall_mem_singleton.mpr second⟩)
  simpa using all

theorem gathered_read (ps : List Expr) : gathered read (ps.filter fun p => !isUnread read p) = gathered read ps := by
  induction ps with
  | nil => rfl
  | cons p rest ih =>
    rw [List.filter_cons]
    by_cases unread : isUnread read p
    · rw [unread, Bool.not_true, if_neg Bool.false_ne_true, gathered_cons, namesBy_of_unread unread, ih]
      simp
    · rw [Bool.not_eq_true] at unread
      rw [unread, Bool.not_false, if_pos rfl, gathered_cons, gathered_cons, ih]

-- All the names are found, or those in front of a text that is refused.
theorem gathered_atoms {ps : List Expr} (atoms : ∀ p ∈ ps, inner? read p = none) :
    (∃ names, gathered read ps = pure names) ∨
      ∃ front p back names reason, ps = front ++ p :: back ∧ gathered read front = pure names ∧
        Refused read p reason := by
  induction ps with
  | nil => exact .inl ⟨[], gathered_nil⟩
  | cons p rest ih =>
    obtain ⟨atom, later⟩ := List.forall_mem_cons.mp atoms
    rcases namesBy_of_atom atom with ⟨own, found⟩ | ⟨reason, refused⟩
    · rcases ih later with ⟨names, all⟩ | ⟨front, q, back, names, reason, rfl, before, refused⟩
      · exact .inl ⟨own ++ names, by rw [gathered_cons, found, all]; rfl⟩
      · refine .inr ⟨p :: front, q, back, own ++ names, reason, rfl, ?_, refused⟩
        rw [gathered_cons, found, before]
        rfl
    · exact .inr ⟨[], p, rest, [], reason, rfl, gathered_nil, refused⟩

-- One annotation is what another is made of.
def Below (read : Text.Points → Except ParseError Expr) (x e : Expr) : Prop :=
  ∃ es, inner? read e = some es ∧ x ∈ es

theorem length_readBare {points : Text.Points} {x : Expr} (shorter : Shortens read)
    (opened : readBare read points = .ok x) : ∀ inside ∈ x.texts, inside.length < points.length := by
  have trimmed := (Text.trimBy_sublist Text.isBlankPoint points).length_le
  intro inside member
  unfold readBare at opened
  split at opened
  · cases opened
  · exact Nat.lt_of_lt_of_le (shorter _ x opened inside member) trimmed

theorem texts_child {e x : Expr} (child : .expr x ∈ e.children) : x.size < e.size ∧ x.texts ⊆ e.texts :=
  ⟨Expr.size_child_lt child,
    Expr.texts_subset (Node.mem_walk_of_child (n := .expr e) child (Node.self_mem_walk _))⟩

theorem texts_item {index x : Expr} (member : x ∈ items index) : x.texts ⊆ index.texts := by
  unfold items at member
  split at member
  · rename_i l elts ctx
    have child : .expr x ∈ (Expr.tuple l elts ctx).children :=
      List.mem_append_left _ (List.mem_map_of_mem member)
    exact (texts_child child).2
  · rw [List.mem_singleton.mp member]
    exact List.Subset.refl _

-- What is taken out of an annotation is a smaller expression within it, or is read from one of its texts.
theorem below_cases {e x : Expr} (below : Below read x e) :
    (x.size < e.size ∧ x.texts ⊆ e.texts) ∨ ∃ points ∈ e.texts, readBare read points = .ok x := by
  obtain ⟨es, made, member⟩ := below
  unfold inner? at made
  split at made
  · rename_i l head index ctx
    have item : x ∈ items index := by
      split at made
      · cases made
        exact List.mem_of_mem_take member
      · split at made
        · cases made
          exact member
        · cases made
    obtain ⟨smaller, inside⟩ : index.size < _ ∧ index.texts ⊆ (Expr.subscript l head index ctx).texts :=
      texts_child (by simp [Expr.children])
    exact .inl ⟨Nat.lt_of_le_of_lt (size_item_le item) smaller, List.Subset.trans (texts_item item) inside⟩
  · cases made
    refine .inl (texts_child ?_)
    simpa [Expr.children] using member
  · split at made
    · rename_i y text
      cases made
      rw [List.mem_singleton.mp member]
      unfold opened? at text
      split at text
      · exact .inr ⟨_, Expr.text_mem_texts .., Option.some.inj text⟩
      · cases text
    · cases made

-- Reading shortens the longest text, and until a text is read the expression gets smaller.
theorem below_accessible (shorter : Shortens read) (bound : Nat) (e : Expr)
    (short : ∀ points ∈ e.texts, points.length < bound) : Acc (Below read) e := by
  induction bound using Nat.strong_induction_on generalizing e with
  | _ bound outer =>
    induction size : e.size using Nat.strong_induction_on generalizing e with
    | _ size' inner =>
      refine Acc.intro e fun x below => ?_
      rcases below_cases below with ⟨smaller, inside⟩ | ⟨points, member, opened⟩
      · exact inner x.size (size ▸ smaller) x (fun points member => short points (inside member)) rfl
      · exact outer points.length (short points member) x (length_readBare shorter opened)

theorem exists_members {es : List Expr} {Taken : Expr → List Expr → Prop} (each : ∀ x ∈ es, ∃ ps, Taken x ps) :
    ∃ members : List (Expr × List Expr), members.map Prod.fst = es ∧ ∀ m ∈ members, Taken m.1 m.2 := by
  induction es with
  | nil => exact ⟨[], rfl, nofun⟩
  | cons x rest ih =>
    obtain ⟨⟨ps, taken⟩, later⟩ := List.forall_mem_cons.mp each
    obtain ⟨members, firsts, all⟩ := ih later
    exact ⟨(x, ps) :: members, by rw [List.map_cons, firsts], List.forall_mem_cons.mpr ⟨taken, all⟩⟩

-- Every annotation can be taken apart as far as it goes.
theorem exists_atoms (shorter : Shortens read) (e : Expr) :
    ∃ ps, Parts read e ps ∧ ∀ p ∈ ps, inner? read p = none := by
  obtain ⟨bound, short⟩ : ∃ bound, ∀ points ∈ e.texts, points.length < bound := by
    refine ⟨(e.texts.map List.length).sum + 1, fun points member => ?_⟩
    exact Nat.lt_succ_of_le (List.le_sum_of_mem (List.mem_map_of_mem member))
  have ends := below_accessible shorter bound e short
  clear short
  induction ends with
  | intro e _ ih =>
    cases made : inner? read e with
    | none => exact ⟨[e], .whole e, by simpa using made⟩
    | some es =>
      obtain ⟨members, firsts, all⟩ := exists_members fun x member => ih x ⟨es, made, member⟩
      subst firsts
      refine ⟨_, .within made fun m member => (all m member).1, fun p part => ?_⟩
      obtain ⟨m, member, own⟩ := List.mem_flatMap.mp part
      exact (all m member).2 p own

theorem readExpr_shortens : Shortens readExpr := by
  intro source e opened points member
  unfold readExpr at opened
  split at opened
  · cases opened
  · have shorter := Expr.length_text_lt opened points member
    rwa [List.length_map] at shorter

theorem namesBy_ends (shorter : Shortens read) (e : Expr) :
    (∃ names, e.namesBy read = pure names) ∨
      ∃ front p back names reason, Parts read e (front ++ p :: back) ∧ gathered read front = pure names ∧
        Refused read p reason := by
  obtain ⟨ps, parts, atoms⟩ := exists_atoms shorter e
  rcases gathered_atoms atoms with ⟨names, all⟩ | ⟨front, p, back, names, reason, rfl, before, refused⟩
  · exact .inl ⟨names, by rw [namesBy_of_parts parts, all]⟩
  · exact .inr ⟨front, p, back, names, reason, parts, before, refused⟩

theorem namesBy_of_first_refused {e p : Expr} {front back : List Expr} {names : List String} {reason : ParseError}
    (parts : Parts read e (front ++ p :: back)) (before : gathered read front = pure names)
    (refused : Refused read p reason) : e.namesBy read = throw reason := by
  rw [namesBy_of_parts parts, gathered_append, gathered_cons, before, namesBy_of_refused refused]
  rfl

theorem exists_outcome (shorter : Shortens read) (e : Expr) : ∃ outcome, (e.namesBy read).run = some outcome := by
  rcases namesBy_ends shorter e with ⟨names, all⟩ | ⟨front, p, back, names, reason, parts, before, refused⟩
  · exact ⟨.ok names, by rw [all]; rfl⟩
  · exact ⟨.error reason, by rw [namesBy_of_first_refused parts before refused]; rfl⟩

-- There is no annotation whose names have to be made up because the reading does not end.
theorem names_eq_outcome (e : Expr) : (e.namesBy readExpr).run = some (names e) := by
  obtain ⟨outcome, found⟩ := exists_outcome readExpr_shortens e
  rw [names, found]
  rfl

-- Annotations end at any depth as long as what is read holds only shorter texts than the one that is read.
theorem annotation_names_found (shorter : Shortens read) (e : Expr) :
    (∃ outcome, (e.namesBy read).run = some outcome) ∧
    -- Wherever it stands, a text that is no expression adds no name and takes none away.
    (∀ ps, Parts read e ps → e.namesBy read = gathered read (ps.filter fun p => !isUnread read p)) ∧
    -- The first text that is refused for another reason is the only thing to stop the reading.
    ∀ reason, (e.namesBy read).run = some (.error reason) ↔
      ∃ front p back names, Parts read e (front ++ p :: back) ∧ gathered read front = pure names ∧
        Refused read p reason := by
  refine ⟨exists_outcome shorter e, fun ps parts => ?_, fun reason => ⟨fun stopped => ?_, ?_⟩⟩
  · rw [gathered_read, namesBy_of_parts parts]
  · rcases namesBy_ends shorter e with ⟨names, all⟩ | ⟨front, p, back, names, first, parts, before, refused⟩
    · rw [all] at stopped
      cases stopped
    · rw [namesBy_of_first_refused parts before refused] at stopped
      cases stopped
      exact ⟨front, p, back, names, parts, before, refused⟩
  · rintro ⟨front, p, back, names, parts, before, refused⟩
    rw [namesBy_of_first_refused parts before refused]
    rfl

-- The text `Union['((', 'B']`.
def quotedMembers : Text.Points := [85, 110, 105, 111, 110, 91, 39, 40, 40, 39, 44, 32, 39, 66, 39, 93]

def nameOf (id : String) : Expr := .name none id .load

def textOf (points : Text.Points) : Expr := .constant none (.text false points)

def unionOf (members : List Expr) : Expr := .subscript none (nameOf "Union") (.tuple none members .load) .load

-- One text holds two others, of which the first is no expression. And a text with a NUL character is refused.
theorem annotation_names_found_quoted :
    (unionOf [textOf quotedMembers, nameOf "A"]).namesBy readExpr = pure ["B", "A"] ∧
      ((unionOf [nameOf "A", textOf [0]]).namesBy readExpr).run = some (.error .nul) := by
  constructor
  · have inner : Parts readExpr (unionOf [textOf [40, 40], textOf [66]]) [textOf [40, 40], nameOf "B"] :=
      parts_pair rfl (.whole _) (parts_single rfl (.whole (nameOf "B")))
    have parts : Parts readExpr (unionOf [textOf quotedMembers, nameOf "A"])
        [textOf [40, 40], nameOf "B", nameOf "A"] :=
      parts_pair rfl (parts_single rfl inner) (.whole (nameOf "A"))
    rw [(annotation_names_found readExpr_shortens _).2.1 _ parts]
    have readable : [textOf [40, 40], nameOf "B", nameOf "A"].filter (fun p => !isUnread readExpr p) =
        [nameOf "B", nameOf "A"] := by
      rfl
    rw [readable, gathered_cons, gathered_singleton, nameOf, nameOf, Expr.namesBy, Expr.namesBy]
    rfl
  · have parts : Parts readExpr (unionOf [nameOf "A", textOf [0]]) ([nameOf "A"] ++ textOf [0] :: []) :=
      parts_pair rfl (.whole _) (.whole _)
    refine ((annotation_names_found readExpr_shortens _).2.2 .nul).mpr ⟨_, _, _, ["A"], parts, ?_, rfl, by decide⟩
    rw [gathered_singleton, nameOf, Expr.namesBy]

end TypeHint

end Whittle
