import Mathlib.Data.List.Forall2
import Mathlib.Data.List.Induction
import Mathlib.Data.String.Basic
import Whittle.Proofs.Files.Folders

namespace Whittle

-- One of the patterns matches a path, as it is or with `./` in front.
def Glob.Meets (patterns : List String) (path : String) : Prop :=
  ∃ p ∈ patterns, isMatch p path ∨ isMatch p ("./" ++ path)

theorem Glob.isMatchAny_iff {patterns : List String} {path : String} :
    isMatchAny patterns path ↔ Meets patterns path := by
  simp [isMatchAny, Meets]

namespace Files

-- The name is a stem, which may be empty, with the ending of a source file.
def EndsInPy (name stem : String) : Prop := name = stem ++ ".py"

theorem isPrefixOf_iff_endsInPy (name : String) :
    ['y', 'p', '.'].isPrefixOf name.toList.reverse ↔ ∃ stem, EndsInPy name stem := by
  rw [List.isPrefixOf_iff_prefix]
  constructor
  · rintro ⟨front, split⟩
    refine ⟨String.ofList front.reverse, String.ext_iff.mpr ?_⟩
    have turned := congrArg List.reverse split
    simpa using turned.symm
  · rintro ⟨stem, rfl⟩
    exact ⟨stem.toList.reverse, by simp⟩

namespace Selection

variable {s : Selection} {parts : List String}

theorem enters_iff :
    s.enters parts ↔ ¬Glob.Meets s.unwanted (relText parts ++ "/") ∧ ¬Glob.Meets s.unwanted (relText parts) := by
  simp only [enters, Bool.and_eq_true, Bool.not_eq_true', ← Glob.isMatchAny_iff, Bool.not_eq_true]

theorem takes_iff :
    s.takes parts ↔ (∃ name stem, parts.getLast? = some name ∧ EndsInPy name stem) ∧
      ¬Glob.Meets s.unwanted (relText parts) ∧ (s.wanted = [] ∨ Glob.Meets s.wanted (relText parts)) := by
  have named : (parts.getLast?.map fun n => ['y', 'p', '.'].isPrefixOf n.toList.reverse).getD false ↔
      ∃ name stem, parts.getLast? = some name ∧ EndsInPy name stem := by
    cases parts.getLast? with
    | none => simp
    | some name => simpa using isPrefixOf_iff_endsInPy name
  simp only [takes, Bool.and_eq_true, named, Bool.not_eq_true', Bool.or_eq_true, List.isEmpty_iff,
    ← Glob.isMatchAny_iff, Bool.not_eq_true, and_assoc]

end Selection

end Files

theorem Path.suffix_iff (p : Path) : p.suffix = ".py" ↔ ∃ stem, Files.EndsInPy p.name stem ∧ stem ≠ "" := by
  constructor
  · intro ends
    simp only [suffix] at ends
    split at ends
    · exact absurd ends (by decide)
    · rename_i some
      simp only [Bool.or_eq_true, not_or, List.isEmpty_iff, beq_iff_eq] at some
      obtain ⟨⟨-, unlike⟩, front⟩ := some
      have tail : p.name.toList.reverse.takeWhile (· != '.') = ['y', 'p'] := by
        rw [show (".py" : String) = String.ofList ('.' :: ['y', 'p'].reverse) from rfl, String.ofList_inj,
          List.cons_inj_right, List.reverse_inj] at ends
        exact ends
      have whole := List.takeWhile_append_dropWhile (p := (· != '.')) (l := p.name.toList.reverse)
      rw [tail] at whole unlike front
      cases rest : p.name.toList.reverse.dropWhile (· != '.') with
      | nil =>
        rw [rest] at whole
        rw [← whole] at unlike
        exact absurd rfl unlike
      | cons dot more =>
        have stops : dot = '.' := by
          have first := List.head?_dropWhile_not (· != '.') p.name.toList.reverse
          rw [rest] at first
          simpa using first
        rw [rest, stops] at whole
        rw [← whole] at front
        refine ⟨String.ofList more.reverse, String.ext_iff.mpr ?_, ?_⟩
        · have turned := congrArg List.reverse whole
          simpa using turned.symm
        · intro empty
          exact front (by simpa using empty)
  · rintro ⟨stem, ends, some⟩
    have turned : p.name.toList.reverse = 'y' :: 'p' :: '.' :: stem.toList.reverse := by
      rw [ends]
      simp
    have filled : stem.toList ≠ [] := by simpa using some
    simp [suffix, turned, filled]

namespace Files

inductive Precedes : List String → List String → Prop
  | file {x y : String} : x < y → Precedes [x] [y]
  | above {x y z : String} {rest : List String} : Precedes [x] (y :: z :: rest)
  | folder {x y a b : String} {as bs : List String} : x < y → Precedes (x :: a :: as) (y :: b :: bs)
  | within {x a b : String} {as bs : List String} : Precedes (a :: as) (b :: bs) → Precedes (x :: a :: as) (x :: b :: bs)

theorem Precedes.asymm {a b : List String} (first : Precedes a b) : ¬Precedes b a := by
  induction first with
  | file less =>
    rintro (greater | _)
    exact lt_asymm less greater
  | above => rintro ⟨⟩
  | folder less =>
    rintro (_ | _ | greater | inner)
    · exact lt_asymm less greater
    · exact lt_irrefl _ less
  | within inner ih =>
    rintro (_ | _ | greater | outer)
    · exact lt_irrefl _ greater
    · exact ih outer

-- A listing is determined by what it lists.
theorem eq_of_listed {as bs : List (List String)} (ordered : as.Pairwise Precedes) (ordered' : bs.Pairwise Precedes)
    (same : ∀ parts, parts ∈ as ↔ parts ∈ bs) : as = bs := by
  have distinct : ∀ {xs : List (List String)}, xs.Pairwise Precedes → xs.Nodup := fun ordered =>
    ordered.imp fun first => by
      rintro rfl
      exact first.asymm first
  have perm : as.Perm bs := (List.perm_ext_iff_of_nodup (distinct ordered) (distinct ordered')).mpr same
  exact perm.eq_of_pairwise (fun a b _ _ first second => absurd second first.asymm) ordered ordered'

theorem Precedes.cons {a b : List String} (first : Precedes a b) (x : String) : Precedes (x :: a) (x :: b) := by
  cases first with
  | file less => exact .within (.file less)
  | above => exact .within .above
  | folder less => exact .within (.folder less)
  | within inner => exact .within (.within inner)

-- The order of paths below a place.
def PrecedesBelow (above a b : List String) : Prop := ∃ x y, a = above ++ x ∧ b = above ++ y ∧ Precedes x y

theorem byName_iff {α : Type} {a b : String × α} : byName a b ↔ a.1 ≤ b.1 := by
  simp only [byName, Bool.not_eq_true', decide_eq_false_iff_not, not_lt]

theorem sorted_byName {α : Type} {entries : List (String × α)} (distinct : (entries.map Prod.fst).Nodup) :
    (entries.mergeSort byName).Pairwise fun a b => a.1 < b.1 := by
  have sorted : (entries.mergeSort byName).Pairwise fun a b => byName a b := by
    refine List.pairwise_mergeSort (fun a b c first second => ?_) (fun a b => ?_) entries
    · rw [byName_iff] at first second ⊢
      exact le_trans first second
    · rw [Bool.or_eq_true, byName_iff, byName_iff]
      exact le_total _ _
  have apart : (entries.mergeSort byName).Pairwise fun a b => a.1 ≠ b.1 :=
    List.pairwise_map.mp (((entries.mergeSort_perm byName).map Prod.fst).nodup_iff.mpr distinct)
  exact (sorted.and apart).imp fun both => lt_of_le_of_ne (byName_iff.mp both.1) both.2

theorem mem_listFolders {s : Selection} {above : List String} {entries : List (String × Entry)} {name : String}
    {paths : List (List String)} :
    (name, paths) ∈ listFolders s above entries ↔ ∃ es, (name, .folder es) ∈ entries ∧ s.enters (above ++ [name]) ∧
      paths = listEntry s (above ++ [name]) (.folder es) := by
  induction entries with
  | nil => simp [listFolders]
  | cons head rest ih =>
    obtain ⟨first, e⟩ := head
    cases e with
    | file content =>
      rw [listFolders, ih]
      simp
    | folder es =>
      rw [listFolders]
      split
      · rename_i enters
        rw [List.mem_cons, ih]
        constructor
        · rintro (same | ⟨es', member, more⟩)
          · cases same
            exact ⟨es, List.mem_cons_self, enters, rfl⟩
          · exact ⟨es', List.mem_cons_of_mem _ member, more⟩
        · rintro ⟨es', member, enters', listed⟩
          obtain same | member := List.mem_cons.mp member
          · cases same
            exact .inl (congrArg (Prod.mk name) listed)
          · exact .inr ⟨es', member, enters', listed⟩
      · rename_i hidden
        rw [ih]
        constructor
        · rintro ⟨es', member, more⟩
          exact ⟨es', List.mem_cons_of_mem _ member, more⟩
        · rintro ⟨es', member, enters', listed⟩
          obtain same | member := List.mem_cons.mp member
          · cases same
            exact absurd enters' hidden
          · exact ⟨es', member, enters', listed⟩

theorem names_listFolders (s : Selection) (above : List String) (entries : List (String × Entry)) :
    ((listFolders s above entries).map Prod.fst).Sublist (entries.map Prod.fst) := by
  induction entries with
  | nil => exact List.Sublist.refl _
  | cons head rest ih =>
    obtain ⟨name, e⟩ := head
    cases e with
    | file content => exact ih.cons _
    | folder es =>
      rw [listFolders]
      split
      · exact ih.cons_cons _
      · exact ih.cons _

-- A file below a folder that is taken, `above` being the path from the root to the folder.
structure Chosen (s : Selection) (above : List String) (e : Entry) (below : List String) : Prop where
  stands : e.kindAt below = some .file
  entered : ∀ d rest, below = d ++ rest → d ≠ [] → rest ≠ [] → s.enters (above ++ d)
  taken : s.takes (above ++ below)

section

variable {s : Selection} {above : List String} {entries : List (String × Entry)} {x y : String} {rest : List String}

theorem kindAt_child (distinct : (entries.map Prod.fst).Nodup) {below : List String} {k : Entry.Kind} :
    (Entry.folder entries).kindAt (x :: below) = some k ↔ ∃ e, (x, e) ∈ entries ∧ e.kindAt below = some k := by
  rw [Entry.kindAt_cons, Option.bind_eq_some_iff]
  constructor
  · rintro ⟨e, looked, kind⟩
    exact ⟨e, Entry.mem_of_lookup looked, kind⟩
  · rintro ⟨e, member, kind⟩
    exact ⟨e, Entry.lookup_of_mem distinct member, kind⟩

theorem chosen_file (distinct : (entries.map Prod.fst).Nodup) :
    Chosen s above (.folder entries) [x] ↔ (∃ content, (x, .file content) ∈ entries) ∧ s.takes (above ++ [x]) := by
  constructor
  · rintro ⟨stands, -, taken⟩
    obtain ⟨e, member, kind⟩ := (kindAt_child distinct).mp stands
    cases e with
    | file content => exact ⟨⟨content, member⟩, taken⟩
    | folder es => cases kind
  · rintro ⟨⟨content, member⟩, taken⟩
    refine ⟨(kindAt_child distinct).mpr ⟨_, member, rfl⟩, fun d rest split front back => ?_, taken⟩
    have short := congrArg List.length split
    have some := List.length_pos_iff.mpr front
    have more := List.length_pos_iff.mpr back
    simp only [List.length_cons, List.length_nil, List.length_append] at short
    omega

theorem chosen_below (distinct : (entries.map Prod.fst).Nodup) :
    Chosen s above (.folder entries) (x :: y :: rest) ↔
      ∃ es, (x, .folder es) ∈ entries ∧ s.enters (above ++ [x]) ∧
        Chosen s (above ++ [x]) (.folder es) (y :: rest) := by
  constructor
  · rintro ⟨stands, entered, taken⟩
    obtain ⟨e, member, kind⟩ := (kindAt_child distinct).mp stands
    cases e with
    | file content => cases kind
    | folder es =>
      refine ⟨es, member, entered [x] (y :: rest) rfl (by simp) (by simp), kind, fun d more split front back => ?_, ?_⟩
      · have higher := entered (x :: d) more (by rw [split]; rfl) (by simp) back
        rwa [List.append_assoc]
      · rwa [List.append_assoc]
  · rintro ⟨es, member, enters, stands, entered, taken⟩
    rw [List.append_assoc] at taken
    refine ⟨(kindAt_child distinct).mpr ⟨_, member, stands⟩, fun d more split front back => ?_, taken⟩
    cases d with
    | nil => exact absurd rfl front
    | cons z d =>
      obtain ⟨rfl, inner⟩ := List.cons.inj split
      by_cases first : d = []
      · rw [first]
        exact enters
      · have deeper := entered d more inner first back
        rwa [List.append_assoc] at deeper

theorem below_of_listed (proper : (Entry.folder entries).isProper) {parts : List String}
    (listed : parts ∈ listEntry s above (.folder entries)) : ∃ x rest, parts = above ++ x :: rest := by
  obtain ⟨below, rfl, leads⟩ := leads_listEntry s above _ proper listed
  cases below with
  | nil =>
    obtain ⟨content, found⟩ := leads.file
    cases found
  | cons x rest => exact ⟨x, rest, rfl⟩

theorem mem_listEntry (proper : (Entry.folder entries).isProper) :
    above ++ x :: rest ∈ listEntry s above (.folder entries) ↔ Chosen s above (.folder entries) (x :: rest) := by
  induction rest generalizing above entries x with
  | nil =>
    obtain ⟨distinct, each⟩ := Entry.isProper_folder.mp proper
    rw [chosen_file distinct, listEntry, List.mem_append]
    constructor
    · rintro (here | there)
      · obtain ⟨named, taken⟩ := List.mem_filter.mp here
        obtain ⟨⟨name, e⟩, sorted, same⟩ := List.mem_map.mp named
        obtain ⟨member, isFile⟩ := List.mem_filter.mp (List.mem_mergeSort.mp sorted)
        cases List.append_cancel_left same
        cases e with
        | file content => exact ⟨⟨content, member⟩, taken⟩
        | folder es => cases isFile
      · obtain ⟨⟨name, paths⟩, sorted, listed⟩ := List.mem_flatMap.mp there
        obtain ⟨es, member, -, rfl⟩ := mem_listFolders.mp (List.mem_mergeSort.mp sorted)
        obtain ⟨y, rest, split⟩ := below_of_listed (Entry.of_mem_areProper each member).2 listed
        have long := congrArg List.length split
        simp at long
    · rintro ⟨⟨content, member⟩, taken⟩
      refine .inl (List.mem_filter.mpr ⟨List.mem_map.mpr ⟨(x, .file content), ?_, rfl⟩, taken⟩)
      exact List.mem_mergeSort.mpr (List.mem_filter.mpr ⟨member, rfl⟩)
  | cons y rest ih =>
    obtain ⟨distinct, each⟩ := Entry.isProper_folder.mp proper
    rw [chosen_below distinct, listEntry, List.mem_append]
    constructor
    · rintro (here | there)
      · obtain ⟨named, -⟩ := List.mem_filter.mp here
        obtain ⟨⟨name, e⟩, -, same⟩ := List.mem_map.mp named
        cases List.append_cancel_left same
      · obtain ⟨⟨name, paths⟩, sorted, listed⟩ := List.mem_flatMap.mp there
        obtain ⟨es, member, enters, rfl⟩ := mem_listFolders.mp (List.mem_mergeSort.mp sorted)
        have proper := (Entry.of_mem_areProper each member).2
        obtain ⟨z, more, split⟩ := below_of_listed proper listed
        rw [List.append_assoc] at split
        cases List.append_cancel_left split
        refine ⟨es, member, enters, (ih proper).mp ?_⟩
        rwa [List.append_assoc]
    · rintro ⟨es, member, enters, chosen⟩
      have listed := (ih (Entry.of_mem_areProper each member).2).mpr chosen
      rw [List.append_assoc] at listed
      refine .inr (List.mem_flatMap.mpr ⟨(x, listEntry s (above ++ [x]) (.folder es)), ?_, listed⟩)
      exact List.mem_mergeSort.mpr (mem_listFolders.mpr ⟨es, member, enters, rfl⟩)

end

-- What is listed below the subfolders of a folder, one folder after the other.
theorem split_of_listed {s : Selection} {above : List String} {entries : List (String × Entry)}
    (proper : (Entry.folder entries).isProper) {q : String × List (List String)}
    (member : q ∈ (listFolders s above entries).mergeSort byName) {parts : List String} (listed : parts ∈ q.2) :
    ∃ x rest, parts = above ++ q.1 :: x :: rest := by
  obtain ⟨name, paths⟩ := q
  obtain ⟨es, inside, -, rfl⟩ := mem_listFolders.mp (List.mem_mergeSort.mp member)
  obtain ⟨x, rest, rfl⟩ :=
    below_of_listed (Entry.of_mem_areProper (Entry.isProper_folder.mp proper).2 inside).2 listed
  exact ⟨x, rest, by rw [List.append_assoc]; rfl⟩

theorem ordered_listEntry (s : Selection) (above : List String) (e : Entry) (proper : e.isProper) :
    (listEntry s above e).Pairwise (PrecedesBelow above) := by
  match e with
  | .file content => exact List.Pairwise.nil
  | .folder entries =>
    obtain ⟨distinct, each⟩ := Entry.isProper_folder.mp proper
    rw [listEntry, List.pairwise_append, List.pairwise_flatMap]
    refine ⟨?_, ⟨?_, ?_⟩, ?_⟩
    · have names : ((entries.filter fun e => e.2.isFile).map Prod.fst).Nodup :=
        distinct.sublist (List.filter_sublist.map _)
      refine (List.pairwise_map.mpr ((sorted_byName names).imp fun less => ?_)).filter _
      exact ⟨_, _, rfl, rfl, .file less⟩
    · rintro ⟨name, paths⟩ member
      obtain ⟨es, inside, -, rfl⟩ := mem_listFolders.mp (List.mem_mergeSort.mp member)
      have inner := ordered_listEntry s (above ++ [name]) (.folder es) (Entry.of_mem_areProper each inside).2
      refine inner.imp ?_
      rintro _ _ ⟨x, y, rfl, rfl, first⟩
      exact ⟨name :: x, name :: y, by rw [List.append_assoc]; rfl, by rw [List.append_assoc]; rfl, first.cons name⟩
    · have names := distinct.sublist (names_listFolders s above entries)
      refine (sorted_byName names).imp_of_mem fun here there less a inside b beyond => ?_
      obtain ⟨x, rest, rfl⟩ := split_of_listed proper here inside
      obtain ⟨y, more, rfl⟩ := split_of_listed proper there beyond
      exact ⟨_, _, rfl, rfl, .folder less⟩
    · intro a here b there
      obtain ⟨⟨name, e⟩, -, rfl⟩ := List.mem_map.mp (List.mem_filter.mp here).1
      obtain ⟨q, member, listed⟩ := List.mem_flatMap.mp there
      obtain ⟨x, rest, rfl⟩ := split_of_listed proper member listed
      exact ⟨_, _, rfl, rfl, .above⟩
termination_by sizeOf e
decreasing_by
  have smaller := List.sizeOf_lt_of_mem inside
  simp at smaller ⊢
  omega

-- A file below a folder that a selection takes. No folder on the way to it is left out.
structure Selected (s : Selection) (folder : Entry) (parts : List String) : Prop where
  stands : folder.kindAt parts = some .file
  ends : ∃ name stem, parts.getLast? = some name ∧ EndsInPy name stem
  entered : ∀ d rest, parts = d ++ rest → d ≠ [] → rest ≠ [] →
    ¬Glob.Meets s.unwanted (relText d ++ "/") ∧ ¬Glob.Meets s.unwanted (relText d)
  left : ¬Glob.Meets s.unwanted (relText parts)
  wanted : s.wanted = [] ∨ Glob.Meets s.wanted (relText parts)

theorem chosen_iff_selected {s : Selection} {e : Entry} {parts : List String} :
    Chosen s [] e parts ↔ Selected s e parts := by
  constructor
  · rintro ⟨stands, entered, taken⟩
    obtain ⟨ends, left, wanted⟩ := Selection.takes_iff.mp taken
    exact ⟨stands, ends, fun d rest split front back => Selection.enters_iff.mp (entered d rest split front back), left,
      wanted⟩
  · rintro ⟨stands, ends, entered, left, wanted⟩
    exact ⟨stands, fun d rest split front back => Selection.enters_iff.mpr (entered d rest split front back),
      Selection.takes_iff.mpr ⟨ends, left, wanted⟩⟩

theorem mem_listEntry_iff {s : Selection} {entries : List (String × Entry)}
    (proper : (Entry.folder entries).isProper) (parts : List String) :
    parts ∈ listEntry s [] (.folder entries) ↔ Selected s (.folder entries) parts := by
  rw [← chosen_iff_selected]
  cases parts with
  | nil =>
    refine iff_of_false (fun listed => ?_) (fun chosen => ?_)
    · obtain ⟨x, rest, split⟩ := below_of_listed proper listed
      cases split
    · cases chosen.stands
  | cons x rest => exact mem_listEntry proper

theorem ordered_listing (s : Selection) {e : Entry} (proper : e.isProper) : (listEntry s [] e).Pairwise Precedes := by
  refine (ordered_listEntry s [] e proper).imp ?_
  rintro _ _ ⟨x, y, rfl, rfl, first⟩
  exact first

-- What a root gives, by what it leads to.
inductive Lists (w : Workspace) (s : Selection) (root : Path) : List Path → Prop
  | missing : w.entry? root = none → Lists w s root []
  | source {content : Bytes} {stem : String} : w.entry? root = some (.file content) → EndsInPy root.name stem →
    stem ≠ "" → Lists w s root [root]
  | other {content : Bytes} : w.entry? root = some (.file content) →
    (∀ stem, EndsInPy root.name stem → stem = "") → Lists w s root []
  | folder {entries : List (String × Entry)} {listing : List (List String)} :
    w.entry? root = some (.folder entries) → listing.Pairwise Precedes →
    (∀ parts, parts ∈ listing ↔ Selected s (.folder entries) parts) →
    Lists w s root (listing.map fun parts => { root with parts := root.parts ++ parts })

theorem lists_iff {w : Workspace} (proper : w.root.isProper) (s : Selection) (root : Path) (ps : List Path) :
    Lists w s root ps ↔ ps = listRoot w s root := by
  have inner {e : Entry} (entry : w.entry? root = some e) : e.isProper := by
    obtain ⟨place, -, found⟩ := Option.bind_eq_some_iff.mp entry
    exact Entry.isProper_of_find proper found
  constructor
  · intro lists
    cases lists with
    | missing entry => simp only [listRoot, entry]
    | source entry ends some =>
      have suffix := root.suffix_iff.mpr ⟨_, ends, some⟩
      simp only [listRoot, entry, suffix, beq_self_eq_true, if_true]
    | other entry bare =>
      have suffix : (root.suffix == ".py") = false := beq_false_of_ne fun suffix => by
        obtain ⟨stem, ends, some⟩ := root.suffix_iff.mp suffix
        exact some (bare stem ends)
      simp only [listRoot, entry, suffix, Bool.false_eq_true, if_false]
    | folder entry ordered listed =>
      have same := eq_of_listed ordered (ordered_listing s (inner entry)) fun parts =>
        (listed parts).trans (mem_listEntry_iff (inner entry) parts).symm
      simp only [listRoot, entry, same]
  · rintro rfl
    cases entry : w.entry? root with
    | none =>
      simp only [listRoot, entry]
      exact .missing entry
    | some e =>
      cases e with
      | file content =>
        simp only [listRoot, entry]
        split
        · rename_i suffix
          obtain ⟨stem, ends, some⟩ := root.suffix_iff.mp (eq_of_beq suffix)
          exact .source entry ends some
        · rename_i suffix
          refine .other entry fun stem ends => ?_
          by_contra some
          exact suffix (beq_iff_eq.mpr (root.suffix_iff.mpr ⟨stem, ends, some⟩))
      | folder entries =>
        simp only [listRoot, entry]
        exact .folder entry (ordered_listing s (inner entry)) (mem_listEntry_iff (inner entry))

-- Those that come first among the ones with the same key, in the order in which they come.
inductive KeepsFirst {α β : Type} (key : α → β) : List α → List α → Prop
  | nil : KeepsFirst key [] []
  | again {x : α} {xs kept : List α} : KeepsFirst key xs kept → key x ∈ xs.map key → KeepsFirst key (xs ++ [x]) kept
  | first {x : α} {xs kept : List α} : KeepsFirst key xs kept → key x ∉ xs.map key →
    KeepsFirst key (xs ++ [x]) (kept ++ [x])

theorem firstOfPlace_append (w : Workspace) (seen : List (List String)) (ps : List Path) (p : Path) :
    firstOfPlace w seen (ps ++ [p]) =
      firstOfPlace w seen ps ++ if w.resolve p ∈ seen ∨ w.resolve p ∈ ps.map w.resolve then [] else [p] := by
  induction ps generalizing seen with
  | nil => simp [firstOfPlace]
  | cons q rest ih =>
    rw [List.cons_append, firstOfPlace, firstOfPlace]
    split
    · rename_i known
      have known : w.resolve q ∈ seen := by simpa using known
      rw [ih]
      congr 2
      simp only [List.map_cons, List.mem_cons, eq_iff_iff]
      constructor
      · rintro (old | later)
        · exact .inl old
        · exact .inr (.inr later)
      · rintro (old | same | later)
        · exact .inl old
        · exact .inl (same ▸ known)
        · exact .inr later
    · rw [ih, List.cons_append]
      congr 3
      simp only [List.map_cons, List.mem_cons, eq_iff_iff]
      tauto

theorem keepsFirst_iff {w : Workspace} {ps kept : List Path} :
    KeepsFirst w.resolve ps kept ↔ kept = firstOfPlace w [] ps := by
  constructor
  · intro keeps
    induction keeps with
    | nil => rfl
    | again _ known ih => rw [firstOfPlace_append, if_pos (.inr known), List.append_nil, ih]
    | first _ new ih => rw [firstOfPlace_append, if_neg (by simpa using new), ih]
  · rintro rfl
    induction ps using List.reverseRecOn with
    | nil => exact .nil
    | append_singleton ps p ih =>
      rw [firstOfPlace_append]
      split
      · rename_i known
        rw [List.append_nil]
        exact .again ih (by simpa using known)
      · rename_i new
        exact .first ih (by simpa using new)

-- The files under some roots: those of each root in turn, and of the paths to one place the first.
def Enumerates (w : Workspace) (s : Selection) (roots : List String) (ps : List Path) : Prop :=
  ∃ lists, List.Forall₂ (fun root => Lists w s (.of root)) roots lists ∧ KeepsFirst w.resolve lists.flatten ps

theorem lists_all_iff {w : Workspace} (proper : w.root.isProper) {s : Selection} {roots : List String}
    {lists : List (List Path)} :
    List.Forall₂ (fun root => Lists w s (.of root)) roots lists ↔
      lists = roots.map fun root => listRoot w s (.of root) := by
  induction roots generalizing lists with
  | nil => exact List.forall₂_nil_left_iff
  | cons root rest ih =>
    cases lists with
    | nil => simp
    | cons ps more => rw [List.forall₂_cons, ih, lists_iff proper, List.map_cons, List.cons.injEq]

theorem enumerates_iff {w : Workspace} (proper : w.root.isProper) {s : Selection} {roots : List String}
    {ps : List Path} : Enumerates w s roots ps ↔ ps = collect w s roots := by
  rw [collect, List.flatMap_def, ← keepsFirst_iff]
  constructor
  · rintro ⟨lists, each, keeps⟩
    rwa [← (lists_all_iff proper).mp each]
  · intro keeps
    exact ⟨_, (lists_all_iff proper).mpr rfl, keeps⟩

end Files

namespace Entry

-- The same names in any order, and under each name the same up to order.
inductive Reordered : Entry → Entry → Prop
  | file (content : Bytes) : Reordered (.file content) (.file content)
  | folder {es fs : List (String × Entry)} : (es.map Prod.fst).Perm (fs.map Prod.fst) →
    (∀ name e f, (name, e) ∈ es → (name, f) ∈ fs → Reordered e f) → Reordered (.folder es) (.folder fs)

theorem exists_named {es fs : List (String × Entry)} (names : (es.map Prod.fst).Perm (fs.map Prod.fst)) {name : String}
    {e : Entry} (member : (name, e) ∈ es) : ∃ f, (name, f) ∈ fs := by
  obtain ⟨⟨_, f⟩, inside, rfl⟩ := List.mem_map.mp (names.mem_iff.mp (List.mem_map_of_mem member))
  exact ⟨f, inside⟩

theorem areProper_of_mem {entries : List (String × Entry)}
    (each : ∀ name e, (name, e) ∈ entries → name ≠ ".." ∧ e.isProper) : areProper entries := by
  induction entries with
  | nil => rfl
  | cons head rest ih =>
    obtain ⟨name, e⟩ := head
    obtain ⟨plain, proper⟩ := each name e List.mem_cons_self
    rw [areProper, proper, ih fun n e member => each n e (List.mem_cons_of_mem _ member)]
    simpa using plain

namespace Reordered

variable {e f : Entry}

theorem isProper (same : Reordered e f) (proper : e.isProper) : f.isProper := by
  induction same with
  | file content => rfl
  | folder names _ ih =>
    obtain ⟨distinct, each⟩ := isProper_folder.mp proper
    refine isProper_folder.mpr ⟨names.nodup_iff.mp distinct, areProper_of_mem fun name f member => ?_⟩
    obtain ⟨e, inside⟩ := exists_named names.symm member
    obtain ⟨plain, inner⟩ := of_mem_areProper each inside
    exact ⟨plain, ih name e f inside member inner⟩

theorem lookup {es fs : List (String × Entry)} (same : Reordered (.folder es) (.folder fs))
    (proper : (Entry.folder es).isProper) (name : String) :
    Option.Rel (fun e f => Reordered e f ∧ e.isProper) (es.lookup name) (fs.lookup name) := by
  have proper' := same.isProper proper
  obtain ⟨distinct, each⟩ := isProper_folder.mp proper
  cases same with
  | folder names under =>
    cases found : es.lookup name with
    | none =>
      cases found' : fs.lookup name with
      | none => exact .none
      | some f =>
        obtain ⟨e, inside⟩ := exists_named names.symm (mem_of_lookup found')
        rw [lookup_of_mem distinct inside] at found
        cases found
    | some e =>
      have member := mem_of_lookup found
      obtain ⟨f, inside⟩ := exists_named names member
      rw [lookup_of_mem (isProper_folder.mp proper').1 inside]
      exact .some ⟨under name e f member inside, (of_mem_areProper each member).2⟩

theorem find (same : Reordered e f) (proper : e.isProper) (place : List String) :
    Option.Rel Reordered (e.find? place) (f.find? place) := by
  induction place generalizing e f with
  | nil => exact .some same
  | cons name rest ih =>
    cases same with
    | file content => exact .none
    | @folder es fs names under =>
      have looked := lookup (.folder names under) proper name
      rw [find?, find?, entries, entries]
      generalize es.lookup name = here at looked
      generalize fs.lookup name = there at looked
      cases looked with
      | none => exact .none
      | some both => exact ih both.1 both.2

theorem kindAt_eq (same : Reordered e f) (proper : e.isProper) (place : List String) :
    f.kindAt place = e.kindAt place := by
  have found := same.find proper place
  rw [kindAt, kindAt]
  generalize e.find? place = here at found
  generalize f.find? place = there at found
  cases found with
  | none => rfl
  | some inner => cases inner <;> rfl

end Reordered

end Entry

namespace Workspace

variable {w v : Workspace}

theorem step_of_kinds (kinds : ∀ place, v.root.kindAt place = w.root.kindAt place) : v.step = w.step := by
  have blocked : ∀ {w : Workspace} {place : List String} (part : String), w.root.kindAt place ≠ some .folder →
      w.step place part = none := by
    intro w place part other
    unfold step
    split
    · rename_i entries found
      exact absurd (Entry.kindAt_folder_iff.mpr ⟨entries, found⟩) other
    · rfl
  funext place part
  by_cases folder : w.root.kindAt place = some .folder
  · rw [step_eq folder, step_eq ((kinds place).trans folder), kinds]
  · rw [blocked part folder, blocked part (kinds place ▸ folder)]

theorem entry_reordered (proper : w.root.isProper) (home : v.cwd = w.cwd) (same : w.root.Reordered v.root) (p : Path) :
    Option.Rel Entry.Reordered (w.entry? p) (v.entry? p) := by
  have step := step_of_kinds (same.kindAt_eq proper)
  have located : v.locate? p = w.locate? p := by
    rw [locate?, locate?, step, start, start, home]
  unfold entry?
  rw [located]
  cases w.locate? p with
  | none => exact .none
  | some place => exact same.find proper place

end Workspace

namespace Files

variable {w v : Workspace} {s : Selection}

theorem Selected.reordered {e f : Entry} (same : e.Reordered f) (proper : e.isProper) {parts : List String} :
    Selected s f parts ↔ Selected s e parts := by
  rw [← chosen_iff_selected, ← chosen_iff_selected]
  constructor
  · rintro ⟨stands, entered, taken⟩
    exact ⟨same.kindAt_eq proper parts ▸ stands, entered, taken⟩
  · rintro ⟨stands, entered, taken⟩
    exact ⟨(same.kindAt_eq proper parts).trans stands, entered, taken⟩

theorem Lists.reordered (proper : w.root.isProper) (home : v.cwd = w.cwd) (same : w.root.Reordered v.root)
    {root : Path} {ps : List Path} (lists : Lists w s root ps) : Lists v s root ps := by
  have entries := w.entry_reordered proper home same root
  generalize there : v.entry? root = e at entries
  cases lists with
  | missing here =>
    rw [here] at entries
    cases entries
    exact .missing there
  | source here ends some =>
    rw [here] at entries
    cases entries with
    | some same =>
      cases same
      exact .source there ends some
  | other here bare =>
    rw [here] at entries
    cases entries with
    | some same =>
      cases same
      exact .other there bare
  | folder here ordered listed =>
    obtain ⟨place, -, found⟩ := Option.bind_eq_some_iff.mp here
    have inner := Entry.isProper_of_find proper found
    rw [here] at entries
    cases entries with
    | some same =>
      cases same with
      | folder names under =>
        refine .folder there ordered fun parts => (listed parts).trans ?_
        exact (Selected.reordered (.folder names under) inner).symm

theorem listRoot_reordered (proper : w.root.isProper) (home : v.cwd = w.cwd) (same : w.root.Reordered v.root)
    (root : Path) : listRoot v s root = listRoot w s root := by
  have lists := (lists_iff proper s root _).mpr rfl
  exact ((lists_iff (same.isProper proper) s root _).mp (lists.reordered proper home same)).symm

theorem collect_reordered (proper : w.root.isProper) (home : v.cwd = w.cwd) (same : w.root.Reordered v.root)
    (roots : List String) : collect v s roots = collect w s roots := by
  have places : v.resolve = w.resolve := by
    funext p
    rw [Workspace.resolve, Workspace.resolve, Workspace.start, Workspace.start, home]
  have listed : (roots.flatMap fun r => listRoot v s (.of r)) = roots.flatMap fun r => listRoot w s (.of r) :=
    List.flatMap_congr fun r _ => listRoot_reordered proper home same _
  rw [collect, collect, listed, eq_comm, ← keepsFirst_iff, places, keepsFirst_iff]

-- The collected files are the enumerated ones and no others, each place once, whatever the order of the entries.
theorem collect_enumerates (w : Workspace) (s : Selection) (roots : List String) (proper : w.root.isProper) :
    (∀ ps, Enumerates w s roots ps ↔ ps = collect w s roots) ∧
    ((collect w s roots).map w.resolve).Nodup ∧
    ∀ v : Workspace, v.cwd = w.cwd → w.root.Reordered v.root → collect v s roots = collect w s roots :=
  ⟨fun _ => enumerates_iff proper, nodup_firstOfPlace w [] _, fun _ home same => collect_reordered proper home same roots⟩

-- The first root leaves out a folder that the second gives, and the others give nothing that is new.
def overlapping : Workspace :=
  ⟨.folder [("pkg", .folder [("a.py", .file []), ("build", .folder [("b.py", .file [])]), ("z.py", .file [])])], []⟩

theorem collect_enumerates_overlapping :
    let s : Selection := ⟨["**/*.py"], ["build"]⟩
    Enumerates overlapping s ["pkg", "pkg/build", "pkg/a.py", "none"]
      [⟨0, ["pkg", "a.py"]⟩, ⟨0, ["pkg", "z.py"]⟩, ⟨0, ["pkg", "build", "b.py"]⟩] := by
  intro s
  have outer : listEntry s [] (.folder [("a.py", .file []), ("build", .folder [("b.py", .file [])]),
      ("z.py", .file [])]) = [["a.py"], ["z.py"]] := by
    rw [listEntry, List.mergeSort_of_pairwise (by decide +kernel), List.mergeSort_of_pairwise (by decide +kernel)]
    decide +kernel
  have inner : listEntry s [] (.folder [("b.py", .file [])]) = [["b.py"]] := by
    rw [listEntry, List.mergeSort_of_pairwise (by decide +kernel), List.mergeSort_of_pairwise (by decide +kernel)]
    decide +kernel
  have first : listRoot overlapping s (.of "pkg") = [⟨0, ["pkg", "a.py"]⟩, ⟨0, ["pkg", "z.py"]⟩] := by
    have entry : overlapping.entry? (.of "pkg") = some (.folder [("a.py", .file []),
      ("build", .folder [("b.py", .file [])]), ("z.py", .file [])]) := rfl
    simp only [listRoot, entry, outer]
    decide +kernel
  have second : listRoot overlapping s (.of "pkg/build") = [⟨0, ["pkg", "build", "b.py"]⟩] := by
    have entry : overlapping.entry? (.of "pkg/build") = some (.folder [("b.py", .file [])]) := rfl
    simp only [listRoot, entry, inner]
    decide +kernel
  have others : listRoot overlapping s (.of "pkg/a.py") ++ listRoot overlapping s (.of "none") =
      [⟨0, ["pkg", "a.py"]⟩] := by decide +kernel
  refine ((collect_enumerates overlapping s ["pkg", "pkg/build", "pkg/a.py", "none"] (by decide)).1 _).mpr ?_
  simp only [collect, List.flatMap_cons, List.flatMap_nil, List.append_nil, first, second, others]
  decide +kernel

end Files

end Whittle
