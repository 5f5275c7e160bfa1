import Whittle.Proofs.Files.Enumeration
import Whittle.Proofs.Files.Matching

namespace Whittle

-- A path with more parts after its own.
def Path.under (root : Path) (parts : List String) : Path := { root with parts := root.parts ++ parts }

namespace Entry

mutual

-- No name holds a slash, as none does on a disk.
def isSlashless : Entry → Bool
  | .file _ => true
  | .folder entries => areSlashless entries

def areSlashless : List (String × Entry) → Bool
  | [] => true
  | (name, e) :: rest => !name.toList.contains '/' && e.isSlashless && areSlashless rest

end

theorem of_mem_areSlashless {entries : List (String × Entry)} (slashless : areSlashless entries) {name : String}
    {e : Entry} (member : (name, e) ∈ entries) : '/' ∉ name.toList ∧ e.isSlashless := by
  induction entries with
  | nil => cases member
  | cons head rest ih =>
    obtain ⟨n, old⟩ := head
    simp only [areSlashless, Bool.and_eq_true, Bool.not_eq_true', List.contains_eq_mem, decide_eq_false_iff_not]
      at slashless
    rcases List.mem_cons.mp member with same | later
    · cases same
      exact slashless.1
    · exact ih slashless.2 later

theorem slashless_of_find {e sub : Entry} (slashless : e.isSlashless) {place : List String}
    (found : e.find? place = some sub) : (∀ name ∈ place, '/' ∉ name.toList) ∧ sub.isSlashless := by
  induction place generalizing e with
  | nil =>
    cases found
    exact ⟨by simp, slashless⟩
  | cons name rest ih =>
    obtain ⟨child, looked, further⟩ := Option.bind_eq_some_iff.mp found
    cases e with
    | file content => cases looked
    | folder entries =>
      obtain ⟨here, inner⟩ := of_mem_areSlashless slashless (mem_of_lookup looked)
      obtain ⟨below, last⟩ := ih inner further
      exact ⟨List.forall_mem_cons.mpr ⟨here, below⟩, last⟩

end Entry

namespace Files

-- Names with a slash before each.
def slashed (names : List String) : List Char := names.flatMap fun n => '/' :: n.toList

theorem slashed_relText {parts : List String} (some : parts ≠ []) : '/' :: (relText parts).toList = slashed parts := by
  unfold relText
  induction parts with
  | nil => exact absurd rfl some
  | cons part rest ih =>
    cases rest with
    | nil => simp [Text.join, slashed]
    | cons next more =>
      have joined : Text.join "/" (part :: next :: more) = part ++ "/" ++ Text.join "/" (next :: more) := rfl
      have inner := ih (by simp)
      have split : slashed (part :: next :: more) = '/' :: part.toList ++ slashed (next :: more) := rfl
      rw [joined, split, ← inner]
      simp

theorem prefix_slash_iff {x y rest : List Char} (plain : '/' ∉ x) (plain' : '/' ∉ y) :
    x ++ ['/'] <+: y ++ '/' :: rest ↔ x = y := by
  induction x generalizing y with
  | nil =>
    cases y with
    | nil => simp
    | cons c y =>
      have other : '/' ≠ c := fun same => plain' (same ▸ List.mem_cons_self)
      simp [List.cons_prefix_cons, other]
  | cons b x ih =>
    rw [List.mem_cons, not_or] at plain
    cases y with
    | nil => simp [List.cons_prefix_cons, Ne.symm plain.1]
    | cons c y =>
      rw [List.mem_cons, not_or] at plain'
      rw [List.cons_append, List.cons_append, List.cons_prefix_cons, ih plain.2 plain'.2, List.cons.injEq]

-- Something that starts with a slash is not found among characters that are none.
theorem slash_infix_iff {x front rest : List Char} (plain : '/' ∉ front) :
    '/' :: x <:+: front ++ rest ↔ '/' :: x <:+: rest := by
  induction front with
  | nil => rfl
  | cons c front ih =>
    rw [List.mem_cons, not_or] at plain
    rw [List.cons_append, List.infix_cons_iff, ih plain.2, List.cons_prefix_cons]
    simp [plain.1]

theorem between_slashes_iff {x : String} {last : List Char} {names : List String} (plain : '/' ∉ x.toList)
    (plainLast : '/' ∉ last) (each : ∀ n ∈ names, '/' ∉ n.toList) :
    '/' :: x.toList ++ ['/'] <:+: slashed names ++ '/' :: last ↔ x ∈ names := by
  induction names with
  | nil =>
    refine iff_of_false (fun found => ?_) (by simp)
    have slashes := found.sublist.count_le '/'
    simp [slashed, List.count_eq_zero_of_not_mem plain, List.count_eq_zero_of_not_mem plainLast] at slashes
  | cons n rest ih =>
    rw [List.forall_mem_cons] at each
    obtain ⟨more, starts⟩ : ∃ more, slashed rest ++ '/' :: last = '/' :: more := by
      cases rest with
      | nil => exact ⟨last, rfl⟩
      | cons m rest => exact ⟨_, rfl⟩
    have split : slashed (n :: rest) ++ '/' :: last = '/' :: (n.toList ++ (slashed rest ++ '/' :: last)) := by
      simp [slashed]
    rw [split, List.infix_cons_iff, List.cons_append, slash_infix_iff each.1, ← List.cons_append, ih each.2,
      List.mem_cons]
    refine or_congr ?_ Iff.rfl
    rw [starts, List.cons_append, List.cons_prefix_cons, prefix_slash_iff plain each.1, String.toList_inj]
    simp

-- No mark of patterns and no slash.
def IsPlainName (name : String) : Prop := ∀ c ∈ name.toList, Glob.isMark c = false ∧ c ≠ '/'

instance : DecidablePred IsPlainName := fun name =>
  inferInstanceAs (Decidable (∀ c ∈ name.toList, Glob.isMark c = false ∧ c ≠ '/'))

def between (name : String) : String := "**/" ++ name ++ "/**"

-- A name that is left out is looked for between slashes, with one before the path.
theorem meets_between_iff {names : List String} (plain : ∀ x ∈ names, IsPlainName x) (path : String) :
    Glob.Meets (names.map between) path ↔ ∃ x ∈ names, '/' :: x.toList ++ ['/'] <:+: '/' :: path.toList := by
  have each : ∀ x ∈ names, (Glob.isMatch (between x) path ∨ Glob.isMatch (between x) ("./" ++ path)) ↔
      '/' :: x.toList ++ ['/'] <:+: '/' :: path.toList := by
    intro x member
    have unmarked : ∀ c ∈ x.toList, Glob.isMark c = false := fun c inside => (plain x member c inside).1
    have dotted : ("./" ++ path).toList = '.' :: '/' :: path.toList := by simp
    rw [between, Glob.isMatch_between_iff unmarked, Glob.isMatch_between_iff unmarked, dotted,
      List.infix_cons_iff, List.cons_append, List.cons_prefix_cons]
    constructor
    · rintro (here | ⟨slash, -⟩ | there)
      · exact List.infix_cons here
      · exact absurd slash (by decide)
      · exact there
    · exact fun there => .inr (.inr there)
  constructor
  · rintro ⟨_, member, found⟩
    obtain ⟨x, inside, rfl⟩ := List.mem_map.mp member
    exact ⟨x, inside, (each x inside).mp found⟩
  · rintro ⟨x, inside, found⟩
    exact ⟨between x, List.mem_map.mpr ⟨x, inside, rfl⟩, (each x inside).mpr found⟩

section

variable {names : List String} (plain : ∀ x ∈ names, IsPlainName x)
include plain

theorem slashless_of_plain {x : String} (member : x ∈ names) : '/' ∉ x.toList := fun slash =>
  (plain x member '/' slash).2 rfl

theorem meets_below_iff {folders : List String} {last : String} (each : ∀ n ∈ folders ++ [last], '/' ∉ n.toList) :
    Glob.Meets (names.map between) (relText (folders ++ [last])) ↔ ∃ x ∈ names, x ∈ folders := by
  have split : slashed (folders ++ [last]) = slashed folders ++ '/' :: last.toList := by simp [slashed]
  rw [meets_between_iff plain, slashed_relText (by simp), split]
  refine exists_congr fun x => and_congr_right fun member => ?_
  exact between_slashes_iff (slashless_of_plain plain member) (each last (by simp)) fun n inside =>
    each n (List.mem_append_left _ inside)

theorem meets_folder_iff {d : List String} (some : d ≠ []) (each : ∀ n ∈ d, '/' ∉ n.toList) :
    Glob.Meets (names.map between) (relText d ++ "/") ↔ ∃ x ∈ names, x ∈ d := by
  have split : '/' :: (relText d ++ "/").toList = slashed d ++ '/' :: [] := by
    rw [String.toList_append, ← List.cons_append, slashed_relText some]
    rfl
  rw [meets_between_iff plain, split]
  refine exists_congr fun x => and_congr_right fun member => ?_
  exact between_slashes_iff (slashless_of_plain plain member) (by simp) each

end

theorem meets_py {parts : List String} {name stem : String} (last : parts.getLast? = some name)
    (ends : EndsInPy name stem) : Glob.Meets ["**/*.py"] (relText parts) := by
  obtain ⟨folders, rfl⟩ := List.getLast?_eq_some_iff.mp last
  have tail : '/' :: (relText (folders ++ [name])).toList = slashed folders ++ '/' :: (stem.toList ++ ".py".toList) := by
    rw [slashed_relText (by simp), ends]
    simp [slashed]
  refine ⟨"**/*.py", List.mem_singleton_self _, .inr ?_⟩
  refine (@Glob.isMatch_ending_iff ".py" (by simp [Glob.isMark]) _).mpr ⟨'.' :: slashed folders, stem.toList, ?_⟩
  have dotted : ("./" ++ relText (folders ++ [name])).toList = '.' :: '/' :: (relText (folders ++ [name])).toList := by
    simp
  rw [dotted, tail]
  rfl

-- The source files below the folders that are not left out.
theorem selected_iff {names : List String} (plain : ∀ x ∈ names, IsPlainName x) {folder : Entry}
    (slashless : folder.isSlashless) {parts : List String} :
    Selected ⟨["**/*.py"], names.map between⟩ folder parts ↔
      ∃ folders name stem, parts = folders ++ [name] ∧ folder.kindAt parts = some .file ∧ EndsInPy name stem ∧
        ∀ d ∈ folders, d ∉ names := by
  constructor
  · rintro ⟨stands, ⟨name, stem, last, ends⟩, -, left, -⟩
    obtain ⟨folders, rfl⟩ := List.getLast?_eq_some_iff.mp last
    refine ⟨folders, name, stem, rfl, stands, ends, fun d inside listed => left ?_⟩
    obtain ⟨e, found, -⟩ := Option.map_eq_some_iff.mp stands
    exact (meets_below_iff plain (Entry.slashless_of_find slashless found).1).mpr ⟨d, listed, inside⟩
  · rintro ⟨folders, name, stem, rfl, stands, ends, outside⟩
    obtain ⟨e, found, -⟩ := Option.map_eq_some_iff.mp stands
    have each := (Entry.slashless_of_find slashless found).1
    have last : (folders ++ [name]).getLast? = some name := by simp
    refine ⟨stands, ⟨name, stem, last, ends⟩, fun d rest split front back => ?_, ?_, .inr (meets_py last ends)⟩
    · -- a folder on the way has no name that is left out, nor has one above it
      have inside : ∀ n ∈ d, n ∈ folders := by
        obtain ⟨init, z, rfl⟩ := List.eq_nil_or_concat rest |>.resolve_left back
        rw [List.concat_eq_append, ← List.append_assoc] at split
        rw [(List.append_inj' split rfl).1]
        exact fun n => List.mem_append_left _
      have slashlessFolders : ∀ n ∈ d, '/' ∉ n.toList := fun n member =>
        each n (List.mem_append_left _ (inside n member))
      constructor
      · rw [meets_folder_iff plain front slashlessFolders]
        rintro ⟨x, listed, member⟩
        exact outside x (inside x member) listed
      · obtain ⟨above, z, rfl⟩ := List.eq_nil_or_concat d |>.resolve_left front
        rw [List.concat_eq_append] at slashlessFolders inside ⊢
        rw [meets_below_iff plain slashlessFolders]
        rintro ⟨x, listed, member⟩
        exact outside x (inside x (List.mem_append_left _ member)) listed
    · rw [meets_below_iff plain each]
      rintro ⟨x, listed, member⟩
      exact outside x member listed

theorem exists_firstOfPlace {w : Workspace} {seen : List (List String)} {ps : List Path} {p : Path} (member : p ∈ ps)
    (new : w.resolve p ∉ seen) : ∃ q ∈ firstOfPlace w seen ps, w.resolve q = w.resolve p := by
  induction ps generalizing seen with
  | nil => cases member
  | cons first rest ih =>
    rw [firstOfPlace]
    split
    · rename_i known
      rcases List.mem_cons.mp member with rfl | later
      · exact absurd (by simpa using known) new
      · exact ih later new
    · by_cases same : w.resolve p = w.resolve first
      · exact ⟨first, List.mem_cons_self, same.symm⟩
      · have later : p ∈ rest := (List.mem_cons.mp member).resolve_left fun equal => same (congrArg w.resolve equal)
        obtain ⟨q, kept, place⟩ := ih later fun seen => (List.mem_cons.mp seen).elim same new
        exact ⟨q, List.mem_cons_of_mem _ kept, place⟩

theorem resolve_under (w : Workspace) (root : Path) {parts : List String} (down : ".." ∉ parts) :
    w.resolve (root.under parts) = w.resolve root ++ parts := by
  have onward : ∀ place : List String,
      parts.foldl (fun place part => if part == ".." then place.dropLast else place ++ [part]) place = place ++ parts := by
    induction parts with
    | nil => simp
    | cons part rest ih =>
      intro place
      rw [List.mem_cons, not_or] at down
      rw [List.foldl_cons, beq_false_of_ne (Ne.symm down.1)]
      simpa using ih down.2 (place ++ [part])
  rw [Workspace.resolve, Path.under, List.foldl_append]
  exact onward _

-- Below a single folder no two files have one place, so all that are listed are collected.
theorem mem_collect_folder {w : Workspace} {s : Selection} {root : String} {entries : List (String × Entry)}
    (proper : w.root.isProper) (folder : w.entry? (.of root) = some (.folder entries)) {p : Path} :
    p ∈ collect w s [root] ↔ ∃ parts, Selected s (.folder entries) parts ∧
      p = (Path.of root).under parts := by
  obtain ⟨place, -, found⟩ := Option.bind_eq_some_iff.mp folder
  have inner := Entry.isProper_of_find proper found
  have listed : listRoot w s (.of root) = (listEntry s [] (.folder entries)).map (Path.of root).under := by
    simp only [listRoot, folder]
    rfl
  have down : ∀ parts ∈ listEntry s [] (.folder entries), ".." ∉ parts := by
    intro parts taken
    obtain ⟨below, rfl, leads⟩ := leads_listEntry s [] _ inner taken
    exact leads.down
  rw [collect, List.flatMap_singleton, listed]
  constructor
  · intro collected
    obtain ⟨parts, taken, rfl⟩ := List.mem_map.mp (of_mem_firstOfPlace collected).1
    exact ⟨parts, (mem_listEntry_iff inner parts).mp taken, rfl⟩
  · rintro ⟨parts, selected, rfl⟩
    have taken := (mem_listEntry_iff inner parts).mpr selected
    have given : (Path.of root).under parts ∈ (listEntry s [] (.folder entries)).map (Path.of root).under :=
      List.mem_map.mpr ⟨parts, taken, rfl⟩
    obtain ⟨q, kept, same⟩ := @exists_firstOfPlace w [] _ _ given (by simp)
    obtain ⟨others, taken', rfl⟩ := List.mem_map.mp (of_mem_firstOfPlace kept).1
    rw [resolve_under w _ (down _ taken), resolve_under w _ (down _ taken')] at same
    rwa [← List.append_cancel_left same]

-- A source file is collected exactly if no folder between the root and the file has a name that is left out.
theorem collect_outside (w : Workspace) (root : String) (names : List String) (entries : List (String × Entry))
    (proper : w.root.isProper) (slashless : w.root.isSlashless)
    (folder : w.entry? (.of root) = some (.folder entries)) (plain : ∀ x ∈ names, IsPlainName x) (p : Path) :
    p ∈ collect w ⟨["**/*.py"], names.map between⟩ [root] ↔ ∃ folders name stem,
      p = (Path.of root).under (folders ++ [name]) ∧
      (Entry.folder entries).kindAt (folders ++ [name]) = some .file ∧ EndsInPy name stem ∧ ∀ d ∈ folders, d ∉ names := by
  obtain ⟨place, -, found⟩ := Option.bind_eq_some_iff.mp folder
  have inner := (Entry.slashless_of_find slashless found).2
  rw [mem_collect_folder proper folder]
  constructor
  · rintro ⟨parts, selected, rfl⟩
    obtain ⟨folders, name, stem, rfl, rest⟩ := (selected_iff plain inner).mp selected
    exact ⟨folders, name, stem, rfl, rest⟩
  · rintro ⟨folders, name, stem, rfl, rest⟩
    exact ⟨_, (selected_iff plain inner).mpr ⟨folders, name, stem, rfl, rest⟩, rfl⟩

-- Folders of one name at the root and below it, a folder whose name only ends so, and a file of that name.
def scattered : List (String × Entry) :=
  [("build", .folder [("a.py", .file [])]), ("rebuild", .folder [("b.py", .file [])]),
   ("sub", .folder [("build", .folder [("deep", .folder [("c.py", .file [])])]), ("build.py", .file [])])]

theorem collect_outside_scattered :
    let collected := collect ⟨.folder [("pkg", .folder scattered)], []⟩ ⟨["**/*.py"], ["**/build/**"]⟩ ["pkg"]
    ⟨0, ["pkg", "rebuild", "b.py"]⟩ ∈ collected ∧ ⟨0, ["pkg", "sub", "build.py"]⟩ ∈ collected ∧
      ⟨0, ["pkg", "build", "a.py"]⟩ ∉ collected ∧ ⟨0, ["pkg", "sub", "build", "deep", "c.py"]⟩ ∉ collected := by
  intro collected
  have outside : ∀ p, p ∈ collected ↔ _ :=
    collect_outside ⟨.folder [("pkg", .folder scattered)], []⟩ "pkg" ["build"] scattered (by decide) (by decide) rfl
      (by simp [IsPlainName, Glob.isMark])
  have root : Path.of "pkg" = ⟨0, ["pkg"]⟩ := by decide
  have hidden : ∀ (fs : List String) (n : String), "build" ∈ fs → ⟨0, "pkg" :: (fs ++ [n])⟩ ∉ collected := by
    intro fs n inside listed
    obtain ⟨folders, name, stem, same, -, -, free⟩ := (outside _).mp listed
    rw [root, Path.under, Path.mk.injEq] at same
    have tails : fs ++ [n] = folders ++ [name] := (List.cons.inj same.2).2
    exact free "build" ((List.append_inj' tails rfl).1 ▸ inside) List.mem_cons_self
  refine ⟨(outside _).mpr ?_, (outside _).mpr ?_, hidden ["build"] "a.py" (by decide),
    hidden ["sub", "build", "deep"] "c.py" (by decide)⟩
  · exact ⟨["rebuild"], "b.py", "b", by rw [root]; rfl, rfl, rfl, by decide⟩
  · exact ⟨["sub"], "build.py", "build", by rw [root]; rfl, rfl, rfl, by decide⟩

end Files

end Whittle
