import Mathlib.Data.List.Nodup
import Whittle.Files.Workspace

namespace Whittle

namespace Entry

mutual

-- No folder has two entries of one name, and none has an entry that would be taken for the folder above.
def isProper : Entry → Bool
  | .file _ => true
  | .folder entries => decide (entries.map Prod.fst).Nodup && areProper entries

def areProper : List (String × Entry) → Bool
  | [] => true
  | (name, e) :: rest => name != ".." && e.isProper && areProper rest

end

mutual

def revise (f : List String → Bytes → Bytes) : Entry → Entry
  | .file content => .file (f [] content)
  | .folder entries => .folder (reviseAll f entries)

def reviseAll (f : List String → Bytes → Bytes) : List (String × Entry) → List (String × Entry)
  | [] => []
  | (name, e) :: rest => (name, e.revise fun place => f (name :: place)) :: reviseAll f rest

end

theorem of_mem_areProper {entries : List (String × Entry)} (proper : areProper entries) {name : String} {e : Entry}
    (member : (name, e) ∈ entries) : name ≠ ".." ∧ e.isProper := by
  induction entries with
  | nil => cases member
  | cons head rest ih =>
    obtain ⟨n, old⟩ := head
    simp only [areProper, Bool.and_eq_true, bne_iff_ne] at proper
    obtain same | later := List.mem_cons.mp member
    · cases same
      exact proper.1
    · exact ih proper.2 later

theorem isProper_folder {entries : List (String × Entry)} :
    (folder entries).isProper ↔ (entries.map Prod.fst).Nodup ∧ areProper entries := by
  simp only [isProper, Bool.and_eq_true, decide_eq_true_eq]

theorem lookup_of_mem {entries : List (String × Entry)} (distinct : (entries.map Prod.fst).Nodup) {name : String}
    {e : Entry} (member : (name, e) ∈ entries) : entries.lookup name = some e := by
  induction entries with
  | nil => cases member
  | cons head rest ih =>
    obtain ⟨n, old⟩ := head
    rw [List.map_cons, List.nodup_cons] at distinct
    obtain same | later := List.mem_cons.mp member
    · cases same
      exact List.lookup_cons_self
    · have other : name ≠ n := by
        rintro rfl
        exact distinct.1 (List.mem_map.mpr ⟨_, later, rfl⟩)
      rw [List.lookup_cons, beq_false_of_ne other]
      exact ih distinct.2 later

theorem mem_of_lookup {entries : List (String × Entry)} {name : String} {e : Entry}
    (found : entries.lookup name = some e) : (name, e) ∈ entries := by
  obtain ⟨front, back, rfl, -⟩ := List.lookup_eq_some_iff.mp found
  simp

variable (f g : List String → Bytes → Bytes)

theorem lookup_reviseAll (entries : List (String × Entry)) (name : String) :
    (reviseAll f entries).lookup name = (entries.lookup name).map (revise fun place => f (name :: place)) := by
  induction entries with
  | nil => rfl
  | cons head rest ih =>
    obtain ⟨n, e⟩ := head
    rw [reviseAll, List.lookup_cons, List.lookup_cons]
    cases same : name == n with
    | true =>
      rw [beq_iff_eq] at same
      rw [same]
      rfl
    | false => exact ih

theorem entries_revise (e : Entry) : (e.revise f).entries = reviseAll f e.entries := by
  cases e with
  | file content => rfl
  | folder entries => rfl

theorem find_revise (e : Entry) (place : List String) :
    (e.revise f).find? place = (e.find? place).map (revise fun below => f (place ++ below)) := by
  induction place generalizing e f with
  | nil => rfl
  | cons name rest ih =>
    rw [find?, find?, entries_revise, lookup_reviseAll]
    cases e.entries.lookup name with
    | none => rfl
    | some sub => exact ih _ sub

theorem reviseAll_congr {f g : List String → Bytes → Bytes} {entries : List (String × Entry)}
    (same : ∀ name ∈ entries.map Prod.fst, ∀ place, f (name :: place) = g (name :: place)) :
    reviseAll f entries = reviseAll g entries := by
  induction entries with
  | nil => rfl
  | cons head rest ih =>
    obtain ⟨name, e⟩ := head
    rw [List.map_cons, List.forall_mem_cons] at same
    rw [reviseAll, reviseAll, funext same.1, ih same.2]

mutual

theorem revise_id (e : Entry) : e.revise (fun _ content => content) = e := by
  cases e with
  | file content => rfl
  | folder entries => exact congrArg folder (reviseAll_id entries)

theorem reviseAll_id (entries : List (String × Entry)) : reviseAll (fun _ content => content) entries = entries := by
  cases entries with
  | nil => rfl
  | cons head rest => rw [reviseAll, revise_id, reviseAll_id]

end

-- The revision that writes a file.
def overwrite (place : List String) (content : Bytes) (f : List String → Bytes → Bytes) :
    List String → Bytes → Bytes :=
  fun q old => if q = place then content else f q old

theorem set_reviseAll {entries : List (String × Entry)} (distinct : (entries.map Prod.fst).Nodup) {name : String}
    {e : Entry} (found : entries.lookup name = some e)
    (others : ∀ other ≠ name, ∀ place, g (other :: place) = f (other :: place)) :
    set name (e.revise fun place => g (name :: place)) (reviseAll f entries) = reviseAll g entries := by
  induction entries with
  | nil => cases found
  | cons head rest ih =>
    obtain ⟨n, old⟩ := head
    rw [List.map_cons, List.nodup_cons] at distinct
    rw [List.lookup_cons] at found
    rw [reviseAll, reviseAll, set]
    by_cases same : n = name
    · subst same
      rw [beq_self_eq_true] at found
      cases found
      have rest : reviseAll g rest = reviseAll f rest :=
        reviseAll_congr fun other member => others other fun same => distinct.1 (same ▸ member)
      rw [if_pos (beq_self_eq_true _), rest]
    · rw [beq_false_of_ne (Ne.symm same)] at found
      rw [if_neg (by simpa using same), ih distinct.2 found, funext (others n same)]

theorem put_revise {place : List String} {e : Entry} (proper : e.isProper) {old : Bytes}
    (found : e.find? place = some (.file old)) (new : Bytes) :
    put (.file new) place (e.revise f) = e.revise (overwrite place new f) := by
  induction place generalizing e f with
  | nil =>
    cases found
    rfl
  | cons name rest ih =>
    cases e with
    | file content => cases found
    | folder entries =>
      obtain ⟨distinct, each⟩ := isProper_folder.mp proper
      cases looked : entries.lookup name with
      | none => simp [find?, Entry.entries, looked] at found
      | some sub =>
        have below : sub.find? rest = some (.file old) := by simpa [find?, Entry.entries, looked] using found
        have inner := ih (fun place => f (name :: place)) (of_mem_areProper each (mem_of_lookup looked)).2 below
        have shifted : overwrite rest new (fun place => f (name :: place)) =
            fun place => overwrite (name :: rest) new f (name :: place) := by
          funext q old
          simp [overwrite]
        rw [put, revise, revise, Entry.entries, lookup_reviseAll, looked, Option.map_some, Option.getD_some, inner,
          shifted, set_reviseAll f _ distinct looked]
        intro other different place
        funext old
        simp [overwrite, different]

end Entry

namespace Workspace

def revise (w : Workspace) (f : List String → Bytes → Bytes) : Workspace := { w with root := w.root.revise f }

theorem revise_id (w : Workspace) : w.revise (fun _ content => content) = w := by
  rw [revise, Entry.revise_id]

variable (w : Workspace) (f : List String → Bytes → Bytes)

theorem step_revise (place : List String) (part : String) : (w.revise f).step place part = w.step place part := by
  rw [step, step, revise, Entry.find_revise]
  cases w.root.find? place with
  | none => rfl
  | some e =>
    cases e with
    | file content => rfl
    | folder entries =>
      simp only [Option.map_some, Entry.revise, Entry.lookup_reviseAll, Option.isSome_map]

theorem locate_revise (p : Path) : (w.revise f).locate? p = w.locate? p := by
  have step : (w.revise f).step = w.step := funext₂ (w.step_revise f)
  rw [locate?, step]
  rfl

theorem eq_of_step {w : Workspace} {here next : List String} {part : String} (stepped : w.step here part = some next) :
    next = if part == ".." then here.dropLast else here ++ [part] := by
  unfold step at stepped
  split at stepped
  · split at stepped
    · rename_i up
      rw [if_pos up]
      exact (Option.some.inj stepped).symm
    · rename_i down
      rw [if_neg down]
      split at stepped
      · exact (Option.some.inj stepped).symm
      · cases stepped
  · cases stepped

-- A path that leads somewhere leads to the place that it names.
theorem eq_resolve_of_locate {w : Workspace} {p : Path} {place : List String} (located : w.locate? p = some place) :
    place = w.resolve p := by
  unfold locate? at located
  unfold resolve
  generalize w.start p = here at located ⊢
  generalize p.parts = parts at located ⊢
  induction parts generalizing here with
  | nil => exact (Option.some.inj located).symm
  | cons part rest ih =>
    rw [List.foldlM_cons] at located
    obtain ⟨there, stepped, onward⟩ := Option.bind_eq_some_iff.mp located
    rw [List.foldl_cons, ← eq_of_step stepped]
    exact ih there onward

theorem find_of_read {w : Workspace} {p : Path} {content : Bytes} (read : w.read? p = some content) :
    w.locate? p = some (w.resolve p) ∧ w.root.find? (w.resolve p) = some (.file content) := by
  unfold read? entry? at read
  cases located : w.locate? p with
  | none => simp [located] at read
  | some place =>
    rw [located] at read
    have place := eq_resolve_of_locate located
    subst place
    refine ⟨rfl, ?_⟩
    simp only [Option.bind_some] at read
    split at read
    · rename_i found
      cases read
      exact found
    · cases read

theorem read_revise {w : Workspace} {p : Path} {content : Bytes} (read : w.read? p = some content) :
    (w.revise f).read? p = some (f (w.resolve p) content) := by
  obtain ⟨located, found⟩ := find_of_read read
  rw [read?, entry?, locate_revise, located, Option.bind_some, revise, Entry.find_revise, found]
  simp [Entry.revise]

theorem writeAt_revise {w : Workspace} (proper : w.root.isProper) {p : Path} {content : Bytes}
    (read : w.read? p = some content) (text : String) :
    (w.revise f).writeAt (w.resolve p) text = w.revise (Entry.overwrite (w.resolve p) (Utf8.encode text) f) := by
  rw [writeAt, revise, Entry.put_revise f proper (find_of_read read).2]
  rfl

end Workspace

end Whittle
