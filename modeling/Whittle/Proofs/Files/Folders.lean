import Whittle.Proofs.Files.Collection

namespace Whittle

namespace Entry

inductive Kind where
  | file
  | folder
  deriving DecidableEq

def kind : Entry → Kind
  | .file _ => .file
  | .folder _ => .folder

-- What stands at a place.
def kindAt (e : Entry) (place : List String) : Option Kind := (e.find? place).map kind

theorem kindAt_folder_iff {e : Entry} {place : List String} :
    e.kindAt place = some .folder ↔ ∃ entries, e.find? place = some (.folder entries) := by
  unfold kindAt
  constructor
  · intro here
    obtain ⟨sub, found, kind⟩ := Option.map_eq_some_iff.mp here
    cases sub with
    | file content => cases kind
    | folder entries => exact ⟨entries, found⟩
  · rintro ⟨entries, found⟩
    rw [found]
    rfl

theorem kindAt_append (e : Entry) (above below : List String) :
    e.kindAt (above ++ below) = (e.find? above).bind (kindAt · below) := by
  rw [kindAt, find_append]
  cases e.find? above <;> rfl

theorem kindAt_cons (e : Entry) (name : String) (rest : List String) :
    e.kindAt (name :: rest) = (e.entries.lookup name).bind (kindAt · rest) := by
  rw [kindAt, find?]
  cases e.entries.lookup name <;> rfl

-- Whatever has something below it is a folder.
theorem kindAt_of_below {e : Entry} (above : List String) {below : List String} {k : Kind} (some : below ≠ [])
    (found : e.kindAt (above ++ below) = .some k) : e.kindAt above = .some .folder := by
  rw [kindAt_append] at found
  obtain ⟨sub, here, there⟩ := Option.bind_eq_some_iff.mp found
  rw [kindAt, here]
  cases sub with
  | folder entries => rfl
  | file content =>
    cases below with
    | nil => exact absurd rfl some
    | cons name rest => cases there

theorem kindAt_dropLast {e : Entry} {place : List String} (folder : e.kindAt place = some .folder) :
    e.kindAt place.dropLast = some .folder := by
  rcases place.eq_nil_or_concat with rfl | ⟨above, last, rfl⟩
  · exact folder
  · rw [List.concat_eq_append] at folder ⊢
    rw [List.dropLast_concat]
    exact kindAt_of_below _ (List.cons_ne_nil _ _) folder

end Entry

namespace Workspace

-- The place after one part of a path.
def onward (place : List String) (part : String) : List String :=
  if part == ".." then place.dropLast else place ++ [part]

-- Places have become folders, and the others are what they were.
structure Opened (before after : Entry) (places : List (List String)) : Prop where
  inside : ∀ place ∈ places, after.kindAt place = some .folder
  others : ∀ place ∉ places, after.kindAt place = before.kindAt place

theorem Opened.cons {before middle after : Entry} {first : List String} {places : List (List String)}
    (opened : Opened before middle [first]) (later : Opened middle after places) :
    Opened before after (first :: places) := by
  refine ⟨fun place member => ?_, fun place outside => ?_⟩
  · by_cases inside : place ∈ places
    · exact later.inside place inside
    · rw [later.others place inside]
      exact opened.inside place (List.mem_singleton.mpr ((List.mem_cons.mp member).resolve_right inside))
  · rw [List.mem_cons, not_or] at outside
    rw [later.others place outside.2, opened.others place (List.mem_singleton.not.mpr outside.1)]

section

variable {w : Workspace} {place : List String} {part : String} {rest : List String}

end

theorem step_eq {w : Workspace} {place : List String} (here : w.root.kindAt place = some .folder) (part : String) :
    w.step place part = if (w.root.kindAt (onward place part)).isSome then some (onward place part) else none := by
  obtain ⟨entries, found⟩ := Entry.kindAt_folder_iff.mp here
  rw [step, found]
  by_cases up : part = ".."
  · subst up
    have above : w.root.kindAt (onward place "..") = some .folder := Entry.kindAt_dropLast here
    rw [above]
    rfl
  · have plain : (part == "..") = false := beq_false_of_ne up
    have below : (w.root.kindAt (place ++ [part])).isSome = (entries.lookup part).isSome := by
      rw [Entry.kindAt_append, found, Option.bind_some, Entry.kindAt_cons, Entry.entries]
      cases entries.lookup part <;> rfl
    simp only [onward, plain, below, Bool.false_eq_true, if_false]

end Workspace

end Whittle
