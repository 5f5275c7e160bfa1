import Whittle.Files.Collect
import Whittle.Proofs.Files.Revision

namespace Whittle

theorem Entry.find_append (e : Entry) (above below : List String) :
    e.find? (above ++ below) = (e.find? above).bind (find? · below) := by
  induction above generalizing e with
  | nil => rfl
  | cons name rest ih =>
    rw [List.cons_append, find?, find?]
    cases e.entries.lookup name with
    | none => rfl
    | some sub => exact ih sub

theorem Entry.find_child {entries : List (String × Entry)} (distinct : (entries.map Prod.fst).Nodup) {name : String}
    {e : Entry} (member : (name, e) ∈ entries) (below : List String) :
    (folder entries).find? (name :: below) = e.find? below := by
  rw [find?, Entry.entries, lookup_of_mem distinct member, Option.bind_some]

theorem Entry.isProper_of_find {e sub : Entry} (proper : e.isProper) {place : List String}
    (found : e.find? place = some sub) : sub.isProper := by
  induction place generalizing e with
  | nil =>
    cases found
    exact proper
  | cons name rest ih =>
    obtain ⟨child, looked, further⟩ := Option.bind_eq_some_iff.mp found
    cases e with
    | file content => cases looked
    | folder entries =>
      exact ih (of_mem_areProper (isProper_folder.mp proper).2 (mem_of_lookup looked)).2 further

-- From a folder down to a file below it.
theorem Workspace.descend {w : Workspace} {place below : List String} {e : Entry} {content : Bytes}
    (here : w.root.find? place = some e) (found : e.find? below = some (.file content)) (down : ".." ∉ below) :
    below.foldlM w.step place = some (place ++ below) := by
  induction below generalizing place e with
  | nil => rw [List.append_nil]; rfl
  | cons name rest ih =>
    rw [List.mem_cons, not_or] at down
    cases e with
    | file bytes => cases found
    | folder entries =>
      obtain ⟨sub, looked, further⟩ := Option.bind_eq_some_iff.mp found
      have stepped : w.step place name = some (place ++ [name]) := by
        have plain : (name == "..") = false := beq_false_of_ne (Ne.symm down.1)
        have some : (entries.lookup name).isSome := Option.isSome_of_eq_some looked
        simp [step, here, plain, some]
      have there : w.root.find? (place ++ [name]) = some sub := by
        rw [Entry.find_append, here, Option.bind_some, Entry.find?]
        exact Option.bind_eq_some_iff.mpr ⟨sub, looked, rfl⟩
      rw [List.foldlM_cons, stepped]
      exact (ih there further down.2).trans (by rw [List.append_assoc]; rfl)

namespace Files

-- A path below a place, to a file.
structure LeadsTo (e : Entry) (below : List String) : Prop where
  down : ".." ∉ below
  file : ∃ content, e.find? below = some (.file content)

mutual

theorem leads_listEntry (s : Selection) (above : List String) (e : Entry) (proper : e.isProper) {parts : List String}
    (taken : parts ∈ listEntry s above e) : ∃ below, parts = above ++ below ∧ LeadsTo e below := by
  match e with
  | .file _ => cases taken
  | .folder entries =>
    obtain ⟨distinct, each⟩ := Entry.isProper_folder.mp proper
    rw [listEntry, List.mem_append] at taken
    obtain here | there := taken
    · obtain ⟨named, -⟩ := List.mem_filter.mp here
      obtain ⟨⟨name, e⟩, sorted, rfl⟩ := List.mem_map.mp named
      obtain ⟨member, isFile⟩ := List.mem_filter.mp (List.mem_mergeSort.mp sorted)
      have plain : name ≠ ".." := (Entry.of_mem_areProper each member).1
      cases e with
      | folder es => cases isFile
      | file content =>
        refine ⟨[name], rfl, by simpa using Ne.symm plain, content, ?_⟩
        rw [Entry.find_child distinct member]
        rfl
    · obtain ⟨q, sorted, listed⟩ := List.mem_flatMap.mp there
      obtain ⟨name, sub, member, below, rfl, leads⟩ :=
        leads_listFolders s above entries each (List.mem_mergeSort.mp sorted) listed
      have plain : name ≠ ".." := (Entry.of_mem_areProper each member).1
      obtain ⟨content, found⟩ := leads.file
      refine ⟨name :: below, rfl, by simpa using ⟨Ne.symm plain, leads.down⟩, content, ?_⟩
      rw [Entry.find_child distinct member, found]

theorem leads_listFolders (s : Selection) (above : List String) (entries : List (String × Entry))
    (proper : Entry.areProper entries) {q : String × List (List String)} (member : q ∈ listFolders s above entries)
    {parts : List String} (listed : parts ∈ q.2) :
    ∃ name sub, (name, sub) ∈ entries ∧ ∃ below, parts = above ++ name :: below ∧ LeadsTo sub below := by
  match entries with
  | [] => cases member
  | (name, .file content) :: rest =>
    simp only [Entry.areProper, Bool.and_eq_true] at proper
    obtain ⟨n, sub, inside, leads⟩ := leads_listFolders s above rest proper.2 member listed
    exact ⟨n, sub, List.mem_cons_of_mem _ inside, leads⟩
  | (name, .folder es) :: rest =>
    simp only [Entry.areProper, Bool.and_eq_true] at proper
    have later (member : q ∈ listFolders s above rest) : ∃ n sub, (n, sub) ∈ (name, Entry.folder es) :: rest ∧
        ∃ below, parts = above ++ n :: below ∧ LeadsTo sub below := by
      obtain ⟨n, sub, inside, leads⟩ := leads_listFolders s above rest proper.2 member listed
      exact ⟨n, sub, List.mem_cons_of_mem _ inside, leads⟩
    rw [listFolders] at member
    split at member
    · obtain rfl | member := List.mem_cons.mp member
      · obtain ⟨below, rfl, leads⟩ := leads_listEntry s (above ++ [name]) (.folder es) proper.1.2 listed
        exact ⟨name, .folder es, List.mem_cons_self, below, by rw [List.append_assoc]; rfl, leads⟩
      · exact later member
    · exact later member

end

theorem isSome_read_of_listed {w : Workspace} (proper : w.root.isProper) {s : Selection} {root p : Path}
    (listed : p ∈ listRoot w s root) : (w.read? p).isSome := by
  unfold listRoot at listed
  split at listed
  · cases listed
  · rename_i content entry
    split at listed
    · cases List.mem_singleton.mp listed
      simp [Workspace.read?, entry]
    · cases listed
  · rename_i folder _ entry
    obtain ⟨place, located, here⟩ := Option.bind_eq_some_iff.mp entry
    obtain ⟨parts, taken, rfl⟩ := List.mem_map.mp listed
    obtain ⟨_, rfl, down, content, found⟩ :=
      leads_listEntry s [] folder (Entry.isProper_of_find proper here) taken
    have led : w.locate? { root with parts := root.parts ++ parts } = some (place ++ parts) := by
      rw [Workspace.locate?, List.foldlM_append]
      exact Option.bind_eq_some_iff.mpr ⟨place, located, Workspace.descend here found down⟩
    have file : w.root.find? (place ++ parts) = some (.file content) := by
      rw [Entry.find_append, here, Option.bind_some, found]
    simp [Workspace.read?, Workspace.entry?, led, file]

theorem of_mem_firstOfPlace {w : Workspace} {seen : List (List String)} {ps : List Path} {p : Path}
    (kept : p ∈ firstOfPlace w seen ps) : p ∈ ps ∧ w.resolve p ∉ seen := by
  induction ps generalizing seen with
  | nil => cases kept
  | cons q rest ih =>
    rw [firstOfPlace] at kept
    split at kept
    · obtain ⟨member, unseen⟩ := ih kept
      exact ⟨List.mem_cons_of_mem _ member, unseen⟩
    · rename_i new
      obtain rfl | later := List.mem_cons.mp kept
      · exact ⟨List.mem_cons_self, by simpa using new⟩
      · obtain ⟨member, unseen⟩ := ih later
        rw [List.mem_cons, not_or] at unseen
        exact ⟨List.mem_cons_of_mem _ member, unseen.2⟩

theorem nodup_firstOfPlace (w : Workspace) (seen : List (List String)) (ps : List Path) :
    ((firstOfPlace w seen ps).map w.resolve).Nodup := by
  induction ps generalizing seen with
  | nil => exact List.nodup_nil
  | cons q rest ih =>
    rw [firstOfPlace]
    split
    · exact ih seen
    · rw [List.map_cons, List.nodup_cons]
      refine ⟨fun again => ?_, ih _⟩
      obtain ⟨p, kept, same⟩ := List.mem_map.mp again
      exact (of_mem_firstOfPlace kept).2 (same ▸ List.mem_cons_self)

theorem isSome_read_of_collected {w : Workspace} (proper : w.root.isProper) {s : Selection} {roots : List String}
    {p : Path} (collected : p ∈ collect w s roots) : (w.read? p).isSome := by
  obtain ⟨root, -, listed⟩ := List.mem_flatMap.mp (of_mem_firstOfPlace collected).1
  exact isSome_read_of_listed proper listed

end Files

end Whittle
