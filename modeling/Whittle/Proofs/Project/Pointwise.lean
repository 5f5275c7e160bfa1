import Mathlib.Data.Set.List
import Whittle.Project.Sources
import Whittle.Proofs.Files.Collection
import Whittle.Proofs.Rule.Reuse

namespace Whittle

namespace Engine

-- What is recorded of a file with these bytes.
def examine (e : Engine) (shown : String) (content : Bytes) : Except Failure Change :=
  match sourceText content with
  | .error f =>
    .ok { path := shown, before := "", after := "", error := some ("UnicodeDecodeError: " ++ f.message) }
  | .ok source => (e.run shown source).2

-- What is left when a file has come out so.
def leave (w : Workspace) (keep : Bool) (p : Path) : Except Failure Change → Workspace
  | .ok c => if c.isChanged && !keep then w.writeAt (w.resolve p) c.after else w
  | .error _ => w

section

variable {e e₀ : Engine} {w : Workspace}

theorem runFile_of_read (alike : e.Alike e₀) {p : Path} {content : Bytes} (read : w.read? p = some content)
    (keep : Bool) {result : Except Failure Change} (examined : e₀.examine (w.shown p (.of ".")) content = result) :
    ∃ e', e'.Alike e₀ ∧ e.runFile keep w p = (leave w keep p result, e', result) := by
  subst examined
  unfold examine runFile
  rw [read, Option.getD_some]
  cases sourceText content with
  | error fault => exact ⟨e, alike, rfl⟩
  | ok source =>
    obtain ⟨same, kept⟩ := run_alike alike (w.shown p (.of ".")) source
    refine ⟨(e.run (w.shown p (.of ".")) source).1, kept.trans alike, ?_⟩
    dsimp only
    rw [← same]
    generalize e.run (w.shown p (.of ".")) source = result
    obtain ⟨after, outcome⟩ := result
    cases outcome <;> rfl

-- What writing one file makes of a revision.
def writing (w : Workspace) (keep : Bool) (p : Path) (c : Change) (f : List String → Bytes → Bytes) :
    List String → Bytes → Bytes :=
  if c.isChanged && !keep then Entry.overwrite (w.resolve p) (Utf8.encode c.after) f else f

theorem writing_of_other {keep : Bool} {p : Path} {c : Change} {f : List String → Bytes → Bytes} {place : List String}
    (other : place ≠ w.resolve p) : writing w keep p c f place = f place := by
  unfold writing
  split
  · funext old
    rw [Entry.overwrite, if_neg other]
  · rfl

-- One file: it is read as it was in the beginning, for nothing was written in its place.
theorem runFile_revised (proper : w.root.isProper) (keep : Bool) {f : List String → Bytes → Bytes} (alike : e.Alike e₀)
    {p : Path} {content : Bytes} (read : w.read? p = some content) (untouched : f (w.resolve p) content = content)
    {c : Change} (examined : e₀.examine (w.shown p (.of ".")) content = .ok c) :
    ∃ e', e'.Alike e₀ ∧ e.runFile keep (w.revise f) p = (w.revise (writing w keep p c f), e', .ok c) := by
  have reread : (w.revise f).read? p = some content := by rw [Workspace.read_revise f read, untouched]
  obtain ⟨e', kept, ran⟩ := runFile_of_read alike reread keep examined
  refine ⟨e', kept, ran.trans ?_⟩
  rw [leave, writing]
  split
  · exact congrArg (·, e', _) (Workspace.writeAt_revise f proper read c.after)
  · rfl

-- Each changed file gets what was made of it, and all other places are left to `f`.
structure Written (w : Workspace) (made : List (Path × Change)) (f g : List String → Bytes → Bytes) : Prop where
  changed : ∀ p c, (p, c) ∈ made → c.isChanged → ∀ old, g (w.resolve p) old = Utf8.encode c.after
  others : ∀ place, (∀ p c, (p, c) ∈ made → c.isChanged → w.resolve p ≠ place) → g place = f place

theorem Written.cons {p : Path} {c : Change} {made : List (Path × Change)} {f g : List String → Bytes → Bytes}
    (later : Written w made (writing w false p c f) g) (apart : ∀ q d, (q, d) ∈ made → w.resolve q ≠ w.resolve p) :
    Written w ((p, c) :: made) f g := by
  refine ⟨fun q d member changed old => ?_, fun place unchanged => ?_⟩
  · obtain here | there := List.mem_cons.mp member
    · cases here
      rw [later.others _ fun r b inside _ => apart r b inside]
      simp [writing, changed, Entry.overwrite]
    · exact later.changed q d there changed old
  · rw [later.others place fun q d inside => unchanged q d (List.mem_cons_of_mem _ inside)]
    by_cases changed : c.isChanged
    · exact writing_of_other (unchanged p c List.mem_cons_self changed).symm
    · simp [writing, changed]

-- The end of a run: every file has come out, or one fails and those after it are not looked at.
inductive Ending (alone : Path → Except Failure Change) (ps : List Path) (made : List Change) :
    Except Failure (List Change) → Prop
  | whole : ps.map alone = made.map .ok → Ending alone ps made (.ok made)
  | halted (front : List Path) {p : Path} {back : List Path} {f : Failure} : ps = front ++ p :: back →
    front.map alone = made.map .ok → alone p = .error f → Ending alone ps made (.error f)

theorem Ending.cons {alone : Path → Except Failure Change} {ps : List Path} {made : List Change}
    {outcome : Except Failure (List Change)} (ending : Ending alone ps made outcome) {p : Path} {c : Change}
    (here : alone p = .ok c) : Ending alone (p :: ps) (c :: made) (outcome.map (c :: ·)) := by
  cases ending with
  | whole examined => exact .whole (by rw [List.map_cons, List.map_cons, here, examined])
  | halted front split examined failed =>
    refine .halted (p :: front) (by rw [split, List.cons_append]) ?_ failed
    rw [List.map_cons, List.map_cons, here, examined]

theorem exists_ok {alone : Path → Except Failure Change} {ps : List Path} {made : List Change}
    (examined : ps.map alone = made.map .ok) {p : Path} (member : p ∈ ps) : ∃ c, alone p = .ok c := by
  have listed : alone p ∈ made.map Except.ok := examined ▸ List.mem_map_of_mem member
  obtain ⟨c, -, ok⟩ := List.mem_map.mp listed
  exact ⟨c, ok.symm⟩

theorem not_failed {alone : Path → Except Failure Change} {ps : List Path} {made : List Change}
    (examined : ps.map alone = made.map .ok) {p : Path} (member : p ∈ ps) (f : Failure) : alone p ≠ .error f := by
  obtain ⟨c, ok⟩ := exists_ok examined member
  rw [ok]
  exact nofun

theorem map_ok_injective : Function.Injective (List.map (Except.ok : Change → Except Failure Change)) :=
  List.map_injective_iff.mpr fun _ _ same => Except.ok.inj same

-- The first file that fails is the only one at which a run can end early.
theorem Ending.unique {alone : Path → Except Failure Change} {ps : List Path} {made made' : List Change}
    {outcome outcome' : Except Failure (List Change)} (ending : Ending alone ps made outcome)
    (other : Ending alone ps made' outcome') : made = made' ∧ outcome = outcome' := by
  cases ending with
  | whole examined =>
    cases other with
    | whole again =>
      obtain rfl := map_ok_injective (examined.symm.trans again)
      exact ⟨rfl, rfl⟩
    | halted _ split _ failed => exact absurd failed (not_failed examined (by simp [split]) _)
  | @halted front p back f split examined failed =>
    cases other with
    | whole again => exact absurd failed (not_failed again (by simp [split]) _)
    | @halted front' p' back' f' split' again failed' =>
      have same : front = front' → p = p' → made = made' ∧ (.error f : Except Failure (List Change)) = .error f' := by
        rintro rfl rfl
        obtain rfl := map_ok_injective (examined.symm.trans again)
        cases failed.symm.trans failed'
        exact ⟨rfl, rfl⟩
      rcases List.append_eq_append_iff.mp (split.symm.trans split') with
        ⟨between, longer, rest⟩ | ⟨between, longer, rest⟩
      · cases between with
        | nil =>
          cases rest
          exact same (by rw [longer, List.append_nil]) rfl
        | cons q later =>
          cases rest
          exact absurd failed (not_failed again (by simp [longer]) _)
      · cases between with
        | nil =>
          cases rest
          exact same (by rw [longer, List.append_nil]) rfl
        | cons q later =>
          cases rest
          exact absurd failed' (not_failed examined (by simp [longer]) _)

theorem runFiles_ends (proper : w.root.isProper) (keep : Bool) {ps : List Path} {f : List String → Bytes → Bytes}
    (alike : e.Alike e₀) (distinct : (ps.map w.resolve).Nodup)
    (untouched : ∀ p ∈ ps, ∃ content, w.read? p = some content ∧ f (w.resolve p) content = content) :
    ∃ made g outcome, runFiles keep ps e (w.revise f) = (w.revise g, outcome) ∧
      Ending (fun p => e₀.examine (w.shown p (.of ".")) ((w.read? p).getD [])) ps made outcome ∧
      Written w (if keep then [] else ps.zip made) f g := by
  induction ps generalizing e f with
  | nil => exact ⟨[], f, .ok [], rfl, .whole rfl, by simp, fun _ _ => rfl⟩
  | cons p rest ih =>
    rw [List.map_cons, List.nodup_cons] at distinct
    obtain ⟨⟨content, read, same⟩, elsewhere⟩ := List.forall_mem_cons.mp untouched
    have alone : ∀ {r}, e₀.examine (w.shown p (.of ".")) content = r →
        e₀.examine (w.shown p (.of ".")) ((w.read? p).getD []) = r := by
      intro r examined
      rw [read, Option.getD_some, examined]
    cases examined : e₀.examine (w.shown p (.of ".")) content with
    | error fail =>
      have reread : (w.revise f).read? p = some content := by rw [Workspace.read_revise f read, same]
      obtain ⟨next, -, ran⟩ := runFile_of_read alike reread keep examined
      refine ⟨[], f, .error fail, ?_, .halted [] rfl rfl (alone examined), by simp, fun _ _ => rfl⟩
      rw [runFiles, ran]
      rfl
    | ok c =>
      obtain ⟨next, kept, ran⟩ := runFile_revised proper keep alike read same examined
      have apart : ∀ q ∈ rest, w.resolve q ≠ w.resolve p := fun q member same =>
        distinct.1 (List.mem_map.mpr ⟨q, member, same⟩)
      have unread : ∀ q ∈ rest, ∃ content,
          w.read? q = some content ∧ writing w keep p c f (w.resolve q) content = content := by
        intro q member
        obtain ⟨content, read, same⟩ := elsewhere q member
        exact ⟨content, read, by rw [writing_of_other (apart q member), same]⟩
      obtain ⟨made, g, outcome, others, ending, written⟩ := ih kept distinct.2 unread
      refine ⟨c :: made, g, outcome.map (c :: ·), ?_, ending.cons (alone examined), ?_⟩
      · rw [runFiles, ran]
        simp only [others]
      · cases keep with
        | true => simpa [writing] using written
        | false => exact written.cons fun q d inside => apart q (List.of_mem_zip inside).1

theorem runFiles_of_examined (proper : w.root.isProper) (keep : Bool) {ps : List Path} {changes : List Change}
    {f : List String → Bytes → Bytes} (alike : e.Alike e₀) (distinct : (ps.map w.resolve).Nodup)
    (untouched : ∀ p ∈ ps, ∃ content, w.read? p = some content ∧ f (w.resolve p) content = content)
    (examined : ps.map (fun p => e₀.examine (w.shown p (.of ".")) ((w.read? p).getD [])) = changes.map .ok) :
    ∃ g, runFiles keep ps e (w.revise f) = (w.revise g, .ok changes) ∧
      Written w (if keep then [] else ps.zip changes) f g := by
  obtain ⟨made, g, outcome, ran, ending, written⟩ := runFiles_ends proper keep alike distinct untouched
  obtain ⟨rfl, rfl⟩ := ending.unique (.whole examined)
  exact ⟨g, ran, written⟩

theorem runPaths_ends (ready : ∀ r ∈ e.rules, r.rule.isReady) (proper : w.root.isProper) (s : Files.Selection)
    (keep : Bool) (roots : List String) :
    let alone (p : Path) := (Engine.of (e.rules.map ActiveRule.rule) e.ambient).examine (w.shown p (.of "."))
      ((w.read? p).getD [])
    ∃ made written outcome, e.runPaths s keep roots w = (w.revise written, outcome.map fun changes => ⟨changes, keep⟩) ∧
      Ending alone (Files.collect w s roots) made outcome ∧
      Written w (if keep then [] else (Files.collect w s roots).zip made) (fun _ old => old) written := by
  have distinct : ((Files.collect w s roots).map w.resolve).Nodup := Files.nodup_firstOfPlace w [] _
  have untouched : ∀ p ∈ Files.collect w s roots, ∃ content, w.read? p = some content ∧ content = content := by
    intro p member
    obtain ⟨content, read⟩ := Option.isSome_iff_exists.mp (Files.isSome_read_of_collected proper member)
    exact ⟨content, read, rfl⟩
  obtain ⟨made, written, outcome, ran, ending, exact⟩ := runFiles_ends (f := fun _ old => old) proper keep
    (alike_of_ready ready) distinct untouched
  rw [Workspace.revise_id] at ran
  refine ⟨made, written, outcome, ?_, ending, exact⟩
  rw [runPaths, ran]

end

-- Each file comes out as it would alone, dry or not, and the files that are written are those that have changed.
theorem runPaths_pointwise (e : Engine) (s : Files.Selection) (roots : List String) (w : Workspace)
    (ready : ∀ r ∈ e.rules, r.rule.isReady) (proper : w.root.isProper) :
    let fresh := Engine.of (e.rules.map ActiveRule.rule) e.ambient
    let paths := Files.collect w s roots
    let alone (p : Path) := fresh.examine (w.shown p (.of ".")) ((w.read? p).getD [])
    (∀ p ∈ paths, (w.read? p).isSome) ∧
    ((∀ p ∈ paths, ∃ c, alone p = .ok c) →
      ∃ changes, paths.map alone = changes.map .ok ∧
        e.runPaths s true roots w = (w, .ok ⟨changes, true⟩) ∧
        ∃ written, e.runPaths s false roots w = (w.revise written, .ok ⟨changes, false⟩) ∧
          (∀ p c, (p, c) ∈ paths.zip changes → c.isChanged → ∀ old, written (w.resolve p) old = Utf8.encode c.after) ∧
          ∀ place, (∀ p c, (p, c) ∈ paths.zip changes → c.isChanged → w.resolve p ≠ place) →
            ∀ old, written place old = old) := by
  intro fresh paths alone
  have readable : ∀ p ∈ paths, (w.read? p).isSome := fun p => Files.isSome_read_of_collected proper
  refine ⟨readable, fun calm => ?_⟩
  obtain ⟨changes, examined⟩ : paths.map alone ∈ Set.range (List.map Except.ok) := by
    rw [Set.range_list_map]
    rintro _ result
    obtain ⟨p, member, rfl⟩ := List.mem_map.mp result
    obtain ⟨c, made⟩ := calm p member
    exact ⟨c, made.symm⟩
  have alike : e.Alike fresh := alike_of_ready ready
  have distinct : (paths.map w.resolve).Nodup := Files.nodup_firstOfPlace w [] _
  have untouched : ∀ p ∈ paths, ∃ content, w.read? p = some content ∧ content = content := fun p member => by
    obtain ⟨content, read⟩ := Option.isSome_iff_exists.mp (readable p member)
    exact ⟨content, read, rfl⟩
  have runs (keep : Bool) : ∃ g, e.runPaths s keep roots w = (w.revise g, .ok ⟨changes, keep⟩) ∧
      Written w (if keep then [] else paths.zip changes) (fun _ old => old) g := by
    obtain ⟨g, ran, written⟩ := runFiles_of_examined (f := fun _ old => old) proper keep alike distinct untouched
      examined.symm
    rw [Workspace.revise_id] at ran
    refine ⟨g, ?_, written⟩
    rw [runPaths, ran]
    rfl
  refine ⟨changes, examined.symm, ?_, ?_⟩
  · obtain ⟨g, ran, written⟩ := runs true
    have same : g = fun _ old => old := funext fun place => written.others place (by simp)
    rw [ran, same, Workspace.revise_id]
  · obtain ⟨g, ran, written⟩ := runs false
    exact ⟨g, ran, written.changed, fun place unchanged => congrFun (written.others place unchanged)⟩

-- The second file cannot be read, and the third is decided by the target that the first has asked for.
theorem runPaths_pointwise_mixed :
    let guarded := "if V<9:x\ny\n"
    let w : Workspace := ⟨.folder [("a.py", .file (Utf8.encode guarded)), ("b.py", .file (Utf8.encode "(")),
      ("c.py", .file (Utf8.encode guarded))], []⟩
    let e := Engine.of [.versionGuard { constant := "V" }, .extraArguments] ⟨.ok (.text "0.0.8"), 0⟩
    let rewritten (path : String) : Change :=
      { path := path, before := guarded, after := "y\n", applied := ["remove_version_id_check"] }
    let changes := [rewritten "a.py", { path := "b.py", before := "(", after := "(", error := some "SyntaxError" },
      rewritten "c.py"]
    e.runPaths ⟨[], []⟩ true ["a.py", "b.py", "c.py"] w = (w, .ok ⟨changes, true⟩) ∧
      ∃ written, e.runPaths ⟨[], []⟩ false ["a.py", "b.py", "c.py"] w = (w.revise written, .ok ⟨changes, false⟩) ∧
        (∀ old, written ["a.py"] old = Utf8.encode "y\n") ∧ (∀ old, written ["b.py"] old = old) ∧
        ∀ old, written ["c.py"] old = Utf8.encode "y\n" := by
  intro guarded w e rewritten changes
  let paths := [Path.of "a.py", .of "b.py", .of "c.py"]
  let alone (p : Path) := (Engine.of (e.rules.map ActiveRule.rule) e.ambient).examine (w.shown p (.of "."))
    ((w.read? p).getD [])
  obtain ⟨-, pointwise⟩ := runPaths_pointwise e ⟨[], []⟩ ["a.py", "b.py", "c.py"] w (by decide) (by decide)
  rw [show Files.collect w ⟨[], []⟩ ["a.py", "b.py", "c.py"] = paths by decide +kernel] at pointwise
  have calm : ∀ p ∈ paths, ∃ c, alone p = .ok c := by
    intro p member
    have some : (alone p).toOption.isSome := by
      revert p
      decide +kernel
    cases result : alone p with
    | ok c => exact ⟨c, rfl⟩
    | error f =>
      rw [result] at some
      cases some
  obtain ⟨made, examined, dry, written, wet, changed, others⟩ := pointwise calm
  obtain rfl : made = changes := by
    have options : made.map some = paths.map fun p => (alone p).toOption := by
      have options := (congrArg (List.map Except.toOption) examined).symm
      rwa [List.map_map, List.map_map] at options
    exact List.map_injective_iff.mpr (Option.some_injective _) (options.trans (by decide +kernel))
  have unchanged : ∀ pc ∈ paths.zip changes, pc.2.isChanged → w.resolve pc.1 ≠ ["b.py"] := by decide
  refine ⟨dry, written, wet, ?_, others ["b.py"] fun p c => unchanged (p, c), ?_⟩
  · exact changed (.of "a.py") (rewritten "a.py") (by decide) (by decide)
  · exact changed (.of "c.py") (rewritten "c.py") (by decide) (by decide)

end Engine

end Whittle
