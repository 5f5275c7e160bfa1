import Whittle.Proofs.Project.Pointwise
import Whittle.Proofs.Rule.Shrinking

namespace Whittle

theorem Module.error_of_parse {source : List Char} {err : ParseError} (refused : parse source = .error err) :
    '\x00' ∈ source ∧ err = .nul ∨ err = .malformed := by
  unfold parse at refused
  split at refused
  · rename_i nul
    cases refused
    exact .inl ⟨List.contains_iff_mem.mp nul, rfl⟩
  · split at refused
    · cases refused
    · cases refused
      exact .inr rfl

namespace Engine

-- All that can come of a file with these bytes.
inductive Fate (e : Engine) (content : Bytes) : Except Failure Change → Prop
  | undecodable {fault : Utf8.Fault} {c : Change} : sourceText content = .error fault → c.error.isSome →
    c.isChanged = false → Fate e content (.ok c)
  | malformed {source : String} {c : Change} : sourceText content = .ok source →
    Module.parse source.toList = .error .malformed → c.error.isSome → c.isChanged = false → Fate e content (.ok c)
  | nul {source : String} : sourceText content = .ok source → '\x00' ∈ source.toList →
    Fate e content (.error (.source .nul))
  | passed {source : String} {m : Module} {c : Change} : sourceText content = .ok source →
    Module.parse source.toList = .ok m → c.error = none → Fate e content (.ok c)
  | failed {source : String} {m : Module} {f : Failure} : sourceText content = .ok source →
    Module.parse source.toList = .ok m → (e.pass m).2 = .error f → Fate e content (.error f)
  | unwritable {source : String} {m written : Module} {names : List String} {fault : Render.Fault} :
    sourceText content = .ok source → Module.parse source.toList = .ok m → (e.pass m).2 = .ok (names, written) →
    names ≠ [] → written.render = .error fault → Fate e content (.error (.render fault))

theorem fate_examine (e : Engine) (shown : String) (content : Bytes) : e.Fate content (e.examine shown content) := by
  unfold examine
  cases decoded : sourceText content with
  | error fault => exact .undecodable decoded rfl rfl
  | ok source =>
    dsimp only
    cases parsed : Module.parse source.toList with
    | error err =>
      rcases Module.error_of_parse parsed with ⟨nul, rfl⟩ | rfl
      · simp only [run, parsed]
        exact .nul decoded nul
      · simp only [run, parsed]
        exact .malformed decoded parsed rfl rfl
    | ok m =>
      rw [run_of_parsed e shown parsed]
      cases made : (e.pass m).2 with
      | error f => exact .failed decoded parsed made
      | ok result =>
        obtain ⟨names, written⟩ := result
        change e.Fate content (record shown source (names, written))
        cases names with
        | nil => exact .passed decoded parsed rfl
        | cons name others =>
          cases rendered : written.render with
          | ok after =>
            simp only [record, rendered]
            exact .passed decoded parsed rfl
          | error fault =>
            simp only [record, rendered]
            exact .unwritable decoded parsed made (List.cons_ne_nil _ _) rendered

theorem Ending.returns_iff {alone : Path → Except Failure Change} {ps : List Path} {made : List Change}
    {outcome : Except Failure (List Change)} (ending : Ending alone ps made outcome) :
    (∃ changes, outcome = .ok changes) ↔ ∀ p ∈ ps, ∃ c, alone p = .ok c := by
  cases ending with
  | whole examined => exact iff_of_true ⟨made, rfl⟩ fun p => exists_ok examined
  | @halted front p back f split _ failed =>
    refine iff_of_false nofun fun calm => ?_
    obtain ⟨c, ok⟩ := calm p (by simp [split])
    cases ok.symm.trans failed

section

variable {w : Workspace} {ps : List Path} {made : List Change}

-- A file that has come out is written if it is changed.
theorem Written.here {keep : Bool} {g : List String → Bytes → Bytes}
    (written : Written w (if keep then [] else ps.zip made) (fun _ old => old) g) (distinct : (ps.map w.resolve).Nodup)
    {p : Path} {c : Change} (member : (p, c) ∈ ps.zip made) (old : Bytes) :
    g (w.resolve p) old = if c.isChanged && !keep then Utf8.encode c.after else old := by
  cases keep with
  | true =>
    rw [Bool.not_true, Bool.and_false, if_neg Bool.false_ne_true]
    exact congrFun (written.others _ (by simp)) old
  | false =>
    rw [if_neg Bool.false_ne_true] at written
    rw [Bool.not_false, Bool.and_true]
    split
    · rename_i changed
      exact written.changed p c member changed old
    · rename_i unchanged
      refine congrFun (written.others _ fun q d inside changed same => ?_) old
      obtain ⟨i, atP⟩ := List.mem_iff_getElem?.mp member
      obtain ⟨j, atQ⟩ := List.mem_iff_getElem?.mp inside
      rw [List.getElem?_zip_eq_some] at atP atQ
      have bound : i < (ps.map w.resolve).length := by
        rw [List.length_map]
        exact (List.getElem?_eq_some_iff.mp atP.1).1
      obtain rfl : i = j := (List.getElem?_inj bound distinct).mp (by simp [atP.1, atQ.1, same])
      rw [atQ.2] at atP
      cases atP.2
      exact unchanged changed

end

-- A text with a NUL is not recorded as other texts are that cannot be read: the run ends there. The files before it
-- are written, and those after it are not looked at.
theorem runPaths_halts (e : Engine) (s : Files.Selection) (keep : Bool) (roots : List String) (w : Workspace)
    (ready : ∀ r ∈ e.rules, r.rule.isReady) (proper : w.root.isProper) :
    let fresh := Engine.of (e.rules.map ActiveRule.rule) e.ambient
    let paths := Files.collect w s roots
    let alone (p : Path) := fresh.examine (w.shown p (.of ".")) ((w.read? p).getD [])
    (∃ made written outcome,
      e.runPaths s keep roots w = (w.revise written, outcome.map fun changes => ⟨changes, keep⟩) ∧
      Ending alone paths made outcome ∧
      (∀ p c, (p, c) ∈ paths.zip made → ∀ old,
        written (w.resolve p) old = if c.isChanged && !keep then Utf8.encode c.after else old) ∧
      ∀ place, (∀ p c, (p, c) ∈ paths.zip made → w.resolve p ≠ place) → ∀ old, written place old = old) ∧
    ((∃ after outcome, e.runPaths s keep roots w = (after, .ok outcome)) ↔ ∀ p ∈ paths, ∃ c, alone p = .ok c) ∧
    (∀ p ∈ paths, ∃ content, w.read? p = some content ∧ fresh.Fate content (alone p)) ∧
    ((∀ r ∈ e.rules, r.rule.isConfigured) → (e.rules.map fun r => r.rule.name).Nodup →
      ∀ m f, (fresh.pass m).2 = .error f → ∃ err, f = .source err ∧ Refuses (Node.module m.number).walk err) := by
  intro fresh paths alone
  have distinct : (paths.map w.resolve).Nodup := Files.nodup_firstOfPlace w [] _
  obtain ⟨made, written, outcome, whole, ending, exact⟩ := runPaths_ends ready proper s keep roots
  refine ⟨⟨made, written, outcome, whole, ending, ?_, ?_⟩, ?_, ?_, ?_⟩
  · intro p c member old
    exact exact.here distinct member old
  · intro place other old
    refine congrFun (exact.others place fun p c member _ => other p c ?_) old
    cases keep with
    | true => cases member
    | false => exact member
  · rw [← ending.returns_iff, whole]
    cases outcome with
    | ok changes => exact iff_of_true ⟨_, _, rfl⟩ ⟨_, rfl⟩
    | error f => exact iff_of_false nofun nofun
  · intro p member
    obtain ⟨content, read⟩ := Option.isSome_iff_exists.mp (Files.isSome_read_of_collected proper member)
    refine ⟨content, read, ?_⟩
    have same : alone p = fresh.examine (w.shown p (.of ".")) content := by simp only [alone, read, Option.getD_some]
    rw [same]
    exact fate_examine fresh _ content
  · intro configured named m f failed
    have rules : fresh.rules.map ActiveRule.rule = e.rules.map ActiveRule.rule := by simp [fresh, Engine.of]
    have ends : fresh.Ends m := by
      apply ends_of_configured
      · rw [rules]
        exact List.forall_mem_map.mpr configured
      · rw [rules, List.map_map]
        exact named
    cases ends.comes with
    | idle made => cases made.symm.trans failed
    | busy made => cases made.symm.trans failed
    | failed made refuses =>
      cases made.symm.trans failed
      exact ⟨_, rfl, refuses⟩

theorem eq_ok_of_toOption {α β : Type} {r : Except α β} {b : β} (some : r.toOption = some b) : r = .ok b := by
  cases r with
  | ok => exact congrArg _ (Option.some.inj some)
  | error => cases some

-- The second file is no text and is passed over, the third holds a NUL character, and the fourth stays as it is.
theorem runPaths_halts_at_nul :
    let guarded := "if V<9:x\ny\n"
    let w : Workspace := ⟨.folder [("a.py", .file (Utf8.encode guarded)), ("b.py", .file [0xff]),
      ("c.py", .file [0]), ("d.py", .file (Utf8.encode guarded))], []⟩
    let e := Engine.of [.versionGuard { constant := "V", target := some 8 }, .extraArguments] ⟨.ok .null, 0⟩
    ∃ written, e.runPaths ⟨[], []⟩ false ["a.py", "b.py", "c.py", "d.py"] w =
        (w.revise written, .error (.source .nul)) ∧
      (∀ old, written ["a.py"] old = Utf8.encode "y\n") ∧ (∀ old, written ["b.py"] old = old) ∧
      (∀ old, written ["c.py"] old = old) ∧ ∀ old, written ["d.py"] old = old := by
  intro guarded w e
  let paths := [Path.of "a.py", .of "b.py", .of "c.py", .of "d.py"]
  let alone (p : Path) := (Engine.of (e.rules.map ActiveRule.rule) e.ambient).examine (w.shown p (.of "."))
    ((w.read? p).getD [])
  let rewritten : Change :=
    { path := "a.py", before := guarded, after := "y\n", applied := ["remove_version_id_check"] }
  let reason := "UnicodeDecodeError: 'utf-8' codec can't decode byte 0xff in position 0: invalid start byte"
  let refused : Change := { path := "b.py", before := "", after := "", error := some reason }
  have first : alone (.of "a.py") = .ok rewritten := eq_ok_of_toOption (by decide +kernel)
  have second : alone (.of "b.py") = .ok refused := eq_ok_of_toOption (by decide +kernel)
  have third : alone (.of "c.py") = .error (.source .nul) := by
    rfl
  have expected : Ending alone paths [rewritten, refused] (.error (.source .nul)) := by
    refine .halted [.of "a.py", .of "b.py"] rfl ?_ third
    rw [List.map_cons, List.map_cons, first, second]
    rfl
  obtain ⟨⟨made, written, outcome, ran, ending, changed, others⟩, -, -, -⟩ :=
    runPaths_halts e ⟨[], []⟩ false ["a.py", "b.py", "c.py", "d.py"] w (by decide) (by decide)
  rw [show Files.collect w ⟨[], []⟩ ["a.py", "b.py", "c.py", "d.py"] = paths by decide +kernel] at ending changed others
  obtain ⟨rfl, rfl⟩ := ending.unique expected
  have apart : ∀ place ∈ [["c.py"], ["d.py"]], ∀ pc ∈ paths.zip [rewritten, refused], w.resolve pc.1 ≠ place := by
    decide
  refine ⟨written, ran, ?_, ?_, ?_, ?_⟩
  · intro old
    have here := changed (.of "a.py") rewritten (by decide) old
    rw [if_pos (by decide)] at here
    exact here
  · exact changed (.of "b.py") refused (by decide)
  · exact others ["c.py"] fun p c => apart _ (by decide) (p, c)
  · exact others ["d.py"] fun p c => apart _ (by decide) (p, c)

end Engine

end Whittle
