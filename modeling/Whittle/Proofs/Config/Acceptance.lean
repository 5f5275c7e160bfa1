import Whittle.Proofs.CommandLine.Setup
import Whittle.Proofs.Config.Agreement

namespace Whittle

-- Values of the kinds that every format of documents has.
inductive Value.Common : Value → Prop
  | null : Common .null
  | bool (b : Bool) : Common (.bool b)
  | int (n : Int) : Common (.int n)
  | float (x : Binary64) : Common (.float x)
  | text (s : String) : Common (.text s)
  | list {items : List Value} : (∀ v ∈ items, Common v) → Common (.list items)
  | mapping {entries : List (Value × Value)} : (∀ e ∈ entries, Common e.1) → (∀ e ∈ entries, Common e.2) →
    Common (.mapping entries)

namespace Config

namespace Schema

theorem eq_text_of_common {v : Value} {t : String} (common : v.Common) (read : text v = .ok t) : v = .text t := by
  rcases text_eq_ok read with same | ⟨bs, rfl, -⟩
  · exact same
  · cases common

theorem plain_of_common {v : Value} {t : String} (common : v.Common) (read : text v = .ok t) : v.plain = t :=
  (plain_eq_iff read).mpr ⟨t, eq_text_of_common common read⟩

theorem common_get {es : Entries} (common : (Value.mapping es).Common) {name : String} {v : Value}
    (found : Value.get? es name = some v) : v.Common := by
  cases common with
  | mapping keys values =>
    obtain ⟨e, first, rfl⟩ := Option.map_eq_some_iff.mp found
    exact values e (List.mem_of_find?_eq_some first)

theorem nodup_enter {α : Type} {table : List (String × α)} (distinct : (table.map Prod.fst).Nodup) (name : String)
    (a : α) : ((enter name a table).map Prod.fst).Nodup := by
  induction table with
  | nil => simp [enter]
  | cons head rest ih =>
    obtain ⟨n, b⟩ := head
    obtain ⟨new, later⟩ := List.nodup_cons.mp distinct
    rw [enter]
    split
    · exact distinct
    · rename_i other
      refine List.nodup_cons.mpr ⟨fun again => ?_, ih later⟩
      rcases (mem_names_enter name a rest n).mp again with same | old
      · exact other (beq_iff_eq.mpr same)
      · exact new old

theorem nodup_foldl_enter {α β : Type} (key : β → String) (value : β → α) (bs : List β) {table : List (String × α)}
    (distinct : (table.map Prod.fst).Nodup) :
    ((bs.foldl (fun acc b => enter (key b) (value b) acc) table).map Prod.fst).Nodup := by
  induction bs generalizing table with
  | nil => exact distinct
  | cons b rest ih => exact ih (nodup_enter distinct _ _)

-- Two rows have the same name, and what stands under it is related.
def RowsAlike {α β : Type} (R : α → β → Prop) (x : String × α) (y : String × β) : Prop := x.1 = y.1 ∧ R x.2 y.2

section

variable {α β : Type} {R : α → β → Prop}

theorem enter_alike {one : List (String × α)} {two : List (String × β)}
    (alike : List.Forall₂ (RowsAlike R) one two) {x : String × α} {y : String × β} (row : RowsAlike R x y) :
    List.Forall₂ (RowsAlike R) (enter x.1 x.2 one) (enter y.1 y.2 two) := by
  induction alike with
  | nil => exact .cons row .nil
  | @cons a b one two here later ih =>
    rw [enter, enter, here.1, row.1]
    split
    · exact .cons ⟨rfl, row.2⟩ later
    · exact .cons ⟨rfl, here.2⟩ (row.1 ▸ ih)

theorem foldl_enter_alike {xs : List (String × α)} {ys : List (String × β)}
    (rows : List.Forall₂ (RowsAlike R) xs ys) {one : List (String × α)} {two : List (String × β)}
    (alike : List.Forall₂ (RowsAlike R) one two) :
    List.Forall₂ (RowsAlike R) (xs.foldl (fun acc p => enter p.1 p.2 acc) one)
      (ys.foldl (fun acc p => enter p.1 p.2 acc) two) := by
  induction rows generalizing one two with
  | nil => exact alike
  | cons row _ ih => exact ih (enter_alike alike row)

end

-- The keys on the left are texts, and keys on the right as well.
def KeysWithin (raw declared : Entries) : Prop :=
  ∀ k ∈ raw.map Prod.fst, ∃ t, k = .text t ∧ .text t ∈ declared.map Prod.fst

theorem keysWithin_nil (declared : Entries) : KeysWithin [] declared := fun _ member => absurd member List.not_mem_nil

theorem keysWithin_of_options {v : Value} {declared : Option Entries} (common : v.Common)
    (checked : nullable options v = .ok declared) :
    (v = .null ∨ ∃ es, v = .mapping es) ∧ KeysWithin (Settings.entriesOf v) (declared.getD []) := by
  rcases nullable_eq_ok checked with ⟨rfl, rfl⟩ | ⟨-, es, rfl, read⟩
  · exact ⟨.inl rfl, keysWithin_nil _⟩
  · cases common with
    | @mapping raw keys _ =>
      refine ⟨.inr ⟨raw, rfl⟩, ?_⟩
      obtain ⟨table, entered, rfl⟩ := Checked.map_eq_ok read
      obtain ⟨pairs, rfl, each⟩ := dictionary_eq_ok entered
      intro k member
      obtain ⟨t, here, key⟩ := exists_related each member
      obtain ⟨e, inside, rfl⟩ := List.mem_map.mp member
      refine ⟨t, eq_text_of_common (keys e inside) key, ?_⟩
      rw [Option.getD_some, List.map_map]
      have kept := (mem_names_foldl Prod.fst Prod.snd pairs [] t).mpr (.inl here)
      obtain ⟨row, there, rfl⟩ := List.mem_map.mp kept
      exact List.mem_map.mpr ⟨row, there, rfl⟩
    | _ => cases read

theorem problems_app {α β : Type} {f : Checked (α → β)} {c : Checked α} (fine : (f.app c).problems = []) :
    f.problems = [] ∧ c.problems = [] := by
  cases f with
  | ok g =>
    cases c with
    | ok a => exact ⟨rfl, rfl⟩
    | error qs => exact ⟨rfl, fine⟩
  | error ps => exact List.append_eq_nil_iff.mp fine

theorem known_of_noMore {es : Entries} {fields : List String} (fine : (noMore es fields).problems = []) :
    ∀ k ∈ es.map Prod.fst, ∃ name ∈ fields, text k = .ok name := by
  intro k member
  obtain ⟨e, inside, rfl⟩ := List.mem_map.mp member
  have quiet : es.filterMap (fun e => keyProblem? es fields e.1) = [] := by
    unfold noMore at fine
    split at fine
    · assumption
    · exact fine
  have free := List.filterMap_eq_nil_iff.mp quiet e inside
  unfold keyProblem? at free
  split at free
  · cases free
  · rename_i name key
    split at free
    · rename_i listed
      rw [Bool.and_eq_true] at listed
      exact ⟨name, List.contains_iff_mem.mp listed.1, key⟩
    · cases free

-- The options that may stand at a rule.
def optionNames (r : Rule) : List String := ((optionForms.lookup r.name).getD []).map Prod.fst

theorem known_of_forms {r : Rule} {forms : OptionForms} {es : Entries} (known : optionForms.lookup r.name = some forms)
    (fine : (checkOptions forms es).problems = []) : ∀ k ∈ es.map Prod.fst, ∃ name ∈ optionNames r, text k = .ok name := by
  rw [optionNames, known]
  exact known_of_noMore (problems_app fine).2

-- The rules of a document that are read are those that were checked, and have no other options.
theorem rulesOf_alike {v : Value} {table : RuleTable} (common : v.Common) (read : ruleTable v = .ok table) :
    List.Forall₂ (RowsAlike KeysWithin) (Settings.rulesOf v) (tableEntries table) := by
  rcases ruleTable_eq_ok read with ⟨ns, listed, rfl⟩ | ⟨es, t, rfl, mapped, rfl⟩
  · obtain ⟨xs, items, each⟩ := textList_eq_ok listed
    cases common with
    | list inner =>
      cases items
      have related : List.Forall₂ (RowsAlike KeysWithin) (xs.map fun x => (x.plain, []))
          (ns.map fun n => (n, [])) := by
        rw [List.forall₂_map_left_iff, List.forall₂_map_right_iff]
        refine ((List.forall₂_and_left _ _).mpr ⟨inner, each⟩).imp ?_
        rintro x n ⟨common, read⟩
        exact ⟨plain_of_common common read, keysWithin_nil _⟩
      have entered := foldl_enter_alike related .nil
      rw [List.foldl_map, List.foldl_map] at entered
      exact entered
    | _ => cases items
  · obtain ⟨pairs, rfl, rows⟩ := dictionary_rows mapped
    cases common with
    | mapping keys values =>
      have related : List.Forall₂ (RowsAlike fun raw (o : Option Entries) => KeysWithin raw (o.getD []))
          (es.map fun e => (e.1.plain, Settings.entriesOf e.2)) pairs := by
        have both : ∀ e ∈ es, e.1.Common ∧ e.2.Common := fun e member => ⟨keys e member, values e member⟩
        rw [List.forall₂_map_left_iff]
        refine ((List.forall₂_and_left _ _).mpr ⟨both, rows⟩).imp ?_
        rintro e pair ⟨⟨common, common'⟩, key, value⟩
        exact ⟨plain_of_common common key, (keysWithin_of_options common' value).2⟩
      have entered := foldl_enter_alike related .nil
      rw [List.foldl_map] at entered
      rw [tableEntries, List.forall₂_map_right_iff]
      exact entered

end Schema

end Config

theorem Version.token_of_invalid {v : Value} {e : Version.Invalid} (refused : Version.id v = .error e) : e = ⟨v⟩ := by
  unfold Version.id at refused
  split at refused
  · cases refused
  · cases refused
    rfl

theorem Value.get?_cons_of_ne {name other : String} (different : other ≠ name) (v : Value) (es : List (Value × Value)) :
    get? ((.text name, v) :: es) other = get? es other := by
  have apart : (Value.text name).sameKey (.text other) = false := beq_false_of_ne (Ne.symm different)
  rw [get?, get?, List.find?_cons_of_neg]
  simp [apart]

namespace Rule

-- There are options that the rule takes in two ways, although they differ under this name only.
def Reads (r : Rule) (name : String) : Prop :=
  ∃ (options options' : List (Value × Value)) (a : Ambient),
    (∀ other, other ≠ name → Value.get? options other = Value.get? options' other) ∧
      r.configure options a ≠ r.configure options' a

theorem configure_guard_congr {options options' : List (Value × Value)} (g : VersionGuard) (a : Ambient)
    (target : Value.get? options "target_version" = Value.get? options' "target_version")
    (constant : Value.get? options "constant_name" = Value.get? options' "constant_name") :
    (versionGuard g).configure options a = (versionGuard g).configure options' a := by
  have aimed : VersionGuard.targetOf? options = VersionGuard.targetOf? options' := by
    rw [VersionGuard.targetOf?, VersionGuard.targetOf?, target]
  have named : VersionGuard.constantOf options = VersionGuard.constantOf options' := by
    rw [VersionGuard.constantOf, VersionGuard.constantOf, constant]
  rw [configure, configure, VersionGuard.configure, VersionGuard.configure, aimed, named]

theorem reads_of_values {r : Rule} {name : String} (v w : Value) {rest : List (Value × Value)} {a : Ambient}
    (differs : r.configure ((.text name, v) :: rest) a ≠ r.configure ((.text name, w) :: rest) a) : r.Reads name := by
  refine ⟨_, _, a, fun other different => ?_, differs⟩
  rw [Value.get?_cons_of_ne different, Value.get?_cons_of_ne different]

theorem reads_target (g : VersionGuard) : (versionGuard g).Reads "target_version" := by
  have taken : ∀ n, n = 30800 ∨ n = 30900 →
      (versionGuard g).configure [(.text "target_version", .int n)] ⟨.ok .null, 0⟩ =
        (none, .versionGuard { g with constant := VersionGuard.defaultConstant, target := some n }, ⟨.ok .null, 0⟩) := by
    rintro _ (rfl | rfl) <;> rfl
  apply reads_of_values (.int 30800) (.int 30900)
  rw [taken _ (.inl rfl), taken _ (.inr rfl)]
  simp

theorem reads_constant (g : VersionGuard) : (versionGuard g).Reads "constant_name" := by
  have taken : ∀ c, c = "V" ∨ c = "W" →
      (versionGuard g).configure [(.text "constant_name", .text c), (.text "target_version", .int 30800)]
          ⟨.ok .null, 0⟩ =
        (none, .versionGuard { g with constant := c, target := some 30800 }, ⟨.ok .null, 0⟩) := by
    rintro _ (rfl | rfl) <;> rfl
  apply reads_of_values (.text "V") (.text "W")
  rw [taken _ (.inl rfl), taken _ (.inr rfl)]
  simp

-- The options that may stand at a rule are those that it reads.
theorem reads_iff (r : Rule) (name : String) : r.Reads name ↔ name ∈ Config.Schema.optionNames r := by
  cases r with
  | extraArguments =>
    refine iff_of_false ?_ List.not_mem_nil
    rintro ⟨options, options', a, -, differs⟩
    exact differs rfl
  | versionGuard g =>
    have listed : Config.Schema.optionNames (.versionGuard g) = ["target_version", "constant_name"] := rfl
    rw [listed, List.mem_pair]
    constructor
    · rintro ⟨options, options', a, alike, differs⟩
      by_contra other
      rw [not_or] at other
      exact differs (configure_guard_congr g a (alike _ (Ne.symm other.1)) (alike _ (Ne.symm other.2)))
    · rintro (rfl | rfl)
      · exact reads_target g
      · exact reads_constant g

-- A rule as it is made from a name and options where the ambient version is known.
def Fits (ambient : Value) (w : String × List (Value × Value)) : Rule → Prop
  | .versionGuard g => w.1 = VersionGuard.ruleName ∧ g.constant = VersionGuard.constantOf w.2 ∧
    ∃ n, g.target = some n ∧ Version.id ((VersionGuard.targetOf? w.2).getD ambient) = .ok n
  | .extraArguments => w.1 = ExtraArguments.ruleName

-- The target that options give is no version.
def RefusedTarget (wanted : List (String × List (Value × Value))) (target : Value) : Prop :=
  ∃ options, (VersionGuard.ruleName, options) ∈ wanted ∧ VersionGuard.targetOf? options = some target ∧
    Version.id target = .error ⟨target⟩

section

variable {a : Ambient} {ambient : Value} {n : Int}

theorem configure_of_ambient (token : a.token = .ok ambient) (valid : Version.id ambient = .ok n)
    (options : List (Value × Value)) :
    (∃ g a', VersionGuard.configure options {} a = (none, g, a') ∧ a'.token = .ok ambient ∧
      Fits ambient (VersionGuard.ruleName, options) (.versionGuard g)) ∨
    ∃ target, VersionGuard.targetOf? options = some target ∧ Version.id target = .error ⟨target⟩ ∧
      (VersionGuard.configure options {} a).1 = some (.version ⟨target⟩) := by
  have kept := VersionGuard.configure_token options {} a
  rw [VersionGuard.configure_eq] at kept ⊢
  cases given : VersionGuard.targetOf? options with
  | some target =>
    rw [given] at kept
    dsimp only at kept ⊢
    rw [VersionGuard.take_of_token] at kept ⊢
    cases id : Version.id target with
    | ok m => exact .inl ⟨_, _, rfl, token, rfl, rfl, m, rfl, by rw [given]; exact id⟩
    | error e =>
      cases Version.token_of_invalid id
      exact .inr ⟨target, rfl, id, rfl⟩
  | none =>
    refine .inl ?_
    -- whether the answer is kept for the next time makes no difference to this one
    obtain ⟨g, a', asked, constant⟩ : ∃ g a', VersionGuard.askAmbient
        { ({} : VersionGuard) with constant := VersionGuard.constantOf options } a = (.ok ambient, g, a') ∧
        g.constant = VersionGuard.constantOf options := by
      unfold VersionGuard.askAmbient
      simp only [token]
      split <;> rename_i answer <;> cases answer <;> exact ⟨_, _, rfl, rfl⟩
    rw [given] at kept
    dsimp only at kept ⊢
    rw [asked, VersionGuard.take_of_token, valid] at kept ⊢
    exact ⟨_, _, rfl, kept.trans token, rfl, constant, n, rfl, by rw [given]; exact valid⟩

theorem configureAll_of_ambient (token : a.token = .ok ambient) (valid : Version.id ambient = .ok n)
    {wanted : List (String × List (Value × Value))} (known : ∀ w ∈ wanted, w.1 ∈ names) :
    (∃ rules, configureAll a (fresh wanted) = .ok rules ∧ List.Forall₂ (Fits ambient) wanted rules) ∨
      ∃ target, RefusedTarget wanted target ∧ configureAll a (fresh wanted) = .error (.version ⟨target⟩) := by
  induction wanted generalizing a with
  | nil => exact .inl ⟨[], rfl, .nil⟩
  | cons w rest ih =>
    obtain ⟨name, options⟩ := w
    obtain ⟨here, later⟩ := List.forall_mem_cons.mp known
    -- a rule that is made leaves it to the others whether all are
    have step : ∀ {r r' : Rule} {a' : Ambient}, fresh ((name, options) :: rest) = (r, options) :: fresh rest →
        r.configure options a = (none, r', a') → a'.token = .ok ambient → Fits ambient (name, options) r' →
        (∃ rules, configureAll a (fresh ((name, options) :: rest)) = .ok rules ∧
          List.Forall₂ (Fits ambient) ((name, options) :: rest) rules) ∨
        ∃ target, RefusedTarget ((name, options) :: rest) target ∧
          configureAll a (fresh ((name, options) :: rest)) = .error (.version ⟨target⟩) := by
      intro r r' a' first made asked fits
      rw [first, configureAll, made]
      dsimp only
      rcases ih asked later with ⟨rules, others, all⟩ | ⟨target, ⟨own, inside, refused⟩, failed⟩
      · rw [others]
        exact .inl ⟨r' :: rules, rfl, .cons fits all⟩
      · rw [failed]
        exact .inr ⟨target, ⟨own, List.mem_cons_of_mem _ inside, refused⟩, rfl⟩
    rcases fresh_cons here options rest with ⟨rfl, first⟩ | ⟨different, first⟩
    · rcases configure_of_ambient token valid options with ⟨g, a', made, asked, fits⟩ | ⟨target, given, refused, failed⟩
      · exact step first (by rw [configure, made]) asked fits
      · rw [first, configureAll_of_refused failed]
        exact .inr ⟨target, ⟨options, List.mem_cons_self, given, refused⟩, rfl⟩
    · have named : name = ExtraArguments.ruleName := by
        have listed : names = [VersionGuard.ruleName, ExtraArguments.ruleName] := rfl
        rw [listed] at here
        simpa [different] using here
      exact step first rfl token named

theorem create_of_ambient (token : a.token = .ok ambient) (valid : Version.id ambient = .ok n)
    {wanted : List (String × List (Value × Value))} (known : ∀ w ∈ wanted, w.1 ∈ names) :
    (∃ rules, create a wanted = .ok rules ∧ List.Forall₂ (Fits ambient) wanted rules) ∨
      ∃ target, RefusedTarget wanted target ∧ create a wanted = .error (.version ⟨target⟩) := by
  rcases create_cases a wanted with ⟨-, created⟩ | ⟨unknown, -⟩
  · rw [created]
    exact configureAll_of_ambient token valid known
  · exact absurd known unknown

end

end Rule

namespace Config

namespace Settings

-- Whatever is gone through is a collection, and options are missing or a mapping.
structure Readable (es : Entries) : Prop where
  paths : Schema.Holds es "paths" fun v => ∃ items, Schema.items? v = some items
  wanted : Schema.Holds es "include" fun v => ∃ items, Schema.items? v = some items
  unwanted : Schema.Holds es "exclude" fun v => ∃ items, Schema.items? v = some items
  rules : Schema.Holds es "rules" fun v => v = .null ∨ (∃ items, v = .list items) ∨
    ∃ rows, v = .mapping rows ∧ ∀ row ∈ rows, row.2 = .null ∨ ∃ options, row.2 = .mapping options

-- Each rule is one that there is, listed once, with options that it knows.
structure Registered (rules : List (String × Entries)) : Prop where
  distinct : (rules.map Prod.fst).Nodup
  known : ∀ w ∈ rules, ∃ r, Rule.ofName? w.1 = some r ∧ r.name = w.1 ∧
    ∀ e ∈ w.2, ∃ name ∈ Schema.optionNames r, e.1 = .text name

theorem nodup_rulesOf (v : Value) : ((rulesOf v).map Prod.fst).Nodup := by
  cases v with
  | list names => exact Schema.nodup_foldl_enter Value.plain (fun _ => []) names List.nodup_nil
  | mapping es =>
    exact Schema.nodup_foldl_enter (fun e : Value × Value => e.1.plain) (fun e => entriesOf e.2) es List.nodup_nil
  | _ => exact List.nodup_nil

-- Every rule runs where a document names none.
theorem standard_rules : ({} : Settings).rules = Rule.names.map (·, []) := rfl

theorem registered_standard : Registered ({} : Settings).rules where
  distinct := by decide
  known w member := by
    obtain ⟨name, listed, rfl⟩ := List.mem_map.mp (standard_rules ▸ member)
    obtain ⟨r, found, named⟩ := Rule.ofName_of_mem listed
    exact ⟨r, found, named, List.forall_mem_nil _⟩

theorem registered_read {es : Entries} {d : Declared} (common : (Value.mapping es).Common)
    (declares : Schema.Declares es d) (fine : ∀ w ∈ Schema.declaredRules d, Schema.ruleProblems w.1 w.2 = []) :
    Registered (read es).rules := by
  unfold read
  dsimp only
  cases found : Value.get? es "rules" with
  | none => exact registered_standard
  | some v =>
    rw [Option.elim_some]
    refine ⟨nodup_rulesOf v, fun w member => ?_⟩
    rcases Schema.nullable_eq_ok (Schema.field_eq_ok declares.rules found) with ⟨rfl, -⟩ | ⟨-, table, declared, tabled⟩
    · cases member
    · have inner := Schema.common_get common found
      have alike := Schema.rulesOf_alike inner tabled
      rw [Schema.declaredRules, declared] at fine
      obtain ⟨declared, there, name, within⟩ := exists_related alike member
      obtain ⟨forms, known, accepted⟩ := Schema.forms_of_ruleProblems (fine _ there)
      obtain ⟨r, registered, named⟩ := Rule.ofName_of_mem (Schema.mem_names_of_forms known)
      refine ⟨r, name ▸ registered, named.trans name.symm, fun e inside => ?_⟩
      obtain ⟨t, key, listed⟩ := within e.1 (List.mem_map_of_mem inside)
      obtain ⟨option, taken, same⟩ := Schema.known_of_forms (named.symm ▸ known) accepted _ listed
      cases same
      exact ⟨t, taken, key⟩

theorem readable_of_declares {es : Entries} {d : Declared} (common : (Value.mapping es).Common)
    (declares : Schema.Declares es d) : Readable es := by
  have collection : ∀ {name : String} {declared : Option (List String)},
      Schema.field es name (fun v => (Schema.textList v).map some) = .ok declared →
      Schema.Holds es name fun v => ∃ items, Schema.items? v = some items := by
    intro name declared checked v found
    obtain ⟨ts, listed, -⟩ := Checked.map_eq_ok (Schema.field_eq_ok checked found)
    obtain ⟨xs, items, -⟩ := Schema.textList_eq_ok listed
    exact ⟨xs, items⟩
  refine ⟨collection declares.paths, collection declares.wanted, collection declares.unwanted, fun v found => ?_⟩
  rcases Schema.nullable_eq_ok (Schema.field_eq_ok declares.rules found) with ⟨rfl, -⟩ | ⟨-, table, -, tabled⟩
  · exact .inl rfl
  · have inner := Schema.common_get common found
    rcases Schema.ruleTable_eq_ok tabled with ⟨ns, listed, -⟩ | ⟨rows, t, rfl, mapped, -⟩
    · obtain ⟨xs, items, -⟩ := Schema.textList_eq_ok listed
      cases inner with
      | list => exact .inr (.inl ⟨_, rfl⟩)
      | _ => cases items
    · obtain ⟨pairs, -, each⟩ := Schema.dictionary_rows mapped
      refine .inr (.inr ⟨rows, rfl, fun row member => ?_⟩)
      obtain ⟨pair, -, -, options⟩ := exists_related each member
      cases inner with
      | mapping _ values => exact (Schema.keysWithin_of_options (values _ member) options).1

end Settings

theorem accepted_is_usable (v : Value) (d : Declared) (common : v.Common) (valid : Schema.validate v = .ok d) :
    ∃ es s, v = .mapping es ∧ Settings.Readable es ∧ Settings.ofValue v = .ok s ∧ Settings.Registered s.rules ∧
      ∀ (a : Ambient) (ambient : Value) (n : Int), a.token = .ok ambient → Version.id ambient = .ok n →
        (∃ rules, Rule.create a s.rules = .ok rules ∧ List.Forall₂ (Rule.Fits ambient) s.rules rules ∧
          rules.map Rule.name = s.rules.map Prod.fst ∧ ∀ r ∈ rules, r.isConfigured) ∨
        ∃ target, Rule.RefusedTarget s.rules target ∧ Rule.create a s.rules = .error (.version ⟨target⟩) := by
  obtain ⟨document, fine⟩ := Schema.problems_of_validate valid
  obtain ⟨es, rfl, declares⟩ := Schema.declares_of_document document
  have registered := Settings.registered_read common declares fine
  refine ⟨es, Settings.read es, rfl, Settings.readable_of_declares common declares, ?_, registered, ?_⟩
  · rw [Settings.ofValue, valid]
    rfl
  · intro a ambient n token version
    have known : ∀ w ∈ (Settings.read es).rules, w.1 ∈ Rule.names := by
      intro w member
      obtain ⟨r, found, named, -⟩ := registered.known w member
      unfold Rule.ofName? at found
      exact List.mem_map.mpr ⟨r, List.mem_of_find?_eq_some found, named⟩
    rcases Rule.create_of_ambient token version known with ⟨rules, created, fits⟩ | refused
    · obtain ⟨configured, named⟩ := Rule.isConfigured_of_create created
      exact .inl ⟨rules, created, fits, named, configured⟩
    · exact .inr refused

-- A text is a target as far as its form goes, and null stands for options and for a name.
def unversioned : Entries := [(.text "target_version", .text "3.x"), (.text "constant_name", .null)]

def unversionedDocument : Value :=
  .mapping [(.text "rules", .mapping
    [(.text "remove_extra_arguments", .null), (.text "remove_version_id_check", .mapping unversioned)])]

theorem accepted_is_usable_unversioned :
    unversionedDocument.Common ∧ (∃ d, Schema.validate unversionedDocument = .ok d) ∧
      ∃ s, Settings.ofValue unversionedDocument = .ok s ∧
        s.rules = [("remove_extra_arguments", []), ("remove_version_id_check", unversioned)] ∧
        Rule.create { token := .ok (.text "3.9") } s.rules = .error (.version ⟨.text "3.x"⟩) := by
  have options : (Value.mapping unversioned).Common := by
    apply Value.Common.mapping <;> simp [unversioned, Value.Common.text, Value.Common.null]
  have rows : (Value.mapping [(.text "remove_extra_arguments", .null),
      (.text "remove_version_id_check", .mapping unversioned)]).Common := by
    apply Value.Common.mapping <;> simp [options, Value.Common.text, Value.Common.null]
  have common : unversionedDocument.Common := by
    apply Value.Common.mapping <;> simp [rows, Value.Common.text]
  have valid : Schema.validate unversionedDocument = .ok ⟨none, none, none, none, none, none,
      some (.options [("remove_extra_arguments", []), ("remove_version_id_check", unversioned)])⟩ := rfl
  obtain ⟨es, s, same, -, read, -, made⟩ := accepted_is_usable _ _ common valid
  cases same
  have rules : s.rules = [("remove_extra_arguments", []), ("remove_version_id_check", unversioned)] := by
    rw [Settings.ofValue, valid] at read
    cases read
    rfl
  have refused : Version.id (.text "3.x") = .error ⟨.text "3.x"⟩ := by cbv
  have ambient : Version.id (.text "3.9") = .ok 30900 := by cbv
  refine ⟨common, ⟨_, valid⟩, s, read, rules, ?_⟩
  rw [rules] at made ⊢
  rcases made { token := .ok (.text "3.9") } _ _ rfl ambient with ⟨made, -, fits, -⟩ | ⟨target, own, failed⟩
  · cases fits with
    | cons _ later =>
      cases later with
      | @cons _ r _ _ fits _ =>
        cases r with
        | extraArguments => exact absurd (show VersionGuard.ruleName = ExtraArguments.ruleName from fits) (by decide)
        | versionGuard g =>
          obtain ⟨-, -, n, -, given⟩ := fits
          cases refused.symm.trans given
  · obtain ⟨given, member, aimed, -⟩ := own
    have theirs : given = unversioned := by simpa [VersionGuard.ruleName] using member
    subst theirs
    cases aimed
    exact failed

end Config

end Whittle
