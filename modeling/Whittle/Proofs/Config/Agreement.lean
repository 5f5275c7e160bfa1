import Mathlib
import Whittle.Config.Settings
import Whittle.Rule.Basic

namespace Whittle

theorem Utf8.length_decodeFrom {pos skip : Nat} {bytes : Bytes} {cs : List Char}
    (read : decodeFrom pos skip bytes = .ok cs) : cs.length ≤ bytes.length := by
  fun_induction decodeFrom pos skip bytes generalizing cs with
  | case1 =>
    cases read
    exact Nat.le_refl _
  | case2 _ _ _ _ ih => exact Nat.le_succ_of_le (ih read)
  | case3 pos b rest c n here ih =>
    cases later : decodeFrom (pos + 1) (n - 1) rest with
    | error e =>
      rw [later] at read
      cases read
    | ok more =>
      rw [later] at read
      cases read
      exact Nat.succ_le_succ (ih later)
  | case4 => cases read

namespace Text

theorem escapePoint_ne_nil (c : Nat) : escapePoint c ≠ [] := by
  unfold escapePoint
  repeat' split
  all_goals simp

theorem quotePoint_ne_nil (quote : Char) (c : Nat) : quotePoint quote c ≠ [] := by
  unfold quotePoint
  split
  · simp
  · split
    · simp
    · exact escapePoint_ne_nil c

theorem length_le_flatMap {α β : Type} {f : α → List β} (some : ∀ a, f a ≠ []) (as : List α) :
    as.length ≤ (as.flatMap f).length := by
  induction as with
  | nil => exact Nat.le_refl _
  | cons a rest ih =>
    have here := List.length_pos_iff.mpr (some a)
    rw [List.flatMap_cons, List.length_append, List.length_cons]
    omega

theorem length_quoteBytes (bs : List Nat) : bs.length < (quoteBytes bs).toList.length := by
  have some : ∀ b : Nat, (if b < 128 then quotePoint (chooseQuote bs) b else escapePoint b) ≠ [] := by
    intro b
    split
    · exact quotePoint_ne_nil _ b
    · exact escapePoint_ne_nil b
  have long := length_le_flatMap some bs
  simp only [quoteBytes, String.toList_ofList, List.length_append, List.length_cons]
  omega

theorem head_quoteBytes (bs : List Nat) : (quoteBytes bs).toList.head? = some 'b' := by
  simp [quoteBytes]

end Text

namespace Config

theorem exists_related {α β : Type} {R : α → β → Prop} {as : List α} {bs : List β} (related : List.Forall₂ R as bs)
    {a : α} (member : a ∈ as) : ∃ b ∈ bs, R a b := by
  induction related with
  | nil => cases member
  | cons here _ ih =>
    rcases List.mem_cons.mp member with rfl | later
    · exact ⟨_, List.mem_cons_self, here⟩
    · obtain ⟨b, inside, same⟩ := ih later
      exact ⟨b, List.mem_cons_of_mem _ inside, same⟩

namespace Checked

variable {α β : Type}

theorem map_eq_ok {f : α → β} {c : Checked α} {b : β} (read : c.map f = .ok b) : ∃ a, c = .ok a ∧ f a = b := by
  cases c with
  | error ps => cases read
  | ok a =>
    cases read
    exact ⟨a, rfl, rfl⟩

theorem below_eq_ok {part : String} {c : Checked α} {a : α} (read : c.below part = .ok a) : c = .ok a := by
  cases c with
  | error ps => cases read
  | ok b => exact read

theorem app_eq_ok {f : Checked (α → β)} {c : Checked α} {b : β} (read : f.app c = .ok b) :
    ∃ g a, f = .ok g ∧ c = .ok a ∧ g a = b := by
  cases f with
  | error ps => cases c <;> cases read
  | ok g =>
    cases c with
    | error qs => cases read
    | ok a =>
      cases read
      exact ⟨g, a, rfl, rfl, rfl⟩

theorem all_eq_ok {cs : List (Checked α)} {as : List α} (read : all cs = .ok as) :
    List.Forall₂ (fun c a => c = .ok a) cs as := by
  induction cs generalizing as with
  | nil =>
    cases read
    exact .nil
  | cons c rest ih =>
    obtain ⟨g, later, first, more, rfl⟩ := app_eq_ok read
    obtain ⟨a, here, rfl⟩ := map_eq_ok first
    exact .cons here (ih more)

end Checked

namespace Schema

theorem text_eq_ok {v : Value} {t : String} (read : text v = .ok t) :
    v = .text t ∨ ∃ bs, v = .bytes bs ∧ encoded? bs = some t := by
  cases v with
  | text s =>
    cases read
    exact .inl rfl
  | bytes bs =>
    cases decoded : encoded? bs with
    | none =>
      rw [text, decoded] at read
      cases read
    | some s =>
      rw [text, decoded] at read
      cases read
      exact .inr ⟨bs, rfl, decoded⟩
  | _ => cases read

theorem length_encoded {bs : List Nat} {t : String} (decoded : encoded? bs = some t) : t.toList.length ≤ bs.length := by
  unfold encoded? Utf8.decode at decoded
  cases read : Utf8.decodeFrom 0 0 (bs.map UInt8.ofNat) with
  | error e =>
    rw [read] at decoded
    cases decoded
  | ok cs =>
    rw [read] at decoded
    cases decoded
    simpa using Utf8.length_decodeFrom read

-- Bytes are shown in quotes and never as the text that they encode.
theorem plain_eq_iff {v : Value} {t : String} (read : text v = .ok t) : v.plain = t ↔ ∃ s, v = .text s := by
  rcases text_eq_ok read with rfl | ⟨bs, rfl, decoded⟩
  · exact iff_of_true rfl ⟨t, rfl⟩
  · refine iff_of_false (fun same => ?_) (by simp)
    have long := Text.length_quoteBytes bs
    have short := length_encoded decoded
    rw [show Value.plain (.bytes bs) = Text.quoteBytes bs from by simp [Value.plain, Value.quoted]] at same
    rw [same] at long
    omega

theorem eachFrom_forall {α : Type} {form : Value → Checked α} {n : Nat} {vs : List Value} {as : List α}
    (read : Checked.all (eachFrom form n vs) = .ok as) : List.Forall₂ (fun v a => form v = .ok a) vs as := by
  induction vs generalizing n as with
  | nil =>
    cases read
    exact .nil
  | cons v rest ih =>
    obtain ⟨g, later, first, more, rfl⟩ := Checked.app_eq_ok read
    obtain ⟨a, here, rfl⟩ := Checked.map_eq_ok first
    exact .cons (Checked.below_eq_ok here) (ih more)

theorem textList_eq_ok {v : Value} {ts : List String} (read : textList v = .ok ts) :
    ∃ xs, items? v = some xs ∧ List.Forall₂ (fun x t => text x = .ok t) xs ts := by
  unfold textList at read
  cases items : items? v with
  | none =>
    rw [items] at read
    cases read
  | some xs =>
    rw [items] at read
    exact ⟨xs, rfl, eachFrom_forall read⟩

-- A list whose items are texts and not bytes.
def TextItems (v : Value) : Prop := ∀ xs, items? v = some xs → ∀ x ∈ xs, ∃ s, x = .text s

theorem map_plain_eq_iff {xs : List Value} {ts : List String} (read : List.Forall₂ (fun x t => text x = .ok t) xs ts) :
    xs.map Value.plain = ts ↔ ∀ x ∈ xs, ∃ s, x = .text s := by
  induction read with
  | nil => simp
  | cons here _ ih => rw [List.map_cons, List.cons.injEq, plain_eq_iff here, ih, List.forall_mem_cons]

theorem texts_eq_iff {v : Value} {ts : List String} (read : textList v = .ok ts) :
    Settings.texts v = ts ↔ TextItems v := by
  obtain ⟨xs, items, each⟩ := textList_eq_ok read
  rw [Settings.texts, items, Option.getD_some, map_plain_eq_iff each]
  constructor
  · intro texts ys same
    cases items.symm.trans same
    exact texts
  · intro texts
    exact texts xs items

-- A word for false, spelled out or in bytes.
def IsFalseWord (v : Value) : Prop := ∃ s, text v = .ok s ∧ falseWords.contains (s.map Char.toLower)

theorem wordBoolean_eq_ok {s : String} {b : Bool} (read : wordBoolean s = .ok b) :
    (b = false ↔ falseWords.contains (s.map Char.toLower)) ∧ s ≠ "" := by
  have some : s ≠ "" := by
    rintro rfl
    have empty : wordBoolean "" = Checked.refuse .unclearBoolean := by cbv
    rw [empty] at read
    cases read
  refine ⟨?_, some⟩
  simp only [wordBoolean] at read
  split at read
  · rename_i isFalse
    cases read
    exact iff_of_true rfl isFalse
  · rename_i other
    split at read
    · cases read
      exact iff_of_false (by simp) other
    · cases read

theorem toInt_eq_some {negative : Bool} {m : Nat} {e n : Int} (whole : (Binary64.finite negative m e).toInt? = some n) :
    n = 0 ↔ m = 0 := by
  have signed : ∀ k : Nat, (k = 0 ↔ m = 0) → (if negative then -(k : Int) else k) = n → (n = 0 ↔ m = 0) := by
    intro k size same
    rw [← same, ← size]
    split <;> omega
  by_cases large : 0 ≤ e
  · simp only [Binary64.toInt?, if_pos large] at whole
    refine signed (m * Nat.pow 2 e.toNat) ⟨fun none => ?_, ?_⟩ (Option.some.inj whole)
    · exact (Nat.mul_eq_zero.mp none).resolve_right (Nat.ne_of_gt (Nat.two_pow_pos _))
    · rintro rfl
      exact Nat.zero_mul _
  · by_cases divides : m % Nat.pow 2 (-e).toNat = 0
    · simp only [Binary64.toInt?, if_neg large, if_pos (beq_iff_eq.mpr divides)] at whole
      have exactly := Nat.div_add_mod m (Nat.pow 2 (-e).toNat)
      refine signed (m / Nat.pow 2 (-e).toNat) ⟨fun none => ?_, ?_⟩ (Option.some.inj whole)
      · rw [none, divides] at exactly
        simpa using exactly.symm
      · rintro rfl
        exact Nat.zero_div _
    · simp only [Binary64.toInt?, if_neg large, if_neg (mt beq_iff_eq.mp divides)] at whole
      cases whole

theorem isTrue_float {x : Binary64} {n : Int} (whole : x.toInt? = some n) : Value.isTrue (.float x) = (n != 0) := by
  cases x with
  | infinite negative => cases whole
  | nan => cases whole
  | finite negative m e =>
    rw [Value.isTrue, Bool.eq_iff_iff, bne_iff_ne, bne_iff_ne, ne_eq, ne_eq, toInt_eq_some whole]

theorem numberBoolean_eq_ok {n : Int} {b : Bool} (read : numberBoolean n = .ok b) : b = (n != 0) := by
  unfold numberBoolean at read
  split at read
  · rename_i zero
    cases read
    rw [beq_iff_eq.mp zero]
    rfl
  · split at read
    · rename_i one
      cases read
      rw [beq_iff_eq.mp one]
      rfl
    · cases read

theorem isTrue_word {s : String} {b : Bool} (read : wordBoolean s = .ok b) :
    true = b ↔ ¬falseWords.contains (s.map Char.toLower) := by
  rw [← (wordBoolean_eq_ok read).1]
  cases b <;> simp

theorem isTrue_of_text {v : Value} {s : String} (spelled : text v = .ok s) (filled : s ≠ "") : v.isTrue = true := by
  rcases text_eq_ok spelled with rfl | ⟨bs, rfl, decoded⟩
  · simpa [Value.isTrue] using filled
  · have short := length_encoded decoded
    have chars : s.toList ≠ [] := by simpa using filled
    have long := List.length_pos_iff.mpr chars
    cases bs with
    | nil =>
      rw [List.length_nil] at short
      omega
    | cons b rest => rfl

theorem isTrue_eq_iff_of_text {v : Value} {s : String} {b : Bool} (spelled : text v = .ok s)
    (read : wordBoolean s = .ok b) : v.isTrue = b ↔ ¬IsFalseWord v := by
  rw [isTrue_of_text spelled (wordBoolean_eq_ok read).2, isTrue_word read]
  refine not_congr ⟨fun word => ⟨s, spelled, word⟩, ?_⟩
  rintro ⟨t, same, word⟩
  cases spelled.symm.trans same
  exact word

theorem isTrue_eq_iff {v : Value} {b : Bool} (read : boolean v = .ok b) : v.isTrue = b ↔ ¬IsFalseWord v := by
  have wordless : (∀ s, text v ≠ .ok s) → v.isTrue = b → (v.isTrue = b ↔ ¬IsFalseWord v) := by
    intro none same
    refine iff_of_true same ?_
    rintro ⟨s, word, -⟩
    exact none s word
  cases v with
  | bool c =>
    cases read
    exact wordless nofun rfl
  | int n => exact wordless nofun (numberBoolean_eq_ok read).symm
  | float x =>
    cases whole : x.toInt? with
    | none =>
      rw [boolean, whole] at read
      cases read
    | some n =>
      rw [boolean, whole, Option.elim_some] at read
      split at read
      · cases read
      · exact wordless nofun ((isTrue_float whole).trans (numberBoolean_eq_ok read).symm)
  | text s => exact isTrue_eq_iff_of_text rfl read
  | bytes bs =>
    cases decoded : encoded? bs with
    | none =>
      rw [boolean, decoded] at read
      cases read
    | some s =>
      rw [boolean, decoded, Option.elim_some] at read
      have spelled : text (.bytes bs) = .ok s := by rw [text, decoded]; rfl
      exact isTrue_eq_iff_of_text spelled read
  | _ => cases read

theorem nullable_eq_ok {α : Type} {form : Value → Checked α} {v : Value} {a : Option α}
    (read : nullable form v = .ok a) : v = .null ∧ a = none ∨ v ≠ .null ∧ ∃ b, a = some b ∧ form v = .ok b := by
  by_cases null : v = .null
  · subst null
    cases read
    exact .inl ⟨rfl, rfl⟩
  · have filled : nullable form v = (form v).map some := by
      cases v with
      | null => exact absurd rfl null
      | _ => rfl
    rw [filled] at read
    obtain ⟨b, form, rfl⟩ := Checked.map_eq_ok read
    exact .inr ⟨null, b, rfl, form⟩

theorem field_eq_ok {α : Type} {es : Entries} {name : String} {form : Value → Checked (Option α)} {a : Option α}
    (checked : field es name form = .ok a) {v : Value} (found : Value.get? es name = some v) : form v = .ok a := by
  unfold field at checked
  rw [found] at checked
  exact Checked.below_eq_ok checked

-- Whatever stands under a name has a property.
def Holds (es : Entries) (name : String) (P : Value → Prop) : Prop := ∀ v, Value.get? es name = some v → P v

-- What is read under a name against what is declared: nothing declared is standard on both sides.
theorem reads_iff {α β γ : Type} (R : α → β → Prop) (meant : Option γ → β) {es : Entries} {name : String}
    {form : Value → Checked (Option γ)} {declared : Option γ} {standard : α} {f : Value → α} {P : Value → Prop}
    (checked : field es name form = .ok declared) (same : R standard (meant none))
    (each : ∀ v, form v = .ok declared → (R (f v) (meant declared) ↔ P v)) :
    R ((Value.get? es name).elim standard f) (meant declared) ↔ Holds es name P := by
  unfold Holds
  cases found : Value.get? es name with
  | none =>
    rw [field, found] at checked
    cases checked
    exact iff_of_true same nofun
  | some v =>
    rw [Option.elim_some, each v (field_eq_ok checked found)]
    simp

theorem mem_names_enter {α : Type} (name : String) (a : α) (table : List (String × α)) (n : String) :
    n ∈ (enter name a table).map Prod.fst ↔ n = name ∨ n ∈ table.map Prod.fst := by
  induction table with
  | nil => simp [enter]
  | cons head rest ih =>
    obtain ⟨m, b⟩ := head
    rw [enter]
    split
    · rename_i same
      rw [beq_iff_eq.mp same]
      simp
    · rw [List.map_cons, List.mem_cons, ih, List.map_cons, List.mem_cons, or_left_comm]

theorem mem_names_foldl {α β : Type} (key : β → String) (value : β → α) (bs : List β) (table : List (String × α))
    (n : String) :
    n ∈ (bs.foldl (fun acc b => enter (key b) (value b) acc) table).map Prod.fst ↔
      n ∈ bs.map key ∨ n ∈ table.map Prod.fst := by
  induction bs generalizing table with
  | nil => simp
  | cons b rest ih =>
    rw [List.foldl_cons, ih, mem_names_enter, List.map_cons, List.mem_cons, or_assoc, or_left_comm]

-- Two tables have rules of the same names.
def SameNames (a b : List (String × Entries)) : Prop := ∀ n, n ∈ a.map Prod.fst ↔ n ∈ b.map Prod.fst

-- A list of names or a mapping under names, all of them texts. Of other collections only the empty ones name what they
-- hold.
def NamedInTexts : Value → Prop
  | .list xs => ∀ x ∈ xs, ∃ s, x = .text s
  | .mapping es => ∀ e ∈ es, ∃ s, e.1 = .text s
  | .tuple xs | .set xs => xs = []
  | _ => False

-- Names that are read in quotes are names of no rules.
theorem sameNames_iff {keys : List Value} {ts : List String} (read : List.Forall₂ (fun x t => text x = .ok t) keys ts)
    (known : ∀ t ∈ ts, t ∈ Rule.names) :
    (∀ n, n ∈ keys.map Value.plain ↔ n ∈ ts) ↔ ∀ x ∈ keys, ∃ s, x = .text s := by
  constructor
  · intro same x member
    obtain ⟨t, -, here⟩ := exists_related read member
    rcases text_eq_ok here with rfl | ⟨bs, rfl, -⟩
    · exact ⟨t, rfl⟩
    · have listed := known _ ((same _).mp (List.mem_map.mpr ⟨_, member, rfl⟩))
      have shown : Value.plain (.bytes bs) = Text.quoteBytes bs := by simp [Value.plain, Value.quoted]
      have first := Text.head_quoteBytes bs
      rw [shown] at listed
      have others : ∀ n ∈ Rule.names, n.toList.head? ≠ some 'b' := by decide
      exact absurd first (others _ listed)
  · intro texts n
    rw [(map_plain_eq_iff read).mpr texts]

theorem dictionary_rows {α : Type} {form : Value → Checked α} {es : Entries} {table : List (String × α)}
    (read : dictionary form (.mapping es) = .ok table) :
    ∃ pairs : List (String × α), table = pairs.foldl (fun acc p => enter p.1 p.2 acc) [] ∧
      List.Forall₂ (fun e p => text e.1 = .ok p.1 ∧ form e.2 = .ok p.2) es pairs := by
  obtain ⟨pairs, each, rfl⟩ := Checked.map_eq_ok read
  refine ⟨pairs, rfl, ?_⟩
  have both := Checked.all_eq_ok each
  rw [List.forall₂_map_left_iff] at both
  refine both.imp fun e pair checked => ?_
  obtain ⟨g, a, first, value, rfl⟩ := Checked.app_eq_ok (Checked.below_eq_ok checked)
  obtain ⟨t, key, rfl⟩ := Checked.map_eq_ok first
  exact ⟨Checked.below_eq_ok key, value⟩

theorem dictionary_eq_ok {α : Type} {form : Value → Checked α} {es : Entries} {table : List (String × α)}
    (read : dictionary form (.mapping es) = .ok table) :
    ∃ pairs : List (String × α), table = pairs.foldl (fun acc p => enter p.1 p.2 acc) [] ∧
      List.Forall₂ (fun x t => text x = .ok t) (es.map Prod.fst) (pairs.map Prod.fst) := by
  obtain ⟨pairs, entered, rows⟩ := dictionary_rows read
  refine ⟨pairs, entered, ?_⟩
  rw [List.forall₂_map_left_iff, List.forall₂_map_right_iff]
  exact rows.imp fun _ _ both => both.1

theorem ruleTable_eq_ok {v : Value} {table : RuleTable} (read : ruleTable v = .ok table) :
    (∃ ns, textList v = .ok ns ∧ table = .names ns) ∨
      ∃ es t, v = .mapping es ∧ dictionary (nullable options) v = .ok t ∧
        table = .options (t.map fun (n, o) => (n, o.getD [])) := by
  unfold ruleTable either at read
  cases first : (textList v).map RuleTable.names with
  | ok a =>
    simp only [first] at read
    cases read
    obtain ⟨ns, listed, rfl⟩ := Checked.map_eq_ok first
    exact .inl ⟨ns, listed, rfl⟩
  | error ps =>
    simp only [first] at read
    cases second : (dictionary (nullable options) v).map fun t => RuleTable.options (t.map fun (n, o) => (n, o.getD [])) with
    | error qs =>
      simp only [second] at read
      cases read
    | ok a =>
      simp only [second] at read
      cases read
      obtain ⟨t, mapped, rfl⟩ := Checked.map_eq_ok second
      cases v with
      | mapping es => exact .inr ⟨es, t, rfl, mapped, rfl⟩
      | _ => cases mapped

theorem rulesOf_iff_of_names {v : Value} {ns : List String} (listed : textList v = .ok ns)
    (known : ∀ n ∈ (tableEntries (.names ns)).map Prod.fst, n ∈ Rule.names) :
    SameNames (Settings.rulesOf v) (tableEntries (.names ns)) ↔ NamedInTexts v := by
  have members : ∀ n, n ∈ (tableEntries (.names ns)).map Prod.fst ↔ n ∈ ns := fun n => by
    have all := mem_names_foldl (fun n : String => n) (fun _ => ([] : Entries)) ns [] n
    simpa [tableEntries] using all
  obtain ⟨xs, items, each⟩ := textList_eq_ok listed
  have named := sameNames_iff each fun n member => known n ((members n).mpr member)
  unfold SameNames
  simp only [members]
  -- only a list is read again as names
  have unread : ns = [] ↔ xs = [] := by
    rw [← List.length_eq_zero_iff, ← List.length_eq_zero_iff, each.length_eq]
  have empty : (∀ n, n ∈ ([] : List String) ↔ n ∈ ns) ↔ xs = [] := by
    rw [← unread]
    constructor
    · intro same
      exact List.eq_nil_iff_forall_not_mem.mpr fun n member => List.not_mem_nil ((same n).mpr member)
    · rintro rfl n
      rfl
  cases v with
  | list ys =>
    cases items
    have all : ∀ n, n ∈ (Settings.rulesOf (.list xs)).map Prod.fst ↔ n ∈ xs.map Value.plain := fun n => by
      have both := mem_names_foldl Value.plain (fun _ => ([] : Entries)) xs [] n
      rwa [List.map_nil, or_iff_left List.not_mem_nil] at both
    rw [NamedInTexts, ← named]
    simp only [all]
  | tuple ys =>
    cases items
    exact empty
  | set ys =>
    cases items
    exact empty
  | _ => cases items

theorem rulesOf_iff_of_options {es : Entries} {t : List (String × Option Entries)}
    (mapped : dictionary (nullable options) (.mapping es) = .ok t)
    (known : ∀ n ∈ (tableEntries (.options (t.map fun (n, o) => (n, o.getD [])))).map Prod.fst, n ∈ Rule.names) :
    SameNames (Settings.rulesOf (.mapping es)) (tableEntries (.options (t.map fun (n, o) => (n, o.getD [])))) ↔
      NamedInTexts (.mapping es) := by
  obtain ⟨pairs, rfl, each⟩ := dictionary_eq_ok mapped
  have members : ∀ n, n ∈ (tableEntries (.options ((pairs.foldl (fun acc p => enter p.1 p.2 acc) []).map
      fun (n, o) => (n, o.getD [])))).map Prod.fst ↔ n ∈ pairs.map Prod.fst := fun n => by
    have all := mem_names_foldl (Prod.fst : String × Option Entries → String) Prod.snd pairs [] n
    rw [tableEntries, List.map_map]
    simpa using all
  have named := sameNames_iff each fun n member => known n ((members n).mpr member)
  unfold SameNames
  simp only [members]
  have keys : (∀ x ∈ es.map Prod.fst, ∃ s, x = Value.text s) ↔ ∀ e ∈ es, ∃ s, e.1 = Value.text s := by
    simp
  rw [NamedInTexts, ← keys, ← named]
  have all : ∀ n, n ∈ (Settings.rulesOf (.mapping es)).map Prod.fst ↔ n ∈ (es.map Prod.fst).map Value.plain := by
    intro n
    have both := mem_names_foldl (fun e : Value × Value => e.1.plain) (fun e => Settings.entriesOf e.2) es [] n
    rw [List.map_nil, or_iff_left List.not_mem_nil] at both
    rw [List.map_map]
    exact both
  simp only [all]

theorem rulesOf_iff {v : Value} {table : RuleTable} (read : ruleTable v = .ok table)
    (known : ∀ n ∈ (tableEntries table).map Prod.fst, n ∈ Rule.names) :
    SameNames (Settings.rulesOf v) (tableEntries table) ↔ NamedInTexts v := by
  rcases ruleTable_eq_ok read with ⟨ns, listed, rfl⟩ | ⟨es, t, rfl, mapped, rfl⟩
  · exact rulesOf_iff_of_names listed known
  · exact rulesOf_iff_of_options mapped known

end Schema

-- The settings that a declaration stands for.
def Declared.settings (d : Declared) : Settings :=
  let standard : Settings := {}
  { paths := d.paths.getD standard.paths
    wanted := d.wanted.getD standard.wanted
    unwanted := d.unwanted.getD standard.unwanted
    output := d.output.getD standard.output
    report := d.report.getD standard.report
    rules := (d.rules.map Schema.tableEntries).getD standard.rules }

namespace Schema

-- Every key of a document is of its form.
structure Declares (es : Entries) (d : Declared) : Prop where
  paths : field es "paths" (fun v => (textList v).map some) = .ok d.paths
  wanted : field es "include" (fun v => (textList v).map some) = .ok d.wanted
  unwanted : field es "exclude" (fun v => (textList v).map some) = .ok d.unwanted
  output : field es "output" (nullable text) = .ok d.output
  report : field es "report" (nullable boolean) = .ok d.report
  rules : field es "rules" (nullable ruleTable) = .ok d.rules

theorem declares_of_document {v : Value} {d : Declared} (read : document v = .ok d) :
    ∃ es, v = .mapping es ∧ Declares es d := by
  cases v with
  | mapping es =>
    obtain ⟨_, _, seven, -, rfl⟩ := Checked.app_eq_ok read
    obtain ⟨_, _, six, rules, rfl⟩ := Checked.app_eq_ok seven
    obtain ⟨_, _, five, report, rfl⟩ := Checked.app_eq_ok six
    obtain ⟨_, _, four, output, rfl⟩ := Checked.app_eq_ok five
    obtain ⟨_, _, three, unwanted, rfl⟩ := Checked.app_eq_ok four
    obtain ⟨_, _, two, wanted, rfl⟩ := Checked.app_eq_ok three
    obtain ⟨_, _, one, paths, rfl⟩ := Checked.app_eq_ok two
    obtain ⟨_, -, rfl⟩ := Checked.map_eq_ok one
    exact ⟨es, rfl, paths, wanted, unwanted, output, report, rules⟩
  | _ => cases read

-- The rules that may stand in a document are those that there are.
theorem names_optionForms : optionForms.map Prod.fst = Rule.names := rfl

theorem mem_names_of_forms {name : String} {forms : OptionForms} (known : optionForms.lookup name = some forms) :
    name ∈ Rule.names := by
  obtain ⟨front, back, split, -⟩ := List.lookup_eq_some_iff.mp known
  rw [← names_optionForms, split, List.map_append, List.map_cons]
  exact List.mem_append_right _ List.mem_cons_self

theorem forms_of_ruleProblems {name : String} {es : Entries} (fine : ruleProblems name es = []) :
    ∃ forms, optionForms.lookup name = some forms ∧ (checkOptions forms es).problems = [] := by
  unfold ruleProblems at fine
  split at fine
  · cases fine
  · rename_i forms known
    exact ⟨forms, known, List.map_eq_nil_iff.mp fine⟩

theorem problems_of_validate {v : Value} {d : Declared} (valid : validate v = .ok d) :
    document v = .ok d ∧ ∀ w ∈ declaredRules d, ruleProblems w.1 w.2 = [] := by
  unfold validate at valid
  cases read : document v with
  | error ps =>
    rw [read] at valid
    cases valid
  | ok e =>
    rw [read] at valid
    simp only [bind, Except.bind] at valid
    split at valid
    · rename_i problems
      cases valid
      exact ⟨rfl, List.flatMap_eq_nil_iff.mp problems⟩
    · cases valid

theorem validate_eq_ok {v : Value} {d : Declared} (valid : validate v = .ok d) :
    document v = .ok d ∧ ∀ n ∈ (declaredRules d).map Prod.fst, n ∈ Rule.names := by
  obtain ⟨read, fine⟩ := problems_of_validate valid
  refine ⟨read, fun n member => ?_⟩
  obtain ⟨w, inside, rfl⟩ := List.mem_map.mp member
  obtain ⟨forms, known, -⟩ := forms_of_ruleProblems (fine w inside)
  exact mem_names_of_forms known

theorem list_reads_iff {es : Entries} {name : String} {declared : Option (List String)} {standard : List String}
    (checked : field es name (fun v => (textList v).map some) = .ok declared) :
    (Value.get? es name).elim standard Settings.texts = declared.getD standard ↔ Holds es name TextItems := by
  refine reads_iff Eq (·.getD standard) checked rfl fun v read => ?_
  obtain ⟨ts, listed, rfl⟩ := Checked.map_eq_ok read
  exact texts_eq_iff listed

end Schema

-- What is in effect is what the document declares, key by key, exactly where the values are read as they are checked.
theorem settings_as_declared (v : Value) (d : Declared) (valid : Schema.validate v = .ok d) :
    ∃ es s, v = .mapping es ∧ Settings.ofValue v = .ok s ∧
      (s.paths = d.settings.paths ↔ Schema.Holds es "paths" Schema.TextItems) ∧
      (s.wanted = d.settings.wanted ↔ Schema.Holds es "include" Schema.TextItems) ∧
      (s.unwanted = d.settings.unwanted ↔ Schema.Holds es "exclude" Schema.TextItems) ∧
      (s.output = d.settings.output ↔ Schema.Holds es "output" fun x => ∃ t, x = .text t) ∧
      (s.report = d.settings.report ↔ Schema.Holds es "report" fun x => x ≠ .null ∧ ¬Schema.IsFalseWord x) ∧
      (Schema.SameNames s.rules d.settings.rules ↔ Schema.Holds es "rules" Schema.NamedInTexts) := by
  obtain ⟨document, known⟩ := Schema.validate_eq_ok valid
  obtain ⟨es, rfl, declares⟩ := Schema.declares_of_document document
  refine ⟨es, Settings.read es, rfl, ?_, Schema.list_reads_iff declares.paths, Schema.list_reads_iff declares.wanted,
    Schema.list_reads_iff declares.unwanted, ?_, ?_, ?_⟩
  · rw [Settings.ofValue, valid]
    rfl
  · refine Schema.reads_iff Eq (·.getD ({} : Settings).output) declares.output rfl fun x read => ?_
    rcases Schema.nullable_eq_ok read with ⟨rfl, none⟩ | ⟨-, t, some, written⟩
    · rw [none]
      exact iff_of_false (by decide) nofun
    · rw [some]
      exact Schema.plain_eq_iff written
  · refine Schema.reads_iff Eq (·.getD ({} : Settings).report) declares.report rfl fun x read => ?_
    rcases Schema.nullable_eq_ok read with ⟨rfl, none⟩ | ⟨filled, b, some, means⟩
    · rw [none]
      exact iff_of_false (by decide) fun both => both.1 rfl
    · rw [some, and_iff_right filled]
      exact Schema.isTrue_eq_iff means
  · refine Schema.reads_iff Schema.SameNames (fun rules => (rules.map Schema.tableEntries).getD ({} : Settings).rules)
      declares.rules (fun n => Iff.rfl) fun x read => ?_
    rcases Schema.nullable_eq_ok read with ⟨rfl, none⟩ | ⟨filled, table, some, tabled⟩
    · rw [none]
      refine iff_of_false (fun same => ?_) id
      exact List.not_mem_nil ((same _).mpr List.mem_cons_self)
    · rw [Schema.declaredRules, some] at known
      rw [some]
      exact Schema.rulesOf_iff tabled known

-- Null for a text and a word for false, beside keys that are read as they are checked.
def coerced : Entries :=
  [(.text "paths", .list [.text "lib"]), (.text "output", .null), (.text "report", .text "False"),
   (.text "rules", .list [.text "remove_extra_arguments"])]

theorem settings_as_declared_coerced :
    ∃ s, Settings.ofValue (.mapping coerced) = .ok s ∧ s.paths = ["lib"] ∧ s.wanted = ["**/*.py"] ∧
      s.output ≠ "codemend_results" ∧ s.report ≠ false ∧
      ∀ n, n ∈ s.rules.map Prod.fst ↔ n = "remove_extra_arguments" := by
  have valid : Schema.validate (.mapping coerced) =
      .ok ⟨none, some ["lib"], none, none, none, some false, some (.names ["remove_extra_arguments"])⟩ := by cbv
  obtain ⟨es, s, same, read, paths, wanted, -, output, report, rules⟩ := settings_as_declared _ _ valid
  cases same
  refine ⟨s, read, paths.mpr ?_, wanted.mpr ?_, fun agrees => ?_, fun agrees => ?_, fun n => (rules.mpr ?_ n).trans ?_⟩
  · rintro _ ⟨⟩ _ ⟨⟩
    simp
  · rintro _ ⟨⟩
  · obtain ⟨t, text⟩ := output.mp agrees .null rfl
    cases text
  · refine (report.mp agrees (.text "False") rfl).2 ⟨"False", rfl, ?_⟩
    cbv
  · rintro _ ⟨⟩
    simp [Schema.NamedInTexts]
  · simp [Declared.settings, Schema.tableEntries, Schema.enter]

end Config

end Whittle
