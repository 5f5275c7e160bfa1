import Whittle.Proofs.Syntax.Arena

namespace Whittle

namespace Versions

-- Every form is entered under the label that it bears.
def Sound (v : Versions) : Prop := ∀ (l : Nat) (s : Stmt), v[l]? = some s → s.label = some l

theorem sound_empty : Sound {} := by
  intro l s entered
  simp at entered

theorem Sound.enter {v : Versions} (sound : v.Sound) (s : Stmt) : (v.enter s).Sound := by
  intro l x entered
  unfold Versions.enter at entered
  split at entered
  · rename_i k label
    rw [Std.HashMap.getElem?_insert] at entered
    split at entered
    · rename_i same
      cases entered
      rw [label, eq_of_beq same]
    · exact sound l x entered
  · exact sound l x entered

theorem Sound.enters {v : Versions} (sound : v.Sound) (forms : List Stmt) : (forms.foldl Versions.enter v).Sound :=
  List.foldlRecOn forms Versions.enter sound fun _ sound s _ => sound.enter s

theorem Sound.enterAll {v : Versions} (sound : v.Sound) (m : Module) : (v.enterAll m).Sound := by
  unfold Versions.enterAll
  generalize (Node.module m).walk = nodes
  induction nodes generalizing v with
  | nil => exact sound
  | cons n rest ih =>
    rw [List.foldl_cons]
    apply ih
    split
    · exact sound.enter _
    · exact sound

theorem Sound.label_latest {v : Versions} (sound : v.Sound) (s : Stmt) : (v.latest s).label = s.label := by
  unfold latest
  split
  · rename_i l label
    rw [Std.HashMap.getD_eq_getD_getElem?]
    cases entered : v[l]? with
    | none => rfl
    | some form =>
      rw [label]
      exact sound l form entered
  · rfl

theorem label_mapBlocks (f : Block → Id Block) (s : Stmt) : (Id.run (s.mapBlocksM f)).label = s.label := by
  cases s <;> rfl

theorem Sound.label_settle {v : Versions} (sound : v.Sound) (fuel : Nat) (s : Stmt) :
    (v.settle fuel s).label = s.label := by
  cases fuel with
  | zero => exact sound.label_latest s
  | succ fuel =>
    unfold settle
    rw [label_mapBlocks]
    exact sound.label_latest s

-- Steps that leave forms under their labels.
def Keeps {α : Type} (x : StateT Versions Option α) : Prop :=
  ∀ v a v', Sound v → x v = some (a, v') → Sound v'

namespace Keeps

variable {α β : Type}

theorem pure (a : α) : Keeps (Pure.pure a : StateT Versions Option α) := by
  intro v b v' sound made
  cases made
  exact sound

theorem bind {x : StateT Versions Option α} {f : α → StateT Versions Option β} (first : Keeps x)
    (next : ∀ a, Keeps (f a)) : Keeps (x >>= f) := by
  intro v b v' sound made
  obtain ⟨⟨a, u⟩, here, there⟩ := Option.bind_eq_some_iff.mp made
  exact next a u b v' (first v a u sound here) there

theorem mapM {f : α → StateT Versions Option β} (each : ∀ a, Keeps (f a)) (as : List α) : Keeps (as.mapM f) := by
  induction as with
  | nil =>
    rw [List.mapM_nil]
    exact pure _
  | cons a rest ih =>
    rw [List.mapM_cons]
    exact bind (each a) fun b => bind ih fun bs => pure _

theorem mapBlocks {f : Block → StateT Versions Option Block} (each : ∀ b, Keeps (f b)) (s : Stmt) :
    Keeps (s.mapBlocksM f) := by
  cases s with
  | simple l form => exact pure _
  | func l head body => exact bind (each _) fun _ => pure _
  | klass l head body => exact bind (each _) fun _ => pure _
  | ifElse l test body orelse => exact bind (each _) fun _ => bind (each _) fun _ => pure _
  | forLoop l isAsync target iter body orelse => exact bind (each _) fun _ => bind (each _) fun _ => pure _
  | whileLoop l test body orelse => exact bind (each _) fun _ => bind (each _) fun _ => pure _
  | withBlock l isAsync items body => exact bind (each _) fun _ => pure _
  | matchOn l subject cases =>
    refine bind (mapM (fun c => ?_) _) fun _ => pure _
    cases c
    exact bind (each _) fun _ => pure _
  | tryBlock l isStar body handlers orelse finalbody =>
    refine bind (each _) fun _ => bind (mapM (fun h => ?_) _) fun _ => ?_
    · cases h
      exact bind (each _) fun _ => pure _
    · exact bind (each _) fun _ => bind (each _) fun _ => pure _

theorem get : Keeps (MonadState.get : StateT Versions Option Versions) := by
  intro v b v' sound made
  cases made
  exact sound

theorem enter (s : Stmt) : Keeps (modify (·.enter s) : StateT Versions Option PUnit) := by
  intro v b v' sound made
  cases made
  exact sound.enter s

end Keeps

end Versions

theorem Edits.keeps_visitShared (e : Edits) (fuel : Nat) (s : Stmt) : Versions.Keeps (e.visitShared fuel s) := by
  induction fuel generalizing s with
  | zero =>
    intro v b v' sound made
    cases made
  | succ fuel ih =>
    unfold visitShared
    refine Versions.Keeps.get.bind fun v => (Versions.Keeps.mapM ih _).bind fun front => ?_
    split
    · exact .pure _
    · refine (Versions.Keeps.mapBlocks (fun b => ?_) _).bind fun s' => (Versions.Keeps.enter s').bind fun _ => .pure _
      exact (Versions.Keeps.mapM ih b).bind fun _ => .pure _

theorem Edits.sound_applyShared {e : Edits} {v v' : Versions} {m m' : Module} (sound : v.Sound)
    (applied : e.applyShared v m = some (m', v')) : v'.Sound := by
  obtain ⟨⟨blocks, met⟩, visited, filled⟩ := Option.bind_eq_some_iff.mp applied
  cases filled
  exact (Versions.Keeps.mapM (e.keeps_visitShared _) m.body v blocks met sound visited).enterAll _

theorem Edits.isPending_remove (e : Edits) (l : Nat) : (e.remove l).isPending := by
  unfold remove isPending
  split
  · rename_i known
    cases empty : e.removed with
    | nil =>
      rw [empty] at known
      cases known
    | cons => rfl
  · simp

theorem Edits.isPending_insertBefore (e : Edits) (l : Nat) (stmts : Block) : (e.insertBefore l stmts).isPending := by
  unfold insertBefore isPending
  cases e.inserted with
  | nil => simp [extendAt]
  | cons first rest =>
    unfold extendAt
    split <;> simp

namespace Tree

inductive Request where
  | remove (n : Node)
  | insertBefore (stmts : Block) (anchor : Node)
  | look
  | apply

inductive Answer where
  | queued
  | refused (e : EditError)
  | seen (nodes : List Node) (text : Except Render.Fault String)
  | applied (any : Bool)
  | endless

-- The node that an edit concerns.
def Request.target? : Request → Option Node
  | .remove n => some n
  | .insertBefore _ anchor => some anchor
  | .look => none
  | .apply => none

-- What is left behind when the edits have no end: some module, and new forms of some statements.
abbrev Wreck := Tree → Module × List Stmt

def queue (t : Tree) : Except EditError Tree → Answer × Tree
  | .ok t' => (.queued, t')
  | .error e => (.refused e, t)

def ask (wreck : Wreck) (t : Tree) : Request → Answer × Tree
  | .remove n => t.queue (t.remove n)
  | .insertBefore stmts anchor => t.queue (t.insertBefore stmts anchor)
  | .look => (.seen t.walk t.render, t)
  | .apply =>
    match t.apply with
    | some (t', any) => (.applied any, t')
    | none =>
      let (left, forms) := wreck t
      (.endless, { t with module := left, versions := forms.foldl Versions.enter t.versions, sharing := true })

def askAll (wreck : Wreck) (t : Tree) : List Request → List Answer × Tree
  | [] => ([], t)
  | r :: rest =>
    let (answer, t') := t.ask wreck r
    let (answers, last) := t'.askAll wreck rest
    (answer :: answers, last)

-- An edit was queued, and none was applied since.
def Owed (answers : List Answer) : Prop :=
  ∃ front back, answers = front ++ .queued :: back ∧ ∀ any, .applied any ∉ back

section

variable {wreck : Wreck} {t : Tree} {r : Request} {n : Node}

theorem statementLabel_of_other (other : ∀ s, n ≠ .stmt s) :
    t.statementLabel n = .error (.notStatement n.className) := by
  cases n with
  | stmt s => exact absurd rfl (other s)
  | _ => rfl

theorem statementLabel_of_stranger {s : Stmt} (stranger : t.arena.indexOf? (.stmt s) = none) :
    t.statementLabel (.stmt s) = .error .notInTree := by
  cases label : s.label <;> simp only [statementLabel, stranger, label]

theorem statementLabel_of_index {s : Stmt} {i : Nat} (index : t.arena.indexOf? (.stmt s) = some i) :
    ∃ l, t.statementLabel (.stmt s) = .ok l := by
  obtain ⟨k, key, -⟩ := Option.bind_eq_some_iff.mp index
  obtain ⟨l, label, -⟩ := Option.map_eq_some_iff.mp key
  exact ⟨l, by simp only [statementLabel, show s.label = some l from label, index]⟩

theorem ask_of_error {e : EditError} (target : r.target? = some n) (error : t.statementLabel n = .error e) :
    t.ask wreck r = (.refused e, t) := by
  cases r with
  | remove =>
    cases target
    simp only [ask, remove, error]
    rfl
  | insertBefore =>
    cases target
    simp only [ask, insertBefore, error]
    rfl
  | look => cases target
  | apply => cases target

theorem ask_of_label (wreck : Wreck) {l : Nat} (target : r.target? = some n) (label : t.statementLabel n = .ok l) :
    ∃ edits : Edits, edits.isPending ∧ t.ask wreck r = (.queued, { t with edits := edits }) := by
  cases r with
  | remove =>
    cases target
    refine ⟨t.edits.remove l, t.edits.isPending_remove l, ?_⟩
    simp only [ask, remove, label]
    rfl
  | insertBefore stmts =>
    cases target
    refine ⟨t.edits.insertBefore l stmts, t.edits.isPending_insertBefore l stmts, ?_⟩
    simp only [ask, insertBefore, label]
    rfl
  | look => cases target
  | apply => cases target

theorem apply_cases {t' : Tree} {any : Bool} (applied : t.apply = some (t', any)) :
    t'.arena = t.arena ∧ any = t.isPending ∧ t'.isPending = false ∧ (t.versions.Sound → t'.versions.Sound) := by
  unfold apply at applied
  split at applied
  · rename_i idle
    cases applied
    rw [Bool.not_eq_true'] at idle
    exact ⟨rfl, idle.symm, idle, id⟩
  · rename_i busy
    rw [Bool.not_eq_true, Bool.not_eq_false'] at busy
    split at applied
    · obtain ⟨m, -, made⟩ := Option.map_eq_some_iff.mp applied
      cases made
      exact ⟨rfl, busy.symm, rfl, fun sound => sound.enterAll m⟩
    · obtain ⟨⟨m, versions⟩, shared, made⟩ := Option.map_eq_some_iff.mp applied
      cases made
      exact ⟨rfl, busy.symm, rfl, fun sound => Edits.sound_applyShared sound shared⟩

-- All that one request can do.
inductive Asked (t : Tree) (r : Request) : Answer × Tree → Prop
  | refused (e : EditError) : Asked t r (.refused e, t)
  | queued (edits : Edits) : edits.isPending → Asked t r (.queued, { t with edits := edits })
  | seen : Asked t r (.seen t.walk t.render, t)
  | applied (t' : Tree) : r = .apply → t.apply = some (t', t.isPending) → Asked t r (.applied t.isPending, t')
  | endless (left : Module) (forms : List Stmt) : r = .apply →
    Asked t r (.endless, { t with module := left, versions := forms.foldl Versions.enter t.versions, sharing := true })

theorem asked_ask (wreck : Wreck) (t : Tree) (r : Request) : t.Asked r (t.ask wreck r) := by
  have edit : ∀ n, r.target? = some n → t.Asked r (t.ask wreck r) := by
    intro n target
    cases label : t.statementLabel n with
    | error e =>
      rw [ask_of_error target label]
      exact .refused e
    | ok l =>
      obtain ⟨edits, pending, asked⟩ := ask_of_label wreck target label
      rw [asked]
      exact .queued edits pending
  cases r with
  | remove n => exact edit n rfl
  | insertBefore stmts anchor => exact edit anchor rfl
  | look => exact .seen
  | apply =>
    cases applied : t.apply with
    | none =>
      simp only [ask, applied]
      exact .endless _ _ rfl
    | some result =>
      obtain ⟨t', any⟩ := result
      obtain rfl := (apply_cases applied).2.1
      simp only [ask, applied]
      exact .applied t' rfl applied

end

-- What holds of a tree that grew out of another by requests with these answers.
structure Descends (start : Tree) (answers : List Answer) (t : Tree) : Prop where
  arena : t.arena = start.arena
  sound : t.versions.Sound
  pending : t.isPending ↔ Owed answers

theorem owed_queued (answers : List Answer) : Owed (answers ++ [.queued]) :=
  ⟨answers, [], rfl, fun _ => List.not_mem_nil⟩

theorem not_owed_applied (answers : List Answer) (any : Bool) : ¬Owed (answers ++ [.applied any]) := by
  rintro ⟨front, back, split, none⟩
  rcases back.eq_nil_or_concat with rfl | ⟨inner, last, rfl⟩
  · have same := List.append_inj_right' split rfl
    cases same
  · rw [List.concat_eq_append, ← List.cons_append, ← List.append_assoc] at split
    have same := List.append_inj_right' split rfl
    cases same
    exact none any (by simp)

theorem owed_snoc {answers : List Answer} {a : Answer} (unqueued : a ≠ .queued) (unapplied : ∀ any, a ≠ .applied any) :
    Owed (answers ++ [a]) ↔ Owed answers := by
  constructor
  · rintro ⟨front, back, split, none⟩
    rcases back.eq_nil_or_concat with rfl | ⟨inner, last, rfl⟩
    · have same := List.append_inj_right' split rfl
      cases same
      exact absurd rfl unqueued
    · rw [List.concat_eq_append, ← List.cons_append, ← List.append_assoc] at split
      refine ⟨front, inner, List.append_inj_left' split rfl, fun any member => none any ?_⟩
      rw [List.concat_eq_append]
      exact List.mem_append_left _ member
  · rintro ⟨front, back, rfl, none⟩
    refine ⟨front, back ++ [a], by simp, fun any member => ?_⟩
    rcases List.mem_append.mp member with inside | last
    · exact none any inside
    · exact unapplied any (List.mem_singleton.mp last).symm

theorem pending_iff_snoc {answers : List Answer} {a : Answer} {t : Tree} (pending : t.isPending ↔ Owed answers)
    (unqueued : a ≠ .queued) (unapplied : ∀ any, a ≠ .applied any) : t.isPending ↔ Owed (answers ++ [a]) :=
  pending.trans (owed_snoc unqueued unapplied).symm

theorem Descends.ask {start t : Tree} {answers : List Answer} (descends : start.Descends answers t) (wreck : Wreck)
    (r : Request) : start.Descends (answers ++ [(t.ask wreck r).1]) (t.ask wreck r).2 := by
  obtain ⟨arena, sound, pending⟩ := descends
  have asked := asked_ask wreck t r
  generalize t.ask wreck r = result at asked
  cases asked with
  | refused e => exact ⟨arena, sound, pending_iff_snoc pending nofun nofun⟩
  | queued edits waits => exact ⟨arena, sound, iff_of_true waits (owed_queued _)⟩
  | seen => exact ⟨arena, sound, pending_iff_snoc pending nofun nofun⟩
  | applied t' _ applied =>
    obtain ⟨same, -, idle, stays⟩ := apply_cases applied
    refine ⟨same.trans arena, stays sound, iff_of_false ?_ (not_owed_applied _ _)⟩
    rw [idle]
    exact Bool.false_ne_true
  | endless left forms =>
    exact ⟨arena, sound.enters forms, pending_iff_snoc pending nofun nofun⟩

theorem Descends.askAll {start t : Tree} {past : List Answer} (descends : start.Descends past t) (wreck : Wreck)
    (requests : List Request) :
    start.Descends (past ++ (t.askAll wreck requests).1) (t.askAll wreck requests).2 := by
  induction requests generalizing t past with
  | nil =>
    rw [Tree.askAll, List.append_nil]
    exact descends
  | cons r rest ih =>
    have later := ih (descends.ask wreck r)
    rw [List.append_assoc] at later
    exact later

theorem descends_ofModule (m : Module) : (ofModule m).Descends [] (ofModule m) := by
  refine ⟨rfl, Versions.sound_empty, iff_of_false Bool.false_ne_true ?_⟩
  rintro ⟨front, back, split, -⟩
  simp at split

-- Without an application the module stays, and so does all that is seen of it.
theorem module_askAll {requests : List Request} (waiting : .apply ∉ requests) (wreck : Wreck) (t : Tree) :
    (t.askAll wreck requests).2.module = t.module ∧
      ∀ nodes text, .seen nodes text ∈ (t.askAll wreck requests).1 → nodes = t.walk ∧ text = t.render := by
  induction requests generalizing t with
  | nil => exact ⟨rfl, fun nodes text member => by cases member⟩
  | cons r rest ih =>
    obtain ⟨other, later⟩ := not_or.mp (List.mem_cons.not.mp waiting)
    have step : (t.ask wreck r).2.module = t.module ∧
        ∀ nodes text, .seen nodes text = (t.ask wreck r).1 → nodes = t.walk ∧ text = t.render := by
      have asked := asked_ask wreck t r
      generalize t.ask wreck r = result at asked
      cases asked with
      | refused e => exact ⟨rfl, nofun⟩
      | queued edits => exact ⟨rfl, nofun⟩
      | seen =>
        refine ⟨rfl, fun nodes text same => ?_⟩
        cases same
        exact ⟨rfl, rfl⟩
      | applied t' apply => exact absurd apply.symm other
      | endless left forms apply => exact absurd apply.symm other
    obtain ⟨module, seen⟩ := ih later (t.ask wreck r).2
    refine ⟨module.trans step.1, fun nodes text member => ?_⟩
    rcases List.mem_cons.mp member with here | there
    · exact step.2 nodes text here
    · have same := seen nodes text there
      rw [walk, render, step.1] at same
      exact same

-- A node keeps its key in every form that it takes.
theorem key_node {t : Tree} (sound : t.versions.Sound) {i : Nat} {n : Node} (now : t.node? i = some n) :
    ∃ x, t.arena.nodes[i]? = some x ∧ x.key? = n.key? := by
  obtain ⟨x, there, form⟩ := Option.map_eq_some_iff.mp now
  refine ⟨x, there, ?_⟩
  subst form
  cases x with
  | stmt s =>
    have label := sound.label_settle (s.size + t.versions.size) s
    simp [Node.key?, Node.label, label]
  | _ => rfl

-- What a tree owes to those who ask, given the answers up to now.
structure Defers (wreck : Wreck) (start : Tree) (requests : List Request) (answers : List Answer) (now : Tree) :
    Prop where
  -- Nothing shows before an application.
  hidden : .apply ∉ requests → now.walk = start.walk ∧ now.render = start.render ∧
    ∀ nodes text, .seen nodes text ∈ answers → nodes = start.walk ∧ text = start.render
  -- An edit is queued if it concerns a statement of the tree, and leaves no trace otherwise.
  other : ∀ r n, r.target? = some n → (∀ s, n ≠ .stmt s) →
    now.ask wreck r = (.refused (.notStatement n.className), now)
  stranger : ∀ r s, r.target? = some (.stmt s) → start.arena.indexOf? (.stmt s) = none →
    now.ask wreck r = (.refused .notInTree, now)
  queued : ∀ r s i, r.target? = some (.stmt s) → start.arena.indexOf? (.stmt s) = some i →
    ∃ edits : Edits, edits.isPending ∧ now.ask wreck r = (.queued, { now with edits := edits })
  -- An application that ends tells whether edits were queued since the last one that did.
  applied : ∀ any after, now.ask wreck .apply = (.applied any, after) →
    (any ↔ Owed answers) ∧ after.isPending = false
  -- The node at an index may take other forms, but is found at the index in all of them.
  index : ∀ i n, now.node? i = some n → now.arena.indexOf? n = some i
  stands : ∀ i, (now.node? i).isSome = (start.node? i).isSome
  indices : ∀ n, now.arena.indexOf? n = start.arena.indexOf? n
  parent : ∀ i, now.arena.parentOf? i = start.arena.parentOf? i

-- Edits wait until they are applied, a refused edit leaves no trace, and a node keeps its index and its parent
-- whatever the edits make of it.
theorem defers_askAll (m : Module) (wreck : Wreck) (requests : List Request) :
    Defers wreck (ofModule m) requests ((ofModule m).askAll wreck requests).1
      ((ofModule m).askAll wreck requests).2 := by
  have unseen := fun waiting : .apply ∉ requests => module_askAll waiting wreck (ofModule m)
  have descends := (descends_ofModule m).askAll wreck requests
  generalize (ofModule m).askAll wreck requests = result at unseen descends ⊢
  obtain ⟨answers, now⟩ := result
  obtain ⟨arena, sound, pending⟩ := descends
  constructor
  case hidden =>
    intro waiting
    obtain ⟨module, seen⟩ := unseen waiting
    refine ⟨?_, ?_, seen⟩
    · rw [walk, module, walk]
    · rw [render, module, render]
  case other =>
    intro r n target other
    exact ask_of_error target (statementLabel_of_other other)
  case stranger =>
    intro r s target stranger
    rw [← arena] at stranger
    exact ask_of_error target (statementLabel_of_stranger stranger)
  case queued =>
    intro r s i target index
    rw [← arena] at index
    obtain ⟨l, label⟩ := statementLabel_of_index index
    exact ask_of_label wreck target label
  case applied =>
    intro any after asked
    have shape := asked_ask wreck now .apply
    rw [asked] at shape
    cases shape with
    | applied _ _ applied => exact ⟨pending, (apply_cases applied).2.2.1⟩
  case index =>
    intro i n there
    obtain ⟨x, first, key⟩ := key_node sound there
    rw [arena] at first ⊢
    exact ((Arena.indexes_ofModule m).index_iff n i).mpr ⟨x, first, key⟩
  case stands =>
    intro i
    rw [node?, node?, arena, Option.isSome_map, Option.isSome_map]
  case indices =>
    intro n
    rw [arena]
  case parent =>
    intro i
    rw [arena]

end Tree

end Whittle
