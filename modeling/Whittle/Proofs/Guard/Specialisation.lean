import Whittle.Proofs.Guard.Agreement
import Whittle.Proofs.Guard.Rewriting

namespace Whittle

section Composition

variable (v w : Verdicts)

mutual

-- Whether pruning by `v` leaves a condition of which `w` knows something without the alternative that it had.
def Stmt.exposes : Stmt → Bool
  | .simple .. => false
  | .func _ _ body => exposesBlock body
  | .klass _ _ body => exposesBlock body
  | .ifElse _ test body orelse =>
    match v.decide test orelse with
    | some true => exposesBlock body
    | some false => false
    | none =>
      (!orelse.isEmpty && (pruneBlock v orelse).isEmpty && (w test).isSome) || exposesBlock body || exposesBlock orelse
  | .forLoop _ _ _ _ body orelse => exposesBlock body || exposesBlock orelse
  | .whileLoop _ _ body orelse => exposesBlock body || exposesBlock orelse
  | .withBlock _ _ _ body => exposesBlock body
  | .matchOn _ _ cases => exposesCases cases
  | .tryBlock _ _ body handlers orelse finalbody =>
    exposesBlock body || exposesHandlers handlers || exposesBlock orelse || exposesBlock finalbody

def exposesBlock : List Stmt → Bool
  | [] => false
  | s :: rest => s.exposes || exposesBlock rest

def exposesHandlers : List Handler → Bool
  | [] => false
  | .mk _ _ _ body :: rest => exposesBlock body || exposesHandlers rest

def exposesCases : List MatchCase → Bool
  | [] => false
  | .mk _ _ _ body :: rest => exposesBlock body || exposesCases rest

end

def Module.exposes (m : Module) : Bool := exposesBlock v w m.body

-- What `v` decides of the conditions at and below a statement, `w` decides alike.
def Stmt.Concur (s : Stmt) : Prop :=
  ∀ l test body orelse, .stmt (.ifElse l test body orelse) ∈ (Node.stmt s).walk → ∀ isNew,
    v.decide test orelse = some isNew → w test = some isNew

variable {v w}

theorem Stmt.Concur.below {s t : Stmt} (concur : s.Concur v w) {b : Block} (block : b ∈ s.blocks) (member : t ∈ b) :
    t.Concur v w := by
  intro l test body orelse inside
  exact concur l test body orelse (mem_walk_iff.mpr (.inr ⟨b, block, t, member, inside⟩))

theorem exposesBlock_eq_false_iff (b : Block) : exposesBlock v w b = false ↔ ∀ s ∈ b, s.exposes v w = false := by
  induction b with
  | nil => simp [exposesBlock]
  | cons s rest ih => simp [exposesBlock, ih]

theorem exposesHandlers_eq_false_iff (hs : List Handler) :
    exposesHandlers v w hs = false ↔ ∀ h ∈ hs, exposesBlock v w h.body = false := by
  induction hs with
  | nil => simp [exposesHandlers]
  | cons h rest ih => cases h; simp [exposesHandlers, ih, Handler.body]

theorem exposesCases_eq_false_iff (cs : List MatchCase) :
    exposesCases v w cs = false ↔ ∀ c ∈ cs, exposesBlock v w c.body = false := by
  induction cs with
  | nil => simp [exposesCases]
  | cons c rest ih => cases c; simp [exposesCases, ih, MatchCase.body]

-- Of an undecided statement that exposes nothing, no block does.
theorem Stmt.blocks_of_kept {s : Stmt} (undecided : s.verdict? v = none) (kept : s.exposes v w = false) :
    ∀ b ∈ s.blocks, exposesBlock v w b = false := by
  cases s with
  | ifElse l test body orelse =>
    change v.decide test orelse = none at undecided
    simp [exposes, undecided] at kept
    simp [blocks, kept]
  | matchOn l subject cases =>
    rw [exposes, exposesCases_eq_false_iff] at kept
    simpa [blocks] using kept
  | tryBlock l isStar body handlers orelse finalbody =>
    simp only [exposes, Bool.or_eq_false_iff, exposesHandlers_eq_false_iff] at kept
    simp [blocks]
    grind
  | _ => simp_all [exposes, blocks]

theorem Verdicts.decide_pruned {l : Label} {test : Expr} {body orelse : Block}
    (undecided : v.decide test orelse = none) (kept : (Stmt.ifElse l test body orelse).exposes v w = false) :
    w.decide test (pruneBlock v orelse) = w.decide test orelse := by
  simp [Stmt.exposes, undecided] at kept
  cases orelse with
  | nil => rfl
  | cons s rest =>
    cases emptied : pruneBlock v (s :: rest) with
    | nil => simpa [decide] using kept.1.1 (List.cons_ne_nil _ _) emptied
    | cons => rfl

-- The induction is on the size, through the blocks.
theorem Stmt.prune_prune {s : Stmt} (concur : s.Concur v w) (kept : s.exposes v w = false) :
    pruneBlock w (s.prune v) = s.prune w := by
  induction size : s.size using Nat.strongRecOn generalizing s with
  | ind n ih =>
    subst size
    have below : ∀ b ∈ s.blocks, exposesBlock v w b = false → pruneBlock w (pruneBlock v b) = pruneBlock w b := by
      intro b block calm
      rw [pruneBlock_eq v b, pruneBlock_eq w (List.flatMap _ b), List.flatMap_assoc, pruneBlock_eq w b]
      refine List.flatMap_congr fun t member => ?_
      rw [← pruneBlock_eq]
      exact ih _ (below_of_mem_blocks block member).2 (concur.below block member)
        ((exposesBlock_eq_false_iff b).mp calm t member) rfl
    cases s with
    | ifElse l test body orelse =>
      cases decided : v.decide test orelse with
      | none =>
        have blocks := blocks_of_kept (s := .ifElse l test body orelse) decided kept
        simp only [prune, decided, pruneBlock, List.append_nil, Verdicts.decide_pruned decided kept,
          below body (by simp [Stmt.blocks]) (blocks body (by simp [Stmt.blocks])),
          below orelse (by simp [Stmt.blocks]) (blocks orelse (by simp [Stmt.blocks]))]
      | some isNew =>
        obtain ⟨rfl, -⟩ := Verdicts.decide_of_some decided
        have known : w.decide test [] = some isNew := concur l test body [] (Node.self_mem_walk _) isNew decided
        cases isNew with
        | false => simp only [prune, decided, known, pruneBlock]
        | true =>
          simp only [exposes, decided] at kept
          simp only [prune, decided, known, below body (by simp [Stmt.blocks]) kept]
    | _ =>
      have blocks := blocks_of_kept rfl kept
      rw [prune_of_undecided rfl, prune_of_undecided rfl, pruneBlock, pruneBlock, prune_of_undecided rfl,
        mapBlocks_mapBlocks, mapBlocks_congr fun b block => below b block (blocks b block)]
      rfl

end Composition

def Stmt.isFiller : Stmt → Bool
  | .simple none .pass => true
  | _ => false

mutual

-- Takes away what was added to blocks that would be empty.
def Stmt.strip : Stmt → Stmt
  | .simple l s => .simple l s
  | .func l head body => .func l head (stripBlock body)
  | .klass l head body => .klass l head (stripBlock body)
  | .ifElse l test body orelse => .ifElse l test (stripBlock body) (stripBlock orelse)
  | .forLoop l isAsync target iter body orelse =>
    .forLoop l isAsync target iter (stripBlock body) (stripBlock orelse)
  | .whileLoop l test body orelse => .whileLoop l test (stripBlock body) (stripBlock orelse)
  | .withBlock l isAsync items body => .withBlock l isAsync items (stripBlock body)
  | .matchOn l subject cases => .matchOn l subject (stripCases cases)
  | .tryBlock l isStar body handlers orelse finalbody =>
    .tryBlock l isStar (stripBlock body) (stripHandlers handlers) (stripBlock orelse) (stripBlock finalbody)

def stripBlock : List Stmt → List Stmt
  | [] => []
  | s :: rest => if s.isFiller then stripBlock rest else s.strip :: stripBlock rest

def stripHandlers : List Handler → List Handler
  | [] => []
  | .mk l type name body :: rest => .mk l type name (stripBlock body) :: stripHandlers rest

def stripCases : List MatchCase → List MatchCase
  | [] => []
  | .mk l p guard body :: rest => .mk l p guard (stripBlock body) :: stripCases rest

end

def Module.strip (m : Module) : Module := ⟨stripBlock m.body⟩

section Strip

variable (w : Verdicts)

theorem stripBlock_append (front back : Block) : stripBlock (front ++ back) = stripBlock front ++ stripBlock back := by
  induction front with
  | nil => rfl
  | cons s rest ih =>
    simp only [List.cons_append, stripBlock, ih]
    split <;> rfl

theorem strip_prune_required (b : Block) : stripBlock (pruneBlock w (required b)) = stripBlock (pruneBlock w b) := by
  cases b <;> rfl

theorem isEmpty_fillBlock (b : Block) : (fillBlock b).isEmpty = b.isEmpty := by
  cases b <;> rfl

-- What fills a block is a statement of its own, so pruning keeps it and nothing else comes of it.
mutual

theorem Stmt.strip_prune_fill (s : Stmt) : stripBlock (s.fill.prune w) = stripBlock (s.prune w) := by
  match s with
  | .simple .. => rfl
  | .ifElse l test body orelse =>
    have same : w.decide test (fillBlock orelse) = w.decide test orelse := by
      rw [Verdicts.decide, Verdicts.decide, isEmpty_fillBlock]
    rw [Stmt.fill, Stmt.prune, Stmt.prune, same]
    cases w.decide test orelse with
    | none =>
      simp only [stripBlock, Stmt.isFiller, Bool.false_eq_true, if_false, Stmt.strip, strip_prune_required,
        strip_prune_fillBlock body, strip_prune_fillBlock orelse]
    | some isNew =>
      cases isNew with
      | false => rfl
      | true => exact (strip_prune_required w _).trans (strip_prune_fillBlock body)
  | .tryBlock l isStar body handlers orelse finalbody =>
    have final : stripBlock (pruneBlock w (if handlers.isEmpty then required (fillBlock finalbody) else
        fillBlock finalbody)) = stripBlock (pruneBlock w finalbody) := by
      split
      · rw [strip_prune_required, strip_prune_fillBlock finalbody]
      · exact strip_prune_fillBlock finalbody
    simp only [Stmt.fill, Stmt.prune, stripBlock, Stmt.isFiller, Bool.false_eq_true, if_false, Stmt.strip,
      strip_prune_required, strip_prune_fillBlock body, strip_prune_fillHandlers handlers, strip_prune_fillBlock orelse,
      final]
  | .func l head body | .klass l head body | .withBlock l _ _ body =>
    simp only [Stmt.fill, Stmt.prune, stripBlock, Stmt.isFiller, Bool.false_eq_true, if_false, Stmt.strip,
      strip_prune_required, strip_prune_fillBlock body]
  | .forLoop l _ _ _ body orelse | .whileLoop l _ body orelse =>
    simp only [Stmt.fill, Stmt.prune, stripBlock, Stmt.isFiller, Bool.false_eq_true, if_false, Stmt.strip,
      strip_prune_required, strip_prune_fillBlock body, strip_prune_fillBlock orelse]
  | .matchOn l subject cases =>
    simp only [Stmt.fill, Stmt.prune, stripBlock, Stmt.isFiller, Bool.false_eq_true, if_false, Stmt.strip,
      strip_prune_fillCases cases]

theorem strip_prune_fillBlock (b : List Stmt) :
    stripBlock (pruneBlock w (fillBlock b)) = stripBlock (pruneBlock w b) := by
  match b with
  | [] => rfl
  | s :: rest =>
    rw [fillBlock, pruneBlock, pruneBlock, stripBlock_append, stripBlock_append, s.strip_prune_fill,
      strip_prune_fillBlock rest]

theorem strip_prune_fillHandlers (hs : List Handler) :
    stripHandlers (pruneHandlers w (fillHandlers hs)) = stripHandlers (pruneHandlers w hs) := by
  match hs with
  | [] => rfl
  | .mk l type name body :: rest =>
    simp only [fillHandlers, pruneHandlers, stripHandlers, strip_prune_required, strip_prune_fillBlock body,
      strip_prune_fillHandlers rest]

theorem strip_prune_fillCases (cs : List MatchCase) :
    stripCases (pruneCases w (fillCases cs)) = stripCases (pruneCases w cs) := by
  match cs with
  | [] => rfl
  | .mk l p guard body :: rest =>
    simp only [fillCases, pruneCases, stripCases, strip_prune_required, strip_prune_fillBlock body,
      strip_prune_fillCases rest]

end

theorem stripHandlers_eq (hs : List Handler) : stripHandlers hs = hs.map (Handler.mapBody stripBlock) := by
  induction hs with
  | nil => rfl
  | cons h rest ih => cases h; rw [stripHandlers, ih, List.map_cons, Handler.mapBody]

theorem stripCases_eq (cs : List MatchCase) : stripCases cs = cs.map (MatchCase.mapBody stripBlock) := by
  induction cs with
  | nil => rfl
  | cons c rest ih => cases c; rw [stripCases, ih, List.map_cons, MatchCase.mapBody]

theorem Stmt.strip_eq (s : Stmt) : s.strip = s.mapBlocks stripBlock := by
  cases s <;> simp only [strip, mapBlocks, stripHandlers_eq, stripCases_eq]

theorem Stmt.isFiller_mapBlocks (f : Block → Block) (s : Stmt) : (s.mapBlocks f).isFiller = s.isFiller := by
  cases s <;> rfl

variable {w}

theorem stripBlock_pruneBlock {b : Block} (each : ∀ t ∈ b, stripBlock (t.prune w) = t.prune w) :
    stripBlock (pruneBlock w b) = pruneBlock w b := by
  induction b with
  | nil => rfl
  | cons t rest ih =>
    rw [pruneBlock, stripBlock_append, each t List.mem_cons_self,
      ih fun u later => each u (List.mem_cons_of_mem _ later)]

theorem Stmt.strip_prune {s : Stmt} (own : ∀ t, .stmt t ∈ (Node.stmt s).walk → t.isFiller = false) :
    stripBlock (s.prune w) = s.prune w := by
  induction size : s.size using Nat.strongRecOn generalizing s with
  | ind n ih =>
    subst size
    have below : ∀ b ∈ s.blocks, ∀ t ∈ b, stripBlock (t.prune w) = t.prune w := by
      intro b block t member
      refine ih _ (below_of_mem_blocks block member).2 (fun u deeper => own u ?_) rfl
      exact mem_walk_iff.mpr (.inr ⟨b, block, t, member, deeper⟩)
    cases verdict : s.verdict? w with
    | none =>
      have plain : (s.mapBlocks (pruneBlock w)).isFiller = false := by
        rw [isFiller_mapBlocks, own s (Node.self_mem_walk _)]
      have same := mapBlocks_congr fun b block => stripBlock_pruneBlock (below b block)
      rw [prune_of_undecided verdict, stripBlock, plain, strip_eq, mapBlocks_mapBlocks, same]
      rfl
    | some isNew =>
      rw [prune_of_decided (by simp [verdict])]
      refine stripBlock_pruneBlock fun t member => ?_
      obtain ⟨b, block, member⟩ := mem_blocks_of_hoisted member
      exact below b block t member

end Strip

theorem Module.isFiller_eq_false {m : Module} (numbered : none ∉ m.labels) {s : Stmt}
    (member : .stmt s ∈ (Node.module m).walk) : s.isFiller = false := by
  have listed : s.label ∈ m.labels :=
    (Node.module m).walk_labels.subset (List.mem_flatMap.mpr ⟨_, member, List.mem_singleton.mpr rfl⟩)
  unfold Stmt.isFiller
  split
  · exact absurd listed numbered
  · rfl

theorem Module.strip_prune (w : Verdicts) {m : Module} (numbered : none ∉ m.labels) :
    (m.prune w).strip = m.prune w := by
  refine congrArg Module.mk (stripBlock_pruneBlock fun s member => Stmt.strip_prune fun t inside => ?_)
  exact isFiller_eq_false numbered (mem_walk_iff.mpr ⟨s, member, inside⟩)

theorem Module.none_notMem_labels (m : Module) : none ∉ m.number.labels := by
  intro member
  obtain ⟨n, same, -⟩ := (labels_numberBlock m.body 0).1.le member
  cases same

-- The fillers that the first pruning calls for go away again.
theorem Module.strip_prune_fill (v w : Verdicts) (m : Module) :
    ((m.number.prune v).fill.prune w).strip = (m.number.prune v).prune w := by
  have numbered : none ∉ (m.number.prune v).labels :=
    fun member => m.none_notMem_labels ((labels_pruneBlock v m.number.body).subset member)
  calc ((m.number.prune v).fill.prune w).strip
    _ = ((m.number.prune v).prune w).strip := congrArg Module.mk (strip_prune_fillBlock w _)
    _ = (m.number.prune v).prune w := strip_prune w numbered

theorem Module.prune_prune_iff (v w : Verdicts) (m : Module) :
    (m.number.prune v).prune w = m.number.prune w ↔ m.number.agrees v w := by
  rw [prune, prune, prune, Module.mk.injEq, pruneBlock_pruneBlock_iff _ m.labels_number_nodup, agrees]

theorem Module.prune_prune {v w : Verdicts} {m : Module} (concur : ∀ s ∈ m.body, s.Concur v w)
    (kept : m.exposes v w = false) : (m.prune v).prune w = m.prune w := by
  refine congrArg Module.mk ?_
  rw [prune, pruneBlock_eq v, pruneBlock_eq w (List.flatMap _ _), List.flatMap_assoc, pruneBlock_eq w]
  refine List.flatMap_congr fun s member => ?_
  rw [← pruneBlock_eq]
  exact Stmt.prune_prune (concur s member) ((exposesBlock_eq_false_iff m.body).mp kept s member)

namespace Comparison

-- Whether the version is new enough for the answer that new versions give.
def isPast (version : Int) : Comparison → Bool
  | .below n | .atLeast n => n ≤ version
  | .above n | .atMost n => n < version

theorem isTrue_eq_asksNew_iff (version : Int) (c : Comparison) : c.isTrue version = c.asksNew ↔ c.isPast version := by
  cases c <;> simp [isTrue, asksNew, isPast]

end Comparison

theorem Verdicts.ofVersion_of_past {constant : String} {target version : Int} {test : Expr} {isNew : Bool}
    (past : ∀ c, Comparison.of? constant test = some c → target ≤ c.literal → c.isPast version)
    (decided : Verdicts.ofTarget constant target test = some isNew) :
    Verdicts.ofVersion constant version test = some isNew := by
  obtain ⟨c, compares, answer⟩ := Option.bind_eq_some_iff.mp decided
  split at answer
  · rename_i reached
    have same := (c.isTrue_eq_asksNew_iff version).mpr (past c compares reached)
    rw [ofVersion, compares, Option.map_some, same, answer]
  · cases answer

-- Whether the version has passed every literal that the target decides by.
def Module.hasPassed (constant : String) (target version : Int) (m : Module) : Bool :=
  (Node.module m).walk.all fun
    | .stmt (.ifElse _ test _ []) =>
      (Comparison.of? constant test).all fun c => !decide (target ≤ c.literal) || c.isPast version
    | _ => true

theorem Module.concur_of_passed {constant : String} {target version : Int} {m : Module}
    (passed : m.hasPassed constant target version) :
    ∀ s ∈ m.body, s.Concur (.ofTarget constant target) (.ofVersion constant version) := by
  intro s member l test body orelse inside isNew decided
  obtain ⟨rfl, known⟩ := Verdicts.decide_of_some decided
  refine Verdicts.ofVersion_of_past (fun c compares reached => ?_) known
  have here := List.all_eq_true.mp passed _ (mem_walk_iff.mpr ⟨s, member, inside⟩)
  simpa [compares, reached] using here

theorem Expr.chain_number (e : Expr) (k : Nat) : (e.number k).1.chain? = e.chain? := by
  fun_induction Expr.chain? e generalizing k with
  | case1 => rfl
  | case2 l value attr ctx ih =>
    simp only [Expr.number, bind_at, pure_at, chain?, ih]
  | case3 e unnamed noAttribute =>
    cases e with
    | name => exact absurd rfl (unnamed _ _ _)
    | «attribute» => exact absurd rfl (noAttribute _ _ _ _)
    | _ => rfl

theorem Expr.dottedName_number (e : Expr) (k : Nat) : (e.number k).1.dottedName? = e.dottedName? := by
  rw [dottedName?, dottedName?, chain_number]

theorem Expr.integer_number (e : Expr) (k : Nat) : (e.number k).1.integer? = e.integer? := by
  cases e with
  | constant l value => cases value <;> rfl
  | _ => rfl

theorem Comparison.of_number (constant : String) (e : Expr) (k : Nat) :
    of? constant (e.number k).1 = of? constant e := by
  cases e with
  | compare l left ops comparators =>
    match ops, comparators with
    | [op], [right] =>
      simp only [Expr.number, numberExprs, bind_at, pure_at, of?, Expr.dottedName_number, Expr.integer_number]
    | [], [] | [], _ :: _ | _ :: _ :: _, [] | [_], [] | _ :: _ :: _, _ :: _ | [_], _ :: _ :: _ => rfl
  | _ => rfl

-- The version decides as the target does exactly when it is past the literal.
theorem Module.agrees_single_iff {constant : String} {target version : Int} {l : Label} {test : Expr} {k : Label}
    {form : Simple} {c : Comparison} (compares : Comparison.of? constant test = some c) (reached : target ≤ c.literal) :
    (Module.mk [.ifElse l test [.simple k form] []]).agrees (.ofTarget constant target) (.ofVersion constant version) ↔
      c.isPast version := by
  have known : Verdicts.ofTarget constant target test = some c.asksNew := by
    simp [Verdicts.ofTarget, compares, reached]
  have running : Verdicts.ofVersion constant version test = some (c.isTrue version) := by
    simp [Verdicts.ofVersion, compares]
  rw [← c.isTrue_eq_asksNew_iff version]
  cases isNew : c.asksNew <;> cases isTrue : c.isTrue version <;>
    simp [agrees, agreesBlock, Stmt.agrees, Verdicts.decide, known, running, isNew, isTrue, pruneBlock, Stmt.prune]

namespace Engine

-- The same statements are left exactly where target and version agree. A version that has not passed a literal of the
-- target need not: there the target decides too early.
theorem specialised_alike (constant : String) (target version : Int) (known : Option Value) (changes : Nat)
    (ambient : Ambient) :
    let e := onGuards constant target known changes ambient
    let early := Verdicts.ofTarget constant target
    let running := Verdicts.ofVersion constant version
    (∀ m : Module, ∃ rewritten, finish m.number (e.inspect m.number).draft = .ok rewritten ∧
      ((rewritten.prune running).strip = m.number.prune running ↔ m.number.agrees early running)) ∧
    (∀ m : Module, m.number.hasPassed constant target version → m.number.exposes early running = false →
      m.number.agrees early running) ∧
    ∀ (l k : Label) (test : Expr) (form : Simple) (c : Comparison),
      Comparison.of? constant test = some c → target ≤ c.literal →
      ((Module.mk [.ifElse l test [.simple k form] []]).number.agrees early running ↔ c.isPast version) := by
  intro e early running
  refine ⟨fun m => ?_, fun m passed kept => ?_, fun l k test form c compares reached => ?_⟩
  · refine ⟨_, finish_onGuards constant target known changes ambient m, ?_⟩
    rw [Module.strip_prune_fill, Module.prune_prune_iff]
  · exact (Module.prune_prune_iff early running m).mp (Module.prune_prune (Module.concur_of_passed passed) kept)
  · exact Module.agrees_single_iff ((Comparison.of_number constant test 1).trans compares) reached

theorem specialised_alike_later :
    let mention := Expr.name none "V" .load
    let newer := Expr.compare none mention [.gtE] [.constant none (.int 30900)]
    let older := Expr.compare none mention [.lt] [.constant none (.int 30900)]
    let nested : Module :=
      ⟨[.ifElse none newer
        [.ifElse none mention [.simple none .breakLoop] [.ifElse none older [.simple none .pass] []]] []]⟩
    let single : Module := ⟨[.ifElse none older [.simple none .pass] []]⟩
    let e := onGuards "V" 30800 none 0 ⟨.ok .null, 0⟩
    (∃ rewritten, finish nested.number (e.inspect nested.number).draft = .ok rewritten ∧
      (rewritten.prune (.ofVersion "V" 31000)).strip = nested.number.prune (.ofVersion "V" 31000)) ∧
    ∃ rewritten, finish single.number (e.inspect single.number).draft = .ok rewritten ∧
      (rewritten.prune (.ofVersion "V" 30800)).strip ≠ single.number.prune (.ofVersion "V" 30800) := by
  intro mention newer older nested single e
  constructor
  · obtain ⟨alike, enough, -⟩ := specialised_alike "V" 30800 31000 none 0 ⟨.ok .null, 0⟩
    obtain ⟨rewritten, finished, same⟩ := alike nested
    exact ⟨rewritten, finished, same.mpr (enough nested (by decide +kernel) (by decide +kernel))⟩
  · obtain ⟨alike, -, alone⟩ := specialised_alike "V" 30800 30800 none 0 ⟨.ok .null, 0⟩
    obtain ⟨rewritten, finished, same⟩ := alike single
    have past := alone none none older .pass (.below 30900) (by decide +kernel) (by decide)
    refine ⟨rewritten, finished, fun left => ?_⟩
    cases past.mp (same.mp left)

-- A target of 3.8 takes away what a module keeps for versions before 3.9, which 3.8 itself would run.
theorem specialised_apart :
    let constant := "PY_VERSION_ID"
    let target : Int := 30800
    let version : Int := 30800
    let older := Expr.compare none (.name none constant .load) [.lt] [.constant none (.int 30900)]
    let legacy := Expr.call none (.name none "legacy" .load) [] []
    let m : Module := ⟨[.ifElse none older [.simple none (.expr legacy)] []]⟩
    let e := onGuards constant target none 0 ⟨.ok .null, 0⟩
    let running := Verdicts.ofVersion constant version
    target ≤ version ∧ finish m.number (e.inspect m.number).draft = .ok ⟨[]⟩ ∧
      ((Module.mk []).prune running).strip ≠ m.number.prune running := by
  intro constant target version older legacy m e running
  have left : (m.number.prune (.ofTarget constant target)).fill = ⟨[]⟩ := rfl
  refine ⟨Int.le_refl _, ?_, fun same => ?_⟩
  · rw [← left]
    exact finish_onGuards constant target none 0 ⟨.ok .null, 0⟩ m
  · have kept : (m.number.prune running).body.isEmpty = false := rfl
    rw [← same] at kept
    cases kept

end Engine

end Whittle
