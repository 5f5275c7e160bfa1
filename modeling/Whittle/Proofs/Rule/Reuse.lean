import Mathlib.Data.List.Forall2
import Whittle.Proofs.Pass
import Whittle.Proofs.Rule.Creation

namespace Whittle

namespace VersionGuard

-- The target that the rule has, or takes when it needs one.
def aim (token : Except Failure Value) (g : VersionGuard) : Except Failure Int :=
  match g.target with
  | some n => .ok n
  | none => (g.known.elim token .ok).bind fun v => (Version.id v).mapError .version

-- A rule without a target gives up an empty name of the constant for the usual one when it asks for a target.
def isReady (g : VersionGuard) : Bool := g.target.isSome || g.constant != ""

-- The rules look for the same constant and decide by the same target.
structure Alike (token : Except Failure Value) (g g' : VersionGuard) : Prop where
  constant : g.constant = g'.constant
  aim : g.aim token = g'.aim token
  ready : g.isReady
  ready' : g'.isReady

section

variable {token : Except Failure Value} {g g' g'' : VersionGuard}

theorem Alike.symm (alike : g.Alike token g') : g'.Alike token g :=
  ⟨alike.constant.symm, alike.aim.symm, alike.ready', alike.ready⟩

theorem Alike.trans (near : g.Alike token g') (far : g'.Alike token g'') : g.Alike token g'' :=
  ⟨near.constant.trans far.constant, near.aim.trans far.aim, near.ready, far.ready'⟩

end

-- What comes of settling: the rule has its target, or the reason why it has none is given.
structure Settled (g : VersionGuard) (a : Ambient) (result : Option Failure × VersionGuard × Ambient) : Prop where
  alike : Alike a.token result.2.1 g
  token : result.2.2.token = a.token
  outcome : match g.aim a.token with
    | .ok n => result.1 = none ∧ result.2.1.target = some n
    | .error f => result.1 = some f

theorem configure_constant {g : VersionGuard} (named : g.constant ≠ "") (a : Ambient) :
    g.configure [(.text "constant_name", .text g.constant)] a = take (g.askAmbient a) := by
  have kept : constantOf [(.text "constant_name", .text g.constant)] = g.constant := by
    change (if !g.constant.isEmpty then g.constant else defaultConstant) = g.constant
    simp [named]
  rw [configure_eq, kept]
  rfl

-- Asking may leave the ambient version known, but not another than was known or given before.
theorem settled_of_token {constant : String} {known known' : Option Value} {a a' : Ambient} {v : Value}
    (named : constant ≠ "") (token : a'.token = a.token) (before : known.elim a.token .ok = .ok v)
    (after : known'.elim a.token .ok = .ok v) :
    Settled ⟨constant, none, known⟩ a (take (.ok v, ⟨constant, none, known'⟩, a')) := by
  have ready : ∀ target known, isReady ⟨constant, target, known⟩ := by simp [isReady, named]
  rw [take_of_token]
  cases id : Version.id v with
  | ok n =>
    have aim : aim a.token ⟨constant, none, known⟩ = .ok n := by simp [aim, before, Except.bind, id, Except.mapError]
    refine ⟨⟨rfl, aim.symm, ready .., ready ..⟩, token, ?_⟩
    rw [aim]
    exact ⟨rfl, rfl⟩
  | error e =>
    refine ⟨⟨rfl, ?_, ready .., ready ..⟩, token, ?_⟩
    · simp only [aim, before, after]
    · simp [aim, before, Except.bind, id, Except.mapError]

theorem settled_of_ready {g : VersionGuard} (ready : g.isReady) (a : Ambient) : g.Settled a (g.settle a) := by
  obtain ⟨constant, target, known⟩ := g
  cases target with
  | some n => exact ⟨⟨rfl, rfl, ready, ready⟩, rfl, rfl, rfl⟩
  | none =>
    have named : constant ≠ "" := by simpa [isReady] using ready
    have settle : settle ⟨constant, none, known⟩ a = take (askAmbient ⟨constant, none, known⟩ a) :=
      configure_constant named a
    rw [settle]
    obtain ⟨token, asked⟩ := a
    cases known with
    | some v => exact settled_of_token named rfl rfl rfl
    | none =>
      cases token with
      | error f => exact ⟨⟨rfl, rfl, ready, ready⟩, rfl, rfl⟩
      | ok v =>
        cases v with
        | null => exact settled_of_token named rfl rfl rfl
        | _ => exact settled_of_token named rfl rfl rfl

end VersionGuard

-- The rules do the same to every module, now and later.
inductive Rule.Alike (token : Except Failure Value) : Rule → Rule → Prop
  | versionGuard {g g' : VersionGuard} : g.Alike token g' → Alike token (.versionGuard g) (.versionGuard g')
  | extraArguments : Alike token .extraArguments .extraArguments

def Rule.isReady : Rule → Bool
  | .versionGuard g => g.isReady
  | .extraArguments => true

-- Rules that were never configured are ready, too.
example : ∀ r ∈ Rule.all, r.isReady := by decide

namespace Rule.Alike

variable {token : Except Failure Value} {r r' r'' : Rule}

theorem refl (ready : r.isReady) : Alike token r r := by
  cases r with
  | versionGuard g => exact .versionGuard ⟨rfl, rfl, ready, ready⟩
  | extraArguments => exact .extraArguments

theorem symm (alike : Alike token r r') : Alike token r' r := by
  cases alike with
  | versionGuard guards => exact .versionGuard guards.symm
  | extraArguments => exact .extraArguments

theorem trans (first : Alike token r r') (second : Alike token r' r'') : Alike token r r'' := by
  cases first with
  | versionGuard near =>
    cases second with
    | versionGuard far => exact .versionGuard (near.trans far)
  | extraArguments => exact second

theorem name (alike : Alike token r r') : r.name = r'.name := by cases alike <;> rfl

end Rule.Alike

-- The drafts differ at most in how often the ambient version was asked for.
structure Draft.Alike (token : Except Failure Value) (d d' : Draft) : Prop where
  given : d.ambient.token = token
  given' : d'.ambient.token = token
  edits : d.edits = d'.edits
  cuts : d.cuts = d'.cuts

structure ActiveRule.Alike (token : Except Failure Value) (r r' : ActiveRule) : Prop where
  rule : r.rule.Alike token r'.rule
  changes : r.changes = r'.changes

structure Step.Alike (token : Except Failure Value) (s s' : Step) : Prop where
  rules : List.Forall₂ (ActiveRule.Alike token) s.rules s'.rules
  draft : s.draft.Alike token s'.draft
  failure : s.failure = s'.failure

namespace ActiveRule

variable {token : Except Failure Value}

-- Two rules that are alike are so after a visit, each to itself before and both to each other.
structure Visited (token : Except Failure Value) (r : ActiveRule) (shown shown' : ActiveRule × Draft × Option Failure) :
    Prop where
  rule : shown.1.Alike token shown'.1
  draft : shown.2.1.Alike token shown'.2.1
  failure : shown.2.2 = shown'.2.2
  kept : shown.1.rule.Alike token r.rule

theorem visited_guard {g g' : VersionGuard} {d d' : Draft} (guards : g.Alike token g') (drafts : d.Alike token d')
    (n : Nat) (x : Node.Located) :
    Visited token ⟨.versionGuard g, n⟩ (visitGuard g n x d) (visitGuard g' n x d') := by
  have still : Visited token ⟨.versionGuard g, n⟩ (⟨.versionGuard g, n⟩, d, none) (⟨.versionGuard g', n⟩, d', none) :=
    ⟨⟨.versionGuard guards, rfl⟩, drafts, rfl, .refl guards.ready⟩
  have settled := VersionGuard.settled_of_ready guards.ready d.ambient
  have settled' := VersionGuard.settled_of_ready guards.ready' d'.ambient
  obtain ⟨node, above⟩ := x
  cases node with
  | expr mention =>
    simp only [visitGuard]
    have mentions : g'.mentions mention = g.mentions mention := by
      rw [VersionGuard.mentions, VersionGuard.mentions, guards.constant]
    rw [mentions]
    split
    · exact still
    · generalize g.settle d.ambient = result at settled ⊢
      generalize g'.settle d'.ambient = result' at settled' ⊢
      obtain ⟨f, h, a⟩ := result
      obtain ⟨f', h', a'⟩ := result'
      obtain ⟨alike, same, outcome⟩ := settled
      obtain ⟨alike', same', outcome'⟩ := settled'
      simp only [drafts.given, drafts.given', ← guards.aim] at alike same outcome alike' same' outcome'
      have after : h.Alike token h' := (alike.trans guards).trans alike'.symm
      cases aim : g.aim token with
      | error e =>
        rw [aim] at outcome outcome'
        cases outcome
        cases outcome'
        exact ⟨⟨.versionGuard after, rfl⟩, ⟨same, same', drafts.edits, drafts.cuts⟩, rfl, .versionGuard alike⟩
      | ok t =>
        rw [aim] at outcome outcome'
        obtain ⟨rfl, target⟩ := outcome
        obtain ⟨rfl, target'⟩ := outcome'
        simp only [target, target', Option.bind_some]
        cases Guard.around? t mention above with
        | none =>
          exact ⟨⟨.versionGuard after, rfl⟩, ⟨same, same', drafts.edits, drafts.cuts⟩, rfl, .versionGuard alike⟩
        | some guard =>
          have edits := congrArg guard.enter drafts.edits
          exact ⟨⟨.versionGuard after, rfl⟩, ⟨same, same', edits, drafts.cuts⟩, rfl, .versionGuard alike⟩
  | _ => exact still

theorem visited_call {d d' : Draft} (drafts : d.Alike token d') (ns : Namespace) (n : Nat) (x : Node.Located) :
    Visited token ⟨.extraArguments, n⟩ (visitCall ns n x d) (visitCall ns n x d') := by
  have still : Visited token ⟨.extraArguments, n⟩ (⟨.extraArguments, n⟩, d, none) (⟨.extraArguments, n⟩, d', none) :=
    ⟨⟨.extraArguments, rfl⟩, drafts, rfl, .extraArguments⟩
  obtain ⟨node, above⟩ := x
  cases node with
  | expr e =>
    cases e with
    | call l func args keywords =>
      simp only [visitCall, ← drafts.cuts]
      cases ExtraArguments.cut? ns d.cuts above l func args with
      | error e => exact ⟨⟨.extraArguments, rfl⟩, drafts, rfl, .extraArguments⟩
      | ok made =>
        cases made with
        | none => exact still
        | some cut =>
          exact ⟨⟨.extraArguments, rfl⟩, ⟨drafts.given, drafts.given', drafts.edits, rfl⟩, rfl, .extraArguments⟩
    | _ => exact still
  | _ => exact still

theorem visited {r r' : ActiveRule} {d d' : Draft} (rules : r.Alike token r') (drafts : d.Alike token d')
    (ns : Namespace) (x : Node.Located) : Visited token r (r.visit ns x d) (r'.visit ns x d') := by
  obtain ⟨r, n⟩ := r
  obtain ⟨r', n'⟩ := r'
  obtain ⟨rule, rfl⟩ := rules
  cases rule with
  | versionGuard guards => exact visited_guard guards drafts n x
  | extraArguments => exact visited_call drafts ns n x

-- The rules are alike, whatever they have counted.
def SameRules (token : Except Failure Value) : List ActiveRule → List ActiveRule → Prop :=
  List.Forall₂ fun r r' => r.rule.Alike token r'.rule

section

variable {rules rules' rules'' : List ActiveRule}

theorem SameRules.symm (same : SameRules token rules rules') : SameRules token rules' rules := by
  induction same with
  | nil => exact .nil
  | cons here _ ih => exact .cons here.symm ih

theorem SameRules.trans (near : SameRules token rules rules') (far : SameRules token rules' rules'') :
    SameRules token rules rules'' := by
  induction near generalizing rules'' with
  | nil => exact far
  | cons here _ ih =>
    cases far with
    | cons there rest => exact .cons (here.trans there) (ih rest)

theorem sameRules_of_alike (alike : List.Forall₂ (ActiveRule.Alike token) rules rules') :
    SameRules token rules rules' := alike.imp fun _ _ here => here.rule

theorem visitAll_alike {d d' : Draft} (alike : List.Forall₂ (ActiveRule.Alike token) rules rules')
    (drafts : d.Alike token d') (ns : Namespace) (x : Node.Located) :
    (visitAll ns x rules d).Alike token (visitAll ns x rules' d') ∧
      SameRules token (visitAll ns x rules d).rules rules := by
  induction alike generalizing d d' with
  | nil => exact ⟨⟨.nil, drafts, rfl⟩, .nil⟩
  | @cons r r' rest rest' here there ih =>
    obtain ⟨rule, draft, failure, kept⟩ := visited here drafts ns x
    rw [visitAll, visitAll]
    generalize r.visit ns x d = shown at rule draft failure kept ⊢
    generalize r'.visit ns x d' = shown' at rule draft failure ⊢
    obtain ⟨q, c, f⟩ := shown
    obtain ⟨q', c', f'⟩ := shown'
    cases failure
    cases f with
    | some e =>
      have unseen := sameRules_of_alike there
      exact ⟨⟨.cons rule there, draft, rfl⟩, .cons kept (unseen.trans unseen.symm)⟩
    | none =>
      obtain ⟨later, same⟩ := ih draft
      exact ⟨⟨.cons rule later.rules, later.draft, later.failure⟩, .cons kept same⟩

theorem traverse_alike {d d' : Draft} (alike : List.Forall₂ (ActiveRule.Alike token) rules rules')
    (drafts : d.Alike token d') (ns : Namespace) (xs : List Node.Located) :
    (traverse ns xs rules d).Alike token (traverse ns xs rules' d') ∧
      SameRules token (traverse ns xs rules d).rules rules := by
  induction xs generalizing rules rules' d d' with
  | nil =>
    have same := sameRules_of_alike alike
    exact ⟨⟨alike, drafts, rfl⟩, same.trans same.symm⟩
  | cons x rest ih =>
    obtain ⟨shown, same⟩ := visitAll_alike alike drafts ns x
    rw [traverse, traverse]
    simp only [← shown.failure]
    split
    · exact ⟨shown, same⟩
    · obtain ⟨later, kept⟩ := ih shown.rules shown.draft
      exact ⟨later, kept.trans same⟩

end

end ActiveRule

namespace Engine

-- The engines have the same rules and ask in the same place.
structure Alike (e e' : Engine) : Prop where
  token : e.ambient.token = e'.ambient.token
  rules : ActiveRule.SameRules e.ambient.token e.rules e'.rules

variable {e e' e'' : Engine}

theorem Alike.symm (alike : e.Alike e') : e'.Alike e :=
  ⟨alike.token.symm, alike.token ▸ alike.rules.symm⟩

theorem Alike.trans (near : e.Alike e') (far : e'.Alike e'') : e.Alike e'' :=
  ⟨near.token.trans far.token, near.rules.trans (near.token ▸ far.rules)⟩

theorem alike_of_ready (ready : ∀ r ∈ e.rules, r.rule.isReady) :
    e.Alike (.of (e.rules.map ActiveRule.rule) e.ambient) := by
  refine ⟨rfl, ?_⟩
  rw [of, List.map_map, ActiveRule.SameRules, List.forall₂_map_right_iff, List.forall₂_same]
  exact fun r member => .refl (ready r member)

theorem applied_of_alike {token : Except Failure Value} {rules rules' : List ActiveRule}
    (alike : List.Forall₂ (ActiveRule.Alike token) rules rules') : applied rules = applied rules' := by
  induction alike with
  | nil => rfl
  | cons here _ ih =>
    simp only [applied, List.filter_cons, here.changes] at ih ⊢
    split
    · rw [List.map_cons, List.map_cons, ih, here.rule.name]
    · exact ih

theorem inspect_alike (alike : e.Alike e') (m : Module) :
    (e.inspect m).Alike e.ambient.token (e'.inspect m) ∧
      ActiveRule.SameRules e.ambient.token (e.inspect m).rules e.rules := by
  have fresh : List.Forall₂ (ActiveRule.Alike e.ambient.token) (e.rules.map fun r => { r with changes := 0 })
      (e'.rules.map fun r => { r with changes := 0 }) := by
    rw [List.forall₂_map_left_iff, List.forall₂_map_right_iff]
    exact alike.rules.imp fun _ _ here => ⟨here, rfl⟩
  have drafts : Draft.Alike e.ambient.token { ambient := e.ambient } { ambient := e'.ambient } :=
    ⟨rfl, alike.token.symm, rfl, rfl⟩
  obtain ⟨steps, same⟩ := ActiveRule.traverse_alike fresh drafts (.ofModule m) (Node.module m).located
  refine ⟨steps, ?_⟩
  rw [ActiveRule.SameRules, List.forall₂_map_right_iff] at same
  exact same

-- A run gives what any engine gives that is alike, and leaves the engine alike.
theorem run_alike (alike : e.Alike e') (path source : String) :
    (e.run path source).2 = (e'.run path source).2 ∧ (e.run path source).1.Alike e := by
  have self : e.Alike e := alike.trans alike.symm
  cases parsed : Module.parse source.toList with
  | error err => cases err <;> simp [run, parsed, self]
  | ok m =>
    obtain ⟨steps, same⟩ := inspect_alike alike m.number
    have finished : finish m.number (e.inspect m.number).draft = finish m.number (e'.inspect m.number).draft := by
      rw [finish, finish, steps.draft.edits, steps.draft.cuts]
    have passed : (e.pass m).2 = (e'.pass m).2 := by
      simp only [pass, steps.failure, applied_of_alike steps.rules, steps.draft.cuts, finished]
    rw [run_of_parsed e path parsed, run_of_parsed e' path parsed, passed]
    exact ⟨rfl, steps.draft.given, steps.draft.given ▸ same⟩

end Engine

end Whittle
