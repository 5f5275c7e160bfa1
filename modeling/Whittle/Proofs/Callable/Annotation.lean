import Mathlib.Data.List.Forall2
import Whittle.Proofs.Callable.Receiving

namespace Whittle

namespace TypeHint

-- Annotations with the names of the classes that a value may be of, in the order in which they stand there.
inductive OfClasses : Expr → List String → Prop
  | name {l : Label} {id : String} {ctx : Context} : id ≠ "None" → OfClasses (.name l id ctx) [id]
  | none {l : Label} : OfClasses (.constant l .none) []
  | optional {l : Label} {head index : Expr} {ctx : Context} {classes : List String} :
    head.decoratorName = "Optional" → OfClasses index classes → OfClasses (.subscript l head index ctx) classes
  | single {l : Label} {head index : Expr} {ctx : Context} {classes : List String} :
    head.decoratorName = "Union" → OfClasses index classes → OfClasses (.subscript l head index ctx) classes
  | union {l k : Label} {head : Expr} {ctx ctx' : Context} {members : List (Expr × List String)} :
    head.decoratorName = "Union" → (∀ m ∈ members, OfClasses m.1 m.2) →
    OfClasses (.subscript l head (.tuple k (members.map Prod.fst) ctx') ctx) (members.flatMap Prod.snd)
  | either {l : Label} {left right : Expr} {first second : List String} :
    OfClasses left first → OfClasses right second → OfClasses (.binOp l left .bitOr right) (first ++ second)
  | quoted {l : Label} {marked : Bool} {points : Text.Points} {e : Expr} {classes : List String} :
    readExpr (Text.trimBy Text.isBlankPoint points) = .ok e → OfClasses e classes →
    OfClasses (.constant l (.text marked points)) classes

-- The names that are read, less those of no class.
def Reads (e : Expr) (classes : List String) : Prop :=
  ∃ names, e.namesBy readExpr = pure names ∧ names.filter (· != "None") = classes

theorem items_of_classes {e : Expr} {classes : List String} (hint : OfClasses e classes) : items e = [e] := by
  cases hint <;> rfl

theorem reads_members {members : List (Expr × List String)} (each : ∀ m ∈ members, Reads m.1 m.2) :
    ∃ names, (members.map Prod.fst).mapM (·.namesBy readExpr) = pure names ∧
      names.flatten.filter (· != "None") = members.flatMap Prod.snd := by
  induction members with
  | nil => exact ⟨[], rfl, rfl⟩
  | cons m rest ih =>
    obtain ⟨⟨own, read, kept⟩, later⟩ := List.forall_mem_cons.mp each
    obtain ⟨names, others, all⟩ := ih later
    refine ⟨own :: names, ?_, ?_⟩
    · rw [List.map_cons, List.mapM_cons, read, others, pure_bind, pure_bind]
    · rw [List.flatten_cons, List.filter_append, kept, all, List.flatMap_cons]

-- With a single annotation in the brackets the two heads mean the same.
theorem reads_bracketed {l : Label} {head index : Expr} {ctx : Context} {classes : List String}
    (known : head.decoratorName = "Optional" ∨ head.decoratorName = "Union") (inner : OfClasses index classes)
    (own : Reads index classes) : Reads (.subscript l head index ctx) classes := by
  obtain ⟨names, read, kept⟩ := own
  refine ⟨names, ?_, kept⟩
  rw [Expr.namesBy, items_of_classes inner]
  rcases known with optional | union
  · simp [optional, read]
  · simp [union, read]

theorem reads_of_classes {e : Expr} {classes : List String} (hint : OfClasses e classes) : Reads e classes := by
  induction hint with
  | name other => exact ⟨_, Expr.namesBy.eq_1 .., by simp [other]⟩
  | none => exact ⟨["None"], by rw [Expr.namesBy], rfl⟩
  | optional head inner own => exact reads_bracketed (.inl head) inner own
  | single head inner own => exact reads_bracketed (.inr head) inner own
  | union head _ each =>
    obtain ⟨names, read, kept⟩ := reads_members each
    refine ⟨names.flatten, ?_, kept⟩
    rw [Expr.namesBy, head, items]
    simp [read]
  | either _ _ left right =>
    obtain ⟨first, read, kept⟩ := left
    obtain ⟨second, read', kept'⟩ := right
    refine ⟨first ++ second, ?_, by rw [List.filter_append, kept, kept']⟩
    rw [Expr.namesBy, read, read', pure_bind, pure_bind]
  | @quoted l marked points e classes parsed _ ih =>
    obtain ⟨names, read, kept⟩ := ih
    refine ⟨names, ?_, kept⟩
    rw [Expr.namesBy]
    split
    · rename_i empty
      rw [empty] at parsed
      cases parsed
    · rw [parsed]
      exact read

theorem names_of_classes {e : Expr} {classes : List String} (hint : OfClasses e classes) :
    ∃ names, TypeHint.names e = .ok names ∧ names.filter (· != "None") = classes := by
  obtain ⟨names, read, kept⟩ := reads_of_classes hint
  refine ⟨names, ?_, kept⟩
  rw [TypeHint.names, read]
  rfl

end TypeHint

namespace Namespace

theorem mapM_eq_none {α β : Type} {f : α → Option β} {as : List α} {a : α} (member : a ∈ as)
    (missing : f a = none) : as.mapM f = none := by
  cases mapped : as.mapM f with
  | none => rfl
  | some bs =>
    obtain ⟨b, found⟩ := (of_mapM_eq_some mapped).2 a member
    rw [missing] at found
    cases found

theorem exists_mapM {α β : Type} {f : α → Option β} {as : List α} (each : ∀ a ∈ as, ∃ b, f a = some b) :
    ∃ bs, as.mapM f = some bs ∧ List.Forall₂ (fun a b => f a = some b) as bs := by
  induction as with
  | nil => exact ⟨[], rfl, .nil⟩
  | cons a rest ih =>
    obtain ⟨⟨b, here⟩, later⟩ := List.forall_mem_cons.mp each
    obtain ⟨bs, mapped, found⟩ := ih later
    refine ⟨b :: bs, ?_, .cons here found⟩
    rw [List.mapM_cons, here, mapped]
    rfl

variable {ns : Namespace} {cuts : Cuts} {above : List Node}

-- Why a method is not known on a receiver that may be of any of the classes.
def Unknown (ns : Namespace) (classes : List String) (method : String) : Prop :=
  classes = [] ∨ ∃ c ∈ classes, ns.isClass c = false ∨ ns.isOverridden c method = true ∨ ns.method? c method true = none

-- Repetitions are dropped, and only the distinct classes decide.
theorem resolveOnClasses_distinct (names : List String) (method : String) :
    ns.resolveOnClasses names method =
      if names.eraseDups ≠ [] ∧ ∀ c ∈ names.eraseDups, ns.isClass c then
        (names.eraseDups.mapM fun c => ns.resolveOnInstance c method).map (Callee.ofMethods method)
      else none := by
  have empty : names.eraseDups ≠ [] ↔ names ≠ [] := by
    cases names <;> simp [List.eraseDups_cons]
  rw [resolveOnClasses_eq]
  simp only [empty, List.mem_eraseDups]

section

variable {classes : List String} {method : String}

theorem mapM_of_unknown {c : String} (listed : c ∈ classes)
    (lacking : ns.isOverridden c method = true ∨ ns.method? c method true = none) :
    classes.mapM (fun c => ns.resolveOnInstance c method) = none := by
  refine mapM_eq_none listed ?_
  rw [resolveOnInstance]
  split
  · rfl
  · rename_i kept
    exact lacking.resolve_left kept

theorem exists_members (known : ¬ns.Unknown classes method) :
    (classes ≠ [] ∧ ∀ c ∈ classes, ns.isClass c) ∧
      ∃ rs, classes.mapM (fun c => ns.resolveOnInstance c method) = some rs ∧
        List.Forall₂ (fun c r => ns.method? c method true = some r) classes rs := by
  simp only [Unknown, not_or, not_exists, not_and, Bool.not_eq_false, Bool.not_eq_true] at known
  obtain ⟨filled, each⟩ := known
  have found : ∀ c ∈ classes, ∃ r, ns.resolveOnInstance c method = some r := by
    intro c listed
    obtain ⟨-, kept, has⟩ := each c listed
    obtain ⟨r, has⟩ := Option.ne_none_iff_exists'.mp has
    exact ⟨r, resolveOnInstance_eq_some_iff.mpr ⟨kept, has⟩⟩
  obtain ⟨rs, mapped, members⟩ := exists_mapM found
  exact ⟨⟨filled, fun c listed => (each c listed).1⟩, rs, mapped,
    members.imp fun _ _ found => (resolveOnInstance_eq_some_iff.mp found).2⟩

end

-- The callee is a method of a parameter that is annotated with these classes and to whose name nothing is assigned.
inductive Annotated (ns : Namespace) (cuts : Cuts) (above : List Node) : Expr → List String → String → Prop
  | intro {l k : Label} {ctx ctx' : Context} {x method : String} {owner : Scope} {holder : Option Node} {hint : Expr}
    {names : List String} (unusual : ¬(x = "self" ∨ x = "cls")) (other : ns.isClass x = false)
    (inner : Scope.innermost? above = some (owner, holder)) (plain : owner.isLambda = false)
    (annotated : owner.hint? x = some hint) (fixed : owner.assigns cuts x = false)
    (classes : TypeHint.OfClasses hint names) :
    Annotated ns cuts above (.attribute l (.name k x ctx') method ctx) names.eraseDups method

theorem resolve_annotated {func : Expr} {classes : List String} {method : String}
    (annotated : ns.Annotated cuts above func classes method) :
    ns.resolve cuts above func = .ok
      (if classes ≠ [] ∧ ∀ c ∈ classes, ns.isClass c then
        (classes.mapM fun c => ns.resolveOnInstance c method).map (Callee.ofMethods method)
      else none) := by
  cases annotated with
  | @intro _ _ _ _ x _ _ _ _ _ unusual other inner plain annotated fixed classes =>
    obtain ⟨read, named, kept⟩ := TypeHint.names_of_classes classes
    have unusual : ¬(x == "self" || x == "cls") = true := by simpa using unusual
    rw [resolve, resolveAttribute_eq, other, if_neg Bool.false_ne_true, inner]
    dsimp only
    rw [plain, if_neg Bool.false_ne_true, if_neg unusual, annotated]
    dsimp only
    rw [fixed, if_neg Bool.false_ne_true, named, ← resolveOnClasses_distinct, ← kept]
    rfl

-- The name is that of a parameter that takes all further arguments, and of no other parameter.
structure Gathers (owner : Scope) (x : String) : Prop where
  last : ∃ p, (owner.params.vararg = some p ∨ owner.params.kwarg = some p) ∧ p.name = x
  alone : ∀ p ∈ owner.params.positional ++ owner.params.kwOnly, p.name ≠ x

theorem hint_of_gathers {owner : Scope} {x : String} (gathers : Gathers owner x) : owner.hint? x = none := by
  have missing : (owner.params.positional ++ owner.params.kwOnly).find? (fun p => p.name == x) = none :=
    List.find?_eq_none.mpr fun p member => by simpa using gathers.alone p member
  rw [Scope.hint?, missing]
  rfl

theorem resolve_gathered {l k : Label} {ctx ctx' : Context} {x method : String} {owner : Scope} {holder : Option Node}
    (gathers : Gathers owner x) (unusual : ¬(x = "self" ∨ x = "cls")) (other : ns.isClass x = false)
    (inner : Scope.innermost? above = some (owner, holder)) :
    ns.resolve cuts above (.attribute l (.name k x ctx') method ctx) = .ok none := by
  have unusual : ¬(x == "self" || x == "cls") = true := by simpa using unusual
  rw [resolve, resolveAttribute_eq, other, if_neg Bool.false_ne_true, inner]
  dsimp only
  rw [if_neg unusual, hint_of_gathers gathers]
  exact ite_self _

-- However an annotation is spelled, the classes that it names are all that counts: none of the notations loses or
-- adds a class, at any depth and also inside texts.
theorem annotated_receiver_resolves {func : Expr} {classes : List String} {method : String}
    (annotated : ns.Annotated cuts above func classes method) :
    (ns.Unknown classes method → ns.resolve cuts above func = .ok none) ∧
    (¬ns.Unknown classes method → ∃ rs, List.Forall₂ (fun c r => ns.method? c method true = some r) classes rs ∧
      ((∃ c r, classes = [c] ∧ rs = [r] ∧ ns.resolve cuts above func = .ok (some (.method r))) ∨
        2 ≤ classes.length ∧ ns.resolve cuts above func = .ok (some (.union method rs)))) ∧
    -- However the same classes are spelled, and whatever else is around the call.
    (∀ cuts' above' func', ns.Annotated cuts' above' func' classes method →
      ns.resolve cuts' above' func' = ns.resolve cuts above func) ∧
    -- A parameter that takes all further arguments holds a collection, whatever it is annotated with.
    ∀ above' owner holder x l k ctx ctx' method', Gathers owner x → ¬(x = "self" ∨ x = "cls") → ns.isClass x = false →
      Scope.innermost? above' = some (owner, holder) →
      ns.resolve cuts above' (.attribute l (.name k x ctx') method' ctx) = .ok none := by
  rw [resolve_annotated annotated]
  refine ⟨fun unknown => congrArg Except.ok ?_, fun known => ?_, fun _ _ _ again => resolve_annotated again,
    fun _ _ _ _ _ _ _ _ _ gathers unusual other inner => resolve_gathered gathers unusual other inner⟩
  · split
    · rename_i usable
      rcases unknown with empty | ⟨c, listed, foreign | lacking⟩
      · exact absurd empty usable.1
      · rw [usable.2 c listed] at foreign
        cases foreign
      · rw [mapM_of_unknown listed lacking]
        rfl
    · rfl
  · obtain ⟨usable, rs, mapped, members⟩ := exists_members known
    refine ⟨rs, members, ?_⟩
    rw [if_pos usable, mapped]
    cases members with
    | nil => exact absurd rfl usable.1
    | @cons c r rest others found later =>
      cases later with
      | nil => exact .inl ⟨c, r, rfl, rfl, rfl⟩
      | cons => exact .inr ⟨by simp, rfl⟩

def classA : Stmt := .classOf "A" [] [.method "m" [] ["self", "x"] []]

def classB : Stmt := .classOf "B" [] [.method "m" [] ["self"] []]

def nameA : Expr := .name none "A" .load

-- The text `B | A`.
def quotedUnion : Expr := .constant none (.text false [66, 32, 124, 32, 65])

def nestedHint : Expr :=
  .subscript none (.name none "Optional" .load)
    (.subscript none (.name none "Union" .load) (.tuple none [quotedUnion, .constant none .none, nameA] .load) .load)
    .load

-- A function with nothing but parameters and a body.
def function (name : String) (params : Params) (body : Block) : Stmt :=
  .func none { isAsync := false, name := name, decorators := [], returns := none, params := params } body

def taking : Stmt :=
  function "f" (.mk none [] [.mk none "p" (some nestedHint) none] none [] none) [.callOn "p" "m" ["a", "b"]]

theorem classes_nestedHint : TypeHint.OfClasses nestedHint ["B", "A", "A"] := by
  have quoted : TypeHint.OfClasses quotedUnion ["B", "A"] := by
    have parsed : TypeHint.readExpr [66, 32, 124, 32, 65] = .ok (.binOp none (.name none "B" .load) .bitOr nameA) := by
      rfl
    exact .quoted parsed (.either (.name (by decide)) (.name (by decide)))
  have members : ∀ m ∈ [(quotedUnion, ["B", "A"]), (.constant none .none, []), (nameA, ["A"])],
      TypeHint.OfClasses m.1 m.2 := by
    rw [List.forall_mem_cons, List.forall_mem_cons, List.forall_mem_singleton]
    exact ⟨quoted, .none, .name (by decide)⟩
  exact .optional rfl (.union rfl members)

theorem annotated_receiver_resolves_nested :
    (ofModule ⟨[classA, classB, taking]⟩).resolve [] [.stmt taking] (.attribute none (.name none "p" .load) "m" .load) =
      .ok (some (.union "m" [⟨"B", "m", [⟨[], false⟩]⟩, ⟨"A", "m", [⟨["x"], false⟩]⟩])) := by
  have annotated : (ofModule ⟨[classA, classB, taking]⟩).Annotated [] [.stmt taking]
      (.attribute none (.name none "p" .load) "m" .load) ["B", "A"] "m" :=
    .intro (by decide) rfl rfl rfl rfl (by decide +kernel) classes_nestedHint
  have known : ¬(ofModule ⟨[classA, classB, taking]⟩).Unknown ["B", "A"] "m" := by
    rintro (none | ⟨c, listed, reason⟩)
    · cases none
    · rcases List.mem_pair.mp listed with rfl | rfl
      · exact absurd reason (by decide +kernel)
      · exact absurd reason (by decide +kernel)
  obtain ⟨rs, members, ⟨c, r, one, -⟩ | ⟨-, resolved⟩⟩ := (annotated_receiver_resolves annotated).2.1 known
  · cases one
  · rw [resolved]
    cases members with
    | cons first later =>
      cases later with
      | cons second none =>
        cases none
        cases first
        cases second
        rfl

def spreading : Stmt :=
  function "f" (.mk none [] [] (some (.mk none "p" (some nameA) none)) [] none) [.callOn "p" "m" ["a", "b"]]

def scoping : Stmt :=
  function "g" (.mk none [] [.mk none "q" (some nameA) none] none [] none)
    [.callOn "q" "m" ["a", "b"],
     .simple none (.expr (.comp none .list (.name none "q" .load)
       [.mk none (.name none "q" .store) (.name none "r" .load) [] false]))]

def leftAlone : Module := ⟨[classA, spreading, scoping]⟩

-- A parameter that takes all further arguments holds no instance, although it is annotated with a class. And a
-- comprehension has variables of its own, but they count as assignments to the parameter of that name.
theorem annotated_parameters_unresolved :
    TypeHint.OfClasses nameA ["A"] ∧ ¬(ofModule leftAlone).Unknown ["A"] "m" ∧
      (∃ owner holder p, Scope.innermost? [.stmt spreading] = some (owner, holder) ∧ owner.params.vararg = some p ∧
        p.name = "p" ∧ p.hint = some nameA ∧ (ofModule leftAlone).isClass "p" = false ∧
        owner.assigns [] "p" = false ∧
        (ofModule leftAlone).resolve [] [.stmt spreading] (.attribute none (.name none "p" .load) "m" .load) =
          .ok none) ∧
      (∃ owner holder, Scope.innermost? [.stmt scoping] = some (owner, holder) ∧ owner.hint? "q" = some nameA ∧
        (ofModule leftAlone).isClass "q" = false ∧
        (ofModule leftAlone).resolve [] [.stmt scoping] (.attribute none (.name none "q" .load) "m" .load) =
          .ok none) := by
  refine ⟨.name (by decide), ?_, ⟨_, _, _, rfl, rfl, rfl, rfl, by decide, by decide +kernel, ?_⟩,
    ⟨_, _, rfl, rfl, by decide, ?_⟩⟩
  · rintro (none | ⟨c, listed, reason⟩)
    · cases none
    · cases List.mem_singleton.mp listed
      exact absurd reason (by decide +kernel)
  · rfl
  · rfl

end Namespace

end Whittle
