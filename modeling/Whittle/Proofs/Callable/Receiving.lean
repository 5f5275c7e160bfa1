import Whittle.Proofs.Callable.Search
import Whittle.Proofs.Syntax.Blocks

namespace Whittle

namespace Callee

-- The methods that a call may reach.
def methods : Callee → List Method
  | .function _ _ => []
  | .method r => [r]
  | .union _ rs => rs

def ofMethods (name : String) : List Method → Callee
  | [r] => .method r
  | rs => .union name rs

theorem methods_ofMethods (name : String) (rs : List Method) : (ofMethods name rs).methods = rs := by
  unfold ofMethods
  split <;> rfl

end Callee

-- The plain name whose attribute a callee is.
def Expr.receiver? : Expr → Option String
  | .attribute _ (.name _ x _) _ _ => some x
  | _ => none

-- The function or lambda next to a node, with the node that holds it.
def Scope.innermost? (above : List Node) : Option (Scope × Option Node) :=
  match above.dropWhile fun n => (ofNode? n).isNone with
  | [] => none
  | node :: outer => (ofNode? node).map (·, outer.head?)

-- Whether a function or lambda around a node has a parameter of this name.
def Scope.shadows (above : List Node) (name : String) : Bool :=
  (enclosing above).any fun s => s.params.names.contains name

-- Whether a method is taken from a class, or from an instance that fills its first parameter.
inductive Access where
  | onClass
  | onInstance
  deriving DecidableEq

def Access.fills : Access → Bool
  | .onClass => false
  | .onInstance => true

-- Whether the first parameter is filled before the arguments, if an access through an instance fills it.
def Binding.fills (bound : Bool) : Binding → Bool
  | .static => false
  | .onClass => true
  | .onInstance => bound

-- The positional parameters that the arguments of a call fill.
def FunctionHead.explicit (f : FunctionHead) (access : Access) : List String :=
  let names := f.params.positional.map Param.name
  if "staticmethod" ∈ f.decoratorNames then names
  else if "classmethod" ∈ f.decoratorNames then names.tail
  else
    match access with
    | .onClass => names
    | .onInstance => names.tail

-- What a call gets to fill of a method with one definition.
def FunctionHead.filled (f : FunctionHead) (access : Access) : Variant :=
  ⟨f.explicit access, f.params.vararg.isSome⟩

theorem FunctionHead.variant_of_binding (f : FunctionHead) (access : Access) :
    f.variant (f.binding.fills access.fills) = f.filled access := by
  rw [filled, explicit.eq_def, binding, variant]
  by_cases static : "staticmethod" ∈ f.decoratorNames
  · simp [static, Binding.fills]
  · by_cases onClass : "classmethod" ∈ f.decoratorNames
    · simp [static, onClass, Binding.fills]
    · cases access <;> simp [static, onClass, Binding.fills, Access.fills]

namespace Namespace

-- How a callee leads to a method on classes, given the nodes above the call.
inductive Reaches (ns : Namespace) (cuts : Cuts) (above : List Node) :
    Expr → Access → List String → String → Prop where
  | named {l k : Label} {ctx ctx' : Context} {x method : String} (single : ns.isClass x)
      (free : Scope.shadows above x = false) :
      Reaches ns cuts above (.attribute l (.name k x ctx') method ctx) .onClass [x] method
  | made {l : Label} {ctx : Context} {x : String} {c : ClassEntry}
      (free : (Scope.enclosing above).any (fun s => s.binds cuts x) = false) (once : ns.rebound.contains x = false)
      (other : ns.functions.find? x = none) (known : ns.classes.find? x = some c)
      (bare : c.head.decorators = [] ∧ c.head.keywords = []) :
      Reaches ns cuts above (.name l x ctx) .onInstance [x] "__init__"
  | received {l k label : Label} {ctx ctx' : Context} {x method : String} {owner : Scope} {head : ClassHead}
      {body : Block} {c : ClassEntry} {first : Param} (other : ns.isClass x = false) (usual : x = "self" ∨ x = "cls")
      (inner : Scope.innermost? above = some (owner, some (.stmt (.klass label head body))))
      (plain : owner.isLambda = false) (known : ns.classes.find? head.name = some c) (same : c.label = label)
      (leading : owner.params.positional.head? = some first) (receives : first.name = x)
      (kept : ns.isOverridden head.name method = false) :
      Reaches ns cuts above (.attribute l (.name k x ctx') method ctx) .onInstance [head.name] method
  | hinted {l k : Label} {ctx ctx' : Context} {x method : String} {owner : Scope} {holder : Option Node} {hint : Expr}
      {names : List String} (other : ns.isClass x = false) (unusual : ¬(x = "self" ∨ x = "cls"))
      (inner : Scope.innermost? above = some (owner, holder)) (plain : owner.isLambda = false)
      (annotated : owner.hint? x = some hint) (fixed : owner.assigns cuts x = false)
      (read : TypeHint.names hint = .ok names) (any : names.filter (· != "None") ≠ [])
      (single : ∀ c ∈ names.filter (· != "None"), ns.isClass c)
      (kept : ∀ c ∈ (names.filter (· != "None")).eraseDups, ns.isOverridden c method = false) :
      Reaches ns cuts above (.attribute l (.name k x ctx') method ctx) .onInstance
        (names.filter (· != "None")).eraseDups method

variable {ns : Namespace} {cuts : Cuts} {above : List Node} {method : String}

-- A receiver that is not a class may be of any subclass, so no subclass redefines the method.
theorem Reaches.through_instance {func : Expr} {access : Access} {classes : List String} {x : String}
    (reaches : ns.Reaches cuts above func access classes method) (receiver : func.receiver? = some x)
    (other : ns.isClass x = false) : access = .onInstance ∧ ∀ c ∈ classes, ns.isOverridden c method = false := by
  cases reaches with
  | named single free =>
    cases receiver
    rw [single] at other
    cases other
  | made => cases receiver
  | received other usual inner plain known same leading receives kept =>
    exact ⟨rfl, List.forall_mem_singleton.mpr kept⟩
  | hinted other unusual inner plain annotated fixed read any single kept => exact ⟨rfl, kept⟩

theorem method_eq_some_iff {className : String} {bound : Bool} {r : Method} :
    ns.method? className method bound = some r ↔
      ∃ defs last, ns.lookupMethod className method = some defs ∧ defs.getLast? = some last ∧
        (∀ d ∈ defs, d.isNeutral) ∧ r = ⟨className, method, variantsOf defs (last.binding.fills bound)⟩ := by
  rw [method?]
  cases ns.lookupMethod className method with
  | none => simp
  | some defs =>
    cases latest : defs.getLast? with
    | none => simp [latest]
    | some last =>
      by_cases neutral : ∀ d ∈ defs, d.isNeutral
      · cases kind : last.binding <;> simp [latest, kind, Binding.fills, @eq_comm _ r]
      · simp [latest, neutral]

theorem resolveOnInstance_eq_some_iff {className : String} {r : Method} :
    ns.resolveOnInstance className method = some r ↔
      ns.isOverridden className method = false ∧ ns.method? className method true = some r := by
  rw [resolveOnInstance]
  split
  · rename_i anew
    constructor
    · intro found
      cases found
    · rintro ⟨kept, -⟩
      rw [kept] at anew
      cases anew
  · rename_i kept
    exact ⟨fun found => ⟨Bool.eq_false_iff.mpr kept, found⟩, fun both => both.2⟩

theorem of_mapM_eq_some {α β : Type} {f : α → Option β} {as : List α} {bs : List β} (mapped : as.mapM f = some bs) :
    (∀ b ∈ bs, ∃ a ∈ as, f a = some b) ∧ ∀ a ∈ as, ∃ b, f a = some b := by
  induction as generalizing bs with
  | nil =>
    cases mapped
    simp
  | cons a rest ih =>
    simp only [List.mapM_cons, Option.bind_eq_bind, Option.bind_eq_some_iff, Option.pure_def, Option.some.injEq]
      at mapped
    obtain ⟨b, first, later, mapped, rfl⟩ := mapped
    obtain ⟨back, there⟩ := ih mapped
    simp only [List.forall_mem_cons, List.exists_mem_cons_iff]
    exact ⟨⟨.inl first, fun b member => .inr (back b member)⟩, ⟨b, first⟩, there⟩

theorem resolveOnClasses_eq (classes : List String) :
    ns.resolveOnClasses classes method =
      if classes ≠ [] ∧ ∀ c ∈ classes, ns.isClass c then
        (classes.eraseDups.mapM fun c => ns.resolveOnInstance c method).map (Callee.ofMethods method)
      else none := by
  have usable : (classes.isEmpty || !classes.all ns.isClass) = true ↔ ¬(classes ≠ [] ∧ ∀ c ∈ classes, ns.isClass c) := by
    simp [imp_iff_not_or]
  rw [resolveOnClasses]
  by_cases all : classes ≠ [] ∧ ∀ c ∈ classes, ns.isClass c
  · rw [if_neg (fun none => usable.mp none all), if_pos all]
    cases classes.eraseDups.mapM fun c => ns.resolveOnInstance c method with
    | none => rfl
    | some rs =>
      cases rs with
      | nil => rfl
      | cons r rest => cases rest <;> rfl
  · rw [if_pos (usable.mpr all), if_neg all]

theorem resolveAttribute_eq (receiver : String) :
    ns.resolveAttribute cuts above receiver method =
      if ns.isClass receiver then .ok ((ns.method? receiver method false).map .method)
      else
        match Scope.innermost? above with
        | none => .ok none
        | some (owner, holder) =>
          if owner.isLambda then .ok none
          else if receiver == "self" || receiver == "cls" then .ok (ns.resolveOnReceiver owner holder receiver method)
          else
            match owner.hint? receiver with
            | none => .ok none
            | some hint =>
              if owner.assigns cuts receiver then .ok none
              else do
                let names ← TypeHint.names hint
                return ns.resolveOnClasses (names.filter (· != "None")) method := by
  rw [resolveAttribute, Scope.innermost?]
  split
  · rfl
  · cases above.dropWhile fun n => (Scope.ofNode? n).isNone with
    | nil => rfl
    | cons node outer =>
      dsimp only
      cases Scope.ofNode? node <;> rfl

-- A call reaches a method in one of the ways, and the method is that of one of the classes.
def Gives (ns : Namespace) (cuts : Cuts) (above : List Node) (func : Expr) (r : Method) : Prop :=
  ∃ access classes, ns.Reaches cuts above func access classes r.name ∧ r.owner ∈ classes ∧
    ns.method? r.owner r.name access.fills = some r

theorem Reaches.gives {func : Expr} {access : Access} {classes : List String} {x : String} {r : Method}
    (reaches : ns.Reaches cuts above func access classes method) (listed : x ∈ classes)
    (found : ns.method? x method access.fills = some r) : ns.Gives cuts above func r := by
  obtain ⟨defs, last, -, -, -, rfl⟩ := method_eq_some_iff.mp found
  exact ⟨access, classes, reaches, listed, found⟩

theorem gives_of_resolveName {x : String} {callee : Callee} {l : Label} {ctx : Context}
    (free : (Scope.enclosing above).any (fun s => s.binds cuts x) = false)
    (resolved : ns.resolveName x = some callee) : ∀ r ∈ callee.methods, ns.Gives cuts above (.name l x ctx) r := by
  intro r member
  rw [resolveName] at resolved
  split at resolved
  · cases resolved
  · rename_i once
    cases function : ns.functions.find? x with
    | some defs =>
      simp only [function] at resolved
      split at resolved
      · cases resolved
        cases member
      · cases resolved
    | none =>
      cases known : ns.classes.find? x with
      | some c =>
        simp only [function, known] at resolved
        split at resolved
        · cases resolved
        · rename_i generated
          obtain ⟨init, found, rfl⟩ := Option.map_eq_some_iff.mp resolved
          rw [List.mem_singleton.mp member]
          have bare : c.head.decorators = [] ∧ c.head.keywords = [] := by simpa using generated
          exact (Reaches.made free (Bool.eq_false_iff.mpr once) function known bare).gives (List.mem_singleton_self x) found
      | none =>
        simp only [function, known] at resolved
        obtain ⟨v, builtin, rfl⟩ := Option.map_eq_some_iff.mp resolved
        cases member

theorem gives_of_resolveOnReceiver {x : String} {callee : Callee} {l k : Label} {ctx ctx' : Context} {owner : Scope}
    {holder : Option Node} (other : ns.isClass x = false) (usual : x = "self" ∨ x = "cls")
    (inner : Scope.innermost? above = some (owner, holder)) (plain : owner.isLambda = false)
    (resolved : ns.resolveOnReceiver owner holder x method = some callee) :
    ∀ r ∈ callee.methods, ns.Gives cuts above (.attribute l (.name k x ctx') method ctx) r := by
  intro r member
  unfold resolveOnReceiver at resolved
  split at resolved
  · simp only [Option.bind_eq_bind, Option.bind_eq_some_iff] at resolved
    obtain ⟨c, known, first, leading, resolved⟩ := resolved
    split at resolved
    · cases resolved
    · rename_i same
      obtain ⟨own, found, rfl⟩ := Option.map_eq_some_iff.mp resolved
      rw [List.mem_singleton.mp member]
      obtain ⟨kept, found⟩ := resolveOnInstance_eq_some_iff.mp found
      simp only [Bool.or_eq_true, bne_iff_ne, ne_eq, not_or, Decidable.not_not] at same
      exact (Reaches.received other usual inner plain known same.1 leading same.2 kept).gives
        (List.mem_singleton_self _) found
  · cases resolved

theorem gives_of_resolveOnClasses {x : String} {callee : Callee} {l k : Label} {ctx ctx' : Context} {owner : Scope}
    {holder : Option Node} {hint : Expr} {names : List String} (other : ns.isClass x = false)
    (unusual : ¬(x = "self" ∨ x = "cls")) (inner : Scope.innermost? above = some (owner, holder))
    (plain : owner.isLambda = false) (annotated : owner.hint? x = some hint) (fixed : owner.assigns cuts x = false)
    (read : TypeHint.names hint = .ok names)
    (resolved : ns.resolveOnClasses (names.filter (· != "None")) method = some callee) :
    ∀ r ∈ callee.methods, ns.Gives cuts above (.attribute l (.name k x ctx') method ctx) r := by
  intro r member
  rw [resolveOnClasses_eq] at resolved
  split at resolved
  · rename_i usable
    obtain ⟨rs, mapped, rfl⟩ := Option.map_eq_some_iff.mp resolved
    rw [Callee.methods_ofMethods] at member
    obtain ⟨back, there⟩ := of_mapM_eq_some mapped
    obtain ⟨c, listed, found⟩ := back r member
    have kept : ∀ c ∈ (names.filter (· != "None")).eraseDups, ns.isOverridden c method = false := by
      intro c listed
      obtain ⟨r, found⟩ := there c listed
      exact (resolveOnInstance_eq_some_iff.mp found).1
    exact (Reaches.hinted other unusual inner plain annotated fixed read usable.1 usable.2 kept).gives listed
      (resolveOnInstance_eq_some_iff.mp found).2
  · cases resolved

theorem gives_of_resolveAttribute {x : String} {callee : Callee} {l k : Label} {ctx ctx' : Context}
    (unshadowed : ns.isClass x → Scope.shadows above x = false)
    (resolved : ns.resolveAttribute cuts above x method = .ok (some callee)) :
    ∀ r ∈ callee.methods, ns.Gives cuts above (.attribute l (.name k x ctx') method ctx) r := by
  rw [resolveAttribute_eq] at resolved
  split at resolved
  · rename_i single
    obtain ⟨own, found, rfl⟩ := Option.map_eq_some_iff.mp (Except.ok.inj resolved)
    intro r member
    rw [List.mem_singleton.mp member]
    exact (Reaches.named single (unshadowed single)).gives (List.mem_singleton_self x) found
  · rename_i other
    have other := Bool.eq_false_iff.mpr other
    split at resolved
    · cases resolved
    · rename_i owner holder inner
      split at resolved
      · cases resolved
      · rename_i plain
        have plain := Bool.eq_false_iff.mpr plain
        split at resolved
        · rename_i usual
          exact gives_of_resolveOnReceiver other (by simpa using usual) inner plain (Except.ok.inj resolved)
        · rename_i unusual
          split at resolved
          · cases resolved
          · rename_i hint annotated
            split at resolved
            · cases resolved
            · rename_i fixed
              cases read : TypeHint.names hint with
              | error e =>
                rw [read] at resolved
                cases resolved
              | ok names =>
                rw [read] at resolved
                exact gives_of_resolveOnClasses other (by simpa using unusual) inner plain annotated
                  (Bool.eq_false_iff.mpr fixed) read (Except.ok.inj resolved)

-- A class name that a parameter hides is left out here.
theorem gives_of_resolve {func : Expr} {callee : Callee}
    (unshadowed : ∀ x, func.receiver? = some x → ns.isClass x → Scope.shadows above x = false)
    (resolved : ns.resolve cuts above func = .ok (some callee)) : ∀ r ∈ callee.methods, ns.Gives cuts above func r := by
  cases func with
  | name l x ctx =>
    rw [resolve] at resolved
    split at resolved
    · cases resolved
    · rename_i free
      exact gives_of_resolveName (Bool.eq_false_iff.mpr free) (Except.ok.inj resolved)
  | «attribute» l value method ctx =>
    cases value with
    | name k x ctx' => exact gives_of_resolveAttribute (unshadowed x rfl) resolved
    | _ => cases resolved
  | _ => cases resolved

theorem gives_through_instance {func : Expr} {callee : Callee} {x : String} (receiver : func.receiver? = some x)
    (other : ns.isClass x = false) (resolved : ns.resolve cuts above func = .ok (some callee)) :
    ∀ r ∈ callee.methods, ∃ classes, ns.Reaches cuts above func .onInstance classes r.name ∧ r.owner ∈ classes ∧
      ns.isOverridden r.owner r.name = false ∧ ns.method? r.owner r.name true = some r := by
  intro r member
  have unshadowed : ∀ y, func.receiver? = some y → ns.isClass y → Scope.shadows above y = false := by
    intro y same single
    rw [receiver] at same
    cases same
    rw [other] at single
    cases single
  obtain ⟨access, classes, reaches, listed, found⟩ := gives_of_resolve unshadowed resolved r member
  obtain ⟨rfl, kept⟩ := reaches.through_instance receiver other
  exact ⟨classes, reaches, listed, kept r.owner listed, found⟩

theorem resolve_of_reaches {func : Expr} {access : Access} {classes : List String} {r : String → Method}
    (reaches : ns.Reaches cuts above func access classes method)
    (found : ∀ c ∈ classes, ns.method? c method access.fills = some (r c)) :
    ns.resolve cuts above func = .ok (some (Callee.ofMethods method (classes.map r))) := by
  have one : ∀ x, classes = [x] → Callee.ofMethods method (classes.map r) = .method (r x) := by
    rintro x rfl
    rfl
  cases reaches with
  | @named _ _ _ _ x _ single free =>
    have found : ns.method? x method false = some (r x) := found x List.mem_cons_self
    rw [resolve, resolveAttribute, if_pos single, found, one x rfl]
    rfl
  | @made _ _ x c free once other known bare =>
    have found : ns.method? x "__init__" true = some (r x) := found x List.mem_cons_self
    have bare : (!c.head.decorators.isEmpty || !c.head.keywords.isEmpty) = false := by simp [bare]
    rw [resolve, free, resolveName, once, other, known, one x rfl]
    simp [bare, found]
  | @received _ _ _ _ _ x _ owner head _ c first other usual inner plain known same leading receives kept =>
    have found := resolveOnInstance_eq_some_iff.mpr ⟨kept, found head.name List.mem_cons_self⟩
    rw [resolve, resolveAttribute_eq, inner, one _ rfl]
    have usual : (x == "self" || x == "cls") = true := by simpa using usual
    simp [other, plain, usual, resolveOnReceiver_class, known, same, leading, receives, found]
  | @hinted _ _ _ _ x _ owner holder hint names other unusual inner plain annotated fixed read any single kept =>
    have mapped := mapM_eq_some fun c listed => resolveOnInstance_eq_some_iff.mpr ⟨kept c listed, found c listed⟩
    have unusual : (x == "self" || x == "cls") = false := by simpa using unusual
    rw [resolve, resolveAttribute_eq, inner]
    simp only [other, plain, unusual, annotated, fixed, read]
    refine congrArg Except.ok ?_
    rw [resolveOnClasses_eq, if_pos ⟨any, single⟩, mapped, Option.map_some]

-- A method has one definition that counts, and no overloads stand for it.
def Defines (ns : Namespace) (x method : String) (d : FunctionHead) : Prop :=
  ∃ defs, ns.lookupMethod x method = some defs ∧ defs.getLast? = some d ∧
    ∀ e ∈ defs, e.isNeutral ∧ e.isOverload = false

theorem method_of_defines {x : String} {d : FunctionHead} (defines : ns.Defines x method d) (access : Access) :
    ns.method? x method access.fills = some ⟨x, method, [d.filled access]⟩ := by
  obtain ⟨defs, found, last, each⟩ := defines
  refine method_eq_some_iff.mpr ⟨defs, d, found, last, fun e member => (each e member).1, ?_⟩
  have none : defs.filter FunctionHead.isOverload = [] := by
    simpa [List.filter_eq_nil_iff] using fun e member => (each e member).2
  rw [variantsOf, effective, none, last, ← d.variant_of_binding]
  rfl

-- The caller fills all but what the way to the method fills; `self` and `cls` are alike here, whatever method has them.
theorem call_fills_explicit {func : Expr}
    (unshadowed : ∀ x, func.receiver? = some x → ns.isClass x → Scope.shadows above x = false) :
    (∀ callee, ns.resolve cuts above func = .ok (some callee) → ∀ r ∈ callee.methods,
      ∃ access classes, ns.Reaches cuts above func access classes r.name ∧ r.owner ∈ classes ∧
        ∀ d, ns.Defines r.owner r.name d → r.variants = [d.filled access]) ∧
    ∀ access classes method, ns.Reaches cuts above func access classes method →
      ∀ d : String → FunctionHead, (∀ x ∈ classes, ns.Defines x method (d x)) →
        ns.resolve cuts above func =
          .ok (some (.ofMethods method (classes.map fun x => ⟨x, method, [(d x).filled access]⟩))) := by
  constructor
  · intro callee resolved r member
    obtain ⟨access, classes, reaches, listed, found⟩ := gives_of_resolve unshadowed resolved r member
    refine ⟨access, classes, reaches, listed, fun d defines => ?_⟩
    have same := Option.some.inj (found.symm.trans (method_of_defines defines access))
    exact congrArg Method.variants same
  · intro access classes method reaches d defines
    exact resolve_of_reaches reaches fun x listed => method_of_defines (defines x listed) access

def instanceMethod : Stmt := .method "m" [] ["self", "x"] []

def classMethod : Stmt := .method "make" ["classmethod"] ["cls", "obj", "value"] [.callOn "cls" "m" ["obj", "value"]]

def receiverClass : Stmt := .classOf "C" [] [instanceMethod, classMethod]

def classReceiver : Module := ⟨[receiverClass]⟩

theorem call_fills_explicit_classReceiver :
    ∃ d, (ofModule classReceiver).Defines "C" "m" d ∧
      (ofModule classReceiver).resolve [] [] (.attribute none (.name none "C" .load) "m" .load) =
        .ok (some (.method ⟨"C", "m", [d.filled .onClass]⟩)) ∧
      (ofModule classReceiver).resolve [] [.stmt classMethod, .stmt receiverClass]
          (.attribute none (.name none "cls" .load) "m" .load) =
        .ok (some (.method ⟨"C", "m", [d.filled .onInstance]⟩)) := by
  have defines : (ofModule classReceiver).Defines "C" "m" _ := ⟨_, rfl, rfl, by decide⟩
  refine ⟨_, defines, ?_, ?_⟩
  · refine (call_fills_explicit fun x receiver single => rfl).2 .onClass ["C"] "m" (.named rfl rfl) (fun _ => _) ?_
    exact List.forall_mem_singleton.mpr defines
  · refine (call_fills_explicit fun x receiver single => ?_).2 .onInstance ["C"] "m" ?_ (fun _ => _) ?_
    · cases receiver
      cases single
    · have inner : Scope.innermost? [.stmt classMethod, .stmt receiverClass] = some (_, some (.stmt receiverClass)) := rfl
      have known : (ofModule classReceiver).classes.find? "C" = some _ := rfl
      have kept : (ofModule classReceiver).isOverridden "C" "m" = false := by decide
      exact .received rfl (.inr rfl) inner rfl known rfl rfl rfl kept
    · exact List.forall_mem_singleton.mpr defines

-- `cls` is the class here and fills nothing, but one parameter is left for the two arguments.
theorem class_receiver_taken_for_instance :
    ∃ d, (ofModule classReceiver).Defines "C" "m" d ∧ d.binding = .onInstance ∧
      (callSites (ofModule classReceiver) classReceiver).toOption.map
          (List.map fun site => (site.arguments, site.callee.map Callee.variants)) =
        some [(2, some [d.filled .onInstance])] ∧
      d.explicit .onClass = ["self", "x"] ∧ d.explicit .onInstance = ["x"] := by
  refine ⟨_, ⟨_, rfl, rfl, by decide⟩, by decide, ?_, by decide, by decide⟩
  decide +kernel

end Namespace

end Whittle
