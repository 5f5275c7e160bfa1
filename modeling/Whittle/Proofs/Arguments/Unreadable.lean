import Whittle.Proofs.Arguments.SecondRun

namespace Whittle

-- Why the annotation of a parameter cannot be read, if it is so.
def Param.fault? (p : Param) : Option ParseError :=
  p.hint.bind fun hint =>
    match TypeHint.names hint with
    | .ok _ => none
    | .error e => some e

def Node.fault? : Node → Option ParseError
  | .param p => p.fault?
  | _ => none

-- The nodes hold a parameter whose annotation is refused for this reason.
def Refuses (nodes : List Node) (e : ParseError) : Prop := ∃ n ∈ nodes, n.fault? = some e

def Module.isReadable (m : Module) : Bool := (Node.module m).walk.all fun n => n.fault?.isNone

theorem Module.not_refuses {m : Module} (readable : m.isReadable) (e : ParseError) :
    ¬Refuses (Node.module m).walk e := by
  rintro ⟨n, member, fault⟩
  have none := List.all_eq_true.mp readable n member
  simp [fault] at none

theorem Scope.mem_walk_of_hint {above : List Node} {s : Scope} (member : s ∈ enclosing above) {receiver : String}
    {hint : Expr} (hinted : s.hint? receiver = some hint) :
    ∃ p : Param, p.hint = some hint ∧ .param p ∈ s.node.walk := by
  obtain ⟨p, found, given⟩ := Option.bind_eq_some_iff.mp hinted
  have listed : Node.param p ∈ (Node.params s.params).children := by
    have inside := List.mem_of_find?_eq_some found
    simp only [Params.positional, List.mem_append] at inside
    simp only [Node.children, Params.children, List.mem_append, List.mem_map, Node.param.injEq, exists_eq_right]
    tauto
  have below : Node.params s.params ∈ s.node.children := by
    obtain ⟨n, -, opened⟩ := List.mem_filterMap.mp member
    unfold ofNode? at opened
    split at opened
    · cases opened
      exact List.mem_cons_self
    · cases opened
      exact List.mem_cons_self
    · cases opened
  refine ⟨p, given, Node.mem_walk_of_child below ?_⟩
  exact Node.mem_walk_of_child listed (Node.self_mem_walk _)

theorem Namespace.refuses_of_resolveAttribute {ns : Namespace} {cuts : Cuts} {above : List Node}
    {receiver method : String} {e : ParseError} (failed : ns.resolveAttribute cuts above receiver method = .error e) :
    ∃ a ∈ above, Refuses a.walk e := by
  rw [resolveAttribute] at failed
  split at failed
  · cases failed
  · cases around : above.dropWhile fun n => (Scope.ofNode? n).isNone with
    | nil => simp [around] at failed
    | cons node outer =>
      rw [around] at failed
      cases opened : Scope.ofNode? node with
      | none => simp [opened] at failed
      | some owner =>
        have member := Scope.mem_enclosing_of_innermost around opened
        simp only [opened] at failed
        split at failed
        · cases failed
        · split at failed
          · cases failed
          · cases hinted : owner.hint? receiver with
            | none => simp [hinted] at failed
            | some hint =>
              simp only [hinted] at failed
              split at failed
              · cases failed
              · cases read : TypeHint.names hint with
                | ok names => simp [read, bind, Except.bind, pure, Except.pure] at failed
                | error reason =>
                  rw [read] at failed
                  cases failed
                  obtain ⟨p, given, inside⟩ := Scope.mem_walk_of_hint member hinted
                  refine ⟨owner.node, (Scope.node_of_mem_enclosing member).1, .param p, inside, ?_⟩
                  simp [Node.fault?, Param.fault?, given, read]

theorem Namespace.refuses_of_resolve {ns : Namespace} {cuts : Cuts} {above : List Node} {func : Expr} {e : ParseError}
    (failed : ns.resolve cuts above func = .error e) : ∃ a ∈ above, Refuses a.walk e := by
  unfold resolve at failed
  split at failed
  · cases failed
  · exact refuses_of_resolveAttribute failed
  · cases failed

theorem Node.Located.refuses_of_cut {ns : Namespace} {cuts : Cuts} {x : Node.Located} {e : ParseError}
    (failed : x.cut? ns cuts = .error e) : ∃ a ∈ x.ancestors, Refuses a.walk e := by
  unfold cut? at failed
  split at failed
  · rename_i l func args keywords call
    rw [ExtraArguments.cut?] at failed
    split at failed
    · cases failed
    · cases resolved : ns.resolve cuts x.ancestors func with
      | ok callee => simp [resolved, bind, Except.bind, pure, Except.pure] at failed
      | error reason =>
        rw [resolved] at failed
        cases failed
        exact Namespace.refuses_of_resolve resolved
  · cases failed

theorem failure_of_traverse {ns : Namespace} {xs : List Node.Located} {changes : Nat} {d : Draft} {f : Failure}
    (failed : (ActiveRule.traverse ns xs [⟨.extraArguments, changes⟩] d).failure = some f) :
    ∃ x ∈ xs, ∃ cuts e, x.cut? ns cuts = .error e ∧ f = .source e := by
  induction xs generalizing changes d with
  | nil => cases failed
  | cons x rest ih =>
    rw [ActiveRule.traverse, visitAll_calls] at failed
    cases judged : x.cut? ns d.cuts with
    | error e =>
      rw [judged] at failed
      exact ⟨x, List.mem_cons_self, d.cuts, e, judged, (Option.some.inj failed).symm⟩
    | ok made =>
      rw [judged] at failed
      cases made with
      | none =>
        obtain ⟨y, member, found⟩ := ih failed
        exact ⟨y, List.mem_cons_of_mem _ member, found⟩
      | some made =>
        obtain ⟨y, member, found⟩ := ih failed
        exact ⟨y, List.mem_cons_of_mem _ member, found⟩

theorem Engine.failure_onCalls {changes : Nat} {ambient : Ambient} {m : Module} {f : Failure}
    (failed : ((onCalls changes ambient).inspect m).failure = some f) :
    ∃ e, f = .source e ∧ Refuses (Node.module m).walk e := by
  obtain ⟨x, member, cuts, e, judged, rfl⟩ := failure_of_traverse failed
  obtain ⟨a, higher, n, inside, fault⟩ := x.refuses_of_cut judged
  refine ⟨e, rfl, n, ?_, fault⟩
  obtain outside | here := Node.mem_walk_of_ancestor member higher
  · cases outside
  · exact (Node.walk_sublist here).subset inside

end Whittle
