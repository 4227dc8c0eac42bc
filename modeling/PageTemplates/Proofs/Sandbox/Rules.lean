import Mathlib
import PageTemplates.FunctionTable
import PageTemplates.Proofs.Results
import PageTemplates.Proofs.Sandbox.Methods
import PageTemplates.Test

/-!
Binding arguments gives harmless values, and applying a rule obeys if the rule does. The tests are
such rules.
-/

namespace PageTemplates

open Std.Do Run

set_option mvcgen.warning false

namespace Signature

variable [Regime] {signature : Signature} {function : Text} {given : Given} {bound : Bound}

theorem harmless_bindNamed {accepting : Bool} {known : List String} {named : List (Text × Value)}
    {before : Bound} (fine : harmless named) (beforeFine : harmless before)
    (binds : bindNamed function accepting known named before = .ok bound) : harmless bound := by
  fun_induction bindNamed with
  | case1 before => exact Except.ok.inj binds ▸ beforeFine
  | case2 => cases binds
  | case3 => grind
  | case4 => grind
  | case5 => cases binds

/-- What arguments by place are bound to. -/
theorem harmless_placed (fine : harmless given.positional) (parameters : List Parameter) :
    harmless ((parameters.zip given.positional).map fun (parameter, value) =>
      (parameter.name, value)) := by
  refine (harmless_map _ _).2 fun pair inside => ⟨trivial, ?_⟩
  exact fine pair.2 (List.of_mem_zip inside).2

/-- The defaults that stand for what is not given. -/
theorem harmless_defaults {parameters : List Parameter} (fine : harmless parameters)
    (named : Bound) :
    harmless (parameters.filterMap fun parameter =>
      if (named.values.lookup parameter.name).isSome then none
      else parameter.default.map fun value => (parameter.name, value)) := by
  intro pair inside
  obtain ⟨parameter, among, same⟩ := List.mem_filterMap.1 inside
  split at same
  · cases same
  · obtain ⟨value, default, rfl⟩ := Option.map_eq_some_iff.1 same
    exact ⟨trivial, fine parameter among value default⟩

/-- What parameters are bound to is harmless, as their defaults are and what is given. -/
@[grind →]
theorem harmless_bind (fine : harmless signature) (givenFine : harmless given)
    (binds : signature.bind function given = .ok bound) : harmless bound := by
  obtain ⟨named, namedBinds, binds⟩ := Results.bind_ok.1 binds
  have start := harmless_placed givenFine.1 (signature.ofKind .positional)
  have namedFine := harmless_bindNamed givenFine.2
    ⟨start, harmless_nil.2 trivial, harmless_nil.2 trivial⟩ namedBinds
  have known : harmless (signature.ofKind .positional ++ signature.ofKind .namedOnly) :=
    fun parameter inside => fine parameter <|
      (List.mem_append.1 inside).elim List.mem_of_mem_filter List.mem_of_mem_filter
  simp only [] at binds
  split at binds
  · cases binds
  split at binds
  · cases binds
  split at binds
  · cases binds
  rw [← Except.ok.inj binds]
  refine ⟨(harmless_append _ _).2 ⟨namedFine.1, harmless_defaults known named⟩, ?_, namedFine.2.2⟩
  exact harmless_drop givenFine.1 _

end Signature

section Bindings

variable [Regime]

@[grind .]
theorem harmless_get {bound : Bound} (fine : harmless bound) (name : String) :
    harmless (bound.get name) :=
  harmless_getD (harmless_lookup fine.1 name) (harmless_plain rfl)

instance : Checkable RuleShape where
  passes
    | .signature parameters => harmless parameters
    | .fixed _ _ _ => True

@[grind =]
theorem harmless_signature (parameters : Signature) :
    harmless (RuleShape.signature parameters) ↔ harmless parameters := Iff.rfl

@[grind .]
theorem harmless_fixed (owner : String) (count : Nat) (wording : ArityWording) :
    harmless (RuleShape.fixed owner count wording) := trivial

@[grind .]
theorem harmless_required (name : String) : harmless (Parameter.required name) :=
  harmless_none.2 trivial

/-- Whether the default of a parameter, if it has one, is plain. -/
def Parameter.isPlain (parameter : Parameter) : Bool := parameter.default.all Value.isPlain

theorem harmless_parameters {parameters : List Parameter}
    (plain : parameters.all Parameter.isPlain = true) : harmless parameters := by
  intro parameter inside value default
  have checked := List.all_eq_true.1 plain parameter inside
  rw [Parameter.isPlain, default] at checked
  exact harmless_plain checked

variable [Watch]

/-- A rule whose work obeys. -/
structure Rule.Obeys (rule : Rule) : Prop where
  shape : harmless rule.shape
  body : ∀ context bound, harmless bound → ⦃watched⦄ rule.body context bound ⦃kept⦄

end Bindings

namespace Rule

variable [Regime]

theorem harmless_bindFixed {title owner : String} {count : Nat} {wording : ArityWording}
    {given : Given} {bound : Bound} (fine : harmless given)
    (binds : bindFixed title owner count wording given = .ok bound) : harmless bound := by
  have placed : harmless (placeNames.zip given.positional) := harmless_zip placeNames fine.1
  have only : bound = ⟨placeNames.zip given.positional, [], []⟩ := by
    cases wording
    all_goals grind [bindFixed]
  exact only ▸ ⟨placed, harmless_nil.2 trivial, harmless_nil.2 trivial⟩

@[grind →]
theorem harmless_binding {rule : Rule} {given : Given} {bound : Bound}
    (shape : harmless rule.shape) (fine : harmless given)
    (binds : rule.binding given = .ok bound) : harmless bound := by
  unfold binding at binds
  cases form : rule.shape with
  | fixed owner count wording =>
    rw [form] at binds
    exact harmless_bindFixed fine binds
  | signature parameters =>
    rw [form] at binds shape
    have companion : harmless (⟨.none :: given.positional, given.named⟩ : Given) :=
      ⟨(harmless_cons _ _).2 ⟨harmless_plain rfl, fine.1⟩, fine.2⟩
    simp only [] at binds
    split at binds
    · exact Signature.harmless_bind shape fine binds
    · refine Signature.harmless_bind ?_ companion binds
      exact (harmless_cons _ _).2 ⟨harmless_required _, shape⟩

@[grind .]
theorem harmless_fallbackOf {value : Value} (fine : harmless value) :
    harmless (fallbackOf value) := by
  intro other same
  unfold fallbackOf at same
  split at same <;> cases same
  exact fine

@[grind .]
theorem harmless_orDefault {value default : Value} (fine : harmless value)
    (otherwise : harmless default) : harmless (orDefault value default) :=
  harmless_getD (harmless_fallbackOf fine) otherwise

variable [Watch]

/-- A rule that obeys can be applied. -/
@[spec]
theorem keeps_apply (rule : Rule) (context : Option Ref) (given : Given) (obeys : rule.Obeys)
    (fine : harmless given) : ⦃watched⦄ apply rule context given ⦃kept⦄ := by
  have body := obeys.body
  have shape := obeys.shape
  mvcgen [apply, body]
  all_goals grind -ring -linarith -order

@[spec]
theorem keeps_escapes (context : Option Ref) : ⦃watched⦄ escapes context ⦃kept⦄ := by
  mvcgen [escapes]
  all_goals grind -ring -linarith -order

@[spec]
theorem keeps_undefinedWith (hint : Text) : ⦃watched⦄ undefinedWith hint ⦃kept⦄ := by
  mvcgen [undefinedWith]
  all_goals grind -ring -linarith -order

@[spec]
theorem keeps_soft (value : Value) (fine : harmless value) : ⦃watched⦄ soft value ⦃kept⦄ := by
  mvcgen [soft]
  all_goals grind -ring -linarith -order

@[spec]
theorem keeps_foldedCase (caseSensitive : Bool) (value : Value) (fine : harmless value) :
    ⦃watched⦄ foldedCase caseSensitive value ⦃kept⦄ := by
  mvcgen [foldedCase]
  all_goals grind -ring -linarith -order

@[spec]
theorem keeps_follow (path : List Value) (fallback : Option Value) (value : Value)
    (fallbackFine : harmless fallback) (fine : harmless value) :
    ⦃watched⦄ follow path fallback value ⦃kept⦄ := by
  induction path generalizing value with
  | nil =>
    mvcgen [follow]
  | cons step rest ih =>
    cases fallback
    all_goals mvcgen [follow, ih]
    all_goals grind -ring -linarith -order

@[spec]
theorem keeps_hasMarkup (value : Value) : ⦃watched⦄ hasMarkup value ⦃kept⦄ := by
  mvcgen [hasMarkup]
  all_goals grind -ring -linarith -order

@[spec]
theorem keeps_flag (bound : Bound) (name : String) : ⦃watched⦄ flag bound name ⦃kept⦄ := by
  mvcgen [flag]

@[spec]
theorem keeps_lazily (filter : String) (value : Value) (given : Given) (context : Option Ref)
    (fine : harmless value) (givenFine : harmless given) :
    ⦃watched⦄ lazily filter value given context ⦃kept⦄ := by
  mvcgen [lazily]
  all_goals grind -ring -linarith -order

theorem obeys_signed {title : String} {companion : Companion} {parameters : Signature}
    {body : Option Ref → Bound → Run Value} (plain : parameters.all Parameter.isPlain = true)
    (keeps : ∀ context bound, harmless bound → ⦃watched⦄ body context bound ⦃kept⦄) :
    (signed title companion parameters body).Obeys := ⟨harmless_parameters plain, keeps⟩

theorem obeys_plain {title : String} {companion : Companion} {parameters : Signature}
    {body : Bound → Run Value} (plain : parameters.all Parameter.isPlain = true)
    (keeps : ∀ bound, harmless bound → ⦃watched⦄ body bound ⦃kept⦄) :
    (Rule.plain title companion parameters body).Obeys :=
  obeys_signed plain fun _ => keeps

theorem obeys_fixed {title owner : String} {companion : Companion} {count : Nat}
    {wording : ArityWording} {body : Option Ref → Bound → Run Value}
    (keeps : ∀ context bound, harmless bound → ⦃watched⦄ body context bound ⦃kept⦄) :
    Rule.Obeys ⟨title, companion, .fixed owner count wording, body⟩ := ⟨trivial, keeps⟩

end Rule

namespace Test

variable [Regime] [Watch]

@[spec]
theorem keeps_hasRemainder (value divisor : Value) (rest : Int) (fine : harmless value)
    (divisorFine : harmless divisor) :
    ⦃watched⦄ hasRemainder value divisor rest ⦃kept⦄ := by
  mvcgen [hasRemainder]
  all_goals grind -ring -linarith -order

@[spec]
theorem keeps_isSequence (value : Value) : ⦃watched⦄ isSequence value ⦃kept⦄ := by
  mvcgen [isSequence]
  all_goals grind -ring -linarith -order

@[spec]
theorem keeps_isIterable (value : Value) (fine : harmless value) :
    ⦃watched⦄ isIterable value ⦃kept⦄ := by
  mvcgen [isIterable]
  all_goals grind -ring -linarith -order

@[spec]
theorem keeps_isCallable (value : Value) : ⦃watched⦄ isCallable value ⦃kept⦄ := by
  mvcgen [isCallable]
  all_goals grind -ring -linarith -order

@[spec]
theorem keeps_isMapping (value : Value) : ⦃watched⦄ isMapping value ⦃kept⦄ := by
  mvcgen [isMapping]
  all_goals grind -ring -linarith -order

@[spec]
theorem keeps_isNamed (names : List String) (value : Value) :
    ⦃watched⦄ isNamed names value ⦃kept⦄ := by
  mvcgen [isNamed]

theorem simple_obeys {title : String} {test : Value → Run Bool}
    (keeps : ∀ value, harmless value → ⦃watched⦄ test value ⦃kept⦄) :
    (simple title test).Obeys := by
  refine Rule.obeys_plain rfl fun bound fine => ?_
  mvcgen [keeps]
  all_goals grind -ring -linarith -order

theorem comparison_obeys (title : String) (operator : Template.CompareOperator) :
    (comparison title operator).Obeys := by
  refine Rule.obeys_fixed fun context bound fine => ?_
  mvcgen
  all_goals grind -ring -linarith -order

/-- Every test obeys. -/
theorem rules_obey : ∀ entry ∈ rules, entry.2.Obeys := by
  simp only [rules, List.forall_mem_cons, List.not_mem_nil, false_implies, implies_true, and_true]
  and_intros
  all_goals first
    | exact comparison_obeys _ _
    | refine simple_obeys fun value fine => ?_
    | refine Rule.obeys_plain rfl fun bound fine => ?_
    | refine Rule.obeys_fixed fun context bound fine => ?_
  all_goals mvcgen
  all_goals grind -ring -linarith -order

end Test

end PageTemplates
