import Mathlib
import PageTemplates.Filter
import PageTemplates.Proofs.Sandbox.ContainerMethods
import PageTemplates.Proofs.Sandbox.Rules
import PageTemplates.Value.AsJson
import PageTemplates.Value.Pretty

/-!
Showing values as documents, and for inspection, obeys, and so do every filter and every test. The
filter for indentation may be applied where the environment has it.
-/

namespace PageTemplates

open Std.Do Run Rule

set_option mvcgen.warning false

variable [Regime] [Watch]

namespace AsJson

instance : Inert Json := .plain
instance : Inert Json.Layout := .plain

@[spec]
theorem keeps_memberName (key : Value) : ⦃watched⦄ memberName key ⦃kept⦄ := by
  mvcgen [memberName]
  all_goals grind -ring -linarith -order

@[spec]
theorem keeps_inOrder (entries : List (Value × Value)) (fine : harmless entries) :
    ⦃watched⦄ inOrder entries ⦃kept⦄ := by
  mvcgen [inOrder]
  all_goals grind -ring -linarith -order

@[spec]
theorem keeps_withoutDocument (value : Value) : ⦃watched⦄ withoutDocument value ⦃kept⦄ := by
  mvcgen [withoutDocument]
  all_goals grind -ring -linarith -order

@[spec]
theorem keeps_requireNew (enclosing : List Ref) (address : Ref) :
    ⦃watched⦄ requireNew enclosing address ⦃kept⦄ := by
  mvcgen [requireNew]
  all_goals grind -ring -linarith -order

@[spec]
theorem keeps_documentWith (sorts : Bool) (depth : Nat) (enclosing : List Ref) (value : Value) :
    ⦃watched⦄ documentWith sorts depth enclosing value ⦃kept⦄ := by
  induction depth generalizing enclosing value with
  | zero =>
    mvcgen [documentWith]
    all_goals grind -ring -linarith -order
  | succ depth ih =>
    mvcgen [documentWith, ih]
    all_goals grind -ring -linarith -order

@[spec]
theorem keeps_document (sorts : Bool) (value : Value) :
    ⦃watched⦄ document sorts value ⦃kept⦄ := keeps_documentWith _ _ _ _

@[spec]
theorem keeps_layoutOf (indent : Value) : ⦃watched⦄ layoutOf indent ⦃kept⦄ := by
  mvcgen [layoutOf]
  all_goals grind -ring -linarith -order

@[spec]
theorem keeps_safeText (sorts : Bool) (value indent : Value) :
    ⦃watched⦄ safeText sorts value indent ⦃kept⦄ := by
  mvcgen [safeText]
  all_goals grind -ring -linarith -order

end AsJson

namespace Pretty

@[spec]
theorem keeps_keyBefore (first second : Value) : ⦃watched⦄ keyBefore first second ⦃kept⦄ := by
  mvcgen [keyBefore]
  all_goals grind -ring -linarith -order

@[spec]
theorem keeps_insertEntry (entry : Value × Value) (entries : List (Value × Value))
    (entryFine : harmless entry) (fine : harmless entries) :
    ⦃watched⦄ insertEntry entry entries ⦃kept⦄ := by
  induction entries with
  | nil =>
    mvcgen [insertEntry]
    all_goals grind -ring -linarith -order
  | cons other rest ih =>
    mvcgen [insertEntry, ih]
    all_goals grind -ring -linarith -order

@[spec]
theorem keeps_inOrder (entries : List (Value × Value)) (fine : harmless entries) :
    ⦃watched⦄ inOrder entries ⦃kept⦄ :=
  keeps_foldlM _ _ _ (harmless_nil.2 trivial) fun entry inside so soFine =>
    keeps_insertEntry entry so (fine entry inside) soFine

@[spec]
theorem keeps_onLine (depth : Nat) (value : Value) : ⦃watched⦄ onLine depth value ⦃kept⦄ := by
  induction depth generalizing value with
  | zero =>
    mvcgen [onLine]
  | succ depth ih =>
    mvcgen [onLine, ih]
    all_goals grind -ring -linarith -order

@[spec]
theorem keeps_itemLines (form : Int → Int → Value → Run Text) (indent allowance : Int)
    (items : List Value)
    (keeps : ∀ indent allowance item, ⦃watched⦄ form indent allowance item ⦃kept⦄) :
    ⦃watched⦄ itemLines form indent allowance items ⦃kept⦄ := by
  fun_induction itemLines with
  | case1 => exact keeps_pure (harmless_nil.2 trivial)
  | case2 item =>
    mvcgen [keeps]
    all_goals grind -ring -linarith -order
  | case3 item rest _ ih =>
    mvcgen [keeps, ih]
    all_goals grind -ring -linarith -order

@[spec]
theorem keeps_entryLines (key : Value → Run Text) (form : Int → Int → Value → Run Text)
    (indent allowance : Int) (entries : List (Value × Value))
    (keyKeeps : ∀ name, ⦃watched⦄ key name ⦃kept⦄)
    (keeps : ∀ indent allowance item, ⦃watched⦄ form indent allowance item ⦃kept⦄) :
    ⦃watched⦄ entryLines key form indent allowance entries ⦃kept⦄ := by
  induction entries with
  | nil => exact keeps_pure (harmless_nil.2 trivial)
  | cons entry rest ih =>
    mvcgen [entryLines, keyKeeps, keeps, ih]
    all_goals grind -ring -linarith -order

theorem keeps_shownAt (depth : Nat) (indent allowance : Int) (outermost : Bool) (value : Value) :
    ⦃watched⦄ shownAt depth indent allowance outermost value ⦃kept⦄ := by
  induction depth generalizing indent allowance outermost value with
  | zero =>
    mvcgen [shownAt]
  | succ depth ih =>
    mvcgen [shownAt, ih]
    all_goals grind -ring -linarith -order

@[spec]
theorem keeps_shown (value : Value) : ⦃watched⦄ shown value ⦃kept⦄ := keeps_shownAt _ _ _ _ _

end Pretty

namespace NumberFilters

omit [Regime] [Watch] in
@[grind →]
theorem common_of_isBadOperand {failure : Failure} (bad : isBadOperand failure = true) :
    failure.IsCommon := by
  constructor <;> intro cause <;> simp [isBadOperand, cause] at bad

@[spec]
theorem keeps_writtenNumber (value base : Value) (valueFine : harmless value)
    (baseFine : harmless base) :
    ⦃watched⦄ writtenNumber value base ⦃kept⦄ := by
  mvcgen [writtenNumber]
  all_goals grind -ring -linarith -order

@[spec]
theorem keeps_wholePart (value : Value) (fine : harmless value) :
    ⦃watched⦄ wholePart value ⦃kept⦄ := by
  mvcgen [wholePart]
  all_goals grind -ring -linarith -order

@[spec]
theorem keeps_wholeNumber (bound : Bound) (fine : harmless bound) :
    ⦃watched⦄ wholeNumber bound ⦃kept⦄ := by
  mvcgen [wholeNumber]
  all_goals grind -ring -linarith -order

@[spec]
theorem keeps_magnitude (value : Value) (fine : harmless value) :
    ⦃watched⦄ magnitude value ⦃kept⦄ := by
  mvcgen [magnitude]
  all_goals grind -ring -linarith -order

@[spec]
theorem keeps_roundedToward (upward : Bool) (value places : Value) (valueFine : harmless value)
    (placesFine : harmless places) :
    ⦃watched⦄ roundedToward upward value places ⦃kept⦄ := by
  mvcgen [roundedToward]
  all_goals grind -ring -linarith -order

@[spec]
theorem keeps_roundedBy (bound : Bound) (fine : harmless bound) :
    ⦃watched⦄ roundedBy bound ⦃kept⦄ := by
  mvcgen [roundedBy]
  all_goals grind -ring -linarith -order

@[spec]
theorem keeps_fileSize (bound : Bound) :
    ⦃watched⦄ fileSize bound ⦃kept⦄ := by
  mvcgen [fileSize]
  all_goals grind -ring -linarith -order

theorem rules_obey : ∀ entry ∈ rules, entry.2.Obeys := by
  simp only [rules, List.forall_mem_cons, List.not_mem_nil, false_implies, implies_true, and_true]
  and_intros
  all_goals first
    | refine obeys_plain rfl fun bound fine => ?_
    | refine obeys_fixed fun context bound fine => ?_
  all_goals mvcgen
  all_goals grind -ring -linarith -order

end NumberFilters

namespace SequenceFilters

@[spec]
theorem keeps_firstOf (value : Value) (fine : harmless value) :
    ⦃watched⦄ firstOf value ⦃kept⦄ := by
  mvcgen [firstOf]
  all_goals grind -ring -linarith -order

@[spec]
theorem keeps_someOf (value : Value) (fine : harmless value) :
    ⦃watched⦄ someOf value ⦃kept⦄ := by
  mvcgen [someOf]
  all_goals grind -ring -linarith -order

@[spec]
theorem keeps_fromLast (kind : String) (items : List Value) (fine : harmless items) :
    ⦃watched⦄ fromLast kind items ⦃kept⦄ := by
  mvcgen [fromLast]
  all_goals grind -ring -linarith -order

@[spec]
theorem keeps_backwards? (value : Value) (fine : harmless value) :
    ⦃watched⦄ backwards? value ⦃kept⦄ := by
  mvcgen [backwards?]
  all_goals grind -ring -linarith -order

@[spec]
theorem keeps_lastOf (value : Value) (fine : harmless value) :
    ⦃watched⦄ lastOf value ⦃kept⦄ := by
  mvcgen [lastOf]
  all_goals grind -ring -linarith -order

@[spec]
theorem keeps_reversedOf (value : Value) (fine : harmless value) :
    ⦃watched⦄ reversedOf value ⦃kept⦄ := by
  mvcgen [reversedOf]
  all_goals grind -ring -linarith -order

@[spec]
theorem keeps_itemsMethod (value : Value) (fine : harmless value) :
    ⦃watched⦄ itemsMethod value ⦃kept⦄ := by
  mvcgen [itemsMethod]
  all_goals grind -ring -linarith -order

@[spec]
theorem keeps_sortedEntries (bound : Bound) (fine : harmless bound) :
    ⦃watched⦄ sortedEntries bound ⦃kept⦄ := by
  mvcgen [sortedEntries]
  all_goals grind -ring -linarith -order

@[spec]
theorem keeps_sortKey (caseSensitive : Bool) (paths : List (List Value)) (item : Value)
    (fine : harmless item) :
    ⦃watched⦄ sortKey caseSensitive paths item ⦃kept⦄ := by
  mvcgen [sortKey]
  all_goals grind -ring -linarith -order

@[spec]
theorem keeps_sorted (bound : Bound) (fine : harmless bound) :
    ⦃watched⦄ sorted bound ⦃kept⦄ := by
  mvcgen [sorted]
  all_goals grind -ring -linarith -order

@[spec]
theorem keeps_keyed (caseSensitive : Bool) (path : List Value) (fallback : Option Value)
    (item : Value) (fallbackFine : harmless fallback) (fine : harmless item) :
    ⦃watched⦄ keyed caseSensitive path fallback item ⦃kept⦄ := by
  mvcgen [keyed]
  all_goals grind -ring -linarith -order

@[spec]
theorem keeps_extreme (greatest : Bool) (best : Value × Value) (items : List (Value × Value))
    (bestFine : harmless best) (fine : harmless items) :
    ⦃watched⦄ extreme greatest best items ⦃kept⦄ := by
  induction items generalizing best with
  | nil =>
    mvcgen [extreme]
    all_goals grind -ring -linarith -order
  | cons item rest ih =>
    mvcgen [extreme, ih]
    all_goals grind -ring -linarith -order

@[spec]
theorem keeps_extremeOf (greatest : Bool) (bound : Bound) (fine : harmless bound) :
    ⦃watched⦄ extremeOf greatest bound ⦃kept⦄ := by
  mvcgen [extremeOf]
  all_goals grind -ring -linarith -order

@[spec]
theorem keeps_runsOf (items : List (Value × Value)) (fine : harmless items) :
    ⦃watched⦄ runsOf items ⦃kept⦄ := by
  induction items with
  | nil =>
    mvcgen [runsOf]
    all_goals grind -ring -linarith -order
  | cons item rest ih =>
    mvcgen [runsOf, ih]
    all_goals grind -ring -linarith -order

@[spec]
theorem keeps_group (caseSensitive : Bool) (path : List Value) (fallback : Option Value)
    (found : Value × List Value) (fallbackFine : harmless fallback) (fine : harmless found) :
    ⦃watched⦄ group caseSensitive path fallback found ⦃kept⦄ := by
  mvcgen [group]
  all_goals grind -ring -linarith -order

@[spec]
theorem keeps_grouped (bound : Bound) (fine : harmless bound) :
    ⦃watched⦄ grouped bound ⦃kept⦄ := by
  mvcgen [grouped]
  all_goals grind -ring -linarith -order

@[spec]
theorem keeps_summed (bound : Bound) (fine : harmless bound) :
    ⦃watched⦄ summed bound ⦃kept⦄ := by
  have added (items : List Value) (itemsFine : harmless items) (path : List Value) :
      ⦃watched⦄ items.foldlM (fun total item => do binary .add total (← follow path none item))
        (bound.get "start") ⦃kept⦄ := by
    refine keeps_foldlM _ _ _ (harmless_get fine _) fun item inside total totalFine => ?_
    have itemFine := itemsFine item inside
    mvcgen
    all_goals grind -ring -linarith -order
  mvcgen [summed, added, -Spec.foldlM_list]
  all_goals grind -ring -linarith -order

@[spec]
theorem keeps_slice (items : List Value) (each extra : Int) (fill : Value) (place : Nat)
    (itemsFine : harmless items) (fillFine : harmless fill) :
    ⦃watched⦄ slice items each extra fill place ⦃kept⦄ := by
  mvcgen [slice]
  all_goals grind -ring -linarith -order

@[spec]
theorem keeps_slices (value count fill : Value) (valueFine : harmless value)
    (countFine : harmless count) (fillFine : harmless fill) :
    ⦃watched⦄ slices value count fill ⦃kept⦄ := by
  mvcgen [slices]
  all_goals grind -ring -linarith -order

@[spec]
theorem keeps_pairs (value : Value) (fine : harmless value) :
    ⦃watched⦄ pairs value ⦃kept⦄ := by
  mvcgen [pairs]
  all_goals grind -ring -linarith -order

@[spec]
theorem keeps_defaulted (bound : Bound) (fine : harmless bound) :
    ⦃watched⦄ defaulted bound ⦃kept⦄ := by
  mvcgen [defaulted]
  all_goals grind -ring -linarith -order

@[spec]
theorem keeps_memberOf (bound : Bound) (fine : harmless bound) :
    ⦃watched⦄ memberOf bound ⦃kept⦄ := by
  mvcgen [memberOf]
  all_goals grind -ring -linarith -order

theorem lazyRule_obeys {title name : String} {companion : Companion} {parameters : Signature}
    (plain : parameters.all Parameter.isPlain = true) :
    (lazyRule title name companion parameters).Obeys := by
  refine obeys_signed plain fun context bound held => ?_
  have others : harmless (parameters.filterMap fun parameter =>
      bound.values.lookup parameter.name) := by
    intro value inside
    obtain ⟨parameter, -, there⟩ := List.mem_filterMap.1 inside
    exact harmless_looked there held.1
  mvcgen
  all_goals grind -ring -linarith -order

theorem rules_obey : ∀ entry ∈ rules, entry.2.Obeys := by
  simp only [rules, List.forall_mem_cons, List.not_mem_nil, false_implies, implies_true, and_true]
  and_intros
  all_goals first
    | exact lazyRule_obeys rfl
    | refine obeys_plain rfl fun bound fine => ?_
    | refine obeys_fixed fun context bound fine => ?_
  all_goals mvcgen
  all_goals grind -ring -linarith -order

end SequenceFilters

namespace MarkupFilters

@[spec]
theorem keeps_content (value : Value) :
    ⦃watched⦄ content value ⦃kept⦄ := by
  mvcgen [content]
  all_goals grind -ring -linarith -order

@[spec]
theorem keeps_addressPart (inQuery : Bool) (value : Value) :
    ⦃watched⦄ addressPart inQuery value ⦃kept⦄ := by
  mvcgen [addressPart]
  all_goals grind -ring -linarith -order

@[spec]
theorem keeps_pairOf (value : Value) (fine : harmless value) :
    ⦃watched⦄ pairOf value ⦃kept⦄ := by
  mvcgen [pairOf]
  all_goals grind -ring -linarith -order

@[spec]
theorem keeps_isIterable (value : Value) :
    ⦃watched⦄ isIterable value ⦃kept⦄ := by
  mvcgen [isIterable]
  all_goals grind -ring -linarith -order

@[spec]
theorem keeps_addressOf (value : Value) (fine : harmless value) :
    ⦃watched⦄ addressOf value ⦃kept⦄ := by
  mvcgen [addressOf]
  all_goals grind -ring -linarith -order

@[spec]
theorem keeps_attributeOf (key value : Value) :
    ⦃watched⦄ attributeOf key value ⦃kept⦄ := by
  mvcgen [attributeOf]
  all_goals grind -ring -linarith -order

@[spec]
theorem keeps_attributes (context : Option Ref) (bound : Bound) (fine : harmless bound) :
    ⦃watched⦄ attributes context bound ⦃kept⦄ := by
  mvcgen [attributes]
  all_goals grind -ring -linarith -order

@[spec]
theorem keeps_relationOf (bound : Bound) :
    ⦃watched⦄ relationOf bound ⦃kept⦄ := by
  mvcgen [relationOf]
  all_goals grind -ring -linarith -order

@[spec]
theorem keeps_linked (context : Option Ref) (bound : Bound) (fine : harmless bound) :
    ⦃watched⦄ linked context bound ⦃kept⦄ := by
  mvcgen [linked]
  all_goals grind -ring -linarith -order

theorem rules_obey : ∀ entry ∈ rules, entry.2.Obeys := by
  simp only [rules, List.forall_mem_cons, List.not_mem_nil, false_implies, implies_true, and_true]
  and_intros
  all_goals first
    | refine obeys_plain rfl fun bound fine => ?_
    | refine obeys_signed rfl fun context bound fine => ?_
  all_goals mvcgen
  all_goals grind -ring -linarith -order

end MarkupFilters

namespace TextFilters

@[spec]
theorem keeps_method (name : String) (value : Value) (arguments : List Value)
    (fine : harmless value) (argumentsFine : harmless arguments) (gentle : name ∉ changingNames) :
    ⦃watched⦄ method name value arguments ⦃kept⦄ := by
  mvcgen [method]
  all_goals grind -ring -linarith -order

@[spec]
theorem keeps_replaced (value old new : Value) (valueFine : harmless value)
    (oldFine : harmless old) (newFine : harmless new) :
    ⦃watched⦄ replaced value old new ⦃kept⦄ := by
  mvcgen [replaced]
  all_goals grind -ring -linarith -order

@[spec]
theorem keeps_replace (context : Option Ref) (bound : Bound) (fine : harmless bound) :
    ⦃watched⦄ replace context bound ⦃kept⦄ := by
  have gentle : "replace" ∉ changingNames := by decide
  mvcgen [replace]
  all_goals grind -ring -linarith -order

/-- A list that takes in a line break stops the run with the failure that tells so. -/
@[spec]
theorem keeps_failToBreak (value : Value)
    (allowed : Regime.environment.filters.contains "indent" = true) :
    ⦃watched⦄ failToBreak value ⦃kept⦄ := by
  refine keeps_bind (keeps_failIfUndefined value) fun _ _ => ?_
  split
  case h_1 address =>
    refine triple_iff.2 fun setting sound machine going => ?_
    simp only [addBreak, bind_run, world_run]
    cases there : machine.world.items? address with
    | none =>
      have fails : ⦃watched⦄
          (do fail (.unsupportedOperands "+=" (← className (.ref address)) "str") : Run Value)
          ⦃kept⦄ := by
        mvcgen
        all_goals grind -ring -linarith -order
      exact triple_iff.1 fails setting sound machine going
    | some items =>
      refine ⟨⟨going.captures, going.emissions⟩, .inr ⟨rfl, allowed, ?_⟩,
        fun counts => .inl (going.unrefused counts)⟩
      exact ⟨machine.world, address, items, going.world, there, rfl⟩
  all_goals mvcgen
  all_goals grind -ring -linarith -order

@[spec]
theorem keeps_indented (bound : Bound) (fine : harmless bound)
    (allowed : Regime.environment.filters.contains "indent" = true) :
    ⦃watched⦄ indented bound ⦃kept⦄ := by
  mvcgen [indented]
  all_goals grind -ring -linarith -order

@[spec]
theorem keeps_truncated (bound : Bound) (fine : harmless bound) :
    ⦃watched⦄ truncated bound ⦃kept⦄ := by
  mvcgen [truncated]
  all_goals grind -ring -linarith -order

@[spec]
theorem keeps_wrapLine (width separator : Value) (breaksWords hyphens : Bool) (line : Text) :
    ⦃watched⦄ wrapLine width separator breaksWords hyphens line ⦃kept⦄ := by
  mvcgen [wrapLine]
  all_goals grind -ring -linarith -order

@[spec]
theorem keeps_wrapped (bound : Bound) :
    ⦃watched⦄ wrapped bound ⦃kept⦄ := by
  mvcgen [wrapped]
  all_goals grind -ring -linarith -order

@[spec]
theorem keeps_formatted (bound : Bound) (fine : harmless bound) :
    ⦃watched⦄ formatted bound ⦃kept⦄ := by
  mvcgen [formatted]
  all_goals grind -ring -linarith -order

@[spec]
theorem keeps_joinedWith (context : Option Ref) (bound : Bound) (fine : harmless bound) :
    ⦃watched⦄ joinedWith context bound ⦃kept⦄ := by
  mvcgen [joinedWith]
  all_goals grind -ring -linarith -order

theorem methodRule_obeys {name : String} (title : String) (gentle : name ∉ changingNames) :
    (methodRule title name).Obeys := by
  refine obeys_plain rfl fun bound fine => ?_
  mvcgen
  all_goals grind -ring -linarith -order

/-- Every filter on texts obeys; the one for indentation does where it may be applied. -/
theorem rules_obey :
    ∀ entry ∈ rules, Regime.environment.filters.contains entry.1 = true → entry.2.Obeys := by
  have gentle : "center" ∉ changingNames ∧ "strip" ∉ changingNames := by decide
  simp only [rules, List.forall_mem_cons, List.not_mem_nil, false_implies, implies_true, and_true]
  and_intros
  all_goals intro allowed
  all_goals first
    | exact methodRule_obeys _ (by decide)
    | refine obeys_plain rfl fun bound fine => ?_
    | refine obeys_signed rfl fun context bound fine => ?_
  all_goals mvcgen
  all_goals grind -ring -linarith -order

end TextFilters

instance : Checkable Rule := ⟨Rule.Obeys⟩

@[grind =]
theorem harmless_rule {rule : Rule} : harmless rule ↔ rule.Obeys := Iff.rfl

theorem Filter.obeys {name : String} {rule : Rule} (there : rules.lookup name = some rule)
    (allowed : Regime.environment.filters.contains name = true) : rule.Obeys := by
  obtain ⟨before, after, same, -⟩ := List.lookup_eq_some_iff.1 there
  have inside : (name, rule) ∈ rules := same ▸ by simp
  simp only [rules, List.mem_append] at inside
  obtain ((inText | inNumber) | inSequence) | inMarkup := inside
  · exact TextFilters.rules_obey _ inText allowed
  · exact NumberFilters.rules_obey _ inNumber
  · exact SequenceFilters.rules_obey _ inSequence
  · exact MarkupFilters.rules_obey _ inMarkup

theorem Test.obeys {name : String} {rule : Rule} (there : rules.lookup name = some rule) :
    rule.Obeys := by
  obtain ⟨before, after, same, -⟩ := List.lookup_eq_some_iff.1 there
  exact rules_obey (name, rule) (same ▸ by simp)

namespace Run

@[grind .]
theorem harmless_filter (name : String) :
    harmless (ruleOf? Filter.rules Regime.environment.filters name) := by
  intro rule there
  rw [ruleOf?] at there
  split at there
  · exact Filter.obeys there ‹_›
  · cases there

@[grind .]
theorem harmless_test (allowed : List String) (name : String) :
    harmless (ruleOf? Test.rules allowed name) := by
  intro rule there
  rw [ruleOf?] at there
  split at there
  · exact Test.obeys there
  · cases there

@[spec]
theorem keeps_filter? (name : String) : ⦃watched⦄ filter? name ⦃kept⦄ := by
  mvcgen [filter?]
  grind -ring -linarith -order

@[spec]
theorem keeps_test? (name : String) : ⦃watched⦄ test? name ⦃kept⦄ := by
  mvcgen [test?]
  grind -ring -linarith -order

@[spec]
theorem keeps_noRule {Result : Type} (kind : String) (name : Value)
    (known : kind ∈ ["filter", "test"]) :
    ⦃watched⦄ (noRule (Text.ofString kind) name : Run Result) ⦃ending fun _ => False⦄ := by
  mvcgen [noRule]
  all_goals grind -ring -linarith -order

@[spec]
theorem keeps_callFilter (context : Option Ref) (name : Value) (given : Given)
    (fine : harmless given) : ⦃watched⦄ callFilter context name given ⦃kept⦄ := by
  mvcgen [callFilter]
  all_goals grind -ring -linarith -order

@[spec]
theorem keeps_callTest (context : Option Ref) (name : Value) (given : Given)
    (fine : harmless given) : ⦃watched⦄ callTest context name given ⦃kept⦄ := by
  mvcgen [callTest]
  all_goals grind -ring -linarith -order

end Run

end PageTemplates
