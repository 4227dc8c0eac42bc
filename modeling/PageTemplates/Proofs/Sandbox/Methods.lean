import Mathlib
import PageTemplates.Proofs.Sandbox.ContainerMethods
import PageTemplates.Proofs.Sandbox.Members
import PageTemplates.Value.Method
import PageTemplates.Value.TextMethods

/-!
Calling methods of texts obeys: what they come to are texts, numbers and collections of texts.
Calling methods of numbers, bytes and dates obeys as well, and so does calling a method of any
value.
-/

namespace PageTemplates.TextMethods

open Std.Do Run

set_option mvcgen.warning false

instance : Inert Text.Encoding := .plain
instance : Inert (Except Text Text.Fallback) := .plain
instance : Inert (CodePoint → Bool) := .plain
instance : Inert Braces.Formatter := .plain

variable [Regime] [Watch]

omit [Watch] in
@[grind .]
theorem harmless_like (model : Value) (content : Text) : harmless (model.like content) := by
  unfold Value.like
  split <;> exact harmless_plain rfl

@[spec]
theorem keeps_needle (value : Value) :
    ⦃watched⦄ needle value ⦃kept⦄ := by
  mvcgen [needle]
  all_goals grind -ring -linarith -order

@[spec]
theorem keeps_replacement (place : Text) (value : Value) :
    ⦃watched⦄ replacement place value ⦃kept⦄ := by
  mvcgen [replacement]
  all_goals grind -ring -linarith -order

@[spec]
theorem keeps_window (text : Text) (bounds : List Value) :
    ⦃watched⦄ window text bounds ⦃kept⦄ := by
  mvcgen [window]
  all_goals grind -ring -linarith -order

@[spec]
theorem keeps_search (last : Bool) (text : Text) (arguments : List Value) :
    ⦃watched⦄ search last text arguments ⦃kept⦄ := by
  mvcgen [search]
  all_goals grind -ring -linarith -order

@[spec]
theorem keeps_fillCharacter (value : Option Value) :
    ⦃watched⦄ fillCharacter value ⦃kept⦄ := by
  mvcgen [fillCharacter]
  all_goals grind -ring -linarith -order

@[spec]
theorem keeps_splitLimit (text : Text) (arguments : List (Option Value)) :
    ⦃watched⦄ splitLimit text arguments ⦃kept⦄ := by
  mvcgen [splitLimit]
  all_goals grind -ring -linarith -order

@[spec]
theorem keeps_splitSeparator (value : Value) :
    ⦃watched⦄ splitSeparator value ⦃kept⦄ := by
  mvcgen [splitSeparator]
  all_goals grind -ring -linarith -order

@[spec]
theorem keeps_split (last : Bool) (text : Text) (arguments : List (Option Value)) :
    ⦃watched⦄ split last text arguments ⦃kept⦄ := by
  mvcgen [split]
  all_goals grind -ring -linarith -order

@[spec]
theorem keeps_joinParts (markup : Bool) (place : Nat) (items : List Value) :
    ⦃watched⦄ joinParts markup place items ⦃kept⦄ := by
  induction items generalizing place with
  | nil =>
    mvcgen [joinParts]
    all_goals grind -ring -linarith -order
  | cons item rest ih =>
    mvcgen [joinParts, ih]
    all_goals grind -ring -linarith -order

@[spec]
theorem keeps_join (model : Value) (separator : Text) (sequence : Value)
    (fine : harmless sequence) :
    ⦃watched⦄ join model separator sequence ⦃kept⦄ := by
  mvcgen [join]
  all_goals grind -ring -linarith -order

@[spec]
theorem keeps_startsOrEnds (atEnd : Bool) (method : Text) (text : Text) (arguments : List Value) :
    ⦃watched⦄ startsOrEnds atEnd method text arguments ⦃kept⦄ := by
  mvcgen [startsOrEnds]
  all_goals grind -ring -linarith -order

@[spec]
theorem keeps_textParameter (method parameter default : Text) (value : Option Value) :
    ⦃watched⦄ textParameter method parameter default value ⦃kept⦄ := by
  mvcgen [textParameter]
  all_goals grind -ring -linarith -order

@[spec]
theorem keeps_encodingOf (method : Text) (given : Given) (fine : harmless given) :
    ⦃watched⦄ encodingOf method given ⦃kept⦄ := by
  mvcgen [encodingOf]
  all_goals grind -ring -linarith -order

@[spec]
theorem keeps_encoded (text : Text) (given : Given) (fine : harmless given) :
    ⦃watched⦄ encoded text given ⦃kept⦄ := by
  mvcgen [encoded]
  all_goals grind -ring -linarith -order

@[spec]
theorem keeps_decoded (bytes : Bytes) (given : Given) (fine : harmless given) :
    ⦃watched⦄ decoded bytes given ⦃kept⦄ := by
  mvcgen [decoded]
  all_goals grind -ring -linarith -order

@[spec]
theorem keeps_trimSet (method : Text) (value : Option Value) :
    ⦃watched⦄ trimSet method value ⦃kept⦄ := by
  mvcgen [trimSet]
  all_goals grind -ring -linarith -order

@[spec]
theorem keeps_translate (table : Value) (text : Text) (fine : harmless table) :
    ⦃watched⦄ translate table text ⦃kept⦄ := by
  induction text with
  | nil =>
    mvcgen [translate]
    all_goals grind -ring -linarith -order
  | cons point rest ih =>
    mvcgen [translate, ih]
    all_goals grind -ring -linarith -order

@[spec]
theorem keeps_fieldWidth (value : Value) :
    ⦃watched⦄ fieldWidth value ⦃kept⦄ := by
  mvcgen [fieldWidth]
  all_goals grind -ring -linarith -order

@[spec]
theorem keeps_replaceParts (receiver : Value) (text : Text) (given : Given)
    (fine : harmless given) :
    ⦃watched⦄ replaceParts receiver text given ⦃kept⦄ := by
  mvcgen [replaceParts]
  all_goals grind -ring -linarith -order

@[spec]
theorem keeps_splitParts (receiver : Value) (text : Text) (given : Given) (last : Bool)
    (method : Text) (fine : harmless given) :
    ⦃watched⦄ splitParts receiver text given last method ⦃kept⦄ := by
  mvcgen [splitParts]
  all_goals grind -ring -linarith -order

@[spec]
theorem keeps_splitLines (receiver : Value) (text : Text) (given : Given) (fine : harmless given) :
    ⦃watched⦄ splitLines receiver text given ⦃kept⦄ := by
  mvcgen [splitLines]
  all_goals grind -ring -linarith -order

@[spec]
theorem keeps_placeIn (receiver : Value) (given : Given) (method : Text)
    (form : Nat → Text → Text) (fine : harmless given) :
    ⦃watched⦄ placeIn receiver given method form ⦃kept⦄ := by
  mvcgen [placeIn]
  all_goals grind -ring -linarith -order

@[spec]
theorem keeps_zeroFill (receiver : Value) (text : Text) (given : Given) (fine : harmless given) :
    ⦃watched⦄ zeroFill receiver text given ⦃kept⦄ := by
  mvcgen [zeroFill]
  all_goals grind -ring -linarith -order

@[spec]
theorem keeps_replaceTabs (receiver : Value) (text : Text) (given : Given) (fine : harmless given) :
    ⦃watched⦄ replaceTabs receiver text given ⦃kept⦄ := by
  mvcgen [replaceTabs]
  all_goals grind -ring -linarith -order

@[spec]
theorem keeps_trimmed (receiver : Value) (text : Text) (given : Given) (method : Text) (form :
    (CodePoint → Bool) → Text → Text) (fine : harmless given) :
    ⦃watched⦄ trimmed receiver text given method form ⦃kept⦄ := by
  mvcgen [trimmed]
  all_goals grind -ring -linarith -order

@[spec]
theorem keeps_placeOf (text : Text) (given : Given) (last : Bool) (method : Text)
    (fine : harmless given) :
    ⦃watched⦄ placeOf text given last method ⦃kept⦄ := by
  mvcgen [placeOf]
  all_goals grind -ring -linarith -order

@[spec]
theorem keeps_indexIn (text : Text) (given : Given) (last : Bool) (method : Text)
    (fine : harmless given) :
    ⦃watched⦄ indexIn text given last method ⦃kept⦄ := by
  mvcgen [indexIn]
  all_goals grind -ring -linarith -order

@[spec]
theorem keeps_countParts (text : Text) (given : Given) (fine : harmless given) :
    ⦃watched⦄ countParts text given ⦃kept⦄ := by
  mvcgen [countParts]
  all_goals grind -ring -linarith -order

@[spec]
theorem keeps_separatorOf (given : Given) (method : Text) (fine : harmless given) :
    ⦃watched⦄ separatorOf given method ⦃kept⦄ := by
  mvcgen [separatorOf]
  all_goals grind -ring -linarith -order

@[spec]
theorem keeps_withoutPart (receiver : Value) (given : Given) (method : Text) (form : Text → Text)
    (fine : harmless given) :
    ⦃watched⦄ withoutPart receiver given method form ⦃kept⦄ := by
  mvcgen [withoutPart]
  all_goals grind -ring -linarith -order

/-- Patterns in braces are filled under the guard. -/
@[spec]
theorem keeps_formatterFor (receiver : Value) : ⦃watched⦄ formatterFor receiver
    ⦃ending fun formatter => Regime.preserving → formatter.guarded = true⦄ := by
  mvcgen [formatterFor]
  all_goals grind -ring -linarith -order

omit [Watch] in
@[grind .]
theorem harmless_namedBy {entries : List (Value × Value)} (fine : harmless entries) :
    harmless (namedBy entries) := by
  intro entry inside
  obtain ⟨origin, there, same⟩ := List.mem_filterMap.1 inside
  obtain ⟨key, -, rfl⟩ := Option.map_eq_some_iff.1 same
  exact ⟨(harmless_inerts key).2 trivial, (fine origin there).2⟩

@[spec]
theorem keeps_formatMap (receiver : Value) (text : Text) (given : Given) (fine : harmless given) :
    ⦃watched⦄ formatMap receiver text given ⦃kept⦄ := by
  mvcgen [formatMap]
  all_goals grind -ring -linarith -order

@[spec]
theorem keeps_callWith (receiver : Value) (text : Text) (given : Given) (method : String)
    (receiverFine : harmless receiver) (givenFine : harmless given) :
    ⦃watched⦄ callWith receiver text given method ⦃kept⦄ := by
  mvcgen [callWith]
  all_goals grind -ring -linarith -order

@[spec]
theorem keeps_call (receiver : Value) (text : Text) (given : Given) (method : String)
    (receiverFine : harmless receiver) (givenFine : harmless given) :
    ⦃watched⦄ call receiver text given method ⦃kept⦄ := by
  mvcgen [call]
  all_goals grind -ring -linarith -order

end PageTemplates.TextMethods

namespace PageTemplates

open Std.Do Run

set_option mvcgen.warning false

variable [Regime] [Watch]

namespace ScalarMethods

instance : Inert Date := .plain

@[spec]
theorem keeps_unsupported (method : String) :
    ⦃watched⦄ unsupported method ⦃kept⦄ := by
  mvcgen [unsupported]
  all_goals grind -ring -linarith -order

@[spec]
theorem keeps_callInt (owner : Text) (number : Int) (method : String) (given : Given)
    (fine : harmless given) :
    ⦃watched⦄ callInt owner number method given ⦃kept⦄ := by
  mvcgen [callInt]
  all_goals grind -ring -linarith -order

@[spec]
theorem keeps_callFloat (number : Float) (method : String) (given : Given) (fine : harmless given) :
    ⦃watched⦄ callFloat number method given ⦃kept⦄ := by
  mvcgen [callFloat]
  all_goals grind -ring -linarith -order

@[spec]
theorem keeps_searched (value : Value) (fine : harmless value) :
    ⦃watched⦄ searched value ⦃kept⦄ := by
  mvcgen [searched]
  all_goals grind -ring -linarith -order

@[spec]
theorem keeps_searchArguments (method : Text) (given : Given) (fine : harmless given) :
    ⦃watched⦄ searchArguments method given ⦃kept⦄ := by
  mvcgen [searchArguments]
  all_goals grind -ring -linarith -order

@[spec]
theorem keeps_bytesText (before after : Text) (value : Value) :
    ⦃watched⦄ bytesText before after value ⦃kept⦄ := by
  mvcgen [bytesText]
  all_goals grind -ring -linarith -order

@[spec]
theorem keeps_bytesOperand (value : Value) :
    ⦃watched⦄ bytesOperand value ⦃kept⦄ := by
  mvcgen [bytesOperand]
  all_goals grind -ring -linarith -order

@[spec]
theorem keeps_startsOrEnds (atEnd : Bool) (method : Text) (bytes : Bytes) (given : Given)
    (fine : harmless given) :
    ⦃watched⦄ startsOrEnds atEnd method bytes given ⦃kept⦄ := by
  mvcgen [startsOrEnds]
  all_goals grind -ring -linarith -order

omit [Watch] in
@[grind .]
theorem harmless_narrow (text : Text) : harmless (narrow text) := harmless_plain rfl

@[spec]
theorem keeps_changed (bytes : Bytes) (name : Text) (given : Given) (change : Char → Char)
    (fine : harmless given) :
    ⦃watched⦄ changed bytes name given change ⦃kept⦄ := by
  mvcgen [changed]
  all_goals grind -ring -linarith -order

@[spec]
theorem keeps_placeOf (bytes : Bytes) (name : Text) (given : Given) (last : Bool)
    (fine : harmless given) :
    ⦃watched⦄ placeOf bytes name given last ⦃kept⦄ := by
  mvcgen [placeOf]
  all_goals grind -ring -linarith -order

@[spec]
theorem keeps_indexIn (bytes : Bytes) (name : Text) (given : Given) (last : Bool)
    (fine : harmless given) :
    ⦃watched⦄ indexIn bytes name given last ⦃kept⦄ := by
  mvcgen [indexIn]
  all_goals grind -ring -linarith -order

@[spec]
theorem keeps_countParts (bytes : Bytes) (name : Text) (given : Given) (fine : harmless given) :
    ⦃watched⦄ countParts bytes name given ⦃kept⦄ := by
  mvcgen [countParts]
  all_goals grind -ring -linarith -order

@[spec]
theorem keeps_replaceParts (bytes : Bytes) (name : Text) (given : Given) (fine : harmless given) :
    ⦃watched⦄ replaceParts bytes name given ⦃kept⦄ := by
  mvcgen [replaceParts]
  all_goals grind -ring -linarith -order

@[spec]
theorem keeps_splitParts (bytes : Bytes) (name : Text) (given : Given) (fine : harmless given) :
    ⦃watched⦄ splitParts bytes name given ⦃kept⦄ := by
  mvcgen [splitParts]
  all_goals grind -ring -linarith -order

@[spec]
theorem keeps_trimSet (name : Text) (given : Given) (fine : harmless given) :
    ⦃watched⦄ trimSet name given ⦃kept⦄ := by
  mvcgen [trimSet]
  all_goals grind -ring -linarith -order

@[spec]
theorem keeps_callBytes (bytes : Bytes) (method : String) (given : Given) (fine : harmless given) :
    ⦃watched⦄ callBytes bytes method given ⦃kept⦄ := by
  mvcgen [callBytes]
  all_goals grind -ring -linarith -order

@[spec]
theorem keeps_readText (method : Text) (value : Value) :
    ⦃watched⦄ readText method value ⦃kept⦄ := by
  mvcgen [readText]
  all_goals grind -ring -linarith -order

@[spec]
theorem keeps_textArgument (method parameter : Text) (given : Given) :
    ⦃watched⦄ textArgument method parameter given ⦃kept⦄ := by
  mvcgen [textArgument]
  all_goals grind -ring -linarith -order

@[spec]
theorem keeps_replacedPart (given : Given) (place : Nat) (name : String) (old : Nat) :
    ⦃watched⦄ replacedPart given place name old ⦃kept⦄ := by
  mvcgen [replacedPart]
  all_goals grind -ring -linarith -order

@[spec]
theorem keeps_replacedDate (date : Date) (given : Given) :
    ⦃watched⦄ replacedDate date given ⦃kept⦄ := by
  mvcgen [replacedDate]
  all_goals grind -ring -linarith -order

@[spec]
theorem keeps_callDate (owner : Text) (time : DateTime) (method : String) (given : Given)
    (fine : harmless given) :
    ⦃watched⦄ callDate owner time method given ⦃kept⦄ := by
  mvcgen [callDate]
  all_goals grind -ring -linarith -order

@[spec]
theorem keeps_callDateTime (time : DateTime) (method : String) (given : Given)
    (fine : harmless given) :
    ⦃watched⦄ callDateTime time method given ⦃kept⦄ := by
  mvcgen [callDateTime]
  all_goals grind -ring -linarith -order


end ScalarMethods

namespace Method

@[spec]
theorem keeps_callCycler (address : Ref) (items : List Value) (place : Nat) (method : String)
    (given : Given) (fine : harmless items) (free : ¬ Held address) :
    ⦃watched⦄ callCycler address items place method given ⦃kept⦄ := by
  mvcgen [callCycler]
  all_goals grind -ring -linarith -order

@[spec]
theorem keeps_sameItems (firsts seconds : List Value) :
    ⦃watched⦄ sameItems firsts seconds ⦃kept⦄ := by
  fun_induction sameItems with
  | case1 => mvcgen
  | case2 first firsts second seconds ih =>
    mvcgen [ih]
    all_goals grind -ring -linarith -order
  | case3 => mvcgen

@[spec]
theorem keeps_callLoop (address : Ref) (state : LoopState) (method : String) (given : Given)
    (fine : harmless state) (givenFine : harmless given) (free : ¬ Held address) :
    ⦃watched⦄ callLoop address state method given ⦃kept⦄ := by
  mvcgen [callLoop]
  all_goals grind -ring -linarith -order

@[spec]
theorem keeps_callSpecial (receiver : Value) (method : String) (given : Given)
    (fine : harmless receiver) (givenFine : harmless given) :
    ⦃watched⦄ callSpecial receiver method given ⦃kept⦄ := by
  mvcgen [callSpecial]
  all_goals grind -ring -linarith -order

@[spec]
theorem keeps_callCell (address : Ref) (content : Cell) (method : String) (given : Given)
    (fine : harmless content) (givenFine : harmless given)
    (still : Held address → content.isStill = true)
    (gentle : Regime.preserving → method ∉ changingNames) :
    ⦃watched⦄ callCell address content method given ⦃kept⦄ := by
  mvcgen [callCell]
  all_goals grind -ring -linarith -order

@[spec]
theorem keeps_callOf (receiver : Value) (method : String) (given : Given)
    (fine : harmless receiver) (givenFine : harmless given)
    (gentle : Regime.preserving → method ∉ changingNames) :
    ⦃watched⦄ callOf receiver method given ⦃kept⦄ := by
  mvcgen [callOf]
  all_goals grind -ring -linarith -order

end Method
end PageTemplates
