import Mathlib.Data.List.TakeDrop
import PageTemplates.Proofs.Text.Identifier
import PageTemplates.Template.Scan

/-!
Sources that are put together from fragments: literal text between tags for output, for blocks and for
the layout that a page extends. The tokens of such a source are those of its tags, with the text between
two tags as one token.
-/

namespace PageTemplates.Template

/-- Text without line breaks. -/
def IsLine (text : Text) : Prop :=
  ∀ point ∈ text, point ≠ .scalar '\r' ∧ point ≠ .scalar '\n'

instance (text : Text) : Decidable (IsLine text) :=
  inferInstanceAs (Decidable (∀ point ∈ text, _))

/-- Text that stands in a source as it is: on one line, and without opening braces. -/
structure Literal where
  text : Text
  plain : ∀ point ∈ text, point ≠ .scalar '\x7b'
  line : IsLine text

/-- An identifier of ASCII characters. -/
structure PlainName where
  name : String
  plain : (Text.isIdentifier (Text.ofString name) &&
    (Text.ofString name).all fun point => point.value < 128) = true

/-- A mark around quoted text. -/
inductive QuoteMark where
  | single
  | double

def QuoteMark.char : QuoteMark → Char
  | .single => '\x27'
  | .double => '\x22'

/-- Whether a text with marks around it goes up to the second mark. -/
def isQuotable (mark : QuoteMark) : Text → Bool
  | [] => true
  | [point] => point != .scalar mark.char && point != .scalar '\\'
  | point :: next :: rest =>
    if point = .scalar '\\' then isQuotable mark rest
    else point != .scalar mark.char && isQuotable mark (next :: rest)

/-- What stands between quotes, on one line, with the text that it means. -/
structure Quotation where
  mark : QuoteMark
  content : Text
  value : Text
  quotable : isQuotable mark content = true
  line : IsLine content
  means : textValue content = .ok value

/-- A word of a tag. -/
inductive Word where
  | name (word : PlainName)
  | quoted (quotation : Quotation)

theorem IsLine.append {first second : Text} (left : IsLine first) (right : IsLine second) :
    IsLine (first ++ second) :=
  List.forall_mem_append.mpr ⟨left, right⟩

theorem IsLine.breaks {text : Text} (line : IsLine text) : breaksIn text = 0 :=
  List.count_eq_zero.mpr fun inside => (line _ inside).2 rfl

namespace Literal

def empty : Literal := ⟨[], nofun, nofun⟩

def append (first second : Literal) : Literal :=
  ⟨first.text ++ second.text, List.forall_mem_append.mpr ⟨first.plain, second.plain⟩,
    first.line.append second.line⟩

end Literal

namespace PlainName

def text (word : PlainName) : Text := Text.ofString word.name

def block : PlainName := ⟨"block", by decide +kernel⟩

def endblock : PlainName := ⟨"endblock", by decide +kernel⟩

def extends_ : PlainName := ⟨"extends", by decide +kernel⟩

end PlainName

namespace Word

def source : Word → Text
  | .name word => word.text
  | .quoted quotation =>
    .scalar quotation.mark.char :: quotation.content ++ [.scalar quotation.mark.char]

def token : Word → TokenKind
  | .name word => .name word.name
  | .quoted quotation => .string quotation.value

end Word

/-- A tag: output of a name, the layout that a page extends, and the marks around a block. -/
inductive Tag where
  | output (name : PlainName)
  | extending (layout : Quotation)
  | opening (block : PlainName)
  | closing

/-- A fragment of a source. -/
inductive Fragment where
  | literal (content : Literal)
  | tag (tag : Tag)

namespace TagKind

def opening : TagKind → Text
  | .variable => [.scalar '\x7b', .scalar '\x7b']
  | .block => [.scalar '\x7b', .scalar '%']
  | .comment => [.scalar '\x7b', .scalar '#']

def closing : TagKind → Text
  | .variable => [.scalar '\x7d', .scalar '\x7d']
  | .block => [.scalar '%', .scalar '\x7d']
  | .comment => [.scalar '#', .scalar '\x7d']

def openingToken (kind : TagKind) : TokenKind :=
  if kind = .variable then .variableBegin else .blockBegin

def closingToken (kind : TagKind) : TokenKind :=
  if kind = .variable then .variableEnd else .blockEnd

end TagKind

/-- Words with a blank before each, up to the closing mark and with what follows it. -/
def wordsThen (kind : TagKind) : List Word → (after : Text) → Text
  | [], after => .scalar ' ' :: kind.closing ++ after
  | word :: rest, after => .scalar ' ' :: word.source ++ wordsThen kind rest after

namespace Tag

def kind : Tag → TagKind
  | .output _ => .variable
  | _ => .block

def words : Tag → List Word
  | .output name => [.name name]
  | .extending layout => [.name .extends_, .quoted layout]
  | .opening block => [.name .block, .name block]
  | .closing => [.name .endblock]

/-- How a tag is written, with what follows it. -/
def sourceThen (tag : Tag) (after : Text) : Text :=
  tag.kind.opening ++ wordsThen tag.kind tag.words after

def tokens (tag : Tag) : List TokenKind :=
  tag.kind.openingToken :: tag.words.map Word.token ++ [tag.kind.closingToken]

end Tag

/-- How fragments are written one after another. -/
def sourceOf : List Fragment → Text
  | [] => []
  | .literal content :: rest => content.text ++ sourceOf rest
  | .tag tag :: rest => tag.sourceThen (sourceOf rest)

theorem words_then_inside (kind : TagKind) (words : List Word) (after : Text) :
    after ⊆ wordsThen kind words after := by
  induction words with
  | nil => exact List.subset_append_right _ _
  | cons word rest ih => exact List.subset_append_of_subset_right _ ih

/-- Literal text stands in the source of the fragments that it is among. -/
theorem literal_inside {content : Literal} {fragments : List Fragment}
    (among : .literal content ∈ fragments) : content.text ⊆ sourceOf fragments := by
  induction fragments with
  | nil => cases among
  | cons first rest ih =>
      rcases List.mem_cons.mp among with rfl | later
      · exact List.subset_append_left _ _
      · cases first with
        | literal other => exact List.subset_append_of_subset_right _ (ih later)
        | tag tag =>
            apply List.subset_append_of_subset_right
            exact List.Subset.trans (ih later) (words_then_inside _ _ _)

/-- The token of text between tags, if there is any. -/
def dataTokens (text : Text) : List TokenKind := if text.isEmpty then [] else [.data text]

/-- The tokens of fragments after text that belongs to the same token. -/
def tokensAfter : (before : Text) → List Fragment → List TokenKind
  | before, [] => dataTokens before
  | before, .literal content :: rest => tokensAfter (before ++ content.text) rest
  | before, .tag tag :: rest => dataTokens before ++ tag.tokens ++ tokensAfter [] rest

theorem blank_apart : isNamePoint (.scalar ' ') = false := by decide +kernel

/-- A character that a word of a tag can start with: no blank, and no part of a mark. -/
def StartsWord (first : Char) : Prop :=
  Text.blank (.scalar first) = false ∧ first ∉ ['-', '+', '#', '%', '\x7d']

/-- A name that is read inside tags: an identifier of characters that names have there. -/
structure IsRead (name : Text) : Prop where
  named : Text.isIdentifier name = true
  points : ∀ point ∈ name, isNamePoint point = true

/-- No identifier starts with an ASCII digit or with a character of a mark. -/
theorem start_apart : ∀ number < 128, Text.isIdentifierStart number = true →
    (number < 48 ∨ 57 < number) ∧ number ∉ [35, 37, 43, 45, 125] := by
  decide +kernel

namespace IsRead

variable {name : Text} (read : IsRead name)

include read

theorem shape : ∃ first rest, name = .scalar first :: rest ∧ Text.isDecimal first.toNat = false ∧
    (first.toNat < 48 ∨ 57 < first.toNat) ∧ StartsWord first := by
  obtain ⟨first, rest, -, shown, -, starts⟩ := Text.identifier_shape read.named
  have apart : (first.toNat < 48 ∨ 57 < first.toNat) ∧ first.toNat ∉ [35, 37, 43, 45, 125] := by
    by_cases ascii : first.toNat < 128
    · exact start_apart first.toNat ascii starts
    · simp only [List.mem_cons, List.not_mem_nil, or_false, not_or]
      omega
  refine ⟨first, rest, shown, Text.start_not_decimal starts, apart.1, Text.start_not_blank starts, ?_⟩
  intro isMark
  apply apart.2
  simp only [List.mem_cons, List.not_mem_nil, or_false] at isMark
  rcases isMark with rfl | rfl | rfl | rfl | rfl <;> decide

theorem line : IsLine name := by
  have apart : isNamePoint (.scalar '\r') = false ∧ isNamePoint (.scalar '\n') = false := by
    decide +kernel
  intro point inside
  constructor
  · rintro rfl
    exact absurd (read.points _ inside) (by simp [apart.1])
  · rintro rfl
    exact absurd (read.points _ inside) (by simp [apart.2])

end IsRead

namespace PlainName

theorem isRead (word : PlainName) : IsRead word.text := by
  -- all marks that are not read are beyond ASCII, and what starts an ASCII name also goes on with one
  have ascii : ∀ number < 128, (Text.isIdentifierStart number || Text.isIdentifierContinue number) = true →
      (Text.isWord number || (Text.isIdentifierContinue number &&
        !Text.Ranges.contains unreadMarks number)) = true := by
    decide +kernel
  obtain ⟨isName, small⟩ := Bool.and_eq_true_iff.mp word.plain
  refine ⟨isName, fun point inside => ascii point.value ?_ ?_⟩
  · exact of_decide_eq_true (List.all_eq_true.mp small point inside)
  · rw [text] at inside
    cases shown : Text.ofString word.name with
    | nil =>
        rw [shown] at inside
        cases inside
    | cons first rest =>
        rw [shown, Text.isIdentifier, Bool.and_eq_true_iff] at isName
        rw [shown] at inside
        rw [Bool.or_eq_true_iff]
        rcases List.mem_cons.mp inside with rfl | later
        · exact .inl isName.1
        · exact .inr (List.all_eq_true.mp isName.2 point later)

end PlainName

theorem float_absent {first : Char} {rest : Text} (apart : Text.isDecimal first.toNat = false) :
    floatRun? (.scalar first :: rest) = none := by
  have none_there : digitRun isDecimalPoint (.scalar first :: rest) = 0 := by
    simp [digitRun, digitRun.go, isDecimalPoint, CodePoint.value, apart]
  rw [floatRun?, none_there]
  rfl

theorem integer_absent {first : Char} {rest : Text} (apart : first.toNat < 48 ∨ 57 < first.toNat) :
    integerRun? (.scalar first :: rest) = none := by
  have notZero : first ≠ '0' := by
    rintro rfl
    revert apart
    decide
  have noDigit : Markup.isAsciiDigit (.scalar first) = false := by
    rw [Markup.isAsciiDigit, CodePoint.satisfies, Char.isDigit, Bool.and_eq_false_iff]
    simp only [decide_eq_false_iff_not, ge_iff_le, UInt32.le_iff_toNat_le]
    change ¬48 ≤ first.toNat ∨ ¬first.toNat ≤ 57
    omega
  unfold integerRun?
  simp [notZero, noDigit]

theorem quoted_run {mark : QuoteMark} {content : Text} (quotable : isQuotable mark content = true)
    (after done : Text) :
    quotedRun?.go (.scalar mark.char) (content ++ .scalar mark.char :: after) done =
      some (done.reverse ++ content, after) := by
  have closes (done : Text) :
      quotedRun?.go (.scalar mark.char) (.scalar mark.char :: after) done =
        some (done.reverse, after) := by
    cases after <;> simp [quotedRun?.go]
  induction content using isQuotable.induct generalizing done with
  | case1 => simpa using closes done
  | case2 point =>
      simp only [isQuotable, Bool.and_eq_true, bne_iff_ne] at quotable
      simp [quotedRun?.go, quotable, closes]
  | case3 next rest ih =>
      simp only [isQuotable, if_true] at quotable
      have apart : ('\\' = mark.char) = False := by cases mark <;> decide
      simp [quotedRun?.go, apart, ih quotable]
  | case4 point next rest apart ih =>
      simp only [isQuotable, if_neg apart, Bool.and_eq_true, bne_iff_ne] at quotable
      have later := ih quotable.2 (point :: done)
      rw [List.cons_append] at later
      simp [quotedRun?.go, quotable.1, apart, later]

/-- A name is read up to a character that names do not have. -/
theorem IsRead.literal {name : Text} (read : IsRead name) {string : String}
    (same : name = Text.ofString string) {next : CodePoint} (stops : isNamePoint next = false)
    (previous : Option CodePoint) (after : Text) :
    literal? previous (name ++ next :: after) = some (.name string, name.length) := by
  obtain ⟨first, rest, shown, noDecimal, noDigit, -⟩ := read.shape
  have taken : (name ++ next :: after).takeWhile isNamePoint = name := by
    rw [List.takeWhile_append_of_pos read.points, List.takeWhile_cons, stops]
    simp
  have noFloat : floatRun? (name ++ next :: after) = none := by
    rw [shown]
    exact float_absent noDecimal
  have noInteger : integerRun? (name ++ next :: after) = none := by
    rw [shown]
    exact integer_absent noDigit
  have there : name.isEmpty = false := by rw [shown]; rfl
  have told : Text.toString? name = some string := same ▸ Text.toString_ofString string
  simp [literal?, noFloat, noInteger, taken, there, read.named, told]

namespace Word

/-- A word is read as its token, up to the blank behind it. -/
theorem read (word : Word) (previous : Option CodePoint) (after : Text) :
    literal? previous (word.source ++ .scalar ' ' :: after) =
      some (word.token, word.source.length) := by
  cases word with
  | name word => exact word.isRead.literal rfl blank_apart previous after
  | quoted quotation =>
      obtain ⟨mark, content, value, quotable, -, means⟩ := quotation
      have quotes : quotedRun? (.scalar mark.char :: (content ++ .scalar mark.char :: .scalar ' ' ::
          after)) = some (content, .scalar ' ' :: after) := by
        have isMark : CodePoint.scalar mark.char = Text.singleQuote ∨
            CodePoint.scalar mark.char = Text.doubleQuote := by
          cases mark
          · exact .inl rfl
          · exact .inr rfl
        rw [quotedRun?, if_pos (by simpa using isMark), quoted_run quotable]
        rfl
      have apart : isNamePoint (.scalar mark.char) = false := by cases mark <;> decide +kernel
      have noName : (.scalar mark.char :: (content ++ .scalar mark.char :: .scalar ' ' ::
          after)).takeWhile isNamePoint = [] := by
        rw [List.takeWhile_cons, apart]
        rfl
      have noFloat : floatRun? (.scalar mark.char :: (content ++ .scalar mark.char :: .scalar ' ' ::
          after)) = none := float_absent (by cases mark <;> decide +kernel)
      have noInteger : integerRun? (.scalar mark.char :: (content ++ .scalar mark.char ::
          .scalar ' ' :: after)) = none := integer_absent (by cases mark <;> decide)
      simp [literal?, source, token, noFloat, noInteger, noName, quotes, means]

theorem starts (word : Word) : ∃ first rest, word.source = .scalar first :: rest ∧
    StartsWord first := by
  cases word with
  | name word =>
      obtain ⟨first, rest, shown, -, -, starts⟩ := word.isRead.shape
      exact ⟨first, rest, shown, starts⟩
  | quoted quotation =>
      refine ⟨quotation.mark.char, _, rfl, ?_⟩
      cases quotation.mark <;> exact ⟨by decide, by decide⟩

theorem line (word : Word) : IsLine word.source := by
  cases word with
  | name word => exact word.isRead.line
  | quoted quotation =>
      have quote : IsLine [.scalar quotation.mark.char] := by
        cases quotation.mark <;> simp [IsLine, QuoteMark.char]
      exact quote.append (quotation.line.append quote)

end Word

section Scanning

variable (kind : TagKind) (bound line place : Nat) (previous : Option CodePoint)

theorem closing_there (after : Text) : closingMark? kind (kind.closing ++ after) = some after := by
  cases kind <;> rfl

theorem closing_absent {first : Char} (apart : first ∉ ['-', '+', '#', '%', '\x7d']) (rest : Text) :
    closingMark? kind (.scalar first :: rest) = none := by
  simp only [List.mem_cons, List.not_mem_nil, or_false, not_or] at apart
  obtain ⟨minus, plus, hash, percent, brace⟩ := apart
  cases kind <;> simp [closingMark?, minus, plus, hash, percent, brace]

theorem scan_blank {first : Char} (noBlank : Text.blank (.scalar first) = false) (rest : Text)
    (done : List Token) :
    scanTag kind (bound + 1) ⟨line, place, .scalar ' ' :: .scalar first :: rest⟩ previous [] done =
      scanTag kind bound ⟨line, place + 1, .scalar first :: rest⟩ (some (.scalar ' ')) [] done := by
  have isBlank : Text.blank (.scalar ' ') = true := rfl
  rw [scanTag, List.isEmpty_nil, if_pos rfl, closing_absent kind (by decide)]
  simp [isBlank, noBlank, ScanPoint.skip, breaksIn]

/-- A literal that starts like a word is read as its token. -/
theorem scan_literal {source rest : Text} {token : TokenKind}
    (starts : ∃ first more, source = .scalar first :: more ∧ StartsWord first) (unbroken : IsLine source)
    (reading : literal? previous (source ++ rest) = some (token, source.length)) (done : List Token) :
    ∃ next, scanTag kind (bound + 1) ⟨line, place, source ++ rest⟩ previous [] done =
      scanTag kind bound ⟨line, place + source.length, rest⟩ next [] (⟨line, token⟩ :: done) := by
  have noBreaks := unbroken.breaks
  obtain ⟨first, more, shown, noBlank, apart⟩ := starts
  rw [shown, List.cons_append] at reading
  rw [shown] at noBreaks
  refine ⟨((source ++ rest).take source.length).getLast?, ?_⟩
  rw [shown, List.cons_append, scanTag, List.isEmpty_nil, if_pos rfl, closing_absent kind apart]
  simp only [noBlank, Bool.false_eq_true, if_false, reading]
  simp only [ScanPoint.skip, ← List.cons_append, List.take_left, List.drop_left, noBreaks,
    Nat.add_zero]

theorem scan_word (word : Word) (rest : Text) (done : List Token) :
    ∃ next, scanTag kind (bound + 1) ⟨line, place, word.source ++ .scalar ' ' :: rest⟩ previous []
        done =
      scanTag kind bound ⟨line, place + word.source.length, .scalar ' ' :: rest⟩ next []
        (⟨line, word.token⟩ :: done) :=
  scan_literal kind bound line place previous word.starts word.line (word.read previous rest) done

/-- The words of a tag are read one by one, and then its closing mark. -/
theorem scan_words (words : List Word) (enough : 2 * words.length + 2 ≤ bound) (after : Text)
    (done : List Token) :
    ∃ behind, scanTag kind bound ⟨line, place, wordsThen kind words after⟩ previous [] done =
      (⟨line, kind.closingToken⟩ :: (words.map fun word => (⟨line, word.token⟩ : Token)).reverse ++ done,
        some ⟨line, behind, after⟩) := by
  obtain ⟨bound, rfl⟩ : ∃ less, bound = less + 2 := ⟨bound - 2, by omega⟩
  induction words generalizing bound place previous done with
  | nil =>
      obtain ⟨first, more, shown, noBlank⟩ : ∃ first more, kind.closing ++ after =
          .scalar first :: more ∧ Text.blank (.scalar first) = false := by
        cases kind <;> exact ⟨_, _, rfl, rfl⟩
      have closes := closing_there kind after
      have short : breaksIn kind.closing = 0 := by cases kind <;> rfl
      refine ⟨place + 1 + ((kind.closing ++ after).length - after.length), ?_⟩
      rw [wordsThen, List.cons_append, shown, scan_blank kind _ line place previous noBlank, ← shown,
        scanTag, List.isEmpty_nil, if_pos rfl, closes]
      simp [ScanPoint.skip, short, TagKind.closingToken]
  | cons word rest ih =>
      obtain ⟨first, more, shown, noBlank, -⟩ := word.starts
      obtain ⟨others, follows⟩ : ∃ others, wordsThen kind rest after = .scalar ' ' :: others := by
        cases rest <;> exact ⟨_, rfl⟩
      obtain ⟨less, rfl⟩ : ∃ less, bound = less + 2 :=
        ⟨bound - 2, by rw [List.length_cons] at enough; omega⟩
      obtain ⟨next, taken⟩ := scan_word kind (less + 2) line (place + 1) (some (.scalar ' ')) word
        others done
      obtain ⟨behind, ends⟩ := ih (place + 1 + word.source.length) next
        (⟨line, word.token⟩ :: done) less (by rw [List.length_cons] at enough; omega)
      refine ⟨behind, ?_⟩
      rw [wordsThen, follows, List.cons_append, shown, List.cons_append,
        scan_blank kind _ line place previous noBlank, ← List.cons_append, ← shown, taken, ← follows,
        ends]
      simp

end Scanning

theorem length_words_then (kind : TagKind) (words : List Word) (after : Text) :
    2 * words.length + 3 + after.length ≤ (wordsThen kind words after).length := by
  induction words with
  | nil => cases kind <;> simp [wordsThen, TagKind.closing] <;> omega
  | cons word rest ih =>
      obtain ⟨first, more, shown, -⟩ := word.starts
      rw [wordsThen, shown]
      simp only [List.length_cons, List.length_append]
      omega

theorem raw_absent {first : Char} (apart : first ≠ 'r') (noBlank : Text.blank (.scalar first) = false)
    (rest : Text) : rawOpening? (.scalar ' ' :: .scalar first :: rest) = none := by
  have isBlank : Text.blank (.scalar ' ') = true := rfl
  have trimmed : Text.trimStart (.scalar ' ' :: .scalar first :: rest) = .scalar first :: rest := by
    simp [Text.trimStart, isBlank, noBlank]
  have absent : Text.dropOpening? (Text.ofString "raw") (.scalar first :: rest) = none :=
    if_neg fun same => apart (CodePoint.scalar.inj same).symm
  rw [rawOpening?, takeWord?, trimmed, absent]
  rfl

theorem block_opens {first : Char} (apart : first ≠ 'r')
    (noBlank : Text.blank (.scalar first) = false) (rest : Text) :
    opening? (.scalar '\x7b' :: .scalar '%' :: .scalar ' ' :: .scalar first :: rest) =
      some (.tag .block .none (.scalar ' ' :: .scalar first :: rest)) := by
  simp [opening?, openingMark?, takeSign, raw_absent apart noBlank]

theorem search_literal {text : Text} (plain : ∀ point ∈ text, point ≠ .scalar '\x7b') (rest : Text) :
    searchFirst opening? (text ++ rest) =
      (searchFirst opening? rest).map fun (before, found) => (text ++ before, found) := by
  induction text with
  | nil => simp
  | cons point more ih =>
      have noMark : opening? (point :: (more ++ rest)) = none := by
        have apart := plain point List.mem_cons_self
        rw [opening?, openingMark?, Option.map_none] <;> rintro _ same <;>
          exact apart (List.cons.inj same).1
      rw [List.cons_append, searchFirst, noMark, ih fun other inside =>
        plain other (List.mem_cons_of_mem _ inside), Option.map_map]
      rfl

theorem search_here {Result : Type} {reader : Text → Option Result} {text : Text} {found : Result}
    (here : reader text = some found) (there : text ≠ []) :
    searchFirst reader text = some ([], found) := by
  cases text with
  | nil => exact absurd rfl there
  | cons point rest => rw [searchFirst, here]

namespace Tag

theorem source_nonempty (tag : Tag) (after : Text) : tag.sourceThen after ≠ [] := by
  cases tag <;> exact nofun

/-- The mark of a tag is read as the opening of a tag of its kind. -/
theorem opens (tag : Tag) (after : Text) :
    opening? (tag.sourceThen after) = some (.tag tag.kind .none (wordsThen tag.kind tag.words after)) := by
  cases tag with
  | output name => rfl
  | extending layout => exact block_opens (by decide) (by decide) _
  | opening block => exact block_opens (by decide) (by decide) _
  | closing => exact block_opens (by decide) (by decide) _

end Tag

theorem words_then_line (kind : TagKind) (words : List Word) {after : Text} (line : IsLine after) :
    IsLine (wordsThen kind words after) := by
  have blank : IsLine [.scalar ' '] := by simp [IsLine]
  induction words with
  | nil =>
      have mark : IsLine kind.closing := by cases kind <;> simp [IsLine, TagKind.closing]
      exact blank.append (mark.append line)
  | cons word rest ih => exact blank.append (word.line.append ih)

theorem opening_line (kind : TagKind) : IsLine kind.opening := by
  cases kind <;> simp [IsLine, TagKind.opening]

theorem source_line (fragments : List Fragment) : IsLine (sourceOf fragments) := by
  induction fragments with
  | nil => exact nofun
  | cons fragment rest ih =>
      cases fragment with
      | literal content => exact content.line.append ih
      | tag tag => exact (opening_line tag.kind).append (words_then_line tag.kind tag.words ih)

/-- A token on the first line. -/
def Token.first (kind : TokenKind) : Token := ⟨1, kind⟩

theorem data_tokens (text : Text) :
    dataToken 1 text .none = ((dataTokens text).map Token.first).reverse := by
  rw [dataToken, dataTokens]
  cases text <;> rfl

/-- Behind data and the mark of a tag, the tag is read, and then what follows it. -/
theorem scan_data_tag {kind : TagKind} (known : kind ≠ .comment) {bound place : Nat}
    {head data inside : Text} (line : IsLine head)
    (found : searchFirst opening? (head ++ inside) = some (data, .tag kind .none inside))
    (done : List Token) :
    scanData (bound + 1) ⟨1, place, head ++ inside⟩ done =
      match scanTag kind (inside.length + 1) ⟨1, place + head.length, inside⟩ head.getLast? []
        (⟨1, kind.openingToken⟩ :: (dataToken 1 data .none ++ done)) with
      | (done, some after) => scanData bound after done
      | (done, none) => done := by
  have passed : (head ++ inside).length - inside.length = head.length := by
    rw [List.length_append, Nat.add_sub_cancel]
  rw [scanData, found]
  simp only [passed, ScanPoint.skip, List.take_left, List.drop_left, line.breaks, Nat.add_zero]
  cases kind <;> rfl

theorem Tag.known (tag : Tag) : tag.kind ≠ .comment := by
  cases tag <;> exact nofun

/-- The tokens of fragments are read in order, all on the first line. -/
theorem scan_data (before : Literal) (fragments : List Fragment) {bound : Nat}
    (enough : (sourceOf fragments).length < bound) (place : Nat) (done : List Token) :
    scanData bound ⟨1, place, before.text ++ sourceOf fragments⟩ done =
      ((tokensAfter before.text fragments).map Token.first).reverse ++ done := by
  induction fragments generalizing before bound place done with
  | nil =>
      obtain ⟨bound, rfl⟩ : ∃ less, bound = less + 1 := ⟨bound - 1, by omega⟩
      have noMark : searchFirst opening? (before.text ++ []) = none := by
        rw [search_literal before.plain]
        rfl
      rw [scanData, sourceOf, noMark, List.append_nil, tokensAfter, dataTokens]
      cases before.text <;> rfl
  | cons fragment rest ih =>
      cases fragment with
      | literal content =>
          rw [sourceOf, List.length_append] at enough
          rw [sourceOf, ← List.append_assoc, tokensAfter]
          exact ih (before.append content) (by omega) place done
      | tag tag =>
          obtain ⟨bound, rfl⟩ : ∃ less, bound = less + 1 := ⟨bound - 1, by omega⟩
          have long := length_words_then tag.kind tag.words (sourceOf rest)
          rw [sourceOf, Tag.sourceThen, List.length_append] at enough
          have mark : searchFirst opening? (before.text ++ tag.sourceThen (sourceOf rest)) =
              some (before.text, .tag tag.kind .none (wordsThen tag.kind tag.words (sourceOf rest))) := by
            rw [search_literal before.plain, search_here (tag.opens (sourceOf rest))
              (tag.source_nonempty _)]
            simp
          rw [Tag.sourceThen, ← List.append_assoc] at mark
          obtain ⟨behind, read⟩ := scan_words tag.kind
            ((wordsThen tag.kind tag.words (sourceOf rest)).length + 1) 1
            (place + (before.text ++ tag.kind.opening).length) (before.text ++ tag.kind.opening).getLast?
            tag.words (by omega) (sourceOf rest)
            (⟨1, tag.kind.openingToken⟩ :: (dataToken 1 before.text .none ++ done))
          have others := ih .empty (show (sourceOf rest).length < bound by omega) behind
          rw [sourceOf, Tag.sourceThen, ← List.append_assoc,
            scan_data_tag tag.known (before.line.append (opening_line tag.kind)) mark, read]
          simp only [Literal.empty, List.nil_append] at others
          simp only [others, tokensAfter, Tag.tokens, data_tokens]
          simp [Token.first, Function.comp_def]

theorem normalize_line {text : Text} (line : IsLine text) : normalizeBreaks text = text := by
  have same : normalizeBreaks.go text = text := by
    induction text with
    | nil => rfl
    | cons point rest ih =>
        have others := ih fun other inside => line other (List.mem_cons_of_mem _ inside)
        have apart := (line point List.mem_cons_self).1
        rw [normalizeBreaks.go, others]
        · rintro _ rfl
          exact absurd rfl apart
        · rintro rfl
          exact absurd rfl apart
  rw [normalizeBreaks, same]
  split
  · rename_i before backwards
    have inside : CodePoint.scalar '\n' ∈ text := by
      rw [← List.mem_reverse, backwards]
      exact List.mem_cons_self
    exact absurd rfl (line _ inside).2
  · rfl

/-- The tokens of a source that is put together from fragments. -/
theorem scan_source (fragments : List Fragment) :
    scan (sourceOf fragments) = (tokensAfter [] fragments ++ [TokenKind.ending]).map Token.first := by
  have read := scan_data .empty fragments (Nat.lt_succ_self (sourceOf fragments).length) 0 []
  simp only [Literal.empty, List.nil_append, List.append_nil] at read
  have last : (((tokensAfter [] fragments).map Token.first).getLast?.map Token.line).getD 1 = 1 := by
    rw [List.getLast?_map, Option.map_map]
    cases (tokensAfter [] fragments).getLast? <;> rfl
  rw [scan, normalize_line (source_line fragments), read, List.reverse_reverse, last]
  simp [Token.first]

end PageTemplates.Template
