import Mathlib
import PageTemplates.Proofs.Source.Trees

/-!
Patterns part by part. A pattern whose brackets hold no slash is read part by part, and a path that has as
many slashes as it has spends all of them on those of the pattern. So nothing else in the pattern, neither
a star nor a class that has the slash, ever meets one, and the path matches as its parts do.
-/

namespace PageTemplates

namespace PointClass

theorem closed_some {text body after : Text} :
    closed? text = some (body, after) ↔
      ∃ first inner, body = first :: inner ∧ CodePoint.scalar ']' ∉ inner ∧
        text = body ++ .scalar ']' :: after := by
  cases text with
  | nil => simp [closed?]
  | cons start rest =>
      have whole := List.takeWhile_append_dropWhile (p := (· != CodePoint.scalar ']')) (l := rest)
      have plain : CodePoint.scalar ']' ∉ rest.takeWhile (· != .scalar ']') := by
        intro member
        simpa using List.mem_takeWhile_imp member
      constructor
      · intro found
        rw [closed?] at found
        split at found
        · rename_i point behind left
          cases found
          have closing := List.head?_dropWhile_not (· != CodePoint.scalar ']') rest
          rw [left] at closing
          have same : point = .scalar ']' := by simpa using closing
          refine ⟨start, _, rfl, plain, ?_⟩
          rw [left, same] at whole
          exact congrArg (start :: ·) whole.symm
        · cases found
      · rintro ⟨first, inner, rfl, free, split⟩
        obtain ⟨rfl, same⟩ := List.cons.inj split
        have passed : ∀ point ∈ inner, (point != CodePoint.scalar ']') = true := by
          intro point member
          simpa using fun same : point = .scalar ']' => free (same ▸ member)
        have front : (inner ++ .scalar ']' :: after).takeWhile (· != .scalar ']') = inner := by
          rw [List.takeWhile_append_of_pos passed, List.takeWhile_cons_of_neg (by simp), List.append_nil]
        have behind : (inner ++ .scalar ']' :: after).dropWhile (· != .scalar ']') =
            .scalar ']' :: after := by
          rw [List.dropWhile_append_of_pos passed, List.dropWhile_cons_of_neg (by simp)]
        rw [closed?, show rest = inner ++ .scalar ']' :: after from same, behind, front]

/-- What can stand between brackets: one character, then others that close no bracket, and in front of
them an exclamation mark or not. -/
def IsBody (body : Text) : Prop :=
  ∃ first inner, (body = .scalar '!' :: first :: inner ∨ body = first :: inner ∧ first ≠ .scalar '!') ∧
    CodePoint.scalar ']' ∉ inner

theorem body_some {text body after : Text} :
    body? text = some (body, after) ↔ IsBody body ∧ text = body ++ .scalar ']' :: after := by
  fun_cases body? text with
  | case1 rest =>
    rw [Option.map_eq_some_iff]
    constructor
    · rintro ⟨⟨inside, _⟩, found, same⟩
      cases same
      obtain ⟨first, inner, rfl, free, rfl⟩ := closed_some.mp found
      exact ⟨⟨first, inner, .inl rfl, free⟩, rfl⟩
    · rintro ⟨⟨first, inner, rfl | ⟨rfl, unmarked⟩, free⟩, split⟩
      · obtain ⟨_, rfl⟩ := List.cons.inj split
        exact ⟨(first :: inner, after), closed_some.mpr ⟨first, inner, rfl, free, rfl⟩, rfl⟩
      · exact absurd (List.cons.inj split).1.symm unmarked
  | case2 other unmarked =>
    rw [closed_some]
    constructor
    · rintro ⟨first, inner, rfl, free, rfl⟩
      refine ⟨⟨first, inner, .inr ⟨rfl, ?_⟩, free⟩, rfl⟩
      rintro rfl
      exact unmarked _ rfl
    · rintro ⟨⟨first, inner, rfl | ⟨rfl, _⟩, free⟩, rfl⟩
      · exact absurd rfl (unmarked _)
      · exact ⟨first, inner, rfl, free, rfl⟩

theorem after_shorter {text body after : Text} (found : body? text = some (body, after)) :
    after.length < text.length := by
  rw [(body_some.mp found).2, List.length_append, List.length_cons]
  omega

theorem body_longer {text body after : Text} (found : body? text = some (body, after)) (more : Text) :
    body? (text ++ more) = some (body, after ++ more) := by
  obtain ⟨proper, rfl⟩ := body_some.mp found
  rw [body_some]
  exact ⟨proper, by simp⟩

/-- A bracket that is not closed before a slash has it in its body. -/
theorem slash_in_body {front rest body after : Text} (unclosed : body? front = none)
    (found : body? (front ++ Path.slash :: rest) = some (body, after)) : Path.slash ∈ body := by
  obtain ⟨proper, split⟩ := body_some.mp found
  rcases List.append_eq_append_iff.mp split with ⟨more, rfl, behind⟩ | ⟨more, rfl, behind⟩
  · cases more with
    | nil => cases behind
    | cons point more =>
        obtain ⟨rfl, _⟩ := List.cons.inj behind
        simp
  · cases more with
    | nil => cases behind
    | cons point more =>
        obtain ⟨rfl, _⟩ := List.cons.inj behind
        have closed : body? (body ++ .scalar ']' :: more) = some (body, more) := body_some.mpr ⟨proper, rfl⟩
        rw [closed] at unclosed
        cases unclosed

end PointClass

namespace Pattern

/-- What a pattern is written with: characters that stand by themselves, and brackets. -/
inductive Piece where
  | single (point : CodePoint)
  | bracket (body : Text)

/-- The part of a pattern that a piece stands for. -/
def Piece.part : Piece → PatternPart
  | .single point =>
    if point = .scalar '*' then .anyText
    else if point = .scalar '?' then .anyOne
    else .exactly point
  | .bracket body => .oneOf (.ofBody body)

/-- The pieces that the text of a pattern is read as. -/
def cut : Text → List Piece
  | [] => []
  | point :: rest =>
    if point = .scalar '[' then
      match _found : PointClass.body? rest with
      | some (body, after) => .bracket body :: cut after
      | none => .single point :: cut rest
    else .single point :: cut rest
termination_by text => text.length
decreasing_by
  · exact (PointClass.after_shorter _found).trans (Nat.lt_succ_self _)
  · exact Nat.lt_succ_self _
  · exact Nat.lt_succ_self _

theorem cut_closed {rest body after : Text} (found : PointClass.body? rest = some (body, after)) :
    cut (.scalar '[' :: rest) = .bracket body :: cut after := by
  rw [cut, if_pos rfl]
  split
  · rename_i same
    rw [found] at same
    cases same
    rfl
  · rename_i same
    rw [found] at same
    cases same

theorem cut_unclosed {rest : Text} (unclosed : PointClass.body? rest = none) :
    cut (.scalar '[' :: rest) = .single (.scalar '[') :: cut rest := by
  rw [cut, if_pos rfl]
  split
  · rename_i same
    rw [unclosed] at same
    cases same
  · rfl

theorem cut_point {point : CodePoint} (plain : point ≠ .scalar '[') (rest : Text) :
    cut (point :: rest) = .single point :: cut rest := by
  rw [cut, if_neg plain]

/-- The parts that a pattern is read as are those of its pieces. -/
theorem read_cut (text : Text) {bound : Nat} (enough : text.length ≤ bound) :
    read bound text = (cut text).map Piece.part := by
  induction bound generalizing text with
  | zero =>
      rw [List.length_eq_zero_iff.mp (Nat.le_zero.mp enough), cut]
      rfl
  | succ bound ih =>
      cases text with
      | nil =>
          rw [cut]
          rfl
      | cons point rest =>
          have within : rest.length ≤ bound := Nat.le_of_succ_le_succ enough
          rw [read]
          by_cases opening : point = .scalar '['
          · subst opening
            cases found : PointClass.body? rest with
            | none => simp [cut_unclosed found, ih rest within, Piece.part]
            | some split =>
                obtain ⟨body, after⟩ := split
                have shorter := PointClass.after_shorter found
                simp [cut_closed found, ih after (by omega), Piece.part]
          · rw [cut_point opening, ih rest within, List.map_cons, Piece.part, if_neg opening]
            split
            · rfl
            · split <;> rfl

theorem of_text_cut (text : Text) : ofText text = (cut text).map Piece.part :=
  read_cut text (Nat.le_refl _)

/-- No bracket of a pattern has a slash in it. -/
def IsWhole (pattern : Text) : Prop := ∀ body, Piece.bracket body ∈ cut pattern → Path.slash ∉ body

/-- If no bracket has a slash, every slash of a pattern stands for itself. -/
theorem cut_around {front rest : Text} (whole : IsWhole (front ++ Path.slash :: rest)) :
    cut (front ++ Path.slash :: rest) = cut front ++ .single Path.slash :: cut rest := by
  fun_induction cut front with
  | case1 => exact cut_point (by decide) rest
  | case2 inner body after found ih =>
    have closed := cut_closed (PointClass.body_longer found (Path.slash :: rest))
    rw [List.cons_append, closed]
    rw [IsWhole, List.cons_append, closed] at whole
    rw [ih fun other member => whole other (List.mem_cons_of_mem _ member), List.cons_append]
  | case3 inner unclosed ih =>
    cases found : PointClass.body? (inner ++ Path.slash :: rest) with
    | some split =>
        obtain ⟨body, after⟩ := split
        rw [IsWhole, List.cons_append, cut_closed found] at whole
        exact absurd (PointClass.slash_in_body unclosed found) (whole body List.mem_cons_self)
    | none =>
        rw [List.cons_append, cut_unclosed found]
        rw [IsWhole, List.cons_append, cut_unclosed found] at whole
        rw [ih fun other member => whole other (List.mem_cons_of_mem _ member), List.cons_append]
  | case4 point inner plain ih =>
    rw [List.cons_append, cut_point plain]
    rw [IsWhole, List.cons_append, cut_point plain] at whole
    rw [ih fun other member => whole other (List.mem_cons_of_mem _ member), List.cons_append]

theorem whole_around {front rest : Text} (whole : IsWhole (front ++ Path.slash :: rest)) :
    IsWhole rest := by
  intro body member
  refine whole body ?_
  rw [cut_around whole]
  exact List.mem_append_right _ (List.mem_cons_of_mem _ member)

theorem of_text_around {front rest : Text} (whole : IsWhole (front ++ Path.slash :: rest)) :
    ofText (front ++ Path.slash :: rest) = ofText front ++ .exactly Path.slash :: ofText rest := by
  rw [of_text_cut, cut_around whole, List.map_append, List.map_cons, ← of_text_cut, ← of_text_cut]
  rfl

theorem any_ending_iff {test : Text → Bool} {text : Text} :
    anyEnding test text = true ↔ ∃ front rest, text = front ++ rest ∧ test rest = true := by
  induction text with
  | nil =>
      rw [anyEnding]
      constructor
      · exact fun passed => ⟨[], [], rfl, passed⟩
      · rintro ⟨front, rest, empty, passed⟩
        rwa [(List.append_eq_nil_iff.mp empty.symm).2] at passed
  | cons point text ih =>
      rw [anyEnding, Bool.or_eq_true, ih]
      constructor
      · rintro (passed | ⟨front, rest, rfl, passed⟩)
        · exact ⟨[], _, rfl, passed⟩
        · exact ⟨point :: front, rest, rfl, passed⟩
      · rintro ⟨front, rest, split, passed⟩
        cases front with
        | nil => exact .inl (by rwa [split])
        | cons first front =>
            obtain ⟨_, rfl⟩ := List.cons.inj split
            exact .inr ⟨front, rest, rfl, passed⟩

/-- What a part of a pattern takes of a text. -/
def Takes : PatternPart → Text → Prop
  | .anyText, _ => True
  | .anyOne, text => ∃ point, text = [point]
  | .oneOf points, text => ∃ point, text = [point] ∧ points.contains point = true
  | .exactly expected, text => text = [expected]

theorem match_cons {part : PatternPart} {parts : Pattern} {text : Text} :
    isMatch (part :: parts) text = true ↔
      ∃ front rest, text = front ++ rest ∧ Takes part front ∧ isMatch parts rest = true := by
  cases part with
  | anyText => simp only [isMatch, any_ending_iff, Takes, true_and]
  | anyOne => cases text <;> simp [isMatch, Takes, List.cons_eq_append_iff]
  | oneOf points =>
      cases text <;> simp [isMatch, Takes, List.cons_eq_append_iff]
  | exactly expected =>
      cases text with
      | nil => simp [isMatch, Takes]
      | cons point rest =>
          simp only [isMatch, Takes, List.cons_eq_append_iff, Bool.and_eq_true, decide_eq_true_eq]
          constructor
          · rintro ⟨rfl, passed⟩
            exact ⟨[point], rest, .inr ⟨[], rfl, rfl⟩, rfl, passed⟩
          · rintro ⟨_, _, ⟨rfl, _⟩ | ⟨_, rfl, rfl⟩, same, passed⟩
            · cases same
            · cases same
              exact ⟨rfl, passed⟩

/-- A text that matches one pattern behind another is a text that matches the one behind a text that
matches the other. -/
theorem match_append {first second : Pattern} {text : Text} :
    isMatch (first ++ second) text = true ↔
      ∃ front rest, text = front ++ rest ∧ isMatch first front = true ∧ isMatch second rest = true := by
  induction first generalizing text with
  | nil =>
      constructor
      · exact fun passed => ⟨[], text, rfl, rfl, passed⟩
      · rintro ⟨front, rest, rfl, empty, passed⟩
        rwa [List.isEmpty_iff.mp empty]
  | cons part parts ih =>
      rw [List.cons_append, match_cons]
      constructor
      · rintro ⟨taken, _, rfl, takes, passed⟩
        obtain ⟨front, rest, rfl, before, behind⟩ := ih.mp passed
        exact ⟨taken ++ front, rest, (List.append_assoc _ _ _).symm,
          match_cons.mpr ⟨taken, front, rfl, takes, before⟩, behind⟩
      · rintro ⟨_, rest, rfl, before, behind⟩
        obtain ⟨taken, front, rfl, takes, passed⟩ := match_cons.mp before
        exact ⟨taken, front ++ rest, List.append_assoc _ _ _, takes,
          ih.mpr ⟨front, rest, rfl, passed, behind⟩⟩

/-- A text matches a pattern if it comes apart at slashes into texts that match the parts. The texts may
have slashes too. -/
theorem match_parts {names : List Text} (listed : names ≠ []) (plain : ∀ name ∈ names, Path.slash ∉ name)
    (whole : IsWhole (Path.ofParts names)) (text : Text) :
    isMatch (ofText (Path.ofParts names)) text = true ↔
      ∃ pieces, text = Path.ofParts pieces ∧
        List.Forall₂ (fun piece name => isMatch (ofText name) piece = true) pieces names := by
  induction names generalizing text with
  | nil => exact absurd rfl listed
  | cons name names ih =>
      by_cases last : names = []
      · subst last
        constructor
        · exact fun passed => ⟨[text], rfl, .cons passed .nil⟩
        · rintro ⟨pieces, rfl, each⟩
          cases each with
          | cons passed rest =>
              cases rest
              exact passed
      · rw [Path.of_parts_cons name last] at whole ⊢
        have behind := ih last (fun other member => plain other (List.mem_cons_of_mem _ member))
          (whole_around whole)
        rw [of_text_around whole, match_append]
        constructor
        · rintro ⟨front, _, rfl, before, after⟩
          obtain ⟨_, rest, rfl, rfl, passed⟩ := match_cons.mp after
          obtain ⟨pieces, rfl, each⟩ := (behind rest).mp passed
          have more : pieces ≠ [] := by
            rintro rfl
            cases each
            exact last rfl
          exact ⟨front :: pieces, (Path.of_parts_cons front more).symm, .cons before each⟩
        · rintro ⟨pieces, rfl, each⟩
          cases each with
          | @cons front _ pieces _ before each =>
              have more : pieces ≠ [] := by
                rintro rfl
                cases each
                exact last rfl
              exact ⟨front, _, Path.of_parts_cons front more, before,
                match_cons.mpr ⟨_, _, rfl, rfl, (behind _).mpr ⟨pieces, rfl, each⟩⟩⟩

end Pattern

namespace Path

theorem depth_parts (path : Text) : (parts path).length = depth path + 1 := by
  induction path with
  | nil => rfl
  | cons point rest ih =>
      by_cases mark : point = slash
      · subst mark
        rw [parts, if_pos rfl, List.length_cons, ih, depth, depth, List.count_cons_self]
      · obtain ⟨part, others, split, grown⟩ := parts_cons mark rest
        rw [grown, depth, List.count_cons_of_ne mark]
        rw [split] at ih
        exact ih

theorem parts_at_least {pieces : List Text} (listed : pieces ≠ []) :
    pieces.length ≤ (parts (ofParts pieces)).length := by
  induction pieces with
  | nil => exact absurd rfl listed
  | cons piece pieces ih =>
      have one := List.length_pos_iff.mpr (parts_nonempty piece)
      by_cases last : pieces = []
      · subst last
        exact one
      · rw [of_parts_cons piece last, parts_around, List.length_append, List.length_cons]
        have others := ih last
        omega

/-- Texts between slashes are the parts of the path if it has no more. -/
theorem parts_of_few {pieces : List Text} (listed : pieces ≠ [])
    (few : (parts (ofParts pieces)).length = pieces.length) : parts (ofParts pieces) = pieces := by
  induction pieces with
  | nil => exact absurd rfl listed
  | cons piece pieces ih =>
      have alone : (parts piece).length = 1 → parts piece = [piece] := fun single =>
        parts_plain (Source.parts_one_iff.mp single)
      by_cases last : pieces = []
      · subst last
        exact alone few
      · have one := List.length_pos_iff.mpr (parts_nonempty piece)
        have others := parts_at_least last
        rw [of_parts_cons piece last, parts_around] at few ⊢
        rw [List.length_append, List.length_cons] at few
        rw [alone (by omega), ih last (by omega)]
        rfl

end Path

namespace Pattern

/-- A path is selected if it has as many parts as the pattern and each of them matches the part of the
pattern. -/
theorem selects_parts {pattern : Text} (whole : IsWhole pattern) (path : Text) :
    (Path.depth path == Path.depth pattern && isMatch (ofText pattern) path) = true ↔
      List.Forall₂ (fun part name => isMatch (ofText name) part = true) (Path.parts path)
        (Path.parts pattern) := by
  have plain : ∀ name ∈ Path.parts pattern, Path.slash ∉ name := fun _ => Path.slash_in_no_part
  have again := Path.of_parts_parts pattern
  have matching := match_parts (Path.parts_nonempty pattern) plain (again.symm ▸ whole) path
  rw [again] at matching
  rw [Bool.and_eq_true, beq_iff_eq, matching]
  constructor
  · rintro ⟨level, pieces, rfl, each⟩
    have listed : pieces ≠ [] := by
      rintro rfl
      exact Path.parts_nonempty pattern (List.forall₂_nil_left_iff.mp each)
    have few : (Path.parts (Path.ofParts pieces)).length = pieces.length := by
      rw [each.length_eq, Path.depth_parts, Path.depth_parts, level]
    rwa [Path.parts_of_few listed few]
  · intro each
    refine ⟨?_, Path.parts path, (Path.of_parts_parts path).symm, each⟩
    have level := each.length_eq
    rw [Path.depth_parts, Path.depth_parts] at level
    omega

end Pattern

namespace Source

/-- The paths that a source has for a pattern whose brackets hold no slash are those of its listing that
match it part by part, in the order of the listing and each once. -/
theorem glob_by_parts {disk : Node} {source : Source} (proper : source.Proper disk) {pattern : Text}
    (whole : Pattern.IsWhole pattern) :
    match source.list disk with
    | .error problem => source.glob disk pattern = .error problem
    | .ok paths =>
      ∃ found, source.glob disk pattern = .ok found ∧ found.Sublist paths ∧
        found.Pairwise (fun first second => Text.precedes first second = true) ∧
        ∀ path, path ∈ found ↔ path ∈ paths ∧
          List.Forall₂ (fun part name => Pattern.isMatch (Pattern.ofText name) part = true)
            (Path.parts path) (Path.parts pattern) := by
  cases listed : source.list disk with
  | error problem =>
      rw [glob, listed]
      rfl
  | ok paths =>
      have within := List.filter_sublist
        (p := fun path => Path.depth path == Path.depth pattern && (Pattern.ofText pattern).isMatch path)
        (l := paths)
      refine ⟨Pattern.select pattern paths, ?_, within, ?_, fun path => ?_⟩
      · rw [glob, listed]
        rfl
      · exact (list_increasing proper listed).sublist within
      · rw [Pattern.select, List.mem_filter, Pattern.selects_parts whole]

theorem sample_whole : Pattern.IsWhole "[ab]/*" := by
  have pieces : Pattern.cut "[ab]/*" = [.bracket "ab", .single Path.slash, .single (.scalar '*')] := by
    cbv
  intro body member
  rw [pieces] at member
  simp only [List.mem_cons, Pattern.Piece.bracket.injEq, reduceCtorEq, List.not_mem_nil, or_false] at member
  subst member
  decide

theorem sample_glob_by_parts :
    ∃ found, (Source.folder "site/pages").glob sampleDisk "[ab]/*" = .ok found ∧
      ("a/c.html" : Text) ∈ found ∧ ("b.html" : Text) ∉ found := by
  have selected := @glob_by_parts sampleDisk (.folder "site/pages") sample_disk_tidy _ sample_whole
  have listed : (Source.folder "site/pages").list sampleDisk =
      .ok [("a/c.html" : Text), ("b.html" : Text)] := by cbv
  rw [listed] at selected
  obtain ⟨found, same, _, _, members⟩ := selected
  refine ⟨found, same, (members _).mpr ⟨List.mem_cons_self, ?_⟩, fun member => ?_⟩
  · exact .cons (by decide) (.cons (by decide) .nil)
  · have parts := ((members _).mp member).2.length_eq
    exact absurd parts (by decide)

end Source

end PageTemplates
