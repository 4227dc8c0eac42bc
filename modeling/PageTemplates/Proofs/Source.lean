import PageTemplates.Proofs.Entries
import PageTemplates.Proofs.Path
import PageTemplates.Proofs.Results
import PageTemplates.Proofs.Text.Order
import PageTemplates.Proofs.Text.Utf8
import PageTemplates.Source

/-!
How sources answer. A listing comes in order and a path is read as the content of one file, or the
source says that it cannot be read. There are few other ways to end, and they are told here by what
is asked: a path that the host cannot be asked for, a folder with too long a name, a package
without a name, and a path of several parts in a folder that is a package without saying so.
-/

namespace PageTemplates

namespace Path

/-- A path that a host can be asked for: no point of it is a zero byte, and every lone surrogate in it
stands for a byte. -/
def IsAskable (path : Text) : Prop :=
  ∀ point ∈ path, point ≠ .scalar '\x00' ∧ isStorable point = true

instance (path : Text) : Decidable (IsAskable path) :=
  inferInstanceAs (Decidable (∀ point ∈ path, point ≠ .scalar '\x00' ∧ isStorable point = true))

theorem without_bytes_whole {path : Text} :
    (withoutBytes false path).IsWhole ↔ ∀ point ∈ path, isStorable point = true := by
  induction path with
  | nil => simp [withoutBytes, Text.IsWhole]
  | cons point rest ih =>
      cases point with
      | scalar character =>
          rw [withoutBytes, Text.IsWhole, List.forall_mem_cons, List.forall_mem_cons]
          exact and_congr (iff_of_true rfl rfl) ih
      | surrogate offset =>
          rw [withoutBytes]
          · by_cases storable : isStorable (.surrogate offset) = true
            · simp only [storable, Bool.not_false, Bool.and_self, if_true, Text.IsWhole,
                List.forall_mem_cons, true_and]
              exact (and_iff_right rfl).trans ih
            · -- The surrogate stays and is alone, whatever comes of the rest.
              simp [storable, Text.IsWhole, Text.isSurrogate]
          · exact nofun

theorem checked_ok {path other : Text} :
    checked path = .ok other ↔ IsAskable path ∧ other = path := by
  have split : IsAskable path ↔
      (withoutBytes false path).IsWhole ∧ CodePoint.scalar '\x00' ∉ path := by
    rw [without_bytes_whole]
    constructor
    · exact fun askable => ⟨fun point member => (askable point member).2,
        fun zero => (askable _ zero).1 rfl⟩
    · rintro ⟨storable, zero⟩ point member
      exact ⟨fun same => zero (same ▸ member), storable point member⟩
  rw [checked, split]
  cases encoded : Text.encode (withoutBytes false path) with
  | error fault =>
      have stray : ¬(withoutBytes false path).IsWhole := by
        intro whole
        obtain ⟨bytes, same⟩ := Text.encode_whole whole
        rw [encoded] at same
        cases same
      simp [stray]
  | ok bytes =>
      by_cases zero : CodePoint.scalar '\x00' ∈ path
      · simp [zero]
      · simp [zero, Text.whole_of_encode encoded, eq_comm]

theorem checked_error {path : Text} :
    (∃ failure, checked path = .error failure) ↔ ¬IsAskable path := by
  have okay : (∃ other, checked path = .ok other) ↔ IsAskable path := by
    simp only [checked_ok, exists_and_left, exists_eq, and_true]
  rw [← okay]
  cases checked path <;> simp

/-- What can be asked for only hangs on code points other than those that paths are cut at. -/
theorem askable_congr {path other : Text}
    (same : ∀ point, point ≠ slash → point ∉ here → (point ∈ path ↔ point ∈ other)) :
    IsAskable path ↔ IsAskable other := by
  refine forall_congr' fun point => ?_
  by_cases cut : point = slash
  · subst cut
    exact iff_of_true (fun _ => by decide) fun _ => by decide
  by_cases dot : point ∈ here
  · cases List.mem_singleton.mp dot
    exact iff_of_true (fun _ => by decide) fun _ => by decide
  · exact imp_congr_left (same point cut dot)

theorem askable_slash : IsAskable [slash] := by
  intro point member
  cases List.mem_singleton.mp member
  decide

theorem askable_append {first second : Text} :
    IsAskable (first ++ second) ↔ IsAskable first ∧ IsAskable second :=
  List.forall_mem_append

theorem askable_of_parts {names : List Text} :
    IsAskable (ofParts names) ↔ ∀ name ∈ names, IsAskable name := by
  have joined : IsAskable (ofParts names) ↔ IsAskable names.flatten := by
    refine askable_congr fun point cut _ => ?_
    rw [ofParts, Text.mem_join (by simpa using cut), List.mem_flatten]
  rw [joined]
  simp only [IsAskable, List.mem_flatten]
  constructor
  · exact fun askable name member point inside => askable point ⟨name, member, inside⟩
  · rintro askable point ⟨name, member, inside⟩
    exact askable name member point inside

theorem mem_steps {point : CodePoint} (cut : point ≠ slash) (dot : point ∉ here) {path : Text} :
    (∃ step ∈ steps path, point ∈ step) ↔ point ∈ path := by
  rw [← mem_parts cut]
  constructor
  · rintro ⟨step, member, inside⟩
    exact ⟨step, (List.mem_filter.mp member).1, inside⟩
  · rintro ⟨part, member, inside⟩
    refine ⟨part, List.mem_filter.mpr ⟨member, ?_⟩, inside⟩
    have full : part ≠ [] := List.ne_nil_of_mem inside
    have other : part ≠ here := fun same => dot (same ▸ inside)
    simpa using ⟨full, other⟩

theorem mem_root_mark {point : CodePoint} {path : Text} (member : point ∈ rootMark path) :
    point = slash := by
  simp only [rootMark] at member
  split at member
  · cases member
  · split at member
    · exact List.mem_singleton.mp member
    · split at member <;> simpa using member
    · cases member

theorem askable_shown {path : Text} : IsAskable (shown path) ↔ IsAskable path := by
  refine askable_congr fun point cut dot => ?_
  have inText : point ∈ rootMark path ++ ofParts (steps path) ↔ point ∈ path := by
    rw [List.mem_append, ofParts, Text.mem_join (by simpa using cut), mem_steps cut dot]
    exact or_iff_right fun mark => cut (mem_root_mark mark)
  rw [shown]
  split
  · rename_i empty
    rw [List.isEmpty_iff.mp empty] at inText
    exact iff_of_false dot fun member => List.not_mem_nil (inText.mpr member)
  · exact inText

/-- A path inside a folder can be asked for if it can, and the folder too unless the path starts at
the root. -/
theorem askable_joined {folder path : Text} :
    IsAskable (joined (shown folder) path) ↔
      IsAskable path ∧ (isAbsolute path = true ∨ IsAskable folder) := by
  rw [joined]
  split
  · rename_i absolute
    rw [askable_shown]
    exact (and_iff_left (.inl absolute)).symm
  · rename_i inside
    rw [askable_shown, askable_append, askable_append, askable_shown, and_comm]
    simp only [askable_slash, and_true, inside, Bool.false_eq_true, false_or]

end Path

namespace Source

/-- How a request to a source ends: with a right answer, with the fault that something cannot be read,
or, only if the request goes astray, with another failure. -/
inductive Ends {Result : Type} (right : Result → Prop) (astray : Prop) :
    Except Problem Result → Prop where
  | answer {value : Result} (fits : right value) (plain : ¬astray) : Ends right astray (.ok value)
  | fault (told reason : Text) (plain : ¬astray) :
    Ends right astray (.error (unreadable told reason))
  | failure (failure : Failure) (strange : astray) : Ends right astray (.error (.failure failure))

/-- A path that the host can be asked for, but with too long a name. -/
def Overlong (disk : Node) (path : Text) : Prop :=
  Path.IsAskable path ∧ disk.find path = .error .nameTooLong

theorem folder_listing_ends {listing : Node → List Text} (ordered : ∀ node, Text.Ordered (listing node))
    (disk : Node) (path shown told reason : Text) :
    Ends Text.Ordered (Overlong disk path)
      (folderListing listing disk path shown (unreadable told reason)) := by
  rw [folderListing, leadsToFolder]
  cases asked : Path.checked path with
  | error failure =>
      have strange := Path.checked_error.mp ⟨failure, asked⟩
      exact .fault told reason fun overlong => strange overlong.1
  | ok other =>
      obtain ⟨askable, rfl⟩ := Path.checked_ok.mp asked
      cases found : disk.find other with
      | ok node =>
          have plain : ¬Overlong disk other := fun overlong => by
            rw [Overlong, found] at overlong
            cases overlong.2
          simp only [found, Except.mapError, bind, Except.bind]
          split
          · exact .answer (ordered node) plain
          · exact .fault told reason plain
      | error fault =>
          simp only [found]
          cases fault with
          | nameTooLong => exact .failure _ ⟨askable, found⟩
          | missing | notFolder | isFolder =>
              refine .fault told reason fun overlong => ?_
              rw [Overlong, found] at overlong
              cases overlong.2

theorem file_bytes_ends (disk : Node) (path shown told : Text) :
    Ends (fun content => disk.find path = .ok (.file content)) (¬Path.IsAskable shown)
      (fileBytes disk path shown told) := by
  rw [fileBytes]
  cases asked : Path.checked shown with
  | error failure => exact .failure failure (Path.checked_error.mp ⟨failure, asked⟩)
  | ok other =>
      have plain : ¬¬Path.IsAskable shown := not_not_intro (Path.checked_ok.mp asked).1
      simp only [Except.mapError, bind, Except.bind, Node.readFile]
      cases found : disk.find path with
      | error fault => exact .fault told _ plain
      | ok node =>
          cases node with
          | folder entries => exact .fault told _ plain
          | file content => exact .answer rfl plain

theorem import_parts_error {disk : Node} {parts : List Text} {outer : Text} {found : Imported}
    {failure : Failure} (failed : importParts disk outer found parts = .error failure) :
    failure.cause = .importing := by
  induction parts generalizing outer found with
  | nil => cases failed
  | cons part parts ih =>
      unfold importParts at failed
      cases found with
      | other =>
          cases failed
          rfl
      | package path | folder path =>
          dsimp only [pure, Except.pure, bind, Except.bind] at failed
          split at failed
          · split at failed
            · exact ih failed
            · cases failed
              rfl
          · cases failed
            rfl

theorem import_named_error {disk : Node} {name : Text} {failure : Failure}
    (failed : importNamed disk name = .error failure) :
    name = [] ∧ failure.cause = .wrongValue ∨
      name ≠ [] ∧ (failure.cause = .importing ∨ failure.cause = .wrongType) := by
  rw [importNamed] at failed
  split at failed
  · rename_i empty
    cases failed
    exact .inl ⟨List.isEmpty_iff.mp empty, rfl⟩
  · rename_i full
    refine .inr ⟨fun same => full (List.isEmpty_iff.mpr same), ?_⟩
    split at failed
    · cases failed
      exact .inl rfl
    · split at failed
      · cases failed
        exact .inr rfl
      · split at failed
        · exact .inl (import_parts_error failed)
        · cases failed
          exact .inl rfl

theorem package_folder_ends (disk : Node) (package : Text) :
    Ends (fun _ => True) (package = []) (packageFolder disk package) := by
  rw [packageFolder]
  cases found : importNamed disk package with
  | ok imported =>
      have plain : package ≠ [] := by
        rintro rfl
        cases found
      cases imported with
      | package path => exact .answer trivial plain
      | folder path => exact .answer trivial plain
      | other => exact .fault package _ plain
  | error failure =>
      rcases import_named_error found with ⟨empty, cause⟩ | ⟨plain, cause⟩
      · simp only [cause, decide_false, reduceCtorEq, Bool.or_self, Bool.false_eq_true, if_false]
        exact .failure failure empty
      · have told : (decide (failure.cause = .importing) ||
            decide (failure.cause = .wrongType)) = true := by simpa using cause
        simp only [told, if_true]
        exact .fault package _ plain

/-- The path, from the folder of packages, of a folder in a package, or of a file in it. -/
def inPackage (base : List Text) (inside : List Text) : Text := Path.ofParts (base ++ inside)

/-- A source that goes astray when it is listed: its folder has too long a name, or its package has
none. -/
def Unlistable (disk : Node) : Source → Prop
  | .mapping _ => False
  | .folder root => Overlong disk (Path.shown root)
  | .bundle _ package inner =>
    package = [] ∨ ∃ base bare, packageFolder disk package = .ok (base, bare) ∧
      Overlong disk (inPackage base [inner])

/-- A path at which a source goes astray: the host cannot be asked for it, the package of the source has
no name, or it has several parts and the source is the whole of a folder that is a package without
saying so. -/
def Unaskable (disk : Node) (path : Text) : Source → Prop
  | .mapping _ => False
  | .folder root => ¬(Path.IsAskable path ∧ (Path.isAbsolute path = true ∨ Path.IsAskable root))
  | .bundle home package inner =>
    package = [] ∨ ∃ base bare, packageFolder disk package = .ok (base, bare) ∧
      (bare = true ∧ inner = [] ∧ Path.slash ∈ path ∨
        ¬(Path.IsAskable home ∧ (∀ part ∈ base, Path.IsAskable part) ∧ Path.IsAskable inner ∧
          Path.IsAskable path))

/-- The content of the file that a source has at a path. -/
def Holds (disk : Node) (path : Text) (content : Bytes) : Source → Prop
  | .mapping files => files.lookup path = some content
  | .folder root => disk.find (Path.joined (Path.shown root) path) = .ok (.file content)
  | .bundle _ package inner =>
    ∃ base bare, packageFolder disk package = .ok (base, bare) ∧
      disk.find (inPackage base [inner, path]) = .ok (.file content)

theorem Ends.imp {Result : Type} {right better : Result → Prop} {astray strange : Prop}
    {result : Except Problem Result} (ends : Ends right astray result)
    (fits : ∀ value, right value → better value) (same : astray ↔ strange) :
    Ends better strange result := by
  cases ends with
  | answer right plain => exact .answer (fits _ right) (mt same.mpr plain)
  | fault told reason plain => exact .fault told reason (mt same.mpr plain)
  | failure failure astray => exact .failure failure (same.mp astray)

/-- A request that has to find its package first. -/
theorem Ends.inPackage {Result : Type} {right : Result → Prop} {disk : Node} {package : Text}
    {astray : List Text → Bool → Prop} {next : List Text × Bool → Except Problem Result}
    (rest : ∀ base bare, packageFolder disk package = .ok (base, bare) →
      Ends right (astray base bare) (next (base, bare))) :
    Ends right
      (package = [] ∨ ∃ base bare, packageFolder disk package = .ok (base, bare) ∧ astray base bare)
      (packageFolder disk package >>= next) := by
  have first := package_folder_ends disk package
  cases found : packageFolder disk package with
  | ok value =>
      obtain ⟨base, bare⟩ := value
      rw [found] at first
      cases first with
      | answer _ named =>
          refine (rest base bare found).imp (fun _ => id) ⟨fun strange => .inr ⟨_, _, rfl, strange⟩, ?_⟩
          rintro (empty | ⟨_, _, same, strange⟩)
          · exact absurd empty named
          · cases same
            exact strange
  | error problem =>
      rw [found] at first
      cases first with
      | fault told reason named =>
          refine .fault told reason ?_
          rintro (empty | ⟨_, _, impossible, _⟩)
          · exact named empty
          · cases impossible
      | failure failure empty => exact .failure failure (.inl empty)

theorem parts_one_iff {path : Text} : (Path.parts path).length = 1 ↔ Path.slash ∉ path := by
  constructor
  · intro one member
    obtain ⟨front, rest, rfl⟩ := List.append_of_mem member
    have before := List.length_pos_iff.mpr (Path.parts_nonempty front)
    have behind := List.length_pos_iff.mpr (Path.parts_nonempty rest)
    rw [Path.parts_around, List.length_append] at one
    omega
  · intro plain
    rw [Path.parts_plain plain]
    rfl

theorem askable_below {home inner path : Text} {base : List Text} :
    Path.IsAskable (shownBelow home (inPackage base [inner, path])) ↔
      Path.IsAskable home ∧ (∀ part ∈ base, Path.IsAskable part) ∧ Path.IsAskable inner ∧
        Path.IsAskable path := by
  have listed : (∀ part ∈ base ++ [inner, path], Path.IsAskable part) ↔
      (∀ part ∈ base, Path.IsAskable part) ∧ Path.IsAskable inner ∧ Path.IsAskable path := by
    rw [List.forall_mem_append, List.forall_mem_cons, List.forall_mem_singleton]
  rw [shownBelow, Path.askable_shown, Path.askable_append, Path.askable_append, inPackage,
    Path.askable_of_parts, listed, and_iff_left Path.askable_slash]

theorem list_ends (disk : Node) (source : Source) :
    Ends Text.Ordered (source.Unlistable disk) (source.list disk) := by
  cases source with
  | mapping files => exact .answer (Text.sorted_ordered _) id
  | folder root => exact folder_listing_ends (fun _ => Text.sorted_ordered _) disk _ _ _ _
  | bundle home package inner =>
      exact Ends.inPackage fun base bare _ =>
        folder_listing_ends (fun _ => Text.sorted_ordered _) disk _ _ _ _

theorem read_ends (disk : Node) (path : Text) (source : Source) :
    Ends (fun content => source.Holds disk path content) (source.Unaskable disk path)
      (source.read disk path) := by
  cases source with
  | mapping files =>
      simp only [read]
      split
      · rename_i content found
        exact .answer found id
      · exact .fault path _ id
  | folder root =>
      exact (file_bytes_ends disk _ _ _).imp (fun _ => id) (not_congr Path.askable_joined)
  | bundle home package inner =>
      refine Ends.inPackage fun base bare found => ?_
      simp only
      by_cases astray : bare = true ∧ inner = [] ∧ Path.slash ∈ path
      · have many : (bare && inner.isEmpty && (Path.parts path).length != 1) = true := by
          simp [astray, mt parts_one_iff.mp (not_not_intro astray.2.2)]
        rw [if_pos many]
        exact .failure _ (.inl astray)
      · have one : ¬(bare && inner.isEmpty && (Path.parts path).length != 1) = true := by
          simpa [parts_one_iff, not_and] using astray
        rw [if_neg one]
        refine (file_bytes_ends disk _ _ _).imp (fun content held => ⟨base, bare, found, held⟩) ?_
        rw [or_iff_right astray]
        exact not_congr askable_below

theorem read_holds {disk : Node} {source : Source} {path : Text} {content : Bytes}
    (answer : source.read disk path = .ok content) : source.Holds disk path content := by
  have ends := read_ends disk path source
  rw [answer] at ends
  cases ends with
  | answer held => exact held

/-- A file below a folder that is a package without saying so is listed, but to read it goes astray. -/
example :
    let disk : Node := .folder [("bare", .folder [("sub", .folder [("a.html", .file [])])])]
    let source : Source := .bundle [] "bare" []
    source.list disk = .ok ["sub/a.html"] ∧ source.Unaskable disk "sub/a.html" :=
  ⟨by cbv, .inr ⟨_, _, rfl, .inl ⟨rfl, rfl, by decide⟩⟩⟩

theorem read_text_of_stored (disk : Node) {files : List (Text × Bytes)} {path : Text} {bytes : Bytes}
    (stored : files.lookup path = some bytes) :
    (Source.mapping files).readText disk path =
      (Text.decode bytes).mapError fun fault =>
        unreadable path ("not valid UTF-8: " ++ fault.message) := by
  have content : (Source.mapping files).read disk path = .ok bytes := by rw [read, stored]
  rw [readText, content]
  dsimp only [bind, Except.bind]
  cases Text.decode bytes <;> rfl

/-- A file is stored in memory under its path, with its content as bytes. -/
def Stores (file : Text × Data) (kept : Text × Bytes) : Prop :=
  file.1 = kept.1 ∧ fileContent file.2 = .ok kept.2

theorem of_files_ok {files : List (Text × Data)} {source : Source} :
    ofFiles files = .ok source ↔ ∃ kept, List.Forall₂ Stores files kept ∧ source = .mapping kept := by
  have each (file : Text × Data) (kept : Text × Bytes) :
      ((fileContent file.2).map fun content => (file.1, content)) = .ok kept ↔ Stores file kept := by
    rw [Results.map_ok]
    constructor
    · rintro ⟨content, stored, rfl⟩
      exact ⟨rfl, stored⟩
    · rintro ⟨same, stored⟩
      exact ⟨kept.2, stored, by rw [same]⟩
  change Except.bind (files.mapM fun file => (fileContent file.2).map fun content => (file.1, content))
    (fun kept => Except.ok (Source.mapping kept)) = .ok source ↔ _
  simp only [Results.bind_ok, Results.mapM_ok, each, Except.ok.injEq]
  exact exists_congr fun kept => and_congr_right fun _ => eq_comm

theorem lookup_stored {files : List (Text × Data)} {kept : List (Text × Bytes)}
    (stored : List.Forall₂ Stores files kept) {path : Text} {data : Data}
    (found : files.lookup path = some data) :
    ∃ bytes, kept.lookup path = some bytes ∧ fileContent data = .ok bytes := by
  induction stored with
  | nil => cases found
  | @cons file first files kept here _ ih =>
      obtain ⟨same, content⟩ := here
      rw [Entries.lookup_first] at found
      rw [Entries.lookup_first, ← same]
      split at found
      · cases found
        exact ⟨first.2, if_pos ‹_›, content⟩
      · rw [if_neg ‹_›]
        exact ih found

/-- Files whose contents have bytes can be stored. -/
theorem stored_of_contents {files : List (Text × Data)}
    (contents : ∀ file ∈ files, ∃ bytes, fileContent file.2 = .ok bytes) :
    ∃ kept, List.Forall₂ Stores files kept := by
  induction files with
  | nil => exact ⟨[], .nil⟩
  | cons file files ih =>
      obtain ⟨⟨bytes, here⟩, others⟩ := List.forall_mem_cons.mp contents
      obtain ⟨kept, later⟩ := ih others
      exact ⟨(file.1, bytes) :: kept, .cons ⟨rfl, here⟩ later⟩

/-- Bytes in memory are read as the text that they are the encoding of; other bytes are not well formed, and
are unreadable under their path. What is stored as a text is read back as the text. -/
theorem texts_decoded :
    (∀ disk files path bytes, files.lookup path = some bytes →
      (∀ text, (Source.mapping files).readText disk path = .ok text ↔ Text.encode text = .ok bytes) ∧
      ((∃ reason, (Source.mapping files).readText disk path = .error (unreadable path reason)) ↔
        ¬Text.WellFormed bytes)) ∧
    ∀ disk files path text, (∀ file ∈ files, ∃ bytes, fileContent file.2 = .ok bytes) →
      files.lookup path = some (.text text) → text.IsWhole →
      ∃ source, ofFiles files = .ok source ∧ source.readText disk path = .ok text := by
  constructor
  · intro disk files path bytes stored
    rw [read_text_of_stored disk stored, Text.well_formed_iff]
    refine ⟨fun text => Results.mapError_ok.trans Text.decode_iff, ?_⟩
    simp only [← Text.decode_iff]
    cases Text.decode bytes with
    | ok text => exact ⟨fun ⟨_, same⟩ => (nomatch same), fun unknown => absurd ⟨text, rfl⟩ unknown⟩
    | error fault => exact ⟨fun _ ⟨_, same⟩ => (nomatch same), fun _ => ⟨_, rfl⟩⟩
  · intro disk files path text contents found whole
    obtain ⟨kept, stored⟩ := stored_of_contents contents
    obtain ⟨bytes, located, content⟩ := lookup_stored stored found
    obtain ⟨encoded, written⟩ := Text.encode_whole whole
    have same : encoded = bytes := by
      rw [fileContent, written] at content
      exact Except.ok.inj content
    refine ⟨.mapping kept, of_files_ok.mpr ⟨kept, stored, rfl⟩, ?_⟩
    rw [read_text_of_stored disk located, Results.mapError_ok, Text.decode_iff, written, same]

/-- The letter of two bytes, a slash in two bytes, and a text. -/
theorem texts_decoded_of_letters :
    (Source.mapping [("a.html", [0xC3, 0xA9])]).readText .empty "a.html" = .ok "é" ∧
      ¬Text.WellFormed [0xC0, 0xAF] ∧
      ∃ source, ofFiles [("b.html", .text "é")] = .ok source ∧
        source.readText .empty "b.html" = .ok "é" :=
  ⟨((texts_decoded.1 _ _ _ _ rfl).1 _).mpr rfl,
    (texts_decoded.1 .empty [("c.html", [0xC0, 0xAF])] "c.html" _ rfl).2.mp ⟨_, rfl⟩,
    texts_decoded.2 _ _ _ _ (List.forall_mem_singleton.mpr ⟨_, rfl⟩) rfl (by decide)⟩

end Source

end PageTemplates
