import PageTemplates.Discovery
import PageTemplates.Proofs.Folder
import PageTemplates.Proofs.Results

/-!
Sources of one folder. A folder can be shown by itself, inside a package, and as a mapping of the paths of
its files. However it is shown, as long as the host takes all paths in it, a source lists its files, reads
each of them, and so offers the same templates.
-/

namespace PageTemplates.Source

open Node (Fits)
open Results (bind_ok mapError_ok)

theorem leads_to_folder_ok {disk : Node} {path shown : Text} :
    leadsToFolder disk path shown = .ok true ↔
      Path.IsAskable path ∧ ∃ entries, disk.find path = .ok (.folder entries) := by
  rw [leadsToFolder]
  cases asked : Path.checked path with
  | error failure =>
      have strange := Path.checked_error.mp ⟨failure, asked⟩
      simp [strange]
  | ok other =>
      obtain ⟨askable, rfl⟩ := Path.checked_ok.mp asked
      simp only [askable, true_and]
      cases disk.find other with
      | error fault => cases fault <;> simp
      | ok node => cases node <;> simp [Node.isFolder]

/-- A folder is listed if the host can be asked for its path. -/
theorem folder_listing_ok {listing : Node → List Text} {disk : Node} {path shown : Text}
    {missing : Problem} {paths : List Text} :
    folderListing listing disk path shown missing = .ok paths ↔
      Path.IsAskable path ∧ ∃ entries, disk.find path = .ok (.folder entries) ∧
        listing (.folder entries) = paths := by
  rw [folderListing]
  refine bind_ok.trans ?_
  simp only [mapError_ok]
  constructor
  · rintro ⟨there, led, listed⟩
    split at listed
    · rename_i yes
      subst yes
      obtain ⟨askable, entries, found⟩ := leads_to_folder_ok.mp led
      rw [found] at listed
      cases listed
      exact ⟨askable, entries, found, rfl⟩
    · cases listed
  · rintro ⟨askable, entries, found, rfl⟩
    refine ⟨true, leads_to_folder_ok.mpr ⟨askable, entries, found⟩, ?_⟩
    rw [if_pos rfl, found]

theorem list_folder_ok {disk : Node} {root : Text} {paths : List Text} :
    (Source.folder root).list disk = .ok paths ↔
      Path.IsAskable (Path.shown root) ∧ ∃ entries, disk.find (Path.shown root) = .ok (.folder entries) ∧
        Node.listing (Path.shown root) (.folder entries) = paths :=
  folder_listing_ok

theorem file_bytes_ok {disk : Node} {path shown told : Text} {content : Bytes}
    (askable : Path.IsAskable shown) (found : disk.find path = .ok (.file content)) :
    fileBytes disk path shown told = .ok content := by
  rw [fileBytes, Path.checked_ok.mpr ⟨askable, rfl⟩]
  simp only [Except.mapError, bind, Except.bind, Node.readFile, found]

/-- What a name leads to lies below the folder of packages. -/
def Below : Imported → Prop
  | .package path | .folder path => path ≠ []
  | .other => True

theorem import_from_below {path : List Text} {name : Text} {node : Node} {found : Imported}
    (imported : importFrom path name node = some found) : Below found := by
  have inner : path ++ [name] ≠ [] := List.append_ne_nil_of_right_ne_nil _ (List.cons_ne_nil _ _)
  rw [importFrom] at imported
  split at imported
  · split at imported
    · cases imported
      exact inner
    · split at imported
      · cases imported
        exact trivial
      · cases imported
        exact inner
  · split at imported
    · cases imported
      exact trivial
    · cases imported

theorem import_parts_below {disk : Node} {parts : List Text} {outer : Text} {found result : Imported}
    (below : Below found) (imported : importParts disk outer found parts = .ok result) :
    Below result := by
  induction parts generalizing outer found with
  | nil =>
      cases imported
      exact below
  | cons part parts ih =>
      unfold importParts at imported
      cases found with
      | other => cases imported
      | package path | folder path =>
          dsimp only [pure, Except.pure, bind, Except.bind] at imported
          split at imported
          · split at imported
            · rename_i first
              exact ih (import_from_below first) imported
            · cases imported
          · cases imported

theorem package_folder_below {disk : Node} {package : Text} {base : List Text} {bare : Bool}
    (found : packageFolder disk package = .ok (base, bare)) : base ≠ [] := by
  have below : ∀ {imported}, importNamed disk package = .ok imported → Below imported := by
    intro imported named
    rw [importNamed] at named
    split at named
    · cases named
    · split at named
      · cases named
      · split at named
        · cases named
        · split at named
          · rename_i first
            exact import_parts_below (import_from_below first) named
          · cases named
  rw [packageFolder] at found
  split at found
  · rename_i path named
    cases found
    exact below named
  · rename_i path named
    cases found
    exact below named
  · cases found
  · split at found <;> cases found

/-- A source whose paths are different: a mapping has one file for each path, and a host keeps its folders
tidy. -/
def Proper (disk : Node) : Source → Prop
  | .mapping files => (files.map Prod.fst).Nodup
  | .folder _ | .bundle .. => disk.Tidy

theorem list_increasing {disk : Node} {source : Source} (proper : source.Proper disk) {paths : List Text}
    (listed : source.list disk = .ok paths) :
    paths.Pairwise fun first second => Text.precedes first second = true := by
  cases source with
  | mapping files =>
      cases listed
      exact Text.sorted_increasing proper
  | folder root =>
      obtain ⟨_, entries, found, rfl⟩ := list_folder_ok.mp listed
      have tidy := (Node.find_tidy proper found).1
      have short := (Node.find_ok found).1
      exact Text.sorted_increasing ((Node.contents_distinct tidy).sublist (Node.listing_sublist tidy short))
  | bundle home package inner =>
      obtain ⟨⟨base, bare⟩, _, listed⟩ := bind_ok.mp listed
      obtain ⟨_, entries, found, rfl⟩ := folder_listing_ok.mp listed
      rw [Node.walk_listing]
      exact Text.sorted_increasing (Node.contents_distinct (Node.find_tidy proper found).1)

/-- The ways in which a source shows a folder: by its path, as the inside of a package that says that it is
one, and as a mapping of its files. On the host, the paths of all that is in the folder are short enough. -/
inductive Shows (disk : Node) (entries : List (Text × Node)) : Source → Prop where
  | folder {root : Text} (found : disk.find (Path.shown root) = .ok (.folder entries))
    (fits : Fits (Path.shown root) (.folder entries)) : Shows disk entries (.folder root)
  | bundle {home package inner : Text} {base : List Text}
    (imported : packageFolder disk package = .ok (base, false))
    (found : disk.find (inPackage base [inner]) = .ok (.folder entries)) (askable : Path.IsAskable home)
    (fits : Fits (home ++ [Path.slash] ++ inPackage base [inner]) (.folder entries)) :
    Shows disk entries (.bundle home package inner)
  | mapping {files : List (Text × Bytes)} (same : files.Perm (Node.folder entries).contents) :
    Shows disk entries (.mapping files)

section Shows

variable {disk : Node} {entries : List (Text × Node)} {source : Source} (tidy : disk.Tidy)
  (inside : (Node.folder entries).Tidy) (shows : Shows disk entries source)

include tidy inside shows

theorem list_shown :
    source.list disk = .ok (Text.sorted ((Node.folder entries).contents.map Prod.fst)) := by
  cases shows with
  | folder found fits =>
      exact list_folder_ok.mpr ⟨(Node.find_tidy tidy found).2, entries, found,
        Node.listing_fitting inside fits⟩
  | bundle imported found askable fits =>
      exact bind_ok.mpr ⟨_, imported, folder_listing_ok.mpr ⟨(Node.find_tidy tidy found).2, entries,
        found, Node.walk_listing⟩⟩
  | mapping same => exact congrArg Except.ok (Text.sorted_congr (same.map Prod.fst))

theorem read_shown {path : Text} {content : Bytes}
    (there : (Node.folder entries).at? (Path.parts path) = some (.file content)) :
    source.read disk path = .ok content := by
  have named := (Node.at_tidy inside there).2
  have listed := Path.parts_nonempty path
  have spelled := Path.of_parts_parts path
  have asked : Path.IsAskable path := by
    rw [← spelled, Path.askable_of_parts]
    exact fun name member => (named name member).askable
  cases shows with
  | folder found fits =>
      have led := Node.find_joined found listed named there (fits.path_short listed there)
      rw [spelled] at led
      rw [read]
      refine file_bytes_ok (Path.askable_joined.mpr ⟨asked, .inr ?_⟩) led
      exact Path.askable_shown.mp (Node.find_tidy tidy found).2
  | @bundle home package inner base imported found askable fits =>
      have based := package_folder_below imported
      have full : inPackage base [inner] ≠ [] := by
        rw [inPackage, Node.of_parts_append based (List.cons_ne_nil _ _)]
        exact List.append_ne_nil_of_right_ne_nil _ (List.cons_ne_nil _ _)
      have short : Node.byteCount (inPackage base [inner] ++ Path.slash :: Path.ofParts (Path.parts path)) ≤
          Node.longestPath := by
        have whole := fits.path_short listed there
        rw [List.append_assoc, Node.byte_count_append] at whole
        omega
      have led := Node.find_below found full named there short
      have spelling : inPackage base [inner, path] = inPackage base [inner] ++ Path.slash :: path := by
        have listed : base ++ [inner] ≠ [] := List.append_ne_nil_of_right_ne_nil _ (List.cons_ne_nil _ _)
        have concat := Path.of_parts_concat listed path
        rwa [List.append_assoc] at concat
      rw [spelled, ← spelling] at led
      have parts := Path.askable_of_parts.mp (Node.find_tidy tidy found).2
      have told := askable_below.mpr ⟨askable, fun part member => parts part (List.mem_append_left _ member),
        parts inner (List.mem_append_right _ (List.mem_singleton_self _)), asked⟩
      exact bind_ok.mpr ⟨(base, false), imported, file_bytes_ok told led⟩
  | @mapping files same =>
      have distinct : (files.map Prod.fst).Nodup :=
        (same.map Prod.fst).nodup_iff.mpr (Node.contents_distinct inside)
      have member := same.mem_iff.mpr ((Node.mem_contents inside).mpr there)
      rw [read, Entries.lookup_of_mem distinct member]

omit tidy shows in
theorem mem_shown {path : Text} :
    path ∈ Text.sorted ((Node.folder entries).contents.map Prod.fst) ↔
      ∃ content, (Node.folder entries).at? (Path.parts path) = some (.file content) := by
  rw [Text.mem_sorted, List.mem_map]
  constructor
  · rintro ⟨⟨path, content⟩, member, rfl⟩
    exact ⟨content, (Node.mem_contents inside).mp member⟩
  · rintro ⟨content, there⟩
    exact ⟨(path, content), (Node.mem_contents inside).mpr there, rfl⟩

end Shows

/-- A folder of pages, one of them in a folder of its own beside an empty folder. -/
def samplePages : List (Text × Node) :=
  [("b.html", .file [0x62]), ("a", .folder [("c.html", .file [0x63])]), ("none", .folder [])]

/-- A package with the pages in it. -/
def sampleDisk : Node :=
  .folder [("site", .folder [("__init__.py", .file []), ("pages", .folder samplePages)])]

theorem sample_pages_tidy : (Node.folder samplePages).Tidy :=
  .folder (by decide) (by decide) (List.forall_mem_cons.mpr ⟨.file _, List.forall_mem_cons.mpr
    ⟨.folder (by decide) (by decide) (List.forall_mem_singleton.mpr (.file _)),
      List.forall_mem_singleton.mpr (.folder (by decide) (by decide) nofun)⟩⟩)

theorem sample_disk_tidy : sampleDisk.Tidy :=
  .folder (by decide) (by decide) (List.forall_mem_singleton.mpr
    (.folder (by decide) (by decide) (List.forall_mem_cons.mpr
      ⟨.file _, List.forall_mem_singleton.mpr sample_pages_tidy⟩)))

theorem sample_pages_fit {place : Text} (short : Node.byteCount place ≤ 4000) :
    Fits place (.folder samplePages) := by
  have within : ∀ {place : Text} {names : Text}, Node.byteCount place ≤ 4000 →
      Node.byteCount names ≤ 90 → Node.byteCount (place ++ names) ≤ Node.longestPath := by
    intro place names short few
    rw [Node.byte_count_append, Node.longestPath]
    omega
  refine .folder (short.trans (by decide)) (List.forall_mem_cons.mpr ⟨.file ?_ _,
    List.forall_mem_cons.mpr ⟨.folder ?_ (List.forall_mem_singleton.mpr (.file ?_ _)),
      List.forall_mem_singleton.mpr (.folder ?_ nofun)⟩⟩)
  all_goals
    simp only [List.append_assoc]
    exact within short (by decide)

/-- A way to a folder, there and back many times, that is nearly as long as the host takes. -/
def longRoot : Text := (List.replicate 818 ("d/../" : Text)).flatten ++ "d"

/-- A folder with a page and another folder. -/
def longPages : List (Text × Node) :=
  [("a.html", .file [0x68, 0x69]), ("inner", .folder [("b.html", .file [0x68, 0x6F])])]

/-- The folder that the long way leads to, inside another. -/
def longDisk : Node := .folder [("d", .folder longPages)]

theorem long_follow (count : Nat) :
    Node.follow ((List.replicate count [("d" : Text), Path.above]).flatten ++ [("d" : Text)]) [longDisk] =
      .ok (.folder longPages) := by
  induction count with
  | zero => rfl
  | succ count ih => exact ih

theorem long_find : longDisk.find (Path.shown longRoot) = .ok (.folder longPages) := by
  have steps : Path.steps (Path.shown longRoot) =
      (List.replicate 818 [("d" : Text), Path.above]).flatten ++ [("d" : Text)] := by
    decide +kernel
  have short : ¬Node.longestPath < Node.byteCount (Path.shown longRoot) := by decide +kernel
  have relative : ¬Path.isAbsolute (Path.shown longRoot) = true := by decide +kernel
  rw [Node.find, if_neg short, if_neg relative, steps]
  exact long_follow 818

theorem long_disk_tidy : longDisk.Tidy :=
  .folder (by decide) (by decide) (List.forall_mem_singleton.mpr
    (.folder (by decide) (by decide) (List.forall_mem_cons.mpr ⟨.file _, List.forall_mem_singleton.mpr
      (.folder (by decide) (by decide) (List.forall_mem_singleton.mpr (.file _)))⟩)))

end PageTemplates.Source
