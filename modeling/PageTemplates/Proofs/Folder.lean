import Mathlib.Data.List.Flatten
import Mathlib.Data.List.Nodup
import PageTemplates.Folder.Walk
import PageTemplates.Proofs.Entries
import PageTemplates.Proofs.Source

/-!
Folders as trees of names. The files of a folder are told by the names that lead to them, and both ways of
listing a folder come to these files: the one that follows the tree, as far as the host takes the paths of
folders, and the walk with a pile. A path behind that of a folder leads to the file that its names lead to.
-/

namespace PageTemplates

namespace Node

/-- A name that a host gives to an entry of a folder. -/
structure IsName (name : Text) : Prop where
  full : name ≠ []
  plain : Path.slash ∉ name
  notHere : name ≠ Path.here
  notAbove : name ≠ Path.above
  askable : Path.IsAskable name
  short : byteCount name ≤ longestName

instance (name : Text) : Decidable (IsName name) :=
  decidable_of_iff (name ≠ [] ∧ Path.slash ∉ name ∧ name ≠ Path.here ∧ name ≠ Path.above ∧
      Path.IsAskable name ∧ byteCount name ≤ longestName)
    ⟨fun ⟨full, plain, notHere, notAbove, askable, short⟩ =>
      ⟨full, plain, notHere, notAbove, askable, short⟩,
    fun ⟨full, plain, notHere, notAbove, askable, short⟩ =>
      ⟨full, plain, notHere, notAbove, askable, short⟩⟩

/-- A node as a host keeps it: the entries of every folder have different names. -/
inductive Tidy : Node → Prop where
  | file (content : Bytes) : Tidy (.file content)
  | folder {entries : List (Text × Node)} (distinct : (entries.map Prod.fst).Nodup)
    (named : ∀ entry ∈ entries, IsName entry.1) (inner : ∀ entry ∈ entries, Tidy entry.2) :
    Tidy (.folder entries)

/-- The node that names lead to. -/
def at? : List Text → Node → Option Node
  | [], node => some node
  | name :: names, node => (node.child? name).bind (at? names)

mutual

/-- The files of a node, each with the names that lead to it. -/
def files : Node → List (List Text × Bytes)
  | .file content => [([], content)]
  | .folder entries => entryFiles entries

/-- The files of entries, each with the names that lead to it. -/
def entryFiles : List (Text × Node) → List (List Text × Bytes)
  | [] => []
  | (name, node) :: entries =>
    (files node).map (fun file => (name :: file.1, file.2)) ++ entryFiles entries

end

/-- The files of a node by path. -/
def contents (node : Node) : List (Text × Bytes) :=
  node.files.map fun file => (Path.ofParts file.1, file.2)

theorem entry_files_flat (entries : List (Text × Node)) :
    entryFiles entries = entries.flatMap fun entry =>
      entry.2.files.map fun file => (entry.1 :: file.1, file.2) := by
  induction entries with
  | nil => rfl
  | cons entry entries ih => rw [entryFiles, List.flatMap_cons, ih]

theorem mem_entry_files {entries : List (Text × Node)} {names : List Text} {content : Bytes} :
    (names, content) ∈ entryFiles entries ↔
      ∃ name rest node, names = name :: rest ∧ (name, node) ∈ entries ∧ (rest, content) ∈ node.files := by
  rw [entry_files_flat, List.mem_flatMap]
  constructor
  · rintro ⟨⟨name, node⟩, member, inside⟩
    obtain ⟨⟨rest, _⟩, below, same⟩ := List.mem_map.mp inside
    cases same
    exact ⟨name, rest, node, rfl, member, below⟩
  · rintro ⟨name, rest, node, rfl, member, below⟩
    exact ⟨(name, node), member, List.mem_map_of_mem below⟩

theorem mem_of_child {entries : List (Text × Node)} {name : Text} {node : Node}
    (found : (folder entries).child? name = some node) : (name, node) ∈ entries := by
  obtain ⟨before, behind, rfl, _⟩ := List.lookup_eq_some_iff.mp found
  exact List.mem_append_right before List.mem_cons_self

theorem child_iff {entries : List (Text × Node)} (distinct : (entries.map Prod.fst).Nodup)
    {name : Text} {node : Node} : (folder entries).child? name = some node ↔ (name, node) ∈ entries :=
  ⟨mem_of_child, Entries.lookup_of_mem distinct⟩

/-- The files of a node are those that names lead to. -/
theorem mem_files {node : Node} (tidy : node.Tidy) {names : List Text} {content : Bytes} :
    (names, content) ∈ node.files ↔ node.at? names = some (.file content) := by
  induction tidy generalizing names with
  | file other => 
      rw [files, List.mem_singleton]
      cases names with
      | nil => simp [at?, eq_comm]
      | cons name names => simp [at?, child?]
  | @folder entries distinct named inner ih =>
      rw [files, mem_entry_files]
      cases names with
      | nil => simp [at?]
      | cons name names =>
          rw [at?, Option.bind_eq_some_iff]
          constructor
          · rintro ⟨_, _, node, same, member, below⟩
            cases same
            exact ⟨node, (child_iff distinct).mpr member, (ih _ member).mp below⟩
          · rintro ⟨node, found, below⟩
            have member := mem_of_child found
            exact ⟨name, names, node, rfl, member, (ih _ member).mpr below⟩

theorem at_tidy {node inner : Node} (tidy : node.Tidy) {names : List Text}
    (found : node.at? names = some inner) : inner.Tidy ∧ ∀ name ∈ names, IsName name := by
  induction names generalizing node with
  | nil =>
      cases found
      exact ⟨tidy, fun name member => by cases member⟩
  | cons name names ih =>
      obtain ⟨entry, first, rest⟩ := Option.bind_eq_some_iff.mp found
      cases tidy with
      | file content => cases first
      | folder distinct named inner =>
          have member := mem_of_child first
          obtain ⟨last, others⟩ := ih (inner _ member) rest
          exact ⟨last, List.forall_mem_cons.mpr ⟨named _ member, others⟩⟩

theorem files_named {node : Node} (tidy : node.Tidy) {names : List Text} {content : Bytes}
    (member : (names, content) ∈ node.files) : ∀ name ∈ names, IsName name :=
  (at_tidy tidy ((mem_files tidy).mp member)).2

/-- Names that lead to a file lead to no other. -/
theorem files_distinct {node : Node} (tidy : node.Tidy) : (node.files.map Prod.fst).Nodup := by
  induction tidy with
  | file content => exact List.nodup_singleton _
  | @folder entries distinct named inner ih =>
      rw [files, entry_files_flat, List.map_flatMap]
      refine List.nodup_flatMap.mpr ⟨fun entry member => ?_, ?_⟩
      · have below := (ih entry member).map (List.cons_injective (a := entry.1))
        rwa [List.map_map] at below ⊢
      · refine (List.pairwise_map.mp distinct).imp fun {entry other} apart => ?_
        intro names first second
        simp only [List.map_map, List.mem_map, Function.comp_apply] at first second
        obtain ⟨_, _, rfl⟩ := first
        obtain ⟨_, _, same⟩ := second
        exact apart (List.cons.inj same).1.symm

theorem of_parts_append {front names : List Text} (before : front ≠ []) (behind : names ≠ []) :
    Path.ofParts (front ++ names) = Path.ofParts front ++ Path.slash :: Path.ofParts names := by
  induction front with
  | nil => exact absurd rfl before
  | cons name front ih =>
      rw [List.cons_append, Path.of_parts_cons name (by simp [behind])]
      by_cases alone : front = []
      · subst alone
        rfl
      · rw [ih alone, Path.of_parts_cons name alone, List.append_assoc, List.cons_append]

/-- The path of an entry is that of the names that lead to it. -/
theorem entry_path_names {front : List Text} (named : ∀ name ∈ front, IsName name) (name : Text) :
    entryPath (Path.ofParts front) name = Path.ofParts (front ++ [name]) := by
  rcases List.eq_nil_or_concat' front with rfl | ⟨before, last, rfl⟩
  · rfl
  · have final := named last (by simp)
    have closing : (Path.ofParts (before ++ [last])).getLast? ≠ some Path.slash := by
      have inside : (Path.ofParts (before ++ [last])).getLast? = last.getLast? := by
        by_cases alone : before = []
        · subst alone
          rfl
        · rw [Path.of_parts_concat alone, List.getLast?_append_cons]
          cases last with
          | nil => exact absurd rfl final.full
          | cons point rest => rw [List.getLast?_cons_cons]
      rw [inside]
      exact fun same => final.plain (List.mem_of_getLast? same)
    have full : (Path.ofParts (before ++ [last])).isEmpty = false := by
      rw [List.isEmpty_eq_false_iff]
      intro empty
      by_cases alone : before = []
      · subst alone
        exact final.full empty
      · rw [Path.of_parts_concat alone] at empty
        simp at empty
    have listed : before ++ [last] ≠ [] := List.append_ne_nil_of_right_ne_nil _ (List.cons_ne_nil _ _)
    rw [entryPath, full, Bool.false_or, if_neg (by simpa using closing),
      Path.of_parts_concat listed, List.append_assoc]
    rfl

theorem entry_paths_flat (place leading : Text) (entries : List (Text × Node)) :
    entryPaths place leading entries = entries.flatMap fun entry =>
      filePaths (entryPath place entry.1) (entryPath leading entry.1) entry.2 := by
  induction entries with
  | nil => rfl
  | cons entry entries ih => rw [entryPaths, List.flatMap_cons, ih]

/-- Following the tree comes to files only, and to each of them at most once. -/
theorem file_paths_sublist {node : Node} (tidy : node.Tidy) (place : Text) (front : List Text)
    (named : ∀ name ∈ front, IsName name) :
    (filePaths place (Path.ofParts front) node).Sublist
      (node.files.map fun file => Path.ofParts (front ++ file.1)) := by
  induction tidy generalizing place front with
  | file content => simp [filePaths, files]
  | @folder entries distinct names inner ih =>
      rw [filePaths]
      split
      · exact List.nil_sublist _
      · rw [files, entry_files_flat, entry_paths_flat, List.map_flatMap]
        refine List.Sublist.flatMap_right entries fun entry member => ?_
        have longer : ∀ name ∈ front ++ [entry.1], IsName name :=
          List.forall_mem_append.mpr ⟨named, List.forall_mem_singleton.mpr (names entry member)⟩
        have below := ih entry member (entryPath place entry.1) _ longer
        rw [entry_path_names named]
        simpa [Function.comp_def] using below

/-- A node at a place, if the host takes its path and the paths of all nodes below it. -/
inductive Fits : Text → Node → Prop where
  | file {place : Text} (short : byteCount place ≤ longestPath) (content : Bytes) :
    Fits place (.file content)
  | folder {place : Text} {entries : List (Text × Node)} (short : byteCount place ≤ longestPath)
    (inner : ∀ entry ∈ entries, Fits (place ++ [Path.slash] ++ entry.1) entry.2) :
    Fits place (.folder entries)

theorem Fits.place_short {place : Text} {node : Node} (fits : Fits place node) :
    byteCount place ≤ longestPath := by
  cases fits with
  | file short | folder short => exact short

theorem byte_count_append (first second : Text) :
    byteCount (first ++ second) = byteCount first + byteCount second := by
  simp [byteCount]

theorem entry_path_shorter {place spelled : Text} (shorter : byteCount place ≤ byteCount spelled)
    (name : Text) :
    byteCount (entryPath place name) ≤ byteCount (spelled ++ [Path.slash] ++ name) := by
  rw [entryPath]
  split
  all_goals simp only [byte_count_append]; omega

/-- Following the tree of a folder that fits comes to all its files, in order. -/
theorem file_paths_fitting {node : Node} (tidy : node.Tidy) {spelled place : Text}
    (fits : Fits spelled node) (shorter : byteCount place ≤ byteCount spelled) (front : List Text)
    (named : ∀ name ∈ front, IsName name) :
    filePaths place (Path.ofParts front) node =
      node.files.map fun file => Path.ofParts (front ++ file.1) := by
  induction tidy generalizing spelled place front with
  | file content => simp [filePaths, files]
  | @folder entries distinct names inner ih =>
      cases fits with
      | folder short fitting =>
          rw [filePaths, if_neg (by omega), files, entry_files_flat, entry_paths_flat, List.map_flatMap]
          refine List.flatMap_congr fun entry member => ?_
          have longer : ∀ name ∈ front ++ [entry.1], IsName name :=
            List.forall_mem_append.mpr ⟨named, List.forall_mem_singleton.mpr (names entry member)⟩
          rw [entry_path_names named,
            ih entry member (fitting entry member) (entry_path_shorter shorter entry.1) _
              longer]
          simp [Function.comp_def]

end Node

namespace Walk

/-- The files that a walk has found and those that it is going to find. -/
def promised (walk : Walk) : List Text :=
  walk.found ++ walk.pending.flatMap fun top =>
    (Node.entryFiles top.1).map fun file => top.2 ++ Path.ofParts file.1

theorem promised_note (leading : Text) (walk : Walk) (entry : Text × Node) :
    (note leading walk entry).promised.Perm
      ((entry.2.files.map fun file => leading ++ Path.ofParts (entry.1 :: file.1)) ++
        walk.promised) := by
  obtain ⟨name, node⟩ := entry
  cases node with
  | file content =>
      simp only [note, promised, Node.files, List.map_singleton, List.append_assoc]
      exact List.perm_append_comm_assoc _ _ _
  | folder entries =>
      have below : (Node.entryFiles entries).map (fun file =>
            leading ++ name ++ [Path.slash] ++ Path.ofParts file.1) =
          (Node.entryFiles entries).map fun file => leading ++ Path.ofParts (name :: file.1) := by
        refine List.map_congr_left fun file member => ?_
        obtain ⟨names, content⟩ := file
        obtain ⟨_, _, _, same, _⟩ := Node.mem_entry_files.mp member
        rw [Path.of_parts_cons name (by simp [same])]
        simp
      simp only [note, promised, Node.files, List.flatMap_cons, below]
      exact List.perm_append_comm_assoc _ _ _

theorem promised_noting (leading : Text) (entries : List (Text × Node)) (walk : Walk) :
    (entries.foldl (note leading) walk).promised.Perm
      (((Node.entryFiles entries).map fun file => leading ++ Path.ofParts file.1) ++
        walk.promised) := by
  induction entries generalizing walk with
  | nil => exact .refl _
  | cons entry entries ih =>
      rw [List.foldl_cons, Node.entryFiles, List.map_append, List.map_map, List.append_assoc]
      exact (ih _).trans (((promised_note leading walk entry).append_left _).trans
        (List.perm_append_comm_assoc _ _ _))

/-- A step of a walk neither loses a file nor comes to one anew. -/
theorem promised_next (walk : Walk) : walk.next.promised.Perm walk.promised := by
  obtain ⟨pending, found⟩ := walk
  cases pending with
  | nil => exact .refl _
  | cons top pending =>
      obtain ⟨entries, leading⟩ := top
      refine (promised_noting leading entries _).trans ?_
      simp only [promised, List.flatMap_cons]
      exact List.perm_append_comm_assoc _ _ _

theorem run_promised (walk : Walk) : walk.run.Perm walk.promised := by
  fun_induction run walk with
  | case1 found => simp [promised]
  | case2 top pending found ih => exact ih.trans (promised_next _)

/-- The pile of a walk is empty after as many steps as there are folders ahead. -/
theorem run_steps (walk : Walk) : next^[walk.ahead] walk = ⟨[], walk.run⟩ := by
  fun_induction run walk with
  | case1 found => rfl
  | case2 top pending found ih =>
      have more : ahead ⟨top :: pending, found⟩ = (next ⟨top :: pending, found⟩).ahead + 1 := by
        rw [ahead_next]
        simp only [ahead, pileCount]
        omega
      rw [more, Function.iterate_succ_apply, ih]

/-- The walk through a folder comes to all its files. -/
theorem run_files (entries : List (Text × Node)) :
    (start (.folder entries)).run.Perm
      ((Node.folder entries).files.map fun file => Path.ofParts file.1) := by
  simpa [promised, start, Node.entries, Node.files] using run_promised (start (.folder entries))

end Walk

namespace Node

theorem follow_folder (step : Text) (steps : List Text) (entries : List (Text × Node))
    (outer : List Node) :
    follow (step :: steps) (.folder entries :: outer) =
      if step = Path.above then follow steps outer
      else if longestName < byteCount step then .error .nameTooLong
      else match (folder entries).child? step with
        | some entry => follow steps (entry :: .folder entries :: outer)
        | none => .error .missing := rfl

theorem follow_names {node : Node} {names : List Text} {inner : Node}
    (named : ∀ name ∈ names, IsName name) (found : node.at? names = some inner) (outer : List Node) :
    follow names (node :: outer) = .ok inner := by
  induction names generalizing node outer with
  | nil =>
      cases found
      rfl
  | cons name names ih =>
      obtain ⟨entry, first, rest⟩ := Option.bind_eq_some_iff.mp found
      have ⟨proper, others⟩ := List.forall_mem_cons.mp named
      cases node with
      | file content => cases first
      | folder entries =>
          rw [follow_folder, if_neg proper.notAbove, if_neg (Nat.not_lt.mpr proper.short), first]
          exact ih others rest _

/-- What lies behind steps that lead to a node is followed from there. -/
theorem follow_append {steps names : List Text} {chain : List Node} {node : Node} {content : Bytes}
    (led : follow steps chain = .ok node) (named : ∀ name ∈ names, IsName name)
    (found : node.at? names = some (.file content)) :
    follow (steps ++ names) chain = .ok (.file content) := by
  induction steps generalizing chain with
  | nil =>
      cases chain with
      | nil =>
          cases led
          cases names with
          | nil => cases found
          | cons name names => cases found
      | cons top outer =>
          cases led
          exact follow_names named found outer
  | cons step steps ih =>
      cases chain with
      | nil =>
          rw [follow] at led
          rw [List.cons_append, follow]
          split at led
          · rename_i above
            rw [if_pos above]
            exact ih led
          · cases led
      | cons top outer =>
          cases top with
          | file content => cases led
          | folder entries =>
              rw [follow_folder] at led
              rw [List.cons_append, follow_folder]
              split at led
              · rename_i above
                rw [if_pos above]
                exact ih led
              · rename_i inside
                rw [if_neg inside]
                split at led
                · cases led
                · rename_i short
                  rw [if_neg short]
                  split at led
                  · exact ih led
                  · cases led

/-- What steps lead to in a tidy tree is tidy, and a host can be asked for the steps. -/
theorem follow_tidy {steps : List Text} {chain : List Node} {node : Node}
    (tidy : ∀ node ∈ chain, node.Tidy) (led : follow steps chain = .ok node) :
    node.Tidy ∧ ∀ step ∈ steps, Path.IsAskable step := by
  have dots : Path.IsAskable Path.above := by
    intro point member
    rw [show Path.above = [.scalar '.', .scalar '.'] from rfl] at member
    simp only [List.mem_cons, List.not_mem_nil, or_false, or_self] at member
    subst member
    decide
  induction steps generalizing chain with
  | nil =>
      refine ⟨?_, fun step member => by cases member⟩
      cases chain with
      | nil =>
          cases led
          exact .folder List.nodup_nil nofun nofun
      | cons top outer =>
          cases led
          exact tidy _ List.mem_cons_self
  | cons step steps ih =>
      cases chain with
      | nil =>
          rw [follow] at led
          split at led
          · rename_i above
            obtain ⟨last, others⟩ := ih tidy led
            exact ⟨last, List.forall_mem_cons.mpr ⟨above ▸ dots, others⟩⟩
          · cases led
      | cons top outer =>
          cases top with
          | file content => cases led
          | folder entries =>
              rw [follow_folder] at led
              split at led
              · rename_i above
                obtain ⟨last, others⟩ := ih (fun node member => tidy node (List.mem_cons_of_mem _ member)) led
                exact ⟨last, List.forall_mem_cons.mpr ⟨above ▸ dots, others⟩⟩
              · split at led
                · cases led
                · split at led
                  · rename_i entry first
                    cases tidy _ List.mem_cons_self with
                    | folder distinct named inner =>
                        have member := mem_of_child first
                        obtain ⟨last, others⟩ := ih
                          (List.forall_mem_cons.mpr ⟨inner _ member, tidy⟩) led
                        exact ⟨last, List.forall_mem_cons.mpr ⟨(named _ member).askable, others⟩⟩
                  · cases led

/-- A path leads to what its steps lead to, or it is the root of all folders. -/
theorem find_ok {root node : Node} {path : Text} (found : root.find path = .ok node) :
    byteCount path ≤ longestPath ∧
      (Path.isAbsolute path = true ∧ node = empty ∧ Path.steps path = [] ∨
        Path.isAbsolute path = false ∧ follow (Path.steps path) [root] = .ok node) := by
  rw [find] at found
  split at found
  · cases found
  · rename_i short
    refine ⟨Nat.not_lt.mp short, ?_⟩
    split at found
    · rename_i absolute
      split at found
      · rename_i bare
        cases found
        exact .inl ⟨absolute, rfl, List.isEmpty_iff.mp bare⟩
      · cases found
    · rename_i relative
      exact .inr ⟨by simpa using relative, found⟩

theorem steps_around (front rest : Text) :
    Path.steps (front ++ Path.slash :: rest) = Path.steps front ++ Path.steps rest := by
  rw [Path.steps, Path.parts_around, List.filter_append, Path.steps, Path.steps]

/-- A part of a path that counts as a step. -/
structure IsStep (step : Text) : Prop where
  full : step ≠ []
  notHere : step ≠ Path.here
  plain : Path.slash ∉ step

theorem IsName.step {name : Text} (named : IsName name) : IsStep name :=
  ⟨named.full, named.notHere, named.plain⟩

theorem steps_proper {path step : Text} (member : step ∈ Path.steps path) : IsStep step := by
  obtain ⟨inside, counts⟩ := List.mem_filter.mp member
  simp only [Bool.and_eq_true, Bool.not_eq_true', List.isEmpty_eq_false_iff, bne_iff_ne] at counts
  exact ⟨counts.1, counts.2, Path.slash_in_no_part inside⟩

theorem steps_of_parts {steps : List Text} (proper : ∀ step ∈ steps, IsStep step) :
    Path.steps (Path.ofParts steps) = steps := by
  by_cases listed : steps = []
  · subst listed
    rfl
  · rw [Path.steps, Path.parts_of_parts listed fun step member => (proper step member).plain,
      List.filter_eq_self]
    intro step member
    simpa using ⟨(proper step member).full, (proper step member).notHere⟩

theorem steps_relative {steps : List Text} (proper : ∀ step ∈ steps, IsStep step) :
    Path.isAbsolute (Path.ofParts steps) = false := by
  cases steps with
  | nil => rfl
  | cons step steps =>
      have first := proper step List.mem_cons_self
      cases step with
      | nil => exact absurd rfl first.full
      | cons point rest =>
          have other : point ≠ Path.slash := fun same => first.plain (same ▸ List.mem_cons_self)
          cases steps <;> simpa [Path.ofParts, Text.join, Path.isAbsolute] using other

theorem root_mark_relative {path : Text} (relative : Path.isAbsolute path = false) :
    Path.rootMark path = [] := by
  simp [Path.rootMark, relative]

theorem root_mark_absolute {path : Text} (absolute : Path.isAbsolute path = true) :
    ∃ more, Path.rootMark path = Path.slash :: more := by
  simp only [Path.rootMark, absolute, Bool.not_true, Bool.false_eq_true, if_false]
  split
  · exact ⟨[], rfl⟩
  · split
    · exact ⟨[Path.slash], rfl⟩
    · exact ⟨[], rfl⟩
  · cases absolute

theorem shown_relative {path : Text} (relative : Path.isAbsolute (Path.shown path) = false) :
    Path.isAbsolute path = false := by
  by_contra absolute
  obtain ⟨more, mark⟩ := root_mark_absolute (by simpa using absolute)
  rw [Path.shown, mark] at relative
  cases relative

/-- A path that stands behind a step is shown as its steps. -/
theorem shown_of_steps {path : Text} (relative : Path.isAbsolute path = false)
    (listed : Path.steps path ≠ []) : Path.shown path = Path.ofParts (Path.steps path) := by
  have full : (Path.ofParts (Path.steps path)).isEmpty = false := by
    rw [List.isEmpty_eq_false_iff]
    intro empty
    have again := steps_of_parts (fun step (member : step ∈ Path.steps path) => steps_proper member)
    rw [empty] at again
    exact listed again.symm
  rw [Path.shown, root_mark_relative relative, List.nil_append, full]
  rfl

theorem find_tidy {root node : Node} (tidy : root.Tidy) {path : Text}
    (found : root.find path = .ok node) : node.Tidy ∧ Path.IsAskable path := by
  have bySteps : ∀ asked : ∀ step ∈ Path.steps path, Path.IsAskable step, Path.IsAskable path := by
    intro asked
    rw [← Path.askable_of_parts] at asked
    refine (Path.askable_congr fun point cut dot => ?_).mp asked
    rw [Path.ofParts, Text.mem_join (by simpa using cut), Path.mem_steps cut dot]
  obtain ⟨_, ⟨_, rfl, nothing⟩ | ⟨_, led⟩⟩ := find_ok found
  · have bare : (Node.folder []).Tidy :=
      .folder List.nodup_nil (List.forall_mem_nil _) (List.forall_mem_nil _)
    exact ⟨bare, bySteps (by rw [nothing]; exact List.forall_mem_nil _)⟩
  · obtain ⟨last, asked⟩ := follow_tidy (List.forall_mem_singleton.mpr tidy) led
    exact ⟨last, bySteps asked⟩

/-- The path of a file behind that of its folder leads to the file. -/
theorem find_below {root node : Node} {path : Text} {names : List Text} {content : Bytes}
    (found : root.find path = .ok node) (spelled : path ≠ [])
    (named : ∀ name ∈ names, IsName name) (inside : node.at? names = some (.file content))
    (short : byteCount (path ++ Path.slash :: Path.ofParts names) ≤ longestPath) :
    root.find (path ++ Path.slash :: Path.ofParts names) = .ok (.file content) := by
  have start : Path.isAbsolute (path ++ Path.slash :: Path.ofParts names) = Path.isAbsolute path := by
    cases path with
    | nil => exact absurd rfl spelled
    | cons point rest => rfl
  rw [find, if_neg (Nat.not_lt.mpr short), start]
  obtain ⟨_, ⟨_, bare, _⟩ | ⟨relative, led⟩⟩ := find_ok found
  · subst bare
    cases names with
    | nil => cases inside
    | cons name names => cases inside
  · rw [relative, if_neg Bool.false_ne_true, steps_around, steps_of_parts fun name member => (named name member).step]
    exact follow_append led named inside

section Contents

variable {entries : List (Text × Node)}

theorem files_listed {names : List Text} {content : Bytes}
    (member : (names, content) ∈ (folder entries).files) : names ≠ [] := by
  obtain ⟨_, _, _, rfl, _⟩ := mem_entry_files.mp member
  exact List.cons_ne_nil _ _

variable (tidy : (folder entries).Tidy)

include tidy

theorem parts_of_file {names : List Text} {content : Bytes}
    (member : (names, content) ∈ (folder entries).files) : Path.parts (Path.ofParts names) = names :=
  Path.parts_of_parts (files_listed member) fun name inside => (files_named tidy member name inside).plain

/-- The files of a folder by path are those that the parts of the path lead to. -/
theorem mem_contents {path : Text} {content : Bytes} :
    (path, content) ∈ (folder entries).contents ↔
      (folder entries).at? (Path.parts path) = some (.file content) := by
  rw [← mem_files tidy, contents, List.mem_map]
  constructor
  · rintro ⟨⟨names, _⟩, member, same⟩
    cases same
    rwa [parts_of_file tidy member]
  · intro member
    exact ⟨(Path.parts path, content), member, by rw [Path.of_parts_parts]⟩

theorem contents_distinct : ((folder entries).contents.map Prod.fst).Nodup := by
  refine List.Nodup.of_map Path.parts ?_
  have back : ((folder entries).contents.map Prod.fst).map Path.parts =
      (folder entries).files.map Prod.fst := by
    rw [contents, List.map_map, List.map_map]
    exact List.map_congr_left fun file member => parts_of_file tidy member
  rw [back]
  exact files_distinct tidy

/-- A listing of a folder that the host takes has some of its files, each once. -/
theorem listing_sublist {place : Text} (short : byteCount place ≤ longestPath) :
    (entryPaths place [] entries).Sublist ((folder entries).contents.map Prod.fst) := by
  have within := file_paths_sublist tidy place [] nofun
  rw [show Path.ofParts [] = [] from rfl, filePaths, if_neg (Nat.not_lt.mpr short)] at within
  rwa [contents, List.map_map]

theorem listing_fitting {place : Text} (fits : Fits place (.folder entries)) :
    listing place (.folder entries) = Text.sorted ((folder entries).contents.map Prod.fst) := by
  have short := fits.place_short
  have all := file_paths_fitting tidy fits (Nat.le_refl _) [] nofun
  rw [show Path.ofParts [] = [] from rfl, filePaths, if_neg (Nat.not_lt.mpr short)] at all
  rw [listing, Node.entries, all, contents, List.map_map]
  rfl

omit tidy

theorem walk_listing : Walk.listing (.folder entries) =
    Text.sorted ((folder entries).contents.map Prod.fst) := by
  refine Text.sorted_congr ((Walk.run_files entries).trans ?_)
  rw [contents, List.map_map]
  exact .refl _

end Contents

theorem Fits.path_short {place : Text} {node inner : Node} (fits : Fits place node) {names : List Text}
    (listed : names ≠ []) (found : node.at? names = some inner) :
    byteCount (place ++ Path.slash :: Path.ofParts names) ≤ longestPath := by
  induction names generalizing place node with
  | nil => exact absurd rfl listed
  | cons name names ih =>
      obtain ⟨entry, first, rest⟩ := Option.bind_eq_some_iff.mp found
      cases fits with
      | file short content => cases first
      | folder short fitting =>
          have fits := fitting _ (mem_of_child first)
          by_cases last : names = []
          · subst last
            simpa [Path.ofParts, Text.join] using fits.place_short
          · rw [Path.of_parts_cons name last]
            simpa using ih fits last rest

theorem shown_full (path : Text) : Path.shown path ≠ [] := by
  rw [Path.shown]
  split
  · exact List.cons_ne_nil _ _
  · rename_i full
    simpa using full

/-- What is shown of a path is its steps, unless it has none. -/
theorem steps_of_shown {path : Text} (relative : Path.isAbsolute (Path.shown path) = false)
    (listed : Path.steps (Path.shown path) ≠ []) :
    Path.ofParts (Path.steps (Path.shown path)) = Path.shown path := by
  have start := shown_relative relative
  by_cases bare : Path.steps path = []
  · rw [Path.shown, root_mark_relative start, bare] at listed
    exact absurd rfl listed
  · rw [shown_of_steps start bare, steps_of_parts fun step member => steps_proper member]

/-- A path inside a folder leads to the file that its names lead to. -/
theorem find_joined {root : Node} {folder : Text} {node : Node} {names : List Text} {content : Bytes}
    (found : root.find (Path.shown folder) = .ok node) (listed : names ≠ [])
    (named : ∀ name ∈ names, IsName name) (inside : node.at? names = some (.file content))
    (short : byteCount (Path.shown folder ++ Path.slash :: Path.ofParts names) ≤ longestPath) :
    root.find (Path.joined (Path.shown folder) (Path.ofParts names)) = .ok (.file content) := by
  have proper : ∀ name ∈ names, IsStep name := fun name member => (named name member).step
  obtain ⟨_, ⟨_, rfl, _⟩ | ⟨relative, led⟩⟩ := find_ok found
  · obtain ⟨name, rest, rfl⟩ := List.exists_cons_of_ne_nil listed
    cases inside
  · have all : ∀ step ∈ Path.steps (Path.shown folder) ++ names, IsStep step :=
      List.forall_mem_append.mpr ⟨fun step member => steps_proper member, proper⟩
    have spelled : Path.isAbsolute (Path.shown folder ++ [Path.slash] ++ Path.ofParts names) = false := by
      obtain ⟨point, rest, shape⟩ := List.exists_cons_of_ne_nil (shown_full folder)
      rw [shape] at relative ⊢
      exact relative
    have steps : Path.steps (Path.shown folder ++ [Path.slash] ++ Path.ofParts names) =
        Path.steps (Path.shown folder) ++ names := by
      rw [List.append_assoc, List.singleton_append, steps_around, steps_of_parts proper]
    have same : Path.joined (Path.shown folder) (Path.ofParts names) =
        Path.ofParts (Path.steps (Path.shown folder) ++ names) := by
      have more : Path.steps (Path.shown folder ++ [Path.slash] ++ Path.ofParts names) ≠ [] := by
        rw [steps]
        exact List.append_ne_nil_of_right_ne_nil _ listed
      rw [Path.joined, steps_relative proper, if_neg Bool.false_ne_true, shown_of_steps spelled more, steps]
    have fits : byteCount (Path.ofParts (Path.steps (Path.shown folder) ++ names)) ≤ longestPath := by
      by_cases bare : Path.steps (Path.shown folder) = []
      · have split := byte_count_append (Path.shown folder ++ [Path.slash]) (Path.ofParts names)
        rw [List.append_assoc, List.singleton_append] at split
        rw [bare, List.nil_append]
        omega
      · rwa [of_parts_append bare listed, steps_of_shown relative bare]
    rw [same, find, if_neg (Nat.not_lt.mpr fits), steps_relative all, if_neg Bool.false_ne_true,
      steps_of_parts all]
    exact follow_append led named inside

end Node

end PageTemplates
