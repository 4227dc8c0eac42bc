import PageTemplates.Proofs.Configuration.Sound
import PageTemplates.Proofs.Results
import PageTemplates.Yaml.Document

/-!
The documents of YAML texts are sound as layers, whatever their nodes share: the tree of a document refers
to the cells of its nodes only, and the keys of a mapping are scalars that differ from one another.
-/

namespace PageTemplates.Yaml

open PageTemplates.Configuration (Tree Entries Cells Fit AllFit)

/-- Whatever is read is good. -/
def Gives {Result : Type} (good : Result → Prop) (reading : Reading Result) : Prop :=
  ∀ result, reading = .ok result → good result

section

variable {First Second : Type} {good : Second → Prop}

theorem gives_ok {result : Second} (holds : good result) : Gives good (.ok result) := by
  rintro other same
  cases same
  exact holds

theorem gives_error (fault : Fault) : Gives good (.error fault) := nofun

theorem gives_bind {reading : Reading First} {next : First → Reading Second}
    (each : ∀ first, Gives good (next first)) : Gives good (reading >>= next) := by
  intro result ran
  obtain ⟨first, _, rest⟩ := Results.bind_ok.mp ran
  exact each first result rest

theorem gives_ite {condition : Prop} [Decidable condition] {one other : Reading Second}
    (first : Gives good one) (second : Gives good other) :
    Gives good (if condition then one else other) := by
  split
  · exact first
  · exact second

end

namespace Scalar

theorem int_keys (text : Text) : Gives Data.IsKey (int text) :=
  gives_bind fun _ => gives_bind fun _ => gives_ok rfl

theorem float_keys (text : Text) : Gives Data.IsKey (float text) := by
  refine gives_bind fun _ => gives_ite (gives_ok rfl) (gives_ite ?_ (gives_ite ?_ ?_))
  · exact gives_bind fun _ => gives_ok rfl
  · exact gives_bind fun _ => gives_bind fun _ => gives_ok rfl
  · exact gives_bind fun _ => gives_ok rfl

theorem bool_keys (text : Text) : Gives Data.IsKey (bool text) :=
  gives_ite (gives_ok rfl) (gives_ite (gives_ok rfl) (gives_error _))

theorem binary_keys (text : Text) : Gives Data.IsKey (binary text) :=
  gives_ite (gives_bind fun _ => gives_ok rfl) (gives_error _)

theorem timestamp_keys (text : Text) : Gives Data.IsKey (timestamp text) := by
  unfold timestamp
  split
  · exact gives_error _
  · split
    · exact gives_bind fun _ => gives_ok rfl
    · dsimp only
      split
      · exact gives_bind fun _ => gives_bind fun _ => gives_bind fun _ => gives_ite (gives_error _)
          (gives_ite (gives_error _) (gives_ite (gives_error _) (gives_ok rfl)))
      · exact gives_bind fun _ => gives_bind fun _ => gives_ite (gives_error _)
          (gives_ite (gives_error _) (gives_ite (gives_error _) (gives_ok rfl)))

/-- The scalars of a document are fit as keys. -/
theorem data_keys {tag : String} {text : Text} {reading : Reading Data}
    (found : data? tag text = some reading) : Gives Data.IsKey reading := by
  unfold data? at found
  split at found
  · rw [← Option.some.inj found]
    exact gives_ok rfl
  · rw [← Option.some.inj found]
    exact bool_keys text
  · rw [← Option.some.inj found]
    exact int_keys text
  · rw [← Option.some.inj found]
    exact float_keys text
  · rw [← Option.some.inj found]
    exact binary_keys text
  · rw [← Option.some.inj found]
    exact timestamp_keys text
  · rw [← Option.some.inj found]
    exact gives_ok rfl
  · cases found

end Scalar

/-- Growing keeps the entries that are there sound, and gives a good result. -/
def Keeps {Result : Type} (size : Nat) (growth : Growth Result) (good : Result → Prop) : Prop :=
  ∀ cells result after, AllFit size (cells.map fun entries => entries.getD []) →
    growth.run cells = .ok (result, after) →
    AllFit size (after.map fun entries => entries.getD []) ∧ after.size = cells.size ∧ good result

section

variable {First Second : Type} {size : Nat} {good : First → Prop} {fine : Second → Prop}

theorem keeps_pure {result : First} (holds : good result) : Keeps size (pure result) good := by
  rintro cells result after all ran
  cases ran
  exact ⟨all, rfl, holds⟩

theorem keeps_throw (fault : Fault) : Keeps size (throw fault : Growth First) good := by
  intro cells result after _ ran
  cases ran

theorem keeps_lift {reading : Reading First} (holds : ∀ result, reading = .ok result → good result) :
    Keeps size (liftM reading) good := by
  intro cells result after all ran
  cases reading with
  | error fault => cases ran
  | ok first =>
      cases ran
      exact ⟨all, rfl, holds _ rfl⟩

theorem keeps_reading {reading : Reading First} : Keeps size (liftM reading) fun _ => True :=
  keeps_lift fun _ _ => trivial

theorem keeps_get : Keeps size get fun _ => True := by
  rintro cells result after all ran
  cases ran
  exact ⟨all, rfl, trivial⟩

/-- A cell is given sound entries. -/
theorem keeps_fill (number : Nat) {entries : Entries} (fit : Fit size entries) :
    Keeps size (modify fun cells => cells.setIfInBounds number (some entries)) fun _ => True := by
  rintro cells result after all ran
  cases ran
  refine ⟨?_, Array.size_setIfInBounds, trivial⟩
  rw [Array.map_setIfInBounds]
  exact Configuration.allFit_set all fit number

theorem keeps_bind {growth : Growth First} {next : First → Growth Second}
    (first : Keeps size growth good) (second : ∀ result, good result → Keeps size (next result) fine) :
    Keeps size (growth >>= next) fine := by
  intro cells result after all ran
  obtain ⟨⟨value, between⟩, one, other⟩ := Results.bind_ok.mp ran
  obtain ⟨all, same, holds⟩ := first cells value between all one
  obtain ⟨all, also, fine⟩ := second value holds between result after all other
  exact ⟨all, also.trans same, fine⟩

theorem keeps_mapM {Item : Type} {growth : Item → Growth First} {items : List Item}
    (each : ∀ item ∈ items, Keeps size (growth item) good) :
    Keeps size (items.mapM growth) fun results => ∀ result ∈ results, good result := by
  induction items with
  | nil => exact keeps_pure nofun
  | cons item items ih =>
      obtain ⟨head, rest⟩ := List.forall_mem_cons.mp each
      rw [List.mapM_cons]
      refine keeps_bind head fun result holds => keeps_bind (ih rest) fun others fine => ?_
      exact keeps_pure (List.forall_mem_cons.mpr ⟨holds, fine⟩)

theorem keeps_foldlM {Item : Type} {growth : First → Item → Growth First} {items : List Item}
    (each : ∀ so item, good so → Keeps size (growth so item) good) (so : First) (holds : good so) :
    Keeps size (items.foldlM growth so) good := by
  induction items generalizing so with
  | nil => exact keeps_pure holds
  | cons item items ih =>
      rw [List.foldlM_cons]
      exact keeps_bind (each so item holds) fun result holds => ih result holds

theorem keeps_mono {growth : Growth First} {better : First → Prop}
    (keeps : Keeps size growth better) (weaker : ∀ result, better result → good result) :
    Keeps size growth good := by
  intro cells result after all ran
  obtain ⟨all, same, holds⟩ := keeps cells result after all ran
  exact ⟨all, same, weaker result holds⟩

/-- What a node becomes: a tree that refers to the cells of nodes, and if it is data, then none with
mappings in it. -/
def Grows (size : Nat) (tree : Tree) : Prop :=
  tree.Fits size ∧ ∀ data, tree = .leaf data → data.Proper

theorem grows_leaf {data : Data} (proper : data.Proper) : Grows size (.leaf data) := by
  refine ⟨Configuration.fits_leaf data, fun other same => ?_⟩
  cases same
  exact proper

theorem grows_list {items : List Tree} (fits : ∀ item ∈ items, item.Fits size) :
    Grows size (.list items) :=
  ⟨Configuration.fits_list fits, nofun⟩

end

namespace Graph

variable (graph : Graph)

theorem keyOf_keys (number : Nat) : Gives Data.IsKey (graph.keyOf number) := by
  refine gives_bind fun text => gives_ite (gives_ok rfl) ?_
  split
  · rename_i known
    obtain ⟨name, _, scalar⟩ := Option.bind_eq_some_iff.mp known
    exact Scalar.data_keys scalar
  · exact gives_error _

/-- A node with a tag of the standard is one that the graph has. -/
theorem present_of_tag {number : Nat} {name : String}
    (tagged : Tag.name? (graph.node number).tag = some name) : number < graph.nodes.size := by
  by_contra outside
  have nothing : graph.node number = default := by
    rw [node, Array.getD_eq_getD_getElem?, Array.getElem?_eq_none (by omega)]
    rfl
  rw [nothing] at tagged
  cases tagged

theorem growth_keeps (bound : Nat) :
    (∀ around number, Keeps graph.nodes.size (graph.treeOf bound around number)
        (Grows graph.nodes.size)) ∧
      (∀ around number, Keeps graph.nodes.size (graph.entriesTree bound around number)
        (Fit graph.nodes.size)) ∧
      (∀ around items, Keeps graph.nodes.size (graph.itemTrees bound around items)
        fun trees => ∀ tree ∈ trees, tree.Fits graph.nodes.size) ∧
      ∀ around number, Keeps graph.nodes.size (graph.pairTrees bound around number)
        fun trees => ∀ tree ∈ trees, tree.Fits graph.nodes.size := by
  induction bound with
  | zero =>
      refine ⟨fun around number => ?_, fun around number => ?_, fun around items => ?_,
        fun around number => ?_⟩ <;> exact keeps_throw _
  | succ bound ih =>
      obtain ⟨trees, entries, items, pairs⟩ := ih
      refine ⟨fun around number => ?_, fun around number => ?_, fun around items => ?_,
        fun around number => ?_⟩
      · rw [treeOf]
        dsimp only
        split
        · exact keeps_bind (keeps_throw _) fun _ never => False.elim never
        split
        · exact keeps_throw _
        · -- The cell of a mapping is filled when the mapping is met first, and is there ever after.
          have here : Grows graph.nodes.size (.mapping number) :=
            ⟨Configuration.fits_mapping (graph.present_of_tag ‹_›), nofun⟩
          refine keeps_bind keeps_get fun cells _ => ?_
          split
          · refine keeps_bind (keeps_fill number Configuration.fit_nil) fun _ _ => ?_
            refine keeps_bind (entries _ _) fun found fit => ?_
            refine keeps_bind (keeps_fill number fit) fun _ _ => keeps_pure here
          · exact keeps_pure here
        · exact keeps_bind (entries _ _) fun found _ => keeps_pure (grows_leaf (.other fun _ => ⟨nofun, nofun⟩))
        · split
          · exact keeps_bind (items _ _) fun found fits => keeps_pure (grows_list fits)
          · exact keeps_throw _
        · exact keeps_bind (pairs _ _) fun found fits => keeps_pure (grows_list fits)
        · exact keeps_bind (pairs _ _) fun found fits => keeps_pure (grows_list fits)
        · refine keeps_bind keeps_reading fun text _ => ?_
          split
          · refine keeps_bind (keeps_lift (Scalar.data_keys ‹_›)) fun data key => ?_
            exact keeps_pure (grows_leaf (Data.proper_of_key key))
          · exact keeps_throw _
      · rw [entriesTree]
        refine keeps_bind keeps_reading fun found _ => ?_
        refine keeps_foldlM (fun so item fit => ?_) [] Configuration.fit_nil
        refine keeps_bind (keeps_lift (graph.keyOf_keys _)) fun key known => ?_
        refine keeps_bind (trees _ _) fun tree grows => ?_
        exact keeps_pure (Configuration.fit_put known grows.1 fit)
      · rw [itemTrees]
        exact keeps_mapM fun item _ => keeps_mono (trees around item) fun tree grows => grows.1
      · rw [pairTrees]
        split
        · refine keeps_mapM fun item _ => keeps_bind keeps_reading fun found _ => ?_
          split
          · refine keeps_bind (trees _ _) fun key key_grows => ?_
            refine keeps_bind (trees _ _) fun tree grows => ?_
            refine keeps_pure (Configuration.fits_tuple ?_)
            exact List.forall_mem_cons.mpr ⟨key_grows.1, List.forall_mem_singleton.mpr grows.1⟩
          · exact keeps_throw _
        · exact keeps_throw _

end Graph

/-- A document that is a mapping is a sound layer, and one that is data holds no mappings. -/
theorem document_sound {text : Text} {document : Document} (found : Yaml.read text = .ok document) :
    (∀ number, document.tree = .mapping number → Configuration.Sound ⟨number, document.cells⟩) ∧
      ∀ data, document.tree = .leaf data → data.Proper := by
  obtain ⟨graph, _, found⟩ := Results.bind_ok.mp found
  unfold Graph.document at found
  split at found
  · cases found
    refine ⟨nofun, fun data whole => ?_⟩
    cases whole
    exact Data.proper_of_key rfl
  · dsimp only at found
    obtain ⟨⟨tree, cells⟩, ran, found⟩ := Results.bind_ok.mp found
    cases found
    have empty : AllFit graph.nodes.size
        ((Array.replicate graph.nodes.size (none : Option Entries)).map fun entries =>
          entries.getD []) := by
      intro place
      rw [Cells.entries, Array.getD_eq_getD_getElem?, Array.getElem?_map, Array.getElem?_replicate]
      split <;> exact Configuration.fit_nil
    obtain ⟨all, same, fits, proper⟩ := (graph.growth_keeps _).1 _ _ _ _ _ empty ran
    have size : (cells.map fun entries => entries.getD []).size = graph.nodes.size := by
      rw [Array.size_map, same, Array.size_replicate]
    refine ⟨fun number whole => ?_, proper⟩
    change tree = .mapping number at whole
    rw [whole] at fits
    refine ⟨?_, ?_⟩
    · rw [size]
      exact all
    · rw [size]
      exact fits number (.here number)

end PageTemplates.Yaml
