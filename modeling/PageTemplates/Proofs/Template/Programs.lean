import PageTemplates.Proofs.Template.Parts
import PageTemplates.Template.Compile

/-!
The programs of templates that are put together from parts. Output becomes pieces, one for each name and
one for all literal text between two names; a block becomes a step that runs it and a body of its own. Behind
a tag that extends a layout nothing but the blocks is left.
-/

namespace PageTemplates.Template

/-- A computation that compiles comes to a result and leaves a state. -/
def Compile.Gives {Result : Type} (action : Compile Result) (compiler : Compiler)
    (before : CompileState) (result : Result) (after : CompileState) : Prop :=
  action compiler before = .ok (result, after)

/-- Output of literal text and of names. -/
def Expression.isSimple : Expression → Bool
  | .data _ => true
  | .name word => word != "self"
  | _ => false

/-- Output of literal text and of names, or a block of literal text. -/
inductive Statement.Simple : Statement → Prop
  | output {parts : List Expression} (simple : ∀ part ∈ parts, part.isSimple = true) :
    Simple (.output parts)
  | block {name : String} {body : Text} :
    Simple (.block 1 name (outputOf (literalOutput body)) false false)

/-- The names in the output of a statement. -/
def Statement.outputNames : Statement → List String
  | .output parts => Expression.readsAll parts
  | _ => []

/-- How values are escaped where it is settled. -/
def Escaping.settled (escapes : Bool) : Escaping := if escapes then .always else .never

/-- Pieces of output, the last one first, with one more. -/
def pieceAfter (escapes : Bool) (done : List Piece) : Expression → List Piece
  | .data text => Compile.addText text done
  | .name name => .value (.variable ⟨0, name⟩ true) (.settled escapes) :: done
  | _ => done

/-- The pieces of simple output. -/
def simplePieces (escapes : Bool) (parts : List Expression) : List Piece :=
  (parts.foldl (pieceAfter escapes) []).reverse

/-- The steps of output and of blocks that stand outside of all others. -/
def Statement.simpleSteps (escapes : Bool) : Statement → List Step
  | .output parts => [.output false (simplePieces escapes parts)]
  | .block _ name _ _ _ => [.block name false false none]
  | _ => []

/-- The code of a block of literal text. -/
def literalBlock (escapes : Bool) (name : String) (body : Text) : BlockCode :=
  ⟨name, false, false, ⟨0, []⟩,
    (outputOf (literalOutput body)).flatMap (Statement.simpleSteps escapes)⟩

/-- The codes of blocks of literal text. -/
def literalBlocks (escapes : Bool) (blocks : List (String × Text)) : List BlockCode :=
  blocks.map fun (name, body) => literalBlock escapes name body

/-- A frame of names that are looked up in the context. -/
def Frame.knowing (known : List String) : Frame := ⟨0, known.map fun name => (name, .resolve)⟩

/-- The state of compilation outside of all statements that change it. -/
def CompileState.start (escapes : Bool) : CompileState := ⟨0, false, escapes, false, []⟩

/-- The state behind a tag that extends a layout. -/
def CompileState.extended (escapes : Bool) : CompileState := ⟨1, true, escapes, false, []⟩

namespace Compile

variable {compiler : Compiler} {First Result : Type} {before between after : CompileState}

theorem gives_pure (result : Result) : (pure result : Compile Result).Gives compiler before result before :=
  rfl

theorem gives_bind {action : Compile First} {more : First → Compile Result} {first : First}
    {result : Result} (given : action.Gives compiler before first between)
    (followed : (more first).Gives compiler between result after) :
    (action >>= more).Gives compiler before result after := by
  change ReaderT.bind action more compiler before = _
  unfold ReaderT.bind
  change StateT.bind (action compiler) _ before = _
  unfold StateT.bind
  rw [given]
  exact followed

theorem gives_get : (get : Compile CompileState).Gives compiler before before before := rfl

theorem constant_piece_data (text : Text) (settled : before.unsettled = false) :
    (constantPiece (.data text)).Gives compiler before (some text) before := by
  obtain ⟨extending, surely, escapes, unsettled, unfilled⟩ := before
  cases settled
  cases escapes <;> rfl

theorem constant_piece_name (name : String) :
    (constantPiece (.name name)).Gives compiler before none before := rfl

theorem gives_map (function : First → Result) {action : Compile First} {first : First}
    (given : action.Gives compiler before first after) :
    (function <$> action).Gives compiler before (function first) after := by
  rw [← bind_pure_comp]
  exact gives_bind given (gives_pure _)

end Compile

/-- One scope in which names are looked up in the context. -/
def Scopes.knowing (known : List String) : Scopes :=
  [⟨0, known.map fun name => (name, .resolve), []⟩]

namespace Scopes

theorem lookup_known (known : List String) (name : String) :
    (known.map fun name => (name, Load.resolve)).lookup name =
      if name ∈ known then some .resolve else none := by
  induction known with
  | nil => rfl
  | cons first rest ih =>
      rw [List.map_cons, List.lookup_cons, ih]
      by_cases same : name = first
      · simp [same]
      · have passed : (name == first) = false := by simpa using same
        simp [same, passed]

theorem find_known (known : List String) (name : String) :
    (knowing known).find? name = if name ∈ known then some ⟨0, name⟩ else none := by
  unfold knowing find?
  rw [lookup_known]
  split <;> rfl

theorem load_known {known : List String} {name : String} (inside : name ∈ known) :
    (knowing known).loadOf? ⟨0, name⟩ = some .resolve := by
  unfold knowing loadOf?
  rw [lookup_known, if_pos inside]
  rfl

theorem read_known (known : List String) (name : String) :
    (knowing known).read name = knowing (if name ∈ known then known else known ++ [name]) := by
  unfold read
  rw [find_known]
  by_cases inside : name ∈ known
  · simp [inside]
  · have absent := lookup_known known name
    rw [if_neg inside] at absent
    simp [inside, knowing, change, Symbols.define, absent]

/-- Names that are read are known from then on. -/
theorem read_all_known (names known : List String) :
    ∃ more, (knowing known).readAll names = knowing more ∧ known ⊆ more ∧ names ⊆ more := by
  induction names generalizing known with
  | nil => exact ⟨known, rfl, List.Subset.refl _, List.nil_subset _⟩
  | cons name rest ih =>
      have here : known ⊆ (if name ∈ known then known else known ++ [name]) ∧
          name ∈ (if name ∈ known then known else known ++ [name]) := by
        split
        · rename_i inside
          exact ⟨List.Subset.refl _, inside⟩
        · simp
      obtain ⟨more, read, kept, others⟩ := ih (if name ∈ known then known else known ++ [name])
      refine ⟨more, ?_, fun _ inside => kept (here.1 inside), ?_⟩
      · rw [readAll, List.foldl_cons, read_known]
        exact read
      · exact List.cons_subset.mpr ⟨kept here.2, others⟩

theorem statements_known {tree : List Statement} (simple : ∀ statement ∈ tree, statement.Simple)
    (known : List String) :
    ∃ more, statements tree (knowing known) = knowing more ∧ known ⊆ more ∧
      tree.flatMap Statement.outputNames ⊆ more := by
  induction tree generalizing known with
  | nil => exact ⟨known, rfl, List.Subset.refl _, List.nil_subset _⟩
  | cons first rest ih =>
      obtain ⟨here, others⟩ := List.forall_mem_cons.mp simple
      have one : ∃ more, statement first (knowing known) = knowing more ∧ known ⊆ more ∧
          first.outputNames ⊆ more := by
        cases here with
        | output => exact read_all_known _ known
        | block => exact ⟨known, rfl, List.Subset.refl _, List.nil_subset _⟩
      obtain ⟨between, declared, kept, mine⟩ := one
      obtain ⟨more, rests, grown, theirs⟩ := ih others between
      refine ⟨more, ?_, fun _ inside => grown (kept inside), ?_⟩
      · rw [statements, declared, rests]
      · rw [List.flatMap_cons]
        exact List.append_subset.mpr ⟨fun _ inside => grown (mine inside), theirs⟩

end Scopes

namespace Compile

variable {compiler : Compiler} {Result : Type} {before after : CompileState}

/-- A name of the scope comes to its variable, which may be without a value. -/
theorem gives_name {position : Position} {known : List String} {name : String}
    (scopes : position.scopes = Scopes.knowing known) (inside : name ∈ known) :
    (code position (.name name)).Gives compiler before (.variable ⟨0, name⟩ true) before := by
  have found : (slotOf position name).Gives compiler before ⟨0, name⟩ before := by
    unfold slotOf
    rw [scopes, Scopes.find_known, if_pos inside]
    exact gives_pure _
  apply gives_bind found
  apply gives_bind gives_get
  rw [scopes, Scopes.load_known inside]
  exact gives_pure _

theorem gives_escaping (settled : before.unsettled = false) :
    escapingHere.Gives compiler before (.settled before.escapes) before := by
  apply gives_bind gives_get
  rw [settled]
  exact gives_pure _

/-- Simple output comes to its pieces. -/
theorem gives_pieces {position : Position} {known : List String}
    (scopes : position.scopes = Scopes.knowing known) (settled : before.unsettled = false)
    {parts : List Expression} (simple : ∀ part ∈ parts, part.isSimple = true)
    (names : Expression.readsAll parts ⊆ known) (done : List Piece) :
    (piecesOf position done parts).Gives compiler before
      (parts.foldl (pieceAfter before.escapes) done).reverse before := by
  induction parts generalizing done with
  | nil => exact gives_pure _
  | cons part rest ih =>
      obtain ⟨here, others⟩ := List.forall_mem_cons.mp simple
      rw [Expression.readsAll, List.append_subset] at names
      cases part with
      | data text =>
          apply gives_bind (constant_piece_data text settled)
          exact ih others names.2 _
      | name name =>
          have inside : name ∈ known := names.1 (List.mem_singleton_self _)
          have coded : (expressionCode position (.name name)).Gives compiler before
              (.variable ⟨0, name⟩ true) before :=
            gives_bind (gives_pure _) (gives_name scopes inside)
          apply gives_bind (constant_piece_name name)
          apply gives_bind coded
          apply gives_bind (gives_escaping settled)
          exact gives_bind (gives_pure _) (ih others names.2 _)
      | _ => cases here

theorem gives_body {action : Compile Compiled} {done : List Step} {ended : Bool}
    (given : action.Gives compiler before (done, ended) after) :
    (bodySteps action).Gives compiler before done after :=
  gives_map Prod.fst given

theorem gives_output {position : Position} {known : List String}
    (scopes : position.scopes = Scopes.knowing known) (unchecked : position.checksOutput = false)
    (settled : before.unsettled = false) {parts : List Expression}
    (simple : ∀ part ∈ parts, part.isSimple = true) (names : Expression.readsAll parts ⊆ known) :
    (outputStep position parts).Gives compiler before
      (steps [.output false (simplePieces before.escapes parts)]) before := by
  unfold outputStep
  rw [unchecked]
  apply gives_bind gives_get
  exact gives_bind (gives_pieces scopes settled simple names []) (gives_pure _)

theorem gives_simple {position : Position} {known : List String}
    (scopes : position.scopes = Scopes.knowing known) (unchecked : position.checksOutput = false)
    {escapes : Bool} {statement : Statement} (simple : statement.Simple)
    (names : statement.outputNames ⊆ known) :
    (Compile.statement statement position).Gives compiler (.start escapes)
      (steps (statement.simpleSteps escapes)) (.start escapes) := by
  cases simple with
  | output simple => exact gives_output scopes unchecked rfl simple names
  | block =>
      apply gives_bind gives_get
      have inside : (position.outermost && (CompileState.start escapes).surelyExtending) = false :=
        Bool.and_false _
      have unguarded : (position.outermost && decide ((CompileState.start escapes).extending > 0)) =
          false := Bool.and_false _
      simp only [inside, unguarded, Bool.false_eq_true, if_false]
      exact gives_pure _

/-- Simple statements come to their steps. -/
theorem gives_all_simple {position : Position} {known : List String}
    (scopes : position.scopes = Scopes.knowing known) (unchecked : position.checksOutput = false)
    {escapes : Bool} {tree : List Statement} (simple : ∀ statement ∈ tree, statement.Simple)
    (names : tree.flatMap Statement.outputNames ⊆ known) :
    (statements tree position).Gives compiler (.start escapes)
      (steps (tree.flatMap (Statement.simpleSteps escapes))) (.start escapes) := by
  induction tree with
  | nil => exact gives_pure _
  | cons first rest ih =>
      obtain ⟨here, others⟩ := List.forall_mem_cons.mp simple
      rw [List.flatMap_cons, List.append_subset] at names
      apply gives_bind (gives_simple scopes unchecked here names.1)
      apply gives_bind (ih others names.2)
      exact gives_pure _

/-- Behind a tag that extends a layout simple statements come to nothing. -/
theorem gives_nothing {position : Position} (outermost : position.outermost = true)
    (checked : position.checksOutput = true) {escapes : Bool} {tree : List Statement}
    (simple : ∀ statement ∈ tree, statement.Simple) :
    (statements tree position).Gives compiler (.extended escapes) (steps []) (.extended escapes) := by
  induction tree with
  | nil => exact gives_pure _
  | cons first rest ih =>
      obtain ⟨here, others⟩ := List.forall_mem_cons.mp simple
      have dropped : (Compile.statement first position).Gives compiler (.extended escapes) (steps [])
          (.extended escapes) := by
        cases here with
        | output =>
            change (outputStep position _).Gives _ _ _ _
            unfold outputStep
            rw [checked]
            exact gives_bind gives_get (gives_pure _)
        | block =>
            change (blockStep position _ _ _).Gives _ _ _ _
            unfold blockStep
            rw [outermost]
            exact gives_bind gives_get (gives_pure _)
      apply gives_bind dropped
      apply gives_bind (ih others)
      exact gives_pure _

theorem gives_constant {position : Position} (text : Text) :
    (expressionCode position (.constant (.text text))).Gives compiler before (.constant (.text text))
      before :=
  rfl

/-- A template that extends a layout at its start keeps that step. -/
theorem gives_extending {position : Position} (outermost : position.outermost = true)
    (root : position.root = true) (checked : position.checksOutput = true) {escapes : Bool}
    (line : Nat) (layout : Text) {tree : List Statement}
    (simple : ∀ statement ∈ tree, statement.Simple) :
    (statements (.extending line (.constant (.text layout)) :: tree) position).Gives compiler
      (.start escapes) (steps [.extending false (.constant (.text layout))])
      (.extended escapes) := by
  have extends_ : (extendStep position line (.constant (.text layout))).Gives compiler
      (.start escapes) (steps [.extending false (.constant (.text layout))])
      (.extended escapes) := by
    unfold extendStep
    rw [outermost, root]
    apply gives_bind gives_get
    apply gives_bind (gives_constant layout)
    exact gives_bind rfl (gives_pure _)
  apply gives_bind extends_
  apply gives_bind (gives_nothing outermost checked simple)
  exact gives_pure _

/-- A block of literal text comes to a body of its own. -/
theorem gives_block (line : Nat) (name : String) (body : Text) (settled : before.unsettled = false) :
    (block ⟨line, name, outputOf (literalOutput body), false⟩).Gives compiler before
      (literalBlock before.escapes name body) before := by
  cases body with
  | nil => exact gives_pure _
  | cons point rest =>
      have body : (bodySteps (statements [.output [.data (point :: rest)]]
          ⟨Scopes.knowing [], false, false, false, false, "block_" ++ name⟩)).Gives compiler before
          [.output false (simplePieces before.escapes [.data (point :: rest)])] before := by
        apply gives_body
        apply gives_bind
        · exact gives_output rfl rfl settled (by simp [Expression.isSimple]) (List.nil_subset _)
        · exact gives_bind (gives_pure _) (gives_pure _)
      exact gives_bind body (gives_pure _)

theorem gives_blocks (blocks : List (String × Text)) (settled : before.unsettled = false) :
    ((blocks.map fun (name, body) =>
      (⟨1, name, outputOf (literalOutput body), false⟩ : BlockNode)).mapM block).Gives compiler before
      (literalBlocks before.escapes blocks) before := by
  induction blocks with
  | nil => exact gives_pure _
  | cons first rest ih =>
      rw [List.map_cons, List.mapM_cons]
      apply gives_bind (gives_block 1 first.1 first.2 settled)
      exact gives_bind ih (gives_pure _)

theorem gives_distinct (nodes : List BlockNode) (seen : List String)
    (distinct : (nodes.map BlockNode.name).Nodup)
    (apart : ∀ name ∈ nodes.map BlockNode.name, name ∉ seen) :
    (checkBlocks seen nodes).Gives compiler before () before := by
  induction nodes generalizing seen with
  | nil => exact gives_pure _
  | cons node rest ih =>
      rw [List.map_cons, List.nodup_cons] at distinct
      obtain ⟨fresh, others⟩ := List.forall_mem_cons.mp apart
      unfold checkBlocks
      rw [if_neg (by simpa using fresh)]
      apply ih _ distinct.2
      intro name inside
      have different : name ≠ node.name := fun same => distinct.1 (same ▸ inside)
      simpa [different] using others name inside

end Compile

theorem self_apart {parts : List Expression} (simple : ∀ part ∈ parts, part.isSimple = true) :
    "self" ∉ Expression.readsAll parts := by
  induction parts with
  | nil => exact List.not_mem_nil
  | cons part rest ih =>
      obtain ⟨here, others⟩ := List.forall_mem_cons.mp simple
      rw [Expression.readsAll, List.mem_append, not_or]
      refine ⟨?_, ih others⟩
      cases part with
      | data text => exact List.not_mem_nil
      | name word =>
          have different : word ≠ "self" := by simpa [Expression.isSimple] using here
          simpa [Expression.reads] using different.symm
      | _ => cases here

theorem read_first_readings {name : String} {names : List String} (apart : name ∉ names)
    (rest : List Occurrence) : readFirst name (readings names ++ rest) = readFirst name rest := by
  induction names with
  | nil => rfl
  | cons first others ih =>
      rw [List.mem_cons, not_or] at apart
      have different : (first == name) = false := by simpa using Ne.symm apart.1
      rw [readings, List.map_cons, List.cons_append, readFirst, different]
      exact ih apart.2

namespace Statement

variable {tree : List Statement} (simple : ∀ statement ∈ tree, statement.Simple)

include simple

theorem simple_uses_no_self : uses tree "self" = false := by
  unfold uses
  induction tree with
  | nil => rfl
  | cons first rest ih =>
      obtain ⟨here, others⟩ := List.forall_mem_cons.mp simple
      rw [occurrencesAll]
      cases here with
      | output each => exact (read_first_readings (self_apart each) _).trans (ih others)
      | block => exact ih others

theorem simple_extends_nothing : anyExtends tree = false := by
  induction tree with
  | nil => rfl
  | cons first rest ih =>
      obtain ⟨here, others⟩ := List.forall_mem_cons.mp simple
      rw [anyExtends, ih others]
      cases here with
      | output => rfl
      | block =>
          rename_i name body
          cases body <;> rfl

end Statement

namespace Part

/-- The blocks among parts, by name. -/
def blocks : List Part → List (String × Text)
  | [] => []
  | .block name body :: rest => (name.name, body.text) :: blocks rest
  | _ :: rest => blocks rest

/-- Whether a part belongs to a template that extends nothing. -/
def isOwn : Part → Bool
  | .extending _ => false
  | _ => true

/-- The names in the output of a part. -/
def names : Part → List String
  | .output name _ => [name.name]
  | _ => []

end Part

theorem blocks_of_output (parts : List Expression) : Statement.blocksAll (outputOf parts) = [] := by
  unfold outputOf
  split <;> rfl

theorem blocks_append (first second : List Statement) :
    Statement.blocksAll (first ++ second) =
      Statement.blocksAll first ++ Statement.blocksAll second := by
  induction first with
  | nil => rfl
  | cons statement rest ih =>
      rw [List.cons_append, Statement.blocksAll, ih, Statement.blocksAll, List.append_assoc]

theorem tree_blocks (parts : List Part) (before : Text) (outputs : List Expression) :
    Statement.blocksAll (treeAfter before outputs parts) =
      (Part.blocks parts).map fun (name, body) =>
        ⟨1, name, outputOf (literalOutput body), false⟩ := by
  induction parts generalizing before outputs with
  | nil => exact blocks_of_output _
  | cons part rest ih =>
      cases part with
      | literal content => exact ih _ _
      | output name free => exact ih _ _
      | block name body =>
          rw [treeAfter, blocks_append, blocks_of_output, Statement.blocksAll, ih]
          simp [Statement.blocks, blocks_of_output, Part.blocks]
      | extending layout =>
          rw [treeAfter, blocks_append, blocks_of_output, Statement.blocksAll, ih]
          rfl

theorem reads_append (first second : List Expression) :
    Expression.readsAll (first ++ second) =
      Expression.readsAll first ++ Expression.readsAll second := by
  induction first with
  | nil => rfl
  | cons expression rest ih =>
      rw [List.cons_append, Expression.readsAll, ih, Expression.readsAll, List.append_assoc]

theorem reads_literal (text : Text) : Expression.readsAll (literalOutput text) = [] := by
  unfold literalOutput
  split <;> rfl

theorem names_of_output (parts : List Expression) :
    (outputOf parts).flatMap Statement.outputNames = Expression.readsAll parts := by
  unfold outputOf
  cases parts <;> simp [Statement.outputNames, Expression.readsAll]

/-- The names in the output of a tree are those of the parts, in order. -/
theorem tree_names (parts : List Part) (before : Text) (outputs : List Expression) :
    (treeAfter before outputs parts).flatMap Statement.outputNames =
      Expression.readsAll outputs ++ parts.flatMap Part.names := by
  induction parts generalizing before outputs with
  | nil => simp [treeAfter, names_of_output, reads_append, reads_literal]
  | cons part rest ih =>
      cases part <;>
        simp [treeAfter, ih, names_of_output, reads_append, reads_literal, Part.names,
          Statement.outputNames, Expression.readsAll, Expression.reads]

theorem literal_simple (text : Text) : ∀ part ∈ literalOutput text, part.isSimple = true := by
  unfold literalOutput
  split <;> simp [Expression.isSimple]

theorem output_simple {outputs : List Expression} (simple : ∀ part ∈ outputs, part.isSimple = true)
    (before : Text) : ∀ statement ∈ outputOf (outputs ++ literalOutput before), statement.Simple := by
  have whole : ∀ part ∈ outputs ++ literalOutput before, part.isSimple = true :=
    List.forall_mem_append.mpr ⟨simple, literal_simple before⟩
  unfold outputOf
  split
  · exact nofun
  · exact List.forall_mem_singleton.mpr (.output whole)

theorem tree_simple {parts : List Part} (own : ∀ part ∈ parts, part.isOwn = true) (before : Text)
    {outputs : List Expression} (simple : ∀ part ∈ outputs, part.isSimple = true) :
    ∀ statement ∈ treeAfter before outputs parts, statement.Simple := by
  induction parts generalizing before outputs with
  | nil => exact output_simple simple before
  | cons part rest ih =>
      obtain ⟨here, others⟩ := List.forall_mem_cons.mp own
      cases part with
      | literal content => exact ih others _ simple
      | output name free =>
          apply ih others
          rw [List.forall_mem_append, List.forall_mem_append, List.forall_mem_singleton]
          exact ⟨⟨simple, literal_simple before⟩, (Bool.and_eq_true_iff.mp free).2⟩
      | block name body =>
          rw [treeAfter, List.forall_mem_append, List.forall_mem_cons]
          exact ⟨output_simple simple before, .block, ih others [] (List.forall_mem_nil _)⟩
      | extending layout => cases here

/-- The program of parts without a layout: its steps, and the codes of its blocks. -/
def ownProgram (known : List String) (escapes : Bool) (parts : List Part) : Program :=
  ⟨false, false, .knowing known, (treeAfter [] [] parts).flatMap (Statement.simpleSteps escapes),
    literalBlocks escapes (Part.blocks parts)⟩

/-- The program of parts behind a layout: the step that extends it, and the codes of the blocks. -/
def extendingProgram (known : List String) (escapes : Bool) (layout : Quotation) (parts : List Part) :
    Program :=
  ⟨false, true, .knowing known, [.extending false (.constant (.text layout.value))],
    literalBlocks escapes (Part.blocks parts)⟩

section Whole

variable {compiler : Compiler} {parts : List Part} (own : ∀ part ∈ parts, part.isOwn = true)
  (distinct : ((Part.blocks parts).map Prod.fst).Nodup)

include distinct in
theorem gives_checked {before : CompileState} :
    (Compile.checkBlocks [] ((Part.blocks parts).map fun (name, body) =>
      ⟨1, name, outputOf (literalOutput body), false⟩)).Gives compiler before () before := by
  apply Compile.gives_distinct _ [] _ (by simp)
  rwa [List.map_map]

include own distinct

theorem compile_own : ∃ known, (treeAfter [] [] parts).flatMap Statement.outputNames ⊆ known ∧
    compile compiler (treeAfter [] [] parts) = .ok (ownProgram known compiler.escapes parts) := by
  have simple : ∀ statement ∈ treeAfter [] [] parts, statement.Simple := tree_simple own [] nofun
  obtain ⟨known, declared, -, names⟩ := Scopes.statements_known simple []
  have start : Scopes.inner [] = Scopes.knowing [] := rfl
  refine ⟨known, names, ?_⟩
  have whole : (Compile.template (treeAfter [] [] parts)).Gives compiler (.start compiler.escapes)
      (ownProgram known compiler.escapes parts) (.start compiler.escapes) := by
    unfold Compile.template
    simp only [tree_blocks, Statement.simple_uses_no_self simple,
      Statement.simple_extends_nothing simple, start, Bool.false_eq_true, if_false, declared]
    apply Compile.gives_bind (gives_checked distinct)
    apply Compile.gives_bind
    · exact Compile.gives_body (Compile.gives_all_simple rfl rfl simple names)
    · exact Compile.gives_bind (Compile.gives_blocks (Part.blocks parts) rfl) (Compile.gives_pure _)
  exact congrArg (Except.map Prod.fst) whole

theorem compile_extending (layout : Quotation) : ∃ known : List String,
    compile compiler (treeAfter [] [] (.extending layout :: parts)) =
      .ok (extendingProgram known compiler.escapes layout parts) := by
  have simple : ∀ statement ∈ treeAfter [] [] parts, statement.Simple := tree_simple own [] nofun
  obtain ⟨known, declared, -, -⟩ := Scopes.statements_known simple []
  have start : Scopes.inner [] = Scopes.knowing [] := rfl
  have tree : treeAfter [] [] (.extending layout :: parts) =
      .extending 1 (.constant (.text layout.value)) :: treeAfter [] [] parts := rfl
  have selfless : uses (.extending 1 (.constant (.text layout.value)) :: treeAfter [] [] parts)
      "self" = false := by
    have others := Statement.simple_uses_no_self simple
    exact others
  have blocks : Statement.blocksAll (.extending 1 (.constant (.text layout.value)) ::
      treeAfter [] [] parts) = (Part.blocks parts).map fun (name, body) =>
        ⟨1, name, outputOf (literalOutput body), false⟩ := tree_blocks parts [] []
  have declares : Scopes.statements (.extending 1 (.constant (.text layout.value)) ::
      treeAfter [] [] parts) (Scopes.knowing []) = Scopes.knowing known := declared
  refine ⟨known, ?_⟩
  rw [tree]
  have whole : (Compile.template (.extending 1 (.constant (.text layout.value)) ::
      treeAfter [] [] parts)).Gives compiler (.start compiler.escapes)
      (extendingProgram known compiler.escapes layout parts) (.extended compiler.escapes) := by
    unfold Compile.template
    simp only [blocks, selfless, start, Bool.false_eq_true, if_false, declares]
    apply Compile.gives_bind (gives_checked distinct)
    apply Compile.gives_bind
    · exact Compile.gives_body (Compile.gives_extending rfl rfl rfl 1 layout.value simple)
    · exact Compile.gives_bind (Compile.gives_blocks (Part.blocks parts) rfl) (Compile.gives_pure _)
  exact congrArg (Except.map Prod.fst) whole

end Whole

end PageTemplates.Template
