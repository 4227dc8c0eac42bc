import PageTemplates.Proofs.Render.Writes
import PageTemplates.Proofs.Template.Programs

/-!
Renders of templates that are put together from parts. Literal text is written as it stands, a name as the text
that the context has under it, and a block as the first body that the context has under its name.
-/

namespace PageTemplates

open Template

/-- A setting with the powers of a level. -/
def Setting.ofLevel (functions : Array Function) (bare : Setting) (level : Nat) : Setting :=
  bare.withPowers (Powers.ofLevel functions bare level)

/-- What is known where code runs: the context, and the values of the variables. -/
structure Stage.Stands (stage : Stage) (state : Context) (slots : List (Slot × Value))
    (world : World) : Prop where
  context : world.Has stage.context (.context state)
  activation : world.Has stage.activation (.activation ⟨none, slots, none⟩)

theorem Stage.stands_lasting (stage : Stage) (state : Context) (slots : List (Slot × Value)) :
    Run.Lasting (stage.Stands state slots) :=
  fun _ _ keeps there => ⟨there.context.kept keeps, there.activation.kept keeps⟩

/-- A text, escaped or not. -/
def escapedIf (escapes : Bool) (text : Text) : Text := if escapes then Markup.escape text else text

namespace Template

/-- What a piece of output writes, given the texts of names. -/
def Piece.shown (value : String → Text) : Piece → Text
  | .text content => content
  | .value (.variable slot _) escaping => escapedIf (escaping = .always) (value slot.name)
  | _ => []

/-- What a simple expression writes. -/
def Expression.shown (escapes : Bool) (value : String → Text) : Expression → Text
  | .data content => content
  | .name word => escapedIf escapes (value word)
  | _ => []

/-- What a simple statement writes, given what blocks write. -/
def Statement.shown (escapes : Bool) (value body : String → Text) : Statement → Text
  | .output parts => parts.flatMap (Expression.shown escapes value)
  | .block _ name _ _ _ => body name
  | _ => []

/-- What a part writes. -/
def Part.shown (escapes : Bool) (value body : String → Text) : Part → Text
  | .literal content => content.text
  | .output name _ => escapedIf escapes (value name.name)
  | .block name _ => body name.name
  | .extending _ => []

section Texts

variable (escapes : Bool) (value body : String → Text)

theorem pieces_text {parts : List Expression} (simple : ∀ part ∈ parts, part.isSimple = true)
    (done : List Piece) :
    (parts.foldl (pieceAfter escapes) done).reverse.flatMap (Piece.shown value) =
      done.reverse.flatMap (Piece.shown value) ++ parts.flatMap (Expression.shown escapes value) := by
  induction parts generalizing done with
  | nil => simp
  | cons part rest ih =>
      obtain ⟨here, others⟩ := List.forall_mem_cons.mp simple
      rw [List.foldl_cons, ih others, List.flatMap_cons, ← List.append_assoc]
      congr 1
      cases part with
      | data text =>
          rw [pieceAfter]
          unfold Compile.addText
          split <;> simp [Piece.shown, Expression.shown]
      | name word =>
          cases escapes <;> simp [pieceAfter, Piece.shown, Expression.shown, Escaping.settled]
      | _ => cases here

theorem literal_text (text : Text) :
    (literalOutput text).flatMap (Expression.shown escapes value) = text := by
  unfold literalOutput
  cases text <;> simp [Expression.shown]

theorem output_text (parts : List Expression) :
    (outputOf parts).flatMap (Statement.shown escapes value body) =
      parts.flatMap (Expression.shown escapes value) := by
  unfold outputOf
  cases parts <;> simp [Statement.shown]

/-- The tree of parts writes what the parts write, in order. -/
theorem tree_text (parts : List Part) (before : Text) (outputs : List Expression) :
    (treeAfter before outputs parts).flatMap (Statement.shown escapes value body) =
      outputs.flatMap (Expression.shown escapes value) ++ before ++
        parts.flatMap (Part.shown escapes value body) := by
  induction parts generalizing before outputs with
  | nil => simp [treeAfter, output_text, literal_text]
  | cons part rest ih =>
      cases part <;>
        simp [treeAfter, ih, output_text, literal_text, Part.shown, Statement.shown, Expression.shown]

end Texts

end Template

namespace Run

section Stages

variable {setting : Setting} {stage : Stage} {state : Context} {slots : List (Slot × Value)}
  {known : World → Prop} {value body : String → Text}

theorem gives_slot {before : Machine} {slot : Slot} {content : Value}
    (there : stage.Stands state slots before.world) (found : slots.lookup slot = some content) :
    (slotValue stage slot).Gives setting before content before := by
  have value : findSlot before.world slot (stage.activation + 1) stage.activation = some content := by
    simp only [findSlot, activation?, there.activation.2, found]
  change EStateM.Result.ok _ _ = _
  rw [value]
  rfl

theorem gives_text {before : Machine} (content : Text) :
    (escaped (.text content)).Gives setting before (Markup.escape content) before := rfl

theorem gives_plain {before : Machine} (content : Text) :
    (plain (.text content)).Gives setting before content before := rfl

/-- A value that is a text is written, escaped or not. -/
theorem writes_value {code : Code} {content : Text} (escapes : Bool) (lasting : Lasting known)
    (valued : ∀ before : Machine, known before.world →
      ∃ between, (evaluate stage code).Gives setting before (.text content) between ∧
        before.Grew between) :
    (writePiece stage (.value code (.settled escapes))).Writes setting known
      (escapedIf escapes content) := by
  have nothing (before : Machine) : before.Grew before := .refl before
  cases escapes with
  | true =>
      have chunk : (emit (.markup (Markup.escape content))).Writes setting known
          (Markup.escape content) := writes_chunk rfl
      apply writes_after lasting fun before _ => ⟨before, gives_pure true, nothing before⟩
      apply writes_after lasting valued
      exact writes_after lasting (fun before _ => ⟨before, gives_text content, nothing before⟩) chunk
  | false =>
      have chunk : (emit (.text content)).Writes setting known content := writes_chunk rfl
      apply writes_after lasting fun before _ => ⟨before, gives_pure false, nothing before⟩
      apply writes_after lasting valued
      exact writes_after lasting (fun before _ => ⟨before, gives_plain content, nothing before⟩) chunk

/-- A name is written as the text of its variable. -/
theorem writes_name {name : String} {content : Text} (escapes : Bool)
    (found : slots.lookup ⟨0, name⟩ = some (.text content)) :
    (writePiece stage (.value (.variable ⟨0, name⟩ true) (.settled escapes))).Writes setting
      (stage.Stands state slots) (escapedIf escapes content) := by
  apply writes_value escapes (stage.stands_lasting state slots)
  intro before there
  exact ⟨before, gives_bind (gives_slot there found) (gives_pure _), .refl before⟩

/-- A name is written in simple output. -/
def WritesName (stage : Stage) (setting : Setting) (known : World → Prop) (escapes : Bool)
    (value : String → Text) (name : String) : Prop :=
  (writePiece stage (.value (.variable ⟨0, name⟩ true) (.settled escapes))).Writes setting known
    (escapedIf escapes (value name))

/-- The pieces of simple output are all written. -/
theorem writes_pieces {escapes : Bool} {parts : List Expression}
    (simple : ∀ part ∈ parts, part.isSimple = true)
    (named : ∀ name ∈ Expression.readsAll parts, WritesName stage setting known escapes value name)
    {done : List Piece}
    (each : ∀ piece ∈ done, (writePiece stage piece).Writes setting known (piece.shown value)) :
    ∀ piece ∈ parts.foldl (pieceAfter escapes) done,
      (writePiece stage piece).Writes setting known (piece.shown value) := by
  induction parts generalizing done with
  | nil => exact each
  | cons part rest ih =>
      obtain ⟨here, others⟩ := List.forall_mem_cons.mp simple
      rw [Expression.readsAll, List.forall_mem_append] at named
      apply ih others named.2
      cases part with
      | data text =>
          rw [pieceAfter]
          unfold Compile.addText
          split
          · rw [List.forall_mem_cons] at each ⊢
            exact ⟨writes_chunk rfl, each.2⟩
          · exact List.forall_mem_cons.mpr ⟨writes_chunk rfl, each⟩
      | name word =>
          refine List.forall_mem_cons.mpr ⟨?_, each⟩
          have written := named.1 word (List.mem_singleton_self _)
          cases escapes <;> exact written
      | _ => cases here

theorem writes_unguarded {action : Run Unit} {text : Text}
    (written : action.Writes setting known text) :
    (unlessExtending stage false action).Writes setting known text := by
  intro before outside there
  obtain ⟨after, given, wrote, keeps⟩ := written before outside there
  refine ⟨after, ?_, wrote, keeps⟩
  exact gives_bind (gives_bind gives_world (gives_pure _)) given

theorem writes_output (lasting : Lasting known) {escapes : Bool} {parts : List Expression}
    (simple : ∀ part ∈ parts, part.isSimple = true)
    (named : ∀ name ∈ Expression.readsAll parts,
      WritesName stage setting known escapes value name) :
    (runStep stage (.output false (simplePieces escapes parts))).Writes setting known
      (parts.flatMap (Expression.shown escapes value)) := by
  have each : ∀ piece ∈ simplePieces escapes parts,
      (writePiece stage piece).Writes setting known (piece.shown value) := by
    intro piece inside
    exact writes_pieces simple named (by nofun) piece (List.mem_reverse.mp inside)
  have texts := pieces_text escapes value simple []
  rw [List.reverse_nil, List.flatMap_nil, List.nil_append] at texts
  rw [← texts]
  exact writes_unguarded (writes_forM lasting each)

end Stages

/-- The bodies under the name of a block, most special first. -/
def chainOf (blocks : List (String × List BlockEntry)) (name : String) : List BlockEntry :=
  (blocks.lookup name).getD []

/-- The first of some bodies is literal text. -/
def StartsWith (chain : List BlockEntry) (name : String) (body : Text) : Prop :=
  ∃ owner escapes others, chain = ⟨owner, literalBlock escapes name body⟩ :: others

section Blocks

variable {functions : Array Function} {bare : Setting} {level : Nat}

theorem writes_literal (setting : Setting) (stage : Stage) (escapes : Bool) (text : Text) :
    (runSteps stage ((outputOf (literalOutput text)).flatMap
      (Statement.simpleSteps escapes))).Writes setting (fun _ => True) text := by
  have lasting : Lasting fun _ => True := fun _ _ _ _ => trivial
  cases text with
  | nil => exact writes_pure
  | cons point rest =>
      have output : (runStep stage (.output false (simplePieces escapes [.data (point :: rest)]))).Writes
          setting (fun _ => True) ([Expression.data (point :: rest)].flatMap
            (Expression.shown escapes fun _ => [])) :=
        writes_output lasting (by simp [Expression.isSimple])
          (by simp [Expression.readsAll, Expression.reads])
      have whole : (runSteps stage [.output false (simplePieces escapes [.data (point :: rest)])]).Writes
          setting (fun _ => True) _ := writes_bind lasting output writes_pure
      simp only [List.flatMap_cons, List.flatMap_nil, List.append_nil, Expression.shown] at whole
      exact whole

/-- A block of literal text is written as it stands. -/
theorem writes_literal_block (owner : Text) (escapes : Bool) (name : String) (body : Text)
    (context : Ref) :
    (renderBlock ⟨owner, literalBlock escapes name body⟩ context).Writes
      (.ofLevel functions bare (level + 1)) (fun _ => True) body := by
  intro before outside _
  let opened : Machine :=
    { before with world := (before.world.add (.activation ⟨none, [], none⟩)).2 }
  obtain ⟨after, given, wrote, keeps⟩ := writes_literal (.ofLevel functions bare level)
    ⟨before.world.fresh, context, opened.captures.length⟩ escapes body opened outside trivial
  refine ⟨after, ?_, wrote.since rfl, (before.world.add_keeps _).trans keeps⟩
  have run : (runBlockCode ⟨owner, literalBlock escapes name body⟩ context).Gives
      (.ofLevel functions bare level) before () after := by
    unfold runBlockCode
    apply gives_bind (gives_allocate _)
    apply gives_bind gives_height
    simp only [literalBlock, Bool.false_eq_true, if_false]
    exact gives_bind (gives_pure _) given
  exact run

/-- A block is written as the first body that the context has under its name. -/
theorem writes_block {stage : Stage} {state : Context} {slots : List (Slot × Value)} {name : String}
    {body : Text} (first : StartsWith (chainOf state.blocks name) name body) :
    (runStep stage (.block name false false none)).Writes (.ofLevel functions bare (level + 1))
      (stage.Stands state slots) body := by
  obtain ⟨owner, escapes, others, chain⟩ := first
  apply writes_unguarded
  intro before outside there
  have written : (renderBlock ⟨owner, literalBlock escapes name body⟩ stage.context).Writes
      (.ofLevel functions bare (level + 1)) (fun _ => True) body :=
    writes_literal_block owner escapes name body stage.context
  obtain ⟨after, given, wrote, keeps⟩ := written before outside trivial
  refine ⟨after, ?_, wrote, keeps⟩
  have read : (contextState stage.context).Gives (.ofLevel functions bare (level + 1)) before state
      before := by
    apply gives_bind (gives_cell _)
    rw [there.context.2]
    exact gives_pure _
  apply gives_bind (gives_pure _)
  apply gives_bind read
  simp only [Bool.false_and, Bool.false_eq_true, if_false]
  rw [show (state.blocks.lookup name).getD [] = _ from chain]
  exact given

/-- What is known where the steps of parts run. -/
structure Renders (stage : Stage) (state : Context) (slots : List (Slot × Value))
    (value body : String → Text) (tree : List Statement) : Prop where
  simple : ∀ statement ∈ tree, statement.Simple
  values : ∀ name ∈ tree.flatMap Statement.outputNames,
    slots.lookup ⟨0, name⟩ = some (.text (value name))
  bodies : ∀ node ∈ Statement.blocksAll tree,
    StartsWith (chainOf state.blocks node.name) node.name (body node.name)

theorem writes_tree {stage : Stage} {state : Context} {slots : List (Slot × Value)}
    {value body : String → Text} {escapes : Bool} {tree : List Statement}
    (renders : Renders stage state slots value body tree) :
    (runSteps stage (tree.flatMap (Statement.simpleSteps escapes))).Writes
      (.ofLevel functions bare (level + 1)) (stage.Stands state slots)
      (tree.flatMap (Statement.shown escapes value body)) := by
  have lasting := stage.stands_lasting state slots
  obtain ⟨simple, values, bodies⟩ := renders
  induction tree with
  | nil => exact writes_pure
  | cons first rest ih =>
      obtain ⟨here, others⟩ := List.forall_mem_cons.mp simple
      rw [List.flatMap_cons, List.forall_mem_append] at values
      rw [Statement.blocksAll, List.forall_mem_append] at bodies
      have later := ih others values.2 bodies.2
      rw [List.flatMap_cons, List.flatMap_cons]
      cases here with
      | output each =>
          apply writes_bind lasting _ later
          apply writes_output lasting each
          intro name inside
          exact writes_name escapes (values.1 name inside)
      | block =>
          apply writes_bind lasting _ later
          exact writes_block (bodies.1 _ List.mem_cons_self)

end Blocks

section Frames

variable {setting : Setting}

/-- What a context has under a name, or what every template knows. -/
def valueIn (environment : Environment) (state : Context) (name : String) : Value :=
  match state.own.lookup (Text.ofString name) with
  | some value => value
  | none =>
    match state.given.lookup (Text.ofString name) with
    | some value => value
    | none => (environment.globals.lookup (Text.ofString name)).getD .missing

theorem gives_context {before : Machine} {ref : Ref} {state : Context}
    (here : before.world.Has ref (.context state)) :
    (contextState ref).Gives setting before state before := by
  apply gives_bind (gives_cell ref)
  rw [here.2]
  exact gives_pure _

theorem gives_resolved {before : Machine} {ref : Ref} {state : Context}
    (here : before.world.Has ref (.context state)) (name : String) :
    (resolve ref name).Gives setting before (valueIn setting.environment state name) before := by
  apply gives_bind (gives_context here)
  unfold valueIn
  dsimp only
  cases state.own.lookup (Text.ofString name) with
  | some value => exact gives_pure value
  | none =>
      cases state.given.lookup (Text.ofString name) with
      | some value => exact gives_pure value
      | none => exact gives_bind rfl (gives_pure _)

/-- A scope starts with what the context has under its names. -/
theorem gives_frame {stage : Stage} {state : Context} (known : List String)
    {slots : List (Slot × Value)} {before : Machine}
    (there : stage.Stands state slots before.world) (apart : stage.context ≠ stage.activation) :
    ∃ filled after, (enterFrame stage (.knowing known)).Gives setting before () after ∧
      stage.Stands state filled after.world ∧ after.captures = before.captures ∧
      after.emissions = before.emissions ∧
      (∀ start : World, start.fresh ≤ stage.activation → start.Keeps before.world →
        start.Keeps after.world) ∧
      ∀ name, filled.lookup ⟨0, name⟩ =
        if name ∈ known then some (valueIn setting.environment state name)
        else slots.lookup ⟨0, name⟩ := by
  induction known generalizing slots before with
  | nil => exact ⟨slots, before, rfl, there, rfl, rfl, fun _ _ keeps => keeps, fun name => rfl⟩
  | cons first rest ih =>
      let value := valueIn setting.environment state first
      let world := before.world.put stage.activation
        (.activation ⟨none, putPair ⟨0, first⟩ value slots, none⟩)
      let next : Machine := { before with world := world }
      have set : (setSlot stage ⟨0, first⟩ value).Gives setting before () next := by
        apply gives_bind gives_world
        simp only [activation?, there.activation.2]
        exact gives_put _ _
      have stands : stage.Stands state (putPair ⟨0, first⟩ value slots) next.world :=
        ⟨there.context.put_other apart, World.put_has there.activation.1⟩
      obtain ⟨filled, after, given, ends, captures, emissions, keeps, found⟩ := ih stands
      refine ⟨filled, after, ?_, ends, captures, emissions, ?_, ?_⟩
      · exact gives_bind (gives_bind (gives_resolved there.context first) set) given
      · intro start new kept
        exact keeps start new (kept.put new)
      · intro name
        rw [found, lookup_put_pair]
        by_cases same : name = first
        · subst same
          simp [value]
        · simp [same]

end Frames

section Templates

variable {functions : Array Function} {bare : Setting} {level : Nat}

/-- A template that extends nothing writes what its steps write where its names have their values. -/
theorem writes_program {name : Text} {entry : Entry} {known : List String} {steps : List Step}
    {codes : List BlockCode} {context : Ref} {state : Context} {text : Text}
    (program : entry.program = ⟨false, false, .knowing known, steps, codes⟩)
    (written : ∀ (stage : Stage) (slots : List (Slot × Value)),
      (∀ name ∈ known, slots.lookup ⟨0, name⟩ = some (valueIn bare.environment state name)) →
      (runSteps stage steps).Writes (.ofLevel functions bare (level + 1)) (stage.Stands state slots)
        text) :
    (renderTemplate name entry context).Writes (.ofLevel functions bare (level + 2))
      (fun world => world.Has context (.context state)) text := by
  intro before outside here
  let stage : Stage := ⟨before.world.fresh, context, before.captures.length⟩
  let opened : Machine :=
    { before with world := (before.world.add (.activation ⟨none, [], none⟩)).2 }
  have stands : stage.Stands state [] opened.world :=
    ⟨here.kept (World.add_keeps _ _), World.add_has _ _⟩
  have apart : stage.context ≠ stage.activation := Nat.ne_of_lt here.1
  obtain ⟨filled, entered, framed, there, captures, emissions, keeps, found⟩ :=
    @gives_frame (.ofLevel functions bare (level + 1)) stage state known [] opened stands apart
  have values : ∀ name ∈ known,
      filled.lookup ⟨0, name⟩ = some (valueIn bare.environment state name) := by
    intro name inside
    rw [found, if_pos inside]
    rfl
  obtain ⟨after, given, wrote, grows⟩ :=
    written stage filled values entered (captures.trans outside) there
  have layout : (layout? stage).Gives (.ofLevel functions bare (level + 1)) after none after := by
    have lasts := there.activation.kept grows
    change EStateM.Result.ok (findLayout after.world (stage.activation + 1) stage.activation) after = _
    simp only [findLayout, activation?, lasts.2]
  refine ⟨after, ?_, wrote.since emissions, (keeps _ (Nat.le_refl _) (World.add_keeps _ _)).trans grows⟩
  have run : (runTemplate entry context).Gives (.ofLevel functions bare (level + 1)) before () after := by
    unfold runTemplate
    simp only [program, Bool.false_eq_true, if_false]
    apply gives_bind (gives_allocate _)
    apply gives_bind gives_height
    apply gives_bind framed
    apply gives_bind given
    exact gives_bind layout (gives_pure ())
  exact run

/-- A template of parts that extends nothing writes what its parts write. -/
theorem writes_template {name : Text} {entry : Entry} {known : List String} {escapes : Bool}
    {tree : List Statement} {codes : List BlockCode} {context : Ref} {state : Context}
    {value body : String → Text}
    (program : entry.program = ⟨false, false, .knowing known,
      tree.flatMap (Statement.simpleSteps escapes), codes⟩)
    (simple : ∀ statement ∈ tree, statement.Simple)
    (names : tree.flatMap Statement.outputNames ⊆ known)
    (values : ∀ name ∈ tree.flatMap Statement.outputNames,
      valueIn bare.environment state name = .text (value name))
    (bodies : ∀ node ∈ Statement.blocksAll tree,
      StartsWith (chainOf state.blocks node.name) node.name (body node.name)) :
    (renderTemplate name entry context).Writes (.ofLevel functions bare (level + 2))
      (fun world => world.Has context (.context state))
      (tree.flatMap (Statement.shown escapes value body)) := by
  apply writes_program program
  intro stage slots found
  have renders : Renders stage state slots value body tree := by
    refine ⟨simple, fun name inside => ?_, bodies⟩
    rw [found name (names inside), values name inside]
  exact writes_tree renders

end Templates

section Layouts

/-- Blocks of a template below those that are there. -/
def blocksBelow (owner : Text) (codes : List BlockCode) (blocks : List (String × List BlockEntry)) :
    List (String × List BlockEntry) :=
  codes.foldl (fun so block =>
    let below : BlockEntry := ⟨owner, block⟩
    if (so.lookup block.name).isSome then
      so.map fun (other, chain) => if other == block.name then (other, chain ++ [below])
        else (other, chain)
    else so ++ [(block.name, [below])]) blocks

theorem lookup_extended (blocks : List (String × List BlockEntry)) (added name : String)
    (below : BlockEntry) :
    (blocks.map fun (other, chain) => if other == added then (other, chain ++ [below])
      else (other, chain)).lookup name =
      (blocks.lookup name).map fun chain => if name = added then chain ++ [below] else chain := by
  induction blocks with
  | nil => rfl
  | cons first rest ih =>
      obtain ⟨other, chain⟩ := first
      rw [List.map_cons]
      by_cases here : name = other
      · subst here
        by_cases same : name = added <;> simp [same]
      · have passed : (name == other) = false := by simpa using here
        have kept : (name == (if other == added then (other, chain ++ [below])
            else (other, chain)).1) = false := by
          split <;> exact passed
        rw [List.lookup_cons, kept, List.lookup_cons, passed]
        exact ih

theorem chain_added (blocks : List (String × List BlockEntry)) (added name : String)
    (below : BlockEntry) :
    chainOf (if (blocks.lookup added).isSome then
      blocks.map fun (other, chain) => if other == added then (other, chain ++ [below])
        else (other, chain)
      else blocks ++ [(added, [below])]) name =
      chainOf blocks name ++ if name = added then [below] else [] := by
  unfold chainOf
  by_cases known : (blocks.lookup added).isSome
  · rw [if_pos known, lookup_extended]
    by_cases same : name = added
    · subst same
      obtain ⟨chain, found⟩ := Option.isSome_iff_exists.mp known
      simp [found]
    · simp [same]
  · rw [if_neg known, List.lookup_append]
    by_cases same : name = added
    · subst same
      have absent := Option.not_isSome_iff_eq_none.mp known
      simp [absent]
    · have passed : (name == added) = false := by simpa using same
      simp [same, List.lookup_cons, passed]

/-- The bodies that are there come before those of the template. -/
theorem chain_below (owner : Text) (codes : List BlockCode)
    (blocks : List (String × List BlockEntry)) (name : String) :
    chainOf (blocksBelow owner codes blocks) name =
      chainOf blocks name ++ (codes.filter fun code => code.name = name).map (⟨owner, ·⟩) := by
  induction codes generalizing blocks with
  | nil => simp [blocksBelow]
  | cons code rest ih =>
      rw [blocksBelow, List.foldl_cons]
      change chainOf (blocksBelow owner rest _) name = _
      rw [ih, chain_added, List.append_assoc, List.filter_cons]
      by_cases same : name = code.name
      · simp [same]
      · simp [same, Ne.symm same]

variable {functions : Array Function} {bare : Setting} {level : Nat}

/-- A template that extends a layout at its start writes what the layout writes in a context that has
the blocks of the layout below those of the template. -/
theorem gives_extended {name layout : Text} {entry base : Entry} {known : List String}
    {codes : List BlockCode} {context : Ref} {state : Context} {text : Text} {before : Machine}
    (program : entry.program = ⟨false, true, .knowing known,
      [.extending false (.constant (.text layout))], codes⟩)
    (found : bare.templates.lookup layout = some base)
    (written : (renderTemplate layout base context).Writes (.ofLevel functions bare (level + 1))
      (fun world => world.Has context (.context { state with
        blocks := blocksBelow layout base.program.blocks state.blocks })) text)
    (outside : before.captures = []) (here : before.world.Has context (.context state)) :
    ∃ after, (renderTemplate name entry context).Gives (.ofLevel functions bare (level + 2)) before ()
      after ∧ before.Wrote after text := by
  let stage : Stage := ⟨before.world.fresh, context, before.captures.length⟩
  let opened : Machine :=
    { before with world := (before.world.add (.activation ⟨none, [], none⟩)).2 }
  have stands : stage.Stands state [] opened.world :=
    ⟨here.kept (World.add_keeps _ _), World.add_has _ _⟩
  have apart : stage.context ≠ stage.activation := Nat.ne_of_lt here.1
  obtain ⟨filled, entered, framed, there, captures, emissions, -, -⟩ :=
    @gives_frame (.ofLevel functions bare (level + 1)) stage state known [] opened stands apart
  let named : Machine := { entered with
    world := entered.world.put stage.activation (.activation ⟨none, filled, some layout⟩) }
  have standing : named.world.Has context (.context state) := there.context.put_other apart
  let below : Context := { state with
    blocks := blocksBelow layout base.program.blocks state.blocks }
  let extended : Machine := { named with
    world := named.world.put stage.context (.context below) }
  have lasting : extended.world.Has stage.context (.context below) := World.put_has standing.1
  have laidOut : extended.world.Has stage.activation (.activation ⟨none, filled, some layout⟩) :=
    (World.put_has there.activation.1).put_other apart.symm
  obtain ⟨after, given, wrote, -⟩ := written extended (captures.trans outside) lasting
  refine ⟨after, ?_, wrote.since emissions⟩
  have noLayout : (layout? stage).Gives (.ofLevel functions bare (level + 1)) entered none entered := by
    change EStateM.Result.ok (findLayout entered.world (stage.activation + 1) stage.activation) _ = _
    simp only [findLayout, activation?, there.activation.2]
  have withLayout : (layout? stage).Gives (.ofLevel functions bare (level + 1)) extended
      (some layout) extended := by
    change EStateM.Result.ok (findLayout extended.world (stage.activation + 1) stage.activation) _ = _
    simp only [findLayout, activation?, laidOut.2]
  have known : (templateNamed (.text layout)).Gives (.ofLevel functions bare (level + 1)) entered
      (layout, base) entered := by
    have lookup : (Setting.ofLevel functions bare (level + 1)).templates.lookup layout = some base :=
      found
    apply gives_bind rfl
    rw [lookup]
    exact gives_pure _
  have extends_ : (extend stage (.text layout)).Gives (.ofLevel functions bare (level + 1)) entered
      () extended := by
    apply gives_bind known
    apply gives_bind gives_world
    simp only [activation?, there.activation.2]
    apply gives_bind (gives_put _ _)
    apply gives_bind (gives_cell _)
    rw [standing.2]
    exact gives_put _ _
  have step : (runSteps stage [.extending false (.constant (.text layout))]).Gives
      (.ofLevel functions bare (level + 1)) entered () extended := by
    have once : (extendOnce stage false (evaluate stage (.constant (.text layout)))).Gives
        (.ofLevel functions bare (level + 1)) entered () extended := by
      apply gives_bind noLayout
      exact gives_bind rfl extends_
    exact gives_bind once (gives_pure ())
  have run : (runTemplate entry context).Gives (.ofLevel functions bare (level + 1)) before () after := by
    unfold runTemplate
    simp only [program, Bool.false_eq_true, if_false]
    apply gives_bind (gives_allocate _)
    apply gives_bind gives_height
    apply gives_bind framed
    apply gives_bind step
    apply gives_bind withLayout
    have lookup : (Setting.ofLevel functions bare (level + 1)).templates.lookup layout = some base :=
      found
    apply gives_bind rfl
    rw [lookup]
    exact given
  exact run

end Layouts

end Run

end PageTemplates
