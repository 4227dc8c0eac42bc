import PageTemplates.Proofs.Configuration.Sound
import PageTemplates.Proofs.Results

/-!
Merging one mapping into another. The only cells that change are those that merging meets: the cell of the
mapping itself, and the cells below it where both sides have a mapping under one key. If each of them
stands in one place only, and none lies within what is merged, then the values at the paths of the result
are those that were merged, and those that were there before at the paths that what was merged says
nothing about.
-/

namespace PageTemplates.Configuration

section

variable {size : Nat}

theorem mergeEntry_fit {deeper : Nat → Nat → Cells → Except Failure Cells}
    (each : ∀ source target cells after, AllFit size cells → deeper source target cells = .ok after →
      AllFit size after ∧ after.size = cells.size)
    {target : Nat} {key : Data} {value : Tree} {cells after : Cells} (all : AllFit size cells)
    (known : key.IsKey) (fits : value.Fits size)
    (merged : mergeEntry deeper target key value cells = .ok after) :
    AllFit size after ∧ after.size = cells.size := by
  unfold mergeEntry at merged
  split at merged
  · exact each _ _ _ _ all merged
  · cases merged
    exact ⟨allFit_put all known fits target, size_put _ _⟩

theorem mergeEntries_fit {deeper : Nat → Nat → Cells → Except Failure Cells}
    (each : ∀ source target cells after, AllFit size cells → deeper source target cells = .ok after →
      AllFit size after ∧ after.size = cells.size)
    {source target count : Nat} (left : Nat) {cells after : Cells} (all : AllFit size cells)
    (merged : mergeEntries deeper source target count left cells = .ok after) :
    AllFit size after ∧ after.size = cells.size := by
  induction left generalizing cells with
  | zero =>
      rw [mergeEntries] at merged
      split at merged
      · cases merged
        exact ⟨all, rfl⟩
      · cases merged
  | succ left ih =>
      rw [mergeEntries] at merged
      split at merged
      · split at merged
        · rename_i key value here
          obtain ⟨next, first, later⟩ := Results.bind_ok.mp merged
          have member := List.mem_of_getElem? here
          obtain ⟨next_all, same⟩ := mergeEntry_fit each all ((all source).1.keys _ member)
            ((all source).2 _ member) first
          obtain ⟨last_all, also⟩ := ih next_all later
          exact ⟨last_all, also.trans same⟩
        · cases merged
          exact ⟨all, rfl⟩
      · cases merged

/-- Merging keeps the cells sound, tangled or not. -/
theorem mergeCell_fit (bound source target : Nat) (cells : Cells) {after : Cells}
    (all : AllFit size cells) (merged : mergeCell bound source target cells = .ok after) :
    AllFit size after ∧ after.size = cells.size := by
  induction bound generalizing source target cells after with
  | zero => cases merged
  | succ bound ih =>
      exact mergeEntries_fit (fun source target cells after all merged =>
        ih source target cells all merged) _ all merged

end

/-- The cells that change when entries are merged into a mapping. -/
inductive Met (cells : Cells) : (rest : Entries) → (target : Nat) → Nat → Prop where
  | here (rest : Entries) (target : Nat) : Met cells rest target target
  | deeper {rest : Entries} {target new old number : Nat} {key : Data}
      (given : rest.get? key = some (.mapping new))
      (known : (cells.entries target).get? key = some (.mapping old))
      (met : Met cells (cells.entries new) old number) : Met cells rest target number

/-- Entries of a mapping can be merged into another: none of the cells that change lies within the
mapping they come from, and each of them stands in one place. -/
structure Ready (cells : Cells) (source : Nat) (rest : Entries) (target : Nat) : Prop where
  proper : ∀ number, (cells.entries number).Proper
  distinct : rest.Proper
  part : ∀ entry ∈ rest, entry ∈ cells.entries source
  present : ∀ number, Met cells rest target number → number < cells.size
  outside : ∀ number, Met cells rest target number → ¬(Tree.mapping source).Reach cells number
  apart : ∀ number, Met cells rest target number → ∀ one other,
    (Tree.mapping target).part? cells one = some (.mapping number) →
    (Tree.mapping target).part? cells other = some (.mapping number) → one = other

/-- What merging entries into a mapping leads to. -/
structure Merged (cells after : Cells) (rest : Entries) (target : Nat) : Prop where
  size : after.size = cells.size
  proper : ∀ number, (after.entries number).Proper
  frame : ∀ number, ¬Met cells rest target number → after.entries number = cells.entries number
  others : ∀ key, (∀ entry ∈ rest, entry.1.equals key = false) →
    (after.entries target).get? key = (cells.entries target).get? key
  places : ∀ place number, (Tree.mapping target).part? after place = some (.mapping number) →
    (Tree.mapping target).part? cells place = some (.mapping number) ∨
      ∃ entry ∈ rest, entry.2.Reach cells number
  has : ∀ key path value, (Tree.mapping target).Has after (key :: path) value ↔
    (∃ given, rest.get? key = some given ∧ given.Has cells path value) ∨
      ((Tree.mapping target).Has cells (key :: path) value ∧
        ∀ given, rest.get? key = some given → given.Silent cells path)

section

variable {cells after : Cells} {rest : Entries} {source target number : Nat} {key : Data} {value : Tree}

theorem place_of_met (met : Met cells rest target number) :
    ∃ place, (Tree.mapping target).part? cells place = some (.mapping number) := by
  induction met with
  | here rest target => exact ⟨[], rfl⟩
  | deeper _ known _ ih =>
      obtain ⟨place, below⟩ := ih
      obtain ⟨first, other, here, _⟩ := Entries.place_of_get known
      exact ⟨first :: place, by rw [Tree.part_of_entry here, below]⟩

theorem met_of_agree (each : ∀ entry ∈ rest, entry.2.Agree cells after)
    (agree : (Tree.mapping target).Agree cells after) (met : Met after rest target number) :
    Met cells rest target number := by
  induction met with
  | here rest target => exact .here rest target
  | @deeper rest target new old number key given known _ ih =>
      rw [agree target (.here target)] at known
      obtain ⟨other, member, _⟩ := Entries.mem_of_get given
      have source : (Tree.mapping new).Agree cells after := each _ member
      rw [source new (.here new)] at ih
      refine .deeper given known (ih (fun entry inside => ?_) (Tree.agree_value agree known))
      exact Tree.agree_part source (List.mem_map_of_mem inside)

theorem met_of_first (met : Met cells [(key, value)] target number) :
    Met cells ((key, value) :: rest) target number := by
  cases met with
  | here => exact .here _ _
  | deeper given known below =>
      refine .deeper ?_ known below
      rw [Entries.get_cons] at given ⊢
      split at given
      · rename_i same
        rw [if_pos same]
        exact given
      · cases given

theorem met_of_later (distinct : Entries.Proper ((key, value) :: rest))
    (met : Met cells rest target number) : Met cells ((key, value) :: rest) target number := by
  cases met with
  | here => exact .here _ _
  | deeper given known below =>
      have differs := Entries.differs_of_later distinct given
      exact .deeper (by rw [Entries.get_cons, differs]; exact given) known below

namespace Ready

theorem reach_part (ready : Ready cells source rest target) {entry : Data × Tree}
    (member : entry ∈ rest) (reach : entry.2.Reach cells number) :
    (Tree.mapping source).Reach cells number :=
  Tree.reach_of_entry (ready.part entry member) reach

/-- The mapping itself does not lie within its own entries. -/
theorem not_within (ready : Ready cells source rest target) {place : Nat} {other : Data} {inner : Tree}
    (here : (cells.entries target)[place]? = some (other, inner)) : ¬inner.Reach cells target := by
  intro reach
  obtain ⟨below, stands⟩ := Tree.place_of_reach reach
  have clash := ready.apart target (.here _ _) [] (place :: below) rfl
    (by rw [Tree.part_of_entry here, stands])
  cases clash

/-- What other keys lead to is out of reach of the changes that merging one entry makes. -/
theorem other_untouched (ready : Ready cells source ((key, value) :: rest) target) {asked : Data}
    {found : Tree} (differs : key.equals asked = false)
    (known : (cells.entries target).get? asked = some found)
    (met : Met cells [(key, value)] target number) : ¬found.Reach cells number := by
  intro reach
  obtain ⟨place, below⟩ := Tree.place_of_reach reach
  obtain ⟨first, other, here, same⟩ := Entries.place_of_get known
  have stands : (Tree.mapping target).part? cells (first :: place) = some (.mapping number) := by
    rw [Tree.part_of_entry here, below]
  have once := ready.apart number (met_of_first met)
  cases met with
  | here =>
      have clash := once [] (first :: place) rfl stands
      cases clash
  | @deeper _ _ new old _ inner given old_known deep =>
      obtain ⟨second, under⟩ := place_of_met deep
      obtain ⟨start, further, there, alike⟩ := Entries.place_of_get old_known
      have clash := once (start :: second) (first :: place)
        (by rw [Tree.part_of_entry there, under]) stands
      cases clash
      -- The same place, so the same key, which equals both the entry's and the one asked for.
      rw [here] at there
      cases there
      have fit := (Entries.proper_cons.mp ready.distinct).1
      have inside := (ready.proper target).keys _ (List.mem_of_getElem? here)
      rw [Entries.get_cons] at given
      split at given
      · rename_i equal
        have back := Data.equals_symm _ _ inside alike
        have toOther := Data.equals_trans _ _ _ fit equal back
        have toAsked := Data.equals_trans _ _ _ fit toOther same
        rw [differs] at toAsked
        cases toAsked
      · cases given

theorem other_agree (ready : Ready cells source ((key, value) :: rest) target)
    (first : Merged cells after [(key, value)] target) {asked : Data} {found : Tree}
    (differs : key.equals asked = false) (known : (cells.entries target).get? asked = some found) :
    found.Agree cells after :=
  fun number reach => first.frame number fun met => ready.other_untouched differs known met reach

theorem source_agree (ready : Ready cells source ((key, value) :: rest) target)
    (first : Merged cells after [(key, value)] target) :
    (Tree.mapping source).Agree cells after :=
  fun number reach => first.frame number fun met => ready.outside number (met_of_first met) reach

theorem part_agree (ready : Ready cells source ((key, value) :: rest) target)
    (first : Merged cells after [(key, value)] target) {entry : Data × Tree}
    (member : entry ∈ (key, value) :: rest) : entry.2.Agree cells after :=
  Tree.agree_part (ready.source_agree first) (List.mem_map_of_mem (ready.part entry member))

/-- The cells that the later entries change are the same after the first entry was merged. -/
theorem met_before (ready : Ready cells source ((key, value) :: rest) target)
    (first : Merged cells after [(key, value)] target) (met : Met after rest target number) :
    Met cells rest target number := by
  cases met with
  | here => exact .here _ _
  | @deeper _ _ new old _ inner given known deep =>
      have differs := Entries.differs_of_later ready.distinct given
      rw [first.others inner (List.forall_mem_singleton.mpr differs)] at known
      obtain ⟨other, member, _⟩ := Entries.mem_of_get given
      have source := ready.part_agree first (List.mem_cons_of_mem _ member)
      rw [source new (.here new)] at deep
      refine .deeper given known (met_of_agree (fun entry inside => ?_)
        (ready.other_agree first differs known) deep)
      exact Tree.agree_part source (List.mem_map_of_mem inside)

theorem next (ready : Ready cells source ((key, value) :: rest) target)
    (first : Merged cells after [(key, value)] target) : Ready after source rest target where
  proper := first.proper
  distinct := (Entries.proper_cons.mp ready.distinct).2.2
  part entry member := by
    rw [ready.source_agree first source (.here source)]
    exact ready.part entry (List.mem_cons_of_mem _ member)
  present number met := by
    rw [first.size]
    exact ready.present number (met_of_later ready.distinct (ready.met_before first met))
  outside number met reach := by
    have before := met_of_later ready.distinct (ready.met_before first met)
    exact ready.outside number before ((Tree.agree_reach (ready.source_agree first)).mp reach)
  apart number met one other here there := by
    have before := met_of_later ready.distinct (ready.met_before first met)
    -- What stood nowhere in the mapping before came from the source, where no such cell lies.
    have kept : ∀ place, (Tree.mapping target).part? after place = some (.mapping number) →
        (Tree.mapping target).part? cells place = some (.mapping number) := by
      intro place stands
      rcases first.places place number stands with old | ⟨entry, member, reach⟩
      · exact old
      · rw [List.mem_singleton] at member
        subst member
        exact (ready.outside number before (ready.reach_part List.mem_cons_self reach)).elim
    exact ready.apart number before one other (kept one here) (kept other there)

end Ready

namespace Merged

/-- Nothing to merge changes nothing. -/
theorem none (proper : ∀ number, (cells.entries number).Proper) : Merged cells cells [] target where
  size := rfl
  proper := proper
  frame _ _ := rfl
  others _ _ := rfl
  places _ _ stands := .inl stands
  has key path value := by simp [Entries.get?]

/-- Merging entries is merging the first and then the others. -/
theorem cons {last : Cells} (ready : Ready cells source ((key, value) :: rest) target)
    (first : Merged cells after [(key, value)] target) (later : Merged after last rest target) :
    Merged cells last ((key, value) :: rest) target where
  size := later.size.trans first.size
  proper := later.proper
  frame number untouched := by
    rw [later.frame number fun met => untouched
        (met_of_later ready.distinct (ready.met_before first met)),
      first.frame number fun met => untouched (met_of_first met)]
  others asked differs := by
    obtain ⟨one, others⟩ := List.forall_mem_cons.mp differs
    rw [later.others asked others, first.others asked (List.forall_mem_singleton.mpr one)]
  places place number stands := by
    rcases later.places place number stands with before | ⟨entry, member, reach⟩
    · rcases first.places place number before with old | ⟨entry, member, reach⟩
      · exact .inl old
      · exact .inr ⟨entry, List.mem_cons.mpr (.inl (List.mem_singleton.mp member)), reach⟩
    · have inside := List.mem_cons_of_mem (key, value) member
      exact .inr ⟨entry, inside, (Tree.agree_reach (ready.part_agree first inside)).mp reach⟩
  has asked path found := by
    rw [later.has, first.has]
    have given_agree : ∀ given, rest.get? asked = some given → given.Agree cells after := by
      intro given known
      obtain ⟨other, member, _⟩ := Entries.mem_of_get known
      exact ready.part_agree first (List.mem_cons_of_mem _ member)
    have given_has : (∃ given, rest.get? asked = some given ∧ given.Has after path found) ↔
        ∃ given, rest.get? asked = some given ∧ given.Has cells path found :=
      exists_congr fun given => and_congr_right fun known =>
        Tree.agree_has (given_agree given known) path found
    have given_silent : (∀ given, rest.get? asked = some given → given.Silent after path) ↔
        ∀ given, rest.get? asked = some given → given.Silent cells path :=
      forall_congr' fun given => imp_congr_right fun known =>
        Tree.agree_silent (given_agree given known) path
    rw [given_has, given_silent, Entries.get_cons, Entries.get_cons, Entries.get?]
    by_cases same : key.equals asked = true
    · -- No later entry has an equal key.
      have none_later : rest.get? asked = .none := by
        cases known : rest.get? asked with
        | none => rfl
        | some given =>
            rw [Entries.differs_of_later ready.distinct known] at same
            cases same
      simp [same, none_later]
    · simp [same]

/-- A value takes the place of the one that its key has, unless both are mappings. -/
theorem put (ready : Ready cells source ((key, value) :: rest) target)
    (replaces : ∀ old new, (cells.entries target).get? key = some (.mapping old) →
      value ≠ .mapping new) :
    Merged cells (cells.put target key value) [(key, value)] target := by
  have fit := (Entries.proper_cons.mp ready.distinct).1
  have keys := (ready.proper target).keys
  have changed : (cells.put target key value).entries target = (cells.entries target).put key value :=
    entries_put key value (ready.present target (.here _ _))
  have elsewhere : ∀ number, number ≠ target →
      (cells.put target key value).entries number = cells.entries number :=
    fun number other => entries_put_other key value other
  have agree : ∀ tree : Tree, ¬tree.Reach cells target →
      tree.Agree cells (cells.put target key value) := by
    intro tree apart number reach
    refine elsewhere number fun same => apart ?_
    rwa [← same]
  have given_agree : value.Agree cells (cells.put target key value) :=
    agree value fun reach => ready.outside target (.here _ _)
      (ready.reach_part List.mem_cons_self reach)
  have inner_agree : ∀ (place : Nat) (other : Data) (inner : Tree),
      (cells.entries target)[place]? = some (other, inner) → inner.Agree cells (cells.put target key value) :=
    fun place other inner here => agree inner (ready.not_within here)
  refine ⟨size_put key value, fun number => ?_, fun number untouched => ?_, fun asked differs => ?_,
    fun place number stands => ?_, fun asked path found => ?_⟩
  · by_cases same : number = target
    · rw [same, changed]
      exact Entries.put_proper fit value (ready.proper target)
    · rw [elsewhere number same]
      exact ready.proper number
  · refine elsewhere number fun same => untouched ?_
    rw [same]
    exact .here _ _
  · have apart : key.equals asked = false := differs _ (List.mem_singleton_self _)
    rw [changed, Entries.get_put fit value keys, apart]
    rfl
  · cases place with
    | nil => exact .inl stands
    | cons first place =>
        obtain ⟨other, inner, here, below⟩ := Tree.entry_of_part stands
        rw [changed] at here
        rcases Entries.place_of_put (ready.proper target) here with rfl | ⟨before, _⟩
        · rw [Tree.agree_places given_agree] at below
          have reach := Tree.reach_of_place below (.here number)
          exact .inr ⟨_, List.mem_singleton_self _, reach⟩
        · rw [Tree.agree_places (inner_agree first other inner before)] at below
          exact .inl (by rw [Tree.part_of_entry before, below])
  · rw [Tree.has_mapping, Tree.has_mapping, changed, Entries.get_cons, Entries.get?,
      Entries.get_put fit value keys]
    by_cases same : key.equals asked = true
    · simp only [same, if_true, Option.some.injEq, exists_eq_left', forall_eq',
        Tree.agree_has given_agree, iff_self_or, and_imp, forall_exists_index]
      -- A path on which the new value is silent leads through a mapping, as the old one would.
      intro inner known has silent
      rw [Entries.get_of_equal fit same keys] at known
      cases path with
      | nil => exact silent.elim
      | cons second path =>
          cases value with
          | mapping new =>
              cases inner with
              | mapping old => exact (replaces old new known rfl).elim
              | _ => exact (Tree.not_has_below rfl _ _ _ has).elim
          | _ => exact silent.elim
    · simp only [same, if_false, reduceCtorEq, false_and, exists_false, false_or, IsEmpty.forall_iff,
        implies_true, and_true]
      refine exists_congr fun inner => and_congr_right fun known => ?_
      obtain ⟨place, other, here, _⟩ := Entries.place_of_get known
      exact Tree.agree_has (inner_agree place other inner here) path found

/-- A mapping is merged into the one that its key has. -/
theorem deeper {new old : Nat} (ready : Ready cells source ((key, .mapping new) :: rest) target)
    (known : (cells.entries target).get? key = some (.mapping old))
    (below : Merged cells after (cells.entries new) old) :
    Merged cells after [(key, .mapping new)] target := by
  have fit := (Entries.proper_cons.mp ready.distinct).1
  have keys := (ready.proper target).keys
  obtain ⟨place_old, other_old, here_old, _⟩ := Entries.place_of_get known
  have met_first : ∀ {number}, Met cells (cells.entries new) old number →
      Met cells [(key, .mapping new)] target number := by
    intro number met
    have same := Entries.equals_self_of_get fit keys known
    exact .deeper (by rw [Entries.get_cons, if_pos same]) known met
  have unchanged : after.entries target = cells.entries target := by
    refine below.frame target fun met => ?_
    obtain ⟨place, stands⟩ := place_of_met met
    exact ready.not_within here_old (Tree.reach_of_place stands (.here target))
  -- Entries in other places lead to no cell that changes, for it would stand in two places.
  have inner_agree : ∀ (place : Nat) (other : Data) (inner : Tree),
      (cells.entries target)[place]? = some (other, inner) → place ≠ place_old →
      inner.Agree cells after := by
    intro place other inner here apart number reach
    refine below.frame number fun met => apart ?_
    obtain ⟨under, stands⟩ := place_of_met met
    obtain ⟨within, also⟩ := Tree.place_of_reach reach
    have once := ready.apart number (met_of_first (met_first met)) (place :: within)
      (place_old :: under) (by rw [Tree.part_of_entry here, also])
      (by rw [Tree.part_of_entry here_old, stands])
    exact (List.cons.inj once).1
  refine ⟨below.size, below.proper, fun number untouched => ?_, fun asked _ => by rw [unchanged],
    fun place number stands => ?_, fun asked path found => ?_⟩
  · exact below.frame number fun met => untouched (met_first met)
  · cases place with
    | nil => exact .inl stands
    | cons first place =>
        obtain ⟨other, inner, here, under⟩ := Tree.entry_of_part stands
        rw [unchanged] at here
        by_cases same : first = place_old
        · subst same
          rw [here_old] at here
          cases here
          rcases below.places place number under with before | ⟨entry, member, reach⟩
          · exact .inl (by rw [Tree.part_of_entry here_old, before])
          · exact .inr ⟨_, List.mem_singleton_self _, Tree.reach_of_entry member reach⟩
        · rw [Tree.agree_places (inner_agree first other inner here same)] at under
          exact .inl (by rw [Tree.part_of_entry here, under])
  · rw [Tree.has_mapping, Tree.has_mapping, unchanged, Entries.get_cons, Entries.get?]
    by_cases same : key.equals asked = true
    · rw [Entries.get_of_equal fit same keys, known]
      simp only [same, if_true, Option.some.injEq, exists_eq_left', forall_eq']
      cases path with
      | nil => simp [Tree.not_has_here, Tree.Silent]
      | cons second path => rw [below.has, Tree.has_mapping, Tree.has_mapping, Tree.Silent]
    · simp only [same, if_false, reduceCtorEq, false_and, exists_false, false_or, IsEmpty.forall_iff,
        implies_true, and_true]
      refine exists_congr fun inner => and_congr_right fun found_inner => ?_
      refine Tree.agree_has (fun number reach => below.frame number fun met => ?_) path found
      exact ready.other_untouched (Bool.eq_false_iff.mpr same) found_inner (met_first met) reach

end Merged

end

/-- Mappings lie at most so deep within one another. -/
def Shallow (cells : Cells) : (bound : Nat) → (number : Nat) → Prop
  | 0, _ => False
  | bound + 1, number =>
    ∀ key inner, (key, .mapping inner) ∈ cells.entries number → Shallow cells bound inner

theorem shallow_of_agree {cells after : Cells} {bound number : Nat}
    (agree : (Tree.mapping number).Agree cells after) (shallow : Shallow cells bound number) :
    Shallow after bound number := by
  induction bound generalizing number with
  | zero => exact shallow
  | succ bound ih =>
      intro key inner member
      rw [agree number (.here number)] at member
      exact ih (Tree.agree_part agree (List.mem_map_of_mem member)) (shallow key inner member)

/-- Merging does what it should, or gives up on mappings that lie too deep. -/
def Outcome (cells : Cells) (rest : Entries) (target : Nat) (result : Except Failure Cells)
    (shallow : Prop) : Prop :=
  (∃ after, result = .ok after ∧ Merged cells after rest target) ∨
    (result = .error .tooDeep ∧ ¬shallow)

section

variable {cells : Cells} {rest : Entries} {source target : Nat} {key : Data} {value : Tree}

theorem Ready.deeper {new old : Nat} (ready : Ready cells source ((key, .mapping new) :: rest) target)
    (known : (cells.entries target).get? key = some (.mapping old)) :
    Ready cells new (cells.entries new) old := by
  have fit := (Entries.proper_cons.mp ready.distinct).1
  have met_first : ∀ {number}, Met cells (cells.entries new) old number →
      Met cells ((key, .mapping new) :: rest) target number := by
    intro number met
    have same := Entries.equals_self_of_get fit (ready.proper target).keys known
    exact .deeper (by rw [Entries.get_cons, if_pos same]) known met
  obtain ⟨place, other, here, _⟩ := Entries.place_of_get known
  refine ⟨ready.proper, ready.proper new, fun entry member => member,
    fun number met => ready.present number (met_first met), fun number met reach => ?_,
    fun number met one other stands also => ?_⟩
  · exact ready.outside number (met_first met) (ready.reach_part List.mem_cons_self reach)
  · have once := ready.apart number (met_first met) (place :: one) (place :: other)
      (by rw [Tree.part_of_entry here, stands]) (by rw [Tree.part_of_entry here, also])
    exact (List.cons.inj once).2

theorem mergeEntry_outcome {deeper : Nat → Nat → Cells → Except Failure Cells} {bound : Nat}
    (each : ∀ new old, Ready cells new (cells.entries new) old →
      Outcome cells (cells.entries new) old (deeper new old cells) (Shallow cells bound new))
    (ready : Ready cells source ((key, value) :: rest) target) :
    Outcome cells [(key, value)] target (mergeEntry deeper target key value cells)
      (Shallow cells (bound + 1) source) := by
  unfold mergeEntry
  split
  · rename_i old new known
    rcases each new old (ready.deeper known) with ⟨after, same, below⟩ | ⟨failed, deep⟩
    · exact .inl ⟨after, same, .deeper ready known below⟩
    · refine .inr ⟨failed, fun shallow => deep ?_⟩
      exact shallow key new (ready.part _ List.mem_cons_self)
  · rename_i replaces
    refine .inl ⟨_, rfl, .put ready fun old new known same => ?_⟩
    exact replaces old new known same

/-- The loop over the entries of a mapping: those that are still to come are merged. -/
theorem mergeEntries_outcome {deeper : Nat → Nat → Cells → Except Failure Cells} {bound : Nat}
    (each : ∀ cells new old, Ready cells new (cells.entries new) old →
      Outcome cells (cells.entries new) old (deeper new old cells) (Shallow cells bound new))
    (entries : Entries) (left : Nat) (fits : left ≤ entries.length)
    (same : cells.entries source = entries)
    (ready : Ready cells source (entries.drop (entries.length - left)) target) :
    Outcome cells (entries.drop (entries.length - left)) target
      (mergeEntries deeper source target entries.length left cells)
      (Shallow cells (bound + 1) source) := by
  induction left generalizing cells with
  | zero =>
      have finished : entries.drop (entries.length - 0) = [] := by simp
      rw [finished] at ready ⊢
      exact .inl ⟨cells, by rw [mergeEntries, same, if_pos rfl], .none ready.proper⟩
  | succ left ih =>
      have inside : entries.length - (left + 1) < entries.length := by omega
      have onward : entries.length - (left + 1) + 1 = entries.length - left := by omega
      cases here : entries[entries.length - (left + 1)] with
      | mk key value =>
      rw [List.drop_eq_getElem_cons inside, here, onward] at ready ⊢
      have step : mergeEntries deeper source target entries.length (left + 1) cells =
          (mergeEntry deeper target key value cells).bind
            (mergeEntries deeper source target entries.length left) := by
        rw [mergeEntries, same, if_pos rfl, List.getElem?_eq_getElem inside, here]
      rw [step]
      rcases mergeEntry_outcome (each cells) ready with ⟨next, first, merged⟩ | ⟨failed, deep⟩
      · have kept := ready.source_agree merged
        have onwards := ih (by omega) ((kept source (.here source)).trans same) (ready.next merged)
        rw [first]
        rcases onwards with ⟨after, last, others⟩ | ⟨failed, deep⟩
        · exact .inl ⟨after, last, .cons ready merged others⟩
        · exact .inr ⟨failed, fun shallow => deep (shallow_of_agree kept shallow)⟩
      · exact .inr ⟨by rw [failed]; rfl, deep⟩

/-- Merging one mapping into another. -/
theorem mergeCell_outcome (bound : Nat) (ready : Ready cells source (cells.entries source) target) :
    Outcome cells (cells.entries source) target (mergeCell bound source target cells)
      (Shallow cells bound source) := by
  induction bound generalizing cells source target with
  | zero => exact .inr ⟨rfl, id⟩
  | succ bound ih =>
      have each : ∀ cells new old, Ready cells new (cells.entries new) old →
          Outcome cells (cells.entries new) old (mergeCell bound new old cells)
            (Shallow cells bound new) := fun cells new old ready => ih ready
      have whole := @mergeEntries_outcome cells source target _ _ each (cells.entries source)
        (cells.entries source).length le_rfl rfl
      rw [Nat.sub_self, List.drop_zero] at whole
      exact whole ready

end

end PageTemplates.Configuration
