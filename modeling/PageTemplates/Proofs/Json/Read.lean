import PageTemplates.Json.Read
import PageTemplates.Proofs.Configuration.Sound
import PageTemplates.Proofs.Results

/-!
The data of JSON texts: the names of the members of an object differ from one another.
-/

namespace PageTemplates

namespace Json

/-- The names of the members of an object differ, and the data of the values is proper. -/
def Distinct (members : List (Text × Json)) : Prop :=
  (members.Pairwise fun one other => one.1 ≠ other.1) ∧
    ∀ member ∈ members, (Data.ofJson member.2).Proper

theorem mem_putMember {name : Text} {value : Json} {members : List (Text × Json)}
    {member : Text × Json} (inside : member ∈ putMember name value members) :
    member ∈ members ∨ (member.1 = name ∧ member.2 = value) := by
  induction members with
  | nil =>
      rw [putMember, List.mem_singleton] at inside
      exact .inr (by rw [inside]; exact ⟨rfl, rfl⟩)
  | cons first rest ih =>
      obtain ⟨other, old⟩ := first
      rw [putMember] at inside
      split at inside
      · rename_i same
        rcases List.mem_cons.mp inside with rfl | later
        · exact .inr ⟨same, rfl⟩
        · exact .inl (List.mem_cons_of_mem _ later)
      · rcases List.mem_cons.mp inside with rfl | later
        · exact .inl List.mem_cons_self
        · exact (ih later).imp (List.mem_cons_of_mem _) id

theorem putMember_distinct (name : Text) {value : Json} (proper : (Data.ofJson value).Proper)
    {members : List (Text × Json)} (distinct : Distinct members) :
    Distinct (putMember name value members) := by
  constructor
  · induction members with
    | nil => exact List.pairwise_singleton _ _
    | cons first rest ih =>
        obtain ⟨other, old⟩ := first
        obtain ⟨apart, later⟩ := List.pairwise_cons.mp distinct.1
        have rest_distinct : Distinct rest :=
          ⟨later, fun member inside => distinct.2 member (List.mem_cons_of_mem _ inside)⟩
        rw [putMember]
        split
        · exact .cons apart later
        · rename_i differs
          refine .cons (fun member inside => ?_) (ih rest_distinct)
          rcases mem_putMember inside with kept | ⟨here, _⟩
          · exact apart member kept
          · rw [here]
            exact differs
  · intro member inside
    rcases mem_putMember inside with kept | ⟨_, here⟩
    · exact distinct.2 member kept
    · rw [here]
      exact proper

theorem collectMembers_distinct {members : List (Text × Json)}
    (proper : ∀ member ∈ members, (Data.ofJson member.2).Proper) :
    Distinct (collectMembers members) := by
  have start : Distinct [] := ⟨.nil, nofun⟩
  unfold collectMembers
  generalize ([] : List (Text × Json)) = done at start
  induction members generalizing done with
  | nil => exact start
  | cons first rest ih =>
      obtain ⟨head, rest_proper⟩ := List.forall_mem_cons.mp proper
      exact ih rest_proper _ (putMember_distinct first.1 head start)

theorem ofMembers_eq (members : List (Text × Json)) :
    Data.ofMembers members = members.map fun member => (.text member.1, Data.ofJson member.2) := by
  induction members with
  | nil => rfl
  | cons member members ih =>
      rw [Data.ofMembers, ih]
      rfl

theorem text_equals (one other : Text) :
    (Data.text one).equals (.text other) = decide (one = other) := by
  simp [Data.equals, Data.equalScalars, Data.magnitude?, Data.text?]

theorem object_proper {members : List (Text × Json)} (distinct : Distinct members) :
    (Data.ofJson (.object members)).Proper := by
  rw [Data.ofJson, ofMembers_eq]
  refine .dict (fun entry member => ?_) ?_ fun entry member => ?_
  · obtain ⟨given, _, rfl⟩ := List.mem_map.mp member
    rfl
  · refine List.pairwise_map.mpr (distinct.1.imp fun apart => ?_)
    rw [text_equals]
    exact decide_eq_false apart
  · obtain ⟨given, inside, rfl⟩ := List.mem_map.mp member
    exact distinct.2 given inside

theorem simple_proper {value : Json} (simple : ∀ members, value ≠ .object members) :
    (Data.ofJson value).Proper := by
  cases value with
  | object members => exact (simple members rfl).elim
  | _ => exact .other fun entries => ⟨by rw [Data.ofJson]; nofun, by rw [Data.ofJson]; nofun⟩

theorem readNumber_proper {cursor after : Cursor} {value : Json}
    (read : readNumber cursor = .ok (value, after)) : (Data.ofJson value).Proper := by
  apply simple_proper
  rintro members rfl
  unfold readNumber at read
  dsimp only at read
  split_ifs at read <;> cases read

theorem constant_proper {text : Text} {length : Nat} {value : Json}
    (found : constant? text = some (length, value)) : (Data.ofJson value).Proper := by
  obtain ⟨⟨name, constant⟩, member, matched⟩ := List.exists_of_findSome?_eq_some found
  obtain ⟨_, _, same⟩ := Option.map_eq_some_iff.mp matched
  cases same
  apply simple_proper
  rintro members rfl
  simp [constants] at member

/-- Values, arrays and objects: an object is made of members that were collected. -/
theorem read_proper (bound : Nat) :
    (∀ room cursor value after, readValue room bound cursor = .ok (value, after) →
        (Data.ofJson value).Proper) ∧
      (∀ room cursor done value after, readItems room bound cursor done = .ok (value, after) →
        (Data.ofJson value).Proper) ∧
      ∀ room cursor done value after, (∀ member ∈ done, (Data.ofJson member.2).Proper) →
        readMembers room bound cursor done = .ok (value, after) → (Data.ofJson value).Proper := by
  induction bound with
  | zero =>
      refine ⟨fun room cursor value after read => ?_, fun room cursor done value after read => ?_,
        fun room cursor done value after _ read => ?_⟩
      · cases read
      · cases read
      · cases read
  | succ bound ih =>
      obtain ⟨values, items, members⟩ := ih
      refine ⟨fun room cursor value after read => ?_, fun room cursor done value after read => ?_,
        fun room cursor done value after proper read => ?_⟩
      · rw [readValue] at read
        split at read
        · obtain ⟨⟨content, rest⟩, _, same⟩ := Results.bind_ok.mp read
          cases same
          exact simple_proper nofun
        · split_ifs at read
          dsimp only at read
          split at read
          · cases read
            exact simple_proper nofun
          · exact items _ _ _ _ _ read
        · split_ifs at read
          dsimp only at read
          split at read
          · cases read
            exact object_proper ⟨.nil, nofun⟩
          · exact members _ _ _ _ _ (List.forall_mem_nil _) read
        · split at read
          · rename_i found
            cases read
            exact constant_proper found
          · exact readNumber_proper read
      · rw [readItems] at read
        obtain ⟨⟨item, rest⟩, _, read⟩ := Results.bind_ok.mp read
        dsimp only at read
        split at read
        · cases read
          exact simple_proper nofun
        · exact items _ _ _ _ _ read
        · cases read
      · rw [readMembers] at read
        split at read
        · obtain ⟨⟨name, rest⟩, _, read⟩ := Results.bind_ok.mp read
          dsimp only at read
          split at read
          · obtain ⟨⟨inner, rest⟩, inner_read, read⟩ := Results.bind_ok.mp read
            have inner_proper := values _ _ _ _ inner_read
            have all_proper : ∀ member ∈ (name, inner) :: done, (Data.ofJson member.2).Proper :=
              List.forall_mem_cons.mpr ⟨inner_proper, proper⟩
            dsimp only at read
            split at read
            · cases read
              refine object_proper (collectMembers_distinct fun member inside => ?_)
              exact all_proper member (List.mem_reverse.mp inside)
            · exact members _ _ _ _ _ all_proper read
            · cases read
          · cases read
        · cases read

theorem document_proper {text : Text} {document : Json} (found : Json.read text = .ok document) :
    (Data.ofJson document).Proper := by
  unfold Json.read at found
  split at found
  · cases found
  · obtain ⟨⟨value, after⟩, value_read, found⟩ := Results.bind_ok.mp found
    dsimp only at found
    split at found
    · cases found
      exact (read_proper _).1 _ _ _ _ value_read
    · cases found

end Json

end PageTemplates
