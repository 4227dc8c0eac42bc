import Mathlib.Data.List.Induction
import Mathlib.Data.List.Nodup
import PageTemplates.FunctionTable
import PageTemplates.Proofs.Data.Keys
import PageTemplates.Proofs.Entries
import PageTemplates.Proofs.Results
import PageTemplates.Proofs.Text.Order

/-!
Function tables over any run of registrations. What is registered first under a name stays, and whatever is
turned away leaves the table as it was; so a table holds, for each name, the function and the signature of its
first valid registration. A mapping is registered as a whole or not at all.
-/

namespace PageTemplates

namespace FunctionTable

/-- What a call registers where its name is free: a function under a name. -/
def valid? : Data × Candidate → Option (Text × Function)
  | (name, .function function) => (functionName? name).map fun known => (known, function)
  | _ => none

/-- Why a call is turned away. A name that is none comes before one that is taken, and both come before what
is offered. -/
inductive Refused (table : FunctionTable) : Data × Candidate → Problem → Prop where
  | unnamed {name : Data} {offered : Candidate} {shown : Text} (noName : functionName? name = none)
    (told : name.printed = .ok shown) :
    Refused table (name, offered)
      (.fault (.functionInvalid (.text shown) (.text "name must be a valid identifier")))
  /-- What is given for a name is none, and cannot be printed. -/
  | unprintable {name : Data} {offered : Candidate} {failure : Failure}
    (noName : functionName? name = none) (told : name.printed = .error failure) :
    Refused table (name, offered) (.failure failure)
  | taken {name : Data} {offered : Candidate} {known : Text} (named : functionName? name = some known)
    (there : table.contains known = true) :
    Refused table (name, offered)
      (.fault (.functionInvalid name (.text "name is already registered")))
  | notCallable {name data : Data} {known : Text} (named : functionName? name = some known)
    (free : table.contains known = false) :
    Refused table (name, .data data)
      (.fault (.functionInvalid name
        (.text ("expected a callable, got " ++ Text.ofString data.className))))
  | unreadable {name : Data} {known reason : Text} (named : functionName? name = some known)
    (free : table.contains known = false) :
    Refused table (name, .unreadable reason)
      (.fault (.functionInvalid name (.text ("signature is not introspectable: " ++ reason))))

/-- What is turned away ends in a fault of registration, unless what is given for a name is none and cannot be
printed. -/
theorem refused_problem {table : FunctionTable} {call : Data × Candidate} {problem : Problem}
    (refused : Refused table call problem) :
    (∃ fault, problem = .fault fault ∧ fault.kind = .functionInvalid) ∨
      ∃ failure, problem = .failure failure ∧ functionName? call.1 = none ∧
        call.1.printed = .error failure := by
  cases refused with
  | unprintable noName told => exact .inr ⟨_, rfl, noName, told⟩
  | unnamed | taken | notCallable | unreadable => exact .inl ⟨_, rfl, rfl⟩

/-- A table with one more function, which comes last. -/
def added (table : FunctionTable) (entry : Text × Function) : FunctionTable :=
  ⟨table.entries ++ [entry], table.signatures ++ [(entry.1, entry.2.signature)]⟩

/-- The table after a call. One that is turned away leaves the table as it was. -/
def attempt (table : FunctionTable) (call : Data × Candidate) : FunctionTable :=
  match table.register call.1 call.2 with
  | .ok next => next
  | .error _ => table

/-- The table after calls, one after another, on one without functions. -/
def after (calls : List (Data × Candidate)) : FunctionTable := calls.foldl attempt empty

/-- How a call ends: a valid one under a free name adds its function, and any other is turned away. -/
theorem register_outcome (table : FunctionTable) (call : Data × Candidate) :
    (∃ entry, valid? call = some entry ∧ table.contains entry.1 = false ∧
      table.register call.1 call.2 = .ok (table.added entry)) ∨
    (∃ problem, (∀ entry, valid? call = some entry → table.contains entry.1 = true) ∧
      Refused table call problem ∧ table.register call.1 call.2 = .error problem) := by
  obtain ⟨name, offered⟩ := call
  cases named : functionName? name with
  | none =>
      have noEntry : ∀ entry, valid? (name, offered) = some entry → table.contains entry.1 = true := by
        intro entry found
        cases offered <;> simp [valid?, named] at found
      right
      cases told : name.printed with
      | ok shown => exact ⟨_, noEntry, .unnamed named told, by simp [register, named, told, invalid]⟩
      | error failure =>
          exact ⟨_, noEntry, .unprintable named told, by simp [register, named, told]⟩
  | some known =>
      cases there : table.contains known with
      | true =>
          right
          refine ⟨_, fun entry found => ?_, .taken named there, by simp [register, named, there, invalid]⟩
          cases offered with
          | function function =>
              simp only [valid?, named, Option.map_some, Option.some.injEq] at found
              exact found ▸ there
          | unreadable | data => cases found
      | false =>
          cases offered with
          | function function =>
              left
              exact ⟨(known, function), by simp [valid?, named], there,
                by simp [register, named, there, added]⟩
          | unreadable reason =>
              right
              exact ⟨_, nofun, .unreadable named there, by simp [register, named, there, invalid]⟩
          | data data =>
              right
              exact ⟨_, nofun, .notCallable named there, by simp [register, named, there, invalid]⟩

/-- What a table holds of valid registrations in order: the first of each name. -/
structure Keeps (table : FunctionTable) (valid : List (Text × Function)) : Prop where
  functions : ∀ name, table.get? name = valid.lookup name
  signatures : ∀ name, table.signature? name = (valid.lookup name).map Function.signature
  registered : table.registered = (valid.map Prod.fst).eraseDups

theorem contains_of_keeps {table : FunctionTable} {valid : List (Text × Function)}
    (keeps : table.Keeps valid) (name : Text) :
    table.contains name = true ↔ name ∈ valid.map Prod.fst := by
  rw [contains, keeps.functions, Entries.lookup_is_some]

theorem keeps_added {table : FunctionTable} {valid : List (Text × Function)} {entry : Text × Function}
    (keeps : table.Keeps valid) (free : table.contains entry.1 = false) :
    (table.added entry).Keeps (valid ++ [entry]) where
  functions name := by
    have found := keeps.functions name
    rw [get?] at found
    rw [get?, added, List.lookup_append, List.lookup_append, found]
  signatures name := by
    have found := keeps.signatures name
    rw [signature?] at found
    rw [signature?, added, List.lookup_append, List.lookup_append, found]
    cases valid.lookup name with
    | some function => rfl
    | none =>
        obtain ⟨known, function⟩ := entry
        simp only [Option.map_none, Option.none_or, Entries.lookup_first]
        split <;> rfl
  registered := by
    have fresh : entry.1 ∉ valid.map Prod.fst := by
      rw [← contains_of_keeps keeps, free]
      exact Bool.false_ne_true
    have before := keeps.registered
    rw [registered] at before
    have alone : ((List.map Prod.fst [entry]).removeAll (valid.map Prod.fst)).eraseDups = [entry.1] := by
      simp only [List.removeAll, List.map_cons, List.map_nil, List.filter_cons, List.filter_nil]
      rw [if_pos (by simpa using fresh)]
      rfl
    rw [registered, added, List.map_append, before, List.map_append, List.eraseDups_append, alone]
    rfl

theorem keeps_taken {table : FunctionTable} {valid : List (Text × Function)} {entry : Text × Function}
    (keeps : table.Keeps valid) (taken : table.contains entry.1 = true) :
    table.Keeps (valid ++ [entry]) := by
  have there := (contains_of_keeps keeps entry.1).mp taken
  have same (name : Text) : (valid ++ [entry]).lookup name = valid.lookup name := by
    rw [List.lookup_append, Entries.lookup_first]
    by_cases here : name = entry.1
    · obtain ⟨function, found⟩ := Option.isSome_iff_exists.mp (Entries.lookup_is_some.mpr there)
      rw [here, found, Option.some_or]
    · rw [if_neg here, List.lookup_nil, Option.or_none]
  constructor
  · intro name
    rw [keeps.functions, same]
  · intro name
    rw [keeps.signatures, same]
  · rw [keeps.registered, List.map_append, List.eraseDups_append]
    simp [List.removeAll, there]

/-- What one call preserves: a table that keeps the first of each name keeps them with what the call
registers. -/
theorem keeps_attempt {table : FunctionTable} {valid : List (Text × Function)}
    (keeps : table.Keeps valid) (call : Data × Candidate) :
    (table.attempt call).Keeps (valid ++ (valid? call).toList) := by
  rcases table.register_outcome call with ⟨entry, isValid, free, done⟩ | ⟨problem, taken, -, done⟩
  · rw [attempt, done, isValid]
    exact keeps_added keeps free
  · rw [attempt, done]
    cases found : valid? call with
    | none => simpa using keeps
    | some entry => exact keeps_taken keeps (taken entry found)

theorem after_concat (calls : List (Data × Candidate)) (call : Data × Candidate) :
    after (calls ++ [call]) = (after calls).attempt call := by
  rw [after, List.foldl_append]
  rfl

theorem keeps_after (calls : List (Data × Candidate)) :
    (after calls).Keeps (calls.filterMap valid?) := by
  induction calls using List.reverseRecOn with
  | nil => exact ⟨fun _ => rfl, fun _ => rfl, rfl⟩
  | append_singleton calls call ih =>
      rw [after_concat, List.filterMap_append, List.filterMap_cons, List.filterMap_nil]
      have step := keeps_attempt ih call
      cases found : valid? call with
      | none => rwa [found] at step
      | some entry => rwa [found] at step

/-- What a table comes to after calls: its functions, signatures and names are those of the first valid
registrations, the names in their order and, listed, sorted. -/
structure FirstCome (calls : List (Data × Candidate)) (table : FunctionTable) : Prop where
  functions : ∀ name, table.get? name = (calls.filterMap valid?).lookup name
  signatures : ∀ name,
    table.signature? name = ((calls.filterMap valid?).lookup name).map Function.signature
  described : ∀ name, (table.signature? name).isSome = table.contains name
  registered : table.registered = ((calls.filterMap valid?).map Prod.fst).eraseDups
  listed : ∀ name, name ∈ table.names ↔ table.contains name = true
  sorted : table.names.Pairwise fun one other => Text.precedes one other = true

theorem eraseDups_nodup (names : List Text) : names.eraseDups.Nodup := by
  induction names using List.reverseRecOn with
  | nil => exact List.nodup_nil
  | append_singleton names name ih =>
      rw [List.eraseDups_append]
      by_cases there : name ∈ names
      · simpa [List.removeAll, there] using ih
      · have alone : ([name].removeAll names).eraseDups = [name] := by
          simp only [List.removeAll, List.filter_cons, List.filter_nil]
          rw [if_pos (by simpa using there)]
          rfl
        rw [alone]
        refine ih.append (List.nodup_singleton name) ?_
        rw [List.disjoint_singleton]
        simpa using there

theorem first_come_of_keeps {calls : List (Data × Candidate)} {table : FunctionTable}
    (keeps : table.Keeps (calls.filterMap valid?)) : FirstCome calls table where
  functions := keeps.functions
  signatures := keeps.signatures
  described name := by
    rw [keeps.signatures, contains, keeps.functions, Option.isSome_map]
  registered := keeps.registered
  listed name := by
    rw [names, Text.mem_sorted, keeps.registered, List.mem_eraseDups, contains_of_keeps keeps]
  sorted := by
    rw [names, keeps.registered]
    exact Text.sorted_increasing (eraseDups_nodup _)

/-- Entries of a mapping: no two keys are equal. -/
def Distinct (entries : List (Data × Candidate)) : Prop :=
  entries.Pairwise fun one other => one.1.equals other.1 = false

/-- A mapping is registered as a whole, with its entries in order, if all of them are valid, and otherwise the
first that is not is turned away as it is by a table without functions. -/
structure AllOrNothing (entries : List (Data × Candidate)) : Prop where
  succeeds : (∃ table, ofList entries = .ok table) ↔ ∀ entry ∈ entries, (valid? entry).isSome
  whole : ∀ table, ofList entries = .ok table →
    table.entries = entries.filterMap valid? ∧
      table.signatures = table.entries.map fun (name, function) => (name, function.signature)
  nothing : ∀ before wrong behind, entries = before ++ wrong :: behind →
    (∀ entry ∈ before, (valid? entry).isSome) → valid? wrong = none →
    ∃ problem, ofList entries = .error problem ∧ Refused empty wrong problem

theorem text_of_name {data : Data} {name : Text} (named : functionName? data = some name) :
    data.text? = some name := by
  cases data with
  | text value | markup value =>
      rw [functionName?] at named
      split at named
      · exact named
      · cases named
  | _ => cases named

/-- The key of a valid entry is the name that it is registered under. -/
theorem name_of_valid {call : Data × Candidate} {entry : Text × Function}
    (isValid : valid? call = some entry) : functionName? call.1 = some entry.1 := by
  obtain ⟨name, offered⟩ := call
  cases offered with
  | function function =>
      obtain ⟨known, named, rfl⟩ := Option.map_eq_some_iff.mp isValid
      exact named
  | unreadable | data => cases isValid

/-- Among distinct entries, the name of the last one is not that of an earlier one. -/
theorem name_fresh {entries : List (Data × Candidate)} {last : Data × Candidate} {name : Text}
    (distinct : Distinct (entries ++ [last])) (named : functionName? last.1 = some name) :
    name ∉ (entries.filterMap valid?).map Prod.fst := by
  intro there
  obtain ⟨entry, among, rfl⟩ := List.mem_map.mp there
  obtain ⟨call, inside, isValid⟩ := List.mem_filterMap.mp among
  have apart := (List.pairwise_append.mp distinct).2.2 call inside last (List.mem_singleton_self _)
  have same := Data.equals_texts (text_of_name (name_of_valid isValid)) (text_of_name named)
  rw [same, decide_eq_true rfl] at apart
  cases apart

theorem free_of_fresh {entries : List (Data × Candidate)} {name : Text}
    (fresh : name ∉ (entries.filterMap valid?).map Prod.fst) :
    (after entries).contains name = false := by
  rw [Bool.eq_false_iff, Ne, contains_of_keeps (keeps_after entries)]
  exact fresh

theorem ofList_concat (entries : List (Data × Candidate)) (last : Data × Candidate) :
    ofList (entries ++ [last]) = ofList entries >>= fun table => table.register last.1 last.2 := by
  rw [ofList, List.foldlM_append]
  exact congrArg _ (funext fun table => bind_pure _)

/-- Distinct valid entries are registered one by one, each behind the others. -/
theorem ofList_valid {entries : List (Data × Candidate)} (distinct : Distinct entries)
    (valid : ∀ entry ∈ entries, (valid? entry).isSome) :
    ofList entries = .ok (after entries) ∧ (after entries).entries = entries.filterMap valid? ∧
      (after entries).signatures =
        (after entries).entries.map fun (name, function) => (name, function.signature) := by
  induction entries using List.reverseRecOn with
  | nil => exact ⟨rfl, rfl, rfl⟩
  | append_singleton entries last ih =>
      obtain ⟨done, held, described⟩ := ih (List.pairwise_append.mp distinct).1
        fun entry inside => valid entry (List.mem_append_left _ inside)
      obtain ⟨entry, isValid⟩ := Option.isSome_iff_exists.mp
        (valid last (List.mem_append_right _ (List.mem_singleton_self _)))
      have free := free_of_fresh (name_fresh distinct (name_of_valid isValid))
      have registers : (after entries).register last.1 last.2 = .ok ((after entries).added entry) := by
        rcases register_outcome (after entries) last with ⟨other, same, -, done⟩ | ⟨-, taken, -⟩
        · rw [isValid] at same
          cases same
          exact done
        · rw [taken entry isValid] at free
          cases free
      have next : after (entries ++ [last]) = (after entries).added entry := by
        rw [after_concat, attempt, registers]
      rw [ofList_concat, done, next, List.filterMap_append, List.filterMap_cons, isValid]
      refine ⟨registers, ?_, ?_⟩
      · rw [added, held]
        rfl
      · rw [added, described, List.map_append]
        rfl

/-- An entry that is not valid is turned away wherever its name is free as where there are no functions. -/
theorem refused_alone {table : FunctionTable} {wrong : Data × Candidate}
    (isWrong : valid? wrong = none)
    (free : ∀ name, functionName? wrong.1 = some name → table.contains name = false) :
    ∃ problem, table.register wrong.1 wrong.2 = .error problem ∧ Refused empty wrong problem := by
  rcases register_outcome table wrong with ⟨entry, isValid, -⟩ | ⟨problem, -, refused, done⟩
  · rw [isWrong] at isValid
    cases isValid
  · refine ⟨problem, done, ?_⟩
    cases refused with
    | unnamed noName told => exact .unnamed noName told
    | unprintable noName told => exact .unprintable noName told
    | taken named there =>
        rw [free _ named] at there
        cases there
    | notCallable named _ => exact .notCallable named rfl
    | unreadable named _ => exact .unreadable named rfl

theorem ofList_wrong {before behind : List (Data × Candidate)} {wrong : Data × Candidate}
    (distinct : Distinct (before ++ wrong :: behind))
    (valid : ∀ entry ∈ before, (valid? entry).isSome) (isWrong : valid? wrong = none) :
    ∃ problem, ofList (before ++ wrong :: behind) = .error problem ∧
      Refused empty wrong problem := by
  have parts : before ++ wrong :: behind = before ++ [wrong] ++ behind := by simp
  rw [parts] at distinct
  have upTo : Distinct (before ++ [wrong]) := (List.pairwise_append.mp distinct).1
  obtain ⟨done, -⟩ := ofList_valid (List.pairwise_append.mp upTo).1 valid
  obtain ⟨problem, turned, refused⟩ := refused_alone isWrong fun name named =>
    free_of_fresh (name_fresh upTo named)
  refine ⟨problem, ?_, refused⟩
  have stopped : ofList (before ++ [wrong]) = .error problem := by
    rw [ofList_concat, done]
    exact turned
  rw [ofList] at stopped
  rw [parts, ofList, List.foldlM_append, stopped]
  rfl

theorem all_or_nothing {entries : List (Data × Candidate)} (distinct : Distinct entries) :
    AllOrNothing entries := by
  have nothing : ∀ before wrong behind, entries = before ++ wrong :: behind →
      (∀ entry ∈ before, (valid? entry).isSome) → valid? wrong = none →
      ∃ problem, ofList entries = .error problem ∧ Refused empty wrong problem := by
    rintro before wrong behind rfl valid isWrong
    exact ofList_wrong distinct valid isWrong
  have only : ∀ table, ofList entries = .ok table → ∀ entry ∈ entries, (valid? entry).isSome := by
    intro table done
    by_contra invalid
    push Not at invalid
    obtain ⟨wrong, inside, isWrong⟩ := invalid
    have some_wrong : (entries.find? fun entry => (valid? entry).isNone).isSome :=
      List.find?_isSome.mpr ⟨wrong, inside, by simpa using isWrong⟩
    obtain ⟨first, found⟩ := Option.isSome_iff_exists.mp some_wrong
    obtain ⟨isFirst, before, behind, split, earlier⟩ := List.find?_eq_some_iff_append.mp found
    obtain ⟨problem, failed, -⟩ := nothing before first behind split
      (fun entry among => by simpa using earlier entry among) (by simpa using isFirst)
    rw [done] at failed
    cases failed
  refine ⟨⟨fun ⟨table, done⟩ => only table done, fun valid => ⟨_, (ofList_valid distinct valid).1⟩⟩,
    fun table done => ?_, nothing⟩
  obtain ⟨whole, held, described⟩ := ofList_valid distinct (only table done)
  rw [done] at whole
  cases whole
  exact ⟨held, described⟩

/-- Whatever is registered, a table holds what came first under each name. The next call adds its function
at the end or is turned away, which leaves the table as it was and ends in a fault of registration unless what
is given for a name is none and cannot be printed. A mapping is registered as a whole or not at all. -/
theorem append_only (calls : List (Data × Candidate)) (call : Data × Candidate)
    {entries : List (Data × Candidate)} (distinct : Distinct entries) :
    FirstCome calls (after calls) ∧
      ((∃ entry, valid? call = some entry ∧ (after calls).contains entry.1 = false ∧
          (after calls).register call.1 call.2 = .ok ((after calls).added entry) ∧
          after (calls ++ [call]) = (after calls).added entry) ∨
        (∃ problem, (∀ entry, valid? call = some entry → (after calls).contains entry.1 = true) ∧
          (after calls).register call.1 call.2 = .error problem ∧
          after (calls ++ [call]) = after calls ∧ Refused (after calls) call problem ∧
          ((∃ fault, problem = .fault fault ∧ fault.kind = .functionInvalid) ∨
            ∃ failure, problem = .failure failure ∧ functionName? call.1 = none ∧
              call.1.printed = .error failure))) ∧
      AllOrNothing entries := by
  refine ⟨first_come_of_keeps (keeps_after calls), ?_, all_or_nothing distinct⟩
  rcases register_outcome (after calls) call with ⟨entry, isValid, free, done⟩ |
    ⟨problem, taken, refused, done⟩
  · exact .inl ⟨entry, isValid, free, done, by rw [after_concat, attempt, done]⟩
  · exact .inr ⟨problem, taken, done, by rw [after_concat, attempt, done], refused,
      refused_problem refused⟩

/-- A function without parameters that gives nothing. -/
def idle : Function := ⟨"idle", [], fun _ => return .none⟩

/-- Calls of which the third and the last two are turned away: for a name that is none, for one that is taken,
and for what cannot be called. -/
def fewCalls : List (Data × Candidate) :=
  [(.text "seq", .function idle), (.markup "add", .function idle), (.text "class", .function idle),
    (.text "seq", .function idle), (.text "sub", .data (.int 1))]

theorem append_only_after_few_calls :
    Distinct (fewCalls.drop 3) ∧ (after fewCalls).registered = ["seq", "add"] ∧
      (after fewCalls).names.Pairwise (fun one other => Text.precedes one other = true) ∧
      ∃ problem, ofList (fewCalls.drop 3) = .error problem ∧
        Refused empty (.text "sub", .data (.int 1)) problem := by
  have distinct : Distinct (fewCalls.drop 3) := by
    simp [fewCalls, Distinct, Data.equals, Data.equalScalars, Data.magnitude?, Data.text?, Text.ofString,
      Text.ofChars]
  obtain ⟨first, -, mapping⟩ := append_only fewCalls (.none, .function idle) distinct
  have valid : (valid? (.text "seq", .function idle)).isSome = true := by decide +kernel
  refine ⟨distinct, ?_, first.sorted, ?_⟩
  · rw [first.registered]
    decide +kernel
  · refine mapping.nothing [(.text "seq", .function idle)] _ [] rfl ?_ rfl
    exact List.forall_mem_singleton.mpr valid

end FunctionTable

end PageTemplates
