import Mathlib.Data.List.Basic
import PageTemplates.Proofs.Data.Keys
import PageTemplates.Proofs.Entries
import PageTemplates.Response

/-!
The content type of a response. Where every header has a text for a name, to set the content type
never fails, and afterwards there is one.
-/

namespace PageTemplates

theorem Headers.lookup_file (key : Text) (header : Header) (entries : List (Text × Header)) :
    (file key header entries).lookup key = some header := by
  induction entries with
  | nil => rw [file, Entries.lookup_first, if_pos rfl]
  | cons entry rest ih =>
      obtain ⟨other, old⟩ := entry
      rw [file]
      split
      · rw [Entries.lookup_first, if_pos rfl]
      · rename_i passed
        rw [Entries.lookup_first, if_neg (Ne.symm passed), ih]

namespace HeaderMap

/-- Headers that all have a text for a name. -/
def TextNamed : HeaderMap → Prop
  | .multi _ => True
  | .plain entries => ∀ entry ∈ entries, entry.1.text?.isSome

theorem small_name_of_text {name : Data} {text : Text} (named : name.text? = some text) :
    smallName name = .ok (Text.lower text) := by
  rw [smallName, named]

theorem any_content_type {names : List Data} (texts : ∀ name ∈ names, name.text?.isSome) :
    anyContentType names = .ok (names.any fun name =>
      name.text?.any fun text => Text.lower text = Text.lower contentTypeName) := by
  induction names with
  | nil => rfl
  | cons name rest ih =>
      obtain ⟨text, named⟩ := Option.isSome_iff_exists.mp (texts name List.mem_cons_self)
      have others := ih fun other member => texts other (List.mem_cons_of_mem name member)
      rw [anyContentType, small_name_of_text named]
      simp only [bind, Except.bind]
      by_cases found : Text.lower text = Text.lower contentTypeName
      · simp [found, named]
      · simp [found, named, others]

theorem plain_has_content_type {entries : List (Data × Data)}
    (named : (HeaderMap.plain entries).TextNamed) :
    (HeaderMap.plain entries).hasContentType = .ok (entries.any fun entry =>
      entry.1.text?.any fun text => Text.lower text = Text.lower contentTypeName) := by
  rw [hasContentType, any_content_type]
  · simp [List.any_map, Function.comp_def]
  · intro name member
    obtain ⟨entry, inside, rfl⟩ := List.mem_map.mp member
    exact named entry inside

/-- Whether there is a content type can be told of headers that have texts for names. -/
theorem has_content_type_total {headers : HeaderMap} (named : headers.TextNamed) :
    ∃ isThere, headers.hasContentType = .ok isThere := by
  cases headers with
  | multi headers => exact ⟨_, rfl⟩
  | plain entries => exact ⟨_, plain_has_content_type named⟩

theorem mem_put (key value : Data) (entries : List (Data × Data)) :
    ∃ entry ∈ Data.put key value entries, entry.1 = key ∨ entry.1.equals key := by
  induction entries with
  | nil => exact ⟨(key, value), List.mem_singleton_self _, .inl rfl⟩
  | cons first rest ih =>
      obtain ⟨other, old⟩ := first
      rw [Data.put]
      by_cases same : other.equals key
      · rw [if_pos same]
        exact ⟨(other, value), List.mem_cons_self, .inr same⟩
      · rw [if_neg same]
        obtain ⟨entry, member, found⟩ := ih
        exact ⟨entry, List.mem_cons_of_mem _ member, found⟩

theorem put_keys {key value : Data} {entries : List (Data × Data)} {entry : Data × Data}
    (member : entry ∈ Data.put key value entries) :
    entry.1 = key ∨ ∃ old ∈ entries, entry.1 = old.1 := by
  induction entries with
  | nil =>
      rw [Data.put, List.mem_singleton] at member
      exact .inl (congrArg Prod.fst member)
  | cons first rest ih =>
      obtain ⟨other, old⟩ := first
      rw [Data.put] at member
      split at member
      · rcases List.mem_cons.mp member with here | later
        · refine .inr ⟨(other, old), List.mem_cons_self, ?_⟩
          rw [here]
        · exact .inr ⟨entry, List.mem_cons_of_mem _ later, rfl⟩
      · rcases List.mem_cons.mp member with here | later
        · exact .inr ⟨(other, old), List.mem_cons_self, congrArg Prod.fst here⟩
        · rcases ih later with same | ⟨found, inside, same⟩
          · exact .inl same
          · exact .inr ⟨found, List.mem_cons_of_mem _ inside, same⟩

theorem set_text_named {headers : HeaderMap} (named : headers.TextNamed) (name : Text)
    (value : Data) : (headers.set name value).TextNamed := by
  cases headers with
  | multi headers => trivial
  | plain entries =>
      intro entry member
      rcases put_keys member with same | ⟨old, inside, same⟩
      · rw [same]
        rfl
      · rw [same]
        exact named old inside

theorem has_content_type_set {headers : HeaderMap} (named : headers.TextNamed) (value : Data) :
    (headers.set contentTypeName value).hasContentType = .ok true := by
  have after := set_text_named named contentTypeName value
  cases headers with
  | multi headers =>
      simp only [set, hasContentType, Headers.getAll, Headers.find?, Headers.set,
        Headers.lookup_file]
      rfl
  | plain entries =>
      rw [set, plain_has_content_type after]
      congr 1
      obtain ⟨entry, member, found⟩ := mem_put (.text contentTypeName) value entries
      refine List.any_eq_true.mpr ⟨entry, member, ?_⟩
      obtain ⟨text, holds⟩ := Option.isSome_iff_exists.mp (after entry member)
      rcases found with same | equal
      · rw [same]
        simp [Data.text?]
      · rw [Data.equals_texts holds rfl] at equal
        simp [holds, of_decide_eq_true equal]

/-- To set the content type never fails, and afterwards there is one. -/
theorem write_content_type_ok {headers : HeaderMap} (named : headers.TextNamed) :
    ∃ written, headers.writeContentType = .ok written ∧ written.hasContentType = .ok true := by
  obtain ⟨isThere, told⟩ := has_content_type_total named
  cases isThere with
  | true =>
      refine ⟨headers, ?_, told⟩
      simp [writeContentType, told, bind, Except.bind]
  | false =>
      refine ⟨_, ?_, has_content_type_set named (.text pageContentType)⟩
      simp [writeContentType, told, bind, Except.bind]

end HeaderMap

end PageTemplates
