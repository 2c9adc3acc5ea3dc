import CloudMonitoring.Resource.Monitored

/-!
How a label is resolved from several attributes. The keys are gone through twice: first for a value
that somebody gave, and then for the name that a service has when nobody gave it one. Such a
placeholder comes after everything else, wherever its key stands, and before the fallback.
-/

namespace CloudMonitoring

def IsFirst (good : String → Prop) (keys : List String) (key : String) : Prop :=
  good key ∧ ∃ before after, keys = before ++ key :: after ∧ ∀ earlier ∈ before, ¬ good earlier

theorem exists_isFirst {good : String → Prop} {keys : List String}
    (found : ∃ key ∈ keys, good key) : ∃ key ∈ keys, IsFirst good keys key := by
  induction keys with
  | nil => simp at found
  | cons head rest ih =>
      by_cases isGood : good head
      · exact ⟨head, by simp, isGood, [], rest, rfl, by simp⟩
      · obtain ⟨key, member, isGoodKey⟩ := found
        have later : key ∈ rest := by
          rcases List.mem_cons.mp member with rfl | later
          · exact absurd isGoodKey isGood
          · exact later
        obtain ⟨first, firstLater, good, before, after, split, noEarlier⟩ := ih ⟨key, later, isGoodKey⟩
        refine ⟨first, List.mem_cons_of_mem _ firstLater, good, head :: before, after, ?_, ?_⟩
        · rw [split, List.cons_append]
        · simpa [isGood] using noEarlier

namespace LabelRule

theorem isPlaceholder_iff (key value : String) :
    isPlaceholder key value = true ↔
      key = "service.name" ∧ ∃ rest, value = "unknown_service" ++ rest := by
  simp only [isPlaceholder, Bool.decide_and, Bool.and_eq_true, decide_eq_true_eq,
    List.isPrefixOf_iff_prefix, and_congr_right_iff]
  rintro -
  constructor
  · rintro ⟨rest, same⟩
    exact ⟨String.ofList rest, String.toList_inj.mp (by simp [← same])⟩
  · rintro ⟨rest, rfl⟩
    exact ⟨rest.toList, by simp⟩

section

variable {attributes : Dict String}

def Given (attributes : Dict String) (key : String) : Prop :=
  ∃ value, attributes.get? key = some value ∧
    ¬ (key = "service.name" ∧ ∃ rest, value = "unknown_service" ++ rest)

theorem firstReal?_cons (key : String) (rest : List String) :
    (Given attributes key → firstReal? attributes (key :: rest) = attributes.get? key) ∧
      (¬ Given attributes key → firstReal? attributes (key :: rest) = firstReal? attributes rest) := by
  simp only [Given, ← isPlaceholder_iff, firstReal?]
  cases found : attributes.get? key with
  | none => simp
  | some value => simp +contextual

theorem firstReal?_of_isFirst {keys : List String} {key : String}
    (first : IsFirst (Given attributes) keys key) :
    firstReal? attributes keys = attributes.get? key := by
  obtain ⟨given, before, after, rfl, notEarlier⟩ := first
  induction before with
  | nil => exact (firstReal?_cons key after).1 given
  | cons head rest ih =>
      obtain ⟨notHead, notRest⟩ := List.forall_mem_cons.mp notEarlier
      exact ((firstReal?_cons head _).2 notHead).trans (ih notRest)

theorem firstReal?_of_none_given {keys : List String}
    (noneGiven : ∀ key ∈ keys, ¬ Given attributes key) : firstReal? attributes keys = none := by
  induction keys with
  | nil => rfl
  | cons head rest ih =>
      obtain ⟨notHead, notRest⟩ := List.forall_mem_cons.mp noneGiven
      exact ((firstReal?_cons head rest).2 notHead).trans (ih notRest)

theorem firstReal?_filter (placeholder : ¬ Given attributes "service.name") (keys : List String) :
    firstReal? attributes (keys.filter (· ≠ "service.name")) = firstReal? attributes keys := by
  induction keys with
  | nil => rfl
  | cons head rest ih =>
      by_cases isName : head = "service.name"
      · subst isName
        rw [List.filter_cons_of_neg (by simp), (firstReal?_cons _ rest).2 placeholder, ih]
      · rw [List.filter_cons_of_pos (by simpa using isName)]
        by_cases given : Given attributes head
        · rw [(firstReal?_cons head _).1 given, (firstReal?_cons head _).1 given]
        · rw [(firstReal?_cons head _).2 given, (firstReal?_cons head _).2 given, ih]

theorem resolve_of_isFirst (rule : LabelRule) {key : String}
    (first : IsFirst (Given attributes) rule.keys key) :
    rule.resolve attributes = attributes.get? key := by
  obtain ⟨value, present, -⟩ := first.1
  simp only [resolve, firstReal?_of_isFirst first, present]

theorem resolve_of_none_given (rule : LabelRule)
    (noneGiven : ∀ key ∈ rule.keys, ¬ Given attributes key) :
    rule.resolve attributes =
      if "service.name" ∈ rule.keys then (attributes.get? "service.name").or rule.fallback
      else rule.fallback := by
  simp only [resolve, firstReal?_of_none_given noneGiven]

theorem given_of_contains {key : String} (present : attributes.contains key)
    (other : key ≠ "service.name") : Given attributes key := by
  obtain ⟨value, found⟩ := Option.isSome_iff_exists.mp present
  exact ⟨value, found, fun placeholder => other placeholder.1⟩

theorem given_iff_of_placeholder {rest : String}
    (placeholder : attributes.get? "service.name" = some ("unknown_service" ++ rest)) (key : String) :
    Given attributes key ↔ key ≠ "service.name" ∧ attributes.contains key := by
  constructor
  · rintro ⟨value, found, notPlaceholder⟩
    refine ⟨?_, by simp [Dict.contains, found]⟩
    rintro rfl
    rw [placeholder, Option.some.injEq] at found
    exact notPlaceholder ⟨rfl, rest, found.symm⟩
  · rintro ⟨other, present⟩
    exact given_of_contains present other

variable {rule : LabelRule}

theorem resolve_of_present (present : ∃ key ∈ rule.keys, attributes.contains key) :
    ∃ key ∈ rule.keys, ∃ value, attributes.get? key = some value ∧
      ∀ fallback, { rule with fallback := fallback }.resolve attributes = some value := by
  by_cases given : ∃ key ∈ rule.keys, Given attributes key
  · obtain ⟨key, member, first⟩ := exists_isFirst given
    obtain ⟨value, found, -⟩ := first.1
    exact ⟨key, member, value, found, fun fallback =>
      (resolve_of_isFirst { rule with fallback := fallback } first).trans found⟩
  · -- nothing is given, so that what is present is the placeholder
    have noneGiven : ∀ key ∈ rule.keys, ¬ Given attributes key := by simpa using given
    obtain ⟨key, member, isPresent⟩ := present
    obtain rfl : key = "service.name" := Decidable.byContradiction fun other =>
      noneGiven key member (given_of_contains isPresent other)
    obtain ⟨value, found⟩ := Option.isSome_iff_exists.mp isPresent
    refine ⟨_, member, value, found, fun fallback => ?_⟩
    rw [resolve_of_none_given { rule with fallback := fallback } noneGiven, if_pos member, found,
      Option.some_or]

theorem resolve_of_none_present (absent : ∀ key ∈ rule.keys, attributes.get? key = none) :
    rule.resolve attributes = rule.fallback := by
  have noneGiven : ∀ key ∈ rule.keys, ¬ Given attributes key := by
    rintro key member ⟨value, found, -⟩
    simp [absent key member] at found
  rw [resolve_of_none_given rule noneGiven]
  split
  · rename_i member
    rw [absent _ member, Option.none_or]
  · rfl

theorem resolve_of_only_placeholder {rest : String} (named : "service.name" ∈ rule.keys)
    (placeholder : attributes.get? "service.name" = some ("unknown_service" ++ rest))
    (absent : ∀ key ∈ rule.keys, key ≠ "service.name" → attributes.get? key = none) :
    rule.resolve attributes = some ("unknown_service" ++ rest) := by
  have noneGiven : ∀ key ∈ rule.keys, ¬ Given attributes key := by
    intro key member given
    obtain ⟨other, present⟩ := (given_iff_of_placeholder placeholder key).mp given
    simp [Dict.contains, absent key member other] at present
  rw [resolve_of_none_given rule noneGiven, if_pos named, placeholder, Option.some_or]

theorem resolve_of_moved {keys : List String} (placeholder : ¬ Given attributes "service.name")
    (named : "service.name" ∈ rule.keys) (namedToo : "service.name" ∈ keys)
    (others : keys.filter (· ≠ "service.name") = rule.keys.filter (· ≠ "service.name")) :
    { rule with keys := keys }.resolve attributes = rule.resolve attributes := by
  have same : firstReal? attributes keys = firstReal? attributes rule.keys := by
    rw [← firstReal?_filter placeholder keys, others, firstReal?_filter placeholder]
  simp only [resolve, same, named, namedToo]

end

/-- A label takes the value of one of its keys whenever one is present, and its fallback has no say
then. The value is the first one given, or else the placeholder, which may stand anywhere among the
other keys. -/
theorem resolve_in_two_passes (rule : LabelRule) (attributes : Dict String) :
    ((∃ key ∈ rule.keys, attributes.contains key) →
      ∃ key ∈ rule.keys, ∃ value, attributes.get? key = some value ∧
        ∀ fallback, { rule with fallback := fallback }.resolve attributes = some value) ∧
    ((∃ key ∈ rule.keys, Given attributes key) →
      ∃ key, IsFirst (Given attributes) rule.keys key ∧
        rule.resolve attributes = attributes.get? key) ∧
    (∀ rest, "service.name" ∈ rule.keys →
      attributes.get? "service.name" = some ("unknown_service" ++ rest) →
      ((∃ key ∈ rule.keys, key ≠ "service.name" ∧ attributes.contains key) →
        ∃ key, IsFirst (fun key => key ≠ "service.name" ∧ attributes.contains key) rule.keys key ∧
          rule.resolve attributes = attributes.get? key) ∧
      ((∀ key ∈ rule.keys, key ≠ "service.name" → attributes.get? key = none) →
        rule.resolve attributes = some ("unknown_service" ++ rest)) ∧
      ∀ keys, "service.name" ∈ keys →
        keys.filter (· ≠ "service.name") = rule.keys.filter (· ≠ "service.name") →
        { rule with keys := keys }.resolve attributes = rule.resolve attributes) ∧
    ((∀ key ∈ rule.keys, attributes.get? key = none) → rule.resolve attributes = rule.fallback) := by
  refine ⟨resolve_of_present, ?_, ?_, resolve_of_none_present⟩
  · intro given
    obtain ⟨key, -, first⟩ := exists_isFirst given
    exact ⟨key, first, resolve_of_isFirst rule first⟩
  · intro rest named placeholder
    have given := given_iff_of_placeholder placeholder
    refine ⟨?_, resolve_of_only_placeholder named placeholder, ?_⟩
    · intro other
      obtain ⟨key, -, first⟩ := exists_isFirst other
      refine ⟨key, first, resolve_of_isFirst rule ?_⟩
      rwa [funext fun key => propext (given key)]
    · intro keys namedToo others
      exact resolve_of_moved (by simp [given]) named namedToo others

theorem resolve_in_two_passes_moved :
    let rule : LabelRule := ⟨"job", ["service.name", "faas.name"], some ""⟩
    let unnamed := Dict.empty.insert "service.name" "unknown_service:java"
    let attributes := unnamed.insert "faas.name" "resize"
    ("service.name" ∈ rule.keys ∧
      attributes.get? "service.name" = some ("unknown_service" ++ ":java")) ∧
    ((∃ key ∈ rule.keys, key ≠ "service.name" ∧ attributes.contains key) ∧
      (∃ key, IsFirst (fun key => key ≠ "service.name" ∧ attributes.contains key) rule.keys key ∧
        rule.resolve attributes = attributes.get? key) ∧
      rule.resolve attributes = some "resize" ∧
      { rule with keys := ["faas.name", "service.name"] }.resolve attributes =
        rule.resolve attributes) ∧
    ((∃ key ∈ rule.keys, Given attributes key) ∧
      ∃ key, IsFirst (Given attributes) rule.keys key ∧
        rule.resolve attributes = attributes.get? key) ∧
    ((∃ key ∈ rule.keys, unnamed.contains key) ∧
      (∃ key ∈ rule.keys, ∃ value, unnamed.get? key = some value ∧
        { rule with fallback := none }.resolve unnamed = some value) ∧
      rule.resolve unnamed = some ("unknown_service" ++ ":java")) ∧
    (∀ key ∈ rule.keys, Dict.empty.get? key = (none : Option String)) ∧
    rule.resolve Dict.empty = some "" := by
  intro rule unnamed attributes
  have named : "service.name" ∈ rule.keys := by decide
  have placeholder : attributes.get? "service.name" = some ("unknown_service" ++ ":java") := by
    decide +kernel
  have other : ∃ key ∈ rule.keys, key ≠ "service.name" ∧ attributes.contains key :=
    ⟨"faas.name", by decide +kernel⟩
  have given : ∃ key ∈ rule.keys, Given attributes key :=
    ⟨"faas.name", by decide, "resize", by decide +kernel, by simp⟩
  have present : ∃ key ∈ rule.keys, unnamed.contains key := ⟨"service.name", by decide +kernel⟩
  have absent : ∀ key ∈ rule.keys, Dict.empty.get? key = (none : Option String) :=
    fun key _ => Dict.get?_empty key
  obtain ⟨-, firstGiven, passes, -⟩ := resolve_in_two_passes rule attributes
  obtain ⟨first, -, moved⟩ := passes ":java" named placeholder
  obtain ⟨presentValue, -, passesUnnamed, -⟩ := resolve_in_two_passes rule unnamed
  obtain ⟨-, onlyPlaceholder, -⟩ := passesUnnamed ":java" named (by decide +kernel)
  obtain ⟨-, -, -, fallback⟩ := resolve_in_two_passes rule Dict.empty
  obtain ⟨key, member, value, found, resolved⟩ := presentValue present
  exact ⟨⟨named, placeholder⟩,
    ⟨other, first other, by decide +kernel, moved _ (by decide) (by decide)⟩,
    ⟨given, firstGiven given⟩,
    ⟨present, ⟨key, member, value, found, resolved none⟩, onlyPlaceholder (by decide +kernel)⟩,
    absent, fallback absent⟩

end LabelRule

end CloudMonitoring
