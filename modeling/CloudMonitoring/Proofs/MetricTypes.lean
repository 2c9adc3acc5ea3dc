import CloudMonitoring.Proofs.Aggregation
import Mathlib.Data.List.Infix

/-!
Which names have the same metric type. A name that mentions a known domain is a type already, and any
other name is put under the prefix; so two names meet only where the second is the first one with the
prefix written out, and only if the prefix itself makes a type of it.
-/

namespace CloudMonitoring

def Mentions (text : String) : Prop := ∃ domain ∈ knownDomains, domain.toList <:+: text.toList

instance (text : String) : Decidable (Mentions text) :=
  inferInstanceAs (Decidable (∃ domain ∈ knownDomains, domain.toList <:+: text.toList))

theorem mentionsDomain_iff (text : String) : mentionsDomain text.toList = true ↔ Mentions text := by
  simp only [mentionsDomain, List.any_eq_true, Text.occursIn_iff, Mentions]

theorem slash_not_mem_domain : ∀ domain ∈ knownDomains, '/' ∉ domain.toList := by decide

theorem mentions_append_slash (left right : String) :
    Mentions (left ++ "/" ++ right) ↔ Mentions left ∨ Mentions right := by
  -- no domain lies across the slash, for none has one in it
  have apart : ∀ domain ∈ knownDomains, domain.toList <:+: (left ++ "/" ++ right).toList ↔
      domain.toList <:+: left.toList ∨ domain.toList <:+: right.toList := by
    intro domain known
    rw [← Text.infix_append_cons_iff (slash_not_mem_domain domain known)]
    simp
  constructor
  · rintro ⟨domain, known, occurs⟩
    exact ((apart domain known).mp occurs).imp (fun inLeft => ⟨domain, known, inLeft⟩)
      fun inRight => ⟨domain, known, inRight⟩
  · rintro (⟨domain, known, inLeft⟩ | ⟨domain, known, inRight⟩)
    · exact ⟨domain, known, (apart domain known).mpr (.inl inLeft)⟩
    · exact ⟨domain, known, (apart domain known).mpr (.inr inRight)⟩

structure Stripped (metricPrefix base : String) : Prop where
  slashes : ∃ count, metricPrefix.toList = base.toList ++ List.replicate count '/'
  ended : base.toList.getLast? ≠ some '/'

theorem exists_stripped (metricPrefix : String) : ∃ base, Stripped metricPrefix base :=
  ⟨String.ofList (Text.trimEnd '/' metricPrefix.toList),
    by simpa using Text.exists_trimEnd '/' metricPrefix.toList,
    by simpa using Text.getLast?_trimEnd_ne '/' metricPrefix.toList⟩

namespace Stripped

variable {metricPrefix base : String}

theorem trimEnd_eq (stripped : Stripped metricPrefix base) :
    Text.trimEnd '/' metricPrefix.toList = base.toList := by
  obtain ⟨⟨count, whole⟩, ended⟩ := stripped
  rw [whole, Text.trimEnd_append_replicate ended]

theorem mentions_iff (stripped : Stripped metricPrefix base) :
    Mentions base ↔ Mentions metricPrefix := by
  obtain ⟨⟨count, whole⟩, -⟩ := stripped
  refine exists_congr fun domain => and_congr_right fun known => ?_
  rw [whole, Text.infix_append_replicate_iff (slash_not_mem_domain domain known)]

theorem metricType_of_bare (stripped : Stripped metricPrefix base) {name : String}
    (bare : ¬ Mentions name) : metricType metricPrefix name = base ++ "/" ++ name := by
  rw [metricType, if_neg (by rwa [mentionsDomain_iff]), stripped.trimEnd_eq]
  exact String.toList_inj.mp (by simp)

end Stripped

theorem metricType_of_mentions (metricPrefix : String) {name : String} (whole : Mentions name) :
    metricType metricPrefix name = name := by
  rw [metricType, if_pos ((mentionsDomain_iff name).mpr whole)]

/-- The only way for two names to have one type: the other name is the first one put under the
prefix, and the prefix makes it a type already. -/
def Collides (metricPrefix name other : String) : Prop :=
  ¬ Mentions name ∧ Mentions metricPrefix ∧
    ∃ base, Stripped metricPrefix base ∧ other = base ++ "/" ++ name

theorem append_slash_inj {base name other : String}
    (same : base ++ "/" ++ name = base ++ "/" ++ other) : name = other :=
  String.toList_inj.mp (by simpa using congrArg String.toList same)

section

variable {metricPrefix name other : String}

theorem metricType_eq_of_collides (collides : Collides metricPrefix name other) :
    metricType metricPrefix name = metricType metricPrefix other := by
  obtain ⟨bare, inPrefix, base, stripped, rfl⟩ := collides
  have whole : Mentions (base ++ "/" ++ name) :=
    (mentions_append_slash base name).mpr (.inl (stripped.mentions_iff.mpr inPrefix))
  rw [stripped.metricType_of_bare bare, metricType_of_mentions metricPrefix whole]

theorem collides_of_metricType_eq (bare : ¬ Mentions name) (whole : Mentions other)
    (same : metricType metricPrefix name = metricType metricPrefix other) :
    Collides metricPrefix name other := by
  obtain ⟨base, stripped⟩ := exists_stripped metricPrefix
  rw [stripped.metricType_of_bare bare, metricType_of_mentions metricPrefix whole] at same
  -- the domain that the other name mentions is in the prefix, since the first name has none
  rw [← same, mentions_append_slash, or_iff_left bare, stripped.mentions_iff] at whole
  exact ⟨bare, whole, base, stripped, same.symm⟩

theorem metricType_eq_iff (different : name ≠ other) :
    metricType metricPrefix name = metricType metricPrefix other ↔
      Collides metricPrefix name other ∨ Collides metricPrefix other name := by
  constructor
  · intro same
    by_cases whole : Mentions name
    · by_cases wholeToo : Mentions other
      · rw [metricType_of_mentions _ whole, metricType_of_mentions _ wholeToo] at same
        exact absurd same different
      · exact .inr (collides_of_metricType_eq wholeToo whole same.symm)
    · by_cases wholeToo : Mentions other
      · exact .inl (collides_of_metricType_eq whole wholeToo same)
      · obtain ⟨base, stripped⟩ := exists_stripped metricPrefix
        rw [stripped.metricType_of_bare whole, stripped.metricType_of_bare wholeToo] at same
        exact absurd (append_slash_inj same) different
  · rintro (collides | collides)
    · exact metricType_eq_of_collides collides
    · exact (metricType_eq_of_collides collides).symm

theorem metricType_injective (plain : ¬ Mentions metricPrefix) :
    Function.Injective (metricType metricPrefix) := by
  intro name other same
  by_contra different
  rcases (metricType_eq_iff different).mp same with ⟨-, inPrefix, -⟩ | ⟨-, inPrefix, -⟩
  · exact plain inPrefix
  · exact plain inPrefix

theorem mentions_metricType (inPrefix : Mentions metricPrefix) (name : String) :
    Mentions (metricType metricPrefix name) := by
  by_cases whole : Mentions name
  · rwa [metricType_of_mentions metricPrefix whole]
  · obtain ⟨base, stripped⟩ := exists_stripped metricPrefix
    rw [stripped.metricType_of_bare whole, mentions_append_slash, stripped.mentions_iff]
    exact .inl inPrefix

end

/-- Two names have one metric type just when one is the other with the prefix written out and the
prefix mentions a domain. Under any other prefix different metrics have different keys; under such a
one a metric type is its own metric type. -/
theorem metricType_collisions (metricPrefix : String) :
    (∀ name other, name ≠ other →
      (metricType metricPrefix name = metricType metricPrefix other ↔
        Collides metricPrefix name other ∨ Collides metricPrefix other name)) ∧
    (¬ Mentions metricPrefix →
      Function.Injective (metricType metricPrefix) ∧
      ∀ (naming : Naming) (metric other : MetricRecord), naming.metricPrefix = metricPrefix →
        metric.name ≠ other.name → ∀ sample ∈ naming.samplesOf metric,
          ∀ second ∈ naming.samplesOf other, sample.key ≠ second.key) ∧
    (Mentions metricPrefix → ∀ name,
      metricType metricPrefix (metricType metricPrefix name) = metricType metricPrefix name) := by
  refine ⟨fun name other => metricType_eq_iff, ?_, ?_⟩
  · intro plain
    refine ⟨metricType_injective plain, ?_⟩
    rintro naming metric other rfl different sample member second memberToo sameKey
    obtain ⟨-, named, -⟩ := Naming.mem_samplesOf member
    obtain ⟨-, namedToo, -⟩ := Naming.mem_samplesOf memberToo
    have sameType := congrArg SeriesKey.metricType sameKey
    simp only [Sample.key, named, namedToo] at sameType
    exact different (metricType_injective plain sameType)
  · intro inPrefix name
    exact metricType_of_mentions metricPrefix (mentions_metricType inPrefix name)

theorem metricType_collisions_default :
    let naming : Naming := ⟨"custom/", some ⟨"host", []⟩⟩
    let gauge (name : String) : MetricRecord :=
      ⟨name, "", "", [], .longGauge [⟨1, .empty, ⟨10⟩, ⟨10⟩⟩]⟩
    ("load" ≠ "workload.googleapis.com/load" ∧
      metricType defaultPrefix "load" = metricType defaultPrefix "workload.googleapis.com/load" ∧
      (Collides defaultPrefix "load" "workload.googleapis.com/load" ∨
        Collides defaultPrefix "workload.googleapis.com/load" "load")) ∧
    (Mentions defaultPrefix ∧ metricType defaultPrefix (metricType defaultPrefix "load") =
      metricType defaultPrefix "load") ∧
    ¬ Mentions "custom/" ∧ (gauge "load").name ≠ (gauge "delay").name ∧
    ∃ sample ∈ naming.samplesOf (gauge "load"), ∃ second ∈ naming.samplesOf (gauge "delay"),
      sample.key ≠ second.key := by
  intro naming gauge
  have different : "load" ≠ "workload.googleapis.com/load" := by decide
  have same : metricType defaultPrefix "load" =
      metricType defaultPrefix "workload.googleapis.com/load" := by decide +kernel
  have inPrefix : Mentions defaultPrefix := by decide +kernel
  have plain : ¬ Mentions "custom/" := by decide +kernel
  obtain ⟨meet, -, again⟩ := metricType_collisions defaultPrefix
  obtain ⟨-, apart, -⟩ := metricType_collisions "custom/"
  have named : (gauge "load").name ≠ (gauge "delay").name := by decide
  exact ⟨⟨different, same, (meet _ _ different).mp same⟩, ⟨inPrefix, again inPrefix "load"⟩, plain,
    named, _, List.mem_cons_self, _, List.mem_cons_self,
    (apart plain).2 naming (gauge "load") (gauge "delay") rfl named _ List.mem_cons_self _
      List.mem_cons_self⟩

end CloudMonitoring
