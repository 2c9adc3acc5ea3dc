import CloudMonitoring.Platform.Location

/-!
Locations by their text. Two functions read the dashes of a location: one cuts the region out of a zone,
the other tells a zone from a region. A region has one dash and a zone begins with its region and another
dash, so the two agree on every text, and no region lies in a region.
-/

namespace CloudMonitoring

theorem lastSegment_of_no_slash {value : String} (absent : '/' ∉ value.toList) :
    lastSegment value = value := by
  rw [lastSegment, Text.afterLast_of_no_mark absent, String.ofList_toList]

theorem slash_not_mem_lastSegment (value : String) : '/' ∉ (lastSegment value).toList := by
  simpa [lastSegment] using Text.mark_not_mem_afterLast '/' value.toList

theorem exists_before_lastSegment {value : String} (present : '/' ∈ value.toList) :
    ∃ front, value = front ++ "/" ++ lastSegment value := by
  obtain ⟨front, whole⟩ := Text.exists_before_afterLast present
  refine ⟨String.ofList front, String.toList_inj.mp ?_⟩
  simpa [lastSegment] using whole

/-- A path ends in a segment without a slash, which is the whole path or follows a slash in it. -/
structure EndsIn (path segment : String) : Prop where
  noSlash : '/' ∉ segment.toList
  ends : segment = path ∨ ∃ front, path = front ++ "/" ++ segment

theorem endsIn_lastSegment (path : String) : EndsIn path (lastSegment path) := by
  refine ⟨slash_not_mem_lastSegment path, ?_⟩
  by_cases present : '/' ∈ path.toList
  · exact .inr (exists_before_lastSegment present)
  · exact .inl (lastSegment_of_no_slash present)

theorem EndsIn.eq_lastSegment {path segment : String} (ends : EndsIn path segment) :
    segment = lastSegment path := by
  obtain ⟨noSlash, rfl | ⟨front, rfl⟩⟩ := ends
  · exact (lastSegment_of_no_slash noSlash).symm
  · apply String.toList_inj.mp
    have cut := Text.afterLast_append_mark noSlash front.toList
    simpa [lastSegment] using cut.symm

theorem endsIn_iff (path segment : String) : EndsIn path segment ↔ segment = lastSegment path := by
  constructor
  · exact EndsIn.eq_lastSegment
  · rintro rfl
    exact endsIn_lastSegment path

/-- A zone begins with its region and a dash; the region has a dash of its own. -/
structure LiesIn (zone region : String) : Prop where
  begins : ∃ rest, zone = region ++ "-" ++ rest
  oneDash : region.toList.count '-' = 1

namespace LiesIn

variable {zone region : String}

theorem two_le_count (lies : LiesIn zone region) : 2 ≤ zone.toList.count '-' := by
  obtain ⟨⟨rest, rfl⟩, oneDash⟩ := lies
  simp only [String.toList_append, List.count_append, oneDash]
  have dash : "-".toList.count '-' = 1 := rfl
  omega

theorem exists_parts (lies : LiesIn zone region) : ∃ continent area rest,
    '-' ∉ continent ∧ '-' ∉ area ∧ region.toList = continent ++ '-' :: area ∧
      zone.toList = continent ++ '-' :: (area ++ '-' :: rest) := by
  obtain ⟨⟨rest, rfl⟩, oneDash⟩ := lies
  rcases Text.marks_cases '-' region.toList with
    none | ⟨continent, area, first, second, parts⟩ | ⟨_, _, _, _, _, parts⟩
  · rw [List.count_eq_zero_of_not_mem none] at oneDash
    contradiction
  · exact ⟨continent, area, rest.toList, first, second, parts, by simp [parts]⟩
  · simp only [parts, List.count_append, List.count_cons_self] at oneDash
    omega

end LiesIn

theorem regionOfZone?_of_parts {zone : String} {continent area rest : List Char}
    (first : '-' ∉ continent) (second : '-' ∉ area)
    (parts : zone.toList = continent ++ '-' :: (area ++ '-' :: rest)) :
    regionOfZone? zone = some (String.ofList (continent ++ '-' :: area)) := by
  rw [regionOfZone?, parts, Text.pieces_append_mark first, Text.pieces_append_mark second]
  cases later : Text.pieces '-' rest with
  | nil => exact absurd later (Text.pieces_ne_nil '-' rest)
  | cons piece others => rfl

theorem regionOfZone?_eq_some_iff (zone region : String) :
    regionOfZone? zone = some region ↔ LiesIn zone region := by
  constructor
  · intro found
    rcases Text.marks_cases '-' zone.toList with
      none | ⟨continent, area, first, second, parts⟩ | ⟨continent, area, rest, first, second, parts⟩
    · simp [regionOfZone?, Text.pieces_of_no_mark none] at found
    · simp [regionOfZone?, parts, Text.pieces_append_mark first, Text.pieces_of_no_mark second]
        at found
    · rw [regionOfZone?_of_parts first second parts, Option.some.injEq] at found
      subst found
      refine ⟨⟨String.ofList rest, String.toList_inj.mp (by simpa using parts)⟩, ?_⟩
      simp [List.count_eq_zero_of_not_mem first, List.count_eq_zero_of_not_mem second]
  · intro lies
    obtain ⟨continent, area, rest, first, second, whole, parts⟩ := lies.exists_parts
    rw [regionOfZone?_of_parts first second parts, ← whole, String.ofList_toList]

theorem regionOfZone?_isSome_iff (zone : String) :
    (regionOfZone? zone).isSome ↔ 2 ≤ zone.toList.count '-' := by
  constructor
  · intro present
    obtain ⟨region, found⟩ := Option.isSome_iff_exists.mp present
    exact ((regionOfZone?_eq_some_iff zone region).mp found).two_le_count
  · intro dashes
    rcases Text.marks_cases '-' zone.toList with
      none | ⟨_, _, first, second, parts⟩ | ⟨_, _, _, first, second, parts⟩
    · simp [List.count_eq_zero_of_not_mem none] at dashes
    · simp [parts, List.count_eq_zero_of_not_mem first, List.count_eq_zero_of_not_mem second]
        at dashes
    · simp [regionOfZone?_of_parts first second parts]

theorem regionOfZone?_eq_none_iff (zone : String) :
    regionOfZone? zone = none ↔ zone.toList.count '-' < 2 := by
  rw [← Option.not_isSome_iff_eq_none, regionOfZone?_isSome_iff, Nat.not_le]

namespace LocationKind

theorem text_eq_zone_iff (location : String) :
    (ofLocation location).text = "ZONE" ↔ location.toList.count '-' = 2 := by
  unfold ofLocation
  split <;> simp_all [text]

theorem text_eq_region_iff (location : String) :
    (ofLocation location).text = "REGION" ↔ location.toList.count '-' = 1 := by
  unfold ofLocation
  split <;> simp_all [text]

end LocationKind

/-- A last segment has no slash, and is the whole value or what follows a slash in it. A location has a
region just when it has two dashes or more; the location begins with it, and it is a region by its own
dashes, so it has no region itself. All zones have one and no region has one. -/
theorem location_texts_agree (location : String) :
    ('/' ∉ (lastSegment location).toList ∧
      (lastSegment location = location ∨
        ∃ front, location = front ++ "/" ++ lastSegment location) ∧
      lastSegment (lastSegment location) = lastSegment location) ∧
    ((regionOfZone? location).isSome ↔ 2 ≤ location.toList.count '-') ∧
    (∀ region, regionOfZone? location = some region →
      (∃ rest, location = region ++ "-" ++ rest) ∧ region.toList.count '-' = 1 ∧
      (LocationKind.ofLocation region).text = "REGION" ∧ regionOfZone? region = none) ∧
    ((LocationKind.ofLocation location).text = "ZONE" → (regionOfZone? location).isSome) ∧
    ((LocationKind.ofLocation location).text = "REGION" → regionOfZone? location = none) := by
  have cut := endsIn_lastSegment location
  refine ⟨⟨cut.noSlash, cut.ends, lastSegment_of_no_slash cut.noSlash⟩,
    regionOfZone?_isSome_iff location, ?_, ?_, ?_⟩
  · intro region found
    obtain ⟨begins, oneDash⟩ := (regionOfZone?_eq_some_iff location region).mp found
    refine ⟨begins, oneDash, (LocationKind.text_eq_region_iff region).mpr oneDash, ?_⟩
    rw [regionOfZone?_eq_none_iff, oneDash]
    decide
  · intro zone
    have twoDashes := (LocationKind.text_eq_zone_iff location).mp zone
    exact (regionOfZone?_isSome_iff location).mpr (Nat.le_of_eq twoDashes.symm)
  · intro region
    rw [regionOfZone?_eq_none_iff, (LocationKind.text_eq_region_iff location).mp region]
    decide

theorem location_texts_agree_zone :
    regionOfZone? "us-east1-b" = some "us-east1" ∧
    ((∃ rest, "us-east1-b" = "us-east1" ++ "-" ++ rest) ∧ "us-east1".toList.count '-' = 1 ∧
      (LocationKind.ofLocation "us-east1").text = "REGION" ∧ regionOfZone? "us-east1" = none) ∧
    (LocationKind.ofLocation "us-east1-b").text = "ZONE" ∧ (regionOfZone? "us-east1-b").isSome ∧
    (LocationKind.ofLocation "-").text = "REGION" ∧ regionOfZone? "-" = none := by
  have cut : regionOfZone? "us-east1-b" = some "us-east1" := by decide +kernel
  have zone : (LocationKind.ofLocation "us-east1-b").text = "ZONE" := by decide +kernel
  have region : (LocationKind.ofLocation "-").text = "REGION" := by decide +kernel
  obtain ⟨-, -, parts, zoneCut, -⟩ := location_texts_agree "us-east1-b"
  obtain ⟨-, -, -, -, regionWhole⟩ := location_texts_agree "-"
  exact ⟨cut, parts "us-east1" cut, zone, zoneCut zone, region, regionWhole region⟩

end CloudMonitoring
