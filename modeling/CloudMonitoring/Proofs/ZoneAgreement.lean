import CloudMonitoring.Platform.Detection
import CloudMonitoring.Proofs.Lookups

/-!
The zone and the region of one detection. Both come from the path of the zone, which is looked up twice
in a row, and the server may answer each time as it likes. Because a client gives a value again once it
has it, the two agree as far as the first look-up found anything.
-/

namespace CloudMonitoring

variable {State : Type}

/-- Whether a source that has given a value for a path gives it again when asked next. -/
def Remembers (respond : Responder String (Option String) State) (path : String) : Prop :=
  ∀ state value, (respond state path).1 = some value →
    (respond (respond state path).2 path).1 = some value

open Http (Request Response) in
theorem MetadataClient.remembers_source (network : Responder Request (Option Response) State)
    (path : String) : Remembers (source network) path := by
  rintro ⟨client, state⟩ value given
  cases known : Pairs.get? path client.known with
  | some kept =>
      rw [source_known known] at given ⊢
      rw [source_known known]
      exact given
  | none =>
      rw [source_unknown known] at given ⊢
      have learned : Pairs.get? path (client.learnSome path
          (valueOf path (network state (client.request path)).1)).known = some value := by
        simp only at given
        rw [get?_learnSome, given]
        simp
      rw [source_known learned]

namespace Metadata

variable {respond : Responder String (Option String) State} {state : State}

theorem zone_result : (zone respond state).result = (respond state zonePath).1.map lastSegment := rfl

theorem regionFromZone_result :
    (regionFromZone respond state).result = (zone respond state).result.bind regionOfZone? := rfl

theorem zone_again (remembers : Remembers respond zonePath) {found : String}
    (first : (zone respond state).result = some found) :
    (zone respond (respond state zonePath).2).result = some found := by
  rw [zone_result, Option.map_eq_some_iff] at first ⊢
  obtain ⟨value, given, same⟩ := first
  exact ⟨value, remembers state value given, same⟩

theorem regionFromZone_after_zone (remembers : Remembers respond zonePath) {found : String}
    (first : (zone respond state).result = some found) :
    (regionFromZone respond (zone respond state).state).result = regionOfZone? found := by
  have again : (zone respond (zone respond state).state).result = some found :=
    zone_again remembers first
  rw [regionFromZone_result, again, Option.bind_some]

theorem zone_after_regionFromZone (remembers : Remembers respond zonePath) {found : String}
    (first : (regionFromZone respond state).result = some found) :
    ∃ later, (zone respond (regionFromZone respond state).state).result = some later ∧
      regionOfZone? later = some found := by
  rw [regionFromZone_result, Option.bind_eq_some_iff] at first
  obtain ⟨later, inZone, region⟩ := first
  exact ⟨later, zone_again remembers inZone, region⟩

end Metadata

namespace Detection

def ZoneFirst (platform : Platform) : Prop :=
  platform = .computeEngine ∨ platform = .cloudRun ∨ platform = .cloudFunctions

variable {platform : Platform} {environment : Environment}
  {respond : Responder String (Option String) State} {state : State}

theorem attributes_zoneFirst (zoneFirst : ZoneFirst platform) (environment : Environment)
    (respond : Responder String (Option String) State) (state : State) :
    let attributes := (attributes platform environment respond state).result
    let zone := Metadata.zone respond state
    attributes.get? "availability_zone" = zone.result ∧
      attributes.get? "cloud_region" = (Metadata.regionFromZone respond zone.state).result := by
  rcases zoneFirst with rfl | rfl | rfl
  · simp [attributes, machineAttributes, Dict.get?_insertSome]
  · simp [attributes, serverlessAttributes, Dict.get?_insertSome]
  · simp [attributes, serverlessAttributes, Dict.get?_insertSome]

theorem attributes_regionFirst (flexible : environment "GAE_ENV" ≠ some "standard")
    (respond : Responder String (Option String) State) (state : State) :
    let attributes := (attributes .appEngine environment respond state).result
    let region := Metadata.regionFromZone respond state
    attributes.get? "cloud_region" = region.result ∧
      attributes.get? "availability_zone" = (Metadata.zone respond region.state).result := by
  simp [attributes, appAttributes, flexible, Dict.get?_insertSome]

theorem run_eq (environment : Environment) (respond : Responder String (Option String) State)
    (state : State) :
    (run environment respond state).result = .nothing ∨
      ∃ projectId current, (run environment respond state).result =
        ⟨Platform.classify environment, some projectId,
          (attributes (Platform.classify environment) environment respond current).result⟩ := by
  rw [run, Session.bind_result]
  cases (Metadata.projectId respond state).result with
  | none => exact .inl rfl
  | some projectId =>
      by_cases empty : projectId = ""
      · subst empty
        exact .inl rfl
      · simp only
        exact .inr ⟨projectId, (Metadata.projectId respond state).state, rfl⟩

theorem region_of_zoneFirst (remembers : Remembers respond Metadata.zonePath)
    (zoneFirst : ZoneFirst (run environment respond state).result.platform) {found : String}
    (isZone : (run environment respond state).result.attribute? "availability_zone" = some found) :
    (run environment respond state).result.attribute? "cloud_region" = regionOfZone? found := by
  rcases run_eq environment respond state with nothing | ⟨projectId, current, made⟩
  · rw [nothing] at isZone
    contradiction
  · rw [made] at zoneFirst isZone ⊢
    have looked := attributes_zoneFirst zoneFirst environment respond current
    exact looked.2.trans (Metadata.regionFromZone_after_zone remembers (looked.1.symm.trans isZone))

theorem zone_of_regionFirst (remembers : Remembers respond Metadata.zonePath)
    (onApp : (run environment respond state).result.platform = .appEngine)
    (flexible : environment "GAE_ENV" ≠ some "standard") {found : String}
    (isRegion : (run environment respond state).result.attribute? "cloud_region" = some found) :
    ∃ zone, (run environment respond state).result.attribute? "availability_zone" = some zone ∧
      regionOfZone? zone = some found := by
  rcases run_eq environment respond state with nothing | ⟨projectId, current, made⟩
  · rw [nothing] at isRegion
    contradiction
  · rw [made] at onApp isRegion ⊢
    simp only [DetectedPlatform.attribute?] at onApp isRegion ⊢
    rw [onApp] at isRegion ⊢
    have looked := attributes_regionFirst flexible respond current
    rw [looked.2]
    exact Metadata.zone_after_regionFromZone remembers (looked.1.symm.trans isRegion)

/-- In every detection through a client, whatever the network answers, the zone and the region agree
where both are found, on machines, serverless platforms and the flexible App Engine. Where the zone is
looked up first, its region is missing only if the zone has none; on App Engine, where the region is
looked up first, there is no region without a zone. -/
theorem zone_agrees (environment : Environment)
    (network : Responder Http.Request (Option Http.Response) State) (client : MetadataClient)
    (state : State) :
    let detected := (run environment (MetadataClient.source network) (client, state)).result
    let zone := detected.attribute? "availability_zone"
    let region := detected.attribute? "cloud_region"
    let regionFirst := detected.platform = .appEngine ∧ environment "GAE_ENV" ≠ some "standard"
    (ZoneFirst detected.platform ∨ regionFirst → ∀ found its, zone = some found → region = some its →
      regionOfZone? found = some its) ∧
    (ZoneFirst detected.platform → ∀ found, zone = some found →
      (region.isSome ↔ (regionOfZone? found).isSome)) ∧
    (regionFirst → region.isSome → zone.isSome) := by
  intro detected zone region regionFirst
  have remembers := MetadataClient.remembers_source network Metadata.zonePath
  refine ⟨?_, ?_, ?_⟩
  · rintro (zoneFirst | ⟨onApp, flexible⟩) found its isZone isRegion
    · exact (region_of_zoneFirst remembers zoneFirst isZone).symm.trans isRegion
    · obtain ⟨other, isOther, agrees⟩ := zone_of_regionFirst remembers onApp flexible isRegion
      rw [Option.some.inj (isZone.symm.trans isOther)]
      exact agrees
  · intro zoneFirst found isZone
    have same : region = regionOfZone? found := region_of_zoneFirst remembers zoneFirst isZone
    rw [same]
  · rintro ⟨onApp, flexible⟩ present
    obtain ⟨its, isRegion⟩ := Option.isSome_iff_exists.mp present
    obtain ⟨found, isZone, _⟩ := zone_of_regionFirst remembers onApp flexible isRegion
    exact Option.isSome_iff_exists.mpr ⟨found, isZone⟩

theorem zone_agrees_moving :
    let network : Responder Http.Request (Option Http.Response) (List (Option String)) :=
      fun script _ => (script.head?.join.map fun body =>
        ⟨200, [("metadata-flavor", "Google".toUTF8.toList)], some body⟩, script.tail)
    let detected (environment : Environment) (script : List (Option String)) :=
      (run environment (MetadataClient.source network)
        (.ofUrl MetadataClient.standardUrl, some "my-project" :: script)).result
    let cloud : Environment := fun name => if name = "K_CONFIGURATION" then some "shop" else none
    let app : Environment := fun name => if name = "GAE_SERVICE" then some "shop" else none
    let zones := [some "projects/1/zones/us-central1-a", some "projects/1/zones/europe-west1-b"]
    let zone (one : DetectedPlatform) := one.attribute? "availability_zone"
    let region (one : DetectedPlatform) := one.attribute? "cloud_region"
    let one := detected cloud zones
    let other := detected app zones
    (ZoneFirst one.platform ∧ zone one = some "us-central1-a" ∧ region one = some "us-central1" ∧
      regionOfZone? "us-central1-a" = some "us-central1") ∧
    (other.platform = .appEngine ∧ region other = some "us-central1" ∧ (zone other).isSome) ∧
    (zone (detected cloud (none :: zones)) = none ∧
      region (detected cloud (none :: zones)) = some "us-central1") ∧
    zone (detected app (none :: zones)) = some "us-central1-a" ∧
    region (detected app (none :: zones)) = none := by
  intro network detected cloud app zones zone region one other
  have isCloud : one.platform = .cloudRun := by decide +kernel
  have onCloud : zone one = some "us-central1-a" ∧ region one = some "us-central1" := by
    decide +kernel
  have isApp : other.platform = .appEngine := by decide +kernel
  have onApp : region other = some "us-central1" := by decide +kernel
  have cloudLate : zone (detected cloud (none :: zones)) = none ∧
      region (detected cloud (none :: zones)) = some "us-central1" := by decide +kernel
  have appLate : zone (detected app (none :: zones)) = some "us-central1-a" ∧
      region (detected app (none :: zones)) = none := by decide +kernel
  obtain ⟨agree, _, _⟩ := zone_agrees cloud network (.ofUrl MetadataClient.standardUrl)
    (some "my-project" :: zones)
  obtain ⟨_, _, located⟩ := zone_agrees app network (.ofUrl MetadataClient.standardUrl)
    (some "my-project" :: zones)
  have agrees := agree (.inl (.inr (.inl isCloud))) "us-central1-a" "us-central1" onCloud.1 onCloud.2
  have present : (region other).isSome := Option.isSome_iff_exists.mpr ⟨_, onApp⟩
  have hasZone := located ⟨isApp, by decide⟩ present
  exact ⟨⟨.inr (.inl isCloud), onCloud.1, onCloud.2, agrees⟩, ⟨isApp, onApp, hasZone⟩, cloudLate,
    appLate⟩

end Detection

end CloudMonitoring
