import CloudMonitoring.Platform.Detector
import Mathlib.Data.List.Basic

/-!
A detector detects once. Whatever becomes of the metadata afterwards, it gives the outcome of its first
detection again, an unknown platform included, without looking anything up and without a word in the log.
A detector that detects when it is made differs from one that waits only in when that is.
-/

namespace CloudMonitoring

abbrev MetadataValues := String → Option String

def currentMetadata : Responder String (Option String) MetadataValues :=
  fun values path => (values path, values)

inductive DetectorEvent
  | set (path value : String)
  | unset (path : String)
  | detect
deriving DecidableEq

namespace DetectorEvent

def change (values : MetadataValues) : DetectorEvent → MetadataValues
  | set path value => fun asked => if asked = path then some value else values asked
  | unset path => fun asked => if asked = path then none else values asked
  | detect => values

def valuesAtFirst (values : MetadataValues) (events : List DetectorEvent) : MetadataValues :=
  (events.takeWhile (· ≠ detect)).foldl change values

@[simp] theorem valuesAtFirst_detect (values : MetadataValues) (rest : List DetectorEvent) :
    valuesAtFirst values (detect :: rest) = values := rfl

theorem valuesAtFirst_of_ne {event : DetectorEvent} (different : event ≠ detect)
    (values : MetadataValues) (rest : List DetectorEvent) :
    valuesAtFirst values (event :: rest) = valuesAtFirst (event.change values) rest := by
  simp [valuesAtFirst, different]

theorem valuesAtFirst_unchanged {values : MetadataValues} {events : List DetectorEvent}
    (unchanged : ∀ event ∈ events, event.change values = values) :
    valuesAtFirst values events = values := by
  induction events with
  | nil => rfl
  | cons event rest ih =>
      have kept := unchanged event (by simp)
      have restKept := ih fun other later => unchanged other (List.mem_cons_of_mem event later)
      by_cases detects : event = detect
      · rw [detects, valuesAtFirst_detect]
      · rw [valuesAtFirst_of_ne detects, kept, restKept]

end DetectorEvent

abbrev DetectorCall :=
  Transcript String (Option String) MetadataValues (DetectedPlatform × Detector)

namespace Detector

def calls (detector : Detector) : MetadataValues → List DetectorEvent → List DetectorCall
  | _, [] => []
  | values, .detect :: rest =>
      let call := detector.detect currentMetadata values
      call :: call.result.2.calls call.state rest
  | values, event :: rest => detector.calls (event.change values) rest

theorem calls_of_ne {event : DetectorEvent} (different : event ≠ .detect) (detector : Detector)
    (values : MetadataValues) (rest : List DetectorEvent) :
    detector.calls values (event :: rest) = detector.calls (event.change values) rest := by
  cases event with
  | detect => exact absurd rfl different
  | set path value => rfl
  | unset path => rfl

theorem length_calls (detector : Detector) (values : MetadataValues) (events : List DetectorEvent) :
    (detector.calls values events).length = events.count .detect := by
  induction events generalizing detector values with
  | nil => rfl
  | cons event rest ih => cases event <;> simp [calls, ih]

theorem map_result_calls {detector : Detector} {values : MetadataValues}
    {events : List DetectorEvent} {detected : DetectedPlatform}
    (same : ∀ call ∈ detector.calls values events, call.result.1 = detected) :
    (detector.calls values events).map (·.result.1) =
      List.replicate (events.count .detect) detected := by
  refine List.eq_replicate_iff.mpr ⟨by rw [List.length_map, length_calls], ?_⟩
  intro found member
  obtain ⟨call, listed, rfl⟩ := List.mem_map.mp member
  exact same call listed

theorem detect_waiting (environment : Environment) (values : MetadataValues) :
    (waiting environment).detect currentMetadata values =
      let found := Detection.run environment currentMetadata values
      ⟨(found.result, ⟨environment, some found.result⟩), found.state, found.asked, found.logs⟩ := by
  simp [detect, waiting, bind, Session.andThen, pure, Session.done]

theorem ready_eq (environment : Environment) (values : MetadataValues) :
    ready environment currentMetadata values =
      let found := Detection.run environment currentMetadata values
      ⟨⟨environment, some found.result⟩, found.state, found.asked, found.logs⟩ := by
  simp [ready, detect_waiting, bind, Session.andThen, pure, Session.done]

theorem calls_known {detector : Detector} {detected : DetectedPlatform}
    (known : detector.detected = some detected) (values : MetadataValues)
    (events : List DetectorEvent) :
    ∀ call ∈ detector.calls values events,
      call.result.1 = detected ∧ call.asked = [] ∧ call.logs = [] := by
  induction events generalizing values with
  | nil => simp [calls]
  | cons event rest ih =>
      by_cases detects : event = .detect
      · subst detects
        have told : detector.detect currentMetadata values =
            ⟨(detected, detector), values, [], []⟩ := by simp [detect, known]
        simp only [calls, told]
        intro call member
        rcases List.mem_cons.mp member with rfl | later
        · exact ⟨rfl, rfl, rfl⟩
        · exact ih values call later
      · rw [calls_of_ne detects]
        exact ih _

theorem calls_waiting (environment : Environment) (values : MetadataValues)
    (events : List DetectorEvent) :
    let found := Detection.run environment currentMetadata
      (DetectorEvent.valuesAtFirst values events)
    (.detect ∉ events ∧ (waiting environment).calls values events = []) ∨
      ∃ first later, (waiting environment).calls values events = first :: later ∧
        (first.result.1 = found.result ∧ first.asked = found.asked ∧ first.logs = found.logs) ∧
        ∀ call ∈ later, call.result.1 = found.result ∧ call.asked = [] ∧ call.logs = [] := by
  induction events generalizing values with
  | nil => exact .inl ⟨List.not_mem_nil, rfl⟩
  | cons event rest ih =>
      by_cases detects : event = .detect
      · subst detects
        refine .inr ⟨_, _, rfl, ?_⟩
        rw [detect_waiting]
        exact ⟨⟨rfl, rfl, rfl⟩, calls_known rfl _ _⟩
      · rw [calls_of_ne detects, DetectorEvent.valuesAtFirst_of_ne detects]
        simpa [Ne.symm detects] using ih (event.change values)

/-- All calls of a detector tell one outcome, that of the detection made by the first of them, or when
the detector was made; nothing else looks anything up or logs anything. Where the metadata does not
change, the two detectors give the same answers after the same look-ups. -/
theorem detects_once (environment : Environment) (values : MetadataValues)
    (events : List DetectorEvent) :
    let detection := Detection.run environment currentMetadata
    let first := detection (DetectorEvent.valuesAtFirst values events)
    let waited := (waiting environment).calls values events
    let made := ready environment currentMetadata values
    let prepared := made.result.calls made.state events
    (waited.map (·.result.1) = List.replicate (events.count .detect) first.result ∧
      ∀ call later, waited = call :: later →
        call.asked = first.asked ∧ call.logs = first.logs ∧
        ∀ other ∈ later, other.asked = [] ∧ other.logs = []) ∧
    (prepared.map (·.result.1) =
        List.replicate (events.count .detect) (detection values).result ∧
      made.asked = (detection values).asked ∧ made.logs = (detection values).logs ∧
      ∀ call ∈ prepared, call.asked = [] ∧ call.logs = []) ∧
    ((∀ event ∈ events, event.change values = values) → .detect ∈ events →
      waited.map (·.result.1) = prepared.map (·.result.1) ∧
      waited.flatMap (·.asked) = made.asked ++ prepared.flatMap (·.asked)) := by
  intro detection first waited made prepared
  have lazy : (.detect ∉ events ∧ waited = []) ∨ ∃ call later, waited = call :: later ∧
      (call.result.1 = first.result ∧ call.asked = first.asked ∧ call.logs = first.logs) ∧
      ∀ other ∈ later, other.result.1 = first.result ∧ other.asked = [] ∧ other.logs = [] :=
    calls_waiting environment values events
  have eager : made.asked = (detection values).asked ∧ made.logs = (detection values).logs ∧
      ∀ call ∈ prepared, call.result.1 = (detection values).result ∧
        call.asked = [] ∧ call.logs = [] := by
    simp only [prepared, made, ready_eq]
    exact ⟨rfl, rfl, calls_known rfl _ _⟩
  have waitedAnswers : waited.map (·.result.1) =
      List.replicate (events.count .detect) first.result := by
    apply map_result_calls
    show ∀ call ∈ waited, _
    rcases lazy with ⟨_, none⟩ | ⟨head, later, split, atHead, atLater⟩
    · simp [none]
    · rw [split]
      intro call member
      rcases List.mem_cons.mp member with rfl | listed
      · exact atHead.1
      · exact (atLater call listed).1
  obtain ⟨madeAsked, madeLogs, told⟩ := eager
  have preparedAnswers := map_result_calls fun call member => (told call member).1
  refine ⟨⟨waitedAnswers, ?_⟩, ⟨preparedAnswers, madeAsked, madeLogs, fun call member =>
    (told call member).2⟩, ?_⟩
  · intro call later split
    rcases lazy with ⟨_, none⟩ | ⟨head, others, found, atHead, atLater⟩
    · simp [none] at split
    · rw [found, List.cons.injEq] at split
      obtain ⟨rfl, rfl⟩ := split
      exact ⟨atHead.2.1, atHead.2.2, fun other member => (atLater other member).2⟩
  · intro unchanged detects
    have sameFirst : first = detection values := by
      simp only [first, DetectorEvent.valuesAtFirst_unchanged unchanged]
    refine ⟨by rw [waitedAnswers, sameFirst]; exact preparedAnswers.symm, ?_⟩
    have quiet : prepared.flatMap (·.asked) = [] :=
      List.flatMap_eq_nil_iff.mpr fun call member => (told call member).2.1
    rcases lazy with ⟨noDetect, _⟩ | ⟨head, later, split, atHead, atLater⟩
    · exact absurd detects noDetect
    · have laterQuiet : later.flatMap (·.asked) = [] :=
        List.flatMap_eq_nil_iff.mpr fun call member => (atLater call member).2.1
      rw [split, List.flatMap_cons, laterQuiet, quiet, atHead.2.1, sameFirst, madeAsked]

theorem detects_once_unchanged :
    let environment : Environment := fun _ => none
    let values : MetadataValues := fun path =>
      if path = "project/project-id" then some "my-project" else none
    let events : List DetectorEvent :=
      [.detect, .set "project/project-id" "my-project", .unset "instance/zone", .detect]
    let waited := (waiting environment).calls values events
    let made := ready environment currentMetadata values
    let prepared := made.result.calls made.state events
    (∀ event ∈ events, event.change values = values) ∧ .detect ∈ events ∧
    waited.map (·.result.1) = prepared.map (·.result.1) ∧
    waited.flatMap (·.asked) = made.asked ++ prepared.flatMap (·.asked) ∧
    ((waiting environment).calls (fun _ => none)
      [.detect, .set "project/project-id" "my-project", .detect]).map (·.result.1) =
        [.nothing, .nothing] := by
  intro environment values events waited made prepared
  have unchanged : ∀ event ∈ events, event.change values = values := by
    intro event member
    funext path
    simp only [events, List.mem_cons, List.not_mem_nil, or_false] at member
    rcases member with rfl | rfl | rfl | rfl
    · rfl
    · by_cases asked : path = "project/project-id" <;>
        simp [DetectorEvent.change, values, asked]
    · by_cases asked : path = "instance/zone" <;> simp [DetectorEvent.change, values, asked]
    · rfl
  have detects : DetectorEvent.detect ∈ events := by simp [events]
  obtain ⟨_, _, agree⟩ := detects_once environment values events
  have late := (detects_once environment (fun _ => none)
    [.detect, .set "project/project-id" "my-project", .detect]).1.1
  exact ⟨unchanged, detects, (agree unchanged detects).1, (agree unchanged detects).2, late⟩

end Detector

end CloudMonitoring
