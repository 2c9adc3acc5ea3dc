import CloudMonitoring.Platform.Detection

/-!
A detector keeps the outcome of its first detection for as long as it lives. It detects either when
it is first asked or when it is made.
-/

namespace CloudMonitoring

structure Detector where
  environment : Environment
  detected : Option DetectedPlatform

namespace Detector

variable {State : Type}

def waiting (environment : Environment) : Detector := ⟨environment, none⟩

def detect (detector : Detector) : MetadataSession State (DetectedPlatform × Detector) :=
  match detector.detected with
  | some detected => return (detected, detector)
  | none => do
      let detected ← Detection.run detector.environment
      return (detected, { detector with detected := some detected })

def ready (environment : Environment) : MetadataSession State Detector := do
  let (_, detector) ← (waiting environment).detect
  return detector

end Detector

end CloudMonitoring
