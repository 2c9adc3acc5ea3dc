import CloudMonitoring.Export.Call

/-!
Which descriptors are registered before their points are written: all of them on every export, none,
or each metric type once. A type counts as registered only when the service has accepted it, so a
refused one is tried again on the next export.
-/

namespace CloudMonitoring

inductive Strategy
  | always
  | never
  | once (accepted : List String)
deriving DecidableEq, Repr

namespace Strategy

variable {State : Type}

def name : Strategy → String
  | always => "AlwaysSend"
  | never => "NeverSend"
  | once _ => "SendOnce"

def wants : Strategy → Descriptor → Bool
  | always, _ => true
  | never, _ => false
  | once accepted, descriptor => descriptor.metricType ∉ accepted

def remember (descriptor : Descriptor) : Strategy → Strategy
  | once accepted => once (accepted ++ [descriptor.metricType])
  | other => other

def register (strategy : Strategy) :
    List Descriptor → Session Descriptor CallResult State (CallResult × Strategy)
  | [] => return (.ok (), strategy)
  | descriptor :: rest =>
      if strategy.wants descriptor then do
        Session.log .trace "Registering metric descriptor"
          [("metric", .shown descriptor.metricType)]
        match ← Session.ask descriptor with
        | .ok () => (strategy.remember descriptor).register rest
        | .error error => return (.error error, strategy)
      else strategy.register rest

end Strategy

end CloudMonitoring
