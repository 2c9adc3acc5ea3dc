/-!
What can go wrong, by cause. The wording of each cause is `message`.
-/

namespace CloudMonitoring

inductive ExportError
  | auth (reason : String)
  | rpc (reason : String)
  | config (reason : String)
  | init (reason : String)
  | unsupportedShape (metric shape : String)
  | shutdown
deriving DecidableEq, Repr

def ExportError.message : ExportError → String
  | .auth reason => "Authentication error: " ++ reason
  | .rpc reason => "RPC error: " ++ reason
  | .config reason => "Configuration error: " ++ reason
  | .init reason => "Initialization error: " ++ reason
  | .unsupportedShape metric shape =>
      "Unsupported metric kind " ++ shape ++ " for metric " ++ metric
  | .shutdown => "Exporter has been shut down"

inductive PushError
  | alreadyShutdown
  | internalFailure (reason : String)
deriving DecidableEq, Repr

def ExportError.toPushError : ExportError → PushError
  | .shutdown => .alreadyShutdown
  | other => .internalFailure other.message

end CloudMonitoring
