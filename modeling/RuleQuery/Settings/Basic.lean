import RuleQuery.Settings.Tree

namespace RuleQuery

structure ServerSettings where
  host : String
  port : Nat
  requestTimeoutSeconds : Nat
deriving DecidableEq

structure EngineSettings where
  maxRecords : Nat
  maxRules : Nat
deriving DecidableEq

structure ObservabilitySettings where
  serviceName : String
  metricsEnabled : Bool
  metricsPort : Nat
  logLevel : String
  jsonLogs : Bool
deriving DecidableEq

structure Settings where
  serviceName : String
  environment : String
  server : ServerSettings
  engine : EngineSettings
  observability : ObservabilitySettings
deriving DecidableEq

namespace Setting

def entry? {α : Type} (s : Setting) (key : String) (absent : α) (read : Setting → Option α) :
    Option α :=
  (s.get? key).elim (some absent) read

end Setting

def ServerSettings.default : ServerSettings := ⟨"0.0.0.0", 8080, 30⟩

def ServerSettings.ofTree? : Setting → Option ServerSettings
  | .table entries => do
    let tree := Setting.table entries
    return {
      host := ← tree.entry? "host" default.host Setting.toText?
      port := ← tree.entry? "port" default.port Setting.toPort?
      requestTimeoutSeconds :=
        ← tree.entry? "request_timeout_seconds" default.requestTimeoutSeconds Setting.toNat? }
  | _ => none

def EngineSettings.default : EngineSettings := ⟨100000, 64⟩

def EngineSettings.ofTree? : Setting → Option EngineSettings
  | .table entries => do
    let tree := Setting.table entries
    return {
      maxRecords := ← tree.entry? "max_records" default.maxRecords Setting.toNat?
      maxRules := ← tree.entry? "max_rules" default.maxRules Setting.toNat? }
  | _ => none

namespace ObservabilitySettings

def default : ObservabilitySettings := ⟨"query-engine", true, 9090, "info", false⟩

def ofTree? : Setting → Option ObservabilitySettings
  | .table entries => do
    let tree := Setting.table entries
    return {
      serviceName := ← tree.entry? "service_name" default.serviceName Setting.toText?
      metricsEnabled := ← tree.entry? "metrics_enabled" default.metricsEnabled Setting.toBool?
      metricsPort := ← tree.entry? "metrics_port" default.metricsPort Setting.toPort?
      logLevel := ← tree.entry? "log_level" default.logLevel Setting.toText?
      jsonLogs := ← tree.entry? "json_logs" default.jsonLogs Setting.toBool? }
  | _ => none

def withServiceName (s : ObservabilitySettings) (name : String) : ObservabilitySettings :=
  { s with serviceName := name }

end ObservabilitySettings

namespace Settings

def default : Settings := ⟨"", "", .default, .default, .default⟩

def ofTree? (tree : Setting) : Option Settings := do
  return {
    serviceName := ← tree.entry? "service_name" default.serviceName Setting.toText?
    environment := ← tree.entry? "environment" default.environment Setting.toText?
    server := ← tree.entry? "server" default.server ServerSettings.ofTree?
    engine := ← tree.entry? "engine" default.engine EngineSettings.ofTree?
    observability :=
      ← tree.entry? "observability" default.observability ObservabilitySettings.ofTree? }

def address (s : Settings) : String := s.server.host ++ ":" ++ toString s.server.port

def isProduction (s : Settings) : Bool := s.environment == "production"

end Settings

end RuleQuery
