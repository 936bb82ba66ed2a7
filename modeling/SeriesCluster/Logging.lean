import SeriesCluster.Error
import SeriesCluster.Text.Blank

namespace SeriesCluster

inductive LogFormat
  | json
  | text
  deriving DecidableEq, Repr

namespace LogFormat

def name : LogFormat → String
  | json => "json"
  | text => "text"

def ofText (s : String) : Except Error LogFormat :=
  match Text.lowerAscii (Text.trim s) with
  | "json" => .ok json
  | "text" | "pretty" => .ok text
  | other => .error (.config (.unsupportedLogFormat other))

end LogFormat

inductive LogLevel
  | trace
  | debug
  | info
  | warn
  | error
  deriving DecidableEq, Repr

namespace LogLevel

def name : LogLevel → String
  | trace => "TRACE"
  | debug => "DEBUG"
  | info => "INFO"
  | warn => "WARN"
  | error => "ERROR"

def ofText (s : String) : Except Error LogLevel :=
  match Text.lowerAscii (Text.trim s) with
  | "trace" => .ok trace
  | "debug" => .ok debug
  | "info" => .ok info
  | "warn" => .ok warn
  | "error" => .ok error
  | other => .error (.config (.invalidLogLevel other))

end LogLevel

end SeriesCluster
