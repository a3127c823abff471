/-!
# Log records

What a session reports about itself.  A record names its level, the part of the
program that speaks, and the message.
-/

namespace PulseTracker

inductive LogLevel
  | debug
  | info
  | warn
  | error
  deriving DecidableEq, Repr

def LogLevel.label : LogLevel → String
  | .debug => "DEBUG"
  | .info => "INFO"
  | .warn => "WARN"
  | .error => "ERROR"

structure LogRecord where
  level : LogLevel
  target : String
  message : String
  deriving DecidableEq, Repr

end PulseTracker
