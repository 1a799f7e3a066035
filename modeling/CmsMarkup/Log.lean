/-! Records of what a conversion did, for the reader of its messages. -/

namespace CmsMarkup

inductive Level where
  | debug
  | info
  | warning
  deriving DecidableEq, Repr

def Level.label : Level → String
  | .debug => "DEBUG"
  | .info => "INFO"
  | .warning => "WARNING"

structure LogRecord where
  level : Level
  source : String
  message : String
  deriving DecidableEq, Repr

/-- Records as the terminal shows them. -/
def LogRecord.line (r : LogRecord) : String :=
  r.level.label ++ " " ++ r.source ++ ": " ++ r.message

end CmsMarkup
