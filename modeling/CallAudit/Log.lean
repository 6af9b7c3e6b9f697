import CallAudit.Text.Case

/-!
# Log entries

Entries have a level, and a log shows the entries from a chosen level on.
-/

namespace CallAudit

namespace Log

inductive Level where
  | notset
  | debug
  | info
  | warning
  | error
  | critical
  deriving DecidableEq, Repr

namespace Level

def name : Level → String
  | notset => "NOTSET"
  | debug => "DEBUG"
  | info => "INFO"
  | warning => "WARNING"
  | error => "ERROR"
  | critical => "CRITICAL"

def rank : Level → Nat
  | notset => 0
  | debug => 10
  | info => 20
  | warning => 30
  | error => 40
  | critical => 50

def selectable : List Level := [debug, info, warning, error, critical]

def select? (name : Text) : Option Level :=
  selectable.find? fun level ↦ Text.ofString level.name == name

/-- The level with a given name, in any case; two levels go by a second name. -/
def find? (name : Text) : Option Level :=
  let wanted := name.upper
  if wanted = ("WARN" : Text) then some warning
  else if wanted = ("FATAL" : Text) then some critical
  else (notset :: selectable).find? fun level ↦ Text.ofString level.name == wanted

end Level

structure Entry where
  level : Level
  message : Text
  deriving DecidableEq

def shown (level : Level) (entries : List Entry) : List Entry :=
  entries.filter fun e ↦ decide (level.rank ≤ e.level.rank)

end Log

end CallAudit
