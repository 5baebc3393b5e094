/-!
# Notices

A notice is a line that a part of the program leaves about what it did, with a level that says how
much it matters. Notices are no output; who captures the console gets them.
-/

namespace OverlayShell

inductive Level where
  | debug
  | info
  | warning
  | error
  deriving DecidableEq

namespace Level

def rank : Level → Nat
  | .debug => 10
  | .info => 20
  | .warning => 30
  | .error => 40

end Level

/-- The word under which the console shows a record of `rank`. -/
def rankWord (rank : Int) : String :=
  if rank = 10 then "debug"
  else if rank = 20 then "info"
  else if rank = 30 then "warn"
  else if rank = 40 || rank = 50 then "error"
  else "log"

structure Notice where
  level : Level
  text : String
  deriving DecidableEq

end OverlayShell
