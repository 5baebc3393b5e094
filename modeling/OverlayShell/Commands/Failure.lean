/-!
# Failures

How a command fails. A refusal is expected and has a kind; its message is what the user reads. A
break is not expected; the user reads it behind the name of the command.
-/

namespace OverlayShell

inductive RefusalKind where
  | general
  | notFound
  /-- An argument is missing or malformed. -/
  | invalidArgument
  | typeMismatch
  | securityRejection
  deriving DecidableEq

def RefusalKind.name : RefusalKind → String
  | .general => "ShellError"
  | .notFound => "NotFoundError"
  | .invalidArgument => "InvalidArgumentError"
  | .typeMismatch => "TypeMismatchError"
  | .securityRejection => "SecurityRejectionError"

inductive Failure where
  | refused (kind : RefusalKind) (message : String)
  | broken (message : String)
  deriving DecidableEq

/-- The line that the user reads when `command` fails. -/
def Failure.report (command : String) : Failure → String
  | .refused _ message => message
  | .broken message => command ++ ": " ++ message

end OverlayShell
