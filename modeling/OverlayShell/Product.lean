/-!
# The product

Names under which the shell presents itself.
-/

namespace OverlayShell

namespace Product

def name : String := "DEVTERM"

def version : String := "3.0.2"

def host : String := "devterm.local"

def shortHost : String := "devterm"

def environment : List (String × String) := [
  ("USER", "guest"),
  ("HOME", "~"),
  ("SHELL", "/bin/devterm-sh"),
  ("PATH", "/usr/local/bin:/usr/bin:/bin"),
  ("TERM", "xterm-256color"),
  ("EDITOR", "code"),
  ("NODE_VERSION", "20.10.0"),
  ("NPM_VERSION", "10.2.3")]

def aliases : List (String × String) := [
  ("ll", "ls -la"),
  ("la", "ls -a"),
  ("cls", "clear"),
  ("..", "cd .."),
  ("c", "clear")]

end Product

end OverlayShell
