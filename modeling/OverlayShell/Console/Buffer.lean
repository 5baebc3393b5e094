import OverlayShell.Document.Basic

/-!
# The console buffer

The console keeps the latest messages, up to a limit. A message that repeats the one before it is
counted there and takes no place of its own.
-/

namespace OverlayShell

/-- A message, sent `count` times in a row. -/
structure ConsoleMessage where
  kind : String
  content : String
  /-- When it was first sent, in milliseconds. -/
  sentAt : Int
  count : Nat
  deriving DecidableEq

structure ConsoleBuffer where
  limit : Nat
  messages : List ConsoleMessage

namespace ConsoleBuffer

def empty (limit : Nat) : ConsoleBuffer := ⟨limit, []⟩

/-- An empty buffer, unless `limit` is negative. -/
def ofLimit? : Int → Option ConsoleBuffer
  | .ofNat limit => some (empty limit)
  | .negSucc _ => none

def negativeLimit : String := "maxlen must be non-negative"

/-- A message is put behind the others, and the oldest one goes if there is no room within
`limit`. -/
def push (b : ConsoleBuffer) (message : ConsoleMessage) : ConsoleBuffer :=
  let all := b.messages ++ [message]
  { b with messages := all.drop (all.length - b.limit) }

def send (b : ConsoleBuffer) (kind content : String) (now : Int) : ConsoleBuffer :=
  match b.messages.getLast? with
  | some last =>
    if last.kind = kind && last.content = content then
      { b with messages := b.messages.dropLast ++ [{ last with count := last.count + 1 }] }
    else b.push ⟨kind, content, now, 1⟩
  | none => b.push ⟨kind, content, now, 1⟩

def contentOf (args : List Document) : String := Text.join " " (args.map Document.asText)

def emit (b : ConsoleBuffer) (kind : String) (args : List Document) (now : Int) : ConsoleBuffer :=
  b.send kind (contentOf args) now

def clear (b : ConsoleBuffer) : ConsoleBuffer := { b with messages := [] }

end ConsoleBuffer

end OverlayShell
