import OverlayShell.Console.Line
import OverlayShell.Product
import OverlayShell.Text.Letter

/-!
# Conversation

What the shell replies to a line that names no command. The reply depends on a few words that occur
in the line, in any case.
-/

namespace OverlayShell

namespace Conversation

open Text

def step (text : String) : Line := .output (paint .grey ("⠋ " ++ text ++ "..."))

def done (text : String) : Line := .output (paint .green "✓" ++ " " ++ paint .grey text)

def aboutMistakes : List Line := [
  step "Reading active context",
  step "Analyzing control flow",
  done "Context loaded",
  .blank,
  .output (bold "Analysis:"),
  .output ("I've scanned the directory. To fix issues, I recommend running the test suite " ++
    "first:"),
  .output ("  " ++ accent "npm run test")]

def aboutSpeed : List Line := [
  step "Measuring bundle size",
  step "Checking hydration metrics",
  done "Performance profile ready",
  .blank,
  .output (bold "Optimization Plan:"),
  .output "1. Implement code splitting for the Terminal component.",
  .output "2. Use Next.js Image optimization.",
  .output ("Run " ++ accent "npm run solve:problem" ++ " to apply auto-fixes.")]

def greeting : List Line := [
  .blank,
  .output (bold "Hello!" ++ " I am " ++ Product.name ++ " Agent (v" ++ Product.version ++ ")."),
  .output ("I can help you navigate the system, execute code, or answer questions about the " ++
    "portfolio.")]

def anythingElse (text : String) : List Line := [
  step "Parsing intent",
  .blank,
  .output ("I understand you want to \"" ++ paint .dim text ++ "\"."),
  .output ("As a terminal interface, I can execute commands. For complex reasoning, please use " ++
    "the Chat Panel."),
  .output ("Try running " ++ accent "help" ++ " to see what I can do here.")]

def reply (text : String) : List Line :=
  let lowered := lower text
  let mentions := fun word => contains word lowered
  if mentions "fix" || mentions "bug" then aboutMistakes
  else if mentions "optimize" || mentions "perf" then aboutSpeed
  else if mentions "hello" || mentions "hi " || lowered = "hi" then greeting
  else anythingElse text

end Conversation

end OverlayShell
