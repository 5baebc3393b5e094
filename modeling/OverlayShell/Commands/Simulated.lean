import OverlayShell.Console.Line

/-!
# Scripts of the package manager

What the simulated package manager and version control print.
-/

namespace OverlayShell

namespace Simulated

open Text

def startScript : List Line := [
  .output "> portfolio-v3@3.0.2 start",
  .output "> next start",
  .success ("  " ++ bold "Next.js 14.1.0"),
  .output ("  - Local:        " ++ accent "http://localhost:3000"),
  .output ("  - Network:      " ++ accent "http://192.168.1.100:3000"),
  .success ("  " ++ paint .green "Ready in 1.2s")]

def devScript : List Line := [
  .output "> portfolio-v3@3.0.2 dev",
  .output "> next dev --turbo",
  .success ("  " ++ bold "Next.js 15.0.0 (Turbopack)"),
  .output ("  - Local:        " ++ accent "http://localhost:3000"),
  .success ("  " ++ paint .green "Ready in 0.8s" ++ " " ++ paint .grey "(Turbopack enabled)")]

def buildScript : List Line := [
  .output "> portfolio-v3@3.0.2 build",
  .output "> next build",
  .output "  Creating an optimized production build...",
  .success "  Compiled successfully",
  .success "  Linting and checking validity of types",
  .success "  Collecting page data",
  .success "  Generating static pages (5/5)",
  .success "  Finalizing page optimization",
  .blank,
  .output "Route (app)                              Size     First Load JS",
  .output ("  " ++ paint .green "┌" ++
      " /                                      5.2 kB        89.2 kB"),
  .output ("  " ++ paint .green "├" ++
      " /about                                 2.1 kB        86.1 kB"),
  .output ("  " ++ paint .green "└" ++
      " /contact                               3.4 kB        87.4 kB"),
  .success ("  " ++ paint .green "Build completed in 8.4s")]

def testScript : List Line := [
  .output "> portfolio-v3@3.0.2 test",
  .output "> vitest --run",
  .success ("  " ++ paint .green "PASS" ++
      " src/__tests__/components/Button.test.tsx (3 tests) 45ms"),
  .success ("  " ++ paint .green "PASS" ++
      " src/__tests__/hooks/useLocalStorage.test.ts (5 tests) 23ms"),
  .success ("  " ++ paint .green "PASS" ++ " src/__tests__/lib/utils.test.ts (4 tests) 12ms"),
  .success ("  " ++ bold "Test Files  3 passed" ++ " (3)"),
  .success ("  " ++ bold "Tests       12 passed" ++ " (12)"),
  .output "  Duration    1.24s"]

def coffeeScript : List Line := [
  .output "> portfolio-v3@3.0.2 drink:coffee",
  .output "> brew install caffeine",
  .output ("  " ++ paint .yellow "Brewing..."),
  .output "  [##########] 100%",
  .success ("  " ++ paint .green "Success!" ++ " Energy levels restored."),
  .output ("  " ++ paint .blue "Code quality increased by 50%")]

def problemScript : List Line := [
  .output "> portfolio-v3@3.0.2 solve:problem",
  .output "> node ./brain/solve.js",
  .output ("  " ++ paint .magenta "Analyzing complexity..."),
  .output "  Optimizing algorithms...",
  .success ("  " ++ paint .green "Solution found!"),
  .output "  Output: Simple, scalable, and robust code."]

def designScript : List Line := [
  .output "> portfolio-v3@3.0.2 design:ui",
  .output "> figma --open",
  .output ("  " ++ accent "Launching creative kernel..."),
  .output "  Aligning pixels...",
  .success ("  " ++ paint .green "Interface rendered."),
  .output "  Aesthetic: Minimalist Industrial."]

def scripts : List (String × List Line) := [
  ("start", startScript),
  ("dev", devScript),
  ("build", buildScript),
  ("test", testScript),
  ("drink:coffee", coffeeScript),
  ("solve:problem", problemScript),
  ("design:ui", designScript)]

def installed (package : String) : List Line := [
  .output "added 1 package in 2.3s",
  .success ("+ " ++ package ++ "@latest"),
  .output "added 1 package, and audited 342 packages in 3s",
  .success (paint .green "found 0 vulnerabilities")]

def installedAll : List Line := [
  .output "added 341 packages in 8.2s",
  .success "341 packages are looking for funding",
  .output "  run `npm fund` for details",
  .success (paint .green "found 0 vulnerabilities")]

/-! ## Version control -/

def commitLog : List Line := [
  .output (paint .yellow "commit a1b2c3d4e5f6a7b8c9d0e1f2a3b4c5d6e7f8a9b0"),
  .output "Author: Portfolio Dev <dev@devterm.local>",
  .output "Date:   Mon Nov 25 2025 10:30:00",
  .blank,
  .output "    feat: enhance terminal with advanced features",
  .blank,
  .output (paint .yellow "commit b2c3d4e5f6a7b8c9d0e1f2a3b4c5d6e7f8a9b0c1"),
  .output "Author: Portfolio Dev <dev@devterm.local>",
  .output "Date:   Sun Nov 24 2025 18:45:00",
  .blank,
  .output "    refactor: improve code window components"]

def branches : List Line := [
  .success (paint .green "* main"),
  .output "  develop",
  .output "  feature/terminal-v2"]

def changes : List Line := [
  .output (bold "diff --git a/src/app.ts b/src/app.ts"),
  .output "index a1b2c3d..e4f5a6b 100644",
  .output "--- a/src/app.ts",
  .output "+++ b/src/app.ts",
  .output (accent "@@ -1,5 +1,10 @@"),
  .error (paint .red "-// Old terminal implementation"),
  .success (paint .green "+// Enhanced terminal with advanced features"),
  .success (paint .green "+// Supports: history, autocomplete, aliases")]

def status (changed : List String) : List Line :=
  [ .output ("On branch " ++ bold "main"),
    .output "Your branch is up to date with 'origin/main'.",
    .blank,
    .success "Changes not staged for commit:",
    .output "  (use \"git add <file>...\" to update what will be committed)" ] ++
  changed.map (fun name => .error ("        " ++ paint .red ("modified:   " ++ name))) ++
  [ .blank,
    .output "no changes added to commit (use \"git add\" and/or \"git commit -a\")" ]

/-! ## Network -/

def fetched (address : String) : List Line := [
  .output "  % Total    % Received % Xferd  Average Speed   Time    Time     Time  Current",
  .output "                                 Dload  Upload   Total   Spent    Left  Speed",
  .success "100  1256  100  1256    0     0  12560      0 --:--:-- --:--:-- --:--:-- 12560",
  .blank,
  .output (accent "<!DOCTYPE html>"),
  .output "<html lang=\"en\">",
  .output ("<head><title>" ++ address ++ "</title></head>"),
  .output "<body>...</body>",
  .output "</html>"]

def answerTimes : List String := ["14.2", "21.7", "12.9", "33.4"]

def pinged (host : String) : List Line :=
  .output ("PING " ++ host ++ " (93.184.216.34): 56 data bytes") ::
    answerTimes.zipIdx.map (fun (time, i) =>
      .success ("64 bytes from 93.184.216.34: icmp_seq=" ++ natText i ++ " ttl=56 time=" ++ time ++
        " ms")) ++
  [ .blank,
    .output ("--- " ++ host ++ " ping statistics ---"),
    .output "4 packets transmitted, 4 packets received, 0.0% packet loss" ]

end Simulated

end OverlayShell
