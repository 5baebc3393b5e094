import OverlayShell.Console.Line
import OverlayShell.Product
import OverlayShell.Text.Layout

/-!
# Screens

What the commands for fun, for information on the system and for the portfolio print.
-/

namespace OverlayShell

namespace Screens

open Text

/-! ## Fun -/

def logoGap : String := String.ofList (List.replicate 34 ' ')

def logo (art : String) : String := paint .white art

def star (art : String) : String := paint .blue art

def systemCard (user node npm : String) : List Line := [
  .blank,
  .success ("   " ++ logo "██████████" ++ "                    " ++ bold (user ++ "@" ++
      Product.host)),
  .success ("   " ++ logo "██      ██" ++ "                    ─────────────────────"),
  .success ("   " ++ logo "██      ██" ++ "          " ++ star "│" ++ "         OS: " ++
      Product.name ++ " OS 2.0"),
  .success ("   " ++ logo "██████████" ++ "      " ++ star "─── ┼ ───" ++
      "      Host: Portfolio v" ++ Product.version),
  .success ("   " ++ logo "██      ██" ++ "          " ++ star "│" ++
      "         Kernel: Next.js 14.1.0"),
  .success ("   " ++ logo "██      ██" ++ "                    Uptime: Always Online"),
  .success ("   " ++ logo "██████████" ++ "                    Packages: 341 (npm)"),
  .success (logoGap ++ "Shell: devterm-sh 2.0"),
  .success (logoGap ++ "Terminal: " ++ Product.name ++ " Terminal"),
  .success (logoGap ++ "CPU: TypeScript Engine"),
  .success (logoGap ++ "Memory: 128MB / 512MB"),
  .blank,
  .output (logoGap ++ "Node: v" ++ node),
  .output (logoGap ++ "NPM: v" ++ npm),
  .blank]

def cow (message : String) : List Line :=
  let border := String.ofList (List.replicate (message.length + 2) '─')
  [ .output (" ╭" ++ border ++ "╮"),
    .output (" │ " ++ message ++ " │"),
    .output (" ╰" ++ border ++ "╯"),
    .output "        \\   ^__^",
    .output "         \\  (oo)\\_______",
    .output "            (__)\\       )\\/\\",
    .output "                ||----w |",
    .output "                ||     ||" ]

def weather (city : String) : List Line := [
  .blank,
  .output ("  Weather for " ++ bold city ++ ":"),
  .blank,
  .success "    \\  /       Partly Cloudy",
  .success ("  _ /\"\".-.     " ++ bold "22°C"),
  .success "    \\_(   ).   ↗ 12 km/h",
  .success "    /(___(__)  10 km visibility",
  .blank,
  .output "  Humidity: 45%  |  UV Index: 5",
  .blank]

def rain : List Char :=
  "ﾊﾐﾋｰｳｼﾅﾓﾆｻﾜﾂｵﾘｱﾎﾃﾏｹﾒｴｶｷﾑﾕﾗｾﾈｽﾀﾇﾍ01234567890".toList

def jokes : List String := [
  "Why do programmers prefer dark mode? Because light attracts bugs!",
  "A SQL query walks into a bar, walks up to two tables and asks... 'Can I join you?'",
  "Why do Java developers wear glasses? Because they can't C#!",
  "There are only 10 types of people in the world: those who understand binary and those " ++
    "who don't.",
  "Why was the JavaScript developer sad? Because they didn't Node how to Express themselves!",
  "Why do programmers hate nature? It has too many bugs.",
  "['hip', 'hip'] // hip hip array!"]

def fortunes : List String := [
  "The best time to plant a tree was 20 years ago. The second best time is now.",
  "Code is like humor. When you have to explain it, it's bad.",
  "First, solve the problem. Then, write the code.",
  "Experience is the name everyone gives to their mistakes.",
  "The only way to learn a new programming language is by writing programs in it.",
  "Simplicity is the soul of efficiency.",
  "Make it work, make it right, make it fast."]

/-! ## The system -/

def disks : List Line := [
  .output (bold "Filesystem      Size  Used Avail Use% Mounted on"),
  .output "/dev/sda1       500G  125G  375G  25% /",
  .output "/dev/sda2       100G   45G   55G  45% /home",
  .output "tmpfs           8.0G  1.2G  6.8G  15% /tmp"]

def memory : List Line := [
  .output ("              " ++
      bold "total        used        free      shared  buff/cache   available"),
  .output "Mem:          16Gi       4.2Gi       8.1Gi       512Mi       3.7Gi        11Gi",
  .output "Swap:         2.0Gi          0B       2.0Gi"]

def processes : List Line := [
  .output ("  " ++ bold "PID TTY          TIME CMD"),
  .output "    1 pts/0    00:00:00 next-server",
  .output "   42 pts/0    00:00:01 node",
  .output "  100 pts/0    00:00:00 typescript",
  .output "  256 pts/1    00:00:00 devterm-sh"]

def busiest (user : String) : List Line := [
  .output "top - 10:30:00 up 42 days, load average: 0.42, 0.38, 0.35",
  .output "Tasks:  42 total,   1 running,  41 sleeping",
  .output "%Cpu(s):  5.2 us,  1.3 sy,  0.0 ni, 93.5 id",
  .output "MiB Mem :  16384.0 total,   8192.0 free,   4096.0 used",
  .blank,
  .output ("  " ++
      bold "PID USER      PR  NI    VIRT    RES    SHR S  %CPU  %MEM     TIME+ COMMAND"),
  .success ("    1 " ++ padRight 9 user ++
      " 20   0  512000  64000  32000 S   2.0   0.4   0:42.00 next-server"),
  .output ("   42 " ++ padRight 9 user ++
      " 20   0  256000  32000  16000 S   1.0   0.2   0:12.00 node"),
  .output "[Press q to exit - simulated]"]

def leaving : List Line := [
  .output "logout",
  .output "[Process completed]"]

/-! ## The portfolio -/

def framed (text : String) : String := "║  " ++ padRight 57 text ++ "║"

def rule : String := String.ofList (List.replicate 59 '═')

def portfolio : List Line := [
  .blank,
  .success ("╔" ++ rule ++ "╗"),
  .success (framed (Product.name ++ " Portfolio Terminal")),
  .success ("╠" ++ rule ++ "╣"),
  .output (framed "Developer: Portfolio Dev"),
  .output (framed "Email: dev@devterm.local"),
  .output (framed ("Version: " ++ Product.version)),
  .success ("╚" ++ rule ++ "╝"),
  .blank]

def skills : List Line := [
  .output ("  " ++ bold "Technical Skills:"),
  .success ("  ├── " ++ accent "Frontend" ++ ": React, Next.js, TypeScript, Tailwind CSS"),
  .success ("  ├── " ++ accent "Backend" ++ ": Node.js, Express, Laravel, PHP"),
  .success ("  ├── " ++ accent "Database" ++ ": PostgreSQL, MongoDB, MySQL"),
  .success ("  ├── " ++ accent "DevOps" ++ ": Docker, Git, CI/CD, Linux"),
  .success ("  └── " ++ accent "Tools" ++ ": VS Code, Figma, Postman")]

def contact : List Line := [
  .output ("  " ++ bold "Contact Information:"),
  .output "  ─────────────────────",
  .success "  Email:    dev@devterm.local",
  .success "  GitHub:   github.com/devterm",
  .success "  LinkedIn: linkedin.com/in/devterm"]

def projects : List Line := [
  .output ("  " ++ bold "Featured Projects:"),
  .output "  ─────────────────────",
  .success ("  [1] " ++ bold "Portfolio v3.0" ++ " - Next.js, TypeScript, Tailwind"),
  .success ("  [2] " ++ bold "E-Commerce Platform" ++ " - React, Node.js, MongoDB"),
  .success ("  [3] " ++ bold "Task Manager" ++ " - Laravel, Vue.js, PostgreSQL"),
  .output "  Type \"open README.md\" for more details"]

def socialLinks : List (String × String) := [
  ("github", "https://github.com/devterm"),
  ("linkedin", "https://linkedin.com/in/devterm"),
  ("email", "mailto:dev@devterm.local")]

def socialMenu : List Line := [
  .output "Available social links:",
  .output ("  social " ++ accent "github" ++ "   - GitHub profile"),
  .output ("  social " ++ accent "linkedin" ++ " - LinkedIn profile"),
  .output ("  social " ++ accent "email" ++ "    - Send email")]

def theme : List Line := [
  .output ("  " ++ bold "Design System:"),
  .output "  ─────────────────────",
  .output "  Primary:   #E1E0DB (UI Stone)",
  .output "  Accent:    #26251E (Dark)",
  .output "  Canvas:    #FFFFFF (White)",
  .output "  Font:      Inter / JetBrains Mono"]

def welcome : List Line := [
  .output (bold (Product.name ++ " Terminal") ++ " [Version " ++ Product.version ++ "]"),
  .output "(c) 2025 Portfolio Dev",
  .success ("Ready. Type \"" ++ accent "help" ++ "\" for commands.")]

end Screens

end OverlayShell
