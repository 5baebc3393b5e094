import OverlayShell.Commands.Failure

/-!
# Commands

A command is a name with a description, a line on its usage, a category and what it does. The core
commands are the shell's own. The extra ones can be exchanged; what they do is written out here, or
they print the lines that they were given.
-/

namespace OverlayShell

inductive Core where
  | help
  | ls
  | cd
  | pwd
  | tree
  | find
  | cat
  | head
  | tail
  | wc
  | grep
  | search
  | stats
  | openFile
  | touch
  | mkdir
  | rm
  | whoami
  | date
  | uptime
  | env
  | exportVar
  | echo
  | aliases
  | history
  | clear
  | dmesg
  | npm
  | node
  | git
  | curl
  | ping
  | calculate
  deriving DecidableEq

namespace Core

def all : List Core := [
  .help, .ls, .cd, .pwd, .tree, .find, .cat, .head, .tail, .wc, .grep, .search, .stats,
  .openFile, .touch, .mkdir, .rm, .whoami, .date, .uptime, .env, .exportVar, .echo, .aliases,
  .history, .clear, .dmesg, .npm, .node, .git, .curl, .ping, .calculate]

def name : Core → String
  | .help => "help"
  | .ls => "ls"
  | .cd => "cd"
  | .pwd => "pwd"
  | .tree => "tree"
  | .find => "find"
  | .cat => "cat"
  | .head => "head"
  | .tail => "tail"
  | .wc => "wc"
  | .grep => "grep"
  | .search => "search"
  | .stats => "stats"
  | .openFile => "open"
  | .touch => "touch"
  | .mkdir => "mkdir"
  | .rm => "rm"
  | .whoami => "whoami"
  | .date => "date"
  | .uptime => "uptime"
  | .env => "env"
  | .exportVar => "export"
  | .echo => "echo"
  | .aliases => "alias"
  | .history => "history"
  | .clear => "clear"
  | .dmesg => "dmesg"
  | .npm => "npm"
  | .node => "node"
  | .git => "git"
  | .curl => "curl"
  | .ping => "ping"
  | .calculate => "calc"

def description : Core → String
  | .help => "Show available commands"
  | .ls => "List directory contents"
  | .cd => "Change directory"
  | .pwd => "Print working directory"
  | .tree => "Display directory tree"
  | .find => "Search for files"
  | .cat => "Display file contents"
  | .head => "Show first lines of file"
  | .tail => "Show last lines of file"
  | .wc => "Word, line, character count"
  | .grep => "Search pattern in file"
  | .search => "Search text in all files"
  | .stats => "Project statistics"
  | .openFile => "Open file in editor"
  | .touch => "Create an empty file"
  | .mkdir => "Create a directory"
  | .rm => "Remove files or directories"
  | .whoami => "Display current user"
  | .date => "Display current date and time"
  | .uptime => "Show session uptime"
  | .env => "Display environment variables"
  | .exportVar => "Set environment variable"
  | .echo => "Print text to terminal"
  | .aliases => "Manage command aliases"
  | .history => "Show command history"
  | .clear => "Clear terminal screen"
  | .dmesg => "Show captured console messages"
  | .npm => "NPM package manager (simulated)"
  | .node => "Node.js runtime (simulated)"
  | .git => "Git version control (simulated)"
  | .curl => "Transfer data from URL (simulated)"
  | .ping => "Ping a host (simulated)"
  | .calculate => "Simple calculator"

def usage : Core → String
  | .help => "help [command]"
  | .ls => "ls [-la] [path]"
  | .cd => "cd <directory>"
  | .pwd => "pwd"
  | .tree => "tree [path] [--depth N]"
  | .find => "find <pattern>"
  | .cat => "cat <file>"
  | .head => "head [-n N] <file>"
  | .tail => "tail [-n N] <file>"
  | .wc => "wc <file>"
  | .grep => "grep <pattern> <file>"
  | .search => "search <query> [--case] [--word] [--regex] [--max N] [--summary]"
  | .stats => "stats"
  | .openFile => "open <file>"
  | .touch => "touch <file>"
  | .mkdir => "mkdir [-p] <dir>"
  | .rm => "rm [-r] <path>"
  | .whoami => "whoami"
  | .date => "date"
  | .uptime => "uptime"
  | .env => "env"
  | .exportVar => "export KEY=VALUE"
  | .echo => "echo <text>"
  | .aliases => "alias [name=command]"
  | .history => "history"
  | .clear => "clear"
  | .dmesg => "dmesg"
  | .npm => "npm <command>"
  | .node => "node [-v | -e \"code\"]"
  | .git => "git <command>"
  | .curl => "curl <url>"
  | .ping => "ping <host>"
  | .calculate => "calc <expression>"

def category : Core → String
  | .ls | .cd | .pwd | .tree | .find => "navigation"
  | .cat | .head | .tail | .wc | .grep | .search | .openFile | .touch | .mkdir | .rm => "files"
  | .stats | .npm | .node | .git | .curl | .ping => "dev tools"
  | .calculate => "utilities"
  | _ => "system"

def ofName? (name : String) : Option Core := all.find? (·.name = name)

end Core

/-- The commands that `CommandTable.standard` starts with, in the order in which they are listed. -/
inductive Novelty where
  | neofetch
  | cowsay
  | matrix
  | figlet
  | snake
  | game
  | weather
  | joke
  | fortune
  | hostname
  | uname
  | df
  | free
  | ps
  | top
  | leave
  | about
  | skills
  | contact
  | projects
  | social
  | theme
  | time
  | welcome
  deriving DecidableEq

namespace Novelty

def all : List Novelty := [
  .neofetch, .cowsay, .matrix, .figlet, .snake, .game, .weather, .joke, .fortune, .hostname,
  .uname, .df, .free, .ps, .top, .leave, .about, .skills, .contact, .projects, .social, .theme,
  .time, .welcome]

def name : Novelty → String
  | .neofetch => "neofetch"
  | .cowsay => "cowsay"
  | .matrix => "matrix"
  | .figlet => "figlet"
  | .snake => "snake"
  | .game => "game"
  | .weather => "weather"
  | .joke => "joke"
  | .fortune => "fortune"
  | .hostname => "hostname"
  | .uname => "uname"
  | .df => "df"
  | .free => "free"
  | .ps => "ps"
  | .top => "top"
  | .leave => "exit"
  | .about => "about"
  | .skills => "skills"
  | .contact => "contact"
  | .projects => "projects"
  | .social => "social"
  | .theme => "theme"
  | .time => "time"
  | .welcome => "welcome"

def description : Novelty → String
  | .neofetch => "Display system information"
  | .cowsay => "ASCII cow says your message"
  | .matrix => "Matrix rain effect"
  | .figlet => "Display text in ASCII art"
  | .snake => "Play the snake arcade game"
  | .game => "Play the snake arcade game"
  | .weather => "Show weather (simulated)"
  | .joke => "Tell a programming joke"
  | .fortune => "Display a random fortune"
  | .hostname => "Display hostname"
  | .uname => "System information"
  | .df => "Disk space usage"
  | .free => "Memory usage"
  | .ps => "Process status"
  | .top => "System monitor"
  | .leave => "Exit terminal"
  | .about => "About this portfolio"
  | .skills => "List developer skills"
  | .contact => "Contact information"
  | .projects => "List portfolio projects"
  | .social => "Open social links"
  | .theme => "Terminal theme info"
  | .time => "Current time in different zones"
  | .welcome => "Show welcome message"

def usage : Novelty → String
  | .cowsay => "cowsay <message>"
  | .figlet => "figlet <text>"
  | .weather => "weather [city]"
  | .uname => "uname [-a]"
  | .df => "df [-h]"
  | .free => "free [-h]"
  | .ps => "ps [aux]"
  | .social => "social [github|linkedin|email]"
  | other => other.name

def category : Novelty → String
  | .neofetch | .cowsay | .matrix | .figlet | .snake | .game | .weather | .joke | .fortune =>
    "fun"
  | .hostname | .uname | .df | .free | .ps | .top | .leave =>
    "system info"
  | .about | .skills | .contact | .projects | .social | .theme | .time | .welcome =>
    "portfolio"

end Novelty

inductive Action where
  | core (command : Core)
  | novelty (command : Novelty)
  | prints (lines : List String)
  | fails (failure : Failure)
  | echoes
  /-- Nothing is done, and nothing returned, not even an empty list of lines. -/
  | nothing

structure Command where
  name : String
  description : String
  usage : String
  category : String
  action : Action

def Core.command (c : Core) : Command := ⟨c.name, c.description, c.usage, c.category, .core c⟩

def Novelty.command (n : Novelty) : Command :=
  ⟨n.name, n.description, n.usage, n.category, .novelty n⟩

/-- The command of a pack, which prints `lines`. -/
def Command.printing (name : String) (lines : List String) : Command :=
  ⟨name, "Custom command", name, "custom", .prints lines⟩

end OverlayShell
