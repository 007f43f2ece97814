/-!
# Texts of help and version
-/

namespace JobShell.Help

def usage : String := "usage: msh [-hV] [-l length] [-t length]"

def summary : String :=
  "msh - run commands typed at a prompt, in the foreground or in the background"

def details : String :=
  "Options:\n" ++
  "  -h, --help                   display help message and exit\n" ++
  "  -l, --max-line-length=N      reject input lines longer than N bytes\n" ++
  "  -t, --max-token-length=N     reject words longer than N bytes\n" ++
  "  -V, --version                display version information and exit\n" ++
  "\n" ++
  "Built-in commands:\n" ++
  "  cd DIR                       change the working directory\n" ++
  "  jobs                         list the commands running in the background\n" ++
  "  exit                         leave the shell\n"

def long : String := usage ++ "\n\n" ++ summary ++ "\n\n" ++ details

def version : String := "0.1.0"

end JobShell.Help
