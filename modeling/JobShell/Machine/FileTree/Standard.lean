import JobShell.Machine.FileTree

/-!
# The tree of a fresh machine

The usual directories of a Linux system with the programs of the machine, and a scratch directory
under `/tmp`.
-/

namespace JobShell.Machine.FileTree

private def text (s : String) : Bytes := Bytes.ofText s

def standardDirectories : List String := [
  "/tmp", "/usr", "/usr/bin", "/usr/sbin", "/usr/lib", "/usr/lib64", "/usr/share", "/usr/local",
  "/usr/local/bin", "/usr/local/sbin", "/usr/local/lib", "/usr/include", "/dev", "/dev/pts",
  "/proc", "/proc/self", "/proc/1", "/sys", "/etc", "/home", "/root", "/opt", "/mnt", "/media",
  "/run", "/srv", "/boot", "/var", "/var/tmp", "/var/log", "/var/lib"]

def standardLinks : List (String × String) := [
  ("/bin", "usr/bin"), ("/sbin", "usr/sbin"), ("/lib", "usr/lib"), ("/lib64", "usr/lib64")]

def standardNodes : List (String × Node) := [
  ("/dev/null", { mode := 0o666, kind := .device .null }),
  ("/dev/zero", { mode := 0o666, kind := .device .zero }),
  ("/dev/full", { mode := 0o666, kind := .device .full }),
  ("/dev/tty", { mode := 0o666, kind := .device .terminal }),
  ("/proc/self/status", { mode := 0o444, kind := .processStatus }),
  ("/etc/passwd", {
    mode := 0o644, kind := .file (text "root:x:0:0:root:/root:/bin/bash\n") }),
  ("/etc/hostname", { mode := 0o644, kind := .file (text "localhost\n") })]

/-- The tree of a machine on which nobody has worked yet. -/
def standard : FileTree :=
  let t := standardDirectories.foldl
    (fun t path => (t.makePath root (components (text path))).2) bare
  let t := standardLinks.foldl
    (fun t (path, target) =>
      t.place root (text path) { mode := 0o777, kind := .link (text target) }) t
  let t := standardNodes.foldl (fun t (path, node) => t.place root (text path) node) t
  Utility.installed.foldl
    (fun t (name, u) =>
      t.place root (text ("/usr/bin/" ++ name)) { mode := 0o755, kind := .utility u }) t

/-- The scratch directory. -/
def scratchPath : String := "/tmp/.scratch-directory"

/-- A standard tree with an empty scratch directory. -/
def withScratch : NodeId × FileTree := standard.makePath root (components (text scratchPath))

end JobShell.Machine.FileTree
