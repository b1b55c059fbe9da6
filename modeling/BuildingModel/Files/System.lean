import BuildingModel.Files.Tree

/-!
# The tree of a system

The files that are there before any other is written: the programs of the system, the devices, and
the directories that every system has.
-/

namespace BuildingModel.FileTree

/-- The names of the programs of the system. -/
def programNames : List String :=
  ["[", "arch", "awk", "base64", "basename", "bash", "cat", "chmod", "cksum", "cmp", "comm", "cp",
   "cut", "dash", "date", "dd", "diff", "dirname", "echo", "egrep", "env", "expr", "false", "fgrep",
   "find", "fold", "grep", "head", "id", "link", "ln", "ls", "mawk", "md5sum", "mkdir", "mkfifo",
   "mktemp", "mv", "nice", "nl", "nohup", "od", "paste", "printenv", "printf", "pwd",
   "readlink", "realpath",
   "rev", "rm", "rmdir", "sed", "seq", "setsid", "sh", "sha1sum", "sha256sum", "sleep", "sort",
   "stat", "stdbuf", "sync", "tac", "tail", "tee", "test", "timeout", "touch", "tr", "true",
   "truncate", "tty", "uname", "uniq", "unlink", "wc", "which", "whoami", "xargs", "yes"]

/-- The devices and the settings of the system. -/
def systemFiles : List (List String) :=
  [["dev", "null"], ["dev", "zero"], ["dev", "full"], ["dev", "random"], ["dev", "urandom"],
   ["dev", "tty"], ["dev", "stdin"], ["dev", "stdout"], ["dev", "stderr"], ["etc", "passwd"],
   ["etc", "group"], ["etc", "hosts"], ["etc", "hostname"], ["etc", "fstab"]]

/-- The directories of the system. -/
def systemDirectories : List (List String) :=
  [["boot"], ["dev"], ["etc"], ["home"], ["media"], ["mnt"], ["opt"], ["proc", "self", "fd"],
   ["root"], ["run"], ["srv"], ["sys"], ["tmp"], ["usr", "bin"], ["usr", "games"],
   ["usr", "include"], ["usr", "lib"], ["usr", "lib64"], ["usr", "local", "bin"],
   ["usr", "local", "lib"], ["usr", "local", "sbin"], ["usr", "sbin"], ["usr", "share"],
   ["usr", "src"], ["var", "lib"], ["var", "log"], ["var", "tmp"]]

/-- The tree of a system with a working directory. -/
def system (here : List String) : FileTree where
  files :=
    programNames.map (fun name => (["usr", "bin", name], { mode := 0o755, program := some name }))
      ++ systemFiles.map (·, {})
  directories := systemDirectories
  modes := [(["root"], 0o700), (["tmp"], 0o1777), (["var", "tmp"], 0o1777)]
  links := (["dev", "fd"], ["proc", "self", "fd"])
    :: ["bin", "lib", "lib64", "sbin"].map fun name => ([name], ["usr", name])
  here := here

end BuildingModel.FileTree
