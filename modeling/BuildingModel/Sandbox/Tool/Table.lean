import BuildingModel.Sandbox.Tool.Characters
import BuildingModel.Sandbox.Tool.Compare
import BuildingModel.Sandbox.Tool.Copying
import BuildingModel.Sandbox.Tool.Digest
import BuildingModel.Sandbox.Tool.Dump
import BuildingModel.Sandbox.Tool.Editing
import BuildingModel.Sandbox.Tool.Expression
import BuildingModel.Sandbox.Tool.Layout
import BuildingModel.Sandbox.Tool.Lines
import BuildingModel.Sandbox.Tool.Listing
import BuildingModel.Sandbox.Tool.Machine
import BuildingModel.Sandbox.Tool.Matching
import BuildingModel.Sandbox.Tool.Numbers
import BuildingModel.Sandbox.Tool.Places
import BuildingModel.Sandbox.Tool.Sorting
import BuildingModel.Sandbox.Tool.Transfer
import BuildingModel.Sandbox.Tool.Words

/-!
# The table of programs

The programs of the system that start no other program, by their names, and how they are run. A
program that cannot write complains, if it has something to write.
-/

namespace BuildingModel.Sandbox.Tool

open Shell (Run)

/-- The programs by their names. -/
def programs : List (String × Program) :=
  [("[", bracket), ("arch", fixedAnswer "x86_64"), ("base64", base64), ("basename", basename),
   ("cat", cat), ("chmod", chmod), ("cksum", cksum), ("cmp", cmp), ("comm", comm),
   ("cp", transfer false), ("cut", cut), ("date", date), ("dd", dd), ("diff", diff),
   ("dirname", dirname), ("echo", echo), ("egrep", grepIn "-E"), ("expr", expr),
   ("false", fun _ _ => pure 1), ("fgrep", grepIn "-F"), ("fold", foldLines), ("grep", grep),
   ("head", head), ("id", userId), ("link", link), ("ln", ln), ("ls", ls),
   ("md5sum", digestProgram "MD5" digest5), ("mkdir", mkdir), ("mkfifo", mkfifo),
   ("mktemp", mktemp), ("mv", transfer true), ("nl", nl), ("od", od), ("paste", paste),
   ("printenv", printenv),
   ("printf", printf), ("pwd", pwd), ("readlink", readlink), ("realpath", realpath), ("rev", rev),
   ("rm", rm), ("rmdir", rmdir), ("sed", sed), ("seq", seq),
   ("sha1sum", digestProgram "SHA1" digest1), ("sha256sum", digestProgram "SHA256" digest256),
   ("sleep", sleep), ("sort", sort), ("stat", stat), ("sync", fun _ _ => pure 0), ("tac", tac),
   ("tail", tail), ("tee", tee), ("test", test), ("touch", touch), ("tr", tr),
   ("true", fun _ _ => pure 0), ("truncate", truncate), ("tty", fixedAnswer "not a tty" 1),
   ("uname", uname), ("uniq", uniq), ("unlink", unlink), ("wc", wc), ("which", which),
   ("whoami", fixedAnswer "root"), ("yes", yes)]

/-- Why nothing can be written to a channel. -/
def channelFault? (c : Shell.Channel) : Option String :=
  match c with
  | .full => some "No space left on device"
  | .closed | .source _ | .directory | .file _ _ _ _ false => some "Bad file descriptor"
  | _ => none

/-- The status of a program that cannot write, and what it says, given why. -/
def writeFault (program name fault : String) : Nat × String :=
  let usual := "write error: " ++ fault
  let isClosed := fault.startsWith "Bad"
  match program with
  | "ls" | "printenv" | "grep" | "egrep" | "fgrep" => (2, usual)
  | "expr" => (3, usual)
  | "sort" =>
    (2, "fflush failed: 'standard output': " ++ fault ++ "\n" ++ name ++ ": write error")
  | "sed" => (4, "couldn't " ++ (if isClosed then "close" else "flush") ++ " stdout: " ++ fault)
  | "tee" => (1, "'standard output': " ++ fault)
  | "yes" => (1, "standard output: " ++ fault)
  | "wc" => (1, if isClosed then usual else "write error")
  | "cat" => (1, if isClosed then "standard output: " ++ fault else usual)
  | _ => (1, usual)

/-- Work whose output goes nowhere; its status, and whether there is some output. -/
def unheard (work : Run Nat) : Run (Nat × Bool) := do
  let i ← Shell.addChannel (.sink .empty)
  let status ← Shell.withDescriptor 1 i work
  match (← get).channels[i]? with
  | some (.sink bytes) => return (status, !bytes.isEmpty)
  | _ => return (status, false)

/-- Runs a program with words, the first of which is what it is called by. -/
def run (program : String) (words : List String) : Run Nat := do
  match programs.lookup program with
  | none => return 127
  | some work =>
    let name := words.headD program
    match channelFault? (← Shell.channel 1) with
    | none => work name (words.drop 1)
    | some fault =>
      let (status, hasOutput) ← unheard (work name (words.drop 1))
      if !hasOutput || (program == "rev" && fault.startsWith "Bad") then return status
      let (status, message) := writeFault program name fault
      failWith status name message

end BuildingModel.Sandbox.Tool
