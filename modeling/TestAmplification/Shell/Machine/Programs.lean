import TestAmplification.Files.Disk
import TestAmplification.Shell.Row
import TestAmplification.Text.Search

/-!
# The programs of the system

Every machine has some directories, and programs in one of them. The file of a program
starts with a mark that scripts do not have, followed by the name of the program. So a
program stays what it is under other names and in other places.

Some paths stand for devices.
-/

set_option autoImplicit false

namespace TestAmplification.Shell

/-! ## Programs -/

/-- The names of the programs of the system. -/
def programNames : List String :=
  ["[", "arch", "awk", "base64", "basename", "bash", "cat", "chgrp", "chmod", "chown", "cksum",
    "cmp", "comm", "cp", "cut", "dash", "date", "dd", "diff", "dirname", "echo", "egrep", "env",
    "expand", "expr", "factor", "false", "fgrep", "find", "fold", "grep", "groups", "head",
    "hostname", "id", "install", "join", "kill", "link", "ln", "ls", "mawk", "md5sum", "mkdir",
    "mkfifo", "mktemp", "mv", "nice", "nl", "nohup", "nproc", "od", "paste", "printenv", "printf",
    "pwd", "readlink", "realpath", "rev", "rm", "rmdir", "sed", "seq", "setsid", "sh", "sha1sum",
    "sha224sum", "sha256sum", "sha384sum", "sha512sum", "shuf", "sleep", "sort", "split", "stat",
    "stdbuf", "sum", "sync", "tac", "tail", "tee", "test", "timeout", "touch", "tr", "true",
    "truncate", "tsort", "tty", "uname", "unexpand", "uniq", "unlink", "wc", "which", "whoami",
    "xargs", "yes"]

/-- What the file of a program starts with. -/
def programStart : Row :=
  "\x7fELF\x02\x01\x01\x00".toList

/-- The file of the program with a name. -/
def programFile (name : String) : ByteArray :=
  packed (programStart ++ rowOf name)

/-- The name of the program in a file. -/
def programIn? (bytes : ByteArray) : Option String :=
  (Text.withoutStart? programStart (unpacked (bytes.extract 0 64))).bind fun name =>
    programNames.find? fun known => rowOf known == name

/-! ## Directories -/

/-- The directories that every machine has. -/
def systemDirectories : List Place :=
  [["dev"], ["etc"], ["home"], ["mnt"], ["opt"], ["proc"], ["root"], ["run"], ["sys"], ["tmp"],
    ["usr"], ["usr", "bin"], ["usr", "lib"], ["usr", "lib64"], ["usr", "local"],
    ["usr", "local", "bin"], ["usr", "local", "lib"], ["usr", "local", "sbin"], ["usr", "sbin"],
    ["usr", "share"], ["var"], ["var", "lib"], ["var", "log"], ["var", "tmp"]]

/-- The links that every machine has, with the paths that they stand for. -/
def systemLinks : List (Place × Path) :=
  [(["bin"], "usr/bin"), (["lib"], "usr/lib"), (["lib64"], "usr/lib64"), (["sbin"], "usr/sbin")]

/-- What every machine has, changed at a moment. -/
def systemNodes (moment : Int) : List (Place × FileNode) :=
  systemDirectories.map (·, .directory)
    ++ systemLinks.map (fun (place, target) => (place, .link target))
    ++ programNames.map fun name => (["usr", "bin", name], .file (programFile name) moment)

/-- The tree of what every machine has. -/
def systemTree (moment : Int) : FileTree :=
  ⟨Table.ofList (systemNodes moment)⟩

/-- The marks of what every machine has. -/
def systemMarks (moment : Int) : Table Place FileMark :=
  Table.ofList ((systemNodes moment).map fun (place, node) =>
    (place, match node with
      | .file .. => { mode := some Disk.openMode }
      | _ => { changed := some moment, mode := if place.getLast? = some "tmp" then some 0o1777 else none }))

/-- The disk with what every machine has, unless it has that already. Directories that
nothing is known about count as changed now. -/
def equipped (disk : Disk) : Disk :=
  let disk :=
    if (disk.tree.node? ["usr", "bin"]).isSome then disk
    else { disk with
      tree := disk.tree.nodes.entries.foldl (fun tree (place, node) => tree.put place node)
        (systemTree disk.clock)
      marks := disk.marks.entries.foldl (fun marks (place, mark) => marks.insert place mark)
        (systemMarks disk.clock) }
  { disk with
    marks := disk.tree.nodes.entries.foldl (fun marks (place, node) =>
      match node with
      | .file .. => marks
      | _ => marks.insertIfAbsent place { changed := some disk.clock }) disk.marks }

/-! ## Devices -/

/-- The names of the devices that every machine has, with their numbers. -/
def deviceNames : List (String × Nat × Nat) :=
  [("null", 1, 3), ("zero", 1, 5), ("full", 1, 7), ("random", 1, 8), ("urandom", 1, 9)]

/-- The name of the device at a place. -/
def deviceAt? : Place → Option String
  | ["dev", name] => if (deviceNames.lookup name).isSome then some name else none
  | _ => none

end TestAmplification.Shell
