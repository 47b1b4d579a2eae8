/-!
Files under paths. A path is read step by step: an empty step and `.` stay where
they are, `..` goes up, and every step but the last has to lead to a directory.
-/

namespace SchemaScope

/-- What a path leads to. -/
inductive FileState where
  | absent
  /-- A directory, or another thing that is there and has no content. -/
  | directory
  | file (content : List UInt8)
  deriving DecidableEq, Repr

inductive FileNode where
  | directory
  | file (content : List UInt8)
  deriving DecidableEq, Repr

/-- Files and directories, each with the names on its path from the working
directory. A directory is there if something lies in it. -/
structure FileTree where
  nodes : List (List String × FileNode)

namespace FileTree

def steps (path : String) : List String :=
  path.splitOn "/"

/-- What the names of a path lead to. The working directory is there even if it
is empty. -/
def node? (tree : FileTree) (names : List String) : Option FileNode :=
  match tree.nodes.lookup names with
  | some node => some node
  | none =>
    if names.isEmpty
        || tree.nodes.any fun (path, _) => names.isPrefixOf path then
      some .directory
    else none

/-- A step that leads from a directory outside to another one. -/
def staysOutside (step : String) : Bool :=
  step.isEmpty || step == "." || step == ".."

/-- What is found at the root of any machine. -/
def outside : FileTree where
  nodes :=
    (["dev", "null"], .file []) ::
      ["bin", "dev", "etc", "home", "lib", "mnt", "opt", "proc", "root", "run",
        "sbin", "srv", "sys", "tmp", "usr", "var"].map
          fun name => ([name], .directory)

/-- Take steps from a directory of a tree. What is above the root is the root
itself; of what lies above the working directory only the directories are
known. -/
def walk (tree : FileTree) (isRoot : Bool) :
    (names : List String) → List String → Option FileNode
  | names, [] => tree.node? names
  | names, step :: rest =>
    match tree.node? names with
    | some .directory =>
      if step.isEmpty || step == "." then walk tree isRoot names rest
      else if step == ".." then
        if !names.isEmpty || isRoot then walk tree isRoot names.dropLast rest
        else if rest.all staysOutside then some .directory
        else none
      else walk tree isRoot (names ++ [step]) rest
    | _ => none

/-- The number of bytes that a path may have. -/
def maxLength : Nat := 4095

/-- What a path leads to. The empty path and one that is too long lead
nowhere. -/
def state (tree : FileTree) (path : String) : FileState :=
  if path.isEmpty || maxLength < path.utf8ByteSize then .absent
  else
    let node :=
      if path.startsWith "/" then outside.walk true [] (steps path)
      else tree.walk false [] (steps path)
    match node with
    | none => .absent
    | some .directory => .directory
    | some (.file content) => .file content

end FileTree

end SchemaScope
