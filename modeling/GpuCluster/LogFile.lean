/-!
# Log files

A log file is made when it is opened, if it does not exist. It can be opened when the directories on
the way to it exist and its own name is that of no directory. Which directories exist is not asked:
they are taken to be the usual ones, and the working directory is taken to hold none.
-/

namespace GpuCluster.LogFile

/-- The directories that files are made in, each with the names on the way to it. -/
def directories : List (List String) :=
  [[], ["bin"], ["boot"], ["dev"], ["dev", "shm"], ["etc"], ["home"], ["lib"], ["lib64"], ["media"],
   ["mnt"], ["opt"], ["root"], ["run"], ["run", "lock"], ["sbin"], ["srv"], ["tmp"], ["usr"],
   ["usr", "bin"], ["usr", "include"], ["usr", "lib"], ["usr", "local"], ["usr", "local", "bin"],
   ["usr", "sbin"], ["usr", "share"], ["usr", "src"], ["var"], ["var", "cache"], ["var", "lib"],
   ["var", "lock"], ["var", "log"], ["var", "run"], ["var", "spool"], ["var", "tmp"]]

/-- The directories that are made by the system and take no other files. -/
def sealedDirectories : List (List String) :=
  [["dev", "fd"], ["dev", "mqueue"], ["dev", "pts"], ["proc"], ["sys"]]

/-- Where a path starts. -/
inductive Start where
  | root
  | workingDirectory
  deriving DecidableEq, Repr

namespace Start

/-- Files can be made in the directory. -/
def isOpen (s : Start) (directory : List String) : Bool :=
  match s with
  | root => directories.contains directory
  | workingDirectory => directory.isEmpty

/-- The directory exists. -/
def isKnown (s : Start) (directory : List String) : Bool :=
  s.isOpen directory || (s = root && sealedDirectories.contains directory)

/-- The directory that a name leads to from another, if it is one of those that are known. -/
def enter (s : Start) (directory : List String) (name : String) : Option (List String) :=
  if name = "" ∨ name = "." then some directory
  else if name = ".." then some directory.dropLast
  else if s.isKnown (directory ++ [name]) then some (directory ++ [name])
  else none

end Start

/-- The most bytes that a path may have. -/
def maxPath : Nat := 4095

/-- The most bytes that a name may have. -/
def maxName : Nat := 255

/-- A file may have the name. -/
def isFileName (name : String) : Bool :=
  !(["", ".", ".."].contains name) && name.utf8ByteSize ≤ maxName

/-- A file can be opened under the path. -/
def canOpen (path : String) : Bool :=
  let s := if path.toList.head? = some '/' then Start.root else .workingDirectory
  let names := path.splitOn "/"
  !path.toList.contains '\x00' && path.utf8ByteSize ≤ maxPath &&
    match names.dropLast.foldlM s.enter [], names.getLast? with
    | some directory, some name =>
      isFileName name && s.isOpen directory && !s.isKnown (directory ++ [name])
    | _, _ => false

end GpuCluster.LogFile
