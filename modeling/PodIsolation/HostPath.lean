/-!
# Paths of the host

## Files that every host has

A path is resolved name by name in a tree of the directories and files that
every host has.  Names that only lead back to the same place are passed over.
-/

namespace PodIsolation

/-- Why a path leads nowhere. -/
inductive PathError where
  | notFound
  | notDirectory
  | nameTooLong
deriving DecidableEq, Repr

def PathError.message : PathError -> String
  | .notFound => "No such file or directory (os error 2)"
  | .notDirectory => "Not a directory (os error 20)"
  | .nameTooLong => "File name too long (os error 36)"

namespace HostPath

def directories : List (List String) :=
  [[], ["bin"], ["dev"], ["etc"], ["home"], ["lib"], ["opt"], ["proc"], ["proc", "self"],
    ["proc", "self", "fd"], ["proc", "self", "ns"], ["proc", "sys"], ["root"], ["run"],
    ["sbin"], ["sys"], ["tmp"], ["usr"], ["usr", "bin"], ["usr", "lib"], ["usr", "local"],
    ["usr", "share"], ["var"], ["var", "lib"], ["var", "log"], ["var", "run"]]

/-- Files that are no directories. -/
def files : List (List String) :=
  [["bin", "sh"],
    ["dev", "null"], ["dev", "zero"], ["dev", "full"], ["dev", "random"], ["dev", "urandom"],
    ["etc", "passwd"], ["etc", "group"], ["etc", "hostname"], ["etc", "hosts"],
    ["proc", "version"], ["proc", "cpuinfo"], ["proc", "meminfo"], ["proc", "uptime"],
    ["proc", "self", "status"], ["proc", "self", "cmdline"], ["proc", "self", "exe"],
    ["proc", "self", "maps"],
    ["proc", "self", "ns", "uts"], ["proc", "self", "ns", "ipc"],
    ["proc", "self", "ns", "mnt"], ["proc", "self", "ns", "pid"],
    ["proc", "self", "ns", "user"], ["proc", "self", "ns", "cgroup"],
    ["proc", "self", "ns", "time"]]

/-- The longest name of a file, in bytes. -/
def nameLimit : Nat := 255

/-- The longest path, in bytes. -/
def pathLimit : Nat := 4095

/-- Walks the rest of a path from a directory, up to a directory or a file. -/
def walk (dir : List String) : List String -> Except PathError Unit
  | [] => .ok ()
  | "" :: rest => walk dir rest
  | "." :: rest => walk dir rest
  | ".." :: rest => walk dir.dropLast rest
  | name :: rest =>
      let path := dir ++ [name]
      if nameLimit < name.utf8ByteSize then .error .nameTooLong
      else if path ∈ directories then walk path rest
      else if path ∈ files then
        if rest.isEmpty then .ok () else .error .notDirectory
      else .error .notFound

/-- Resolves a path.  Relative paths start at a home directory, whose files are
not known. -/
def resolve (path : String) : Except PathError Unit :=
  if path.isEmpty then .error .notFound
  else if pathLimit < path.utf8ByteSize then .error .nameTooLong
  else match path.splitOn "/" with
    | "" :: rest => walk [] rest
    | names => walk ["root"] names

end HostPath

end PodIsolation
