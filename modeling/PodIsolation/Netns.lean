import PodIsolation.HostPath

/-!
# Network namespaces

## Entering a namespace by path

A namespace is entered through a file.  What can go wrong is decided by the
path: it may lead nowhere, or to something that is no network namespace.  None
of the files that every host has is one.
-/

namespace PodIsolation

inductive EnterError where
  | nulByte
  | unreachable (cause : PathError)
  | notNamespace
deriving DecidableEq, Repr

def EnterError.message : EnterError -> String
  | .nulByte => "file name contained an unexpected NUL byte"
  | .unreachable cause => cause.message
  | .notNamespace => "Invalid argument (os error 22)"

/-- Why the namespace at a path cannot be entered. -/
def enterNetns (path : String) : Except EnterError Unit :=
  if path.toList.contains '\x00' then .error .nulByte
  else match HostPath.resolve path with
    | .error cause => .error (.unreachable cause)
    | .ok () => .error .notNamespace

end PodIsolation
