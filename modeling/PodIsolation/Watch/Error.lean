/-!
# Errors of watches

## Failures and interruptions

A watch may be interrupted without harm: the server has forgotten the version
that the watch started from, or the connection ended in the middle.  Such
errors are benign, since the stream goes on after them.  All others end the
watch.
-/

namespace PodIsolation

/-- The status that the server reports for a failed request. -/
structure ApiStatus where
  code : Nat
  reason : String := ""
  message : String := ""
deriving DecidableEq, Repr

/-- The version asked for is gone. -/
def ApiStatus.isExpired (s : ApiStatus) : Bool :=
  s.code == 410 || s.reason == "Expired" || s.reason == "Gone"

/-- What went wrong between this program and the server. -/
inductive ClientError where
  | api (status : ApiStatus)
  /-- Events could not be read; the kind is that of the failed read. -/
  | readEvents (kind : String)
  /-- The answer is no document of the expected form. -/
  | malformed
  /-- No answer arrived. -/
  | service (message : String)
  | other (name : String)
deriving DecidableEq, Repr

/-- Connections that end early show as this kind of read error. -/
def unexpectedEof : String := "UnexpectedEof"

def ClientError.isBenign : ClientError -> Bool
  | .api status => status.isExpired
  | .readEvents kind => kind == unexpectedEof
  | _ => false

inductive WatchError where
  /-- The server sent an error among the events. -/
  | reported (status : ApiStatus)
  | noResourceVersion
  | listFailed (cause : ClientError)
  | startFailed (cause : ClientError)
  | readFailed (cause : ClientError)
deriving DecidableEq, Repr

namespace WatchError

def kind : WatchError -> String
  | .reported _ => "WatchError"
  | .noResourceVersion => "NoResourceVersion"
  | .listFailed _ => "InitialListFailed"
  | .startFailed _ => "WatchStartFailed"
  | .readFailed _ => "WatchFailed"

def isBenign : WatchError -> Bool
  | .reported status => status.isExpired
  | .listFailed cause => cause.isBenign
  | .startFailed cause => cause.isBenign
  | .readFailed cause => cause.isBenign
  | .noResourceVersion => false

end WatchError

end PodIsolation
