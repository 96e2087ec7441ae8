import PodIsolation.Address.Socket
import PodIsolation.Iptables.Driver
import PodIsolation.LogFilter
import PodIsolation.Policy.Compile
import PodIsolation.Text.Duration

/-!
# Command line

## Options

Every option takes one value, as the next argument or after an equals sign, and
may be given once.  Two options may also come from the environment.  An option
that stands in its own argument is settled when the next one is met, so an
unknown option right after it is the error that counts.
-/

namespace PodIsolation

inductive UsageError where
  | missingRequired
  /-- The option has no value, or an empty one where none is allowed. -/
  | noValue
  | badValue
  | unknown
  | repeated
  /-- Reading the value breaks down. -/
  | broken
deriving DecidableEq, Repr

inductive LogFormat where
  | plain
  | json
deriving DecidableEq, Repr

inductive CliOption where
  | logLevel
  | logFormat
  | cluster
  | context
  | user
  | kubeconfig
  | impersonate
  | impersonateGroup
  | responseTimeout
  | adminAddr
  | nodeName
  | ruleEntries
  | iptablesPath
  | ip6tablesPath
  | gracePeriod
deriving DecidableEq, Repr

def CliOption.ofName? : String -> Option CliOption
  | "log-level" => some .logLevel
  | "log-format" => some .logFormat
  | "cluster" => some .cluster
  | "context" => some .context
  | "user" => some .user
  | "kubeconfig" => some .kubeconfig
  | "as" => some .impersonate
  | "as-group" => some .impersonateGroup
  | "kube-api-response-headers-timeout" => some .responseTimeout
  | "admin-addr" => some .adminAddr
  | "node-name" => some .nodeName
  | "rule-entries" => some .ruleEntries
  | "iptables-path" => some .iptablesPath
  | "ip6tables-path" => some .ip6tablesPath
  | "shutdown-grace-period-secs" => some .gracePeriod
  | _ => none

structure Settings where
  logFormat : LogFormat := .plain
  adminAddr : SocketAddress := .v4 { a := 0, b := 0, c := 0, d := 0 } 8080
  entries : EntryMode := .first
  programs : FilterPrograms := {}
  gracePeriodSecs : Nat := 5
  nodeName : String

/-!
## Reading arguments
-/

/-- What has been read so far. -/
structure Reading where
  settings : Settings := { nodeName := "" }
  given : List CliOption := []

def path? (text : String) : Except UsageError String :=
  if text.isEmpty then .error .noValue else .ok text

def valid (value : Option alpha) : Except UsageError alpha :=
  match value with
  | some v => .ok v
  | none => .error .badValue

def readLogFormat? : String -> Option LogFormat
  | "plain" => some .plain
  | "json" => some .json
  | _ => none

def checkLogFilter (text : String) : Except UsageError Unit :=
  match LogFilter.check text with
  | .ok () => .ok ()
  | .error .malformed => .error .badValue
  | .error .misplaced => .error .broken

def checkDuration (text : String) : Except UsageError Unit :=
  match Duration.ofText text with
  | .ok _ => .ok ()
  | .error .malformed => .error .badValue
  | .error .outOfBounds => .error .broken

/-- The settings with the value of an option. -/
def Settings.assign (s : Settings) (o : CliOption) (value : String) :
    Except UsageError Settings :=
  match o with
  | .logLevel => (checkLogFilter value).map fun () => s
  | .logFormat => do return { s with logFormat := <- valid (readLogFormat? value) }
  | .cluster => .ok s
  | .context => .ok s
  | .user => .ok s
  | .impersonate => .ok s
  | .impersonateGroup => .ok s
  | .responseTimeout => (checkDuration value).map fun () => s
  | .kubeconfig => do
      let _ <- path? value
      return s
  | .adminAddr => do return { s with adminAddr := <- valid (SocketAddress.ofText? value) }
  | .nodeName => .ok { s with nodeName := value }
  | .ruleEntries => do return { s with entries := <- valid (EntryMode.ofName? value) }
  | .iptablesPath => do
      return { s with programs := { s.programs with v4 := <- path? value } }
  | .ip6tablesPath => do
      return { s with programs := { s.programs with v6 := <- path? value } }
  | .gracePeriod => do
      return { s with
        gracePeriodSecs := <- valid (Numeral.signedDecimalBelow? UInt64.size value.toList) }

namespace Reading

def assign (r : Reading) (o : CliOption) (value : String) : Except UsageError Reading :=
  if o ∈ r.given then .error .repeated
  else do return { settings := <- r.settings.assign o value, given := o :: r.given }

/-- Settles an option that stood in its own argument. -/
def settle (r : Reading) : Option (CliOption × Option String) -> Except UsageError Reading
  | none => .ok r
  | some (_, none) => .error .noValue
  | some (o, some value) => r.assign o value

/-- Reads the arguments; the option that stands in its own argument, with its
value if that has been met, is kept until it is settled. -/
def scan (r : Reading) (pending : Option (CliOption × Option String)) :
    List String -> Except UsageError Reading
  | [] => r.settle pending
  | arg :: rest =>
      match arg.toList with
      | ['-', '-'] => if rest.isEmpty then r.settle pending else .error .unknown
      | '-' :: '-' :: long =>
          let name := String.ofList (long.takeWhile (· != '='))
          match CliOption.ofName? name, long.dropWhile (· != '=') with
          | none, _ => .error .unknown
          | some o, [] => do scan (<- r.settle pending) (some (o, none)) rest
          | some o, _ :: value => do
              scan (<- (<- r.settle pending).assign o (String.ofList value)) none rest
      | '-' :: _ :: _ => .error .unknown
      | _ =>
          match pending with
          | some (o, none) => scan r (some (o, some arg)) rest
          | _ => .error .unknown

/-- Takes an option from the environment unless it was given. -/
def fromEnv (r : Reading) (o : CliOption) : Option String -> Except UsageError Reading
  | none => .ok r
  | some value => if o ∈ r.given then .ok r else r.assign o value

end Reading

/-- The variables of the environment that hold options. -/
structure Environment where
  nodeName : Option String := none
  logLevel : Option String := none

/-- The command line as read, with the options that were given. -/
def readCommandLine (args : List String) (env : Environment) : Except UsageError Reading := do
  let r <- Reading.scan {} none args
  let r <- r.fromEnv .logLevel env.logLevel
  let r <- r.fromEnv .nodeName env.nodeName
  if .nodeName ∈ r.given then return r else .error .missingRequired

/-- Whether an option chooses how the server is reached. -/
def CliOption.choosesServer : CliOption -> Bool
  | .cluster => true
  | .context => true
  | .user => true
  | .kubeconfig => true
  | _ => false

end PodIsolation
