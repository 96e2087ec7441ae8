import PodIsolation.Policy.Peer

/-!
# Compilation of policies

## From policies to rules

Each entry of a policy admits traffic between the pod and the endpoints that
the peers of the entry select, on the ports of the entry.  An entry that
declares ports of which none is valid admits nothing, since compiling it
without ports would admit them all.
-/

namespace PodIsolation

/-- Which entries of a policy are honoured. -/
inductive EntryMode where
  | first
  | all
deriving DecidableEq, Repr

namespace EntryMode

def name : EntryMode -> String
  | .first => "first"
  | .all => "all"

/-- Names of modes are read without regard to case. -/
def ofName? (name : String) : Option EntryMode :=
  [first, all].find? fun m => Text.sameLetters name m.name

/-- Why a name of a mode was refused. -/
def refusal (name : String) : String :=
  "invalid rule entries mode: " ++ name ++ "; expected 'first' or 'all'"

def honoured (mode : EntryMode) (entries : List alpha) : List alpha :=
  match mode with
  | .first => entries.take 1
  | .all => entries

end EntryMode

/-- What a valid port of a policy asks of a packet. -/
structure PortMatch where
  protocol : Protocol
  port : Option Port
deriving DecidableEq, Repr

namespace PortMatch

/-- No protocol, or an empty one, means TCP. -/
def protocolOf? : Option String -> Option Protocol
  | none => some .tcp
  | some "" => some .tcp
  | some name => Protocol.ofName? name

/-- The port of a specification: `none` if it is invalid, and `some none` if it
stands for every port.  Text that is no number of 16 bits is a name. -/
def portOf? : Option PortSpec -> Option (Option Port)
  | none => some none
  | some (.number n) => (PortNumber.ofInt? n.toInt).map fun n => some (.number n)
  | some (.text s) =>
      match Numeral.signedDecimalBelow? 65536 s.toList with
      | some n => (PortNumber.ofNat? n).map fun n => some (.number n)
      | none => if s.isEmpty then some none else some (some (.named s))

def ofPort? (p : PolicyPort) : Option PortMatch := do
  let protocol <- protocolOf? p.protocol
  let port <- portOf? p.port
  return { protocol, port }

end PortMatch

/-!
## Rules for one endpoint
-/

/-- A rule that matches the traffic of one direction with an address. -/
def Rule.withPeer (d : Direction) (a : Address) : Rule :=
  match d with
  | .ingress => { source := some (.host a) }
  | .egress => { dest := some (.host a) }

/-- One rule for each port, or one rule for all traffic if there are no ports. -/
def peerRules (d : Direction) (ports : List PortMatch) (a : Address) : List Rule :=
  if ports.isEmpty then [Rule.withPeer d a]
  else ports.map fun p =>
    { Rule.withPeer d a with protocol := some p.protocol, destPort := p.port }

namespace RuleSet

/-- Adds the rules for an endpoint to the chain of each family that it has an
address of. -/
def grant (d : Direction) (ports : List PortMatch) (s : RuleSet) (e : Endpoint) :
    RuleSet :=
  [Family.v4, Family.v6].foldl
    (fun s f => match e.address? f with
      | some a => s.append ⟨d, f⟩ (peerRules d ports a)
      | none => s)
    s

end RuleSet

/-!
## Entries and policies
-/

/-- The endpoints that the peers of an entry select, each once. -/
def selectedEndpoints (x : EndpointIndex) (ns : String) (peers : List Peer) :
    List Endpoint :=
  keepFirst Endpoint.uid
    (peers.flatMap fun p => match PeerCriteria.ofPeer ns p with
      | .ok criteria => criteria.resolve x
      | .error _ => [])

def compileEntry (x : EndpointIndex) (ns : String) (d : Direction) (s : RuleSet)
    (entry : PolicyEntry) : RuleSet :=
  let ports := entry.ports.filterMap PortMatch.ofPort?
  if ports.isEmpty && !entry.ports.isEmpty then s
  else (selectedEndpoints x ns entry.peers).foldl (RuleSet.grant d ports) s

/-- The entries of a policy for a direction. -/
def Policy.entries (p : Policy) : Direction -> List PolicyEntry
  | .ingress => p.spec.ingress
  | .egress => p.spec.egress

def compilePolicy (x : EndpointIndex) (mode : EntryMode) (s : RuleSet) (p : Policy) :
    RuleSet :=
  let ns := p.metadata.ns.getD ""
  [Direction.ingress, Direction.egress].foldl
    (fun s d => (mode.honoured (p.entries d)).foldl (compileEntry x ns d) s)
    s

/-- The rule set that the given policies ask for, in their order. -/
def compile (policies : List Policy) (x : EndpointIndex) (netns : String)
    (mode : EntryMode) : RuleSet :=
  policies.foldl (compilePolicy x mode) { netns }

end PodIsolation
