import PodIsolation.Address.Cidr
import PodIsolation.Text.Letters

/-!
# Packet-filter rules

## Rules as argument lists

A rule matches packets by protocol, ports, interfaces and addresses, and sends
those that match to a target.  The packet filter takes a rule as a list of
arguments: a flag and a value for each criterion, in a fixed order, and last
the target.  A rule without a target accepts.
-/

namespace PodIsolation

inductive Protocol where
  | tcp
  | udp
  | sctp
deriving DecidableEq, Repr

namespace Protocol

def name : Protocol -> String
  | .tcp => "tcp"
  | .udp => "udp"
  | .sctp => "sctp"

/-- Names of protocols are read without regard to case. -/
def ofName? (name : String) : Option Protocol :=
  [tcp, udp, sctp].find? fun p => Text.sameLetters name p.name

/-- Why a name of a protocol was refused. -/
def refusal (name : String) : String :=
  "unknown protocol: " ++ name

end Protocol

/-- A port number that a packet can carry; zero is none. -/
structure PortNumber where
  val : Nat
  pos : 0 < val
  lt : val < 65536
deriving DecidableEq, Repr

namespace PortNumber

def ofNat? (n : Nat) : Option PortNumber :=
  if h : 0 < n ∧ n < 65536 then some { val := n, pos := h.1, lt := h.2 } else none

def ofInt? : Int -> Option PortNumber
  | .ofNat n => ofNat? n
  | .negSucc _ => none

end PortNumber

/-- A port by number, or by a name that the packet filter resolves. -/
inductive Port where
  | number (n : PortNumber)
  | named (name : String)
deriving DecidableEq, Repr

def Port.text : Port -> String
  | .number n => toString n.val
  | .named name => name

inductive Target where
  | accept
  | reject
  | return
  | jump (chain : String)
deriving DecidableEq, Repr

def Target.text : Target -> String
  | .accept => "ACCEPT"
  | .reject => "REJECT"
  | .return => "RETURN"
  | .jump chain => chain

structure Rule where
  protocol : Option Protocol := none
  sourcePort : Option Port := none
  destPort : Option Port := none
  inInterface : Option String := none
  outInterface : Option String := none
  source : Option Cidr := none
  dest : Option Cidr := none
  target : Option Target := none
deriving DecidableEq, Repr

namespace Rule

def jump (chain : String) : Rule :=
  { target := some (.jump chain) }

def returning : Rule :=
  { target := some .return }

def rejecting : Rule :=
  { target := some .reject }

/-- A flag with its value, or nothing. -/
def flag (name : String) : Option String -> List String
  | none => []
  | some value => [name, value]

def args (r : Rule) : List String :=
  flag "-p" (r.protocol.map Protocol.name) ++
  flag "--sport" (r.sourcePort.map Port.text) ++
  flag "--dport" (r.destPort.map Port.text) ++
  flag "-i" r.inInterface ++
  flag "-o" r.outInterface ++
  flag "-s" (r.source.map Cidr.text) ++
  flag "-d" (r.dest.map Cidr.text) ++
  ["-j", (r.target.getD .accept).text]

end Rule

end PodIsolation
