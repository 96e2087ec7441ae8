import PodIsolation.Filter.Table
import PodIsolation.Proofs.AddressText

/-!
# Packets and verdicts

## What a table does with a packet

A table holds the argument lists of its rules.  This module says which packets
such a list matches and what becomes of a packet that traverses a chain: the
first rule that matches decides, a jump enters another chain, and a packet that
comes to the end of that chain, or returns from it, goes on behind the jump.  A
packet that comes to the end of a built-in chain is accepted.
-/

namespace PodIsolation

/-!
# Packets
-/

def Address.family : Address -> Family
  | .v4 _ => .v4
  | .v6 _ => .v6

/-- The protocol of a packet, where it is one that has ports. -/
structure Transport where
  protocol : Protocol
  sourcePort : Nat
  destPort : Nat
deriving DecidableEq, Repr

/-- A packet of one family, with the interfaces that it passes. -/
structure Packet where
  source : Address
  dest : Address
  sameFamily : dest.family = source.family := by rfl
  transport : Option Transport := none
  inInterface : Option String := none
  outInterface : Option String := none

def Packet.family (p : Packet) : Family :=
  p.source.family

/-!
# Blocks and addresses

An address lies in a block if it agrees with the block in as many leading bits
as the prefix length says.
-/

namespace IPv4

def value (address : IPv4) : Nat :=
  ((address.a.toNat * 256 + address.b.toNat) * 256 + address.c.toNat) * 256 +
    address.d.toNat

theorem value_injective {x y : IPv4} (h : x.value = y.value) : x = y := by
  rcases x with ⟨a, b, c, d⟩
  rcases y with ⟨a', b', c', d'⟩
  have hb := b.toNat_lt
  have hc := c.toNat_lt
  have hd := d.toNat_lt
  have hb' := b'.toNat_lt
  have hc' := c'.toNat_lt
  have hd' := d'.toNat_lt
  simp only [value] at h
  rw [UInt8.toNat_inj.mp (show a.toNat = a'.toNat by omega),
    UInt8.toNat_inj.mp (show b.toNat = b'.toNat by omega),
    UInt8.toNat_inj.mp (show c.toNat = c'.toNat by omega),
    UInt8.toNat_inj.mp (show d.toNat = d'.toNat by omega)]

end IPv4

namespace IPv6

def groupsValue (groups : List UInt16) : Nat :=
  groups.foldl (fun n g => n * 65536 + g.toNat) 0

def value (address : IPv6) : Nat :=
  groupsValue address.groups

theorem groupsValue_injective {xs ys : List UInt16} (hlength : xs.length = ys.length)
    (h : groupsValue xs = groupsValue ys) : xs = ys := by
  -- The value that the groups before have added up to has to be arbitrary.
  have hfold : forall (xs ys : List UInt16) (m n : Nat), xs.length = ys.length ->
      xs.foldl (fun n g => n * 65536 + g.toNat) m =
        ys.foldl (fun n g => n * 65536 + g.toNat) n ->
      m = n ∧ xs = ys := by
    intro xs
    induction xs with
    | nil =>
        intro ys m n hlength h
        cases ys with
        | nil => exact ⟨h, rfl⟩
        | cons y ys => cases hlength
    | cons x xs ih =>
        intro ys m n hlength h
        cases ys with
        | nil => cases hlength
        | cons y ys =>
            rcases ih ys (m * 65536 + x.toNat) (n * 65536 + y.toNat)
              (Nat.succ.inj hlength) h with ⟨hsum, hrest⟩
            have hx := x.toNat_lt
            have hy := y.toNat_lt
            have hgroup : x = y := UInt16.toNat_inj.mp (by omega)
            exact ⟨by omega, by rw [hgroup, hrest]⟩
  exact (hfold xs ys 0 0 hlength h).right

theorem value_injective {x y : IPv6} (h : x.value = y.value) : x = y := by
  rcases x with ⟨xs, hxs⟩
  rcases y with ⟨ys, hys⟩
  have hgroups : xs = ys := groupsValue_injective (hxs.trans hys.symm) h
  subst hgroups
  rfl

end IPv6

namespace Cidr

def contains : Cidr -> Address -> Bool
  | .v4 block length, .v4 a =>
      block.value >>> (32 - length.val) == a.value >>> (32 - length.val)
  | .v6 block length, .v6 a =>
      block.value >>> (128 - length.val) == a.value >>> (128 - length.val)
  | _, _ => false

/-- The block of a host contains that host and no other. -/
@[simp] theorem host_contains (a b : Address) : (host a).contains b = true <-> a = b := by
  cases a with
  | v4 a =>
      cases b with
      | v4 b =>
          have hvalue : (host (.v4 a)).contains (.v4 b) = (a.value == b.value) := by
            show (a.value >>> 0 == b.value >>> 0) = (a.value == b.value)
            rw [Nat.shiftRight_zero, Nat.shiftRight_zero]
          rw [hvalue, beq_iff_eq, Address.v4.injEq]
          exact ⟨IPv4.value_injective, congrArg IPv4.value⟩
      | v6 b => simp [host, contains]
  | v6 a =>
      cases b with
      | v4 b => simp [host, contains]
      | v6 b =>
          have hvalue : (host (.v6 a)).contains (.v6 b) = (a.value == b.value) := by
            show (a.value >>> 0 == b.value >>> 0) = (a.value == b.value)
            rw [Nat.shiftRight_zero, Nat.shiftRight_zero]
          rw [hvalue, beq_iff_eq, Address.v6.injEq]
          exact ⟨IPv6.value_injective, congrArg IPv6.value⟩

end Cidr

/-!
# Targets
-/

/-- Text that is no target of the filter itself names a chain. -/
def Target.ofText : String -> Target
  | "ACCEPT" => .accept
  | "REJECT" => .reject
  | "RETURN" => .return
  | chain => .jump chain

/-!
# Rules as the filter reads them

The arguments of a rule are options, each a flag with its value.  A rule
matches a packet that satisfies every option, and its last option names the
target.
-/

namespace Rule

def options : List String -> List (String × String)
  | flag :: value :: rest => (flag, value) :: options rest
  | _ => []

/-- What happens to the packets that a rule matches. -/
def targetOf? (args : List String) : Option Target :=
  ((options args).lookup "-j").map Target.ofText

/-- The options of a rule before its target. -/
def criteria (r : Rule) : List (String × String) :=
  (r.protocol.map fun p => ("-p", p.name)).toList ++
  (r.sourcePort.map fun p => ("--sport", p.text)).toList ++
  (r.destPort.map fun p => ("--dport", p.text)).toList ++
  (r.inInterface.map fun i => ("-i", i)).toList ++
  (r.outInterface.map fun i => ("-o", i)).toList ++
  (r.source.map fun b => ("-s", b.text)).toList ++
  (r.dest.map fun b => ("-d", b.text)).toList

def effect (r : Rule) : Target :=
  r.target.getD .accept

theorem options_flag_append (name : String) (value : Option String) (rest : List String) :
    options (flag name value ++ rest) =
      (value.map fun v => (name, v)).toList ++ options rest := by
  cases value <;> rfl

theorem options_args (r : Rule) :
    options r.args = r.criteria ++ [("-j", r.effect.text)] := by
  simp [args, criteria, effect, options_flag_append, List.append_assoc, options,
    Function.comp_def]

theorem lookup_criteria (r : Rule) : r.criteria.lookup "-j" = none := by
  simp only [List.lookup_eq_none_iff, criteria, List.mem_append, Option.mem_toList,
    Option.map_eq_some_iff]
  intro option hoption
  rcases hoption with ((((((⟨_, _, rfl⟩ | ⟨_, _, rfl⟩) | ⟨_, _, rfl⟩) | ⟨_, _, rfl⟩) |
    ⟨_, _, rfl⟩) | ⟨_, _, rfl⟩) | ⟨_, _, rfl⟩) <;> rfl

@[simp] theorem targetOf?_args (r : Rule) :
    targetOf? r.args = some (Target.ofText r.effect.text) := by
  simp [targetOf?, options_args, List.lookup_append, lookup_criteria]

end Rule

/-- The ports of a protocol that a service name stands for. -/
abbrev Services := String -> Protocol -> Nat -> Bool

namespace Services

/-- Text that is a number of 16 bits is that port, and all other text a name. -/
def resolves (services : Services) (text : String) (protocol : Protocol) (port : Nat) :
    Bool :=
  match Numeral.decimalBelow? 65536 text.toList with
  | some n => port == n
  | none => services text protocol port

end Services

namespace Packet

variable (services : Services) (p : Packet)

def satisfies (option : String × String) : Bool :=
  match option.1 with
  | "-p" => p.transport.any fun t => t.protocol.name == option.2
  | "--sport" => p.transport.any fun t => services.resolves option.2 t.protocol t.sourcePort
  | "--dport" => p.transport.any fun t => services.resolves option.2 t.protocol t.destPort
  | "-i" => p.inInterface == some option.2
  | "-o" => p.outInterface == some option.2
  | "-s" => (Cidr.ofText? option.2).any fun block => block.contains p.source
  | "-d" => (Cidr.ofText? option.2).any fun block => block.contains p.dest
  | "-j" => true
  | _ => false

/-- The packet satisfies every option of a rule. -/
def meets (args : List String) : Bool :=
  (Rule.options args).all (p.satisfies services)

theorem meets_args (r : Rule) :
    p.meets services r.args = r.criteria.all (p.satisfies services) := by
  simp [meets, Rule.options_args, satisfies]

theorem satisfies_protocol (protocol : Protocol) :
    p.satisfies services ("-p", protocol.name) = true <->
      exists t, p.transport = some t ∧ t.protocol = protocol := by
  have hname : forall q : Protocol, q.name = protocol.name <-> q = protocol := by
    intro q
    cases q <;> cases protocol <;> decide
  cases htransport : p.transport <;> simp [satisfies, htransport, hname]

theorem satisfies_destPort (text : String) :
    p.satisfies services ("--dport", text) = true <->
      exists t, p.transport = some t ∧
        services.resolves text t.protocol t.destPort = true := by
  cases htransport : p.transport <;> simp [satisfies, htransport]

theorem satisfies_source (block : Cidr) :
    p.satisfies services ("-s", block.text) = block.contains p.source := by
  simp [satisfies]

theorem satisfies_dest (block : Cidr) :
    p.satisfies services ("-d", block.text) = block.contains p.dest := by
  simp [satisfies]

end Packet

/-!
# Traversal
-/

/-- What becomes of a packet in a chain: it is accepted or rejected there, or it
passes the chain and goes on where it was sent from. -/
inductive Verdict where
  | accepted
  | rejected
  | passed
deriving DecidableEq, Repr

/-- Traverses rules.  The verdicts of the chains that are jumped to are given. -/
def traverse (services : Services) (p : Packet) (enter : String -> Option Verdict) :
    List (List String) -> Option Verdict
  | [] => some .passed
  | args :: rest =>
      if p.meets services args then
        match Rule.targetOf? args with
        | none => traverse services p enter rest
        | some .accept => some .accepted
        | some .reject => some .rejected
        | some .return => some .passed
        | some (.jump chain) =>
            match enter chain with
            | some .passed => traverse services p enter rest
            | verdict => verdict
      else traverse services p enter rest

section Traversal

variable {services : Services} {p : Packet} {enter enter' : String -> Option Verdict}
variable {args : List String} {rules rest : List (List String)}

theorem traverse_cons_of_not_meets (h : p.meets services args = false) :
    traverse services p enter (args :: rest) = traverse services p enter rest := by
  simp [traverse, h]

theorem traverse_cons_accept (h : p.meets services args = true)
    (htarget : Rule.targetOf? args = some .accept) :
    traverse services p enter (args :: rest) = some .accepted := by
  simp [traverse, h, htarget]

theorem traverse_cons_reject (h : p.meets services args = true)
    (htarget : Rule.targetOf? args = some .reject) :
    traverse services p enter (args :: rest) = some .rejected := by
  simp [traverse, h, htarget]

theorem traverse_cons_return (h : p.meets services args = true)
    (htarget : Rule.targetOf? args = some .return) :
    traverse services p enter (args :: rest) = some .passed := by
  simp [traverse, h, htarget]

theorem traverse_cons_jump {chain : String} (h : p.meets services args = true)
    (htarget : Rule.targetOf? args = some (.jump chain)) :
    traverse services p enter (args :: rest) =
      if enter chain = some .passed then traverse services p enter rest
      else enter chain := by
  simp only [traverse, h, htarget, if_true]
  rcases enter chain with _ | _ | _ | _ <;> rfl

end Traversal

namespace Table

variable (t : Table) (services : Services)

/-- The verdict of a chain that is entered by a jump, with jumps nested at most
so deep.  There is none if a chain is missing or the jumps nest deeper. -/
def verdict? (p : Packet) : Nat -> String -> Option Verdict
  | 0, _ => none
  | depth + 1, chain =>
      (t.get? chain).bind (traverse services p (verdict? p depth))

/-- A packet that enters a built-in chain is accepted unless it is rejected on
its way.  Without loops jumps nest no deeper than there are chains. -/
def accepts (chain : String) (p : Packet) : Bool :=
  let verdict := traverse services p (t.verdict? services p t.entries.length) (t.rules chain)
  verdict == some .accepted || verdict == some .passed

end Table

end PodIsolation
