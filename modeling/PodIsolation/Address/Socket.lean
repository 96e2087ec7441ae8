import PodIsolation.Address.Cidr

/-!
# Socket addresses

## An address with a port

An IPv6 address stands in brackets and may name a scope by number.  Port and
scope are decimal numerals of any length.
-/

namespace PodIsolation

inductive SocketAddress where
  | v4 (address : IPv4) (port : UInt16)
  | v6 (address : IPv6) (scope : UInt32) (port : UInt16)
deriving DecidableEq, Repr

namespace SocketAddress

/-- A scope of zero is not printed. -/
def text : SocketAddress -> String
  | .v4 a port => a.text ++ ":" ++ toString port.toNat
  | .v6 a scope port =>
      let zone := if scope = 0 then "" else "%" ++ toString scope.toNat
      "[" ++ a.text ++ zone ++ "]:" ++ toString port.toNat

def port? (text : List Char) : Option UInt16 :=
  (Numeral.decimalBelow? 65536 text).map UInt16.ofNat

def ofV4? (text : List Char) : Option SocketAddress :=
  match text.splitOn ':' with
  | [address, port] => do
      let a <- IPv4.ofChars? .plain address
      let p <- port? port
      return .v4 a p
  | _ => none

/-- What stands between the brackets. -/
def zoned? (text : List Char) : Option (IPv6 × UInt32) :=
  match text.splitOn '%' with
  | [address] => (IPv6.ofChars? .plain address).map fun a => (a, 0)
  | [address, scope] => do
      let a <- IPv6.ofChars? .plain address
      let s <- Numeral.decimalBelow? UInt32.size scope
      return (a, UInt32.ofNat s)
  | _ => none

def ofV6? (text : List Char) : Option SocketAddress :=
  match text with
  | '[' :: rest =>
      match rest.splitOn ']' with
      | [inner, ':' :: port] => do
          let (a, s) <- zoned? inner
          let p <- port? port
          return .v6 a s p
      | _ => none
  | _ => none

def ofText? (text : String) : Option SocketAddress :=
  match ofV4? text.toList with
  | some a => some a
  | none => ofV6? text.toList

end SocketAddress

end PodIsolation
