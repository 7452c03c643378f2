import RpcStubs.Web.Domain
import RpcStubs.Web.Ip
import RpcStubs.Web.Percent

/-!
# Hosts

The host of an address is a numeric address or a name. Under the known schemes a name is a domain
name, and one that ends in a number has to be a numeric address; under all others a name is taken as
it is. Numeric addresses of version 6 stand in brackets everywhere.
-/

namespace RpcStubs

/-- A host. The name is empty if there is none. -/
inductive Host where
  | name (text : List Char)
  | ip4 (value : Nat)
  | ip6 (groups : List Nat)
  deriving DecidableEq, Repr

namespace Host

def text : Host → List Char
  | .name text => text
  | .ip4 value => Ip.text4 value
  | .ip6 groups => '[' :: Ip.text6 groups ++ [']']

/-- Reads a host that begins with a bracket, from behind the bracket on. -/
def ofBracketed? (cs : List Char) : Option Host :=
  if cs.getLast? = some ']' then (Ip.read6? cs.dropLast).map .ip6 else none

def ofKnown? : List Char → Option Host
  | '[' :: rest => ofBracketed? rest
  | cs => do
    let name ← Domain.ascii? (← Percent.decode? cs)
    if name.isEmpty then none
    else if Ip.endsInNumber name then (Ip.read4? name).map .ip4
    else return .name name

/-- A character that no host may contain. -/
def isForbidden (c : Char) : Bool :=
  [0x00, 0x09, 0x0A, 0x0D, 0x20].contains c.toNat
    || ['#', '/', ':', '<', '>', '?', '@', '[', '\\', ']', '^', '|'].contains c

def ofOther? : List Char → Option Host
  | '[' :: rest => ofBracketed? rest
  | cs => if cs.any isForbidden then none else some (.name (Percent.encode [] cs))

/-- Splits a host from what follows it. A colon within brackets does not end it. -/
def split (ends : Char → Bool) (bracketed : Bool) : List Char → List Char × List Char
  | [] => ([], [])
  | c :: rest =>
    if ends c || (c = ':' && !bracketed) then ([], c :: rest)
    else
      let (host, rest) := split ends (c = '[' || (bracketed && c ≠ ']')) rest
      (c :: host, rest)

end Host

end RpcStubs
