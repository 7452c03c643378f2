import RpcStubs.Web.AddressPath
import RpcStubs.Web.Host

/-!
# Web addresses

An address has a scheme, mostly an authority with a host, a path, and at its end a query and a
fragment. It is kept in normal form: the scheme in lower case, the host as it is asked for, a port
unless it is the usual one of the scheme, a path without dot segments, and everything that may not
stand in its place percent-encoded. Schemes that belong to a known protocol need a host and treat
backslashes as slashes.
-/

namespace RpcStubs

/-- Who asks: a name and perhaps a password, both percent-encoded. -/
structure User where
  name : List Char
  password : Option (List Char)
  deriving DecidableEq, Repr

/-- Whom to ask: a host and a port, and who asks. -/
structure Authority where
  user : Option User
  host : Host
  port : Option Nat
  deriving DecidableEq, Repr

/-- An address in normal form. -/
structure Address where
  scheme : List Char
  authority : Option Authority
  path : List Char
  query : Option (List Char)
  fragment : Option (List Char)
  deriving DecidableEq, Repr

/-! ## Writing addresses -/

/-- The text of who asks, with its mark. -/
def User.text (user : User) : List Char :=
  user.name ++ (user.password.elim [] (':' :: ·)) ++ ['@']

def Authority.text (authority : Authority) : List Char :=
  authority.user.elim [] User.text ++ authority.host.text
    ++ authority.port.elim [] fun (port : Nat) => ':' :: Nat.toDigits 10 port

namespace Address

/-- What stands between the scheme and the path. A path that would look like an authority gets a dot
segment before it. -/
def authorityText (address : Address) : List Char :=
  match address.authority with
  | some authority => '/' :: '/' :: authority.text
  | none => if ['/', '/'].isPrefixOf address.path then ['/', '.'] else []

def text (address : Address) : String :=
  String.ofList
    (address.scheme ++ ':' :: address.authorityText ++ address.path
      ++ address.query.elim [] ('?' :: ·) ++ address.fragment.elim [] ('#' :: ·))

/-- The text of the scheme and the authority, with a slash for the path. -/
def root (address : Address) : String :=
  String.ofList (address.scheme ++ ':' :: address.authorityText ++ ['/'])

/-! ## Schemes -/

/-- The known schemes that need a host, with their usual ports. -/
def usualPorts : List (List Char × Nat) :=
  [("http".toList, 80), ("https".toList, 443), ("ws".toList, 80), ("wss".toList, 443),
    ("ftp".toList, 21)]

/-- A character of a scheme after the first. -/
def isSchemeChar (c : Char) : Bool :=
  c.isAlphanum || c = '+' || c = '-' || c = '.'

/-- Splits the scheme, in lower case, from what follows its colon. -/
def splitScheme? (cs : List Char) : Option (List Char × List Char) :=
  match cs with
  | [] => none
  | c :: _ =>
    match cs.dropWhile isSchemeChar with
    | ':' :: rest =>
      if c.isAlpha then some ((cs.takeWhile isSchemeChar).map Char.toLower, rest) else none
    | _ => none

/-- A character that separates segments, under a known scheme or another one. -/
def isSlash (known : Bool) (c : Char) : Bool :=
  c = '/' || (known && c = '\\')

/-- A character that ends an authority, under a known scheme or another one. -/
def endsAuthority (known : Bool) (c : Char) : Bool :=
  isSlash known c || c = '?' || c = '#'

/-! ## Authorities -/

/-- What is encoded in the name and the password of who asks. -/
def userReserved : List Char :=
  AddressPath.reserved ++ ['/', ':', ';', '=', '@', '[', '\\', ']', '^', '|']

/-- Splits a text at the last `@` of the authority that it begins with. -/
def splitUser? (known : Bool) (cs : List Char) : Option (List Char × List Char) :=
  let authority := cs.takeWhile (!endsAuthority known ·)
  let host := (authority.reverse.takeWhile (· ≠ '@')).reverse
  if host.length = authority.length then none
  else
    let size := authority.length - host.length
    some (cs.take (size - 1), cs.drop size)

/-- Reads who asks. An empty name without a password is nobody. -/
def readUser (cs : List Char) : Option User :=
  let name := Percent.encode userReserved (cs.takeWhile (· ≠ ':'))
  match cs.dropWhile (· ≠ ':') with
  | _ :: c :: password => some ⟨name, some (Percent.encode userReserved (c :: password))⟩
  | _ => if name.isEmpty then none else some ⟨name, none⟩

/-- Reads the port that may follow a host; the usual one of the scheme goes without saying. -/
def readPort? (usual : Option Nat) : List Char → Option (Option Nat × List Char)
  | ':' :: rest =>
    let digits := rest.takeWhile Char.isDigit
    let after := rest.dropWhile Char.isDigit
    let port := digits.foldl (fun n c => 10 * n + (c.toNat - '0'.toNat)) 0
    if 65535 < port ∨ !after.head?.all (endsAuthority true) then none
    else some (if digits.isEmpty ∨ usual = some port then none else some port, after)
  | rest => some (none, rest)

/-- Reads an authority under a scheme with a usual port, which is a known one, or under another one.
An authority that names who asks or a port has a host. -/
def readAuthority? (usual : Option Nat) (cs : List Char) : Option (Authority × List Char) := do
  let known := usual.isSome
  let (user, cs) :=
    match splitUser? known cs with
    | none => (none, cs)
    | some (user, rest) => (some user, rest)
  if user = some [] && cs.head?.any (endsAuthority known) then none
  else
    let user := user.bind readUser
    let (host, rest) := Host.split (endsAuthority known) false cs
    let host ← if known then Host.ofKnown? host else Host.ofOther? host
    if host = .name [] && (user.isSome || rest.head? = some ':') then none
    else
      let (port, rest) ← readPort? usual rest
      return (⟨user, host, port⟩, rest)

/-! ## What follows an authority -/

def fragmentReserved : List Char := [' ', '"', '<', '>', '\x60']

def queryReserved : List Char := [' ', '"', '#', '<', '>']

/-- The segments of a text before the query and the fragment. -/
def segments (known : Bool) (cs : List Char) : List (List Char) :=
  Text.pieces (isSlash known) (cs.takeWhile fun (c : Char) => c ≠ '?' && c ≠ '#')

def withoutSlash (known : Bool) : List Char → List Char
  | [] => []
  | c :: rest => if isSlash known c then rest else c :: rest

/-- An address that ends as a text does: with its query and its fragment. -/
def withEnd (known : Bool) (scheme : List Char) (authority : Option Authority) (path : List Char)
    (cs : List Char) : Address :=
  let query :=
    match (cs.takeWhile (· ≠ '#')).dropWhile (· ≠ '?') with
    | [] => none
    | _ :: query => some (Percent.encode (queryReserved ++ if known then ['\x27'] else []) query)
  let fragment :=
    match cs.dropWhile (· ≠ '#') with
    | [] => none
    | _ :: fragment => some (Percent.encode fragmentReserved fragment)
  { scheme, authority, path, query, fragment }

/-! ## Reading addresses -/

def ofKnown? (scheme : List Char) (usual : Nat) (cs : List Char) : Option Address := do
  let (authority, rest) ← readAuthority? (some usual) (cs.dropWhile (isSlash true))
  let path := AddressPath.followDots false [] (segments true (withoutSlash true rest))
  return withEnd true scheme (some authority) (AddressPath.text path) rest

/-- Reads what follows another scheme: an authority and a path, a path, or any text. -/
def ofOther? (scheme : List Char) (cs : List Char) : Option Address := do
  match cs with
  | '/' :: '/' :: rest =>
    let (authority, rest) ← readAuthority? none rest
    let path :=
      if rest.head?.all fun (c : Char) => c = '?' || c = '#' then []
      else AddressPath.followDots false [] (segments false (withoutSlash false rest))
    return withEnd false scheme (some authority) (AddressPath.text path) rest
  | '/' :: rest =>
    let path := AddressPath.followDots false [] (segments false rest)
    return withEnd false scheme none (AddressPath.text path) rest
  | _ =>
    let path := Percent.encode [] (cs.takeWhile fun (c : Char) => c ≠ '?' && c ≠ '#')
    return withEnd false scheme none path cs

def fileScheme : List Char := "file".toList

/-- The address of a file on a host. One on a drive has no host. -/
def ofFile (host : Host) (segments : List (List Char)) (cs : List Char) : Address :=
  let path := AddressPath.followDots true [] segments
  let host := if path.head?.any AddressPath.isDrive then .name [] else host
  withEnd true fileScheme (some ⟨none, host, none⟩)
    (AddressPath.text (AddressPath.withoutLeadingEmpty path)) cs

/-- Reads the host of a file. The own computer goes without saying. -/
def readFileHost? (cs : List Char) : Option Host :=
  if cs.isEmpty then some (.name [])
  else
    (Host.ofKnown? cs).map fun (host : Host) =>
      if host = .name "localhost".toList then .name [] else host

/-- Reads what follows the scheme of files. -/
def readFile? (cs : List Char) : Option Address :=
  match cs with
  | a :: b :: rest =>
    if isSlash true a && isSlash true b then
      let host := rest.takeWhile (!endsAuthority true ·)
      let after := rest.drop host.length
      if AddressPath.isDrive host then some (ofFile (.name []) (segments true rest) rest)
      else
        (readFileHost? host).map fun (host : Host) =>
          let start := if host = .name [] then after else withoutSlash true after
          ofFile host (segments true start) after
    else
      some (ofFile (.name []) (segments true (withoutSlash true cs)) cs)
  | _ => some (ofFile (.name []) (segments true (withoutSlash true cs)) cs)

/-- A text without the blanks and controls at its ends and without line ends and tabs. -/
def cleaned (cs : List Char) : List Char :=
  let isEdge := fun (c : Char) => c.toNat ≤ 0x20
  let inner := ((cs.dropWhile isEdge).reverse.dropWhile isEdge).reverse
  inner.filter fun (c : Char) => c ≠ '\t' && c ≠ '\n' && c ≠ '\x0D'

/-- Reads an address; nothing when it has no scheme, or none of the host that its scheme needs. -/
def read? (text : String) : Option Address := do
  let (scheme, rest) ← splitScheme? (cleaned text.toList)
  match usualPorts.lookup scheme with
  | some usual => ofKnown? scheme usual rest
  | none => if scheme = fileScheme then readFile? rest else ofOther? scheme rest

/-! ## Asking -/

/-- Whether it can be said who asks: a name or a password is there and can be decoded. -/
def canSay (user : User) : Bool :=
  (Percent.decode? user.name).isSome
    && (!user.name.isEmpty || (user.password.bind Percent.decode?).isSome)

/-- An address without who asks, which is said apart from it if it can be said. -/
def withoutUser (address : Address) : Address :=
  match address.authority with
  | some authority =>
    if authority.user.any canSay then
      { address with authority := some { authority with user := none } }
    else address
  | none => address

/-- The address that a text names, as it is asked for. -/
def ofString? (text : String) : Option Address :=
  (read? text).map withoutUser

/-- The longest text of an address that can be asked for, in bytes. -/
def sizeLimit : Nat := 65534

/-- A character that keeps a host from being asked for. -/
def isUnaskable (c : Char) : Bool :=
  ['"', '\x60', '{', '}'].contains c

/-- Whether documents can be asked for at the address. -/
def isWeb (address : Address) : Bool :=
  ["http".toList, "https".toList].contains address.scheme
    && !address.authorityText.any isUnaskable
    && address.text.utf8ByteSize ≤ sizeLimit

end Address

end RpcStubs
