import PeerPost.Text.Hexadecimal

/-!
# Socket addresses

An address and a port, as in `127.0.0.1:7000` or `[::1]:7000`. Reading takes the whole text: after an
IPv6 address a numeric scope may follow inside the brackets, and the last four bytes of an IPv6 address
may be written as an IPv4 address. Writing shortens the first of the longest runs of zero groups.
-/

namespace PeerPost

structure Ipv4 where
  a : UInt8
  b : UInt8
  c : UInt8
  d : UInt8
deriving DecidableEq

structure Ipv6 where
  groups : Vector UInt16 8
deriving DecidableEq

/-- An address with a port. -/
inductive SocketAddress where
  | v4 (ip : Ipv4) (port : UInt16)
  | v6 (ip : Ipv6) (scope : UInt32) (port : UInt16)
deriving DecidableEq

namespace Ipv4

/-- Reads a decimal number of one to three digits below 256, without a leading zero. -/
def readOctet? (text : List Char) : Option (UInt8 × List Char) :=
  let ds := text.takeWhile Decimal.isDigit
  let n := Decimal.valueUpTo 256 ds
  if ds.isEmpty || 3 < ds.length || (ds.head? = some '0' && ds.length ≠ 1) || 255 < n then none
  else some (n.toUInt8, text.dropWhile Decimal.isDigit)

def readDotted? : List Char → Option (UInt8 × List Char)
  | '.' :: rest => readOctet? rest
  | _ => none

/-- Reads an IPv4 address at the start of a text. -/
def read? (text : List Char) : Option (Ipv4 × List Char) := do
  let (a, rest) ← readOctet? text
  let (b, rest) ← readDotted? rest
  let (c, rest) ← readDotted? rest
  let (d, rest) ← readDotted? rest
  some (⟨a, b, c, d⟩, rest)

def chars (ip : Ipv4) : List Char :=
  Decimal.digits ip.a.toNat ++ '.' :: Decimal.digits ip.b.toNat ++ '.' :: Decimal.digits ip.c.toNat ++
    '.' :: Decimal.digits ip.d.toNat

/-- The two groups that an IPv4 address fills in an IPv6 address. -/
def groups (ip : Ipv4) : List UInt16 :=
  [ip.a.toUInt16 * 256 + ip.b.toUInt16, ip.c.toUInt16 * 256 + ip.d.toUInt16]

/-- The IPv4 address that fills two groups. -/
def ofGroups (high low : UInt16) : Ipv4 :=
  ⟨(high / 256).toUInt8, (high % 256).toUInt8, (low / 256).toUInt8, (low % 256).toUInt8⟩

end Ipv4

namespace Ipv6

/-- Reads one to four hexadecimal digits. -/
def readGroup? (text : List Char) : Option (UInt16 × List Char) :=
  let ds := text.takeWhile Hexadecimal.isDigit
  if ds.isEmpty || 4 < ds.length then none
  else some ((Hexadecimal.value ds).toUInt16, text.dropWhile Hexadecimal.isDigit)

/-- Skips the colon before every group but the first. -/
def skipColon? (isFirst : Bool) : List Char → Option (List Char)
  | ':' :: rest => if isFirst then none else some rest
  | text => if isFirst then some text else none

/-- Groups that were read from the start of a text. -/
structure GroupsRead where
  groups : List UInt16
  endsInIpv4 : Bool
  rest : List Char

/-- Reads groups as long as there are any, at most `room` of them. -/
def readGroups : Nat → Bool → List Char → GroupsRead
  | 0, _, text => ⟨[], false, text⟩
  | room + 1, isFirst, text =>
    match skipColon? isFirst text with
    | none => ⟨[], false, text⟩
    | some start =>
      -- An IPv4 address may stand for the last two groups.
      match if 0 < room then Ipv4.read? start else none with
      | some (ip, rest) => ⟨ip.groups, true, rest⟩
      | none =>
        match readGroup? start with
        | none => ⟨[], false, text⟩
        | some (group, rest) =>
          let more := readGroups room false rest
          { more with groups := group :: more.groups }

/-- The address of eight groups, if there are eight. -/
def ofGroups? (groups : List UInt16) : Option Ipv6 :=
  if h : groups.length = 8 then some ⟨⟨groups.toArray, by simpa using h⟩⟩ else none

/-- Reads an IPv6 address at the start of a text: eight groups, or fewer with `::` in the place of at
least one zero group. -/
def read? (text : List Char) : Option (Ipv6 × List Char) :=
  let head := readGroups 8 true text
  let missing := 8 - head.groups.length
  if missing = 0 then (ofGroups? head.groups).map fun ip => (ip, head.rest)
  -- No IPv4 address stands before `::`.
  else if head.endsInIpv4 then none
  else
    match head.rest with
    | ':' :: ':' :: rest =>
      let tail := readGroups (missing - 1) true rest
      let zeros := List.replicate (missing - tail.groups.length) 0
      (ofGroups? (head.groups ++ zeros ++ tail.groups)).map fun ip => (ip, tail.rest)
    | _ => none

/-- The start and the length of the first of the longest runs of zeros. -/
def zeroRun : List UInt16 → Nat × Nat
  | [] => (0, 0)
  | group :: rest =>
    let here := ((group :: rest).takeWhile fun g => g = 0).length
    let (start, length) := zeroRun rest
    if length ≤ here then (0, here) else (start + 1, length)

/-- Groups with colons between them. -/
def groupChars : List UInt16 → List Char
  | [] => []
  | [group] => Hexadecimal.digits group.toNat
  | group :: rest => Hexadecimal.digits group.toNat ++ ':' :: groupChars rest

def chars (ip : Ipv6) : List Char :=
  match ip.groups.toList with
  | [0, 0, 0, 0, 0, 0xFFFF, high, low] =>
    [':', ':', 'f', 'f', 'f', 'f', ':'] ++ (Ipv4.ofGroups high low).chars
  | groups =>
    let (start, length) := zeroRun groups
    if 1 < length then
      groupChars (groups.take start) ++ [':', ':'] ++ groupChars (groups.drop (start + length))
    else groupChars groups

end Ipv6

namespace SocketAddress

/-- Reads a decimal number up to a bound. Leading zeros are allowed. -/
def readNumber? (greatest : Nat) (text : List Char) : Option (Nat × List Char) :=
  let ds := text.takeWhile Decimal.isDigit
  let n := Decimal.valueUpTo (greatest + 1) ds
  if ds.isEmpty || greatest < n then none else some (n, text.dropWhile Decimal.isDigit)

def readPort? : List Char → Option (UInt16 × List Char)
  | ':' :: rest => (readNumber? 65535 rest).map fun (n, rest) => (n.toUInt16, rest)
  | _ => none

/-- Reads a percent sign and a scope. Without them the scope is zero. -/
def readScope (text : List Char) : UInt32 × List Char :=
  match text with
  | '%' :: rest =>
    match readNumber? 4294967295 rest with
    | some (n, rest) => (n.toUInt32, rest)
    | none => (0, text)
  | _ => (0, text)

/-- Reads an IPv4 address with a port. -/
def readV4? (text : List Char) : Option (SocketAddress × List Char) := do
  let (ip, rest) ← Ipv4.read? text
  let (port, rest) ← readPort? rest
  some (.v4 ip port, rest)

/-- Reads an IPv6 address in brackets with a port. -/
def readV6? : List Char → Option (SocketAddress × List Char)
  | '[' :: rest => do
    let (ip, rest) ← Ipv6.read? rest
    let (scope, rest) := readScope rest
    match rest with
    | ']' :: rest =>
      let (port, rest) ← readPort? rest
      some (.v6 ip scope port, rest)
    | _ => none
  | _ => none

/-- The address that a whole text is. -/
def ofChars? (text : List Char) : Option SocketAddress :=
  match (readV4? text).or (readV6? text) with
  | some (address, []) => some address
  | _ => none

def port : SocketAddress → UInt16
  | .v4 _ port => port
  | .v6 _ _ port => port

def display : SocketAddress → String
  | .v4 ip port => String.ofList (ip.chars ++ ':' :: Decimal.digits port.toNat)
  | .v6 ip scope port =>
    let scopeChars := if scope = 0 then [] else '%' :: Decimal.digits scope.toNat
    String.ofList ('[' :: ip.chars ++ scopeChars ++ [']', ':'] ++ Decimal.digits port.toNat)

end SocketAddress

end PeerPost
