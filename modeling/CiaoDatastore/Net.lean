import Mathlib.Data.UInt

/-! The IPv4 part of Go's `net` package that the datastore uses: `ParseIP`, `IP.String`,
`ParseCIDR`, `CIDRMask`, `IPNet.Contains` and `IPNet.String`, and the datastore's own
`incrementIP`. An address is its 32-bit big-endian value, as `binary.BigEndian.Uint32` reads
it. Textual IPv6 is outside the model: `ParseIP` answers `none` for it. The parsers follow the
Go releases of the code's time, whose `dtoi` accepts leading zeros, so that `ParseIP` accepts
texts that `IP.String` writes differently. -/
namespace CiaoDatastore.Net

/-- The value of a non-empty run of decimal digits. -/
def decimal (digits : List Char) : Option Nat :=
  if digits ≠ [] ∧ digits.all Char.isDigit then
    some (digits.foldl (fun n c => 10 * n + (c.toNat - '0'.toNat)) 0)
  else none

/-- Cuts a text at every `sep`. -/
def fields (sep : Char) : List Char → List (List Char)
  | [] => [[]]
  | c :: rest =>
    if c = sep then [] :: fields sep rest
    else match fields sep rest with
      | [] => [[c]]
      | first :: others => (c :: first) :: others

/-- `parseIPv4`: four dot-separated decimal bytes. -/
def parseIPv4 (text : List Char) : Option UInt32 :=
  match (fields '.' text).map decimal with
  | [some a,some b,some c,some d] =>
    if a ≤ 255 ∧ b ≤ 255 ∧ c ≤ 255 ∧ d ≤ 255 then
      some (UInt32.ofNat (((a * 256 + b) * 256 + c) * 256 + d))
    else none
  | _ => none

/-- `net.ParseIP`. -/
def ParseIP (text : String) : Option UInt32 := parseIPv4 text.data

/-- The big-endian bytes of an address. -/
def bytes (ip : UInt32) : List Nat :=
  [ip.toNat / 2^24 % 256,ip.toNat / 2^16 % 256,ip.toNat / 2^8 % 256,ip.toNat % 256]

/-- `IP.String` for an IPv4 address. -/
def ipString (ip : UInt32) : String :=
  ".".intercalate ((bytes ip).map toString)

/-- `net.CIDRMask(ones, 32)` as a big-endian word; `none` is Go's nil mask. -/
def cidrMask (ones : Int) : Option UInt32 :=
  if 0 ≤ ones ∧ ones ≤ 32 then some (UInt32.ofNat (2^32 - 2^(32 - ones.toNat))) else none

/-- The mask of a prefix length known to lie in `[0, 32]`. -/
def mask (ones : Nat) : UInt32 := UInt32.ofNat (2^32 - 2^(32 - ones))

/-- An IPv4 `net.IPNet`: its masked network address and its prefix length. -/
structure IPNet where
  ip : UInt32
  ones : Nat
  deriving DecidableEq, Repr

/-- `IPNet.Contains`. -/
def IPNet.contains (n : IPNet) (ip : UInt32) : Bool := ip &&& mask n.ones == n.ip &&& mask n.ones

/-- `IPNet.String`. -/
def IPNet.toString (n : IPNet) : String := ipString n.ip ++ "/" ++ Nat.repr n.ones

/-- `net.ParseCIDR`: the address written before the slash, and the network it names. -/
def ParseCIDR (text : String) : Option (UInt32 × IPNet) :=
  match fields '/' text.data with
  | [addr,len] =>
    match parseIPv4 addr,decimal len with
    | some ip,some ones => if ones ≤ 32 then some (ip,⟨ip &&& mask ones,ones⟩) else none
    | _,_ => none
  -- Go cuts at the first slash, so a second one fails as part of the prefix length.
  | _ => none

/-- The carry loop of `incrementIP` over the bytes from the last one back. -/
def incrementReversed : List UInt8 → List UInt8
  | [] => []
  | b :: rest => if b + 1 > 0 then (b + 1) :: rest else 0 :: incrementReversed rest

/-- `incrementIP`: adds one to a big-endian byte slice in place. -/
def incrementIP (ip : List UInt8) : List UInt8 := (incrementReversed ip.reverse).reverse

/-- The four bytes of an address as `net.IP` holds them. -/
def toBytes (ip : UInt32) : List UInt8 := (bytes ip).map UInt8.ofNat

/-- The address of a four-byte slice. -/
def ofBytes (b : List UInt8) : UInt32 :=
  UInt32.ofNat (b.foldl (fun n byte => 256 * n + byte.toNat) 0)

end CiaoDatastore.Net
