import PgMigrate.Text.Quote
/-
  Network addresses.

  An IPv4 address is four octets, written `a.b.c.d`.  An IPv6 address is eight 16-bit
  segments, written in lower-case hex without leading zeros; the longest run of two or more
  zero segments (the first of equal runs) is shortened to `::`, and an IPv4-mapped address
  (`::ffff:0:0/96`) is written with its IPv4 part in dotted form.

  A network (`Network`) is an address and a prefix length whose host bits are zero; it is
  written `address/length`.

  Reading is strict.  An IPv4 address is exactly four decimal octets, each of one to three
  digits with no leading zero.  An IPv6 address is colon-separated groups of one to four hex
  digits, at most one `::` standing for one or more zero groups, and optionally an IPv4
  address in place of the last two groups (not before a `::`).  A network is an address,
  optionally followed by `/` and a length in decimal (a leading `+` allowed); without a
  length it is the single host.
-/
namespace PgMigrate

/-- An IP address. -/
inductive IpAddr where
  | v4 (octets : List Nat)
  | v6 (segments : List Nat)
deriving Repr, DecidableEq, Inhabited

/-- An address with a prefix length; the host bits are zero. -/
structure Network where
  addr : IpAddr
  prefixLen : Nat
deriving Repr, DecidableEq, Inhabited

namespace IpAddr

/-- Dotted form of four octets. -/
def dotted (octets : List Nat) : String := ".".intercalate (octets.map toString)

/-- The longest run of zero segments: its start and length (the first of equal runs). -/
def longestZeroRun (segments : List Nat) : Nat × Nat :=
  let step := fun (acc : (Nat × Nat) × (Nat × Nat) × Nat) (s : Nat) =>
    let (best, cur, i) := acc
    if s == 0 then
      let cur := if cur.2 == 0 then (i, 1) else (cur.1, cur.2 + 1)
      let best := if cur.2 > best.2 then cur else best
      (best, cur, i + 1)
    else (best, (0, 0), i + 1)
  (segments.foldl step ((0, 0), (0, 0), 0)).1

/-- Segments in hex, joined by colons. -/
def hexGroups (segments : List Nat) : String := ":".intercalate (segments.map hexLower)

/-- The text of an address. -/
def render : IpAddr → String
  | .v4 octets => dotted octets
  | .v6 segments =>
    match segments with
    | [0, 0, 0, 0, 0, 0xffff, hi, lo] =>
      "::ffff:" ++ dotted [hi / 256, hi % 256, lo / 256, lo % 256]
    | _ =>
      let (start, len) := longestZeroRun segments
      if len > 1 then
        hexGroups (segments.take start) ++ "::" ++ hexGroups (segments.drop (start + len))
      else hexGroups segments

/-- The address as one number, and its width in bits. -/
def toNat : IpAddr → Nat × Nat
  | .v4 octets => (octets.foldl (fun acc o => acc * 256 + o) 0, 32)
  | .v6 segments => (segments.foldl (fun acc s => acc * 65536 + s) 0, 128)

/-- Whether the bits after the first `len` are all zero. -/
def hostBitsZero (a : IpAddr) (len : Nat) : Bool :=
  let (n, width) := a.toNat
  len ≤ width && n % Nat.pow 2 (width - len) == 0

/-- Whether the parts are in range: four octets or eight 16-bit segments. -/
def isValid : IpAddr → Bool
  | .v4 octets => octets.length == 4 && octets.all (· < 256)
  | .v6 segments => segments.length == 8 && segments.all (· < 65536)

/-- The width of an address in bits. -/
def width : IpAddr → Nat
  | .v4 _ => 32
  | .v6 _ => 128

/-- One decimal octet at the front: one to three digits, no leading zero, at most 255. -/
def readOctet (cs : List Char) : Option (Nat × List Char) :=
  let ds := cs.takeWhile Char.isDigit
  let n := ds.foldl (fun acc c => acc * 10 + (c.toNat - '0'.toNat)) 0
  if ds.isEmpty || ds.length > 3 || n > 255 || (ds.length > 1 && ds.head? == some '0') then none
  else some (n, cs.drop ds.length)

/-- One hex group at the front: one to four hex digits. -/
def readHexGroup (cs : List Char) : Option (Nat × List Char) :=
  let value := fun (c : Char) =>
    if c.isDigit then some (c.toNat - '0'.toNat)
    else if 'a' ≤ c ∧ c ≤ 'f' then some (c.toNat - 'a'.toNat + 10)
    else if 'A' ≤ c ∧ c ≤ 'F' then some (c.toNat - 'A'.toNat + 10)
    else none
  let ds := cs.takeWhile fun c => (value c).isSome
  if ds.isEmpty || ds.length > 4 then none
  else some (ds.foldl (fun acc c => acc * 16 + (value c).getD 0) 0, cs.drop ds.length)

/-- Four dotted octets at the front. -/
def readDotted (cs : List Char) : Option (List Nat × List Char) := do
  let (a, cs) ← readOctet cs
  let cs ← match cs with | '.' :: r => some r | _ => none
  let (b, cs) ← readOctet cs
  let cs ← match cs with | '.' :: r => some r | _ => none
  let (c, cs) ← readOctet cs
  let cs ← match cs with | '.' :: r => some r | _ => none
  let (d, cs) ← readOctet cs
  pure ([a, b, c, d], cs)

/-- The colon before every group but the first. -/
def groupSeparator (first : Bool) (cs : List Char) : Option (List Char) :=
  if first then some cs
  else match cs with
    | ':' :: r => some r
    | _ => none

/-- Up to `slots` groups at the front, the first of them when `first`.  Where two slots or
    more are left, dotted octets may stand for the last two groups, and end the run.  Gives
    the groups, whether they ended in dotted octets, and the rest. -/
def readGroups : Nat → Bool → List Char → List Nat × Bool × List Char
  | 0, _, cs => ([], false, cs)
  | slots + 1, first, cs =>
    let dotted := if slots ≥ 1 then (groupSeparator first cs).bind readDotted else none
    match dotted with
    | some ([a, b, c, d], rest) => ([a * 256 + b, c * 256 + d], true, rest)
    | _ =>
      match (groupSeparator first cs).bind readHexGroup with
      | some (g, rest) =>
        let (gs, endsDotted, rest) := readGroups slots false rest
        (g :: gs, endsDotted, rest)
      | none => ([], false, cs)

/-- Eight groups at the front, a `::` standing for the zero groups left out. -/
def readSegments (cs : List Char) : Option (List Nat × List Char) :=
  let (head, headDotted, rest) := readGroups 8 true cs
  if head.length == 8 then some (head, rest)
  else if headDotted then none
  else
    match rest with
    | ':' :: ':' :: rest =>
      let (tail, _, rest) := readGroups (8 - (head.length + 1)) true rest
      some (head ++ List.replicate (8 - head.length - tail.length) 0 ++ tail, rest)
    | _ => none

/-- The address a whole text names: IPv4 if it reads as one, else IPv6. -/
def parse? (s : String) : Option IpAddr :=
  let cs := s.toList
  match readDotted cs with
  | some (octets, rest) => if rest.isEmpty then some (.v4 octets) else none
  | none =>
    match readSegments cs with
    | some (segments, rest) => if rest.isEmpty then some (.v6 segments) else none
    | none => none

end IpAddr

namespace Network

/-- `address/length`. -/
def render (n : Network) : String := n.addr.render ++ "/" ++ toString n.prefixLen

/-- A network, if the length fits the address and the host bits are zero. -/
def mk? (addr : IpAddr) (len : Nat) : Option Network :=
  if addr.hostBitsZero len then some ⟨addr, len⟩ else none

/-- Whether the network is a single host (its length is the address's width). -/
def isHost (n : Network) : Bool := n.prefixLen == n.addr.width

/-- The short text: a single host as its address alone, any other network as
    `address/length`. -/
def renderShort (n : Network) : String := if n.isHost then n.addr.render else n.render

/-- A prefix length in decimal: digits with an optional leading `+`, at most 255. -/
def readLength (cs : List Char) : Option Nat :=
  let ds := match cs with
    | '+' :: r => r
    | _ => cs
  if ds.isEmpty || !ds.all Char.isDigit then none
  else
    let n := ds.foldl (fun acc c => acc * 10 + (c.toNat - '0'.toNat)) 0
    if n > 255 then none else some n

/-- The network a text names: `address/length`, or an address alone for a single host.  The
    length follows the last `/`. -/
def parse? (s : String) : Option Network :=
  let cs := s.toList
  match cs.reverse.idxOf? '/' with
  | none => (IpAddr.parse? s).map fun a => ⟨a, a.width⟩
  | some k =>
    let cut := cs.length - 1 - k
    match IpAddr.parse? (String.ofList (cs.take cut)), readLength (cs.drop (cut + 1)) with
    | some a, some len => mk? a len
    | _, _ => none

end Network

end PgMigrate
