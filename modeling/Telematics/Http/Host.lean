import Telematics.Text.Hex
import Telematics.Text.Quoted
import Telematics.Text.Split

/-!
Names of servers in URLs. A name in brackets is an address of the sixth version of the protocol, or
of a version to come; no other name has brackets. No name has characters that could be taken for
marks of a URL.

* `isAddress4`, `isAddress6`: addresses as they are written.
* `checkServer`: the name of a server is sound.
* `checkServer_of_ascii`: a name of ASCII characters without brackets always is.
-/

namespace Telematics.Http

/-- Why the name of a server is not sound. -/
inductive HostFault where
  | brackets
  | laterVersion
  | noAddress (text : List Char)
  /-- An address of the fourth version stands in brackets. -/
  | address4
  | ambiguous (server : List Char)
deriving DecidableEq, Repr

/-- The wording of a fault. -/
def HostFault.message : HostFault → String
  | .brackets => "Invalid IPv6 URL"
  | .laterVersion => "IPvFuture address is invalid"
  | .noAddress text =>
    Text.quoted (String.ofList text) ++ " does not appear to be an IPv4 or IPv6 address"
  | .address4 => "An IPv4 address cannot be in brackets"
  | .ambiguous server =>
    "netloc '" ++ String.ofList server ++
      "' contains invalid characters under NFKC normalization"

/-! ## Addresses -/

/-- A number from 0 to 255 in decimal digits, without zeros in front. -/
def isOctet (text : List Char) : Bool :=
  text ≠ [] && text.all Char.isDigit && text.length ≤ 3 &&
    (text = ['0'] || text.head? ≠ some '0') &&
    text.foldl (fun value c => value * 10 + (c.toNat - '0'.toNat)) 0 ≤ 255

/-- An address of the fourth version: four octets with points between them. -/
def isAddress4 (text : List Char) : Bool :=
  let octets := Text.splitOn '.' text
  octets.length = 4 && octets.all isOctet

/-- A hexadecimal digit. -/
def isHexDigit (c : Char) : Bool := (Text.hexValue? c).isSome

/-- A group of an address of the sixth version: up to four hexadecimal digits. -/
def isGroup (text : List Char) : Bool := text ≠ [] && text.all isHexDigit && text.length ≤ 4

/-- Groups with colons between them, of which the last one may stand for two, if it is an address of
    the fourth version. -/
def groupsOf? (text : List Char) : Option (List (List Char)) :=
  let groups := Text.splitOn ':' text
  let last := groups.getLast?.getD []
  if groups.length < 3 then none
  else if last.contains '.' then
    if isAddress4 last then some (groups.dropLast ++ [['0'], ['0']]) else none
  else some groups

/-- The groups at one side of the place where groups are left out. At the end of the address there
    may be none. -/
def isSide (groups : List (List Char)) : Bool := groups = [[]] || groups.all isGroup

/-- The number of groups at one side. -/
def sideSize (groups : List (List Char)) : Nat := if groups = [[]] then 0 else groups.length

/-- Groups are an address: eight of them, or fewer if some are left out at one place. -/
def areAddress6 (groups : List (List Char)) : Bool :=
  let inner := (groups.drop 1).dropLast
  match inner.findIdx? (· = []) with
  | none => groups.length = 8 && groups.all isGroup
  | some place =>
    let before := groups.take (place + 1)
    let behind := groups.drop (place + 2)
    inner.count [] = 1 && isSide before && isSide behind && sideSize before + sideSize behind < 8

/-- An address of the sixth version, perhaps with a zone behind a percent sign. -/
def isAddress6 (text : List Char) : Bool :=
  let (address, zone) := Text.splitFirst '%' text
  let isZone := zone.all fun zone => zone ≠ [] && !zone.contains '%'
  isZone && (groupsOf? address).any areAddress6

/-! ## Names -/

/-- An address of a version to come: a letter, its number, a point, and anything. -/
def isLaterAddress (text : List Char) : Bool :=
  match text with
  | 'v' :: rest =>
    let version := rest.takeWhile isHexDigit
    match rest.drop version.length with
    | '.' :: _ :: _ => version ≠ []
    | _ => false
  | _ => false

/-- What stands in brackets is an address. -/
def checkAddress (text : List Char) : Except HostFault Unit :=
  if text.head? = some 'v' then
    if isLaterAddress text then .ok () else .error .laterVersion
  else if isAddress4 text then .error .address4
  else if isAddress6 text then .ok ()
  else .error (.noAddress text)

/-- A name with both brackets is an address in brackets, perhaps with a user in front of it and a
    port behind it. -/
def checkBrackets (server : List Char) : Except HostFault Unit :=
  let host := (server.reverse.takeWhile (· ≠ '@')).reverse
  match Text.splitFirst '[' host with
  | (before, some bracketed) =>
    let (address, port) := Text.splitFirst ']' bracketed
    let port := port.getD []
    if before ≠ [] || (port ≠ [] && port.head? ≠ some ':') then .error .brackets
    else checkAddress address
  | (name, none) => checkAddress (Text.splitFirst ':' name).1

/-- Characters that stand for others, among which there is a mark of a URL. -/
def ambiguousChars : List Char :=
  ['\u2047', '\u2048', '\u2049', '\u2100', '\u2101', '\u2105', '\u2106', '\u2a74', '\ufe13',
    '\ufe16', '\ufe55', '\ufe56', '\ufe5f', '\ufe6b', '\uff03', '\uff0f', '\uff1a', '\uff1f',
    '\uff20']

/-- The name of a server is sound. -/
def checkServer (server : List Char) : Except HostFault Unit := do
  if server.contains '[' != server.contains ']' then throw .brackets
  if server.contains '[' then checkBrackets server
  if server.any ambiguousChars.contains then throw (.ambiguous server)

/-- A name of ASCII characters without brackets is sound. -/
theorem checkServer_of_ascii {server : List Char} (ascii : ∀ c ∈ server, c.toNat < 0x80)
    (noOpen : '[' ∉ server) (noClose : ']' ∉ server) : checkServer server = .ok () := by
  have clear : server.any ambiguousChars.contains = false := by
    rw [List.any_eq_false]
    intro c present known
    have small := ascii c present
    have large : ambiguousChars.all (fun c => decide (0x80 ≤ c.toNat)) = true := rfl
    have := of_decide_eq_true (List.all_eq_true.1 large c (by simpa using known))
    omega
  simp [checkServer, noOpen, noClose, clear]
  rfl

end Telematics.Http
