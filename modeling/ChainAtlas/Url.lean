import ChainAtlas.Text.Quoted
import ChainAtlas.Url.Host

/-!
# URLs

An endpoint is an opaque URL: only its scheme is ever looked at, to tell the transport of the
endpoint.  The scheme is what stands before the first colon, provided that all of it is made of
letters, digits, `+`, `-` and `.` and that it starts with a letter.  Before that, blanks and control
characters in front are dropped and tabs and line ends are dropped everywhere.

Some texts are refused on the way, whatever their scheme, because the part between the two slashes and
the path is malformed: a bracket without its partner, a bracket that does not stand where a host
begins or ends, brackets around something that is no address, or a character whose compatibility form
is one of the marks that divide a URL.
-/

namespace ChainAtlas
namespace Url

/-- Why a text is refused as a URL. -/
inductive Fault where
  /-- One bracket without the other, or in the wrong place. -/
  | strayBracket
  /-- Brackets around a malformed address of a later version. -/
  | badVersionedAddress
  /-- Brackets around an IPv4 address. -/
  | bracketedIPv4
  /-- Brackets around no address. -/
  | notAnAddress (host : String)
  /-- A character that stands for a dividing mark. -/
  | disguisedMark (authority : String)
  deriving DecidableEq, Repr

/-- The wording of a fault. -/
def Fault.message : Fault → String
  | .strayBracket => "Invalid IPv6 URL"
  | .badVersionedAddress => "IPvFuture address is invalid"
  | .bracketedIPv4 => "An IPv4 address cannot be in brackets"
  | .notAnAddress host => s!"{Text.quoted host} does not appear to be an IPv4 or IPv6 address"
  | .disguisedMark authority =>
    s!"netloc '{authority}' contains invalid characters under NFKC normalization"

/-- A URL as it is looked at: without blanks and control characters in front, and without tabs and
line ends. -/
def tidy (input : List Char) : List Char :=
  (input.dropWhile (·.toNat ≤ 0x20)).filter fun c => !(c == '\t' || c == '\r' || c == '\n')

/-- Whether a character may stand in a scheme. -/
def isSchemeChar (c : Char) : Bool := c.isAlphanum || c == '+' || c == '-' || c == '.'

/-- Whether a text may be a scheme. -/
def isScheme (input : List Char) : Bool :=
  (input.head?.any Char.isAlpha) && input.all isSchemeChar

/-- The scheme of a tidy URL in lower case, if it has one, and what comes after it. -/
def splitScheme (input : List Char) : List Char × List Char :=
  let candidate := input.takeWhile (· != ':')
  if candidate.length < input.length && isScheme candidate then
    (candidate.map Char.toLower, input.drop (candidate.length + 1))
  else ([], input)

/-- What stands between two slashes and the path, the query or the fragment. -/
def authority : List Char → List Char
  | '/' :: '/' :: rest => rest.takeWhile fun c => !(c == '/' || c == '?' || c == '#')
  | _ => []

/-- The characters whose compatibility form holds one of the marks `/`, `?`, `#`, `@` and `:`. -/
def disguisedMarks : List Nat :=
  [0x2047, 0x2048, 0x2049, 0x2100, 0x2101, 0x2105, 0x2106, 0x2a74, 0xfe13, 0xfe16, 0xfe55, 0xfe56,
   0xfe5f, 0xfe6b, 0xff03, 0xff0f, 0xff1a, 0xff1f, 0xff20]

/-- Check what is written as an address between brackets. -/
def checkAddress : List Char → Except Fault Unit
  | 'v' :: rest => if isVersioned rest then .ok () else .error .badVersionedAddress
  | host =>
    if isIPv4 host then .error .bracketedIPv4
    else if isIPv6 host then .ok ()
    else .error (.notAnAddress (String.ofList host))

/-- The host and the port of an authority: what comes after its last `@`. -/
def hostAndPort (authority : List Char) : List Char := (authority.splitOn '@').getLast?.getD []

/-- The host that is taken for an address where an authority has brackets.  An opening bracket is the
first character of the host, and after the closing one there is nothing but a port. -/
def bracketedHost (authority : List Char) : Except Fault (List Char) :=
  match (hostAndPort authority).span (· != '[') with
  | (host, []) => .ok (host.takeWhile (· != ':'))
  | (_ :: _, _ :: _) => .error .strayBracket
  | ([], _ :: inside) =>
    match (inside.dropWhile (· != ']')).drop 1 with
    | [] | ':' :: _ => .ok (inside.takeWhile (· != ']'))
    | _ :: _ => .error .strayBracket

/-- Check the part between the slashes. -/
def checkAuthority (input : List Char) : Except Fault Unit := do
  if input.contains '[' != input.contains ']' then throw .strayBracket
  if input.contains '[' then checkAddress (← bracketedHost input)
  if input.any fun c => disguisedMarks.contains c.toNat then
    throw (.disguisedMark (String.ofList input))

/-- The scheme of a URL in lower case; empty if it has none. -/
def scheme (url : String) : Except Fault (List Char) := do
  let (scheme, rest) := splitScheme (tidy url.toList)
  checkAuthority (authority rest)
  return scheme

end Url
end ChainAtlas
