import ChainAtlas.Numeral.Hexadecimal

/-!
# Host addresses

What may stand between the brackets of a URL: an IPv6 address, with a zone after a percent sign if
need be, or a future kind of address that announces its version.  The two address families are
recognised from their written form alone; no address is ever computed.
-/

namespace ChainAtlas
namespace Url

open Numeral

/-! ## IPv4 -/

/-- One of the four numbers of an IPv4 address: at most 255, in ASCII digits without a leading
zero. -/
def isOctet (input : List Char) : Bool :=
  match digits? input with
  | none => false
  | some digits =>
    0 < digits.length && digits.length ≤ 3 && (digits.head? != some 0 || digits.length == 1) &&
      ofDigits 10 digits ≤ 255

/-- Whether a text is an IPv4 address. -/
def isIPv4 (input : List Char) : Bool :=
  let octets := input.splitOn '.'
  octets.length == 4 && octets.all isOctet

/-! ## IPv6 -/

/-- One group of an IPv6 address: one to four hexadecimal digits. -/
def isGroup (input : List Char) : Bool :=
  0 < input.length && input.length ≤ 4 && input.all Hexadecimal.isDigit

/-- The groups of an IPv6 address as they are written.  An IPv4 address in the last place counts for
two groups. -/
def groups? (input : List Char) : Option (List (List Char)) :=
  let groups := input.splitOn ':'
  let last := groups.getLast?.getD []
  if groups.length < 3 then none
  else if last.contains '.' then
    if isIPv4 last then some (groups.dropLast ++ [['0'], ['0']]) else none
  else some groups

/-- Whether the groups on one side of a double colon are good: none at all, which is written as one
empty group, or good groups only. -/
def isSide (groups : List (List Char)) : Bool := groups == [[]] || groups.all isGroup

/-- Whether groups make an IPv6 address: eight good ones, or up to seven around one double colon.  A
double colon is an empty group that is neither the first nor the last. -/
def areGroups (groups : List (List Char)) : Bool :=
  let inner := (groups.drop 1).dropLast
  match inner.countP List.isEmpty with
  | 0 => groups.length == 8 && groups.all isGroup
  | 1 =>
    let left := groups.take (1 + (inner.takeWhile (!·.isEmpty)).length)
    let right := groups.drop (left.length + 1)
    groups.length ≤ 9 && isSide left && isSide right &&
      (groups.countP (!·.isEmpty)) ≤ 7
  | _ => false

/-- Whether a text is an IPv6 address without a zone. -/
def isPlainIPv6 (input : List Char) : Bool :=
  match groups? input with
  | none => false
  | some groups => areGroups groups

/-- Whether a text is an IPv6 address; a zone after a percent sign is not empty and has no further
percent sign. -/
def isIPv6 (input : List Char) : Bool :=
  let zone := input.dropWhile (· != '%')
  !input.contains '/' && isPlainIPv6 (input.takeWhile (· != '%')) &&
    (zone.isEmpty || (1 < zone.length && !(zone.drop 1).contains '%'))

/-! ## Later versions -/

/-- Whether a text after the letter `v` is a version and an address of that version: hexadecimal
digits, a point, and at least one more character. -/
def isVersioned (input : List Char) : Bool :=
  let digits := input.takeWhile Hexadecimal.isDigit
  !digits.isEmpty &&
    match input.drop digits.length with
    | '.' :: _ :: _ => true
    | _ => false

example : isIPv6 "::1".toList = true := by decide +kernel
example : isIPv6 "1:2:3:4:5:6:7::".toList = true := by decide +kernel
example : isIPv6 "1:2:3:4:5:6:7:8::".toList = false := by decide +kernel
example : isIPv6 "::ffff:10.0.0.1%eth0".toList = true := by decide +kernel
example : isIPv4 "10.200.010.1".toList = false := by decide +kernel

end Url
end ChainAtlas
