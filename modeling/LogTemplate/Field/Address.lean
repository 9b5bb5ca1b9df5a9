import LogTemplate.Text.Digit
import LogTemplate.Text.Split

/-!
# Internet addresses

Which texts are an IPv4 address in dotted decimal, and which an IPv6 address: eight groups of
hexadecimal digits, one run of zero groups left out as `::`, the last two groups possibly written
as an IPv4 address, and a zone possibly named after a percent sign.
-/

namespace LogTemplate.Address

open LogTemplate.Text

/-- One part of an IPv4 address: up to three digits without a leading zero, at most 255. -/
def isOctet (s : List CodePoint) : Bool :=
  !s.isEmpty && s.all CodePoint.isDigit && s.length ≤ 3 &&
    (s == [.char '0'] || s.head? != some (.char '0'))
    && decimalNumber s ≤ 255

/-- Four octets between dots. -/
def isIpv4 (s : List CodePoint) : Bool :=
  let parts := splitOn (CodePoint.char '.') s
  parts.length == 4 && parts.all isOctet

/-- One group of an IPv6 address: one to four hexadecimal digits. -/
def isGroup (s : List CodePoint) : Bool :=
  !s.isEmpty && s.length ≤ 4 && s.all fun c => (hexValue? c).isSome

/-- The parts between the colons, with an IPv4 address in last place made two groups. -/
def groups? (s : List CodePoint) : Option (List (List CodePoint)) :=
  let parts := splitOn (CodePoint.char ':') s
  let last := parts.getLastD []
  if parts.length < 3 then none
  else if last.contains '.' then
    if isIpv4 last then some (parts.dropLast ++ [[.char '0'], [.char '0']]) else none
  else some parts

/-- The places, the first and the last one apart, of parts with nothing in them. -/
def gaps (parts : List (List CodePoint)) : List Nat :=
  (List.range parts.length).filter fun i =>
    0 < i && i + 1 < parts.length && (parts.getD i []).isEmpty

/-- The groups on one side of a gap.  An empty part at the outer end is a second colon of the gap:
it has to be the only part. -/
def side? (outer : List CodePoint) (parts : List (List CodePoint)) :
    Option (List (List CodePoint)) :=
  if outer.isEmpty then (if parts.length = 1 then some [] else none) else some parts

/-- An address without a zone. -/
def isIpv6Groups (s : List CodePoint) : Bool :=
  match groups? s with
  | none => false
  | some parts =>
    if 9 < parts.length then false
    else match gaps parts with
      | [] => parts.length == 8 && parts.all isGroup
      | [i] =>
        let before := parts.take i
        let after := parts.drop (i + 1)
        match side? (before.headD []) before, side? (after.getLastD []) after with
        | some high, some low => high.length + low.length ≤ 7 && (high ++ low).all isGroup
        | _, _ => false
      | _ => false

/-- An address, with the name of a zone after a percent sign or without. -/
def isIpv6 (s : List CodePoint) : Bool :=
  if s.contains '/' then false
  else match splitAt? (CodePoint.char '%') s with
    | none => isIpv6Groups s
    | some (address, zone) => !zone.isEmpty && !zone.contains '%' && isIpv6Groups address

end LogTemplate.Address
