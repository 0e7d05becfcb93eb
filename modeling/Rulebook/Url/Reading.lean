import Rulebook.Fault
import Rulebook.Text.Blank
import Rulebook.Text.Hex
import Rulebook.Text.Search
import Rulebook.Url.Address
import Rulebook.Url.Domain

namespace Rulebook.Url

open Text

def zeroWidth : List Char := ['\u180b', '\u200b', '\u200c', '\u200d', '\u2060', '\ufeff']

/-- What follows the last `@`, behind which the host begins. -/
def dropUser (cs : List Char) : List Char := (cs.reverse.takeWhile (· ≠ '@')).reverse

def splitPort (bracketed : Bool) : List Char → List Char × Option (List Char)
  | [] => ([], none)
  | c :: r =>
    if c = ':' && !bracketed then ([], some r)
    else
      let bracketed := if c = '[' then true else if c = ']' then false else bracketed
      let (host, port) := splitPort bracketed r
      (c :: host, port)

def percentDecoded (out : ByteArray) : List Char → ByteArray
  | [] => out
  | '%' :: a :: b :: r =>
    match hexValue? a, hexValue? b with
    | some x, some y => percentDecoded (out.push (16 * x + y).toUInt8) r
    | _, _ => percentDecoded (out.push '%'.toNat.toUInt8) (a :: b :: r)
  | c :: r => percentDecoded (out ++ (String.singleton c).toUTF8) r

def checkDomain (host : List Char) : Except UrlFault Unit := do
  let some name := String.fromUTF8? (percentDecoded .empty host) | .error .badDomainName
  let some labels := labels? name.toList | .error .badDomainName
  if labels = [[]] then .error .emptyHost
  if endsInNumber labels && !isIpv4 labels then .error .badIpv4

def checkHost (host : List Char) : Except UrlFault Unit :=
  match host with
  | [] => .error .emptyHost
  | '[' :: r =>
    if r.getLast? = some ']' && isIpv6 r.dropLast then .ok () else .error .badIpv6
  | _ => checkDomain host

def checkPort (port : List Char) : Except UrlFault Unit :=
  if port.all Decimal.isDigit && Decimal.natOf port ≤ 65535 then .ok () else .error .badPort

def endsAuthority (c : Char) : Bool := c == '/' || c == '\\' || c == '?' || c == '#'

/-- Checks what follows the protocol. Any number of slashes may stand before the host. -/
def checkAuthority (rest : List Char) : Except UrlFault Unit := do
  let rest := (rest.reverse.dropWhile (· ≤ ' ')).reverse
  let authority :=
    (rest.dropWhile fun c ↦ c = '/' || c = '\\').takeWhile fun c ↦ !endsAuthority c
  let (host, port) := splitPort false (dropUser authority)
  checkHost host
  checkPort (port.getD [])

def check (text : String) : Except UrlFault Unit :=
  let cs := text.toList
  if cs.any fun c ↦ isBlank c || zeroWidth.contains c then .error .blank
  else match cutAtWord "://".toList cs with
    | none => .error .noProtocol
    | some (protocol, rest) =>
      if protocol ≠ "http".toList && protocol ≠ "https".toList then .error .badProtocol
      else if !(rest.takeWhile (· ≠ '/')).contains '.' then .error .noDot
      else checkAuthority rest

end Rulebook.Url
