import Gatehouse.Idna.Label
import Gatehouse.Net.Ipv6
import Gatehouse.Text.Percent

/-!
Which texts are absolute URLs, by the rules that browsers follow: those with a scheme and, where the scheme
asks for one, a host that can be read.
-/

namespace Gatehouse.Url

/-! ## Schemes -/

/-- What a scheme asks for. -/
inductive Kind where
  /-- A host, behind any number of slashes. -/
  | web
  /-- A host, which may be missing. -/
  | file
  /-- A host only behind two slashes. -/
  | other
  deriving DecidableEq

def webSchemes : List Text := ["http", "https", "ws", "wss", "ftp"]

def Kind.ofScheme (scheme : Text) : Kind :=
  if webSchemes.contains scheme then web else if scheme = "file".toList then file else other

/-- Whether a slash of either kind ends the host and parts a path. -/
def Kind.isSlash (k : Kind) (c : Char) : Bool := c == '/' || (c == '\\' && k != other)

/-- The scheme of a URL in lower case, and what follows its colon. -/
def scheme? (t : Text) : Option (Text × Text) :=
  match Text.cutFirst ':' t with
  | some (scheme, rest) =>
    if (scheme.head?.any Char.isAlpha) &&
        scheme.all fun c => c.isAlphanum || c == '+' || c == '-' || c == '.' then
      some (Text.lower scheme, rest)
    else none
  | none => none

/-! ## Hosts -/

/-- ASCII characters that no domain name in a URL may have. -/
def isForbidden (c : Char) : Bool :=
  c.toNat ≤ 0x20 || c.toNat == 0x7F || ("%#/:<>?@[\\]^|" : Text).contains c

/-- ASCII characters that no host of any other scheme may have. -/
def isForbiddenElsewhere (c : Char) : Bool := ("\x00\t\n\r #/:<>?@[\\]^|" : Text).contains c

/-- A number of an IPv4 address: hexadecimal behind `0x`, octal behind `0`, else decimal. Nothing behind the
mark counts as zero. -/
def number? (t : Text) : Option Nat :=
  if t = [] then none
  else
    match t with
    | '0' :: 'x' :: digits => (digits.mapM Text.hexDigit?).map fun ds => ds.foldl (fun n d => 16 * n + d) 0
    | '0' :: digits@(_ :: _) =>
      if digits.all fun c => '0' ≤ c && c ≤ '7' then some (Nat.ofDigitChars 8 digits 0) else none
    | digits => Text.decimal? digits

/-- The parts of a domain name, without the empty one behind a dot at the end. -/
def domainParts (domain : Text) : List Text :=
  let parts := Text.split '.' domain
  if parts.length ≠ 1 ∧ parts.getLast? = some [] then parts.dropLast else parts

/-- Whether a domain name must be an IPv4 address, since it ends in a number. -/
def endsInNumber (domain : Text) : Bool :=
  (domainParts domain).getLast?.any fun last =>
    (last != [] && last.all Char.isDigit) || (number? last).isSome

/-- Whether numbers make an IPv4 address: one byte each, and the last one all the bytes that are left. -/
def isAddress (numbers : List Nat) : Bool :=
  numbers.length ≤ 4 && numbers.dropLast.all (· ≤ 255) &&
    numbers.getLast?.any (· < Nat.pow 256 (5 - numbers.length))

/-- Whether a host of a web address can be read: an IPv6 address in brackets, or a domain name, which is an
IPv4 address if it ends in a number. -/
def isHost (host : Text) : Bool :=
  match host with
  | '[' :: rest => rest.getLast? == some ']' && (Net.Ipv6.parse? rest.dropLast).isSome
  | _ =>
    match Idna.toAscii? isForbidden (Text.ofUtf8Lossy (Text.percentDecode (Text.utf8 host))) with
    | none => false
    | some domain =>
      domain != [] &&
        (!endsInNumber domain || ((domainParts domain).mapM number?).any isAddress)

def isHostElsewhere (host : Text) : Bool :=
  match host with
  | '[' :: rest => rest.getLast? == some ']' && (Net.Ipv6.parse? rest.dropLast).isSome
  | _ => !host.any isForbiddenElsewhere

/-! ## Authorities -/

def cutHost (inside : Bool) : Text → Text × Text
  | [] => ([], [])
  | c :: rest =>
    if c = ':' ∧ inside = false then ([], c :: rest)
    else
      let cut := cutHost (if c = '[' then true else if c = ']' then false else inside) rest
      (c :: cut.1, cut.2)

/-- Whether a text after a host is a port: digits behind a colon that make a number up to 65535. -/
def isPort (t : Text) : Bool :=
  match t with
  | [] => true
  | _ :: digits =>
    let digits := Text.trimFront (· == '0') (digits.takeWhile (· != '\\'))
    digits.all Char.isDigit && digits.length ≤ 5 && Nat.ofDigitChars 10 digits 0 ≤ 65535

/-- Whether what stands between the slashes and the path can be read: a user in front of the last `@`, a
host and a port. -/
def isAuthority (k : Kind) (t : Text) (more : Bool) : Bool :=
  let (user, hostAndPort) := (Text.cutLast '@' t).getD ([], t)
  let named := user != [] && user != [':']
  let (host, port) := cutHost false hostAndPort
  let misplaced := t.head? == some '@' && hostAndPort == [] && more
  isPort port && !misplaced &&
    match k with
    | .other => if host = [] then port == [] && !named else isHostElsewhere host
    | _ => host != [] && isHost host

def isDrive (t : Text) : Bool :=
  match t with
  | [letter, mark] => letter.isAlpha && (mark == ':' || mark == '|')
  | _ => false

/-! ## URLs -/

/-- The text up to the path, and whether anything follows. -/
def cutPath (k : Kind) (t : Text) : Text × Bool :=
  let stops := fun c => k.isSlash c || c == '?' || c == '#'
  (t.takeWhile fun c => !stops c, t.any stops)

def isRest (k : Kind) (t : Text) : Bool :=
  match k with
  | .web =>
    let (authority, more) := cutPath k (t.dropWhile k.isSlash)
    isAuthority k authority more
  | .file =>
    match t with
    | a :: b :: rest =>
      if k.isSlash a && k.isSlash b then
        let (host, _) := cutPath k rest
        host == [] || isDrive host || isHost host
      else true
    | _ => true
  | .other =>
    match Text.after? ("//" : Text) t with
    | none => true
    | some rest =>
      let (authority, more) := cutPath k rest
      isAuthority k authority more

/-- Whether a text is a URL. Blanks and control characters around it do not count, nor do line ends and tabs
within it. -/
def isUrl (t : Text) : Bool :=
  let t := Text.trimBoth (·.toNat ≤ 0x20) t
  let t := t.filter fun c => c != '\t' && c != '\n' && c != '\r'
  match scheme? t with
  | none => false
  | some (scheme, rest) => isRest (.ofScheme scheme) rest

end Gatehouse.Url
