import Gatehouse.Text.Utf8

/-!
Request URIs: origin form (a path with its query), absolute form, authority form and `*`. Reading follows
RFC 3986, a little more liberal in what a path may hold; a fragment is dropped.
-/

namespace Gatehouse.Http

/-- A URI, taken apart. The path stands with its query; the authority is empty where there is none. -/
structure Uri where
  scheme : Option Text
  authority : Text
  pathAndQuery : Text
  deriving DecidableEq

namespace Uri

/-- Why a text is no URI. -/
inductive Complaint where
  | character
  | authority
  | format
  | tooLong
  | empty
  | schemeTooLong
  deriving DecidableEq

def Complaint.message : Complaint → Text
  | character => "invalid uri character"
  | authority => "invalid authority"
  | format => "invalid format"
  | tooLong => "uri too long"
  | empty => "empty string"
  | schemeTooLong => "scheme too long"

def maxLength : Nat := 65534

def maxSchemeLength : Nat := 64

/-! ## Parts of a URI -/

/-- The path with its query; a URI of an authority alone has none. -/
def pathText? (u : Uri) : Option Text :=
  if u.scheme.isSome ∨ u.authority = [] then
    some (if u.pathAndQuery = [] then "/" else u.pathAndQuery)
  else none

def authority? (u : Uri) : Option Text := if u.authority = [] then none else some u.authority

def path (u : Uri) : Text := (u.pathText?.getD []).takeWhile (· != '?')

def query? (u : Uri) : Option Text := (Text.cutFirst '?' (u.pathText?.getD [])).map (·.2)

def render (u : Uri) : Text :=
  (match u.scheme with
    | some scheme => scheme ++ "://"
    | none => []) ++ u.authority ++ u.pathText?.getD []

/-! ## Reading -/

def isPathChar (c : Char) : Bool :=
  let n := c.toNat
  n == 0x21 || n == 0x22 || (0x24 ≤ n && n ≤ 0x3B) || n == 0x3D || (0x40 ≤ n && n ≤ 0x5F) ||
    (0x61 ≤ n && n ≤ 0x7E) || 0x7F ≤ n

def isQueryChar (c : Char) : Bool :=
  let n := c.toNat
  n == 0x21 || (0x24 ≤ n && n ≤ 0x3B) || n == 0x3D || 0x3F ≤ n

/-- The path and query that a text starts with, up to a fragment. -/
def readPath (t : Text) : Except Complaint Text :=
  let whole := t.takeWhile (· != '#')
  let path := whole.takeWhile (· != '?')
  let query := (whole.dropWhile (· != '?')).drop 1
  if path.all isPathChar && query.all isQueryChar then .ok whole else .error .character

def isSchemeChar (c : Char) : Bool := c.isAlphanum || c == '+' || c == '-' || c == '.'

/-- Whether a character other than the percent sign may stand in an authority. -/
def isAuthorityChar (c : Char) : Bool :=
  c.isAlphanum || ("!$&'()*+,-.:;=@[]_~" : Text).contains c

/-- What is known of an authority that has been read so far: the colons since the last `@` or `]`, whether
brackets have opened and closed, and whether a percent sign stands after the last `@` or `]`. -/
structure AuthorityState where
  colons : Nat := 0
  opened : Bool := false
  closed : Bool := false
  percent : Bool := false
  deriving DecidableEq

def maxColons : Nat := 8

def AuthorityState.next (s : AuthorityState) (c : Char) : Except Complaint AuthorityState :=
  if c = ':' then
    if maxColons ≤ s.colons then .error .authority else .ok { s with colons := s.colons + 1 }
  else if c = '[' then
    if s.percent || s.opened then .error .authority else .ok { s with opened := true }
  else if c = ']' then
    if !s.opened || s.closed then .error .authority
    else .ok { s with colons := 0, closed := true, percent := false }
  else if c = '@' then .ok { s with colons := 0, percent := false }
  else if c = '%' then .ok { s with percent := true }
  else if isAuthorityChar c then .ok s
  else .error .character

def endsAuthority (c : Char) : Bool := c == '/' || c == '?' || c == '#'

/-- The authority that a text starts with, and what follows it. -/
def readAuthority (t : Text) : Except Complaint (Text × Text) := do
  let authority := t.takeWhile (!endsAuthority ·)
  let s ← authority.foldlM AuthorityState.next {}
  if s.opened != s.closed || 1 < s.colons || authority.getLast? == some '@' || s.percent then
    .error .authority
  else .ok (authority, t.dropWhile (!endsAuthority ·))

/-- The scheme that a text starts with, and what follows the slashes behind it. -/
def readScheme (t : Text) : Except Complaint (Option (Text × Text)) :=
  let scheme := t.takeWhile isSchemeChar
  match Text.after? "://" (t.dropWhile isSchemeChar) with
  | some rest =>
    if maxSchemeLength < scheme.length then .error .schemeTooLong
    else
      let lower := Text.lower scheme
      let isKnown := lower = "http" ∨ lower = "https"
      .ok (some (if isKnown then lower else scheme, rest))
  | none => .ok none

def parse (t : Text) : Except Complaint Uri :=
  if maxLength < Text.byteLength t then .error .tooLong
  else
    match t with
    | [] => .error .empty
    | ['*'] => .ok ⟨none, [], "*"⟩
    | '/' :: _ => (readPath t).map fun path => ⟨none, [], path⟩
    | _ => do
      match ← readScheme t with
      | none =>
        let (authority, rest) ← readAuthority t
        if rest = [] then .ok ⟨none, authority, []⟩ else .error .format
      | some (scheme, rest) =>
        let (authority, rest) ← readAuthority rest
        if authority = [] then .error .format
        else
          let path ← readPath rest
          .ok ⟨some scheme, authority, path⟩

end Uri
end Gatehouse.Http
