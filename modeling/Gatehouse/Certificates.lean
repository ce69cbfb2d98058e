import Gatehouse.Fault

/-!
The gateway's own certificate authority. Its root lives as long as the program; certificates for hosts are
issued when they are first asked for, and kept. Keys and signatures are left out: a certificate is what it
says.
-/

namespace Gatehouse

open Net

/-- What a certificate says. -/
structure Certificate where
  /-- The common name, and the organisation if it is named. -/
  commonName : Text
  organisation : Option Text
  isAuthority : Bool
  /-- The hosts that the certificate is for: a name or an address. -/
  alternative : Option (Text ⊕ Ip)
  digitalSignature : Bool
  keyEncipherment : Bool
  certificateSign : Bool
  revocationSign : Bool
  /-- Whether it may stand for a server, if it says anything about that. -/
  serverAuthentication : Option Bool
  days : Nat

namespace Certificate

def validityDays : Nat := 365

def root : Certificate where
  commonName := "vipgate root CA"
  organisation := some "vipgate"
  isAuthority := true
  alternative := none
  digitalSignature := true
  keyEncipherment := false
  certificateSign := true
  revocationSign := true
  serverAuthentication := none
  days := validityDays

/-- The certificate of a host, under its name or its address. -/
def leaf (name : Text) : Certificate where
  commonName := name
  organisation := none
  isAuthority := false
  alternative := some (match Ip.parse? name with
    | some ip => .inr ip
    | none => .inl name)
  digitalSignature := true
  keyEncipherment := true
  certificateSign := false
  revocationSign := false
  serverAuthentication := some true
  days := validityDays

def subject (c : Certificate) : Text :=
  "CN=" ++ c.commonName ++ match c.organisation with
    | some organisation => ", O=" ++ organisation
    | none => []

end Certificate

/-- The certificates that were issued, the first one first. -/
structure Authority where
  issued : List Text

namespace Authority

/-- An authority that has issued nothing yet. -/
def new : Authority := ⟨[]⟩

/-- The name under which a certificate is kept: no dots at its end, lower case. -/
def cacheName (name : Text) : Text := Text.lower (Text.trimEnd (· == '.') name)

/-- Issues the certificate of a host, or finds the one issued before; tells its number. -/
def issue (a : Authority) (commonName : Text) : Except Fault (Nat × Certificate) × Authority :=
  let name := cacheName commonName
  if name = [] then (.error (.certificate "common name must not be empty"), a)
  else
    match a.issued.idxOf? name with
    | some n => (.ok (n, Certificate.leaf name), a)
    | none =>
      if Text.isAscii name then (.ok (a.issued.length, Certificate.leaf name), ⟨a.issued ++ [name]⟩)
      else
        (.error (.certificate ("Invalid leaf parameters: Invalid IA5String: '" ++ name ++ "'")), a)

/-- The application protocols that a server offers under TLS. -/
def serverProtocols : List Text := ["h2", "http/1.1"]

/-- What a server for a host offers, once it has a certificate. -/
def serve (a : Authority) (host : Text) : Except Fault (List Text) × Authority :=
  match a.issue host with
  | (.ok _, a) => (.ok serverProtocols, a)
  | (.error e, a) => (.error e, a)

/-- The application protocols that are offered to a backend: the one that the client negotiated. -/
def clientProtocols (negotiated : Option Text) : List Text := negotiated.toList

def describe (a : Authority) : Text :=
  "CertificateAuthority \x7b issued: " ++ Text.ofNat a.issued.length ++ " \x7d"

end Authority
end Gatehouse
