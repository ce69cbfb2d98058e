import Gatehouse.Text.Utf8

/-!
The parameters of records that tell how a service is reached (RFC 9460): a key, and a value whose form hangs
on the key.
-/

namespace Gatehouse.Dns.ServiceBinding

/-- The strings that bytes hold, each with its length in front. -/
def strings? : Bytes → Option (List Bytes)
  | [] => some []
  | length :: rest =>
    if length.toNat ≤ rest.length then
      (strings? (rest.drop length.toNat)).map (rest.take length.toNat :: ·)
    else none
termination_by b => b.length
decreasing_by simp only [List.length_drop, List.length_cons]; omega

def isMandatory (value : Bytes) : Bool := value != [] && value.length % 2 == 0

def isProtocols (value : Bytes) : Bool :=
  match strings? value with
  | none => false
  | some names => names != [] && names.all fun name => (Text.ofUtf8? name).isSome

/-- Whether a value starts with its length; what comes after that many bytes does not count. -/
def isMeasured (value : Bytes) : Bool :=
  match value with
  | hi :: lo :: rest => 256 * hi.toNat + lo.toNat ≤ rest.length
  | _ => false

/-- Whether a value can be read: mandatory keys, protocols, that there are no default ones, a port, IPv4
addresses, keys of encrypted greetings, IPv6 addresses, or anything behind another key. -/
def isValue (key : Nat) (value : Bytes) : Bool :=
  if key = 0 then isMandatory value
  else if key = 1 then isProtocols value
  else if key = 2 then value == []
  else if key = 3 then 2 ≤ value.length
  else if key = 4 then value.length % 4 == 0
  else if key = 5 then isMeasured value
  else if key = 6 then value.length % 16 == 0
  else true

end Gatehouse.Dns.ServiceBinding
