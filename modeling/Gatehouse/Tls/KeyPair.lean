import Gatehouse.Tls.PrivateKey
import Gatehouse.Tls.X509

/-!
Whether a certificate and a private key belong together: the public key in the certificate must be the one
that belongs to the private key.
-/

namespace Gatehouse.Tls

/-- What is wrong with a certificate and a key. -/
inductive PairFault where
  | key
  | certificate (f : X509.Fault)
  | mismatch
  deriving DecidableEq

def PairFault.message : PairFault → Text
  | key => "unexpected error: failed to parse private key as RSA, ECDSA, or EdDSA"
  | certificate f => "invalid peer certificate: " ++ f.message
  | mismatch => "keys may not be consistent: KeyMismatch"

/-- Checks that a certificate and a private key belong together. -/
def checkPair (certificate : Bytes) (key : Pem.Section) : Except PairFault Unit :=
  match PrivateKey.public? key with
  | none => .error .key
  | some expected =>
    match X509.keyInfo certificate with
    | .error f => .error (.certificate f)
    | .ok found => if found = expected then .ok () else .error .mismatch

end Gatehouse.Tls
