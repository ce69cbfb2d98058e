import Gatehouse.Text.Quoted
import Gatehouse.Text.Utf8
import Gatehouse.Tls.Base64

/-!
PEM files: sections in base64 between a line that opens them and one that closes them. Lines outside
sections do not count, and neither do sections of a kind that is not known.
-/

namespace Gatehouse.Tls.Pem

/-! ## Complaints -/

/-- Why a file cannot be read. -/
inductive Complaint where
  /-- An opening line does not end in five hyphens. -/
  | opening (line : Bytes)
  /-- The closing line of the section with this label is missing. -/
  | unclosed (label : Bytes)
  /-- A section is not in base64. -/
  | content (c : Base64.Complaint)
  deriving DecidableEq

def Complaint.message : Complaint → Text
  | opening line => "illegal section start: " ++ Text.quoted (Text.ofUtf8Lossy line)
  | unclosed label => "section end " ++ Text.quoted (Text.ofUtf8Lossy label) ++ " missing"
  | content c => c.message

/-! ## Sections -/

/-- What a section holds. The three kinds of private keys differ in their form. -/
inductive Kind where
  | certificate
  | publicKey
  | rsaKey
  | wrappedKey
  | curveKey
  | revocations
  | request
  | helloConfig
  deriving DecidableEq

def Kind.label : Kind → String
  | certificate => "CERTIFICATE"
  | publicKey => "PUBLIC KEY"
  | rsaKey => "RSA PRIVATE KEY"
  | wrappedKey => "PRIVATE KEY"
  | curveKey => "EC PRIVATE KEY"
  | revocations => "X509 CRL"
  | request => "CERTIFICATE REQUEST"
  | helloConfig => "ECHCONFIG"

/-- All kinds. -/
def Kind.all : List Kind :=
  [.certificate, .publicKey, .rsaKey, .wrappedKey, .curveKey, .revocations, .request, .helloConfig]

def Kind.ofLabel? (label : Bytes) : Option Kind :=
  Kind.all.find? fun k => Text.utf8 k.label == label

def Kind.isPrivateKey (k : Kind) : Bool := [rsaKey, wrappedKey, curveKey].contains k

/-- A section: its kind and its data. -/
structure Section where
  kind : Kind
  data : Bytes

/-! ## Lines -/

/-- The lines of a file, each with the line feed or carriage return that ends it. -/
def lines : Bytes → List Bytes
  | [] => []
  | b :: rest =>
    if b = 10 ∨ b = 13 then [b] :: lines rest
    else
      match lines rest with
      | [] => [[b]]
      | line :: more => (b :: line) :: more

def openMark : Bytes := Text.utf8 "-----BEGIN "

def hyphens : Bytes := Text.utf8 "-----"

/-- What may stand between and after the hyphens that end an opening line. -/
def isFill (b : UInt8) : Bool := b == 10 || b == 13 || b == 32

/-- The label in the rest of an opening line: what comes before the last five hyphens, if there are neither
more nor fewer of them at the end. -/
def label? (rest : Bytes) : Option Bytes :=
  let isEnd (b : UInt8) : Bool := b == 45 || isFill b
  let ending := (rest.reverse.takeWhile isEnd).reverse
  if ending.count 45 = 5 then
    some (rest.take (rest.length - ending.length) ++ ending.takeWhile isFill)
  else none

def closing (label : Bytes) : Bytes := Text.utf8 "-----END " ++ label ++ hyphens

/-! ## Reading -/

/-- The sections of a file up to the first complaint, read line by line: `label` is that of the open
section, and `text` is what it holds so far. A line that opens a section within another one gives it a new
label and keeps what it holds. -/
def readLines (label : Option Bytes) (text : Bytes) : List Bytes → List Section × Option Complaint
  | [] => ([], label.map .unclosed)
  | line :: rest =>
    match openMark.isPrefixOf? line with
    | some after =>
      match label? after with
      | none => ([], some (.opening line))
      | some label => readLines (some label) text rest
    | none =>
      match label with
      | none => readLines none text rest
      | some label =>
        if (closing label).isPrefixOf line then
          match Kind.ofLabel? label with
          | none => readLines none [] rest
          | some kind =>
            match Base64.decode text with
            | .error c => ([], some (.content c))
            | .ok data =>
              let later := readLines none [] rest
              (⟨kind, data⟩ :: later.1, later.2)
        else readLines (some label) (text ++ line) rest

/-- The sections of a file, and what is wrong after them. -/
def read (content : Bytes) : List Section × Option Complaint := readLines none [] (lines content)

def certificates (content : Bytes) : Except Complaint (List Bytes) :=
  match read content with
  | (_, some complaint) => .error complaint
  | (sections, none) => .ok ((sections.filter fun s => s.kind == .certificate).map (·.data))

/-- The first private key of a file; what comes after it does not count. -/
def privateKey (content : Bytes) : Except Complaint (Option Section) :=
  let (sections, complaint) := read content
  match sections.find? fun s => s.kind.isPrivateKey with
  | some key => .ok (some key)
  | none =>
    match complaint with
    | some c => .error c
    | none => .ok none

end Gatehouse.Tls.Pem
