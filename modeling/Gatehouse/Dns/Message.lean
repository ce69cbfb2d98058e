import Gatehouse.Dns.Name
import Gatehouse.Net.Ipv4

/-!
DNS messages: what the server reads of a query, and what it writes in a reply.
-/

namespace Gatehouse.Dns

/-- What a message asks for. -/
inductive Opcode where
  | query
  | status
  | notify
  | update
  deriving DecidableEq

def Opcode.code : Opcode → Nat
  | query => 0
  | status => 2
  | notify => 4
  | update => 5

def Opcode.ofCode? (n : Nat) : Option Opcode :=
  if n = 0 then some query
  else if n = 2 then some status
  else if n = 4 then some notify
  else if n = 5 then some update
  else none

/-- One question: a name, a record type and a class. -/
structure Question where
  name : Name
  kind : Nat
  net : Nat
  deriving DecidableEq

def kindA : Nat := 1

def netInternet : Nat := 1

/-- What the server reads of a message. -/
structure Query where
  id : Nat
  isResponse : Bool
  opcode : Opcode
  recursionDesired : Bool
  questions : List Question

/-- How a reply went. -/
inductive ReplyCode where
  | noError
  | serverFailure
  deriving DecidableEq

def ReplyCode.code : ReplyCode → Nat
  | noError => 0
  | serverFailure => 2

/-- An address record. -/
structure AddressRecord where
  name : Name
  ttl : Nat
  ip : Net.Ipv4

/-- A reply: a message with the response flag set, without authority and additional records. -/
structure Reply where
  id : Nat
  opcode : Opcode
  authoritative : Bool
  recursionDesired : Bool
  recursionAvailable : Bool
  code : ReplyCode
  questions : List Question
  answers : List AddressRecord

end Gatehouse.Dns
