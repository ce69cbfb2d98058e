import Gatehouse.Dns.Decode
import Gatehouse.Dns.Encode
import Gatehouse.Dns.Zone

/-!
The name server: queries for addresses in a registered domain are answered from the zone, all others are
passed on, as they are, to another name server.

`handle` is what becomes of one datagram. The sockets are left out, and the other name server is given by the bytes that
it delivers before its time is over (`Forwarder`).
-/

namespace Gatehouse.Dns.Server

/-- The largest datagram that the server takes; longer ones are cut. -/
def maxDatagram : Nat := 4096

/-- What the other name server does with a query. -/
inductive Forwarder where
  /-- No connection comes about. -/
  | unreachable
  /-- It delivers these bytes before it ends the connection or the time is over. -/
  | delivers (bytes : Bytes)

/-- What became of a query: the reply, if there is one, and what the other name server was sent, without
the length in front. -/
structure Handling where
  reply : Option Bytes
  forwarded : Option Bytes

/-- The answer to a single question for an address in a registered domain. -/
def authoritative (zone : Zone) (ttl : Nat) (query : Query) : Option Reply :=
  match query.opcode, query.questions with
  | .query, [question] =>
    let name := question.name.text
    if question.kind = kindA ∧ question.net = netInternet ∧ zone.isManaged name then
      some {
        id := query.id
        opcode := .query
        authoritative := true
        recursionDesired := query.recursionDesired
        recursionAvailable := false
        code := .noError
        questions := [question]
        answers := match zone.lookup name with
          | some ip => [⟨question.name, ttl, ip⟩]
          | none => [] }
    else none
  | _, _ => none

def failure (query : Query) : Reply where
  id := query.id
  opcode := query.opcode
  authoritative := false
  recursionDesired := query.recursionDesired
  recursionAvailable := true
  code := .serverFailure
  questions := query.questions
  answers := []

/-- A message as it is sent over a stream: its length in two bytes, then the message. -/
def framed (message : Bytes) : Bytes := Draft.word message.length ++ message

/-- The bytes that the other name server receives, if it is sent something. -/
def Handling.stream? (h : Handling) : Option Bytes := h.forwarded.map framed

/-- The message at the front of a stream, if all of it is there. -/
def unframed? : Bytes → Option Bytes
  | hi :: lo :: rest =>
    let length := 256 * hi.toNat + lo.toNat
    if length ≤ rest.length then some (rest.take length) else none
  | _ => none

def exchange? (datagram : Bytes) (forwarder : Forwarder) : Option Bytes :=
  if maxMessageLength < datagram.length then none
  else
    match forwarder with
    | .unreachable => none
    | .delivers bytes => unframed? bytes

/-- What the other name server receives when a datagram is passed on. -/
def sent? (datagram : Bytes) (forwarder : Forwarder) : Option Bytes :=
  if maxMessageLength < datagram.length then none
  else
    match forwarder with
    | .unreachable => none
    | .delivers _ => some datagram

/-- What becomes of a datagram. One that is no query is dropped. -/
def handle (zone : Zone) (ttl : Nat) (forwarder : Forwarder) (datagram : Bytes) : Handling :=
  match Query.decode? datagram with
  | none => ⟨none, none⟩
  | some query =>
    if query.isResponse then ⟨none, none⟩
    else
      match authoritative zone ttl query with
      | some reply => ⟨reply.encode?, none⟩
      | none =>
        match exchange? datagram forwarder with
        | some reply => ⟨some reply, sent? datagram forwarder⟩
        | none => ⟨(failure query).encode?, sent? datagram forwarder⟩

end Gatehouse.Dns.Server
