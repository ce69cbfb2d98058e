import Gatehouse.Proofs.Dns.Authority
import Gatehouse.Proofs.Dns.Message

/-!
What the server answers by itself. Main statement: `handle_reply`, by which the reply to a query says the address of the
name that was asked for, and nothing beside it.
-/

namespace Gatehouse.Dns

namespace Server

/-! ## The server's own replies -/

variable {zone : Zone} {ttl : Nat} {query : Query} {q : Question} {datagram : Bytes}

/-- The record that a zone has for a name, if there is one. -/
def recordsOf (zone : Zone) (ttl : Nat) (name : Name) : List AddressRecord :=
  ((zone.lookup name.text).map fun ip => ⟨name, ttl, ip⟩).toList

/-- The server's own reply to a question of a query. -/
def ownReply (zone : Zone) (ttl : Nat) (query : Query) (q : Question) : Reply where
  id := query.id
  opcode := .query
  authoritative := true
  recursionDesired := query.recursionDesired
  recursionAvailable := false
  code := .noError
  questions := [q]
  answers := recordsOf zone ttl q.name

theorem authoritative_eq (asks : Asks query q) (hmanaged : zone.isManaged q.name.text = true) :
    authoritative zone ttl query = some (ownReply zone ttl query q) := by
  rw [authoritative, asks.opcode, asks.questions]
  refine (if_pos ⟨asks.kind, asks.net, hmanaged⟩).trans ?_
  rw [ownReply, recordsOf]
  cases zone.lookup q.name.text <;> rfl

theorem ownReply_fits (hdecode : Query.decode? datagram = some query) (asks : Asks query q) (zone : Zone)
    (httl : ttl < 0x100000000) : (ownReply zone ttl query q).Fits := by
  have hquery := decode?_fits hdecode
  have hq : q ∈ query.questions := by
    rw [asks.questions]
    exact List.mem_singleton_self q
  have hone : 1 < 0x10000 := by decide
  refine ⟨hquery.id, hone, Nat.lt_of_le_of_lt Option.length_toList_le hone, ?_, ?_⟩
  · intro q' hm
    rw [List.mem_singleton.mp hm]
    exact hquery.questions q hq
  · intro record hm
    rw [ownReply, recordsOf, Option.mem_toList, Option.map_eq_some_iff] at hm
    obtain ⟨ip, -, rfl⟩ := hm
    exact ⟨(hquery.questions q hq).name, httl⟩

/-- What the server answers by itself, whatever the zone and the datagram are, as it is read in full. The queries that
it answers are those for an address in a registered domain. Every one of them gets a reply with the id of the query, its
wish for recursion, its one question with the labels as they were spelled, and the address record of the name, if the
zone has one. No other flag is set, no other section has a record, and nothing comes after the message. -/
theorem handle_reply (zone : Zone) (ttl : Nat) (forwarder : Forwarder) (datagram : Bytes) (httl : ttl < 0x100000000) :
    (Answered (handle zone ttl forwarder datagram) ↔
      ∃ query q, Query.decode? datagram = some query ∧ Asks query q ∧ zone.isManaged q.name.text = true) ∧
    ∀ query q, Query.decode? datagram = some query → Asks query q → zone.isManaged q.name.text = true →
      ∃ bytes, (handle zone ttl forwarder datagram).reply = some bytes ∧
        Query.decode? bytes = some ⟨query.id, true, .query, query.recursionDesired, [q]⟩ ∧
        Message.decode? bytes = some {
          id := query.id
          isResponse := true
          opcode := .query
          authoritative := true
          truncated := false
          recursionDesired := query.recursionDesired
          recursionAvailable := false
          reserved := 0
          code := 0
          questions := [⟨q.name, kindA, netInternet⟩]
          answers := recordsOf zone ttl q.name
          authority := []
          additional := []
          left := [] } := by
  refine ⟨answered_iff_managed, ?_⟩
  intro query q hdecode asks hmanaged
  obtain ⟨reply, bytes, hown, hencode⟩ := encode?_of_managed hdecode asks zone ttl hmanaged
  obtain rfl : ownReply zone ttl query q = reply := Option.some.inj ((authoritative_eq asks hmanaged).symm.trans hown)
  obtain ⟨hbytes, -⟩ := encode?_eq_some_iff.mp hencode
  have hread := decode?_encoding (ownReply_fits hdecode asks zone httl)
  rw [← hbytes] at hread
  have hreply : (handle zone ttl forwarder datagram).reply = some bytes := by
    rw [handle_of_own hdecode asks.isResponse hown]
    exact hencode
  refine ⟨bytes, hreply, query_of_decode? hread (Nat.zero_le 1), ?_⟩
  rw [hread, Reply.said, ownReply, ← asks.kind, ← asks.net]
  rfl

/-- The name `b.test`. -/
def otherName : Name := [[0x62], [0x74, 0x65, 0x73, 0x74]]

/-- A name in capitals gets a record under this name, and one without an address gets an empty answer. -/
theorem capitalName_reply :
    (∃ bytes m, (handle (zoneOf "a.test") 5 .unreachable (asking 1 (addressOf capitalName))).reply = some bytes ∧
      Message.decode? bytes = some m ∧ m.id = 1 ∧ m.authoritative = true ∧ m.questions = [addressOf capitalName] ∧
        m.answers = [⟨capitalName, 5, .ofOctets 127 60 0 2⟩]) ∧
      ∃ bytes m, (handle (zoneOf "a.test") 5 .unreachable (asking 2 (addressOf otherName))).reply = some bytes ∧
        Message.decode? bytes = some m ∧ m.id = 2 ∧ m.questions = [addressOf otherName] ∧ m.answers = [] := by
  have httl : 5 < 0x100000000 := by decide
  have hcapital : capitalName.Fits := ⟨by decide, by decide⟩
  have hother : otherName.Fits := ⟨by decide, by decide⟩
  obtain ⟨-, hreply⟩ := handle_reply (zoneOf "a.test") 5 .unreachable (asking 1 (addressOf capitalName)) httl
  obtain ⟨-, hempty⟩ := handle_reply (zoneOf "a.test") 5 .unreachable (asking 2 (addressOf otherName)) httl
  obtain ⟨bytes, hbytes, -, hread⟩ := hreply _ (addressOf capitalName)
    (decode?_asking (q := addressOf capitalName) hcapital (show kindA < 0x10000 by decide)
      (show netInternet < 0x10000 by decide) 1) ⟨rfl, rfl, rfl, rfl, rfl⟩ (by decide)
  obtain ⟨bytes', hbytes', -, hread'⟩ := hempty _ (addressOf otherName)
    (decode?_asking (q := addressOf otherName) hother (show kindA < 0x10000 by decide)
      (show netInternet < 0x10000 by decide) 2) ⟨rfl, rfl, rfl, rfl, rfl⟩ (by decide)
  have hfound : recordsOf (zoneOf "a.test") 5 capitalName = [⟨capitalName, 5, .ofOctets 127 60 0 2⟩] := by
    have hlookup : (zoneOf "a.test").lookup (Name.text capitalName) = some (.ofOctets 127 60 0 2) := by decide
    rw [recordsOf, hlookup]
    rfl
  have hnone : recordsOf (zoneOf "a.test") 5 otherName = [] := by
    have hlookup : (zoneOf "a.test").lookup (Name.text otherName) = none := by decide
    rw [recordsOf, hlookup]
    rfl
  exact ⟨⟨bytes, _, hbytes, hread, rfl, rfl, rfl, hfound⟩, bytes', _, hbytes', hread', rfl, rfl, hnone⟩

end Server

end Gatehouse.Dns
