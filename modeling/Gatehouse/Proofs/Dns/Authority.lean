import Gatehouse.Proofs.Dns.Domain
import Gatehouse.Proofs.Dns.Encoding

/-!
The queries that the name server answers by itself. Main statement: `handle_answered`, by which these are exactly
the queries for an address whose last label lies in a registered domain, and all others are passed on; and by which
a label lies in a domain if it is the domain, or if a dot and the domain stand at its end.
-/

namespace Gatehouse.Dns

open Net

/-! ## The header of a reply -/

/-- Whether the authoritative answer flag of a message is set. -/
def hasAuthority (message : Bytes) : Bool := message[2]?.any fun b => b.toNat / 4 % 2 == 1

variable {r : Reply} {bytes : Bytes}

theorem header_encode? (h : r.encode? = some bytes) : header r <+: bytes := by
  obtain ⟨rfl, -⟩ := encode?_eq_some_iff.mp h
  exact header_encoding r

theorem hasAuthority_header (r : Reply) : hasAuthority (header r) = r.authoritative := by
  have hbyte : (header r)[2]? =
      some (UInt8.ofNat (128 + 8 * r.opcode.code + flag r.authoritative 4 + flag r.recursionDesired 1)) := rfl
  rw [hasAuthority, hbyte, Option.any_some]
  cases r.opcode <;> cases r.authoritative <;> cases r.recursionDesired <;> decide

/-- A reply carries its authoritative answer flag. -/
theorem hasAuthority_of_encode? (h : r.encode? = some bytes) : hasAuthority bytes = r.authoritative := by
  obtain ⟨rest, rfl⟩ := header_encode? h
  rw [← hasAuthority_header r, hasAuthority, hasAuthority, List.getElem?_append_left (by rw [length_header]; decide)]

namespace Server

/-! ## Answering and passing on -/

/-- An authoritative answer: a reply with the flag set, and nothing that was passed on. -/
structure Answered (handling : Handling) : Prop where
  kept : handling.forwarded = none
  authority : ∃ bytes, handling.reply = some bytes ∧ hasAuthority bytes = true

variable {zone : Zone} {ttl : Nat} {forwarder : Forwarder} {datagram : Bytes} {query : Query} {q : Question}

/-- The server has an answer of its own to queries for an address in a registered domain only. -/
theorem asks_of_authoritative {reply : Reply} (hresponse : query.isResponse = false)
    (h : authoritative zone ttl query = some reply) :
    reply.authoritative = true ∧ ∃ q, Asks query q ∧ zone.isManaged q.name.text = true := by
  simp only [authoritative] at h
  split at h
  · rename_i q hopcode hquestions
    split at h
    · rename_i hq
      obtain rfl := Option.some.inj h
      exact ⟨rfl, q, ⟨hresponse, hopcode, hquestions, hq.1, hq.2.1⟩, hq.2.2⟩
    · cases h
  · cases h

/-- Every answer of the server's own can be written. -/
theorem encode?_of_managed (hdecode : Query.decode? datagram = some query) (asks : Asks query q) (zone : Zone)
    (ttl : Nat) (hmanaged : zone.isManaged q.name.text = true) :
    ∃ reply bytes, authoritative zone ttl query = some reply ∧ reply.encode? = some bytes := by
  have hfits : q.name.Fits := asks.fits hdecode
  obtain ⟨reply, hquestions, hanswers, hown⟩ := authoritative_of_asks asks zone ttl
  rw [hmanaged, if_pos rfl] at hown
  cases hfound : zone.lookup q.name.text with
  | none =>
    rw [hfound] at hanswers
    obtain ⟨bytes, hencode, -⟩ := encode?_empty hquestions hfits hanswers
    exact ⟨reply, bytes, hown, hencode⟩
  | some ip =>
    rw [hfound] at hanswers
    obtain ⟨bytes, hencode, -⟩ := encode?_address hquestions hfits (name_ne_nil_of_managed hmanaged) hanswers
    exact ⟨reply, bytes, hown, hencode⟩

theorem not_hasAuthority_failure (query : Query) : ¬ ∃ bytes, (failure query).encode? = some bytes ∧
    hasAuthority bytes = true := by
  rintro ⟨bytes, hencode, hauthority⟩
  rw [hasAuthority_of_encode? hencode] at hauthority
  cases hauthority

theorem sent?_of_exchange? {reply : Bytes} (h : exchange? datagram forwarder = some reply) :
    sent? datagram forwarder = some datagram := by
  unfold exchange? at h
  split at h
  · cases h
  · rename_i hlength
    split at h
    · cases h
    · rw [sent?, if_neg hlength]

/-- What is answered and not passed on is a query that the server has an answer of its own to: any other is passed on,
or its reply is a failure. -/
theorem authoritative_of_answered (answered : Answered (handle zone ttl forwarder datagram)) :
    ∃ query reply, Query.decode? datagram = some query ∧ query.isResponse = false ∧
      authoritative zone ttl query = some reply := by
  obtain ⟨hkept, hauthority⟩ := answered
  cases hdecode : Query.decode? datagram with
  | none => simp [handle, hdecode] at hauthority
  | some query =>
    cases hresponse : query.isResponse with
    | true => simp [handle, hdecode, hresponse] at hauthority
    | false =>
      cases hown : authoritative zone ttl query with
      | some reply => exact ⟨query, reply, rfl, hresponse, hown⟩
      | none =>
        rw [handle_of_not_own hdecode hresponse hown] at hkept hauthority
        cases hreply : exchange? datagram forwarder with
        | some reply =>
          exact absurd ((sent?_of_exchange? hreply).symm.trans hkept) (Option.some_ne_none _)
        | none =>
          rw [hreply] at hauthority
          exact absurd hauthority (not_hasAuthority_failure query)

/-- A query for an address in a registered domain is answered. -/
theorem answered_of_managed (hdecode : Query.decode? datagram = some query) (asks : Asks query q)
    (hmanaged : zone.isManaged q.name.text = true) : Answered (handle zone ttl forwarder datagram) := by
  obtain ⟨reply, bytes, hown, hencode⟩ := encode?_of_managed hdecode asks zone ttl hmanaged
  rw [handle_of_own hdecode asks.isResponse hown, hencode]
  refine ⟨rfl, bytes, rfl, ?_⟩
  rw [hasAuthority_of_encode? hencode]
  exact (asks_of_authoritative asks.isResponse hown).1

/-- The queries that the server answers by itself. -/
theorem answered_iff_managed : Answered (handle zone ttl forwarder datagram) ↔
    ∃ query q, Query.decode? datagram = some query ∧ Asks query q ∧ zone.isManaged q.name.text = true := by
  refine ⟨?_, ?_⟩
  · intro answered
    obtain ⟨query, reply, hdecode, hresponse, hown⟩ := authoritative_of_answered answered
    obtain ⟨-, q, asks, hmanaged⟩ := asks_of_authoritative hresponse hown
    exact ⟨query, q, hdecode, asks, hmanaged⟩
  · rintro ⟨query, q, hdecode, asks, hmanaged⟩
    exact answered_of_managed hdecode asks hmanaged

/-- A query is managed if its last label lies in a registered domain. -/
theorem isManaged_text_iff {name : Name} (nonempty : ∀ label ∈ name, label ≠ []) : zone.isManaged name.text = true ↔
    ∃ label domain, name.getLast? = some label ∧ domain ∈ zone.domains ∧
      HostName.domain? label.text = some domain := by
  rw [Zone.isManaged, Name.domain?_text nonempty, Option.any_eq_true]
  simp only [Option.bind_eq_some_iff, List.contains_iff_mem]
  refine ⟨?_, ?_⟩
  · rintro ⟨domain, ⟨label, hlast, hshown⟩, hm⟩
    exact ⟨label, domain, hlast, hm, hshown⟩
  · rintro ⟨label, domain, hlast, hm, hshown⟩
    exact ⟨domain, ⟨label, hlast, hshown⟩, hm⟩

theorem answered_iff : Answered (handle zone ttl forwarder datagram) ↔
    ∃ query q label domain, Query.decode? datagram = some query ∧ Asks query q ∧
      q.name.getLast? = some label ∧ domain ∈ zone.domains ∧ HostName.domain? label.text = some domain := by
  have hnonempty : ∀ {query q}, Query.decode? datagram = some query → Asks query q → ∀ label ∈ q.name, label ≠ [] := by
    intro query q hdecode asks label hm
    exact ((asks.fits hdecode).labels label hm).1
  rw [answered_iff_managed]
  refine ⟨?_, ?_⟩
  · rintro ⟨query, q, hdecode, asks, hmanaged⟩
    obtain ⟨label, domain, hdomain⟩ := (isManaged_text_iff (hnonempty hdecode asks)).mp hmanaged
    exact ⟨query, q, label, domain, hdecode, asks, hdomain⟩
  · rintro ⟨query, q, label, domain, hdecode, asks, hdomain⟩
    exact ⟨query, q, hdecode, asks, (isManaged_text_iff (hnonempty hdecode asks)).mpr ⟨label, domain, hdomain⟩⟩

theorem answered_asking_iff {name : Name} (hfits : name.Fits) {id : Nat} :
    Answered (handle zone ttl forwarder (asking id (addressOf name))) ↔ ∃ label domain,
      name.getLast? = some label ∧ domain ∈ zone.domains ∧ HostName.domain? label.text = some domain := by
  obtain ⟨query, hdecode, asks⟩ := exists_asks hfits id
  rw [answered_iff]
  refine ⟨?_, ?_⟩
  · rintro ⟨query', q, label, domain, hdecode', asks', hdomain⟩
    obtain rfl : query = query' := Option.some.inj (hdecode.symm.trans hdecode')
    obtain rfl : addressOf name = q := List.head_eq_of_cons_eq (asks.questions.symm.trans asks'.questions)
    exact ⟨label, domain, hdomain⟩
  · rintro ⟨label, domain, hdomain⟩
    exact ⟨query, addressOf name, label, domain, hdecode, asks, hdomain⟩

/-- A query that the server does not answer is passed on as it is. -/
theorem forwarded_of_not_answered (hdecode : Query.decode? datagram = some query)
    (hresponse : query.isResponse = false) (hlength : datagram.length ≤ maxMessageLength)
    (hanswered : ¬ Answered (handle zone ttl forwarder datagram)) (bytes : Bytes) :
    (handle zone ttl (.delivers bytes) datagram).forwarded = some datagram := by
  have hown : authoritative zone ttl query = none := by
    cases hown : authoritative zone ttl query with
    | none => rfl
    | some reply =>
      obtain ⟨-, q, asks, hmanaged⟩ := asks_of_authoritative hresponse hown
      exact absurd (answered_of_managed hdecode asks hmanaged) hanswered
  have hsent : sent? datagram (.delivers bytes) = some datagram := if_neg (Nat.not_lt.mpr hlength)
  rw [handle_of_not_own hdecode hresponse hown]
  exact hsent

/-- The queries that the server answers by itself, whatever the zone and the datagram are: those with a single
question for an address whose last label lies in a registered domain. A label lies in the domain that it is, up to
ASCII case, unless it is displayed in other characters; and in the one that stands behind the last dot in it. Every
other query is passed on. -/
theorem handle_answered (zone : Zone) (ttl : Nat) (forwarder : Forwarder) (datagram : Bytes) :
    (Answered (handle zone ttl forwarder datagram) ↔
      ∃ query q label domain, Query.decode? datagram = some query ∧ Asks query q ∧
        q.name.getLast? = some label ∧ domain ∈ zone.domains ∧ HostName.domain? label.text = some domain) ∧
    (∀ (label : Label) domain, HostName.isLabel domain = true → (HostName.domain? label.text = some domain ↔
      (label.international? = none ∧ Text.lower label.chars = domain) ∨ label.IsDotted domain)) ∧
    (∀ query, Query.decode? datagram = some query → query.isResponse = false → datagram.length ≤ maxMessageLength →
      ¬ Answered (handle zone ttl forwarder datagram) →
      ∀ bytes, (handle zone ttl (.delivers bytes) datagram).forwarded = some datagram) := by
  refine ⟨answered_iff, fun label domain hdomain => Label.domain?_text_iff hdomain, ?_⟩
  intro query hdecode hresponse hlength hanswered bytes
  exact forwarded_of_not_answered hdecode hresponse hlength hanswered bytes

/-- A name in capitals is answered for, and one in another domain is passed on. -/
theorem capitalName_authority :
    Answered (handle (zoneOf "a.test") 5 .unreachable (asking 1 (addressOf capitalName))) ∧
      ∀ bytes, (handle (zoneOf "a.test") 5 (.delivers bytes) (asking 1 (addressOf [[0x61]]))).forwarded =
        some (asking 1 (addressOf [[0x61]])) := by
  have hcapital : capitalName.Fits := ⟨by decide, by decide⟩
  obtain ⟨query, hdecode, asks⟩ := exists_asks hcapital 1
  obtain ⟨hanswered, hlabel, -⟩ := handle_answered (zoneOf "a.test") 5 .unreachable (asking 1 (addressOf capitalName))
  have hshown : HostName.domain? (Label.text [0x74, 0x65, 0x73, 0x74]) = some "test" :=
    (hlabel _ _ (by decide)).mpr (.inl ⟨by decide, by decide⟩)
  have hfits : Name.Fits [[0x61]] := ⟨by decide, by decide⟩
  obtain ⟨other, hother, asksOther⟩ := exists_asks hfits 1
  obtain ⟨-, -, hforwarded⟩ := handle_answered (zoneOf "a.test") 5 .unreachable (asking 1 (addressOf [[0x61]]))
  refine ⟨hanswered.mpr ⟨query, _, _, "test", hdecode, asks, rfl, List.mem_singleton_self _, hshown⟩,
    hforwarded other hother asksOther.isResponse (by decide) ?_⟩
  rw [answered_asking_iff hfits]
  rintro ⟨label, domain, hlast, hdomain, hin⟩
  obtain rfl := Option.some.inj hlast
  obtain rfl := List.mem_singleton.mp hdomain
  exact absurd hin (by decide)

/-- The name with the single label `a.test`. -/
def dottedName : Name := [[0x61, 0x2E, 0x74, 0x65, 0x73, 0x74]]

/-- A name that is not in a registered domain, but ends in a dot and one, is answered for all the same. -/
theorem dottedName_answered :
    Answered (handle (zoneOf "a.test") 5 (.delivers []) (asking 1 (addressOf dottedName))) ∧
      ¬ ∃ query q label domain, Query.decode? (asking 1 (addressOf dottedName)) = some query ∧
        query.questions = [q] ∧ q.name.getLast? = some label ∧ domain ∈ (zoneOf "a.test").domains ∧
          Text.lower label.chars = Text.lower domain := by
  have hfits : dottedName.Fits := ⟨by decide, by decide⟩
  obtain ⟨query, hdecode, asks⟩ := exists_asks hfits 1
  refine ⟨(answered_asking_iff hfits).mpr ⟨_, "test", rfl, List.mem_singleton_self _, by decide⟩, ?_⟩
  rintro ⟨query', q, label, domain, hdecode', hquestions, hlast, hdomain, hlabel⟩
  obtain rfl : query = query' := Option.some.inj (hdecode.symm.trans hdecode')
  obtain rfl : addressOf dottedName = q := List.head_eq_of_cons_eq (asks.questions.symm.trans hquestions)
  obtain rfl := Option.some.inj hlast
  obtain rfl := List.mem_singleton.mp hdomain
  exact absurd hlabel (by decide)

end Server

end Gatehouse.Dns
