import Gatehouse.Dns.Server
import Gatehouse.Proofs.Dns.Name
import Gatehouse.Proofs.Dns.Wire
import Gatehouse.Proofs.Dns.Zone
import Gatehouse.Proofs.Net.Subnet

/-!
The answers of the name server, as the client reads them. Main statements: `handle_answers`, by which the
address of a host is in the reply exactly if the labels of the query are those of the host, as long as none of
them is shown in characters beyond ASCII; and `handle_append`, by which a domain more changes what becomes of
queries for addresses in this domain only.
-/

namespace Gatehouse.Dns

open Net

/-! ## Reading replies -/

/-- Takes an address record. -/
def readAddress (message : Bytes) (c : Cursor) : Option (AddressRecord × Cursor) := do
  let (name, c) ← readName message c
  let (kind, c) ← c.word?
  let (net, c) ← c.word?
  let (high, c) ← c.word?
  let (low, c) ← c.word?
  let (length, c) ← c.word?
  let (data, c) ← c.take? length
  if kind = kindA ∧ net = netInternet ∧ length = 4 then
    pure (⟨name, 0x10000 * high + low, .ofNat (data.foldl (fun n b => 256 * n + b.toNat) 0)⟩, c)
  else none

def readAddresses (message : Bytes) : Nat → Cursor → Option (List AddressRecord)
  | 0, _ => some []
  | count + 1, c => do
    let (record, c) ← readAddress message c
    let more ← readAddresses message count c
    pure (record :: more)

/-- The answers in a reply, if all of them are address records. -/
def addresses? (reply : Bytes) : Option (List AddressRecord) := do
  let c ← Cursor.skip? 4 ⟨0, reply⟩
  let (questionCount, c) ← c.word?
  let (answerCount, c) ← c.word?
  let c ← c.skip? 4
  let (_, c) ← readQuestions reply questionCount c
  readAddresses reply answerCount c

variable {q : Question}

theorem foldl_octets (ip : Ipv4) :
    Ipv4.ofNat ((ip.octets.map UInt8.ofNat).foldl (fun n b => 256 * n + b.toNat) 0) = ip := by
  have hlt := ip.lt_size
  apply Ipv4.ext
  simp only [Ipv4.octets, List.map_cons, List.map_nil, List.foldl_cons, List.foldl_nil, UInt8.toNat_ofNat',
    Ipv4.ofNat]
  omega

/-- The answer to a question as it is written: a pointer to the name of the question, and the data. -/
def answerBytes (ttl : Nat) (ip : Ipv4) : Bytes :=
  0xC0 :: 0x0C :: (Draft.word kindA ++ (Draft.word netInternet ++ (Draft.word (ttl / 0x10000) ++ (Draft.word ttl ++
    (Draft.word 4 ++ ip.octets.map UInt8.ofNat)))))

theorem readAddress_answerBytes {message front after : Bytes} (position : Nat) {name : Name} (hfits : name.Fits)
    (hmessage : message = front ++ (Draft.labelBytes name ++ 0 :: after)) (hfront : front.length = 12)
    (hafter : 12 + (Draft.labelBytes name).length < position) (hroom : position ≤ message.length) (ttl : Nat)
    (ip : Ipv4) :
    readAddress message ⟨position, answerBytes ttl ip⟩ =
      some (⟨name, ttl % 0x100000000, ip⟩, ⟨position + 16, []⟩) := by
  have hname := readName_pointer hfits hmessage (by omega) (by omega) hroom
    (Draft.word kindA ++ (Draft.word netInternet ++ (Draft.word (ttl / 0x10000) ++ (Draft.word ttl ++
      (Draft.word 4 ++ ip.octets.map UInt8.ofNat)))))
  rw [hfront] at hname
  have hdata : Cursor.take? 4 ⟨position + 2 + 2 + 2 + 2 + 2 + 2, ip.octets.map UInt8.ofNat⟩ =
      some (ip.octets.map UInt8.ofNat, ⟨position + 2 + 2 + 2 + 2 + 2 + 2 + 4, []⟩) := rfl
  have httl : 0x10000 * (ttl / 0x10000 % 0x10000) + ttl % 0x10000 = ttl % 0x100000000 := by omega
  simp only [readAddress, bind]
  rw [answerBytes, show (0x0C : UInt8) = UInt8.ofNat 12 from rfl, hname]
  simp only [word?_word, Option.bind_some]
  rw [show 4 % 0x10000 = 4 from rfl, hdata]
  simp [kindA, netInternet, httl, foldl_octets]

/-! ## Writing replies -/

/-- What stands before the questions of a reply. -/
def header (r : Reply) : Bytes :=
  Draft.word r.id ++
    (UInt8.ofNat (128 + 8 * r.opcode.code + flag r.authoritative 4 + flag r.recursionDesired 1) ::
      UInt8.ofNat (flag r.recursionAvailable 128 + r.code.code) ::
        (Draft.word r.questions.length ++ (Draft.word r.answers.length ++ (Draft.word 0 ++ Draft.word 0))))

theorem length_header (r : Reply) : (header r).length = 12 := rfl

variable {r : Reply}

theorem encode?_eq (r : Reply) : r.encode? =
    (r.questions.foldlM Draft.writeQuestion ⟨header r, []⟩).bind fun d =>
      (r.answers.foldlM Draft.writeAnswer d).map (·.bytes) := by
  have hheader : Draft.word r.id ++ [UInt8.ofNat (128 + 8 * r.opcode.code + flag r.authoritative 4 +
      flag r.recursionDesired 1), UInt8.ofNat (flag r.recursionAvailable 128 + r.code.code)] ++
      Draft.word r.questions.length ++ Draft.word r.answers.length ++ Draft.word 0 ++ Draft.word 0 = header r := by
    simp [header]
  simp only [Reply.encode?, hheader, bind, pure, Option.map_eq_bind]
  rfl

theorem encode?_question (hquestions : r.questions = [q]) (hfits : q.name.Fits) :
    ∃ suffixes, (q.name ≠ [] → suffixes.lookup q.name = some 12) ∧
      r.encode? = (r.answers.foldlM Draft.writeAnswer ⟨header r ++ questionBytes q, suffixes⟩).map (·.bytes) := by
  obtain ⟨suffixes, hwrite, hlookup⟩ := Draft.writeQuestion_first (header r) hfits (by
    rw [length_header]
    decide)
  refine ⟨suffixes, hlookup, ?_⟩
  rw [encode?_eq, hquestions, List.foldlM_cons, hwrite]
  rfl

/-- A reply with one question is read up to its answers. -/
theorem addresses?_eq (hquestions : r.questions = [q]) (hfits : q.name.Fits) (answers : Bytes) :
    addresses? (header r ++ (questionBytes q ++ answers)) =
      readAddresses (header r ++ (questionBytes q ++ answers)) (r.answers.length % 0x10000)
        ⟨12 + (questionBytes q).length, answers⟩ := by
  have hskip : Cursor.skip? 4 ⟨0, header r ++ (questionBytes q ++ answers)⟩ =
      some ⟨4, Draft.word 1 ++ (Draft.word r.answers.length ++
        (Draft.word 0 ++ (Draft.word 0 ++ (questionBytes q ++ answers))))⟩ := by
    rw [header, hquestions]
    rfl
  have hskip' : Cursor.skip? 4 ⟨4 + 2 + 2, Draft.word 0 ++ (Draft.word 0 ++ (questionBytes q ++ answers))⟩ =
      some ⟨12, questionBytes q ++ answers⟩ := rfl
  have hread := readQuestions_one (header r ++ (questionBytes q ++ answers)) 12 hfits (by
    simp [length_header, length_questionBytes]
    omega) answers
  simp only [addresses?, bind, hskip, word?_word, Option.bind_some, hskip']
  rw [show 1 % 0x10000 = 1 from rfl, hread]
  rfl

/-- A reply without answers is written and read. -/
theorem encode?_empty (hquestions : r.questions = [q]) (hfits : q.name.Fits) (hanswers : r.answers = []) :
    ∃ bytes, r.encode? = some bytes ∧ addresses? bytes = some [] := by
  obtain ⟨suffixes, -, hencode⟩ := encode?_question hquestions hfits
  have hread := addresses?_eq hquestions hfits []
  rw [hanswers] at hencode hread
  rw [List.append_nil] at hread
  exact ⟨_, hencode, hread⟩

/-- A reply with an address is written, and the address is read. -/
theorem encode?_address (hquestions : r.questions = [q]) (hfits : q.name.Fits) (hne : q.name ≠ []) {ttl : Nat}
    {ip : Ipv4} (hanswers : r.answers = [⟨q.name, ttl, ip⟩]) :
    ∃ bytes, r.encode? = some bytes ∧ addresses? bytes = some [⟨q.name, ttl % 0x100000000, ip⟩] := by
  obtain ⟨suffixes, hlookup, hencode⟩ := encode?_question hquestions hfits
  have hshort : (Draft.labelBytes q.name).length < 255 := hfits.short
  have hlength : (header r ++ questionBytes q).length = 17 + (Draft.labelBytes q.name).length := by
    rw [List.length_append, length_header, length_questionBytes]
    omega
  have hanswer : Draft.writeAnswer ⟨header r ++ questionBytes q, suffixes⟩ ⟨q.name, ttl, ip⟩ =
      some ⟨header r ++ (questionBytes q ++ answerBytes ttl ip), suffixes⟩ := by
    rw [Draft.writeAnswer, Draft.writeName_again hne hfits (hlookup hne) (by decide) (by omega)]
    refine (Draft.write_of_le (d := ⟨_, suffixes⟩) ?_).trans ?_
    · rw [List.length_append, hlength]
      simp [Draft.word, Draft.long, Ipv4.octets, maxMessageLength]
      omega
    · simp [answerBytes, Draft.long]
  refine ⟨header r ++ (questionBytes q ++ answerBytes ttl ip), ?_, ?_⟩
  · rw [hencode, hanswers, List.foldlM_cons, hanswer]
    rfl
  · have hmessage : header r ++ (questionBytes q ++ answerBytes ttl ip) = header r ++
        (Draft.labelBytes q.name ++ 0 :: (Draft.word q.kind ++ Draft.word q.net ++ answerBytes ttl ip)) := by
      simp [questionBytes]
    have hread := readAddress_answerBytes (12 + (questionBytes q).length) hfits hmessage (length_header r)
      (by rw [length_questionBytes]; omega) (by simp [length_header, ← Nat.add_assoc]) ttl ip
    rw [addresses?_eq hquestions hfits, hanswers]
    simp [readAddresses, hread]

/-! ## Zones of hosts -/

/-- A zone of hosts: its names are in the form in which hosts are registered, each has one record, and its last label is
a registered domain. -/
structure Zone.OfHosts (zone : Zone) : Prop where
  names : ∀ record ∈ zone.hosts, ∃ given, HostName.normalize given = .ok record.1
  functional : zone.Functional
  registered : ∀ record ∈ zone.hosts, ∃ label, (Text.split '.' record.1).getLast? = some label ∧
    zone.isRegistered label = true

variable {zone : Zone} {name : Name} {ip : Ipv4}

theorem lookup_text_iff (hzone : zone.OfHosts) (hfits : name.Fits) :
    zone.lookup name.text = some ip ↔
      ∃ host, (host, ip) ∈ zone.hosts ∧ name.Spells host ∧ name.IsShownAsIs := by
  have nonempty : ∀ label ∈ name, label ≠ [] := fun label hm => (hfits.labels label hm).1
  have canonical : ∀ {host}, (host, ip) ∈ zone.hosts → HostName.IsCanonical host := by
    intro host hm
    obtain ⟨given, hgiven⟩ := hzone.names _ hm
    exact HostName.isCanonical_of_normalize hgiven
  rw [Zone.lookup_eq_some_iff hzone.functional]
  refine ⟨?_, ?_⟩
  · intro hm
    exact ⟨_, hm, (Name.zoneKey_text_eq_iff (canonical hm) nonempty).mp rfl⟩
  · intro h'
    obtain ⟨host, hm, spells⟩ := h'
    rwa [(Name.zoneKey_text_eq_iff (canonical hm) nonempty).mpr spells]

/-- A name that leads to a host lies in a registered domain. -/
theorem isManaged_of_lookup (hzone : zone.OfHosts) {t : Text} (h : zone.lookup t = some ip) :
    zone.isManaged t = true := by
  have hm := (Zone.lookup_eq_some_iff hzone.functional).mp h
  obtain ⟨given, hgiven⟩ := hzone.names _ hm
  have canonical := HostName.isCanonical_of_normalize hgiven
  obtain ⟨domain, hdomain, hlast, hname⟩ := HostName.domain?_eq canonical
  obtain ⟨label, hlabel, hregistered⟩ := hzone.registered _ hm
  obtain rfl : domain = label := Option.some.inj (hlast.symm.trans hlabel)
  have htext : HostName.domain? t = some domain := by
    rw [← hname, HostName.domain?, HostName.domain?, canonical.key_eq]
  rw [Zone.isRegistered, HostName.zoneKey_label canonical hdomain] at hregistered
  rw [Zone.isManaged, htext]
  exact hregistered

/-! ## Handling queries -/

namespace Server

/-- A query for one address. -/
structure Asks (query : Query) (q : Question) : Prop where
  isResponse : query.isResponse = false
  opcode : query.opcode = .query
  questions : query.questions = [q]
  kind : q.kind = kindA
  net : q.net = netInternet

/-- The question for the address of a name. -/
def addressOf (name : Name) : Question := ⟨name, kindA, netInternet⟩

/-- A client can ask for the address of any name that fits into a message. -/
theorem exists_asks (hfits : name.Fits) (id : Nat) :
    ∃ query, Query.decode? (asking id (addressOf name)) = some query ∧ Asks query (addressOf name) :=
  ⟨_, decode?_asking (q := addressOf name) hfits (show kindA < 0x10000 by decide)
    (show netInternet < 0x10000 by decide) id, rfl, rfl, rfl, rfl, rfl⟩

/-- A question is short enough to be passed on. -/
theorem sent?_asking (hfits : q.name.Fits) (id : Nat) (bytes : Bytes) :
    sent? (asking id q) (.delivers bytes) = some (asking id q) := by
  refine if_neg ?_
  have hshort : (Draft.labelBytes q.name).length < 255 := hfits.short
  simp [asking, Draft.word, length_questionBytes, maxMessageLength]
  omega

variable {query : Query}

/-- The server's own reply to a query for an address: the record of the name, if there is one. -/
theorem authoritative_of_asks (asks : Asks query q) (zone : Zone) (ttl : Nat) :
    ∃ reply : Reply, reply.questions = [q] ∧
      reply.answers = (match zone.lookup q.name.text with
        | some ip => [⟨q.name, ttl, ip⟩]
        | none => []) ∧
      authoritative zone ttl query = if zone.isManaged q.name.text then some reply else none := by
  refine ⟨⟨query.id, .query, true, query.recursionDesired, false, .noError, [q],
    match zone.lookup q.name.text with
    | some ip => [⟨q.name, ttl, ip⟩]
    | none => []⟩, rfl, rfl, ?_⟩
  have hcondition : (q.kind = kindA ∧ q.net = netInternet ∧ zone.isManaged q.name.text = true) ↔
      zone.isManaged q.name.text = true := by
    simp only [asks.kind, asks.net, true_and]
  unfold authoritative
  rw [asks.opcode, asks.questions]
  exact if_congr hcondition rfl rfl

variable {datagram : Bytes} {forwarder : Forwarder}

/-- The name that a query asks for can be written. -/
theorem Asks.fits (asks : Asks query q) (hdecode : Query.decode? datagram = some query) : q.name.Fits := by
  have hq : q ∈ query.questions := by
    rw [asks.questions]
    exact List.mem_singleton_self q
  exact ((decode?_fits hdecode).questions q hq).name

variable {ttl : Nat}

/-- A query that the server has an answer of its own to is not passed on. -/
theorem handle_of_own {reply : Reply} (hdecode : Query.decode? datagram = some query)
    (hresponse : query.isResponse = false) (hown : authoritative zone ttl query = some reply) (forwarder : Forwarder) :
    handle zone ttl forwarder datagram = ⟨reply.encode?, none⟩ := by
  simp only [handle, hdecode, hresponse, hown]
  rfl

/-- A query that the server has no answer of its own to is passed on, if it can be. -/
theorem handle_of_not_own (hdecode : Query.decode? datagram = some query) (hresponse : query.isResponse = false)
    (hown : authoritative zone ttl query = none) (forwarder : Forwarder) :
    handle zone ttl forwarder datagram =
      ⟨(exchange? datagram forwarder).or (failure query).encode?, sent? datagram forwarder⟩ := by
  simp only [handle, hdecode, hresponse, hown]
  cases exchange? datagram forwarder <;> rfl

/-- A query for an address that is not answered from the zone is passed on, if it can be. -/
theorem handle_of_unmanaged (asks : Asks query q) (hdecode : Query.decode? datagram = some query) (ttl : Nat)
    (forwarder : Forwarder) (hmanaged : zone.isManaged q.name.text = false) :
    handle zone ttl forwarder datagram =
      ⟨(exchange? datagram forwarder).or (failure query).encode?, sent? datagram forwarder⟩ := by
  obtain ⟨own, -, -, hown⟩ := authoritative_of_asks asks zone ttl
  rw [hmanaged, if_neg Bool.false_ne_true] at hown
  exact handle_of_not_own hdecode asks.isResponse hown forwarder

theorem exchange?_of_not_sent (h : sent? datagram forwarder = none) : exchange? datagram forwarder = none := by
  unfold sent? at h
  unfold exchange?
  split at h
  · rename_i hlength
    exact if_pos hlength
  · split at h
    · exact if_neg ‹_›
    · cases h

/-- The reply to a query for an address that was neither answered from the zone nor passed on has no answers. -/
theorem reply_of_not_sent (asks : Asks query q) (hdecode : Query.decode? datagram = some query)
    (hfits : q.name.Fits) (ttl : Nat) (hmanaged : zone.isManaged q.name.text = false)
    (hkept : (handle zone ttl forwarder datagram).forwarded = none) :
    ∃ bytes, (handle zone ttl forwarder datagram).reply = some bytes ∧ addresses? bytes = some [] := by
  rw [handle_of_unmanaged asks hdecode ttl forwarder hmanaged] at hkept ⊢
  rw [exchange?_of_not_sent hkept]
  exact encode?_empty (r := failure query) asks.questions hfits rfl

theorem handle_of_managed (asks : Asks query q) (hdecode : Query.decode? datagram = some query) (ttl : Nat)
    (forwarder : Forwarder) (hmanaged : zone.isManaged q.name.text = true) :
    ∃ reply : Reply, reply.questions = [q] ∧
      reply.answers = (match zone.lookup q.name.text with
        | some ip => [⟨q.name, ttl, ip⟩]
        | none => []) ∧
      handle zone ttl forwarder datagram = ⟨reply.encode?, none⟩ := by
  obtain ⟨own, hquestions, hanswers, hown⟩ := authoritative_of_asks asks zone ttl
  rw [hmanaged, if_pos rfl] at hown
  exact ⟨own, hquestions, hanswers, handle_of_own hdecode asks.isResponse hown forwarder⟩

/-- The root lies in no domain. -/
theorem name_ne_nil_of_managed {name : Name} (hmanaged : zone.isManaged name.text = true) : name ≠ [] := by
  rintro rfl
  have hroot : HostName.domain? (Name.text []) = none := by decide
  rw [Zone.isManaged, hroot] at hmanaged
  cases hmanaged

/-- The addresses in a reply that is the server's own: that of the name, if it has one. -/
theorem addresses?_of_kept (hzone : zone.OfHosts) (hdecode : Query.decode? datagram = some query)
    (asks : Asks query q) (hfits : q.name.Fits) (ttl : Nat)
    (hkept : (handle zone ttl forwarder datagram).forwarded = none) :
    ∃ bytes, (handle zone ttl forwarder datagram).reply = some bytes ∧
      addresses? bytes = some (((zone.lookup q.name.text).map fun ip => ⟨q.name, ttl % 0x100000000, ip⟩).toList) := by
  cases hmanaged : zone.isManaged q.name.text with
  | false =>
    have hnone : zone.lookup q.name.text = none := by
      by_contra hsome
      obtain ⟨ip, hfound⟩ := Option.ne_none_iff_exists'.mp hsome
      rw [isManaged_of_lookup hzone hfound] at hmanaged
      cases hmanaged
    rw [hnone]
    exact reply_of_not_sent asks hdecode hfits ttl hmanaged hkept
  | true =>
    obtain ⟨reply, hquestions, hanswers, heq⟩ := handle_of_managed asks hdecode ttl forwarder hmanaged
    rw [heq]
    cases hfound : zone.lookup q.name.text with
    | none =>
      rw [hfound] at hanswers
      exact encode?_empty hquestions hfits hanswers
    | some ip =>
      rw [hfound] at hanswers
      exact encode?_address hquestions hfits (name_ne_nil_of_managed hmanaged) hanswers

/-- What becomes of a query for the address of a name, when the zone is one of hosts. A name with the labels of a
host is not passed on, unless a label is shown in characters beyond ASCII. In a reply that is the server's own,
the answers are the address of the host with these labels, for the name as it was asked, and nothing else; there
is none if a label is shown in characters beyond ASCII. -/
theorem handle_answers (hzone : zone.OfHosts) (hdecode : Query.decode? datagram = some query)
    (asks : Asks query q) (ttl : Nat) (forwarder : Forwarder) :
    let handling := handle zone ttl forwarder datagram
    ((∃ host ip, (host, ip) ∈ zone.hosts ∧ q.name.Spells host ∧ q.name.IsShownAsIs) → handling.forwarded = none) ∧
    (handling.forwarded = none → ∃ bytes answers, handling.reply = some bytes ∧ addresses? bytes = some answers ∧
      ∀ record, record ∈ answers ↔ record.name = q.name ∧ record.ttl = ttl % 0x100000000 ∧
        ∃ host, (host, record.ip) ∈ zone.hosts ∧ q.name.Spells host ∧ q.name.IsShownAsIs) := by
  intro handling
  have hfits : q.name.Fits := asks.fits hdecode
  have hlookup : ∀ ip, zone.lookup q.name.text = some ip ↔
      ∃ host, (host, ip) ∈ zone.hosts ∧ q.name.Spells host ∧ q.name.IsShownAsIs :=
    fun ip => lookup_text_iff hzone hfits
  refine ⟨?_, ?_⟩
  · intro h'
    obtain ⟨host, ip, hhost⟩ := h'
    have hmanaged := isManaged_of_lookup hzone ((hlookup ip).mpr ⟨host, hhost⟩)
    obtain ⟨reply, -, -, heq⟩ := handle_of_managed asks hdecode ttl forwarder hmanaged
    exact congrArg Handling.forwarded heq
  · intro hkept
    obtain ⟨bytes, hreply, hread⟩ := addresses?_of_kept hzone hdecode asks hfits ttl hkept
    refine ⟨bytes, _, hreply, hread, ?_⟩
    intro record
    rw [Option.mem_toList, Option.map_eq_some_iff]
    refine ⟨?_, ?_⟩
    · rintro ⟨ip, hfound, rfl⟩
      exact ⟨rfl, rfl, (hlookup ip).mp hfound⟩
    · rintro ⟨hname, httl, hhost⟩
      refine ⟨record.ip, (hlookup record.ip).mpr hhost, ?_⟩
      rw [← hname, ← httl]

/-! ## One domain more -/

/-- A datagram with a query for the address of a name in a domain. -/
def AsksIn (domain : Text) (datagram : Bytes) : Prop :=
  ∃ query q, Query.decode? datagram = some query ∧ Asks query q ∧ HostName.domain? q.name.text = some domain

variable {domain : Text}

theorem isManaged_append (name : Text) : Zone.isManaged { zone with domains := zone.domains ++ [domain] } name =
    (zone.isManaged name || HostName.domain? name == some domain) := by
  unfold Zone.isManaged
  cases HostName.domain? name with
  | none => rfl
  | some last =>
    rw [Bool.eq_iff_iff]
    simp

/-- No query for an address in a registered domain is passed on. -/
theorem forwarded_of_asksIn (h : AsksIn domain datagram) (hdomain : domain ∈ zone.domains) (ttl : Nat)
    (forwarder : Forwarder) : (handle zone ttl forwarder datagram).forwarded = none := by
  obtain ⟨query, q, hdecode, asks, hname⟩ := h
  have hmanaged : zone.isManaged q.name.text = true := by
    rw [Zone.isManaged, hname]
    exact List.contains_iff_mem.mpr hdomain
  obtain ⟨reply, -, -, heq⟩ := handle_of_managed asks hdecode ttl forwarder hmanaged
  rw [heq]

/-- With one domain more, all that changes is what becomes of queries for addresses in it. -/
theorem handle_append (h : ¬ AsksIn domain datagram) (ttl : Nat) (forwarder : Forwarder) :
    handle { zone with domains := zone.domains ++ [domain] } ttl forwarder datagram =
      handle zone ttl forwarder datagram := by
  cases hdecode : Query.decode? datagram with
  | none => simp only [handle, hdecode]
  | some query =>
    cases hresponse : query.isResponse with
    | true => simp only [handle, hdecode, hresponse, if_true]
    | false =>
      have hown : authoritative { zone with domains := zone.domains ++ [domain] } ttl query =
          authoritative zone ttl query := by
        unfold authoritative
        split
        · rename_i q hopcode hquestions
          by_cases hplain : q.kind = kindA ∧ q.net = netInternet
          · have hother : HostName.domain? q.name.text ≠ some domain := fun hname =>
              h ⟨query, q, hdecode, ⟨hresponse, hopcode, hquestions, hplain.1, hplain.2⟩, hname⟩
            simp only [isManaged_append, beq_eq_false_iff_ne.mpr hother, Bool.or_false]
            rfl
          · simp only [← and_assoc, hplain, false_and, if_false]
        · rfl
      simp only [handle, hdecode, hresponse, hown]

theorem fits_capitals (hlabel : HostName.isLabel domain = true) : Name.Fits [Label.capitals domain] := by
  have hlength : (Label.capitals domain).length = domain.length := List.length_map _
  have hpos : 0 < domain.length := List.length_pos_iff.mpr (HostName.label_ne_nil hlabel)
  have hmax : domain.length ≤ 63 := HostName.length_label hlabel
  refine ⟨?_, ?_⟩
  · intro label hm
    rw [List.mem_singleton.mp hm]
    exact ⟨List.ne_nil_of_length_pos (by omega), by omega⟩
  · rw [length_labelBytes_cons, hlength, maxNameLength]
    exact Nat.lt_of_le_of_lt (Nat.add_le_add_right (Nat.add_le_add_right hmax 1) 0) (by decide)

/-- For every domain there is a query that is passed on as long as the domain is not registered. -/
theorem exists_asksIn (hlabel : HostName.isLabel domain = true) (hlower : Text.lower domain = domain)
    (hself : HostName.domain? domain = some domain) :
    ∃ datagram, AsksIn domain datagram ∧ ∀ zone : Zone, domain ∉ zone.domains → ∀ ttl,
      (handle zone ttl (.delivers []) datagram).forwarded = some datagram := by
  have hfits := fits_capitals hlabel
  obtain ⟨query, hdecode, asks⟩ := exists_asks hfits 0
  have hname : HostName.domain? (Name.text [Label.capitals domain]) = some domain :=
    (Name.domain?_capitals hlabel hlower).trans hself
  refine ⟨_, ⟨query, _, hdecode, asks, hname⟩, ?_⟩
  intro zone hunknown ttl
  have hmanaged : zone.isManaged (Name.text [Label.capitals domain]) = false := by
    rw [Zone.isManaged, hname, Option.any_some, Bool.eq_false_iff]
    exact fun hcontains => hunknown (List.contains_iff_mem.mp hcontains)
  rw [handle_of_unmanaged asks hdecode ttl _ hmanaged]
  exact sent?_asking hfits 0 []

/-- A zone with one host. -/
def zoneOf (host : Text) : Zone := ⟨["test"], [(host, .ofOctets 127 60 0 2)]⟩

theorem zoneOf_ofHosts {host : Text} (hhost : HostName.normalize host = .ok host)
    (hlast : (Text.split '.' host).getLast? = some "test") : (zoneOf host).OfHosts where
  names record hm := ⟨host, by rw [List.mem_singleton.mp hm]; exact hhost⟩
  functional := List.nodup_singleton host
  registered record hm := ⟨"test", by rw [List.mem_singleton.mp hm]; exact hlast, rfl⟩

/-- The name `A.test`, in this spelling. -/
def capitalName : Name := [[0x41], [0x74, 0x65, 0x73, 0x74]]

/-- A name in capitals gets the address of the host. -/
theorem capitalName_answered :
    (zoneOf "a.test").OfHosts ∧ (∃ query, Query.decode? (asking 1 (addressOf capitalName)) = some query ∧
        Asks query (addressOf capitalName)) ∧
      ∃ bytes answers,
        (handle (zoneOf "a.test") 5 .unreachable (asking 1 (addressOf capitalName))).reply = some bytes ∧
          addresses? bytes = some answers ∧ ⟨capitalName, 5, .ofOctets 127 60 0 2⟩ ∈ answers := by
  have hzone : (zoneOf "a.test").OfHosts := zoneOf_ofHosts (by rfl) (by decide)
  have hfits : Name.Fits capitalName := ⟨by decide, by decide⟩
  have hspells : ∃ host, (host, .ofOctets 127 60 0 2) ∈ (zoneOf "a.test").hosts ∧ Name.Spells capitalName host ∧
      Name.IsShownAsIs capitalName := ⟨"a.test", List.mem_singleton_self _, by decide, by decide⟩
  obtain ⟨query, hdecode, asks⟩ := exists_asks hfits 1
  obtain ⟨hkept, hanswers⟩ := handle_answers hzone hdecode asks 5 .unreachable
  obtain ⟨host, hhost⟩ := hspells
  obtain ⟨bytes, answers, hreply, haddresses, hmem⟩ := hanswers (hkept ⟨host, _, hhost⟩)
  exact ⟨hzone, ⟨query, hdecode, asks⟩, bytes, answers, hreply, haddresses, (hmem _).mpr ⟨rfl, rfl, host, hhost⟩⟩

/-- The name `xn--zca.test`, whose first label is shown as the letter that it stands for. -/
def eszettName : Name := [[0x78, 0x6E, 0x2D, 0x2D, 0x7A, 0x63, 0x61], [0x74, 0x65, 0x73, 0x74]]

theorem text_eszettName : Name.text eszettName = ['ß', '.', 't', 'e', 's', 't', '.'] := by
  have hread : Text.ofUtf8Lossy [0x78, 0x6E, 0x2D, 0x2D, 0x7A, 0x63, 0x61] =
      Idna.punycodeMark ++ ['z', 'c', 'a'] := by decide
  have hshown : Label.text [0x78, 0x6E, 0x2D, 0x2D, 0x7A, 0x63, 0x61] = ['ß'] := by
    rw [Label.text, Label.international?, if_pos (by decide), hread, Idna.toUnicode?_eszett]
    rfl
  have hplain : Label.text [0x74, 0x65, 0x73, 0x74] = ['t', 'e', 's', 't'] := by decide
  rw [Name.text, eszettName, List.map_cons, List.map_cons, List.map_nil, hshown, hplain]
  rfl

/-- A host that was registered under a name in punycode is not found under the same name. -/
theorem eszettName_unanswered :
    (zoneOf "xn--zca.test").OfHosts ∧ Name.Spells eszettName "xn--zca.test" ∧
      let handling := handle (zoneOf "xn--zca.test") 5 .unreachable (asking 1 (addressOf eszettName))
      handling.forwarded = none ∧ ∃ bytes, handling.reply = some bytes ∧ addresses? bytes = some [] := by
  have hfits : Name.Fits eszettName := ⟨by decide, by decide⟩
  obtain ⟨query, hdecode, asks⟩ := exists_asks hfits 1
  have htext : Name.text (addressOf eszettName).name = ['ß', '.', 't', 'e', 's', 't', '.'] := text_eszettName
  have hmanaged : (zoneOf "xn--zca.test").isManaged (Name.text (addressOf eszettName).name) = true := by
    rw [htext]
    decide
  have hlookup : (zoneOf "xn--zca.test").lookup (Name.text (addressOf eszettName).name) = none := by
    rw [htext]
    decide
  obtain ⟨reply, hquestions, hanswers, heq⟩ := handle_of_managed asks hdecode 5 .unreachable hmanaged
  have hnone : reply.answers = [] := by rw [hanswers, hlookup]
  obtain ⟨bytes, hencode, hread⟩ := encode?_empty hquestions hfits hnone
  refine ⟨zoneOf_ofHosts (by rfl) (by decide), by decide, ?_⟩
  intro handling
  have hhandling : handling = ⟨reply.encode?, none⟩ := heq
  rw [hhandling]
  exact ⟨rfl, bytes, hencode, hread⟩

end Server

end Gatehouse.Dns
