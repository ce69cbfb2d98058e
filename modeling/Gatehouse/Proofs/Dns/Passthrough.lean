import Gatehouse.Proofs.Dns.Authority
import Gatehouse.Proofs.Dns.Message

/-!
Queries that are passed on. Main statement: `handle_passthrough`, by which the other name server receives the datagram
as it came, its answer is the reply as it is, and without an answer the reply is a failure that repeats the query; and
`crowded_unsent`, by which there are failures that fit into a message and are not sent.
-/

namespace Gatehouse.Dns

/-- Whether a message offers recursion. -/
def offersRecursion (message : Bytes) : Bool := message[3]?.any fun b => b.toNat / 128 == 1

/-- The number that tells how a reply went. -/
def replyCode? (message : Bytes) : Option Nat := message[3]?.map fun b => b.toNat % 16

variable {r : Reply}

theorem encoding_flags (r : Reply) :
    offersRecursion r.encoding = r.recursionAvailable ∧ replyCode? r.encoding = some r.code.code := by
  have hbyte : r.encoding[3]? = some (UInt8.ofNat (flag r.recursionAvailable 128 + r.code.code)) := by
    obtain ⟨rest, hrest⟩ := header_encoding r
    rw [← hrest]
    rfl
  rw [offersRecursion, replyCode?, hbyte, Option.any_some, Option.map_some]
  cases r.recursionAvailable <;> cases r.code <;> decide

namespace Server

open Draft (labelBytes)

variable {zone : Zone} {ttl : Nat} {forwarder : Forwarder} {datagram body stream : Bytes} {query : Query}

/-! ## Streams -/

/-- A message is framed by its length, the high byte first. -/
theorem framed_eq {message : Bytes} (hlength : message.length ≤ maxMessageLength) :
    ∃ hi lo : UInt8, framed message = hi :: lo :: message ∧ 256 * hi.toNat + lo.toNat = message.length := by
  refine ⟨_, _, rfl, ?_⟩
  rw [maxMessageLength] at hlength
  rw [UInt8.toNat_ofNat', UInt8.toNat_ofNat']
  omega

theorem unframed?_eq_some_iff : unframed? stream = some body ↔
    ∃ (hi lo : UInt8) (rest : Bytes), stream = hi :: lo :: (body ++ rest) ∧
      256 * hi.toNat + lo.toNat = body.length := by
  match stream with
  | [] => simp [unframed?]
  | [_] => simp [unframed?]
  | hi :: lo :: rest =>
    simp only [unframed?, Option.ite_none_right_eq_some, Option.some_inj]
    refine ⟨?_, ?_⟩
    · rintro ⟨hle, rfl⟩
      exact ⟨hi, lo, rest.drop _, by rw [List.take_append_drop], (List.length_take_of_le hle).symm⟩
    · rintro ⟨hi', lo', rest', heq, hlength⟩
      obtain ⟨rfl, rfl, rfl⟩ : hi = hi' ∧ lo = lo' ∧ rest = body ++ rest' := by simpa using heq
      rw [hlength]
      exact ⟨by simp, List.take_left⟩

/-- The other name server delivers a message: its length in two bytes, and at least that many bytes. -/
def Forwarder.Delivers (forwarder : Forwarder) (body : Bytes) : Prop :=
  ∃ (hi lo : UInt8) (rest : Bytes), forwarder = .delivers (hi :: lo :: (body ++ rest)) ∧
    256 * hi.toNat + lo.toNat = body.length

theorem exchange?_eq_some_iff (hlength : datagram.length ≤ maxMessageLength) :
    exchange? datagram forwarder = some body ↔ forwarder.Delivers body := by
  simp only [exchange?, if_neg (Nat.not_lt.mpr hlength)]
  cases forwarder with
  | unreachable => exact iff_of_false (fun h => by cases h) fun ⟨_, _, _, h, _⟩ => by cases h
  | delivers stream =>
    simp only [unframed?_eq_some_iff, Forwarder.Delivers, Forwarder.delivers.injEq]

/-! ## Failures -/

/-- A failure is read as the query, but for the response flag. -/
theorem decode?_failure (hfits : query.Fits) :
    Query.decode? (failure query).encoding = some { query with isResponse := true } := by
  have hreply : (failure query).Fits :=
    ⟨hfits.id, hfits.count, Nat.zero_lt_succ _, hfits.questions, fun record hm => by cases hm⟩
  exact query_of_decode? (decode?_encoding hreply) (Nat.zero_le 1)

/-- A failure is written if it leaves space for one more name. -/
theorem hasRoom_failure (hfits : query.Fits)
    (hlength : (failure query).encoding.length + maxNameLength ≤ maxMessageLength) : (failure query).HasRoom :=
  ⟨Draft.haveRoom_of_length Draft.putQuestion_grows (fun q hm => (hfits.questions q hm).name) hlength, trivial⟩

/-! ## Passing on -/

/-- What becomes of a query that the server has no answer of its own to. If the other name server can be reached, it
receives the length of the datagram and the datagram as it came. If it delivers a whole message, this is the reply, as
it is. If not, the reply is a failure: its bytes are read as the query with the response flag set, and they are sent
exactly if they fit into a message and each name has room where it is written, before a pointer saves some of it. This
is so if the message leaves space for one more name. -/
theorem handle_passthrough (hdecode : Query.decode? datagram = some query) (hresponse : query.isResponse = false)
    (hown : authoritative zone ttl query = none) (hlength : datagram.length ≤ maxDatagram) (forwarder : Forwarder) :
    let handling := handle zone ttl forwarder datagram
    let failed := failure query
    (forwarder ≠ .unreachable → ∃ hi lo : UInt8, handling.stream? = some (hi :: lo :: datagram) ∧
      256 * hi.toNat + lo.toNat = datagram.length) ∧
    (∀ body, forwarder.Delivers body → handling.reply = some body) ∧
    ((¬ ∃ body, forwarder.Delivers body) →
      Query.decode? failed.encoding = some { query with isResponse := true } ∧
        offersRecursion failed.encoding = true ∧ replyCode? failed.encoding = some ReplyCode.serverFailure.code ∧
        (∀ bytes, handling.reply = some bytes ↔
          bytes = failed.encoding ∧ failed.encoding.length ≤ maxMessageLength ∧ failed.HasRoom) ∧
        (failed.encoding.length + maxNameLength ≤ maxMessageLength → handling.reply = some failed.encoding)) := by
  intro handling failed
  have hfits : query.Fits := decode?_fits hdecode
  have hmax : datagram.length ≤ maxMessageLength := Nat.le_trans hlength (by decide)
  have hhandling : handling = ⟨(exchange? datagram forwarder).or failed.encode?, sent? datagram forwarder⟩ :=
    handle_of_not_own hdecode hresponse hown forwarder
  refine ⟨?_, ?_, ?_⟩
  · intro hreached
    obtain ⟨hi, lo, hframed, hvalue⟩ := framed_eq hmax
    have hsent : sent? datagram forwarder = some datagram := by
      cases forwarder with
      | unreachable => exact absurd rfl hreached
      | delivers _ => exact if_neg (Nat.not_lt.mpr hmax)
    refine ⟨hi, lo, ?_, hvalue⟩
    rw [hhandling, Handling.stream?, hsent, Option.map_some, hframed]
  · intro body delivers
    rw [hhandling, (exchange?_eq_some_iff hmax).mpr delivers]
    rfl
  · intro hnothing
    have hexchange : exchange? datagram forwarder = none := by
      rw [Option.eq_none_iff_forall_ne_some]
      exact fun body h => hnothing ⟨body, (exchange?_eq_some_iff hmax).mp h⟩
    have hreply : ∀ bytes, handling.reply = some bytes ↔
        bytes = failed.encoding ∧ failed.encoding.length ≤ maxMessageLength ∧ failed.HasRoom := by
      intro bytes
      rw [hhandling, hexchange, ← encode?_eq_some_iff]
      rfl
    obtain ⟨hrecursion, hcode⟩ := encoding_flags failed
    refine ⟨decode?_failure hfits, hrecursion, hcode, hreply, ?_⟩
    intro hspace
    exact (hreply _).mpr ⟨rfl, Nat.le_of_add_right_le hspace, hasRoom_failure hfits hspace⟩

/-- Of a stream that ends early nothing is delivered. -/
theorem not_delivers_of_short {hi lo : UInt8} {rest : Bytes} (hshort : rest.length < 256 * hi.toNat + lo.toNat) :
    ¬ ∃ body, Forwarder.Delivers (.delivers (hi :: lo :: rest)) body := by
  rintro ⟨body, hi', lo', more, heq, hvalue⟩
  obtain ⟨rfl, rfl, rfl⟩ : hi = hi' ∧ lo = lo' ∧ rest = body ++ more := by simpa using heq
  rw [List.length_append] at hshort
  omega

/-- A query with a single label is answered with what the other name server delivers, and otherwise with a failure that
repeats it. -/
theorem label_passthrough :
    let datagram := asking 1 (addressOf [[0x61]])
    (handle .empty 5 (.delivers [0, 2, 7, 8, 9]) datagram).reply = some [7, 8] ∧
      (∃ hi lo : UInt8, (handle .empty 5 (.delivers [0, 2, 7]) datagram).stream? = some (hi :: lo :: datagram) ∧
        256 * hi.toNat + lo.toNat = 19) ∧
      ∃ bytes, (handle .empty 5 (.delivers [0, 2, 7]) datagram).reply = some bytes ∧
        Query.decode? bytes = some ⟨1, true, .query, true, [addressOf [[0x61]]]⟩ := by
  intro datagram
  have hdecode : Query.decode? datagram = some ⟨1, false, .query, true, [addressOf [[0x61]]]⟩ :=
    decode?_asking ⟨by decide, by decide⟩ (by decide) (by decide) 1
  have hown : authoritative .empty 5 ⟨1, false, .query, true, [addressOf [[0x61]]]⟩ = none := by decide +kernel
  have hlength : datagram.length ≤ maxDatagram := by decide
  obtain ⟨-, hdelivered, -⟩ := handle_passthrough hdecode rfl hown hlength (.delivers [0, 2, 7, 8, 9])
  obtain ⟨hstream, -, hfailed⟩ := handle_passthrough hdecode rfl hown hlength (.delivers [0, 2, 7])
  obtain ⟨hread, -, -, -, hsent⟩ := hfailed (not_delivers_of_short (by decide))
  exact ⟨hdelivered [7, 8] ⟨0, 2, [9], rfl, rfl⟩, hstream (by simp), _, hsent (by decide +kernel), hread⟩

/-! ## A failure that is not sent -/

/-- What comes before the mark of a slope. -/
def slopeFront : Bytes := List.replicate 192 63 ++ (List.range 61).map fun i => UInt8.ofNat (61 - i)

/-- Bytes in which a name stands at each of the first 61 places: three labels of 63 bytes, and one that is a byte
shorter at each place, up to the mark. -/
def slope (mark : UInt8) : Bytes := slopeFront ++ [mark, 0]

/-- The last label of the name at one of these places. -/
def slopeEnd (mark : UInt8) (i : Nat) : Label := ((slope mark).drop (i + 193)).take (61 - i)

/-- The name at one of these places. -/
def slopeName (mark : UInt8) (i : Nat) : Name :=
  [((slope mark).drop (i + 1)).take 63, ((slope mark).drop (i + 65)).take 63, ((slope mark).drop (i + 129)).take 63,
    slopeEnd mark i]

variable {mark mark' : UInt8} {i i' : Nat}

theorem length_slopeFront : slopeFront.length = 253 := by
  rw [slopeFront, List.length_append, List.length_replicate, List.length_map, List.length_range]

theorem length_slope (mark : UInt8) : (slope mark).length = 255 := by
  rw [slope, List.length_append, length_slopeFront]
  rfl

theorem slope_byte (mark : UInt8) (hi : i < 192) : (slope mark)[i]? = some (UInt8.ofNat 63) := by
  rw [slope, slopeFront, List.append_assoc, List.getElem?_append_left (by rwa [List.length_replicate]),
    List.getElem?_replicate, if_pos hi]
  rfl

theorem slope_byte_end (mark : UInt8) (hi : i < 61) : (slope mark)[192 + i]? = some (UInt8.ofNat (61 - i)) := by
  have hfill : (List.replicate 192 (63 : UInt8)).length = 192 := List.length_replicate
  rw [slope, slopeFront, List.append_assoc, List.getElem?_append_right (by omega), hfill, Nat.add_sub_cancel_left,
    List.getElem?_append_left (by rwa [List.length_map, List.length_range]), List.getElem?_map,
    List.getElem?_range hi]
  rfl

theorem slope_mark (mark : UInt8) : (slope mark)[253]? = some mark := by
  rw [slope, List.getElem?_append_right (Nat.le_of_eq length_slopeFront), length_slopeFront]
  rfl

/-- A name stands at each of the places. -/
theorem slope_drop (mark : UInt8) (hi : i < 61) : (slope mark).drop i = labelBytes (slopeName mark i) ++ [0] := by
  have hlength := length_slope mark
  have hroot : (slope mark).drop 254 = [0] := by rfl
  have hend := drop_label (slope_byte_end mark hi) (by omega)
  rw [show 192 + i + 1 + (61 - i) = 254 by omega, hroot] at hend
  have hfull : ∀ k, i + k < 192 → (slope mark).drop (i + k) =
      labelBytes [((slope mark).drop (i + (k + 1))).take 63] ++ (slope mark).drop (i + (k + 64)) :=
    fun k hk => drop_label (slope_byte mark hk) (by omega)
  rw [← Nat.add_zero i, hfull 0 (by omega), hfull 64 (by omega), hfull 128 (by omega), Nat.add_comm i 192, hend]
  simp [labelBytes, slopeName, slopeEnd, Nat.add_comm, Nat.add_left_comm]

theorem length_slopeName (mark : UInt8) (hi : i < 61) : (labelBytes (slopeName mark i)).length = 254 - i := by
  have h := congrArg List.length (slope_drop mark hi)
  rw [List.length_drop, length_slope, List.length_append, List.length_singleton] at h
  omega

theorem length_slopeEnd (mark : UInt8) (hi : i < 61) : (slopeEnd mark i).length = 61 - i := by
  rw [slopeEnd, List.length_take, List.length_drop, length_slope]
  omega

theorem getLast?_slopeEnd (mark : UInt8) (hi : i < 61) : (slopeEnd mark i).getLast? = some mark := by
  rw [List.getLast?_eq_getElem?, length_slopeEnd mark hi, slopeEnd, List.getElem?_take, if_pos (by omega),
    List.getElem?_drop, show i + 193 + (61 - i - 1) = 253 by omega, slope_mark]

theorem slopeName_fits (mark : UInt8) (hi : i < 61) : (slopeName mark i).Fits := by
  refine ⟨?_, ?_⟩
  · have hfull : ∀ k, i + k ≤ 192 → (((slope mark).drop (i + k)).take 63).length = 63 := by
      intro k hk
      rw [List.length_take, List.length_drop, length_slope]
      omega
    have fits : ∀ {label : Label} {n : Nat}, label.length = n → 0 < n → n < 0x40 →
        label ≠ [] ∧ label.length < 0x40 := by
      rintro label n rfl hpos hlt
      exact ⟨List.ne_nil_of_length_pos hpos, hlt⟩
    intro label hm
    simp only [slopeName, List.mem_cons, List.not_mem_nil, or_false] at hm
    rcases hm with rfl | rfl | rfl | rfl
    · exact fits (hfull 1 (by omega)) (by decide) (by decide)
    · exact fits (hfull 65 (by omega)) (by decide) (by decide)
    · exact fits (hfull 129 (by omega)) (by decide) (by decide)
    · exact fits (length_slopeEnd mark hi) (by omega) (by omega)
  · rw [length_slopeName mark hi, maxNameLength]
    omega

/-- Names at different places, or in slopes with different marks, end in different labels. -/
theorem slopeName_inj (hi : i < 61) (hi' : i' < 61)
    (h : (slopeName mark i).getLast? = (slopeName mark' i').getLast?) : mark = mark' ∧ i = i' := by
  have hends : slopeEnd mark i = slopeEnd mark' i' := Option.some.inj h
  have hlength := congrArg List.length hends
  have hlast := congrArg List.getLast? hends
  rw [length_slopeEnd mark hi, length_slopeEnd mark' hi'] at hlength
  rw [getLast?_slopeEnd mark hi, getLast?_slopeEnd mark' hi'] at hlast
  exact ⟨Option.some.inj hlast, by omega⟩

/-- The question for the name at a place in the slope of a number. -/
def slopeQuestion (place : Nat × Nat) : Question := addressOf (slopeName (UInt8.ofNat place.1) place.2)

/-- The beginnings of five slopes. -/
def slopeStarts : List (Nat × Nat) := (List.range 5).map fun x => (x, 0)

/-- Other places in these slopes. -/
def slopePlaces : List (Nat × Nat) := (List.range 279).map fun k => (k / 60, k % 60 + 1)

/-- A slope as a question. -/
def slopeBytes (place : Nat × Nat) : Bytes :=
  slope (UInt8.ofNat place.1) ++ (Draft.word kindA ++ Draft.word netInternet)

/-- A pointer to a place in a slope, as a question. -/
def pointerBytes (place : Nat × Nat) : Bytes :=
  Draft.word (0xC000 + (12 + 259 * place.1 + place.2)) ++ (Draft.word kindA ++ Draft.word netInternet)

/-- The places of all names in the query. -/
def crowdedPlaces : List (Nat × Nat) := slopeStarts ++ slopePlaces

/-- What stands before the questions of the query. -/
def crowdedFront : Bytes :=
  Draft.word 7 ++ (0x01 :: 0x00 :: (Draft.word 285 ++ (Draft.word 0 ++ (Draft.word 0 ++ Draft.word 0))))

/-- The questions of the query: five slopes, and pointers to the names in them; the first name is asked for once more at
the end. -/
def crowdedBody : Bytes := slopeStarts.flatMap slopeBytes ++ (slopePlaces ++ [(0, 0)]).flatMap pointerBytes

def crowded : Bytes := crowdedFront ++ crowdedBody

/-- What is read of it. -/
def crowdedQuery : Query := ⟨7, false, .query, true, (crowdedPlaces ++ [(0, 0)]).map slopeQuestion⟩

theorem length_crowded : crowded.length = 2987 := by decide +kernel

theorem crowded_slopes : ∀ x < 5, HasAt crowded (12 + 259 * x) (slope (UInt8.ofNat x)) := by decide +kernel

theorem place_bounds {place : Nat × Nat} (hm : place ∈ crowdedPlaces ++ [(0, 0)]) : place.1 < 5 ∧ place.2 < 61 := by
  simp only [crowdedPlaces, slopeStarts, slopePlaces, List.mem_append, List.mem_map, List.mem_range,
    List.mem_singleton] at hm
  rcases hm with (⟨x, hx, rfl⟩ | ⟨k, hk, rfl⟩) | rfl
  · exact ⟨hx, show 0 < 61 by decide⟩
  · exact ⟨by omega, by omega⟩
  · exact ⟨by decide, by decide⟩

theorem slopeQuestion_fits {place : Nat × Nat} (hplace : place.2 < 61) : (slopeQuestion place).Fits :=
  ⟨slopeName_fits _ hplace, (show kindA < 0x10000 by decide), (show netInternet < 0x10000 by decide)⟩

theorem crowdedQuery_fits : ∀ q ∈ crowdedQuery.questions, q.Fits := by
  intro q hm
  obtain ⟨place, hplace, rfl⟩ := List.mem_map.mp hm
  exact slopeQuestion_fits (place_bounds hplace).2

/-- The names stand in the slopes. -/
theorem crowded_stands {x i : Nat} (hx : x < 5) (hi : i < 61) :
    Stands crowded (12 + 259 * x + i) (12 + 259 * x + i) (slopeName (UInt8.ofNat x) i) (12 + 259 * x + 255) := by
  have hslope : HasAt crowded (12 + 259 * x) ((slope (UInt8.ofNat x)).take i ++ (slope (UInt8.ofNat x)).drop i) := by
    rw [List.take_append_drop]
    exact crowded_slopes x hx
  have here := hslope.right
  rw [List.length_take_of_le (by rw [length_slope]; omega), slope_drop _ hi] at here
  have hstop : 12 + 259 * x + 255 = 12 + 259 * x + i + (labelBytes (slopeName (UInt8.ofNat x) i)).length + 1 := by
    rw [length_slopeName _ hi]
    omega
  rw [hstop]
  exact .of_labelBytes (slopeName_fits _ hi).labels here

theorem slopeBytes_stand {place : Nat × Nat} (hm : place ∈ slopeStarts) {position : Nat}
    (here : HasAt crowded position (slopeBytes place)) :
    QuestionStands crowded position (slopeQuestion place) (position + (slopeBytes place).length) := by
  obtain ⟨x, -, rfl⟩ := List.mem_map.mp hm
  have hi : 0 < 61 := by decide
  have hlength : (slope (UInt8.ofNat x)).length = 255 := length_slope _
  have hname := length_slopeName (UInt8.ofNat x) hi
  have stands : Stands crowded position position (slopeName (UInt8.ofNat x) 0)
      (position + (labelBytes (slopeName (UInt8.ofNat x) 0)).length + 1) :=
    .of_labelBytes (slopeName_fits _ hi).labels (slope_drop (UInt8.ofNat x) hi ▸ here.left)
  have behind := here.right
  rw [hlength] at behind
  rw [hname] at stands
  exact ⟨position + 255, stands, behind, by rw [slopeBytes, List.length_append, hlength]; rfl⟩

theorem pointerBytes_stand {place : Nat × Nat} (hplace : place.1 < 5 ∧ place.2 < 61) {position : Nat}
    (hfloor : 1307 ≤ position) (here : HasAt crowded position (pointerBytes place)) :
    QuestionStands crowded position (slopeQuestion place) (position + (pointerBytes place).length) := by
  refine ⟨position + 2, ?_, here.right, rfl⟩
  exact .pointer (by omega) here.left (by omega) (crowded_stands hplace.1 hplace.2) (by omega)

theorem decode?_crowded : Query.decode? crowded = some crowdedQuery := by
  have hlength : (slopeStarts.flatMap slopeBytes).length = 1295 := by decide +kernel
  have here : HasAt crowded 12 crowdedBody := hasAt_end crowdedFront crowdedBody
  -- the slopes end at 1307, and only behind it may pointers lead into them
  have starts : QuestionsStand crowded 12 (slopeStarts.map slopeQuestion) 1307 := by
    have stand := questionsStand_flatMap (fun place hm position _ => slopeBytes_stand hm) (Nat.zero_le 12) here.left
    rwa [hlength] at stand
  obtain ⟨stop, places⟩ : ∃ stop, QuestionsStand crowded 1307 ((slopePlaces ++ [(0, 0)]).map slopeQuestion) stop := by
    have later := here.right
    rw [hlength] at later
    refine ⟨_, questionsStand_flatMap ?_ (Nat.le_refl 1307) later⟩
    intro place hm position hfloor
    exact pointerBytes_stand (place_bounds (by rw [crowdedPlaces, List.append_assoc]; exact List.mem_append_right _ hm))
      hfloor
  have stand : QuestionsStand crowded 12 crowdedQuery.questions stop := by
    have hquestions : crowdedQuery.questions =
        slopeStarts.map slopeQuestion ++ (slopePlaces ++ [(0, 0)]).map slopeQuestion := by
      rw [← List.map_append, ← List.append_assoc]
      rfl
    rw [hquestions]
    exact questionsStand_append starts places
  have hread := readQuestions_of_stand stand crowdedQuery_fits
  have hcount : crowdedQuery.questions.length = 285 := by
    simp [crowdedQuery, crowdedPlaces, slopeStarts, slopePlaces]
  have hplace : Cursor.into crowded 12 = ⟨12, crowdedBody⟩ := rfl
  rw [hcount, hplace] at hread
  exact decode?_of_questions rfl rfl hread

theorem crowdedPlaces_nodup : crowdedPlaces.Nodup := by
  rw [crowdedPlaces, List.nodup_append]
  refine ⟨List.nodup_range.map fun x y h => congrArg Prod.fst h, List.nodup_range.map ?_, ?_⟩
  · intro k k' h
    obtain ⟨hslope, hplace⟩ := Prod.mk.inj h
    omega
  · rintro place hstart other hplace rfl
    obtain ⟨x, -, rfl⟩ := List.mem_map.mp hstart
    obtain ⟨k, -, heq⟩ := List.mem_map.mp hplace
    cases heq

/-- Names at different places share no end. -/
theorem slopes_apart {place other : Nat × Nat} (hm : place ∈ crowdedPlaces) (hm' : other ∈ crowdedPlaces)
    (hne : place ≠ other) (s : Name) (hs : s ≠ []) (h : s <:+ (slopeQuestion place).name) :
    ¬ s <:+ (slopeQuestion other).name := by
  obtain ⟨hslope, hplace⟩ := place_bounds (List.mem_append_left _ hm)
  obtain ⟨hslope', hplace'⟩ := place_bounds (List.mem_append_left _ hm')
  refine Draft.apart_of_getLast? ?_ s hs h
  intro heq
  obtain ⟨hmark, hi⟩ := slopeName_inj hplace hplace' heq
  have hvalue := congrArg UInt8.toNat hmark
  rw [UInt8.toNat_ofNat', UInt8.toNat_ofNat'] at hvalue
  exact hne (Prod.ext (by omega) hi)

/-- The failure up to its last question. -/
def crowdedDraft : Draft :=
  (crowdedPlaces.map slopeQuestion).foldl Draft.putQuestion ⟨header (failure crowdedQuery), []⟩

theorem length_crowdedDraft : crowdedDraft.bytes.length = 65468 := by
  have hsum : ((crowdedPlaces.map slopeQuestion).map fun q => (questionBytes q).length).sum = 65456 := by
    have hlength : ∀ place ∈ crowdedPlaces, (questionBytes (slopeQuestion place)).length = 259 - place.2 := by
      intro place hm
      obtain ⟨-, hplace⟩ := place_bounds (List.mem_append_left _ hm)
      rw [length_questionBytes, slopeQuestion, addressOf, length_slopeName _ hplace]
      omega
    -- only numbers are left to be added
    rw [List.map_map, List.map_congr_left (g := fun place => 259 - place.2) hlength]
    decide +kernel
  -- no pointer saves a byte, since no two names share an end
  have apart : (crowdedPlaces.map slopeQuestion).Pairwise fun q q' => ∀ s, s ≠ [] → s <:+ q'.name → ¬ s <:+ q.name :=
    List.pairwise_map.mpr (crowdedPlaces_nodup.imp_of_mem fun hm hm' hne => slopes_apart hm' hm hne.symm)
  have fresh : ∀ q ∈ crowdedPlaces.map slopeQuestion,
      Draft.Fresh ⟨header (failure crowdedQuery), []⟩ q.name := fun q _ s _ _ => rfl
  rw [crowdedDraft, Draft.length_putQuestions fresh apart, hsum]
  rfl

/-- The first name is known when it is asked for again. -/
theorem lookup_crowdedDraft : crowdedDraft.suffixes.lookup (slopeQuestion (0, 0)).name = some 12 := by
  obtain ⟨rest, hrest⟩ : ∃ rest, crowdedPlaces = (0, 0) :: rest := ⟨_, rfl⟩
  have hnodup := hrest ▸ crowdedPlaces_nodup
  -- the names behind the first one keep no entry for it
  have hlater : ∀ q ∈ rest.map slopeQuestion, ¬ (slopeQuestion (0, 0)).name <:+ q.name := by
    intro q hm
    obtain ⟨place, hplace, rfl⟩ := List.mem_map.mp hm
    have hne : (0, 0) ≠ place := fun heq => (List.nodup_cons.mp hnodup).1 (heq ▸ hplace)
    exact slopes_apart (hrest ▸ List.mem_cons_self) (hrest ▸ List.mem_cons_of_mem _ hplace) hne _ (List.cons_ne_nil _ _)
      List.suffix_rfl
  have hname : (labelBytes (slopeQuestion (0, 0)).name).length = 254 := length_slopeName _ (by decide)
  have hkept := Draft.lookup_putQuestion_self (d := ⟨header (failure crowdedQuery), []⟩) (q := slopeQuestion (0, 0))
    (List.cons_ne_nil _ _) List.lookup_nil (by rw [hname, length_header]; decide)
  rw [crowdedDraft, hrest, List.map_cons, List.foldl_cons, Draft.lookup_putQuestions hlater, hkept, length_header]

theorem questions_crowdedQuery :
    crowdedQuery.questions = crowdedPlaces.map slopeQuestion ++ [slopeQuestion (0, 0)] := List.map_append

theorem asked_failure_crowded : (failure crowdedQuery).asked = crowdedDraft.putQuestion (slopeQuestion (0, 0)) := by
  have hquestions : (failure crowdedQuery).questions = crowdedQuery.questions := rfl
  rw [Reply.asked, hquestions, questions_crowdedQuery, List.foldl_append, ← crowdedDraft]
  rfl

theorem length_encoding_crowded : (failure crowdedQuery).encoding.length = 65474 := by
  rw [encoding_of_unanswered rfl, asked_failure_crowded,
    Draft.length_putQuestion_known (List.cons_ne_nil _ _) lookup_crowdedDraft, length_crowdedDraft]

theorem not_hasRoom_crowded : ¬ (failure crowdedQuery).HasRoom := by
  rintro ⟨hrooms, -⟩
  have hquestions : (failure crowdedQuery).questions = crowdedQuery.questions := rfl
  have hname : (labelBytes (slopeQuestion (0, 0)).name).length = 254 := length_slopeName _ (by decide)
  rw [hquestions, questions_crowdedQuery, Draft.haveRoom_append, ← crowdedDraft] at hrooms
  obtain ⟨-, hlast, -⟩ := hrooms
  -- 65468 bytes and the 254 of the name
  simp only [Draft.HasRoom, length_crowdedDraft, hname] at hlast
  exact absurd hlast (by decide)

/-- The query can be read and is not answered by the server; its failure fits into a message, but is not sent, since
there is no room for all labels of its last name before a pointer takes their place. -/
theorem crowded_unsent : crowded.length ≤ maxDatagram ∧ ∃ query, Query.decode? crowded = some query ∧
    query.isResponse = false ∧ authoritative .empty 5 query = none ∧
    Query.decode? (failure query).encoding = some { query with isResponse := true } ∧
    (failure query).encoding.length ≤ maxMessageLength ∧ (handle .empty 5 .unreachable crowded).reply = none := by
  have hlength : crowded.length ≤ maxDatagram := by
    rw [length_crowded]
    decide
  have hown : authoritative .empty 5 crowdedQuery = none := by rfl
  refine ⟨hlength, crowdedQuery, decode?_crowded, rfl, hown, decode?_failure (decode?_fits decode?_crowded), ?_, ?_⟩
  · rw [length_encoding_crowded]
    decide
  · rw [handle_of_not_own decode?_crowded rfl hown]
    have hencode : (failure crowdedQuery).encode? = none := by
      rw [Option.eq_none_iff_forall_ne_some]
      exact fun bytes h => not_hasRoom_crowded (encode?_eq_some_iff.mp h).2.2
    have hshort : ¬ maxMessageLength < crowded.length := by
      rw [length_crowded]
      decide
    have hexchange : exchange? crowded .unreachable = none := if_neg hshort
    rw [hexchange, hencode]
    rfl

end Server

end Gatehouse.Dns
