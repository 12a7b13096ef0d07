import ObservatoryWatch.Proofs.AddedPath
import ObservatoryWatch.Proofs.RoomProtocol

/-!
Where a room stands in the addresses of requests.

The join and every message name the room in their paths. However a room is called, its name takes up
one segment there, from which it can be read back, and what stands around this segment does not
depend on it. This takes a homeserver whose address has neither a query nor a fragment: the path is
added at the end of the text, and these would hold it.
-/

namespace ObservatoryWatch.Chat.Matrix

open Http Text

variable {W α β : Type}

/-! ## Addresses -/

/-- The requests that name the room. -/
inductive Endpoint where
  | join
  | message (mark : String)

namespace Endpoint

/-- The segments in front of the room. -/
def before : Endpoint → List String
  | join => ["_matrix", "client", "v3", "join"]
  | message _ => ["_matrix", "client", "v3", "rooms"]

/-- The segments behind the room. -/
def after : Endpoint → List String
  | join => []
  | message mark => ["send", "m.room.message", mark]

/-- All segments of the path, with the room as it is escaped. -/
def segments (endpoint : Endpoint) (room : String) : List String :=
  endpoint.before ++ percentSegment room :: endpoint.after

theorem joinPath_eq (room : String) : joinPath room = slashed (join.segments room) := by
  have front : "/_matrix/client/v3/join/" = slashed ["_matrix", "client", "v3", "join"] ++ "/" := by
    decide
  have parts : join.segments room =
      ["_matrix", "client", "v3", "join"] ++ [percentSegment room] := rfl
  unfold joinPath
  rw [front, parts, slashed_append, slashed_singleton, String.append_assoc]

theorem messagePath_eq (room mark : String) :
    messagePath room mark = slashed ((message mark).segments room) := by
  have front : "/_matrix/client/v3/rooms/" =
      slashed ["_matrix", "client", "v3", "rooms"] ++ "/" := by decide
  have middle : "/send/m.room.message/" = slashed ["send", "m.room.message"] ++ "/" := by decide
  have parts : (message mark).segments room =
      ["_matrix", "client", "v3", "rooms"] ++ [percentSegment room] ++
        ["send", "m.room.message"] ++ [mark] := rfl
  unfold messagePath
  rw [front, middle, parts, slashed_append, slashed_append, slashed_append, slashed_singleton,
    slashed_singleton, ← String.append_assoc, ← String.append_assoc, ← String.append_assoc]

end Endpoint

/-- The address to whose path the requests add theirs. -/
def home (homeserver : String) : Url := .ofText (Url.withoutLastSlashes homeserver)

/-- A segment that is written in ASCII and without the marks that divide an address, and from which
the room can be read. -/
structure Names (segment room : String) : Prop where
  contained : ∀ character ∈ segment.toList,
    character.toNat < 128 ∧ character ∉ ['/', '?', '#']
  read : percentDecode? segment = some room

/-- The address is that of an endpoint below another address, with the room in one segment. -/
structure AddressesRoom (base : Url) (endpoint : Endpoint) (room : String) (url : Url) : Prop where
  scheme : url.scheme = base.scheme
  authority : url.authority = base.authority
  unqueried : url.query = none
  segment : ∃ segment, Names segment room ∧
    segments '/' url.target =
      segments '/' base.path ++ (endpoint.before ++ segment :: endpoint.after)

/-- What the host is told of an address tells the endpoint and the room. -/
theorem AddressesRoom.unique {base url otherUrl : Url} {endpoint other : Endpoint}
    {room otherRoom : String} (one : AddressesRoom base endpoint room url)
    (another : AddressesRoom base other otherRoom otherUrl) (same : url.target = otherUrl.target) :
    endpoint = other ∧ room = otherRoom := by
  rcases one.segment with ⟨segment, names, place⟩
  rcases another.segment with ⟨otherSegment, otherNames, otherPlace⟩
  rw [same, otherPlace, List.append_cancel_left_eq] at place
  -- A join has fewer segments than a message, so only requests of one kind can agree.
  have agree : segment = otherSegment ∧ endpoint = other := by
    cases endpoint <;> cases other <;> simp_all [Endpoint.before, Endpoint.after]
  have read := names.read
  rw [agree.1, otherNames.read] at read
  exact ⟨agree.2, (Option.some.inj read).symm⟩

theorem names_percentSegment (room : String) : Names (percentSegment room) room := by
  refine ⟨fun character member => ?_, percentDecode?_percentSegment room⟩
  have stands := standsInSegment_percentSegment room character member
  refine ⟨toNat_lt_of_standsInSegment stands, fun mark => ?_⟩
  have apart : ['/', '?', '#'].all (!standsInSegment ·) = true := by decide
  simpa [stands] using List.all_eq_true.mp apart character mark

/-- A mark of small hexadecimal digits, as fresh marks are. -/
def Hexadecimal (mark : String) : Prop := ∀ digit ∈ mark.toList, digit ∈ lowerHexDigits

theorem Hexadecimal.plain {mark : String} (hexadecimal : Hexadecimal mark) : Plain mark := by
  have digits : ∀ digit ∈ lowerHexDigits, standsInSegment digit = true :=
    List.all_eq_true.mp (by decide)
  refine ⟨fun digit member => digits digit (hexadecimal digit member), ?_, ?_⟩ <;> rintro rfl
  · exact absurd (hexadecimal '.' (by decide)) (by decide)
  · exact absurd (hexadecimal '.' (by decide)) (by decide)

/-- A message has a mark as they are made. -/
def Endpoint.Marked : Endpoint → Prop
  | join => True
  | message mark => Hexadecimal mark

theorem Endpoint.plain {endpoint : Endpoint} (marked : endpoint.Marked) {room : String}
    (undotted : room ≠ "." ∧ room ≠ "..") :
    ∀ segment ∈ endpoint.segments room, Plain segment := by
  have room := plain_percentSegment undotted
  cases endpoint with
  | join =>
      have fixed : ∀ segment ∈ before join, Plain segment := by decide
      exact List.forall_mem_append.mpr ⟨fixed, List.forall_mem_singleton.mpr room⟩
  | message mark =>
      have fixed : ∀ segment ∈ before (message mark), Plain segment := by
        change ∀ segment ∈ ["_matrix", "client", "v3", "rooms"], Plain segment
        decide
      have behind : ∀ segment ∈ ["send", "m.room.message"], Plain segment := by decide
      refine List.forall_mem_append.mpr ⟨fixed, List.forall_mem_cons.mpr ⟨room, ?_⟩⟩
      exact List.forall_mem_append.mpr ⟨behind, List.forall_mem_singleton.mpr marked.plain⟩

theorem Endpoint.segments_eq_cons (endpoint : Endpoint) (room : String) :
    ∃ others, endpoint.segments room = "_matrix" :: others := by
  cases endpoint <;> exact ⟨_, rfl⟩

theorem addressesRoom_added {base : Url} (unqueried : base.query = none) {endpoint : Endpoint}
    (marked : endpoint.Marked) {room : String} (undotted : room ≠ "." ∧ room ≠ "..") :
    AddressesRoom base endpoint room
      { base with path := base.path ++ slashed (endpoint.segments room) } := by
  have placed := segments_append_slashed (Endpoint.plain marked undotted) base.path
  refine ⟨rfl, rfl, unqueried, percentSegment room, names_percentSegment room, ?_⟩
  rcases endpoint.segments_eq_cons room with ⟨others, begins⟩
  rw [begins] at placed ⊢
  rw [Url.target_append_slashed unqueried, placed, ← begins, Endpoint.segments]

section

variable {homeserver : String} (unqueried : '?' ∉ homeserver.toList)
  (unmarked : '#' ∉ homeserver.toList)
include unqueried unmarked

theorem home_query : (home homeserver).query = none := by
  have parts := Url.ofText_of_not_mem (Url.not_mem_withoutLastSlashes unqueried)
    (Url.not_mem_withoutLastSlashes unmarked)
  exact congrArg (·.query) parts

theorem addressesRoom {endpoint : Endpoint} (marked : endpoint.Marked) {room : String}
    (undotted : room ≠ "." ∧ room ≠ "..") :
    AddressesRoom (home homeserver) endpoint room
      (address homeserver (slashed (endpoint.segments room)) []) := by
  have plain := Endpoint.plain marked undotted
  rcases endpoint.segments_eq_cons room with ⟨others, begins⟩
  have added := Url.ofText_append_slashed (Url.getLast?_withoutLastSlashes homeserver)
    (Url.not_mem_withoutLastSlashes unqueried) (Url.not_mem_withoutLastSlashes unmarked)
    (by decide) (begins ▸ plain)
  have addresses := addressesRoom_added (home_query unqueried unmarked) marked undotted
  unfold address Url.withParameters
  rw [List.isEmpty_nil, if_pos rfl, begins, added, ← begins]
  exact addresses

theorem addressesRoom_join {room : String} (undotted : room ≠ "." ∧ room ≠ "..") :
    AddressesRoom (home homeserver) .join room (address homeserver (joinPath room) []) := by
  have marked : Endpoint.join.Marked := trivial
  rw [Endpoint.joinPath_eq]
  exact addressesRoom unqueried unmarked marked undotted

theorem addressesRoom_message {room mark : String} (undotted : room ≠ "." ∧ room ≠ "..")
    (hexadecimal : Hexadecimal mark) :
    AddressesRoom (home homeserver) (.message mark) room
      (address homeserver (messagePath room mark) []) := by
  have marked : (Endpoint.message mark).Marked := hexadecimal
  rw [Endpoint.messagePath_eq]
  exact addressesRoom unqueried unmarked marked undotted

end

/-! ## Requests of an action -/

/-- The requests of a dialogue, whatever has come of them. -/
def requests (dialogue : Dialogue) : List Request := dialogue.map (·.1)

theorem requests_append (early late : Dialogue) :
    requests (early ++ late) = requests early ++ requests late := List.map_append

/-- The action makes these requests as the party, however it ends. -/
def Makes (party : Nat) (made : List Request) (action : Action (Transcribed W) α) : Prop :=
  Conducts party action fun dialogue _ => requests dialogue = made

section

variable {party : Nat} {made : List Request} {first : Action (Transcribed W) α}

theorem Makes.followed {next : α → Action (Transcribed W) β} (begins : Makes party made first)
    (silent : ∀ value, Makes party [] (next value)) : Makes party made (first >>= next) := by
  refine Conducts.bind begins fun dialogue outcome same => ?_
  cases outcome with
  | error fault => exact conducts_fault (by rw [List.append_nil]; exact same)
  | ok value =>
      refine (silent value).weaken fun more result none => ?_
      rw [requests_append, same, none, List.append_nil]

theorem Makes.attemptFor {ε : Type} (makes : Makes party made first) (select : Fault → Option ε) :
    Makes party made (first.attemptFor select) := by
  refine (Conducts.attemptFor makes select).weaken fun dialogue outcome fit => ?_
  rcases fit with ⟨early, same, held⟩
  exact same

theorem makes_value (value : α) : Makes (W := W) party [] (pure value) := conducts_value rfl

theorem makes_fault (fault : Fault) : Makes (W := W) party [] (throw fault : Action _ α) :=
  conducts_fault rfl

theorem makes_result (result : Except Fault α) : Makes (W := W) party [] (ofExcept result) := by
  refine (conducts_result result).weaken fun dialogue outcome fit => ?_
  rw [fit.1]
  rfl

variable {world : World (StateM W)}

theorem makes_log (record : Log.Record) :
    Makes party [] ((transcribed party world).log record : Action (Transcribed W) Unit) := by
  refine (conducts_log world record).weaken fun dialogue outcome fit => ?_
  rw [fit.1]
  rfl

/-- A request is made whatever the exchange comes to, also if this is a fault. -/
theorem makes_exchange (client : Client) (request : Request) :
    Makes party [request] ((transcribed party world).exchange client request) :=
  fun before _ => ⟨((world.exchange client request).run.run before).1,
    ((world.exchange client request).run.run before).2,
    [.exchange party request ((world.exchange client request).run.run before).1], rfl,
    congrArg requests (exchangesBy_own ..)⟩

theorem call_makes (client : Client) (homeserver : String) (token : Option String)
    (method : Method) (path : String) (parameters : List (String × String)) (body : Body) :
    Makes party [⟨method, address homeserver path parameters, token, body⟩]
      (call (transcribed party world) client homeserver token method path parameters body) := by
  refine (makes_exchange client _).followed fun came => ?_
  cases came with
  | error failure => exact makes_fault _
  | ok response => exact makes_result _

/-! ## Requests of a channel -/

theorem login_makes (client : Client) (account : Account) :
    Makes party [loginRequest account] (login (transcribed party world) client account) := by
  refine Makes.followed ((call_makes _ _ _ _ _ _ _).attemptFor Fault.delivery?) fun outcome => ?_
  cases outcome with
  | error fault => exact makes_fault _
  | ok members =>
      dsimp only
      split
      next => exact makes_fault _
      next => exact (makes_log _).followed fun _ => makes_value _

variable (session : Session)

theorem join_makes :
    Makes party [session.joinRequest] (join (transcribed party world) session) := by
  refine Makes.followed ((call_makes _ _ _ _ _ _ _).attemptFor Fault.delivery?) fun outcome => ?_
  cases outcome with
  | error fault => exact makes_fault _
  | ok members => exact makes_value _

theorem upload_makes (content : Bytes) (filename : String) :
    Makes party [session.uploadRequest content filename]
      (upload (transcribed party world) session content filename) := by
  refine Makes.followed (call_makes _ _ _ _ _ _ _) fun members => ?_
  split
  next => exact makes_value _
  next => exact makes_fault _

end

/-- How far a set-up goes: a login without a session, or a session's login and join. -/
inductive Enters (account : Account) : List Request → Option Session → Prop where
  | refused : Enters account [loginRequest account] none
  | entered {session : Session} (homeserver : session.homeserver = account.homeserver)
      (room : session.room = account.room) :
      Enters account [loginRequest account, session.joinRequest] (some session)

theorem Enters.session {account : Account} {made : List Request} {session : Session}
    (enters : Enters account made (some session)) :
    session.homeserver = account.homeserver ∧ session.room = account.room := by
  cases enters with
  | entered homeserver room => exact ⟨homeserver, room⟩

theorem openChannel_enters {world : World (StateM W)} {party : Nat} (timeout : Binary64)
    (account : Account) :
    Conducts party (openChannel (transcribed party world) timeout account)
      fun dialogue outcome => ∃ entered, Enters account (requests dialogue) entered ∧
        ∀ channel, outcome = .ok channel →
          entered.map (·.channel (transcribed party world)) = some channel := by
  refine (conducts_openClient world timeout none).bind fun dialogue outcome fit => ?_
  rcases fit with ⟨rfl, client, rfl⟩
  refine Conducts.bind (login_makes client account) fun dialogue outcome made => ?_
  have alone : Enters account (requests (dialogue ++ [])) none := by
    rw [List.append_nil, made]
    exact .refused
  cases outcome with
  | error fault => exact conducts_fault ⟨none, alone, nofun⟩
  | ok token =>
      refine (conducts_result _).bind fun more result fit => ?_
      rcases fit with ⟨rfl, rfl⟩
      cases begun : Session.start client account token with
      | error fault => exact conducts_fault ⟨none, alone, nofun⟩
      | ok session =>
          rcases Session.start_eq_ok.mp begun with ⟨_, homeserver, room, _⟩
          -- The join is made however it ends, but only its success brings the channel.
          refine Conducts.bind (join_makes session) fun more result joined => ?_
          have both : Enters account (requests (dialogue ++ more)) (some session) := by
            rw [requests_append, made, joined]
            exact .entered homeserver room
          cases result with
          | error fault =>
              refine conducts_fault ⟨some session, ?_, nofun⟩
              simpa using both
          | ok joined =>
              refine conducts_value ⟨some session, ?_, fun channel same => ?_⟩
              · simpa using both
              · cases same
                rfl

/-- The requests of a session for a card. -/
inductive Session.Requests (session : Session) : Request → Prop where
  | message {mark : String} (hexadecimal : Hexadecimal mark) (content : Json) :
      session.Requests (session.messageRequest mark content)
  | upload (content : Bytes) (filename : String) :
      session.Requests (session.uploadRequest content filename)

section

variable {world : World (StateM W)} (marks : ∀ before, Hexadecimal (world.freshMark before).1)
  {party : Nat} (session : Session)
include marks

theorem conducts_marked :
    Conducts party ((transcribed party world).freshMark : Action (Transcribed W) String)
      fun dialogue outcome => dialogue = [] ∧ ∃ mark, Hexadecimal mark ∧ outcome = .ok mark :=
  fun before transcript => ⟨.ok (world.freshMark before).1, (world.freshMark before).2, [],
    by rw [List.append_nil]; rfl, rfl, _, marks before, rfl⟩

theorem sendMessage_makes {content : Json} (writable : content.fault? = none) :
    Conducts party (sendMessage (transcribed party world) session content)
      fun dialogue _ => ∃ mark, Hexadecimal mark ∧
        requests dialogue = [session.messageRequest mark content] := by
  rw [matrix_sendMessage_eq _ session writable]
  refine (conducts_marked marks).bind fun dialogue outcome fit => ?_
  rcases fit with ⟨rfl, mark, hexadecimal, rfl⟩
  refine (Makes.followed (call_makes _ _ _ _ _ _ _) fun _ => makes_value _).weaken
    fun dialogue outcome made => ?_
  exact ⟨mark, hexadecimal, made⟩

/-- After the first message an image takes an upload and, if it is kept under an address that can be
written, another message. -/
theorem showImage_requests (content : Bytes) (filename : String) :
    Conducts party
      (upload (transcribed party world) session content filename >>= fun address =>
        sendMessage (transcribed party world) session
          (imageContent filename address (imageMediaType filename) content.length))
      fun dialogue _ => ∀ request ∈ requests dialogue, session.Requests request := by
  refine Conducts.bind (upload_makes session content filename) fun dialogue outcome made => ?_
  cases outcome with
  | error fault =>
      refine conducts_fault ?_
      rw [List.append_nil, made]
      exact List.forall_mem_singleton.mpr (.upload content filename)
  | ok address =>
      cases objected :
        (imageContent filename address (imageMediaType filename) content.length).fault? with
      | some fault =>
          refine (sendMessage_conducts_unwritable session objected).weaken
            fun more result fit => ?_
          rcases fit with ⟨rfl, _⟩
          rw [List.append_nil, made]
          exact List.forall_mem_singleton.mpr (.upload content filename)
      | none =>
          refine (sendMessage_makes marks session objected).weaken fun more result fit => ?_
          rcases fit with ⟨mark, hexadecimal, sent⟩
          rw [requests_append, made, sent]
          exact List.forall_mem_cons.mpr ⟨.upload content filename,
            List.forall_mem_singleton.mpr (.message hexadecimal _)⟩

/-- The requests for a card begin with a message. -/
theorem deliver_makes (card : Card) (image : Option Attachment) :
    Conducts party ((session.channel (transcribed party world)).deliver card image)
      fun dialogue _ => ∃ mark rest, Hexadecimal mark ∧
        requests dialogue = session.messageRequest mark (textContent card) :: rest ∧
        ∀ request ∈ rest, session.Requests request := by
  cases image with
  | none =>
      refine Conducts.weaken (sendMessage_makes marks session (textContent_fault? card))
        fun dialogue outcome fit => ?_
      rcases fit with ⟨mark, hexadecimal, made⟩
      exact ⟨mark, [], hexadecimal, made, nofun⟩
  | some image =>
      refine Conducts.bind (sendMessage_makes marks session (textContent_fault? card))
        fun dialogue outcome fit => ?_
      rcases fit with ⟨mark, hexadecimal, made⟩
      cases outcome with
      | error fault =>
          refine conducts_fault ⟨mark, [], hexadecimal, ?_, nofun⟩
          rw [List.append_nil, made]
      | ok sent =>
          refine (showImage_requests marks session image.content image.filename).weaken
            fun more result shown => ⟨mark, requests more, hexadecimal, ?_, shown⟩
          rw [requests_append, made]
          rfl

end

/-! ## The room in the requests -/

/-- Requests for a card: messages that address the room, and uploads that do not. -/
def Speaks (account : Account) (request : Request) : Prop :=
  (request.method = .put ∧ ∃ mark, Hexadecimal mark ∧
    AddressesRoom (home account.homeserver) (.message mark) account.room request.url) ∨
  (request.method = .post ∧ ∃ filename,
    request.url = address account.homeserver uploadPath [("filename", filename)])

section

variable {account : Account} (unqueried : '?' ∉ account.homeserver.toList)
  (unmarked : '#' ∉ account.homeserver.toList)
  (undotted : account.room ≠ "." ∧ account.room ≠ "..") {session : Session}
  (homeserver : session.homeserver = account.homeserver) (room : session.room = account.room)
include unqueried unmarked undotted homeserver room

theorem joinRequest_addresses :
    AddressesRoom (home account.homeserver) .join account.room session.joinRequest.url := by
  unfold Session.joinRequest
  rw [homeserver, room]
  exact addressesRoom_join unqueried unmarked undotted

theorem messageRequest_addresses {mark : String} (hexadecimal : Hexadecimal mark) (content : Json) :
    AddressesRoom (home account.homeserver) (.message mark) account.room
      (session.messageRequest mark content).url := by
  unfold Session.messageRequest
  rw [homeserver, room]
  exact addressesRoom_message unqueried unmarked undotted hexadecimal

theorem Session.Requests.speaks {request : Request} (made : session.Requests request) :
    Speaks account request := by
  cases made with
  | @message mark hexadecimal content =>
      exact .inl ⟨rfl, mark, hexadecimal,
        messageRequest_addresses unqueried unmarked undotted homeserver room hexadecimal content⟩
  | upload content filename =>
      refine .inr ⟨rfl, filename, ?_⟩
      rw [← homeserver]
      rfl

end

/-- However the room is called, except by a dot segment, and whatever the servers answer: a login is
followed by at most a join, and by this if there is a channel; for a card the channel makes a
message and what else an image takes. The join and every message have the room in one segment of
their paths, and this segment tells the room. For another room no request has the same target. -/
theorem room_keeps_to_segment {account : Account} (unqueried : '?' ∉ account.homeserver.toList)
    (unmarked : '#' ∉ account.homeserver.toList)
    (undotted : account.room ≠ "." ∧ account.room ≠ "..") {world : World (StateM W)}
    (marks : ∀ before, Hexadecimal (world.freshMark before).1) {party : Nat} {timeout : Binary64}
    {before : W} {result : Except Fault (Channel (Transcribed W))} {after : W × Transcript}
    (ran : (openChannel (transcribed party world) timeout account).run.run (before, []) =
      (result, after)) :
    (requests (exchangesBy party after.2) = [loginRequest account] ∧
        (∀ channel, result ≠ .ok channel) ∨
      ∃ join, requests (exchangesBy party after.2) = [loginRequest account, join] ∧
        AddressesRoom (home account.homeserver) .join account.room join.url) ∧
    (∀ channel, result = .ok channel → ∀ card image start outcome last,
      (channel.deliver card image).run.run (start, []) = (outcome, last) →
        ∃ first rest, requests (exchangesBy party last.2) = first :: rest ∧ first.method = .put ∧
          ∀ request ∈ first :: rest, Speaks account request) ∧
    ∀ endpoint url, AddressesRoom (home account.homeserver) endpoint account.room url →
      ∀ other room otherUrl, AddressesRoom (home account.homeserver) other room otherUrl →
        url.target = otherUrl.target → endpoint = other ∧ account.room = room := by
  rcases (openChannel_enters timeout account).of_run ran with ⟨entered, enters, opened⟩
  refine ⟨?_, ?_, fun _ _ one _ _ _ another => one.unique another⟩
  · generalize requests (exchangesBy party after.2) = made at enters ⊢
    cases enters with
    | refused => exact .inl ⟨rfl, fun channel found => nomatch opened channel found⟩
    | entered homeserver room =>
        have addressed := joinRequest_addresses unqueried unmarked undotted homeserver room
        exact .inr ⟨_, rfl, addressed⟩
  · intro channel found card image start outcome last sent
    rcases Option.map_eq_some_iff.mp (opened channel found) with ⟨session, rfl, rfl⟩
    rcases enters.session with ⟨homeserver, room⟩
    rcases (deliver_makes marks session card image).of_run sent with
      ⟨mark, rest, hexadecimal, made, others⟩
    have first : session.Requests (session.messageRequest mark (textContent card)) :=
      .message hexadecimal _
    refine ⟨_, rest, made, rfl, fun request member => ?_⟩
    have requested : session.Requests request := by
      rcases List.mem_cons.mp member with rfl | behind
      · exact first
      · exact others request behind
    exact requested.speaks unqueried unmarked undotted homeserver room

def sampleMark : String := "9f86d081884c4d659a2feaa0c55ad015"

theorem hexadecimal_sampleMark : Hexadecimal sampleMark := by
  have digits : sampleMark.toList.all (lowerHexDigits.contains ·) = true := by decide
  exact fun digit member => List.contains_iff_mem.mp (List.all_eq_true.mp digits digit member)

/-- Servers that answer as laid down, and a mark as fresh ones look. -/
def marking (script : Nat → Outcome) : World (StateM Nat) :=
  { answering script with freshMark := return sampleMark }

/-- The channel of an account, set up with a server that greets. -/
def markedSetUp (account : Account) :
    Except Fault (Channel (Transcribed Nat)) × Nat × Transcript :=
  (openChannel (transcribed 0 (marking (greeting "t0k"))) (.ofNat 30) account).run.run (0, [])

/-- What a channel then does for a card. -/
def markedMessage (channel : Channel (Transcribed Nat)) : Except Fault Unit × Nat × Transcript :=
  (channel.deliver (.titled "Watching" 0) none).run.run (2, [])

/-- An account below a path, with a room whose name has all sorts of characters. -/
def basedAccount : Account :=
  ⟨"https://matrix.org/base/", "bot", "hunter2", "!é/?#%2F:matrix.org"⟩

theorem room_keeps_to_segment_based :
    ∃ join channel,
      requests (exchangesBy 0 (markedSetUp basedAccount).2.2) = [loginRequest basedAccount, join] ∧
      AddressesRoom (home basedAccount.homeserver) .join basedAccount.room join.url ∧
      join.url.target = "/base/_matrix/client/v3/join/%21%C3%A9%2F%3F%23%252F%3Amatrix.org" ∧
      (markedSetUp basedAccount).1 = .ok channel ∧
      ∃ first rest, requests (exchangesBy 0 (markedMessage channel).2.2) = first :: rest ∧
        first.method = .put ∧ ∀ request ∈ first :: rest, Speaks basedAccount request := by
  have targets : (requests (exchangesBy 0 (markedSetUp basedAccount).2.2)).map (·.url.target) =
      ["/base/_matrix/client/v3/login",
        "/base/_matrix/client/v3/join/%21%C3%A9%2F%3F%23%252F%3Amatrix.org"] := by decide +kernel
  have succeeded : (markedSetUp basedAccount).1.isOk = true := by decide +kernel
  cases result : (markedSetUp basedAccount).1 with
  | error fault =>
      rw [result] at succeeded
      cases succeeded
  | ok channel =>
      have ran : markedSetUp basedAccount =
          ((markedSetUp basedAccount).1, (markedSetUp basedAccount).2) := (Prod.eta _).symm
      rw [result] at ran
      rcases room_keeps_to_segment (by decide) (by decide) (by decide)
        (fun _ => hexadecimal_sampleMark) ran with ⟨entered, delivered, _⟩
      rcases entered with ⟨_, none⟩ | ⟨join, made, addressed⟩
      · exact absurd rfl (none channel)
      · rw [made, List.map_cons, List.map_cons] at targets
        have target := (List.cons.inj (List.cons.inj targets).2).1
        refine ⟨join, channel, made, addressed, target, rfl, ?_⟩
        exact delivered channel rfl _ none _ _ _ (Prod.eta (markedMessage channel)).symm

/-- A homeserver whose address has a query, at the end of which the paths are added. -/
def regionalAccount : Account :=
  ⟨"https://matrix.org/?region=eu", "bot", "hunter2", "!room:matrix.org"⟩

/-- With a query in the homeserver's address the join has no path in which the room could stand. -/
theorem room_in_query_of_homeserver :
    ¬ ∀ account : Account, account.room ≠ "." ∧ account.room ≠ ".." →
      ∀ join ∈ (requests (exchangesBy 0 (markedSetUp account).2.2)).tail,
        ∃ segment ∈ segments '/' join.url.path, percentDecode? segment = some account.room := by
  intro claimed
  have paths : (requests (exchangesBy 0 (markedSetUp regionalAccount).2.2)).tail.map (·.url.path) =
      ["/"] := by decide +kernel
  have parts : segments '/' "/" = ["", ""] := by decide
  rcases List.map_eq_singleton_iff.mp paths with ⟨request, only, path⟩
  have join := claimed regionalAccount (by decide)
  rw [only, List.forall_mem_singleton, path, parts] at join
  rcases join with ⟨segment, among, room⟩
  have empty : segment = "" := by simpa using among
  rw [empty] at room
  exact absurd room (by decide)

end ObservatoryWatch.Chat.Matrix
