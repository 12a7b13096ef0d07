import Mathlib.Data.List.TakeWhile
import ObservatoryWatch.Proofs.Acceptance

/-!
The protocol of a room.

A server may answer as it likes. The dialogues tell which requests are made, which answers lead from
one to the next, and how an action ends that stops at an answer. Two answers end it as no refusal of
a service does, because the next request cannot be written: to a login a token that no header can
hold, and to an upload an address that no message can hold.
-/

namespace ObservatoryWatch.Chat.Matrix

open Http

variable {W α β : Type}

/-! ## Dialogues -/

/-- The requests of a party, each with what came of it. -/
abbrev Dialogue := List (Request × Except Fault Outcome)

/-- Every request comes to a response or to a failure of the exchange. -/
def Serves (world : World (StateM W)) : Prop :=
  ∀ client request before, ∃ outcome after,
    (world.exchange client request).run.run before = (.ok outcome, after)

theorem serves_answering (script : Nat → Outcome) : Serves (answering script) :=
  fun _ _ number => ⟨script number, number + 1, rfl⟩

/-- The requests of the action as a party and what it comes to fit together. -/
def Conducts (party : Nat) (action : Action (Transcribed W) α)
    (fits : Dialogue → Except Fault α → Prop) : Prop :=
  ∀ before transcript, ∃ outcome after notes,
    action.run.run (before, transcript) = (outcome, after, transcript ++ notes) ∧
      fits (exchangesBy party notes) outcome

section

variable {party : Nat} {fits : Dialogue → Except Fault α → Prop}

theorem Conducts.of_run {action : Action (Transcribed W) α} (conducts : Conducts party action fits)
    {before : W} {outcome : Except Fault α} {after : W × Transcript}
    (ran : action.run.run (before, []) = (outcome, after)) :
    fits (exchangesBy party after.2) outcome := by
  rcases conducts before [] with ⟨_, _, notes, went, fit⟩
  cases went.symm.trans ran
  exact fit

theorem Conducts.weaken {weaker : Dialogue → Except Fault α → Prop}
    {action : Action (Transcribed W) α} (conducts : Conducts party action fits)
    (implies : ∀ dialogue outcome, fits dialogue outcome → weaker dialogue outcome) :
    Conducts party action weaker := by
  intro before transcript
  rcases conducts before transcript with ⟨outcome, after, notes, ran, fit⟩
  exact ⟨outcome, after, notes, ran, implies _ _ fit⟩

theorem Conducts.bind {fitsThen : Dialogue → Except Fault β → Prop}
    {first : Action (Transcribed W) α} {next : α → Action (Transcribed W) β}
    (begins : Conducts party first fits)
    (goesOn : ∀ dialogue outcome, fits dialogue outcome →
      Conducts party (proceed outcome next) fun more result => fitsThen (dialogue ++ more) result) :
    Conducts party (first >>= next) fitsThen := by
  intro before transcript
  rcases begins before transcript with ⟨outcome, middle, notes, ran, fit⟩
  rcases goesOn _ outcome fit middle (transcript ++ notes) with ⟨result, after, more, went, fitThen⟩
  refine ⟨result, after, notes ++ more, ?_, ?_⟩
  · rw [run_bind ran next, went, List.append_assoc]
  · rw [exchangesBy_append]
    exact fitThen

theorem Conducts.attemptFor {ε : Type} {action : Action (Transcribed W) α}
    (conducts : Conducts party action fits) (select : Fault → Option ε) :
    Conducts party (action.attemptFor select) fun dialogue outcome =>
      ∃ early, fits dialogue early ∧ outcome = Action.held select early := by
  intro before transcript
  rcases conducts before transcript with ⟨outcome, after, notes, ran, fit⟩
  exact ⟨_, after, notes, run_attemptFor ran select, outcome, fit, rfl⟩

theorem conducts_result (result : Except Fault α) :
    Conducts (W := W) party (ofExcept result) fun dialogue outcome =>
      dialogue = [] ∧ outcome = result :=
  fun before transcript =>
    ⟨result, before, [], by rw [run_ofExcept, List.append_nil], rfl, rfl⟩

theorem conducts_value {value : α} (fit : fits [] (.ok value)) :
    Conducts (W := W) party (pure value) fits :=
  fun before transcript => ⟨.ok value, before, [], by rw [List.append_nil]; rfl, fit⟩

theorem conducts_fault {fault : Fault} (fit : fits [] (.error fault)) :
    Conducts (W := W) party (throw fault) fits :=
  fun before transcript => ⟨.error fault, before, [], by rw [List.append_nil]; rfl, fit⟩

variable (world : World (StateM W))

theorem conducts_openClient (timeout : Binary64) (userAgent : Option String) :
    Conducts party
      ((transcribed party world).openClient timeout userAgent : Action (Transcribed W) Client)
      fun dialogue outcome => dialogue = [] ∧ ∃ client, outcome = .ok client :=
  fun before transcript => ⟨.ok (world.openClient timeout userAgent before).1,
    (world.openClient timeout userAgent before).2, [], by rw [List.append_nil]; rfl, rfl, _, rfl⟩

theorem conducts_freshMark :
    Conducts party ((transcribed party world).freshMark : Action (Transcribed W) String)
      fun dialogue outcome => dialogue = [] ∧ ∃ mark, outcome = .ok mark :=
  fun before transcript => ⟨.ok (world.freshMark before).1, (world.freshMark before).2, [],
    by rw [List.append_nil]; rfl, rfl, _, rfl⟩

theorem conducts_log (record : Log.Record) :
    Conducts party ((transcribed party world).log record : Action (Transcribed W) Unit)
      fun dialogue outcome => dialogue = [] ∧ outcome = .ok () :=
  fun before _ => ⟨.ok (), (world.log record before).2, [.log record], rfl, rfl, rfl⟩

end

/-! ## Answers -/

/-- The members of an answer, if the request was not refused and the answer is an object. -/
def membersOf? : Outcome → Option Json.Members
  | .ok response =>
    if response.status < 400 then response.json?.bind Json.members? else none
  | .error _ => none

/-- The token in the answer to a login, unless it is empty. -/
def tokenIn? (outcome : Outcome) : Option Text.Label := (membersOf? outcome).bind tokenOf?

/-- The address in the answer to an upload. -/
def addressIn? (outcome : Outcome) : Option Text.Label :=
  (membersOf? outcome).bind fun members => (members.find? "content_uri").bind Json.label?

/-- What is told of something that was looked for in an answer. -/
inductive Found (wanted : Option α) : Except Fault α → Prop where
  | found {value : α} (same : wanted = some value) : Found wanted (.ok value)
  | missed (missing : wanted = none) (fault : DeliveryFault) :
      Found wanted (.error (.delivery fault))

/-- The answer was read as an object of which nothing else is wanted. -/
def acknowledged (outcome : Outcome) : Option Unit := (membersOf? outcome).map fun _ => ()

theorem found_answer (method : Method) (path : String) (response : Response) :
    Found (membersOf? (.ok response)) ((answer method path response).mapError .delivery) := by
  unfold answer Response.isRefusal
  rw [membersOf?]
  by_cases refused : 400 ≤ response.status
  · rw [if_neg (Nat.not_lt.mpr refused), if_pos (decide_eq_true refused)]
    exact .missed rfl _
  · rw [if_pos (Nat.lt_of_not_le refused), if_neg (by simpa using refused)]
    rcases response.json? with _ | value
    · exact .missed rfl _
    · cases value with
      | object members => exact .found rfl
      | _ => exact .missed rfl _

/-! ## Requests -/

def loginRequest (account : Account) : Request :=
  ⟨.post, address account.homeserver loginPath [], none, .json (loginContent account)⟩

namespace Session

variable (session : Session)

def joinRequest : Request :=
  ⟨.post, address session.homeserver (joinPath session.room) [], some session.token,
    .json (.object [])⟩

def messageRequest (mark : String) (content : Json) : Request :=
  ⟨.put, address session.homeserver (messagePath session.room mark) [], some session.token,
    .json content⟩

def uploadRequest (content : Bytes) (filename : String) : Request :=
  ⟨.post, address session.homeserver uploadPath [("filename", filename)], some session.token,
    .octets (imageMediaType filename) content⟩

/-- The message that shows an image under an address. -/
def imageRequest (mark : String) (content : Bytes) (filename address : String) : Request :=
  session.messageRequest mark
    (imageContent filename (.whole address) (imageMediaType filename) content.length)

end Session

section

variable {world : World (StateM W)} (serves : Serves world) {party : Nat}
include serves

theorem exchange_conducts (client : Client) (request : Request) :
    Conducts party ((transcribed party world).exchange client request) fun dialogue outcome =>
      ∃ came, dialogue = [(request, .ok came)] ∧ outcome = .ok came := by
  intro before transcript
  rcases serves client request before with ⟨came, after, ran⟩
  exact ⟨.ok came, after, _, exchange_transcribed_run ran party transcript, came,
    exchangesBy_own .., rfl⟩

theorem call_conducts (client : Client) (homeserver : String) (token : Option String)
    (method : Method) (path : String) (parameters : List (String × String)) (body : Body) :
    Conducts party
      (call (transcribed party world) client homeserver token method path parameters body)
      fun dialogue outcome => ∃ came,
        dialogue = [(⟨method, address homeserver path parameters, token, body⟩, .ok came)] ∧
          Found (membersOf? came) outcome := by
  refine (exchange_conducts serves client _).bind fun dialogue outcome fit => ?_
  rcases fit with ⟨came, rfl, rfl⟩
  cases came with
  | error failure => exact conducts_fault ⟨_, rfl, .missed rfl _⟩
  | ok response =>
      refine (conducts_result _).weaken fun dialogue outcome fit => ?_
      rcases fit with ⟨rfl, rfl⟩
      exact ⟨_, rfl, found_answer method path response⟩

/-! ## Messages and uploads -/

theorem sendMessage_conducts (session : Session) {content : Json}
    (writable : content.fault? = none) :
    Conducts party (sendMessage (transcribed party world) session content)
      fun dialogue outcome => ∃ mark came,
        dialogue = [(session.messageRequest mark content, .ok came)] ∧
          Found (acknowledged came) outcome := by
  rw [matrix_sendMessage_eq _ session writable]
  refine (conducts_freshMark world).bind fun dialogue outcome fit => ?_
  rcases fit with ⟨rfl, mark, rfl⟩
  refine Conducts.bind (call_conducts serves _ _ _ _ _ _ _) fun dialogue outcome fit => ?_
  rcases fit with ⟨came, rfl, found⟩
  cases found with
  | found same =>
      refine conducts_value ⟨mark, came, rfl, .found ?_⟩
      rw [acknowledged, same]
      rfl
  | missed missing fault =>
      refine conducts_fault ⟨mark, came, rfl, .missed ?_ fault⟩
      rw [acknowledged, missing]
      rfl

theorem upload_conducts (session : Session) (content : Bytes) (filename : String) :
    Conducts party (upload (transcribed party world) session content filename)
      fun dialogue outcome => ∃ came,
        dialogue = [(session.uploadRequest content filename, .ok came)] ∧
          Found (addressIn? came) outcome := by
  refine Conducts.bind (call_conducts serves _ _ _ _ _ _ _) fun dialogue outcome fit => ?_
  rcases fit with ⟨came, rfl, found⟩
  cases found with
  | @found members same =>
      have address : addressIn? came = (members.find? "content_uri").bind Json.label? := by
        rw [addressIn?, same, Option.bind_some]
      rw [proceed_ok]
      cases told : (members.find? "content_uri").bind Json.label? with
      | none => exact conducts_fault ⟨came, rfl, .missed (address.trans told) _⟩
      | some text => exact conducts_value ⟨came, rfl, .found (address.trans told)⟩
  | missed missing fault =>
      refine conducts_fault ⟨came, rfl, .missed ?_ fault⟩
      rw [addressIn?, missing, Option.bind_none]

end

/-- A message that cannot be written down is not sent. -/
theorem sendMessage_conducts_unwritable {world : World (StateM W)} {party : Nat} (session : Session)
    {content : Json} {fault : Text.EncodingFault} (unwritable : content.fault? = some fault) :
    Conducts party (sendMessage (transcribed party world) session content)
      fun dialogue outcome => dialogue = [] ∧ outcome = .error (.request fault) := by
  refine (conducts_freshMark world).bind fun dialogue outcome fit => ?_
  rcases fit with ⟨rfl, mark, rfl⟩
  rw [proceed_ok, Body.ofJson, unwritable]
  exact conducts_fault ⟨rfl, rfl⟩

/-- How a card is sent with an image: a message, then the upload, then the message that shows the
image; each request is made if the one before it has brought what it has to, and the last one only
if it can be written. -/
inductive ShownWithImage (session : Session) (card : Card) (content : Bytes) (filename : String) :
    Dialogue → Except Fault Unit → Prop where
  | untold {mark : String} {first : Outcome} (missing : acknowledged first = none)
      (fault : DeliveryFault) :
      ShownWithImage session card content filename
        [(session.messageRequest mark (textContent card), .ok first)] (.error (.delivery fault))
  | unkept {mark : String} {first second : Outcome} (told : acknowledged first = some ())
      (missing : addressIn? second = none) (fault : DeliveryFault) :
      ShownWithImage session card content filename
        [(session.messageRequest mark (textContent card), .ok first),
          (session.uploadRequest content filename, .ok second)] (.error (.delivery fault))
  | unwritable {mark : String} {first second : Outcome} {address : Text.Ragged}
      (told : acknowledged first = some ()) (kept : addressIn? second = some (.ragged address))
      (fault : Text.EncodingFault) :
      ShownWithImage session card content filename
        [(session.messageRequest mark (textContent card), .ok first),
          (session.uploadRequest content filename, .ok second)] (.error (.request fault))
  | ended {mark other address : String} {first second third : Outcome} {outcome : Except Fault Unit}
      (told : acknowledged first = some ()) (kept : addressIn? second = some (.whole address))
      (found : Found (acknowledged third) outcome) :
      ShownWithImage session card content filename
        [(session.messageRequest mark (textContent card), .ok first),
          (session.uploadRequest content filename, .ok second),
          (session.imageRequest other content filename address, .ok third)] outcome

theorem sendImage_conducts {world : World (StateM W)} (serves : Serves world) {party : Nat}
    (session : Session) (card : Card) (content : Bytes) (filename : String) :
    Conducts party (sendImage (transcribed party world) session card content filename)
      (ShownWithImage session card content filename) := by
  refine Conducts.bind (sendMessage_conducts serves session (textContent_fault? card))
    fun dialogue outcome fit => ?_
  rcases fit with ⟨mark, first, rfl, ⟨told⟩ | ⟨missing, fault⟩⟩
  · refine Conducts.bind (upload_conducts serves session _ _) fun dialogue outcome fit => ?_
    rcases fit with ⟨second, rfl, @⟨address, kept⟩ | ⟨missing, fault⟩⟩
    · cases address with
      | whole address =>
          refine (sendMessage_conducts serves session rfl).weaken fun dialogue outcome fit => ?_
          rcases fit with ⟨other, third, rfl, found⟩
          exact .ended told kept found
      | ragged address =>
          refine (sendMessage_conducts_unwritable session rfl).weaken fun dialogue outcome fit => ?_
          rcases fit with ⟨rfl, rfl⟩
          exact .unwritable told kept _
    · exact conducts_fault (.unkept told missing fault)
  · exact conducts_fault (.untold missing fault)

/-! ## Setting up -/

/-- How a login ends, by its answer. -/
inductive LoggedIn (first : Outcome) : Except Fault Text.Label → Prop where
  | refused (missing : membersOf? first = none) (fault : DeliveryFault) :
      LoggedIn first (.error (.setup (.loginFailed fault)))
  | unnamed {members : Json.Members} (answered : membersOf? first = some members)
      (missing : tokenIn? first = none) : LoggedIn first (.error (.setup .noToken))
  | named {token : Text.Label} (found : tokenIn? first = some token) : LoggedIn first (.ok token)

/-- How a channel is set up: a login, and a join with the token that the login has brought. -/
inductive SetUp (client : Client) (account : Account) : Dialogue → Except Fault Session → Prop where
  | refused {first : Outcome} {fault : Fault} (login : LoggedIn first (.error fault)) :
      SetUp client account [(loginRequest account, .ok first)] (.error fault)
  | unwritable {first : Outcome} {token : Text.Label} {fault : Text.EncodingFault}
      (found : tokenIn? first = some token)
      (refused : Session.start client account token = .error fault) :
      SetUp client account [(loginRequest account, .ok first)] (.error (.request fault))
  | unjoined {first second : Outcome} {token : Text.Label} {session : Session}
      (found : tokenIn? first = some token)
      (begun : Session.start client account token = .ok session)
      (missing : acknowledged second = none) (fault : DeliveryFault) :
      SetUp client account
        [(loginRequest account, .ok first), (session.joinRequest, .ok second)]
        (.error (.setup (.joinFailed account.room fault)))
  | joined {first second : Outcome} {token : Text.Label} {session : Session}
      (found : tokenIn? first = some token)
      (begun : Session.start client account token = .ok session)
      (joined : acknowledged second = some ()) :
      SetUp client account
        [(loginRequest account, .ok first), (session.joinRequest, .ok second)] (.ok session)

section

variable {world : World (StateM W)} (serves : Serves world) {party : Nat}
include serves

theorem login_conducts (client : Client) (account : Account) :
    Conducts party (login (transcribed party world) client account) fun dialogue outcome =>
      ∃ first, dialogue = [(loginRequest account, .ok first)] ∧ LoggedIn first outcome := by
  refine Conducts.bind ((call_conducts serves _ _ _ _ _ _ _).attemptFor Fault.delivery?)
    fun dialogue outcome fit => ?_
  rcases fit with ⟨_, ⟨first, rfl, found⟩, rfl⟩
  cases found with
  | missed missing fault => exact conducts_fault ⟨first, rfl, .refused missing fault⟩
  | @found members same =>
      have token : tokenIn? first = tokenOf? members := by
        rw [tokenIn?, same, Option.bind_some]
      have held : Action.held Fault.delivery? (.ok members) = .ok (.ok members) := rfl
      rw [held, proceed_ok]
      dsimp only
      cases told : tokenOf? members with
      | none => exact conducts_fault ⟨first, rfl, .unnamed same (token.trans told)⟩
      | some text =>
          refine (conducts_log world _).bind fun dialogue outcome fit => ?_
          rcases fit with ⟨rfl, rfl⟩
          exact conducts_value ⟨first, rfl, .named (token.trans told)⟩

theorem join_conducts (session : Session) :
    Conducts party (join (transcribed party world) session) fun dialogue outcome =>
      ∃ second, dialogue = [(session.joinRequest, .ok second)] ∧
        (acknowledged second = some () ∧ outcome = .ok () ∨
          acknowledged second = none ∧
            ∃ fault, outcome = .error (.setup (.joinFailed session.room fault))) := by
  refine Conducts.bind ((call_conducts serves _ _ _ _ _ _ _).attemptFor Fault.delivery?)
    fun dialogue outcome fit => ?_
  rcases fit with ⟨_, ⟨second, rfl, found⟩, rfl⟩
  cases found with
  | found same =>
      refine conducts_value ⟨second, rfl, .inl ⟨?_, rfl⟩⟩
      rw [acknowledged, same]
      rfl
  | missed missing fault =>
      refine conducts_fault ⟨second, rfl, .inr ⟨?_, fault, rfl⟩⟩
      rw [acknowledged, missing]
      rfl

theorem openChannel_conducts (timeout : Binary64) (account : Account) :
    Conducts party (openChannel (transcribed party world) timeout account)
      fun dialogue outcome => ∃ client verdict, SetUp client account dialogue verdict ∧
        outcome = verdict.map (·.channel (transcribed party world)) := by
  refine (conducts_openClient world timeout none).bind fun dialogue outcome fit => ?_
  rcases fit with ⟨rfl, client, rfl⟩
  refine Conducts.bind (login_conducts serves client account) fun dialogue outcome fit => ?_
  rcases fit with ⟨first, rfl, login⟩
  cases outcome with
  | error fault => exact conducts_fault ⟨client, .error fault, .refused login, rfl⟩
  | ok token =>
      cases login with
      | named found =>
          refine (conducts_result _).bind fun dialogue outcome fit => ?_
          rcases fit with ⟨rfl, rfl⟩
          cases begun : Session.start client account token with
          | error fault =>
              exact conducts_fault ⟨client, .error (.request fault), .unwritable found begun, rfl⟩
          | ok session =>
              refine Conducts.bind (join_conducts serves session) fun dialogue outcome fit => ?_
              rcases fit with ⟨second, rfl, ⟨joined, rfl⟩ | ⟨missing, fault, rfl⟩⟩
              · exact conducts_value ⟨client, .ok session, .joined found begun joined, rfl⟩
              · rw [(Session.start_eq_ok.mp begun).2.2.1]
                exact conducts_fault ⟨client, .error (.setup (.joinFailed account.room fault)),
                  .unjoined found begun missing fault, rfl⟩

end

/-! ## Tokens -/

theorem code_of_isLone {point : Text.CodePoint} (lone : point.isLone = true) : 128 ≤ point.code := by
  cases point with
  | char _ => cases lone
  | lone surrogate => exact Nat.le_trans (by decide) surrogate.isSurrogate.1

theorem writes_ascii (point : Text.CodePoint) :
    Text.Encoding.ascii.writes point = true ↔ point.code < 128 := by
  cases point with
  | char character => exact decide_eq_true_iff
  | lone surrogate =>
      have beyond : 128 ≤ (Text.CodePoint.lone surrogate).code := code_of_isLone rfl
      exact iff_of_false Bool.false_ne_true (Nat.not_lt.mpr beyond)

theorem headerFault?_authorization {token : String} :
    headerFault? (authorization token) = none ↔
      ∀ point ∈ Text.points token.toList, point.code < 128 := by
  have plain : ∀ point ∈ Text.points "Bearer ".toList, point.code < 128 := by decide
  simp only [headerFault?, Text.Encoding.fault?_eq_none, writes_ascii, authorization,
    String.toList_append, Text.points_append, List.forall_mem_append]
  exact and_iff_right plain

/-- A session begins with a token unless a code point of it lies beyond ASCII. -/
theorem Session.start_eq_error {client : Client} {account : Account} {token : Text.Label} :
    (∃ fault, Session.start client account token = .error fault) ↔
      ∃ point ∈ token.points, 128 ≤ point.code := by
  cases token with
  | ragged token =>
      rcases List.any_eq_true.mp token.isRagged with ⟨point, member, lone⟩
      exact iff_of_true ⟨_, rfl⟩ ⟨point, member, code_of_isLone lone⟩
  | whole token =>
      cases begun : Session.start client account (.whole token) with
      | ok session =>
          cases (Session.start_eq_ok.mp begun).2.2.2
          have all := headerFault?_authorization.mp session.writable
          refine iff_of_false (by simp) ?_
          rintro ⟨point, member, beyond⟩
          exact absurd (all point member) (Nat.not_lt.mpr beyond)
      | error fault =>
          refine iff_of_true ⟨fault, rfl⟩ ?_
          by_contra within
          simp only [not_exists, not_and, Nat.not_le] at within
          let session : Session := ⟨client, account.homeserver, account.room, token,
            headerFault?_authorization.mpr within⟩
          have started : Session.start client account (.whole token) = .ok session :=
            Session.start_eq_ok.mpr ⟨rfl, rfl, rfl, rfl⟩
          cases begun.symm.trans started

/-! ## The protocol -/

/-- The answer brings a token that is not in ASCII. -/
def BringsForeignToken (first : Outcome) : Prop :=
  ∃ token, tokenIn? first = some token ∧ ∃ point ∈ token.points, 128 ≤ point.code

/-- The answer brings an address in which half of a character stands alone. -/
def BringsRaggedAddress (second : Outcome) : Prop :=
  ∃ address, addressIn? second = some (.ragged address)

theorem not_bringsForeignToken_of_none {first : Outcome} (missing : tokenIn? first = none) :
    ¬ BringsForeignToken first := by
  rintro ⟨token, found, _⟩
  cases missing.symm.trans found

theorem not_bringsForeignToken_of_start {client : Client} {account : Account} {first : Outcome}
    {token : Text.Label} {session : Session} (found : tokenIn? first = some token)
    (begun : Session.start client account token = .ok session) : ¬ BringsForeignToken first := by
  rintro ⟨other, brought, foreign⟩
  cases found.symm.trans brought
  rcases Session.start_eq_error.mpr foreign with ⟨fault, refused⟩
  cases begun.symm.trans refused

theorem LoggedIn.error {first : Outcome} {fault : Fault} (login : LoggedIn first (.error fault)) :
    tokenIn? first = none ∧ ∃ refusal, fault = .setup refusal := by
  cases login with
  | refused missing fault =>
      refine ⟨?_, _, rfl⟩
      rw [tokenIn?, missing, Option.bind_none]
  | unnamed _ missing => exact ⟨missing, _, rfl⟩

/-- The login comes first, and its answer decides whether the fault can be none of the service's. -/
theorem SetUp.first {client : Client} {account : Account} {dialogue : Dialogue}
    {verdict : Except Fault Session} (setUp : SetUp client account dialogue verdict) :
    ∃ first rest, dialogue = (loginRequest account, .ok first) :: rest ∧
      ((∃ fault, verdict = .error fault ∧ ∀ refusal, fault ≠ .setup refusal) ↔
        BringsForeignToken first) := by
  cases setUp with
  | @refused first fault login =>
      rcases login.error with ⟨missing, refusal, rfl⟩
      refine ⟨first, [], rfl, iff_of_false ?_ (not_bringsForeignToken_of_none missing)⟩
      rintro ⟨_, ⟨⟩, none⟩
      exact none refusal rfl
  | @unwritable first token fault found refused =>
      refine ⟨first, [], rfl, iff_of_true ⟨_, rfl, nofun⟩ ⟨token, found, ?_⟩⟩
      exact Session.start_eq_error.mp ⟨fault, refused⟩
  | unjoined found begun missing fault =>
      refine ⟨_, _, rfl, iff_of_false ?_ (not_bringsForeignToken_of_start found begun)⟩
      rintro ⟨_, ⟨⟩, none⟩
      exact none _ rfl
  | joined found begun joined =>
      exact ⟨_, _, rfl, iff_of_false nofun (not_bringsForeignToken_of_start found begun)⟩

theorem SetUp.session {client : Client} {account : Account} {first : Outcome} {rest : Dialogue}
    {session : Session}
    (setUp : SetUp client account ((loginRequest account, .ok first) :: rest) (.ok session)) :
    tokenIn? first = some (.whole session.token) ∧ session.homeserver = account.homeserver ∧
      session.room = account.room := by
  cases setUp with
  | joined found begun _ =>
      rcases Session.start_eq_ok.mp begun with ⟨_, homeserver, room, token⟩
      exact ⟨token ▸ found, homeserver, room⟩

theorem ShownWithImage.token {session : Session} {card : Card} {content : Bytes} {filename : String}
    {dialogue : Dialogue} {outcome : Except Fault Unit}
    (shown : ShownWithImage session card content filename dialogue outcome) :
    ∀ exchange ∈ dialogue, exchange.1.token = some session.token := by
  intro exchange member
  cases shown <;> simp only [List.mem_cons, List.not_mem_nil, or_false] at member
  case untold => exact member ▸ rfl
  case unkept | unwritable => rcases member with rfl | rfl <;> rfl
  case ended => rcases member with rfl | rfl | rfl <;> rfl

/-- A delivery ends as no refusal of a service does exactly if the upload brings an address that the
message after it cannot hold. -/
theorem ShownWithImage.unrefused_iff {session : Session} {card : Card} {content : Bytes}
    {filename : String} {dialogue : Dialogue} {outcome : Except Fault Unit}
    (shown : ShownWithImage session card content filename dialogue outcome) :
    (∃ fault, outcome = .error fault ∧ ∀ refusal, fault ≠ .delivery refusal) ↔
      ∃ second, (session.uploadRequest content filename, .ok second) ∈ dialogue ∧
        BringsRaggedAddress second := by
  have apart (mark : String) (message : Json) :
      session.uploadRequest content filename ≠ session.messageRequest mark message := by
    intro same
    cases congrArg Request.method same
  cases shown with
  | untold missing fault =>
      refine iff_of_false (by simp) ?_
      simp [apart]
  | unkept told missing fault =>
      refine iff_of_false (by simp) ?_
      simp [apart, BringsRaggedAddress, missing]
  | unwritable told kept fault =>
      exact iff_of_true ⟨_, rfl, nofun⟩ ⟨_, by simp, _, kept⟩
  | ended told kept found =>
      refine iff_of_false ?_ ?_
      · rintro ⟨fault, rfl, other⟩
        cases found with
        | missed _ refusal => exact other refusal rfl
      · simp [Session.imageRequest, apart, BringsRaggedAddress, kept]

/-- A channel makes the requests of a session for a card, as a party. -/
structure SpeaksInSession (party : Nat) (session : Session) (channel : Channel (Transcribed W)) :
    Prop where
  send : ∀ card start outcome last, (channel.send card).run.run (start, []) = (outcome, last) →
    ∃ mark came,
      exchangesBy party last.2 = [(session.messageRequest mark (textContent card), .ok came)] ∧
        Found (acknowledged came) outcome
  sendWithImage : ∀ card content filename start outcome last,
    (channel.sendWithImage card content filename).run.run (start, []) = (outcome, last) →
      ShownWithImage session card content filename (exchangesBy party last.2) outcome ∧
        (∀ exchange ∈ exchangesBy party last.2, exchange.1.token = some session.token) ∧
        ((∃ fault, outcome = .error fault ∧ ∀ refusal, fault ≠ .delivery refusal) ↔
          ∃ second, (session.uploadRequest content filename, .ok second) ∈
            exchangesBy party last.2 ∧ BringsRaggedAddress second)

/-- A server that greets with a token and then acknowledges everything, but keeps no images. -/
def greeting (token : String) : Nat → Outcome
  | 0 => .ok ⟨200, Text.utf8 ("\x7b\"access_token\": \"" ++ token ++ "\"\x7d")⟩
  | _ => .ok ⟨200, Text.utf8 "\x7b\x7d"⟩

/-- A channel that speaks to such a server. -/
abbrev greeted (token : String) : World (Transcribed Nat) :=
  transcribed 0 (answering (greeting token))

def botAccount : Account := ⟨"https://matrix.org", "bot", "hunter2", "!room:matrix.org"⟩

def setUpWith (token : String) : Except Fault (Channel (Transcribed Nat)) × Nat × Transcript :=
  (openChannel (greeted token) (.ofNat 30) botAccount).run.run (0, [])

theorem setUpWith_eq (token : String) :
    (openChannel (greeted token) (.ofNat 30) botAccount).run.run (0, []) =
      ((setUpWith token).1, (setUpWith token).2) := (Prod.eta _).symm

def isRequestFault : Except Fault α → Bool
  | .error (.request _) => true
  | _ => false

end ObservatoryWatch.Chat.Matrix
