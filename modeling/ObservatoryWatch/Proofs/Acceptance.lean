import ObservatoryWatch.Chat.Setup
import ObservatoryWatch.Proofs.FanOut

/-!
When a card counts as delivered.

A channel makes its requests one after the other and stops at the first one whose answer it does not
take. So the card counts as delivered exactly if all answers were taken. Both services are taken to
have refused from 400 on; a redirect, which nobody follows, lies below.
-/

namespace ObservatoryWatch.Chat

open Http

variable {W α β : Type}

/-! ## Requests in a transcript -/

/-- The requests of a party, each with what came of it. -/
def exchangesBy (party : Nat) (transcript : Transcript) :
    List (Request × Except Fault Outcome) :=
  transcript.filterMap fun
    | .exchange maker request outcome => if maker = party then some (request, outcome) else none
    | _ => none

theorem exchangesBy_append (party : Nat) (earlier later : Transcript) :
    exchangesBy party (earlier ++ later) = exchangesBy party earlier ++ exchangesBy party later :=
  List.filterMap_append

theorem exchangesBy_own (party : Nat) (request : Request) (outcome : Except Fault Outcome)
    (later : Transcript) :
    exchangesBy party (.exchange party request outcome :: later) =
      (request, outcome) :: exchangesBy party later :=
  List.filterMap_cons_some (if_pos rfl)

theorem exchangesBy_other {party other : Nat} (apart : other ≠ party) (request : Request)
    (outcome : Except Fault Outcome) (later : Transcript) :
    exchangesBy other (.exchange party request outcome :: later) = exchangesBy other later :=
  List.filterMap_cons_none (if_neg apart.symm)

/-! ## Members -/

/-- A channel to one of the two services, by what it was set up with. -/
inductive Member where
  | webhook (client : Client) (address : String)
  | room (session : Matrix.Session)

namespace Member

def name : Member → String
  | webhook .. => Service.discord.name
  | room _ => Service.matrix.name

def channel {m : Type → Type} [Monad m] (world : World m) : Member → Channel m
  | webhook client address => {
      name := Service.discord.name
      send := fun card => Discord.post world client address (Discord.cardBody card)
      sendWithImage := fun card content filename =>
        Discord.post world client address (Discord.imageBody card content filename)
      close := world.closeClient client }
  | room session => session.channel world

theorem channel_name {m : Type → Type} [Monad m] (world : World m) (member : Member) :
    (member.channel world).name = member.name := by
  cases member <;> rfl

/-- Whether an answer has the members that a room looks for: after an upload an address of the
image that the next message can hold, otherwise none in particular. -/
def tellsEnough (method : Method) (response : Response) : Bool :=
  match response.json? with
  | some (.object members) =>
    method != .post || ((Json.Members.find? members "content_uri").bind Json.label?).any
      (·.fault?.isNone)
  | _ => false

/-- Whether a member goes on after what came of a request. -/
def takes : Member → Request → Except Fault Outcome → Bool
  | webhook .., _, .ok (.ok response) => !response.isRefusal
  | room _, request, .ok (.ok response) =>
    !response.isRefusal && tellsEnough request.method response
  | _, _, _ => false

/-- The requests that a card takes, by their methods. -/
def methods : Member → Option Attachment → List Method
  | webhook .., _ => [.post]
  | room _, none => [.put]
  | room _, some _ => [.put, .post, .put]

theorem takes_fault (member : Member) (request : Request) (fault : Fault) :
    member.takes request (.error fault) = false := by
  cases member <;> rfl

theorem takes_failure (member : Member) (request : Request) (failure : Failure) :
    member.takes request (.ok (.error failure)) = false := by
  cases member <;> rfl

theorem answered_of_takes {member : Member} {request : Request} {outcome : Except Fault Outcome}
    (taken : member.takes request outcome = true) :
    ∃ response : Response, outcome = .ok (.ok response) ∧ response.status < 400 := by
  rcases outcome with fault | failure | response
  · rw [takes_fault] at taken
    cases taken
  · rw [takes_failure] at taken
    cases taken
  · refine ⟨response, rfl, ?_⟩
    cases member <;> simp_all [takes, Response.isRefusal]

end Member

/-- Every channel that the settings can ask for is a member's. -/
theorem member_of_openChannel {world : World (StateM W)} {timeout : Binary64}
    {account : Settings.ChannelAccount} {before after : W} {channel : Channel (StateM W)}
    (opened : (openChannel world timeout account).run.run before = (.ok channel, after)) :
    ∃ member : Member, channel = member.channel world := by
  cases account with
  | discord webhook =>
      rw [openChannel, Discord.openChannel] at opened
      split at opened
      · cases opened
        exact ⟨.webhook _ webhook, rfl⟩
      · cases opened
  | matrix account =>
      rw [openChannel, Matrix.openChannel] at opened
      have connected : (liftM (world.openClient timeout none) : Action (StateM W) Client).run.run
          before = (.ok (world.openClient timeout none before).1,
            (world.openClient timeout none before).2) := rfl
      rw [run_bind_ok connected] at opened
      rcases login : (Matrix.login world _ account).run.run _ with ⟨fault | token, later⟩
      · rw [run_bind_error login] at opened
        cases opened
      · rw [run_bind_ok login, run_bind (run_ofExcept _ later)] at opened
        cases started : Matrix.Session.start _ account token with
        | error fault =>
            rw [started] at opened
            cases opened
        | ok session =>
            rw [started] at opened
            change (Matrix.join world session >>= fun _ => _).run.run later = _ at opened
            rcases joined : (Matrix.join world session).run.run later with ⟨fault | _, last⟩
            · rw [run_bind_error joined] at opened
              cases opened
            · rw [run_bind_ok joined] at opened
              cases opened
              exact ⟨.room _, rfl⟩

/-! ## Actions that make requests -/

/-- An action that makes no request, and that succeeds or fails as a verdict says. -/
def Judges (verdict : Bool) (action : Action (Transcribed W) α) : Prop :=
  ∀ before transcript, ∃ outcome after notes,
    action.run.run (before, transcript) = (outcome, after, transcript ++ notes) ∧
      (∀ party, exchangesBy party notes = []) ∧ outcome.isOk = verdict

/-- What an action of a member came to, by its requests: it has succeeded exactly if all of them
were taken, and then it has made all requests of some methods. -/
structure Decided (member : Member) (methods : List Method)
    (exchanges : List (Request × Except Fault Outcome)) (outcome : Except Fault α) : Prop where
  ok_iff : outcome.isOk = true ↔
    ∀ exchange ∈ exchanges, member.takes exchange.1 exchange.2 = true
  complete : outcome.isOk = true → exchanges.map (·.1.method) = methods

/-- An action that makes requests as one party only, and that succeeds exactly if the member takes
what came of each of them. -/
def Asks (party : Nat) (member : Member) (methods : List Method)
    (action : Action (Transcribed W) α) : Prop :=
  ∀ before transcript, ∃ outcome after notes,
    action.run.run (before, transcript) = (outcome, after, transcript ++ notes) ∧
      (∀ other, other ≠ party → exchangesBy other notes = []) ∧
      Decided member methods (exchangesBy party notes) outcome

section

variable {party : Nat} {member : Member}

theorem Judges.of_unnoted {verdict : Bool} {action : Action (Transcribed W) α}
    (ran : ∀ before transcript, ∃ outcome after,
      action.run.run (before, transcript) = (outcome, after, transcript) ∧
        outcome.isOk = verdict) :
    Judges verdict action := by
  intro before transcript
  rcases ran before transcript with ⟨outcome, after, ran, decided⟩
  refine ⟨outcome, after, [], ?_, fun _ => rfl, decided⟩
  rw [ran, List.append_nil]

theorem judges_throw (fault : Fault) :
    Judges false (throw fault : Action (Transcribed W) α) :=
  .of_unnoted fun before _ => ⟨.error fault, before, rfl, rfl⟩

theorem judges_pure (value : α) : Judges true (pure value : Action (Transcribed W) α) :=
  .of_unnoted fun before _ => ⟨.ok value, before, rfl, rfl⟩

theorem judges_freshMark (world : World (StateM W)) :
    Judges true (liftM (transcribed party world).freshMark : Action (Transcribed W) String) :=
  .of_unnoted fun before _ =>
    ⟨.ok (world.freshMark before).1, (world.freshMark before).2, rfl, rfl⟩

theorem judges_log (world : World (StateM W)) (record : Log.Record) :
    Judges true (liftM ((transcribed party world).log record) : Action (Transcribed W) Unit) :=
  fun before _ => ⟨.ok (), (world.log record before).2, [.log record], rfl, fun _ => rfl, rfl⟩

theorem Judges.bind {verdict : Bool} {action : Action (Transcribed W) α}
    {next : α → Action (Transcribed W) β} (first : Judges true action)
    (judged : ∀ value, Judges verdict (next value)) : Judges verdict (action >>= next) := by
  intro before transcript
  rcases first before transcript with ⟨fault | value, middle, notes, ran, silent, succeeded⟩
  · cases succeeded
  · rcases judged value middle (transcript ++ notes) with
      ⟨outcome, after, more, ranOn, silentOn, decided⟩
    refine ⟨outcome, after, notes ++ more, ?_, fun party => ?_, decided⟩
    · rw [run_bind_ok ran, ranOn, List.append_assoc]
    · rw [exchangesBy_append, silent, silentOn, List.append_nil]

theorem Judges.asks {action : Action (Transcribed W) α} (judges : Judges true action) :
    Asks party member [] action := by
  intro before transcript
  rcases judges before transcript with ⟨outcome, after, notes, ran, silent, succeeded⟩
  refine ⟨outcome, after, notes, ran, fun other _ => silent other, ?_, fun _ => ?_⟩
  · simp only [succeeded, silent, List.not_mem_nil, false_implies, implies_true]
  · rw [silent, List.map_nil]

theorem Asks.bind {first later : List Method} {action : Action (Transcribed W) α}
    {next : α → Action (Transcribed W) β} (asks : Asks party member first action)
    (goesOn : ∀ value, Asks party member later (next value)) :
    Asks party member (first ++ later) (action >>= next) := by
  intro before transcript
  rcases asks before transcript with ⟨fault | value, middle, notes, ran, alone, decided⟩
  · refine ⟨.error fault, middle, notes, run_bind_error ran _, alone, ?_, ?_⟩
    · exact decided.ok_iff
    · intro succeeded
      cases succeeded
  · rcases goesOn value middle (transcript ++ notes) with
      ⟨outcome, after, more, ranOn, aloneOn, decidedOn⟩
    refine ⟨outcome, after, notes ++ more, ?_, ?_, ?_, ?_⟩
    · rw [run_bind_ok ran, ranOn, List.append_assoc]
    · intro other apart
      rw [exchangesBy_append, alone other apart, aloneOn other apart, List.append_nil]
    · have taken := decided.ok_iff.mp rfl
      rw [decidedOn.ok_iff, exchangesBy_append]
      simp only [List.mem_append, or_imp, forall_and]
      exact ⟨fun all => ⟨taken, all⟩, And.right⟩
    · intro succeeded
      rw [exchangesBy_append, List.map_append, decided.complete rfl, decidedOn.complete succeeded]

/-- A request is made as the party. What follows fails if the answer is not taken, and else makes
the later requests. -/
theorem asks_exchange (world : World (StateM W)) (client : Client) (request : Request)
    {later : List Method} {next : Outcome → Action (Transcribed W) α}
    (stops : ∀ outcome, member.takes request (.ok outcome) = false → Judges false (next outcome))
    (goesOn : ∀ outcome, member.takes request (.ok outcome) = true →
      Asks party member later (next outcome)) :
    Asks party member (request.method :: later)
      ((transcribed party world).exchange client request >>= next) := by
  intro before transcript
  rcases ran : (world.exchange client request).run.run before with ⟨came, middle⟩
  have exchanged := exchange_transcribed_run ran party transcript
  rcases came with fault | outcome
  · refine ⟨.error fault, middle, _, run_bind_error exchanged _, fun other apart =>
      exchangesBy_other apart .., ?_, ?_⟩
    · rw [exchangesBy_own, List.forall_mem_cons, Member.takes_fault]
      simp only [Except.isOk, Except.toBool, Bool.false_eq_true, false_and]
    · intro succeeded
      cases succeeded
  · cases taken : member.takes request (.ok outcome) with
    | false =>
        rcases stops outcome taken middle (transcript ++ [.exchange party request (.ok outcome)])
          with ⟨result, after, notes, ranOn, silent, fails⟩
        refine ⟨result, after, .exchange party request (.ok outcome) :: notes, ?_, ?_, ?_, ?_⟩
        · rw [run_bind_ok exchanged, ranOn, ← List.append_cons]
        · intro other apart
          rw [exchangesBy_other apart, silent]
        · rw [exchangesBy_own, silent, List.forall_mem_singleton, taken, fails]
        · intro succeeded
          cases fails.symm.trans succeeded
    | true =>
        rcases goesOn outcome taken middle (transcript ++ [.exchange party request (.ok outcome)])
          with ⟨result, after, notes, ranOn, alone, decided⟩
        refine ⟨result, after, .exchange party request (.ok outcome) :: notes, ?_, ?_, ?_, ?_⟩
        · rw [run_bind_ok exchanged, ranOn, ← List.append_cons]
        · intro other apart
          rw [exchangesBy_other apart, alone other apart]
        · rw [exchangesBy_own, List.forall_mem_cons, decided.ok_iff]
          exact (and_iff_right taken).symm
        · intro succeeded
          rw [exchangesBy_own, List.map_cons, decided.complete succeeded]

/-! ## The requests of the two services -/

theorem discord_post_asks (world : World (StateM W)) (client : Client) (address : String)
    (body : Body) :
    Asks party (.webhook client address) [.post]
      (Discord.post (transcribed party world) client address body) := by
  refine asks_exchange world client _ (fun outcome missed => ?_) fun outcome taken => ?_
  · cases outcome with
    | error failure => exact judges_throw _
    | ok response =>
        have refused : response.isRefusal = true := by simpa [Member.takes] using missed
        dsimp only
        rw [refused, if_pos rfl]
        exact judges_throw _
  · cases outcome with
    | error failure => cases taken
    | ok response =>
        have accepted : response.isRefusal = false := by simpa [Member.takes] using taken
        dsimp only
        rw [accepted, if_neg Bool.false_ne_true]
        exact (judges_log world _).asks

/-- A call fails if the answer is refused or no object. -/
theorem matrix_call_asks (world : World (StateM W)) (session : Matrix.Session) (client : Client)
    (homeserver : String) (token : Option String) (method : Method) (path : String)
    (parameters : List (String × String)) (body : Body) {later : List Method}
    {next : Json.Members → Action (Transcribed W) α}
    (stops : ∀ response members, response.json? = some (.object members) →
      Member.tellsEnough method response = false → Judges false (next members))
    (goesOn : ∀ response members, response.json? = some (.object members) →
      Member.tellsEnough method response = true →
        Asks party (.room session) later (next members)) :
    Asks party (.room session) (method :: later)
      (Matrix.call (transcribed party world) client homeserver token method path parameters body >>=
        next) := by
  unfold Matrix.call
  rw [bind_assoc]
  refine asks_exchange world client _ (fun outcome missed => ?_) fun outcome taken => ?_
  · rcases outcome with failure | response
    · exact judges_throw _
    · simp only [Matrix.answer]
      cases refused : response.isRefusal with
      | true => exact judges_throw _
      | false =>
          rcases read : response.json? with _ | value
          · exact judges_throw _
          · cases value with
            | object members =>
                refine stops response members read ?_
                simpa [Member.takes, refused] using missed
            | _ => exact judges_throw _
  · rcases outcome with failure | response
    · cases taken
    · simp only [Member.takes, Bool.and_eq_true, Bool.not_eq_eq_eq_not, Bool.not_true] at taken
      simp only [Matrix.answer, taken.1]
      rcases read : response.json? with _ | value
      · rw [Member.tellsEnough, read] at taken
        cases taken.2
      · cases value with
        | object members => exact goesOn response members read taken.2
        | _ =>
            rw [Member.tellsEnough, read] at taken
            cases taken.2

/-- A message that can be written down is a call with a mark of its own. -/
theorem matrix_sendMessage_eq (world : World (StateM W)) (session : Matrix.Session)
    {content : Json} (writable : content.fault? = none) :
    Matrix.sendMessage world session content = (do
      let mark ← liftM world.freshMark
      let _ ← Matrix.call world session.client session.homeserver (some session.token) .put
        (Matrix.messagePath session.room mark) [] (.json content)
      return ()) := by
  unfold Matrix.sendMessage
  rw [Body.ofJson, writable]
  refine congrArg (liftM world.freshMark >>= ·) (funext fun mark => ?_)
  change pure (Body.json content) >>= _ = _
  rw [pure_bind, ← bind_pure (discard _), Monitor.discard_bind]

theorem matrix_sendMessage_asks (world : World (StateM W)) (session : Matrix.Session)
    {content : Json} (writable : content.fault? = none) :
    Asks party (.room session) [.put]
      (Matrix.sendMessage (transcribed party world) session content) := by
  rw [matrix_sendMessage_eq _ session writable]
  refine (judges_freshMark world).asks.bind fun mark => ?_
  refine matrix_call_asks world session _ _ _ _ _ _ _ (fun response members read missed => ?_)
    fun _ _ _ _ => (judges_pure ()).asks
  rw [Member.tellsEnough, read] at missed
  cases missed

/-- A message that cannot be written down fails before any request. -/
theorem matrix_sendMessage_judges (world : World (StateM W)) (session : Matrix.Session)
    {content : Json} {fault : Text.EncodingFault} (unwritable : content.fault? = some fault) :
    Judges false (Matrix.sendMessage (transcribed party world) session content) := by
  refine (judges_freshMark world).bind fun mark => ?_
  rw [Body.ofJson, unwritable]
  exact judges_throw _

theorem textContent_fault? (card : Card) : (Matrix.textContent card).fault? = none := rfl

/-- The message that shows an image can be written down if its address can. -/
theorem imageContent_fault? (filename : String) (address : Text.Label) (mediaType : String)
    (size : Nat) :
    (Matrix.imageContent filename address mediaType size).fault?.isNone = address.fault?.isNone := by
  cases address <;> rfl

/-- The upload and the message after it: the image is shown if its address can be written down. -/
theorem matrix_upload_asks (world : World (StateM W)) (session : Matrix.Session) (content : Bytes)
    (filename mediaType : String) :
    Asks party (.room session) [.post, .put] (do
      let address ← Matrix.upload (transcribed party world) session content filename
      Matrix.sendMessage (transcribed party world) session
        (Matrix.imageContent filename address mediaType content.length)) := by
  unfold Matrix.upload
  rw [bind_assoc]
  refine matrix_call_asks world session _ _ _ _ _ _ _ (fun response members read missed => ?_)
    fun response members read taken => ?_
  · rw [Member.tellsEnough, read] at missed
    change ((Json.Members.find? members "content_uri").bind Json.label?).any _ = false at missed
    cases found : (Json.Members.find? members "content_uri").bind Json.label? with
    | none => exact judges_throw _
    | some address =>
        rw [found] at missed
        have unwritable := (imageContent_fault? filename address mediaType content.length).trans
          missed
        rcases Option.isSome_iff_exists.mp (Option.isNone_eq_false_iff.mp unwritable) with
          ⟨fault, same⟩
        exact matrix_sendMessage_judges world session same
  · rw [Member.tellsEnough, read] at taken
    change ((Json.Members.find? members "content_uri").bind Json.label?).any _ = true at taken
    cases found : (Json.Members.find? members "content_uri").bind Json.label? with
    | none =>
        rw [found] at taken
        cases taken
    | some address =>
        rw [found] at taken
        have writable := (imageContent_fault? filename address mediaType content.length).trans
          taken
        exact matrix_sendMessage_asks world session (Option.isNone_iff_eq_none.mp writable)

/-- Given a card, a member makes its requests until one of the answers is not taken. -/
theorem Member.deliver_asks (member : Member) (party : Nat) (world : World (StateM W)) (card : Card)
    (image : Option Attachment) :
    Asks party member (member.methods image)
      ((member.channel (transcribed party world)).deliver card image) := by
  cases member with
  | webhook client address =>
      cases image with
      | none => exact discord_post_asks world client address _
      | some image => exact discord_post_asks world client address _
  | room session =>
      cases image with
      | none => exact matrix_sendMessage_asks world session (textContent_fault? card)
      | some image =>
          refine (matrix_sendMessage_asks world session (textContent_fault? card)).bind fun _ => ?_
          exact matrix_upload_asks world session _ _ _

end

/-! ## All members -/

/-- The members' channels; each of them makes its requests as a party of its own, from a number
on. -/
def memberChannels (number : Nat) (world : World (StateM W)) (members : List Member) :
    List (Channel (Transcribed W)) :=
  (members.zipIdx number).map fun (member, number) => member.channel (transcribed number world)

theorem mem_failedNames {m : Type → Type} (channels : List (Channel m))
    (outcomes : List (Except Fault Unit)) (name : String) :
    name ∈ failedNames (named channels outcomes) ↔
      ∃ (position : Nat) (channel : Channel m) (fault : Fault),
        channels[position]? = some channel ∧ outcomes[position]? = some (.error fault) ∧
          channel.name = name := by
  rw [failedNames, List.mem_filterMap]
  simp only [named, List.mem_iff_getElem?, List.getElem?_zip_eq_some, List.getElem?_map,
    Option.map_eq_some_iff]
  constructor
  · rintro ⟨⟨_, outcome⟩, ⟨position, ⟨channel, found, rfl⟩, given⟩, told⟩
    cases outcome with
    | ok _ => cases told
    | error fault => exact ⟨position, channel, fault, found, given, Option.some.inj told⟩
  · rintro ⟨position, channel, fault, found, given, rfl⟩
    exact ⟨(channel.name, .error fault), ⟨position, ⟨channel, found, rfl⟩, given⟩, rfl⟩

/-- What has come of the deliveries to members shows in the transcript, for each member among the
requests of its party. -/
structure Shows (number : Nat) (members : List Member) (image : Option Attachment)
    (outcomes : List (Except Fault Unit)) (notes : Transcript) : Prop where
  earlier : ∀ party < number, exchangesBy party notes = []
  decided : ∀ (position : Nat) (member : Member) (outcome : Except Fault Unit),
    members[position]? = some member → outcomes[position]? = some outcome →
      Decided member (member.methods image) (exchangesBy (number + position) notes) outcome

section

variable {world : World (StateM W)} {card : Card} {image : Option Attachment} {party number : Nat}
  {members : List Member}

theorem Shows.later {outcomes : List (Except Fault Unit)} {quiet notes : Transcript}
    (shows : Shows number members image outcomes notes)
    (silent : ∀ party, exchangesBy party quiet = []) :
    Shows number members image outcomes (quiet ++ notes) := by
  have same (party : Nat) : exchangesBy party (quiet ++ notes) = exchangesBy party notes := by
    rw [exchangesBy_append, silent, List.nil_append]
  constructor
  · intro party before
    rw [same, shows.earlier party before]
  · intro position member outcome found given
    rw [same]
    exact shows.decided position member outcome found given

theorem Shows.cons {member : Member} {outcome : Except Fault Unit}
    {outcomes : List (Except Fault Unit)} {first later : Transcript}
    (alone : ∀ other, other ≠ number → exchangesBy other first = [])
    (decided : Decided member (member.methods image) (exchangesBy number first) outcome)
    (shows : Shows (number + 1) members image outcomes later) :
    Shows number (member :: members) image (outcome :: outcomes) (first ++ later) := by
  constructor
  · intro party before
    rw [exchangesBy_append, alone party before.ne, shows.earlier party (Nat.lt_succ_of_lt before)]
    rfl
  · intro position other result found given
    rw [exchangesBy_append]
    cases position with
    | zero =>
        cases found
        cases given
        rw [Nat.add_zero, shows.earlier number (Nat.lt_succ_self number), List.append_nil]
        exact decided
    | succ position =>
        have apart : number + (position + 1) ≠ number := by omega
        rw [alone _ apart, List.nil_append, ← Nat.succ_add_eq_add_succ]
        exact shows.decided position other result found given

theorem Deliveries.shows {before after : W × Transcript} {outcomes : List (Except Fault Unit)}
    (deliveries : Deliveries (transcribed party world) card image
      (memberChannels number world members) before outcomes after) :
    ∃ notes, after.2 = before.2 ++ notes ∧ Shows number members image outcomes notes := by
  induction members generalizing number before outcomes with
  | nil =>
      cases deliveries
      exact ⟨[], (List.append_nil _).symm, fun _ _ => rfl, fun _ _ _ found => nomatch found⟩
  | cons member rest induction =>
      rcases member.deliver_asks number world card image before.1 before.2 with
        ⟨outcome, middle, notes, asked, alone, decided⟩
      cases deliveries with
      | taken ran later =>
          cases asked.symm.trans ran
          rcases induction later with ⟨more, left, shows⟩
          refine ⟨notes ++ more, ?_, shows.cons alone decided⟩
          rw [left, List.append_assoc]
      | @missed _ _ _ _ _ _ fault ran failure later =>
          cases asked.symm.trans ran
          rcases induction later with ⟨more, left, shows⟩
          let notice := failureNotice card (member.channel (transcribed number world)).name fault
          have silent (party : Nat) : exchangesBy party [.log notice] = [] := rfl
          refine ⟨notes ++ ([.log notice] ++ more), ?_, (shows.later silent).cons alone decided⟩
          rw [left, ← List.append_assoc, ← List.append_assoc]
          rfl

end

/-! ## Ways to send a card -/

/-- A card is sent alone, or with an image that is fetched for it. -/
inductive Sending (W : Type) where
  | alone
  | withImage (fetch : Action (StateM W) Bytes) (filename : String)

namespace Sending

/-- Sends a card to the channels and keeps a transcript. -/
def send (world : World (StateM W)) (party : Nat) (channels : List (Channel (Transcribed W)))
    (card : Card) : Sending W → Action (Transcribed W) (List String)
  | alone => deliverAll (transcribed party world) card none channels
  | withImage fetch filename =>
    deliverWithImage (transcribed party world) channels card (notedFetch fetch) filename

/-- The image that the channels are given, if there is one to be had. -/
def image? (start : W) : Sending W → Option Attachment
  | alone => none
  | withImage fetch filename => attachment? filename (fetch.run.run start).1

end Sending

theorem length_memberChannels (number : Nat) (world : World (StateM W)) (members : List Member) :
    (memberChannels number world members).length = members.length := by
  rw [memberChannels, List.length_map, List.length_zipIdx]

theorem mem_failedNames_members (world : World (StateM W)) (members : List Member)
    (outcomes : List (Except Fault Unit)) (name : String) :
    name ∈ failedNames (named (memberChannels 0 world members) outcomes) ↔
      ∃ (position : Nat) (member : Member) (fault : Fault),
        members[position]? = some member ∧ outcomes[position]? = some (.error fault) ∧
          member.name = name := by
  rw [mem_failedNames]
  simp only [memberChannels, List.getElem?_map, List.getElem?_zipIdx, Option.map_map,
    Option.map_eq_some_iff]
  constructor
  · rintro ⟨position, _, fault, ⟨member, found, rfl⟩, given, rfl⟩
    exact ⟨position, member, fault, found, given, (member.channel_name _).symm⟩
  · rintro ⟨position, member, fault, found, given, rfl⟩
    exact ⟨position, _, fault, ⟨member, found, rfl⟩, given, member.channel_name _⟩

theorem exchangesBy_fetchNotes (party : Nat) (filename : String) (octets : Except Fault Bytes) :
    exchangesBy party (fetchNotes filename octets) = [] := by
  cases octets <;> rfl

/-- If names are told, they are those of the members whose deliveries have failed, and the
transcript shows these deliveries. -/
theorem Sending.shows {world : World (StateM W)} {members : List Member} {card : Card}
    {sending : Sending W} {start : W} {party : Nat} {failed : List String} {after : W × Transcript}
    (ended : (sending.send world party (memberChannels 0 world members) card).run.run (start, []) =
      (.ok failed, after)) :
    ∃ outcomes, outcomes.length = members.length ∧
      failed = failedNames (named (memberChannels 0 world members) outcomes) ∧
      Shows 0 members (sending.image? start) outcomes after.2 := by
  have told {image : Option Attachment} {middle : W} {notes : Transcript}
      (silent : ∀ party, exchangesBy party notes = [])
      (ended : (deliverAll (transcribed party world) card image
        (memberChannels 0 world members)).run.run (middle, notes) = (.ok failed, after)) :
      ∃ outcomes, outcomes.length = members.length ∧
        failed = failedNames (named (memberChannels 0 world members) outcomes) ∧
        Shows 0 members image outcomes after.2 := by
    rcases deliveries_of_run ended with ⟨outcomes, deliveries, names⟩
    rcases deliveries.shows with ⟨more, left, shows⟩
    refine ⟨outcomes, ?_, names, ?_⟩
    · rw [deliveries.length_eq, length_memberChannels]
    · rw [left]
      exact shows.later silent
  cases sending with
  | alone => exact told (fun _ => rfl) ended
  | withImage fetch filename =>
      cases members with
      | nil =>
          cases ended
          exact ⟨[], rfl, rfl, fun _ _ => rfl, fun _ _ _ found => nomatch found⟩
      | cons member rest =>
          have listening : memberChannels 0 world (member :: rest) ≠ [] := List.cons_ne_nil _ _
          rcases deliverWithImage_or_interrupted world party listening card fetch filename start []
            with ⟨middle, ran⟩ | ⟨message, _, interrupted, _⟩
          · exact told (fun other => exchangesBy_fetchNotes other ..) (ran.symm.trans ended)
          · cases interrupted.symm.trans ended

/-! ## The answers -/

/-- A request was answered, and what it asked for was done. -/
def succeeded : Except Fault Outcome → Bool
  | .ok (.ok response) => response.isSuccess
  | _ => false

/-- A request was answered, but it was neither done nor refused. -/
def leftOpen : Except Fault Outcome → Bool
  | .ok (.ok response) => !response.isSuccess && !response.isRefusal
  | _ => false

theorem leftOpen_eq_of_takes {member : Member} {request : Request}
    {outcome : Except Fault Outcome} (taken : member.takes request outcome = true) :
    leftOpen outcome = !succeeded outcome := by
  rcases Member.answered_of_takes taken with ⟨response, rfl, below⟩
  have unrefused : response.isRefusal = false := decide_eq_false (Nat.not_le.mpr below)
  rw [leftOpen, succeeded, unrefused, Bool.not_false, Bool.and_true]

/-- A name is not told exactly if the members of this name took the answers to all requests that
they made. Then these were all requests that the card takes, and each was answered below 400; but
they have all succeeded only if none of them was left open. -/
theorem name_untold_iff_answers_taken (world : World (StateM W)) (members : List Member)
    (card : Card) (sending : Sending W) (start : W) (party : Nat) (failed : List String)
    (after : W × Transcript)
    (ended : (sending.send world party (memberChannels 0 world members) card).run.run (start, []) =
      (.ok failed, after)) :
    (∀ name, name ∉ failed ↔ ∀ (position : Nat) (member : Member),
      members[position]? = some member → member.name = name →
        ∀ exchange ∈ exchangesBy position after.2, member.takes exchange.1 exchange.2 = true) ∧
    ∀ (position : Nat) (member : Member), members[position]? = some member →
      member.name ∉ failed →
        (exchangesBy position after.2).map (·.1.method) =
            member.methods (sending.image? start) ∧
          (∀ exchange ∈ exchangesBy position after.2, ∃ response : Response,
            exchange.2 = .ok (.ok response) ∧ response.status < 400) ∧
          ((∀ exchange ∈ exchangesBy position after.2, succeeded exchange.2 = true) ↔
            ∀ exchange ∈ exchangesBy position after.2, leftOpen exchange.2 = false) := by
  rcases Sending.shows ended with ⟨outcomes, all, rfl, shows⟩
  simp only [mem_failedNames_members]
  -- The delivery to a member of an untold name has not failed.
  have delivered (position : Nat) (member : Member) (found : members[position]? = some member)
      (untold : ¬ ∃ (other : Nat) (failing : Member) (fault : Fault),
        members[other]? = some failing ∧ outcomes[other]? = some (.error fault) ∧
          failing.name = member.name) :
      Decided (α := Unit) member (member.methods (sending.image? start))
        (exchangesBy position after.2) (.ok ()) := by
    have within : position < outcomes.length := all ▸ (List.getElem?_eq_some_iff.mp found).1
    have decided := shows.decided position member _ found (List.getElem?_eq_getElem within)
    rw [Nat.zero_add] at decided
    cases given : outcomes[position] with
    | ok value => exact given ▸ decided
    | error fault =>
        have reported := List.getElem?_eq_getElem within
        rw [given] at reported
        exact absurd ⟨position, member, fault, found, reported, rfl⟩ untold
  refine ⟨fun name => ⟨?_, ?_⟩, fun position member found untold => ?_⟩
  · rintro untold position member found rfl
    exact (delivered position member found untold).ok_iff.mp rfl
  · rintro taken ⟨position, member, fault, found, given, rfl⟩
    have decided := shows.decided position member _ found given
    rw [Nat.zero_add] at decided
    cases decided.ok_iff.mpr (taken position member found rfl)
  · have decided := delivered position member found untold
    have taken := decided.ok_iff.mp rfl
    refine ⟨decided.complete rfl, fun exchange made => Member.answered_of_takes (taken _ made), ?_⟩
    refine forall₂_congr fun exchange made => ?_
    rw [leftOpen_eq_of_takes (taken exchange made), Bool.not_eq_false']

/-! ## Answers that are taken -/

/-- The two services with a channel each. -/
def bothServices : List Member :=
  [.webhook ⟨0, .ofNat 30, none⟩ "https://discord.com/api/webhooks/1/token",
    .room ⟨⟨1, .ofNat 30, none⟩, "https://matrix.org", "!room:matrix.org", "token", by decide⟩]

/-- Sends a card to both services, whose servers answer as laid down. -/
def sendToBoth (script : Nat → Outcome) (sending : Sending Nat) :
    Except Fault (List String) × Nat × Transcript :=
  (sending.send (answering script) 2 (memberChannels 0 (answering script) bothServices)
    (.titled "Frame" 0)).run.run (0, [])

/-- Servers that do what they are asked for, the third request being an upload. -/
def willing : Nat → Outcome
  | 2 => .ok ⟨200, Text.utf8 "\x7b\"content_uri\": \"mxc://matrix.org/1\"\x7d"⟩
  | _ => .ok ⟨200, Text.utf8 "\x7b\x7d"⟩

/-- Servers that send every request elsewhere. -/
def redirecting : Nat → Outcome := fun _ => .ok ⟨302, Text.utf8 "\x7b\x7d"⟩

def smallImage : Sending Nat := .withImage (pure [255, 216]) "thumbnail_3.jpg"

theorem name_untold_iff_answers_taken_willing :
    (exchangesBy 1 (sendToBoth willing smallImage).2.2).map (·.1.method) = [.put, .post, .put] ∧
      ∀ exchange ∈ exchangesBy 1 (sendToBoth willing smallImage).2.2,
        ∃ response : Response, exchange.2 = .ok (.ok response) ∧ response.status < 400 := by
  have ended : sendToBoth willing smallImage = (.ok [], (sendToBoth willing smallImage).2) :=
    eq_of_toOption (by decide +kernel)
  have taken := (name_untold_iff_answers_taken (answering willing) bothServices (.titled "Frame" 0)
    smallImage 0 2 [] _ ended).2 1 _ rfl List.not_mem_nil
  exact ⟨taken.1, taken.2.1⟩

/-- A redirect is not followed, and yet the card counts as delivered. -/
theorem redirect_counts_as_delivery :
    ¬ ∀ (script : Nat → Outcome) (members : List Member) (card : Card) (sending : Sending Nat)
        (failed : List String) (after : Nat × Transcript),
      (sending.send (answering script) members.length
          (memberChannels 0 (answering script) members) card).run.run (0, []) =
        (.ok failed, after) →
      ∀ (position : Nat) (member : Member), members[position]? = some member →
        member.name ∉ failed →
          ∀ exchange ∈ exchangesBy position after.2, succeeded exchange.2 = true := by
  intro claimed
  have ended : sendToBoth redirecting .alone = (.ok [], (sendToBoth redirecting .alone).2) :=
    eq_of_toOption (by decide +kernel)
  have answers := claimed redirecting bothServices (.titled "Frame" 0) .alone [] _ ended 0 _ rfl
    List.not_mem_nil
  revert answers
  decide +kernel

end ObservatoryWatch.Chat
