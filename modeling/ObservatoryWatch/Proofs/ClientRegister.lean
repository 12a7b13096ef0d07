import ObservatoryWatch.Command.Execution
import ObservatoryWatch.Proofs.Lockstep
import ObservatoryWatch.Proofs.Observer

/-!
A register of the clients that are opened and closed.

The register is kept beside the world and writes down nothing else, and nobody in the program can
look at it. What does not open or close a client is therefore done as if there were no register,
and leaves it as it was.
-/

namespace ObservatoryWatch

/-- The clients that were opened and those that were closed, both in their order. -/
structure Register where
  opened : List Http.Client
  closed : List Http.Client

namespace Register

instance : EmptyCollection Register := ⟨⟨[], []⟩⟩

instance : Append Register :=
  ⟨fun early late => ⟨early.opened ++ late.opened, early.closed ++ late.closed⟩⟩

@[simp] theorem opened_append (early late : Register) :
    (early ++ late).opened = early.opened ++ late.opened := rfl

@[simp] theorem closed_append (early late : Register) :
    (early ++ late).closed = early.closed ++ late.closed := rfl

@[simp] theorem append_empty (register : Register) : register ++ (∅ : Register) = register := by
  rcases register with ⟨opened, closed⟩
  exact congrArg₂ Register.mk (List.append_nil opened) (List.append_nil closed)

@[simp] theorem empty_append (register : Register) : (∅ : Register) ++ register = register := rfl

theorem append_assoc (early middle late : Register) :
    early ++ middle ++ late = early ++ (middle ++ late) :=
  congrArg₂ Register.mk (List.append_assoc ..) (List.append_assoc ..)

/-- One client is opened. -/
def opening (client : Http.Client) : Register := ⟨[client], []⟩

/-- One client is closed. -/
def closing (client : Http.Client) : Register := ⟨[], [client]⟩

/-- Each client was closed as many times as it was opened. -/
def Released (register : Register) : Prop := register.closed.Perm register.opened

end Register

variable {W α β : Type}

/-! ## The register beside the world -/

/-- Surroundings with a register. -/
abbrev Registered (W : Type) := StateM (W × Register)

def registrar : Observer (StateM W) (Registered W) Register :=
  .beside fun register entry => register ++ entry

/-- Does an action beside which there is nothing to be written down. -/
def unnoticed (action : StateM W α) : Registered W α := registrar.lift action

/-- The same world, where openings and closings are written down. -/
def registered (world : World (StateM W)) : World (Registered W) :=
  registrar.world { opened := some .opening, closed := some .closing } world

theorem unnoticed_bind (action : StateM W α) (next : α → StateM W β) :
    unnoticed (action >>= next) = unnoticed action >>= fun value => unnoticed (next value) := rfl

/-! ## What the register does not notice -/

/-- Under the register the action is done as without it, and nothing is written down. -/
def Quiet (seen : Action (Registered W) α) (plain : Action (StateM W) α) : Prop :=
  seen.run = unnoticed plain.run

namespace Quiet

protected theorem pure (value : α) : Quiet (W := W) (pure value) (pure value) := rfl

protected theorem throw (fault : Fault) : Quiet (W := W) (α := α) (throw fault) (throw fault) :=
  rfl

protected theorem ofExcept (result : Except Fault α) :
    Quiet (W := W) (ofExcept result) (ofExcept result) := by
  cases result with
  | error fault => exact .throw fault
  | ok value => exact .pure value

protected theorem lift (action : StateM W α) :
    Quiet (liftM (unnoticed action) : Action (Registered W) α)
      (liftM action : Action (StateM W) α) := rfl

protected theorem bind {seen : Action (Registered W) α} {plain : Action (StateM W) α}
    {seenNext : α → Action (Registered W) β} {plainNext : α → Action (StateM W) β}
    (first : Quiet seen plain) (next : ∀ value, Quiet (seenNext value) (plainNext value)) :
    Quiet (seen >>= seenNext) (plain >>= plainNext) := by
  unfold Quiet at *
  rw [ExceptT.run_bind, ExceptT.run_bind, first, unnoticed_bind]
  refine congrArg (unnoticed plain.run >>= ·) (funext fun outcome => ?_)
  cases outcome with
  | error fault => rfl
  | ok value => exact next value

protected theorem discard {seen : Action (Registered W) α} {plain : Action (StateM W) α}
    (quiet : Quiet seen plain) : Quiet (discard seen) (discard plain) :=
  quiet.bind fun _ => .pure ()

protected theorem attemptFor {ε : Type} {select : Fault → Option ε}
    {seen : Action (Registered W) α} {plain : Action (StateM W) α} (quiet : Quiet seen plain) :
    Quiet (seen.attemptFor select) (plain.attemptFor select) := by
  unfold Quiet Action.attemptFor at *
  change Action.held select <$> seen.run = unnoticed (Action.held select <$> plain.run)
  rw [quiet]
  rfl

end Quiet

/-! ## Chat services -/

section

variable (world : World (StateM W)) (client : Http.Client)

theorem exchange_quiet (request : Http.Request) :
    Quiet ((registered world).exchange client request) (world.exchange client request) := rfl

theorem present_quiet (item : Shown) :
    Quiet ((registered world).present item) (world.present item) := rfl

open Chat

theorem call_quiet (homeserver : String) (token : Option String) (method : Http.Method)
    (path : String) (parameters : List (String × String)) (body : Http.Body) :
    Quiet (Matrix.call (registered world) client homeserver token method path parameters body)
      (Matrix.call world client homeserver token method path parameters body) := by
  refine (exchange_quiet world client _).bind fun answer => ?_
  cases answer with
  | error failure => exact .throw _
  | ok response => exact .ofExcept _

theorem sendMessage_quiet (session : Matrix.Session) (content : Json) :
    Quiet (Matrix.sendMessage (registered world) session content)
      (Matrix.sendMessage world session content) :=
  (Quiet.lift world.freshMark).bind fun _ => (Quiet.ofExcept _).bind fun _ =>
    (call_quiet world _ _ _ _ _ _ _).discard

theorem upload_quiet (session : Matrix.Session) (content : Bytes) (filename : String) :
    Quiet (Matrix.upload (registered world) session content filename)
      (Matrix.upload world session content filename) := by
  refine (call_quiet world _ _ _ _ _ _ _).bind fun members => ?_
  cases (members.find? "content_uri").bind Json.label? with
  | none => exact .throw _
  | some address => exact .pure address

theorem sendImage_quiet (session : Matrix.Session) (card : Card) (content : Bytes)
    (filename : String) :
    Quiet (Matrix.sendImage (registered world) session card content filename)
      (Matrix.sendImage world session card content filename) := by
  refine (sendMessage_quiet world session _).bind fun _ => ?_
  exact (upload_quiet world session content filename).bind fun _ => sendMessage_quiet world _ _

theorem login_quiet (account : Matrix.Account) :
    Quiet (Matrix.login (registered world) client account)
      (Matrix.login world client account) := by
  refine (call_quiet world _ _ _ _ _ _ _).attemptFor.bind fun answer => ?_
  cases answer with
  | error fault => exact .throw _
  | ok members =>
      dsimp only
      cases Matrix.tokenOf? members with
      | none => exact .throw _
      | some token => exact (Quiet.lift (world.log _)).bind fun _ => .pure token

theorem join_quiet (session : Matrix.Session) :
    Quiet (Matrix.join (registered world) session) (Matrix.join world session) := by
  refine (call_quiet world _ _ _ _ _ _ _).attemptFor.bind fun answer => ?_
  cases answer with
  | error fault => exact .throw _
  | ok members => exact .pure ()

theorem post_quiet (webhook : String) (body : Http.Body) :
    Quiet (Discord.post (registered world) client webhook body)
      (Discord.post world client webhook body) := by
  refine (exchange_quiet world client _).bind fun answer => ?_
  cases answer with
  | error failure => exact .throw _
  | ok response =>
      dsimp only
      cases response.isRefusal with
      | false => exact Quiet.lift (world.log _)
      | true => exact .throw _

end

/-! ## The imaging station -/

section

open Imaging

variable (world : World (StateM W)) (client : Http.Client) (access : Access) (query : Query)

theorem askFrom_quiet (attempt left : Nat) :
    Quiet (askFrom (registered world) client access query attempt left)
      (askFrom world client access query attempt left) := by
  induction left generalizing attempt with
  | zero => exact .throw _
  | succ left induction =>
      have asked : Quiet
          (do
            let outcome ← (registered world).exchange client (access.request query)
            if isFinal outcome || left == 0 then
              ofExcept ((settle query outcome).mapError .imaging)
            else
              (registered world).log
                (.warning (retryNotice query outcome (attempt + 2) access.attempts))
              askFrom (registered world) client access query (attempt + 1) left)
          (do
            let outcome ← world.exchange client (access.request query)
            if isFinal outcome || left == 0 then
              ofExcept ((settle query outcome).mapError .imaging)
            else
              world.log (.warning (retryNotice query outcome (attempt + 2) access.attempts))
              askFrom world client access query (attempt + 1) left) := by
        refine (exchange_quiet world client _).bind fun outcome => ?_
        cases isFinal outcome || left == 0 with
        | true => exact .ofExcept _
        | false => exact (Quiet.lift (world.log _)).bind fun _ => induction (attempt + 1)
      unfold askFrom
      by_cases again : 0 < attempt
      · have slept : Quiet ((registered world).sleep (access.pause attempt))
          (world.sleep (access.pause attempt)) := rfl
        simp only [again, if_true]
        exact slept.bind fun _ => asked
      · simp only [again, if_false]
        exact (Quiet.pure PUnit.unit).bind fun _ => asked

theorem askFor_quiet (read : Http.Response → Except Imaging.Fault α) :
    Quiet (askFor (registered world) client access query read)
      (askFor world client access query read) :=
  (askFrom_quiet world client access query 0 access.attempts).bind fun _ => .ofExcept _

end

/-! ## Channels -/

/-- A channel over a world, the same channel under the register, and the client of both. -/
structure Tended (world : World (StateM W)) where
  seen : Chat.Channel (Registered W)
  plain : Chat.Channel (StateM W)
  client : Http.Client
  name : seen.name = plain.name
  deliver (card : Card) (image : Option Chat.Attachment) :
    Quiet (seen.deliver card image) (plain.deliver card image)
  closeSeen : seen.close = (registered world).closeClient client
  closePlain : plain.close = world.closeClient client

namespace Tended

variable {world : World (StateM W)}

def webhook (world : World (StateM W)) (client : Http.Client) (address : String) :
    Tended world where
  seen := {
    name := Chat.Service.discord.name
    send := fun card => Chat.Discord.post (registered world) client address
      (Chat.Discord.cardBody card)
    sendWithImage := fun card content filename =>
      Chat.Discord.post (registered world) client address
        (Chat.Discord.imageBody card content filename)
    close := (registered world).closeClient client }
  plain := {
    name := Chat.Service.discord.name
    send := fun card => Chat.Discord.post world client address (Chat.Discord.cardBody card)
    sendWithImage := fun card content filename =>
      Chat.Discord.post world client address (Chat.Discord.imageBody card content filename)
    close := world.closeClient client }
  client := client
  name := rfl
  deliver card image := by
    cases image with
    | none => exact post_quiet world client address _
    | some image => exact post_quiet world client address _
  closeSeen := rfl
  closePlain := rfl

def room (world : World (StateM W)) (session : Chat.Matrix.Session) : Tended world where
  seen := session.channel (registered world)
  plain := session.channel world
  client := session.client
  name := rfl
  deliver card image := by
    cases image with
    | none => exact sendMessage_quiet world session _
    | some image => exact sendImage_quiet world session card image.content image.filename
  closeSeen := rfl
  closePlain := rfl

end Tended

/-! ## The monitor -/

namespace Monitor

variable (world : World (StateM W))

/-- The likeness of a monitor under the register, which notices nothing, and one without it. -/
def unwritten : Likeness (Registered W) (StateM W) where
  Alike _ seen plain := ∀ state, seen.run.run state = unnoticed (plain.run.run state)
  pure _ _ := rfl
  bind := by
    intro α β _ _ seen plain seenNext plainNext first next state
    simp only [ExceptT.run_bind, StateT.run_bind, first state, unnoticed_bind]
    refine congrArg (unnoticed (plain.run.run state) >>= ·) (funext fun ended => ?_)
    rcases ended with ⟨_ | value, state⟩
    · rfl
    · exact next value state

theorem unwritten_perform {seen : Action (Registered W) α} {plain : Action (StateM W) α}
    (quiet : Quiet seen plain) (phases : List Phase) :
    unwritten.Alike phases (Watch.perform seen) (Watch.perform plain) := by
  intro state
  unfold Quiet at quiet
  change (StateT.lift seen.run).run state = unnoticed ((StateT.lift plain.run).run state)
  rw [quiet]
  rfl

theorem unwritten_learning : Learning (unwritten (W := W)) fun _ => True where
  throw _ _ := rfl
  read alike state := alike state state rfl state
  learn _ _ := rfl

theorem deliverAll_quiet (card : Card) (image : Option Chat.Attachment)
    (channels : List (Tended world)) :
    Quiet (Chat.deliverAll (registered world) card image (channels.map (·.seen)))
      (Chat.deliverAll world card image (channels.map (·.plain))) := by
  induction channels with
  | nil => exact .pure []
  | cons channel rest induction =>
      refine (channel.deliver card image).attemptFor.bind fun answer => ?_
      cases answer with
      | ok _ => exact induction
      | error fault =>
          dsimp only
          rw [channel.name]
          exact (Quiet.lift (world.log _)).bind fun _ => induction.bind fun _ => .pure _

/-- The monitor of a station over a world, and the same under the register. -/
def tendedWatcher (client : Http.Client) (access : Imaging.Access)
    (channels : List (Tended world)) (pollInterval : Binary64) :
    Watcher (Registered W) × Watcher (StateM W) :=
  (⟨registered world, .over (registered world) client access, channels.map (·.seen),
      pollInterval⟩,
    ⟨world, .over world client access, channels.map (·.plain), pollInterval⟩)

section

variable (client : Http.Client) (access : Imaging.Access) (channels : List (Tended world))
  (pollInterval : Binary64)

theorem tended_lockstep :
    Lockstep unwritten (tendedWatcher world client access channels pollInterval).1
      (tendedWatcher world client access channels pollInterval).2 where
  channels := by
    simp only [tendedWatcher, List.length_map]
  note _ _ := rfl
  clock _ := rfl
  localTime _ := rfl
  timestamp _ := rfl
  inspect alike state := alike state state
  regate _ _ := rfl
  deal card image :=
    unwritten.andThen
      (unwritten.andThen (unwritten_perform (deliverAll_quiet world card image channels) [])
        fun _ => unwritten.pure PUnit.unit)
      fun _ _ => rfl
  thumbnail index := unwritten_perform (askFor_quiet world client access _ _).attemptFor []

theorem tended_run (limit : Option Nat) :
    unwritten.Alike
      ([.events, .sequence, .images] ++ Watcher.rounds (limit.getD Watcher.endless))
      ((tendedWatcher world client access channels pollInterval).1.run limit)
      ((tendedWatcher world client access channels pollInterval).2.run limit) := by
  have answered {β : Type} (phases : List Phase) (query : Imaging.Query)
      (read : Http.Response → Except Imaging.Fault β) :=
    unwritten_perform (askFor_quiet world client access query read) phases
  have tried {β : Type} (phases : List Phase) (query : Imaging.Query)
      (read : Http.Response → Except Imaging.Fault β) :
      unwritten.Alike phases
        (Watch.perform (Imaging.askFor (registered world) client access query read).attemptImaging)
        (Watch.perform (Imaging.askFor world client access query read).attemptImaging) :=
    unwritten_perform (askFor_quiet world client access query read).attemptFor phases
  have reports := (tended_lockstep world client access channels pollInterval).reports
    (tried [] .mount _) unwritten_learning
    (unwritten.asks_of_alike soundAutofocus_true (tried [] .autofocus _))
  have looks : Looks unwritten (fun _ => True)
      (tendedWatcher world client access channels pollInterval).1
      (tendedWatcher world client access channels pollInterval).2 := {
    sequence := unwritten.asks_of_alike soundSequence_true (tried _ .sequence _)
    events := unwritten.asks_of_alike soundHistory_true (tried _ .events _)
    images := tried _ .images _
    pause := fun _ => rfl }
  exact looks.run reports
    (unwritten.asks_of_alike soundEvents_true (answered _ .events _))
    (answered _ .images _) limit

end

end Monitor

section

open Command Monitor

variable (world : World (StateM W))

theorem watch_quiet (settings : Settings) (channels : List (Tended world)) (limit : Option Nat)
    (client : Http.Client) :
    Quiet
      (watch (registered world) settings (channels.map (·.seen)) limit
        (.over (registered world) client (access settings)))
      (watch world settings (channels.map (·.plain)) limit
        (.over world client (access settings))) := by
  unfold watch
  cases Gate.new? settings.imageCooldown with
  | none => exact .throw _
  | some gate =>
      have ran := tended_run world client (access settings) channels settings.pollInterval limit
        (.fresh gate)
      dsimp only [tendedWatcher] at ran ⊢
      rw [ran]
      refine (Quiet.lift _).bind fun ended => ?_
      rcases ended with ⟨fault | ticks, state⟩
      · cases fault with
        | imaging fault => exact (Quiet.lift (world.log _)).bind fun _ => .pure _
        | _ => exact .throw _
      · exact (present_quiet world _).bind fun _ => .pure _

end

end ObservatoryWatch
