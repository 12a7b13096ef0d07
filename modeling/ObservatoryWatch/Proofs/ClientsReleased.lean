import ObservatoryWatch.Proofs.AcceptedSettings
import ObservatoryWatch.Proofs.ClientRegister
import ObservatoryWatch.Proofs.Running
import ObservatoryWatch.Rehearsal

/-!
Which clients are closed again.

Once its channels are set up, the monitor closes whatever it has opened, however it ends. If a
channel cannot be set up, those before it are closed, but the client of a room is opened before the
login and belongs to no channel yet: nobody closes it.
-/

namespace ObservatoryWatch

variable {W α β : Type}

/-- A channel to a webhook comes first. -/
theorem Settings.channelAccounts_of_mem_discord {settings : Settings} {webhook : String}
    (asked : .discord webhook ∈ settings.channelAccounts) :
    ∃ rest, settings.channelAccounts = .discord webhook :: rest := by
  rw [channelAccounts, List.mem_append, Option.mem_toList, Option.mem_toList] at asked
  rcases asked with discord | matrix
  · exact ⟨settings.matrixAccount?.toList, by rw [channelAccounts, discord]; rfl⟩
  · rcases matrixAccount?_eq_some_iff.mp matrix with ⟨_, _, _, _, _, _, other⟩
    cases other

/-! ## What is written down -/

section

variable {seen : Action (Registered W) α} {plain : Action (StateM W) β}

/-- Under the register the action comes to a like outcome in the same surroundings, and what is
written down fits these outcomes. -/
def Tallies (seen : Action (Registered W) α) (plain : Action (StateM W) β)
    (fits : Except Fault α → Except Fault β → Register → Prop) : Prop :=
  ∀ world register, ∃ outcome entries,
    seen.run.run (world, register) = (outcome, (plain.run.run world).2, register ++ entries) ∧
      fits outcome (plain.run.run world).1 entries

namespace Tallies

variable {fits : Except Fault α → Except Fault β → Register → Prop}

theorem weaken {weaker : Except Fault α → Except Fault β → Register → Prop}
    (tallies : Tallies seen plain fits)
    (implies : ∀ outcome other entries, fits outcome other entries →
      weaker outcome other entries) : Tallies seen plain weaker := by
  intro world register
  rcases tallies world register with ⟨outcome, entries, ran, fit⟩
  exact ⟨outcome, entries, ran, implies outcome _ entries fit⟩

theorem of_value {value : α} {other : β} (fit : fits (.ok value) (.ok other) ∅) :
    Tallies (W := W) (pure value) (pure other) fits :=
  fun _ register => ⟨.ok value, ∅, by rw [Register.append_empty]; rfl, fit⟩

theorem of_fault {fault other : Fault} (fit : fits (.error fault) (.error other) ∅) :
    Tallies (W := W) (throw fault) (throw other) fits :=
  fun _ register => ⟨.error fault, ∅, by rw [Register.append_empty]; rfl, fit⟩

theorem of_result (result : Except Fault α) :
    Tallies (W := W) (ofExcept result) (ofExcept result) fun outcome other entries =>
      outcome = result ∧ other = result ∧ entries = ∅ := by
  cases result with
  | error fault => exact of_fault ⟨rfl, rfl, rfl⟩
  | ok value => exact of_value ⟨rfl, rfl, rfl⟩

theorem of_quiet {seen : Action (Registered W) α} {plain : Action (StateM W) α}
    (quiet : Quiet seen plain) :
    Tallies seen plain fun outcome other entries => outcome = other ∧ entries = ∅ := by
  intro world register
  refine ⟨(plain.run.run world).1, ∅, ?_, rfl, rfl⟩
  rw [Register.append_empty, quiet]
  rfl

theorem bind {γ δ : Type} {seenNext : α → Action (Registered W) γ}
    {plainNext : β → Action (StateM W) δ}
    {fitsThen : Except Fault γ → Except Fault δ → Register → Prop}
    (first : Tallies seen plain fits)
    (next : ∀ outcome other entries, fits outcome other entries →
      Tallies (proceed outcome seenNext) (proceed other plainNext) fun late others more =>
        fitsThen late others (entries ++ more)) :
    Tallies (seen >>= seenNext) (plain >>= plainNext) fitsThen := by
  intro world register
  rcases first world register with ⟨outcome, entries, ran, fit⟩
  rcases next outcome _ entries fit (plain.run.run world).2 (register ++ entries) with
    ⟨late, more, went, fitThen⟩
  refine ⟨late, entries ++ more, ?_, fitThen⟩
  rw [run_bind ran seenNext, went, Register.append_assoc]
  rfl

theorem attempt (tallies : Tallies seen plain fits) :
    Tallies seen.attempt plain.attempt fun outcome other entries =>
      ∃ early others, fits early others entries ∧ outcome = Action.held Fault.failure? early ∧
        other = Action.held Fault.failure? others := by
  intro world register
  rcases tallies world register with ⟨outcome, entries, ran, fit⟩
  exact ⟨Action.held Fault.failure? outcome, entries, run_attemptFor ran _, outcome, _, fit, rfl,
    rfl⟩

/-- Whatever the first action comes to, the second one is done, and what both write down is
there. -/
theorem andFinally {last : Action (Registered W) Unit} {plainLast : Action (StateM W) Unit}
    {lastEntries : Register} (first : Tallies seen plain fits)
    (second : Tallies last plainLast fun outcome other entries =>
      outcome = .ok () ∧ other = .ok () ∧ entries = lastEntries) :
    Tallies (seen.andFinally last) (plain.andFinally plainLast) fun outcome other entries =>
      ∃ early, fits outcome other early ∧ entries = early ++ lastEntries := by
  intro world register
  rcases first world register with ⟨outcome, entries, ran, fit⟩
  rcases second (plain.run.run world).2 (register ++ entries) with
    ⟨_, more, went, rfl, ended, rfl⟩
  have plainRan : plain.run.run world = ((plain.run.run world).1, (plain.run.run world).2) := rfl
  rw [run_andFinally ran went, run_andFinally plainRan (Prod.ext ended rfl), Register.append_assoc]
  exact ⟨outcome, _, rfl, entries, fit, rfl⟩

end Tallies

end

/-! ## Opening and closing -/

/-- What opening a channel comes to, and what is written down about it if a failure has something
else written down after it. -/
inductive ChannelOpened (world : World (StateM W)) (afterFailure : Register) :
    Settings.ChannelAccount → Except Fault (Chat.Channel (Registered W)) →
      Except Fault (Chat.Channel (StateM W)) → Register → Prop where
  | opened (account : Settings.ChannelAccount) (channel : Tended world) :
      ChannelOpened world afterFailure account (.ok channel.seen) (.ok channel.plain)
        (.opening channel.client)
  | misdirected {webhook : String} (wrong : Chat.Discord.isWebhook webhook = false) :
      ChannelOpened world afterFailure (.discord webhook) (.error (.setup .wrongWebhook))
        (.error (.setup .wrongWebhook)) afterFailure
  | stranded (account : Settings.ChannelAccount) (client : Http.Client) {fault : Fault}
      (failure : fault.failure? = some fault) :
      ChannelOpened world afterFailure account (.error fault) (.error fault)
        (.opening client ++ afterFailure)
  | interrupted (account : Settings.ChannelAccount) (client : Http.Client) (message : String) :
      ChannelOpened world afterFailure account (.error (.interrupted message))
        (.error (.interrupted message)) (.opening client)

theorem ChannelOpened.failed {world : World (StateM W)} (account : Settings.ChannelAccount)
    (client : Http.Client) (fault : Fault) :
    ChannelOpened world ∅ account (.error fault) (.error fault) (.opening client) := by
  cases fault with
  | interrupted message => exact .interrupted account client message
  | _ => exact .stranded account client rfl

section

variable (world : World (StateM W))

/-- Something is done that has no result, and this is written down. -/
def Does (seen : Action (Registered W) Unit) (plain : Action (StateM W) Unit)
    (written : Register) : Prop :=
  Tallies seen plain fun outcome other entries =>
    outcome = .ok () ∧ other = .ok () ∧ entries = written

theorem Does.bind {first last : Action (Registered W) Unit}
    {plainFirst plainLast : Action (StateM W) Unit} {early late : Register}
    (done : Does first plainFirst early) (next : Does last plainLast late) :
    Does (first >>= fun _ => last) (plainFirst >>= fun _ => plainLast) (early ++ late) := by
  refine Tallies.bind done fun outcome other entries fit => ?_
  rcases fit with ⟨rfl, rfl, rfl⟩
  exact next.weaken fun _ _ _ ⟨ok, other, written⟩ => ⟨ok, other, congrArg _ written⟩

/-- Something is done before a failure is passed on. -/
theorem Does.beforeFault {seen : Action (Registered W) Unit} {plain : Action (StateM W) Unit}
    {written : Register} {fits : Except Fault α → Except Fault β → Register → Prop} {fault : Fault}
    (done : Does seen plain written) (fit : fits (.error fault) (.error fault) written) :
    Tallies (discard seen >>= fun _ => throw fault) (discard plain >>= fun _ => throw fault)
      fits := by
  have nothing : Does (W := W) (pure ()) (pure ()) ∅ := .of_value ⟨rfl, rfl, rfl⟩
  refine Tallies.bind (done.bind nothing) fun outcome other entries ended => ?_
  rcases ended with ⟨rfl, rfl, rfl⟩
  refine .of_fault ?_
  rw [Register.append_empty, Register.append_empty]
  exact fit

theorem closeClient_does (client : Http.Client) :
    Does ((registered world).closeClient client : Action (Registered W) Unit)
      (world.closeClient client : Action (StateM W) Unit) (.closing client) :=
  fun _ _ => ⟨.ok (), .closing client, rfl, rfl, rfl, rfl⟩

theorem unnoticed_does (action : StateM W Unit) :
    Does (liftM (unnoticed action) : Action (Registered W) Unit)
      (liftM action : Action (StateM W) Unit) ∅ :=
  fun _ register => ⟨.ok (), ∅, by rw [Register.append_empty]; rfl, rfl, rfl, rfl⟩

theorem openClient_tallies (timeout : Binary64) (userAgent : Option String) :
    Tallies ((registered world).openClient timeout userAgent : Action (Registered W) Http.Client)
      (world.openClient timeout userAgent : Action (StateM W) Http.Client)
      fun outcome other entries =>
        ∃ client, outcome = .ok client ∧ other = .ok client ∧ entries = .opening client :=
  fun start _ => ⟨.ok (world.openClient timeout userAgent start).1, _, rfl, _, rfl, rfl, rfl⟩

/-- The clients of these channels are closed. -/
def closings (channels : List (Tended world)) : Register := ⟨[], channels.map (·.client)⟩

theorem closeInOrder_does (channels : List (Tended world)) :
    Does (Chat.closeInOrder (channels.map (·.seen))) (Chat.closeInOrder (channels.map (·.plain)))
      (closings world channels) := by
  induction channels with
  | nil => exact Tallies.of_value ⟨rfl, rfl, rfl⟩
  | cons channel rest induction =>
      have closed := closeClient_does world channel.client
      rw [List.map_cons, List.map_cons, Chat.closeInOrder, Chat.closeInOrder, channel.closeSeen,
        channel.closePlain]
      exact closed.bind induction

theorem closeAll_does (channels : List (Tended world)) :
    Does (Chat.closeAll (registered world) (channels.map (·.seen)))
      (Chat.closeAll world (channels.map (·.plain))) (closings world channels) := by
  induction channels with
  | nil => exact Tallies.of_value ⟨rfl, rfl, rfl⟩
  | cons channel rest induction =>
      have closed := (closeClient_does world channel.client).attempt
      rw [List.map_cons, List.map_cons, Chat.closeAll, Chat.closeAll, channel.closeSeen,
        channel.closePlain]
      refine closed.bind fun outcome other entries fit => ?_
      rcases fit with ⟨_, _, ⟨rfl, rfl, rfl⟩, rfl, rfl⟩
      exact Tallies.weaken induction fun _ _ _ ⟨ok, other, written⟩ =>
        ⟨ok, other, congrArg _ written⟩

theorem openChannel_tallies (timeout : Binary64) (account : Settings.ChannelAccount) :
    Tallies (Chat.openChannel (registered world) timeout account)
      (Chat.openChannel world timeout account) (ChannelOpened world ∅ account) := by
  cases account with
  | discord webhook =>
      change Tallies (Chat.Discord.openChannel (registered world) timeout webhook)
        (Chat.Discord.openChannel world timeout webhook) _
      unfold Chat.Discord.openChannel
      cases right : Chat.Discord.isWebhook webhook with
      | false => exact .of_fault (.misdirected right)
      | true =>
          refine (openClient_tallies world timeout none).bind fun outcome other entries fit => ?_
          rcases fit with ⟨client, rfl, rfl, rfl⟩
          exact .of_value (.opened _ (.webhook world client webhook))
  | matrix account =>
      change Tallies (Chat.Matrix.openChannel (registered world) timeout account)
        (Chat.Matrix.openChannel world timeout account) _
      unfold Chat.Matrix.openChannel
      refine (openClient_tallies world timeout none).bind fun outcome other entries fit => ?_
      rcases fit with ⟨client, rfl, rfl, rfl⟩
      refine (Tallies.of_quiet (login_quiet world client account)).bind
        fun outcome other entries fit => ?_
      rcases fit with ⟨rfl, rfl⟩
      cases outcome with
      | error fault => exact .of_fault (.failed (.matrix account) client fault)
      | ok token =>
          refine (Tallies.of_result _).bind fun outcome other entries fit => ?_
          rcases fit with ⟨rfl, rfl, rfl⟩
          cases started : Chat.Matrix.Session.start client account token with
          | error fault => exact .of_fault (.failed (.matrix account) client (.request fault))
          | ok session =>
              have same : session.client = client := (Chat.Matrix.Session.start_eq_ok.mp started).1
              refine (Tallies.of_quiet (join_quiet world session)).bind
                fun outcome other entries fit => ?_
              rcases fit with ⟨rfl, rfl⟩
              subst same
              cases outcome with
              | error fault => exact .of_fault (.failed (.matrix account) _ fault)
              | ok _ => exact .of_value (.opened _ (.room world session))

/-- If a channel cannot be opened, the others are closed, unless this was an interruption. -/
theorem openTidily_tallies (timeout : Binary64) (before : List (Tended world))
    (account : Settings.ChannelAccount) :
    Tallies
      ((Chat.openChannel (registered world) timeout account).orElseFirst
        (Chat.closeInOrder (before.map (·.seen))))
      ((Chat.openChannel world timeout account).orElseFirst
        (Chat.closeInOrder (before.map (·.plain))))
      (ChannelOpened world (closings world before) account) := by
  have closed := closeInOrder_does world before
  have opened := (openChannel_tallies world timeout account).attempt
  refine opened.bind fun outcome other entries fit => ?_
  rcases fit with ⟨_, _, fit, rfl, rfl⟩
  cases fit with
  | opened account channel => exact .of_value (.opened account channel)
  | misdirected wrong => exact closed.beforeFault (.misdirected wrong)
  | stranded account client failure =>
      -- The client is not among those of the channels before, so it stays open.
      simp only [Action.held, failure]
      exact closed.beforeFault (.stranded account client failure)
  | interrupted account client message => exact .of_fault (.interrupted account client message)

/-- What opening several channels after others comes to, and what is written down about it. -/
inductive SetUp (world : World (StateM W)) (before : List (Tended world))
    (accounts : List Settings.ChannelAccount) :
    Except Fault (List (Chat.Channel (Registered W))) →
      Except Fault (List (Chat.Channel (StateM W))) → Register → Prop where
  | ready (more : List (Tended world)) (all : more.length = accounts.length) :
      SetUp world before accounts (.ok ((before ++ more).map (·.seen)))
        (.ok ((before ++ more).map (·.plain))) ⟨more.map (·.client), []⟩
  | misdirected (more : List (Tended world)) {webhook : String}
      (asked : .discord webhook ∈ accounts) (wrong : Chat.Discord.isWebhook webhook = false) :
      SetUp world before accounts (.error (.setup .wrongWebhook)) (.error (.setup .wrongWebhook))
        ⟨more.map (·.client), (before ++ more).map (·.client)⟩
  | stranded (more : List (Tended world)) (client : Http.Client) {fault : Fault}
      (failure : fault.failure? = some fault) :
      SetUp world before accounts (.error fault) (.error fault)
        ⟨more.map (·.client) ++ [client], (before ++ more).map (·.client)⟩
  | interrupted (more : List (Tended world)) (client : Http.Client) (message : String) :
      SetUp world before accounts (.error (.interrupted message)) (.error (.interrupted message))
        ⟨more.map (·.client) ++ [client], []⟩

theorem SetUp.next {before : List (Tended world)} {account : Settings.ChannelAccount}
    {rest : List Settings.ChannelAccount} {outcome : Except Fault (List (Chat.Channel _))}
    {other : Except Fault (List (Chat.Channel _))} {entries : Register} (channel : Tended world)
    (later : SetUp world (before ++ [channel]) rest outcome other entries) :
    SetUp world before (account :: rest) outcome other
      (.opening channel.client ++ entries) := by
  have moved : ∀ more : List (Tended world),
      before ++ [channel] ++ more = before ++ channel :: more := by simp
  cases later with
  | ready more all =>
      rw [moved]
      exact .ready (channel :: more) (by simp [all])
  | misdirected more asked wrong =>
      rw [moved]
      exact .misdirected (channel :: more) (List.mem_cons_of_mem _ asked) wrong
  | stranded more client failure =>
      rw [moved]
      exact .stranded (channel :: more) client failure
  | interrupted more client message => exact .interrupted (channel :: more) client message

/-- If the first of several channels cannot be opened, the others are not tried. -/
theorem ChannelOpened.setUp {before : List (Tended world)} {account : Settings.ChannelAccount}
    {rest : List Settings.ChannelAccount} {fault other : Fault} {entries : Register}
    (failed : ChannelOpened world (closings world before) account (.error fault) (.error other)
      entries) :
    SetUp world before (account :: rest) (.error fault) (.error other) entries := by
  have all : before ++ [] = before := List.append_nil before
  cases failed with
  | @misdirected webhook wrong =>
      have setUp : SetUp world before (.discord webhook :: rest) _ _ _ :=
        .misdirected [] (List.mem_cons_self ..) wrong
      rw [all] at setUp
      exact setUp
  | stranded account client failure =>
      have setUp : SetUp world before (account :: rest) _ _ _ := .stranded [] client failure
      rw [all] at setUp
      exact setUp
  | interrupted account client message => exact .interrupted [] client message

theorem openFrom_tallies (timeout : Binary64) (accounts : List Settings.ChannelAccount)
    (before : List (Tended world)) :
    Tallies (Chat.openFrom (registered world) timeout (before.map (·.seen)) accounts)
      (Chat.openFrom world timeout (before.map (·.plain)) accounts)
      (SetUp world before accounts) := by
  induction accounts generalizing before with
  | nil =>
      have none : SetUp world before [] _ _ _ := .ready [] rfl
      rw [List.append_nil] at none
      exact .of_value none
  | cons account rest induction =>
      unfold Chat.openFrom
      refine (openTidily_tallies world timeout before account).bind
        fun outcome other entries fit => ?_
      rcases outcome with fault | seen <;> rcases other with other | plain
      · refine .of_fault ?_
        rw [Register.append_empty]
        exact fit.setUp world
      · cases fit
      · cases fit
      · cases fit with
        | opened account channel =>
            have later := induction (before ++ [channel])
            rw [List.map_append, List.map_append] at later
            exact later.weaken fun _ _ _ setUp => setUp.next world channel

theorem readyNotice_tended (channels : List (Tended world)) :
    Chat.readyNotice (channels.map (·.seen)) = Chat.readyNotice (channels.map (·.plain)) := by
  have names : (channels.map (·.seen)).map (·.name) = (channels.map (·.plain)).map (·.name) := by
    rw [List.map_map, List.map_map]
    exact List.map_congr_left fun channel _ => channel.name
  rw [Chat.readyNotice, Chat.readyNotice, names, List.isEmpty_map, List.isEmpty_map]

theorem openAll_tallies (settings : Settings) :
    Tallies (Chat.openAll (registered world) settings) (Chat.openAll world settings)
      (SetUp world [] settings.channelAccounts) := by
  refine (openFrom_tallies world settings.timeout settings.channelAccounts []).bind
    fun outcome other entries setUp => ?_
  have failed : ∀ {fault}, SetUp world [] settings.channelAccounts (.error fault) (.error fault)
      entries → SetUp world [] settings.channelAccounts (.error fault) (.error fault)
        (entries ++ ∅) := by
    intro fault setUp
    rw [Register.append_empty]
    exact setUp
  cases setUp with
  | ready more all =>
      have noted : Does
          ((registered world).log (Chat.readyNotice (more.map (·.seen))) :
            Action (Registered W) Unit)
          (world.log (Chat.readyNotice (more.map (·.plain))) : Action (StateM W) Unit) ∅ := by
        rw [readyNotice_tended]
        exact unnoticed_does _
      refine Tallies.bind noted fun outcome other entries fit => ?_
      rcases fit with ⟨rfl, rfl, rfl⟩
      refine .of_value ?_
      rw [Register.append_empty, Register.append_empty]
      exact .ready more all
  | misdirected more asked wrong => exact .of_fault (failed (.misdirected more asked wrong))
  | stranded more client failure => exact .of_fault (failed (.stranded more client failure))
  | interrupted more client message => exact .of_fault (failed (.interrupted more client message))

end

/-! ## The whole run -/

section

open Command

variable (world : World (StateM W))

theorem withStation_tallies (settings : Settings)
    {seen : Imaging.Station (Registered W) → Action (Registered W) α}
    {plain : Imaging.Station (StateM W) → Action (StateM W) α}
    (quiet : ∀ client, Quiet (seen (.over (registered world) client (access settings)))
      (plain (.over world client (access settings)))) :
    Tallies (withStation (registered world) settings seen) (withStation world settings plain)
      fun outcome other entries =>
        outcome = other ∧ ∃ client, entries = .opening client ++ .closing client := by
  refine (openClient_tallies world (access settings).timeout
    (some Imaging.Access.userAgent)).bind fun outcome other entries fit => ?_
  rcases fit with ⟨client, rfl, rfl, rfl⟩
  have closed := closeClient_does world client
  refine ((Tallies.of_quiet (quiet client)).andFinally closed).weaken
    fun outcome other entries fit => ?_
  rcases fit with ⟨_, ⟨rfl, rfl⟩, rfl⟩
  exact ⟨rfl, client, rfl⟩

theorem run_untilInterrupted (action : Action (StateM W) Ending) (before : W) :
    (untilInterrupted world action).run.run before =
      match action.run.run before with
      | (.error (.interrupted _), after) =>
        (.ok .done, (world.log (.info "Interrupted; shutting down monitor") after).2)
      | ended => ended := by
  unfold untilInterrupted
  change (action.run >>= _ : StateM W _).run before = _
  rw [StateT.run_bind]
  generalize action.run.run before = ended
  rcases ended with ⟨fault | ending, after⟩
  · cases fault <;> rfl
  · rfl

theorem untilInterrupted_tallies {seen : Action (Registered W) Ending}
    {plain : Action (StateM W) Ending} {holds : Register → Prop}
    (tallies : Tallies seen plain fun outcome other entries => outcome = other ∧ holds entries) :
    Tallies (untilInterrupted (registered world) seen) (untilInterrupted world plain)
      fun outcome other entries => outcome = other ∧ holds entries := by
  intro start register
  rcases tallies start register with ⟨outcome, entries, ran, same, held⟩
  rw [run_untilInterrupted, run_untilInterrupted, ran]
  generalize plain.run.run start = ended at same ⊢
  rcases ended with ⟨other, after⟩
  obtain rfl : outcome = other := same
  rcases outcome with fault | ending
  · cases fault with
    | interrupted message => exact ⟨_, entries, rfl, rfl, held⟩
    | _ => exact ⟨_, entries, rfl, rfl, held⟩
  · exact ⟨_, entries, rfl, rfl, held⟩

/-- How the monitor ends if the channels could not be set up. -/
def withoutChannels {m : Type → Type} [Monad m] (world : World m) (fault : Fault) :
    Action m Ending :=
  match fault.setup? with
  | some fault => do
    world.log (.error ("Chat channel setup failed (" ++ fault.service.name ++ "): " ++
      fault.message))
    return .noChannels
  | none => throw fault

theorem withoutChannels_quiet (fault : Fault) :
    Quiet (withoutChannels (registered world) fault) (withoutChannels world fault) := by
  unfold withoutChannels
  cases fault.setup? with
  | some fault => exact (Quiet.lift (world.log _)).bind fun _ => .pure _
  | none => exact .throw fault

section

variable {settings : Settings} {world : World (StateM W)} {before after : W}

theorem withChannels_of_ok {channels : List (Chat.Channel (StateM W))}
    (opened : (Chat.openAll world settings).run.run before = (.ok channels, after))
    (use : List (Chat.Channel (StateM W)) → Action (StateM W) Ending) :
    (withChannels world settings use).run.run before =
      ((use channels).andFinally (Chat.closeAll world channels)).run.run after := by
  rw [withChannels, run_bind (run_attemptFor opened Fault.setup?)]
  rfl

theorem withChannels_of_error {fault : Fault}
    (failed : (Chat.openAll world settings).run.run before = (.error fault, after))
    (use : List (Chat.Channel (StateM W)) → Action (StateM W) Ending) :
    (withChannels world settings use).run.run before =
      (withoutChannels world fault).run.run after := by
  rw [withChannels, run_bind (run_attemptFor failed Fault.setup?), withoutChannels]
  cases chosen : fault.setup? with
  | some fault =>
      simp only [Action.held, chosen]
      rfl
  | none =>
      simp only [Action.held, chosen]
      rfl

end

/-! ## The balance of a run -/

/-- The settings ask for a webhook at an address that is none. -/
def Misdirected (settings : Settings) : Prop :=
  ∃ webhook, .discord webhook ∈ settings.channelAccounts ∧
    Chat.Discord.isWebhook webhook = false

/-- What setting up the channels comes to when the monitor is run. -/
def setUpOutcome (world : World (StateM W)) (settings : Settings) (start : W) :
    Except Fault (List (Chat.Channel (StateM W))) :=
  ((Chat.openAll world settings).run.run (world.log (.info (startNotice settings)) start).2).1

theorem openAll_misdirected {settings : Settings} (misdirected : Misdirected settings)
    (world : World (StateM W)) (before : W) :
    (Chat.openAll world settings).run.run before = (.error (.setup .wrongWebhook), before) := by
  rcases misdirected with ⟨webhook, asked, wrong⟩
  rcases Settings.channelAccounts_of_mem_discord asked with ⟨rest, accounts⟩
  have refused : Chat.openChannel world settings.timeout (.discord webhook) =
      throw (.setup .wrongWebhook) := by
    change Chat.Discord.openChannel world settings.timeout webhook = _
    rw [Chat.Discord.openChannel, wrong]
    rfl
  rw [Chat.openAll, accounts, Chat.openFrom, refused]
  rfl

/-- What the register shows after a run, by what setting up the channels has come to. -/
inductive Balance (settings : Settings) :
    Except Fault (List (Chat.Channel (StateM W))) → Register → Prop where
  | released {channels : List (Chat.Channel (StateM W))} {register : Register}
      (released : register.Released)
      (all : register.opened.length = settings.channelAccounts.length + 1) :
      Balance settings (.ok channels) register
  | misdirected {register : Register} (released : register.Released)
      (misdirected : Misdirected settings) :
      Balance settings (.error (.setup .wrongWebhook)) register
  | stranded (right : ¬ Misdirected settings) {fault : Fault} (clients : List Http.Client)
      (client : Http.Client) (failure : fault.failure? = some fault) :
      Balance settings (.error fault) ⟨clients ++ [client], clients⟩
  | interrupted (right : ¬ Misdirected settings) (message : String) (clients : List Http.Client)
      (client : Http.Client) :
      Balance settings (.error (.interrupted message)) ⟨clients ++ [client], []⟩

theorem Register.not_released_of_more (opened closed : List Http.Client) (client : Http.Client)
    (fewer : closed.length ≤ opened.length) :
    ¬ Register.Released ⟨opened ++ [client], closed⟩ := by
  intro released
  have same : closed.length = (opened ++ [client]).length := released.length_eq
  rw [List.length_append, List.length_singleton] at same
  omega

theorem runMonitor_of_not_passes {interval : Option Binary64} {maxCycles : Option Int}
    (refused : ¬ Passes interval maxCycles) :
    ∃ message, ∀ {m : Type → Type} [Monad m] (world : World m) (settings : Settings),
      runMonitor world settings interval maxCycles = refuse world message := by
  unfold Passes at refused
  cases early : interval.any (·.isAtMost 0) with
  | true => exact ⟨_, fun world settings => by rw [runMonitor, early]; rfl⟩
  | false =>
      rw [early] at refused
      have late : maxCycles.any (· ≤ 0) = true := by simpa using refused
      exact ⟨_, fun world settings => by rw [runMonitor, early, late]; rfl⟩

theorem run_monitorUnder (world : World (StateM W)) (settings : Settings) (maxCycles : Option Int)
    (start : W) :
    (monitorUnder world settings maxCycles).run.run start =
      (withChannels world settings fun channels =>
        untilInterrupted world (withStation world settings
          (watch world settings channels (maxCycles.map Int.toNat)))).run.run
        (world.log (.info (startNotice settings)) start).2 := rfl

theorem monitorUnder_balance (world : World (StateM W)) (settings : Settings)
    (maxCycles : Option Int) (start : W) :
    ∃ register,
      (monitorUnder (registered world) settings maxCycles).run.run (start, ∅) =
        (((monitorUnder world settings maxCycles).run.run start).1,
          ((monitorUnder world settings maxCycles).run.run start).2, register) ∧
      Balance settings (setUpOutcome world settings start) register := by
  rw [run_monitorUnder, run_monitorUnder, setUpOutcome]
  have seenNoticed : ((registered world).log (.info (startNotice settings)) (start, ∅)).2 =
      ((world.log (.info (startNotice settings)) start).2, ∅) := rfl
  rw [seenNoticed]
  generalize (world.log (.info (startNotice settings)) start).2 = noticed
  by_cases misdirected : Misdirected settings
  · have ran := openAll_misdirected misdirected (registered world) (noticed, ∅)
    have plainRan := openAll_misdirected misdirected world noticed
    rw [withChannels_of_error ran, withChannels_of_error plainRan, withoutChannels_quiet, plainRan]
    exact ⟨∅, rfl, .misdirected (List.Perm.refl _) misdirected⟩
  rcases openAll_tallies world settings noticed ∅ with ⟨outcome, entries, ran, setUp⟩
  rw [Register.empty_append] at ran
  generalize plainRan : (Chat.openAll world settings).run.run noticed = opened at ran setUp
  rcases opened with ⟨other, after⟩
  cases setUp with
  | ready more all =>
      rw [withChannels_of_ok ran, withChannels_of_ok plainRan]
      have used := withStation_tallies world settings fun client =>
        watch_quiet world settings more (maxCycles.map Int.toNat) client
      rcases (untilInterrupted_tallies world used).andFinally (closeAll_does world more) after
        ⟨more.map (·.client), []⟩ with ⟨ending, _, went, _, ⟨rfl, client, rfl⟩, rfl⟩
      refine ⟨_, went, .released ?_ ?_⟩
      · exact (List.perm_append_singleton client (more.map (·.client))).symm
      · simp [Register.opening, Register.closing, closings, all]
  | misdirected more asked wrong => exact absurd ⟨_, asked, wrong⟩ misdirected
  | stranded more client failure =>
      rw [withChannels_of_error ran, withChannels_of_error plainRan, withoutChannels_quiet]
      exact ⟨_, rfl, .stranded misdirected (more.map (·.client)) client failure⟩
  | interrupted more client message =>
      rw [withChannels_of_error ran, withChannels_of_error plainRan, withoutChannels_quiet]
      exact ⟨_, rfl, .interrupted misdirected message (more.map (·.client)) client⟩

namespace Balance

variable {settings : Settings} {outcome : Except Fault (List (Chat.Channel (StateM W)))}
  {register : Register} (balance : Balance settings outcome register)
include balance

theorem released_iff :
    register.Released ↔ Misdirected settings ∨ ∃ channels, outcome = .ok channels := by
  cases balance with
  | released released all => exact ⟨fun _ => .inr ⟨_, rfl⟩, fun _ => released⟩
  | misdirected released misdirected => exact ⟨fun _ => .inl misdirected, fun _ => released⟩
  | stranded right clients client failure =>
      have kept := Register.not_released_of_more clients clients client (Nat.le_refl _)
      refine ⟨(absurd · kept), ?_⟩
      rintro (misdirected | ⟨_, ⟨⟩⟩)
      exact absurd misdirected right
  | interrupted right message clients client =>
      have kept := Register.not_released_of_more clients [] client (Nat.zero_le _)
      refine ⟨(absurd · kept), ?_⟩
      rintro (misdirected | ⟨_, ⟨⟩⟩)
      exact absurd misdirected right

theorem opened_length {channels : List (Chat.Channel (StateM W))} (setUp : outcome = .ok channels) :
    register.opened.length = settings.channelAccounts.length + 1 := by
  cases balance with
  | released released all => exact all
  | _ => cases setUp

/-- If not all is released and there was no interruption, one client is left. -/
theorem last_left_open (left : ¬ register.Released)
    (uninterrupted : ∀ message, outcome ≠ .error (.interrupted message)) :
    ∃ client, register.opened = register.closed ++ [client] := by
  cases balance with
  | released released all => exact absurd released left
  | misdirected released misdirected => exact absurd released left
  | stranded right clients client failure => exact ⟨client, rfl⟩
  | interrupted right message clients client => exact absurd rfl (uninterrupted message)

end Balance

/-- The monitor releases each client that it has opened exactly if it refuses to start, has no
webhook's address where it needs one, or gets its channels set up. If it does not and is not
interrupted, the client that was opened last is left open, and all others are released. -/
theorem clients_released_iff_channels_set_up (world : World (StateM W)) (settings : Settings)
    (interval : Option Binary64) (maxCycles : Option Int) (start : W) :
    ∃ register,
      (runMonitor (registered world) settings interval maxCycles).run.run (start, ∅) =
          (((runMonitor world settings interval maxCycles).run.run start).1,
            ((runMonitor world settings interval maxCycles).run.run start).2, register) ∧
        (register.Released ↔ ¬ Passes interval maxCycles ∨ Misdirected settings ∨
          ∃ channels, setUpOutcome world (withInterval settings interval) start = .ok channels) ∧
        (Passes interval maxCycles → ∀ channels,
          setUpOutcome world (withInterval settings interval) start = .ok channels →
            register.opened.length = settings.channelAccounts.length + 1) ∧
        (¬ register.Released →
          (∀ message, setUpOutcome world (withInterval settings interval) start ≠
              .error (.interrupted message)) →
            ∃ client, register.opened = register.closed ++ [client]) := by
  by_cases passes : Passes interval maxCycles
  · rw [runMonitor_of_passes passes, runMonitor_of_passes passes]
    rcases monitorUnder_balance world (withInterval settings interval) maxCycles start with
      ⟨register, ran, balance⟩
    have started : ¬ ¬ Passes interval maxCycles := not_not_intro passes
    exact ⟨register, ran, balance.released_iff.trans (or_iff_right started).symm,
      fun _ _ setUp => balance.opened_length setUp, balance.last_left_open⟩
  · have released : Register.Released ∅ := List.Perm.refl _
    rcases runMonitor_of_not_passes passes with ⟨message, refused⟩
    rw [refused, refused]
    exact ⟨∅, rfl, ⟨fun _ => .inl passes, fun _ => released⟩, (absurd · passes),
      (absurd released ·)⟩

/-! ## A refused login -/

/-- Settings with an account of a room. -/
def roomSettings : Settings :=
  ⟨"http://127.0.0.1", .ofNat 30, 0, .ofNat 5, .ofNat 60, false, none, true,
    some "https://matrix.example.org", some "bot", some "hunter2", some "!room:example.org",
    "info"⟩

/-- In a world where every request is refused, the client of the room is left open. -/
theorem client_left_open_by_refused_login :
    ¬ Register.Released
      ((runMonitor (registered Rehearsal.world) roomSettings none (some 1)).run.run
        (.new .first, ∅)).2.2 := by
  intro released
  have lengths : (((runMonitor (registered Rehearsal.world) roomSettings none (some 1)).run.run
      (.new .first, ∅)).2.2.closed.length,
    ((runMonitor (registered Rehearsal.world) roomSettings none (some 1)).run.run
      (.new .first, ∅)).2.2.opened.length) = (0, 1) := by decide +kernel
  have same := released.length_eq
  rw [Prod.mk.injEq] at lengths
  omega

end

end ObservatoryWatch
