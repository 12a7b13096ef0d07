import ObservatoryWatch.Command.Execution
import ObservatoryWatch.Proofs.Rounding
import ObservatoryWatch.Proofs.Validity

/-!
What settings that are accepted are known to keep.

Settings are first read one by one and then held against the rules. A rule names what breaks it, so
a bound of a double precision number is kept by every number on its right side and by not-a-number
as well, which is on no side. All other promises hold of everything that is accepted.
-/

namespace ObservatoryWatch

open Number Payload Payload.Checked Text

/-! ## Comparisons that fail -/

namespace Binary64

variable {left right : Binary64}

theorem rank?_eq_none_iff : left.rank? = none ↔ left = .nan := by
  cases left with
  | nan => exact ⟨fun _ => rfl, fun _ => rfl⟩
  | infinite negative => exact ⟨nofun, nofun⟩
  | finite negative units representable => exact ⟨nofun, nofun⟩

theorem isLess_iff :
    left.isLess right = true ↔
      ∃ leftRank rightRank, left.rank? = some leftRank ∧ right.rank? = some rightRank ∧
        leftRank < rightRank := by
  unfold isLess compareWith
  cases left.rank? <;> cases right.rank? <;> simp

/-- Of two numbers one is at most the other one or above it, unless one of them is no number. -/
theorem isAtMost_eq_false_iff :
    left.isAtMost right = false ↔ left = .nan ∨ right = .nan ∨ right.isLess left = true := by
  rw [← Bool.not_eq_true, isAtMost_iff, isLess_iff, ← rank?_eq_none_iff, ← rank?_eq_none_iff]
  cases left.rank? <;> cases right.rank? <;> simp

theorem isLess_eq_false_iff :
    left.isLess right = false ↔ left = .nan ∨ right = .nan ∨ right.isAtMost left = true := by
  rw [← Bool.not_eq_true, isAtMost_iff, isLess_iff, ← rank?_eq_none_iff, ← rank?_eq_none_iff]
  cases left.rank? <;> cases right.rank? <;> simp

/-- What is not above a number is at most that number, if it is a number at all. -/
theorem isAtMost_iff_ne_nan_of_not_above (limited : right ≠ .nan)
    (notAbove : right.isLess left = false) : left.isAtMost right = true ↔ left ≠ .nan := by
  constructor
  · rintro atMost rfl
    cases atMost
  · intro number
    rcases isLess_eq_false_iff.mp notAbove with none | none | atMost
    · exact absurd none limited
    · exact absurd none number
    · exact atMost

/-- What is not below a number is at least that number, if it is a number at all. -/
theorem isAtMost_iff_ne_nan_of_not_below (limited : right ≠ .nan)
    (notBelow : left.isLess right = false) : right.isAtMost left = true ↔ left ≠ .nan := by
  constructor
  · rintro atMost rfl
    cases right <;> cases atMost
  · intro number
    rcases isLess_eq_false_iff.mp notBelow with none | none | atMost
    · exact absurd none number
    · exact absurd none limited
    · exact atMost

/-- What is not at most a number is above that number, if it is a number at all. -/
theorem isLess_iff_ne_nan_of_not_isAtMost (limited : right ≠ .nan)
    (exceeds : left.isAtMost right = false) : right.isLess left = true ↔ left ≠ .nan := by
  constructor
  · rintro above rfl
    cases right <;> cases above
  · intro number
    rcases isAtMost_eq_false_iff.mp exceeds with none | none | above
    · exact absurd none number
    · exact absurd none limited
    · exact above

theorem ofNat_ne_nan (number : Nat) : ofNat number ≠ .nan := by
  intro same
  unfold ofNat ofRatio at same
  split at same <;> cases same

end Binary64

namespace Settings

/-! ## Credentials -/

/-- All that a chat service is told in confidence. -/
def credentials (settings : Settings) : List (Option String) :=
  settings.discordWebhook :: settings.matrixCredentials

/-- A text in which something is to be seen. -/
def SaysSomething (text : String) : Prop := ∃ character ∈ text.toList, isBlank character = false

theorem saysSomething_ragged (text : Text.Ragged) : SaysSomething text.shown := by
  rcases List.any_eq_true.mp text.isRagged with ⟨point, member, lone⟩
  cases point with
  | char _ => cases lone
  | lone surrogate =>
      have visible : isBlank '\uFFFD' = false := by decide
      refine ⟨(Text.CodePoint.lone surrogate).shown, ?_, visible⟩
      rw [Text.Ragged.shown, String.toList_ofList]
      exact List.mem_map_of_mem member

theorem saysSomething_of_credential {given : Json} {word : String}
    (read : credential given = valid (some word)) : SaysSomething word := by
  cases given with
  | string text =>
      rw [credential] at read
      split at read
      next => cases read
      next seen =>
        cases read
        simpa [SaysSomething] using seen
  | null => cases read
  | ragged text =>
      cases read
      exact saysSomething_ragged text
  | _ => cases read

theorem saysSomething_of_setting {name word : String} {members : Json.Members}
    (read : setting name none credential members = valid (some word)) : SaysSomething word := by
  rcases Field.optional_eq_valid_iff.mp read with ⟨_, absent⟩ | ⟨given, _, decoded⟩
  · cases absent
  · exact saysSomething_of_credential decoded

/-- Every credential of some settings is what was read under its name. -/
structure CredentialsRead (members : Json.Members) (settings : Settings) : Prop where
  discordWebhook : setting discordWebhookName none credential members =
    valid settings.discordWebhook
  matrixHomeserver : setting matrixHomeserverName none credential members =
    valid settings.matrixHomeserver
  matrixUsername : setting matrixUsernameName none credential members =
    valid settings.matrixUsername
  matrixPassword : setting matrixPasswordName none credential members =
    valid settings.matrixPassword
  matrixRoom : setting matrixRoomName none credential members = valid settings.matrixRoom

theorem credentialsRead_of_read {members : Json.Members} {settings : Settings}
    (found : read members = valid settings) : CredentialsRead members settings := by
  simp only [read, Checked.seq_eq_valid_iff, Checked.map_eq_valid_iff] at found
  -- One after the other, from the last name to the first.
  rcases found with ⟨_, found, _, _, rfl⟩
  rcases found with ⟨_, found, _, room, rfl⟩
  rcases found with ⟨_, found, _, password, rfl⟩
  rcases found with ⟨_, found, _, username, rfl⟩
  rcases found with ⟨_, found, _, homeserver, rfl⟩
  rcases found with ⟨_, found, _, _, rfl⟩
  rcases found with ⟨_, found, _, webhook, rfl⟩
  rcases found with ⟨_, ⟨_, ⟨_, ⟨_, ⟨_, ⟨_, _, rfl⟩, _, _, rfl⟩, _, _, rfl⟩, _, _, rfl⟩, _, _,
    rfl⟩, _, _, rfl⟩
  exact ⟨webhook, homeserver, username, password, room⟩

theorem CredentialsRead.saysSomething {members : Json.Members} {settings : Settings}
    (found : CredentialsRead members settings) {word : String}
    (given : some word ∈ settings.credentials) : SaysSomething word := by
  simp only [credentials, matrixCredentials, List.mem_cons, List.not_mem_nil, or_false] at given
  rcases given with webhook | homeserver | username | password | room
  · exact saysSomething_of_setting (webhook ▸ found.discordWebhook)
  · exact saysSomething_of_setting (homeserver ▸ found.matrixHomeserver)
  · exact saysSomething_of_setting (username ▸ found.matrixUsername)
  · exact saysSomething_of_setting (password ▸ found.matrixPassword)
  · exact saysSomething_of_setting (room ▸ found.matrixRoom)

/-! ## Rules -/

theorem keepRules_eq_valid_iff {settings kept : Settings} :
    keepRules settings = valid kept ↔
      kept = settings ∧ ∀ rule ∈ rules, rule.isBroken settings = false := by
  unfold keepRules
  split
  next rule found =>
    refine ⟨nofun, fun all => ?_⟩
    have broken := List.find?_some found
    rw [all.2 rule (List.mem_of_find?_eq_some found)] at broken
    cases broken
  next none =>
    have unbroken : ∀ rule ∈ rules, rule.isBroken settings = false := by
      simpa [List.find?_eq_none] using none
    constructor
    · intro same
      cases same
      exact ⟨rfl, unbroken⟩
    · rintro ⟨rfl, _⟩
      rfl

/-- The rules, as far as they are about other things than double precision numbers. -/
structure Orderly (settings : Settings) : Prop where
  retries : 0 ≤ settings.retries ∧ settings.retries ≤ 10
  host : startsWith settings.host "http://" = true ∨ startsWith settings.host "https://" = true
  matrix : (∀ credential ∈ settings.matrixCredentials, credential ≠ none) ∨
    ∀ credential ∈ settings.matrixCredentials, credential = none

/-- Bounds of double precision numbers; not-a-number breaks none of them. -/
structure Unbroken (settings : Settings) : Prop where
  timeout_pos : settings.timeout.isAtMost 0 = false
  timeout_le : Binary64.isLess (.ofNat 300) settings.timeout = false
  pollInterval_pos : settings.pollInterval.isAtMost 0 = false
  imageCooldown_nonneg : settings.imageCooldown.isLess 0 = false

theorem ne_empty_of_startsWith {text start : String} (some : start ≠ "")
    (starts : startsWith text start = true) : text ≠ "" := by
  rintro rfl
  rw [startsWith, String.toList_empty, List.isPrefixOf_iff_prefix, List.prefix_nil,
    String.toList_eq_nil_iff] at starts
  exact some starts

/-- The four go together: none of them is missing, or all are. -/
theorem together_iff (given : List (Option String)) :
    (given.any (·.isSome) = true → given.all (·.isSome) = true) ↔
      (∀ credential ∈ given, credential ≠ none) ∨ ∀ credential ∈ given, credential = none := by
  rw [List.any_eq_true, List.all_eq_true]
  constructor
  · intro together
    by_cases some : ∃ credential ∈ given, credential.isSome = true
    · exact .inl fun credential member => Option.isSome_iff_ne_none.mp (together some _ member)
    · refine .inr fun credential member => ?_
      by_contra missing
      exact some ⟨credential, member, Option.isSome_iff_ne_none.mpr missing⟩
  · rintro (all | none) ⟨credential, member, some⟩
    · exact fun other otherMember => Option.isSome_iff_ne_none.mpr (all other otherMember)
    · rw [none credential member] at some
      cases some

theorem kept_iff {settings : Settings} :
    (∀ rule ∈ rules, rule.isBroken settings = false) ↔
      settings.Orderly ∧ settings.Unbroken := by
  have kept : (∀ rule ∈ rules, rule.isBroken settings = false) ↔
      settings.host.isEmpty = false ∧
        (startsWith settings.host "http://" = true ∨ startsWith settings.host "https://" = true) ∧
        settings.timeout.isAtMost 0 = false ∧
        Binary64.isLess (.ofNat 300) settings.timeout = false ∧
        0 ≤ settings.retries ∧ settings.retries ≤ 10 ∧
        settings.pollInterval.isAtMost 0 = false ∧ settings.imageCooldown.isLess 0 = false ∧
        (settings.matrixCredentials.any (·.isSome) = true →
          settings.matrixCredentials.all (·.isSome) = true) := by
    simp only [rules, List.forall_mem_cons, List.not_mem_nil, false_imp_iff, implies_true,
      and_true, Bool.not_eq_false', Bool.or_eq_true, decide_eq_false_iff_not, not_lt,
      Bool.and_eq_false_imp]
  rw [kept, together_iff]
  constructor
  · rintro ⟨_, host, timeoutLow, timeoutHigh, retriesLow, retriesHigh, interval, cooldown, matrix⟩
    exact ⟨⟨⟨retriesLow, retriesHigh⟩, host, matrix⟩,
      ⟨timeoutLow, timeoutHigh, interval, cooldown⟩⟩
  · rintro ⟨orderly, unbroken⟩
    have some : settings.host ≠ "" := by
      rcases orderly.host with starts | starts
      · exact ne_empty_of_startsWith (by decide) starts
      · exact ne_empty_of_startsWith (by decide) starts
    exact ⟨by simpa using some, orderly.host, unbroken.timeout_pos, unbroken.timeout_le,
      orderly.retries.1, orderly.retries.2, unbroken.pollInterval_pos,
      unbroken.imageCooldown_nonneg, orderly.matrix⟩

theorem ofMembers_eq_ok_iff {members : Json.Members} {settings : Settings} :
    ofMembers members = .ok settings ↔
      read members = valid settings ∧ settings.Orderly ∧ settings.Unbroken := by
  unfold ofMembers
  cases found : read members with
  | invalid problems => exact ⟨nofun, nofun⟩
  | valid given =>
      change (keepRules given).asResult "Settings" = .ok settings ↔ _
      rw [← kept_iff]
      cases kept : keepRules given with
      | invalid problems =>
          refine ⟨nofun, ?_⟩
          rintro ⟨same, unbroken⟩
          cases same
          rw [keepRules_eq_valid_iff.mpr ⟨rfl, unbroken⟩] at kept
          cases kept
      | valid accepted =>
          rcases keepRules_eq_valid_iff.mp kept with ⟨rfl, unbroken⟩
          constructor
          · intro same
            cases same
            exact ⟨rfl, unbroken⟩
          · rintro ⟨same, _⟩
            cases same
            rfl

/-! ## Channels -/

/-- A channel that is enabled and has all its credentials. -/
inductive Wanted (settings : Settings) : ChannelAccount → Prop where
  | discord {webhook : String} : settings.discordEnabled = true →
      settings.discordWebhook = some webhook → Wanted settings (.discord webhook)
  | matrix {account : Chat.Matrix.Account} : settings.matrixEnabled = true →
      settings.matrixHomeserver = some account.homeserver →
      settings.matrixUsername = some account.username →
      settings.matrixPassword = some account.password →
      settings.matrixRoom = some account.room → Wanted settings (.matrix account)

theorem discordAccount?_eq_some_iff {settings : Settings} {account : ChannelAccount} :
    settings.discordAccount? = some account ↔
      ∃ webhook, settings.discordEnabled = true ∧ settings.discordWebhook = some webhook ∧
        account = .discord webhook := by
  unfold discordAccount?
  cases settings.discordEnabled with
  | false => simp
  | true =>
      cases settings.discordWebhook with
      | none => simp
      | some webhook => simp [eq_comm]

theorem matrixAccount?_eq_some_iff {settings : Settings} {account : ChannelAccount} :
    settings.matrixAccount? = some account ↔
      ∃ matrix : Chat.Matrix.Account, settings.matrixEnabled = true ∧
        settings.matrixHomeserver = some matrix.homeserver ∧
        settings.matrixUsername = some matrix.username ∧
        settings.matrixPassword = some matrix.password ∧
        settings.matrixRoom = some matrix.room ∧ account = .matrix matrix := by
  unfold matrixAccount?
  cases settings.matrixEnabled with
  | false => simp
  | true =>
      simp only [if_true, Option.bind_eq_bind, Option.bind_eq_some_iff, Option.pure_def,
        Option.some.injEq, true_and]
      constructor
      · rintro ⟨homeserver, homeserverEq, username, usernameEq, password, passwordEq, room, roomEq,
          rfl⟩
        exact ⟨_, homeserverEq, usernameEq, passwordEq, roomEq, rfl⟩
      · rintro ⟨matrix, homeserverEq, usernameEq, passwordEq, roomEq, rfl⟩
        exact ⟨_, homeserverEq, _, usernameEq, _, passwordEq, _, roomEq, rfl⟩

theorem mem_channelAccounts_iff {settings : Settings} {account : ChannelAccount} :
    account ∈ settings.channelAccounts ↔ settings.Wanted account := by
  rw [channelAccounts, List.mem_append, Option.mem_toList, Option.mem_toList,
    discordAccount?_eq_some_iff, matrixAccount?_eq_some_iff]
  constructor
  · rintro (⟨webhook, enabled, given, rfl⟩ |
      ⟨matrix, enabled, homeserver, username, password, room, rfl⟩)
    · exact .discord enabled given
    · exact .matrix enabled homeserver username password room
  · rintro (⟨enabled, given⟩ | ⟨enabled, homeserver, username, password, room⟩)
    · exact .inl ⟨_, enabled, given, rfl⟩
    · exact .inr ⟨_, enabled, homeserver, username, password, room, rfl⟩

/-- So there is one channel of each kind at most. -/
theorem channelAccounts_ordered (settings : Settings) :
    settings.channelAccounts.Pairwise fun early late =>
      early.service = .discord ∧ late.service = .matrix := by
  have single : ∀ found : Option ChannelAccount, found.toList.Pairwise fun early late =>
      early.service = .discord ∧ late.service = .matrix := by
    intro found
    cases found <;> simp
  refine List.pairwise_append.mpr ⟨single _, single _, fun early first late second => ?_⟩
  rw [Option.mem_toList] at first second
  rcases discordAccount?_eq_some_iff.mp first with ⟨_, _, _, rfl⟩
  rcases matrixAccount?_eq_some_iff.mp second with ⟨_, _, _, _, _, _, rfl⟩
  exact ⟨rfl, rfl⟩

/-! ## Accepted settings -/

/-- Accepted as given, or read from an environment and a file of variables. -/
def IsAccepted (settings : Settings) : Prop :=
  (∃ members, ofMembers members = .ok settings) ∨
    ∃ environment file, load environment file = .ok settings

theorem IsAccepted.exists_members {settings : Settings} (accepted : settings.IsAccepted) :
    ∃ members, ofMembers members = .ok settings := by
  rcases accepted with given | ⟨environment, file, loaded⟩
  · exact given
  · exact ⟨_, loaded⟩

end Settings

namespace Command

variable {m : Type → Type} [Monad m]

/-- Runs the monitor under settings that have been looked at already. -/
def monitorUnder (world : World m) (settings : Settings) (maxCycles : Option Int) :
    Action m Ending := do
  world.log (.info (startNotice settings))
  withChannels world settings fun channels =>
    untilInterrupted world (withStation world settings
      (watch world settings channels (maxCycles.map Int.toNat)))

/-- The interval and the number of rounds are looked at before anything is done. -/
def Passes (interval : Option Binary64) (maxCycles : Option Int) : Prop :=
  interval.any (·.isAtMost 0) = false ∧ maxCycles.any (· ≤ 0) = false

theorem runMonitor_of_passes {interval : Option Binary64} {maxCycles : Option Int}
    (passes : Passes interval maxCycles) (world : World m) (settings : Settings) :
    runMonitor world settings interval maxCycles =
      monitorUnder world (withInterval settings interval) maxCycles := by
  rw [runMonitor, passes.1, passes.2]
  rfl

theorem withInterval_unbroken {settings : Settings} {interval : Option Binary64}
    (unbroken : settings.pollInterval.isAtMost 0 = false)
    (passes : interval.any (·.isAtMost 0) = false) :
    (withInterval settings interval).pollInterval.isAtMost 0 = false := by
  cases interval with
  | none => exact unbroken
  | some interval => exact passes

end Command

open Command Settings

/-- Accepted settings keep every rule, and each bound of a double precision number exactly if it is
a number; so does the interval between the rounds of the monitor that runs under them. -/
theorem accepted_settings_bounded_iff_number {settings : Settings}
    (accepted : settings.IsAccepted) :
    (Binary64.isLess 0 settings.timeout = true ∧
        settings.timeout.isAtMost (.ofNat 300) = true ↔ settings.timeout ≠ .nan) ∧
      (Binary64.isLess 0 settings.pollInterval = true ↔ settings.pollInterval ≠ .nan) ∧
      (Binary64.isAtMost 0 settings.imageCooldown = true ↔ settings.imageCooldown ≠ .nan) ∧
      settings.Orderly ∧
      (∀ word, some word ∈ settings.credentials → SaysSomething word) ∧
      (∀ account, account ∈ settings.channelAccounts ↔ settings.Wanted account) ∧
      (settings.channelAccounts.Pairwise fun early late =>
        early.service = .discord ∧ late.service = .matrix) ∧
      ∀ interval maxCycles, Passes interval maxCycles →
        (∀ {m : Type → Type} [Monad m] (world : World m),
          runMonitor world settings interval maxCycles =
            monitorUnder world (withInterval settings interval) maxCycles) ∧
          (Binary64.isLess 0 (withInterval settings interval).pollInterval = true ↔
            (withInterval settings interval).pollInterval ≠ .nan) := by
  rcases accepted.exists_members with ⟨members, given⟩
  rcases ofMembers_eq_ok_iff.mp given with ⟨found, orderly, unbroken⟩
  have zero : (0 : Binary64) ≠ .nan := nofun
  have positive : ∀ {number : Binary64}, number.isAtMost 0 = false →
      (Binary64.isLess 0 number = true ↔ number ≠ .nan) :=
    Binary64.isLess_iff_ne_nan_of_not_isAtMost zero
  have limited := Binary64.isAtMost_iff_ne_nan_of_not_above (Binary64.ofNat_ne_nan 300)
    unbroken.timeout_le
  refine ⟨?_, positive unbroken.pollInterval_pos,
    Binary64.isAtMost_iff_ne_nan_of_not_below zero unbroken.imageCooldown_nonneg, orderly,
    fun word => (credentialsRead_of_read found).saysSomething,
    fun account => mem_channelAccounts_iff, channelAccounts_ordered settings, ?_⟩
  · rw [positive unbroken.timeout_pos, limited, and_self]
  · intro interval maxCycles passes
    exact ⟨fun world => runMonitor_of_passes passes world settings,
      positive (withInterval_unbroken unbroken.pollInterval_pos passes.1)⟩

/-! ## In an environment -/

/-- Names are compared letter by letter. -/
theorem lowerText_beq (left right : String) :
    (lowerText left == lowerText right) =
      (left.toList.map lower == right.toList.map lower) := by
  rw [Bool.eq_iff_iff, beq_iff_eq, beq_iff_eq, ← String.toList_inj, lowerText, lowerText,
    String.toList_map, String.toList_map]

/-- An environment that asks for a channel to a room, and for short intervals. -/
def roomEnvironment : List (String × String) :=
  [("POLL_INTERVAL_SECONDS", "2.5"), ("MATRIX_HOMESERVER_URL", "https://matrix.example.org"),
    ("MATRIX_USERNAME", "bot"), ("MATRIX_PASSWORD", "hunter2"),
    ("MATRIX_ROOM_ID", "!room:example.org")]

def roomAccount : ChannelAccount :=
  .matrix ⟨"https://matrix.example.org", "bot", "hunter2", "!room:example.org"⟩

theorem accepted_settings_bounded_iff_number_room :
    ∃ settings, load roomEnvironment none = .ok settings ∧
      Binary64.isLess 0 settings.pollInterval = true ∧ settings.Orderly ∧
      settings.Wanted roomAccount := by
  have read : (load roomEnvironment none).toOption.map
      (fun settings => (settings.pollInterval.isNaN, settings.channelAccounts)) =
        some (false, [roomAccount]) := by
    simp only [load, given, valueOf?, lowerText_beq]
    decide +kernel
  cases loaded : load roomEnvironment none with
  | error rejection =>
      rw [loaded] at read
      cases read
  | ok settings =>
      rw [loaded] at read
      have found : (settings.pollInterval.isNaN, settings.channelAccounts) =
        (false, [roomAccount]) := Option.some.inj read
      rw [Prod.mk.injEq] at found
      have number : settings.pollInterval ≠ .nan := by
        intro none
        rw [none] at found
        cases found.1
      rcases accepted_settings_bounded_iff_number (.inr ⟨_, _, loaded⟩) with
        ⟨_, interval, _, orderly, _, wanted, _⟩
      have asked : roomAccount ∈ settings.channelAccounts := by
        rw [found.2]
        exact List.mem_singleton.mpr rfl
      exact ⟨settings, rfl, interval.mpr number, orderly, (wanted _).mp asked⟩

/-- A cooldown that is no number is accepted, and is on no side of its bound. -/
theorem cooldown_without_bound :
    ¬ ∀ environment file settings, load environment file = .ok settings →
      Binary64.isAtMost 0 settings.imageCooldown = true := by
  intro bounded
  have read : (load [("IMAGE_COOLDOWN_SECONDS", "nan")] none).toOption.map
      (Binary64.isAtMost 0 ·.imageCooldown) = some false := by
    simp only [load, given, valueOf?, lowerText_beq]
    decide +kernel
  cases loaded : load [("IMAGE_COOLDOWN_SECONDS", "nan")] none with
  | error rejection =>
      rw [loaded] at read
      cases read
  | ok settings =>
      rw [loaded] at read
      have kept := bounded _ _ settings loaded
      simp [Except.toOption, kept] at read

end ObservatoryWatch
