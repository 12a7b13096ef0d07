import ObservatoryWatch.Proofs.Dictation
import ObservatoryWatch.Proofs.EventPhase
import ObservatoryWatch.Proofs.FiniteHours

/-!
What the monitor makes of the countdown to the meridian flip.

A look at a sequence that was obtained comes to its end, unless the time of the flip trigger is a
whole number past the range of double precision. Nothing else that is done in such a look can fail
where the question about the mount is answered or refused and no card is interrupted.
-/

namespace ObservatoryWatch.Monitor

open Observatory

variable {W α : Type}

/-! ## Looks at a sequence that was obtained -/

/-- Nothing that a look at the sequence sets off is interrupted: the question about the mount is
answered or refused, and so is every card. -/
structure Unhindered (watcher : Watcher (StateM W)) : Prop where
  mount : ∀ fault, Raises watcher.station.mount fault → fault.imaging? ≠ none
  delivery : ∀ channel ∈ watcher.channels, ∀ card image message,
    ¬ Raises (channel.deliver card image) (.interrupted message)

/-- How a look at a sequence that was obtained ends. -/
inductive SequenceRead (tree : List Json) : Except Fault Unit → Prop where
  | read {hours : Option Binary64} (known : Sequence.flipHours tree = .ok hours) :
      SequenceRead tree (.ok ())
  | past (past : Sequence.PastRange tree) :
      SequenceRead tree (.error (.conversion .pastRange))

namespace Watcher

/-- The monitor as it would be if nothing but the sequence and the mount could be asked for. -/
def confined (watcher : Watcher (StateM W)) : Watcher (StateM W) :=
  { watcher with
    station := { watcher.station with
      events := throw (.imaging (.untried .events))
      autofocus := throw (.imaging (.untried .autofocus))
      thumbnail := fun index imageType =>
        throw (.imaging (.untried (.thumbnail index imageType))) } }

/-- A look at the sequence asks for nothing else. -/
theorem pollSequence_confined (watcher : Watcher (StateM W)) :
    watcher.confined.witnessed.pollSequence = watcher.witnessed.pollSequence := rfl

end Watcher

theorem Unhindered.calm {watcher : Watcher (StateM W)} (unhindered : Unhindered watcher) :
    Calm watcher.confined where
  events := by rintro fault ⟨_, ⟨⟩⟩; nofun
  mount := unhindered.mount
  autofocus := by rintro fault ⟨_, ⟨⟩⟩; nofun
  thumbnail := by rintro index fault ⟨_, ⟨⟩⟩; nofun
  delivery := unhindered.delivery

/-- Reading the hours is all that can fail; hearing of a target is harmless. -/
theorem Calm.pollSequence_ends {watcher : Watcher (StateM W)} (calm : Calm watcher)
    {tree : List Json} {before after : Scene W} {outcome : Except Fault Unit}
    (obtained : (watcher.station.sequence.run.run before.world).1 = .ok tree)
    (ended : Ends watcher.witnessed.pollSequence before outcome after) :
    SequenceRead tree outcome := by
  have answered : (watcher.station.sequence.run.run before.world).1 =
      (Except.ok tree : Except Imaging.Fault (List Json)).mapError .imaging := obtained
  rcases attempt_noted_yields .sequence answered with ⟨world, asked⟩
  have heard : play (Watch.perform watcher.witnessed.station.sequence.attemptImaging) before =
    (.ok (.ok tree), (before.jotted (.sequence (.ok tree))).inWorld world) := asked
  unfold Ends Watcher.pollSequence at ended
  -- From here on the sequence is in hand, and what is left is to learn the hours and to heed it.
  rw [play_bind, heard] at ended
  dsimp only at ended
  rw [play_bind] at ended
  cases known : Sequence.flipHours tree with
  | error fault =>
      rw [Watcher.play_learnFlip_error known] at ended
      cases ended
      obtain ⟨rfl, past⟩ := Sequence.flipHours_eq_error_iff.mp known
      exact .past past
  | ok hours =>
      rw [Watcher.play_learnFlip_ok known] at ended
      have heeded : harmless.Keeps [] (watcher.witnessed.heed tree) :=
        calm.lockstep.heed calm.reports.update tree
      rcases goesWell_of_harmless heeded _ with ⟨last, _, yields, _⟩
      cases ended.symm.trans yields
      exact .read known

/-! ## The countdown -/

/-- There are hours exactly if the first flip trigger of the first node has a number for its time
that has a finite nearest value. The reading, and with it a look at a sequence that was obtained,
fails exactly for a whole number past the range; and in every state the hours are finite, if any are
remembered. -/
theorem flip_hours_read_iff_within_range (watcher : Watcher (StateM W)) :
    (∀ tree hours, Sequence.flipHours tree = .ok (some hours) ↔
      ∃ time, Sequence.FlipTime tree time ∧ Sequence.Hours time hours) ∧
    (∀ tree hours, Sequence.flipHours tree = .ok (some hours) → hours.isFinite = true) ∧
    (∀ tree, (∃ hours, Sequence.flipHours tree = .ok hours) ↔ ¬ Sequence.PastRange tree) ∧
    (∀ tree before outcome after, Unhindered watcher →
      (watcher.station.sequence.run.run before.world).1 = .ok tree →
      Ends watcher.witnessed.pollSequence before outcome after →
      (outcome = .ok () ↔ ¬ Sequence.PastRange tree) ∧
      (Sequence.PastRange tree → outcome = .error (.conversion .pastRange))) ∧
    ∀ scene, Visited watcher scene →
      ∀ hours, scene.state.flipHours = some hours → hours.isFinite = true := by
  have within {tree : List Json} :
      (∃ hours, Sequence.flipHours tree = .ok hours) ↔ ¬ Sequence.PastRange tree := by
    constructor
    · rintro ⟨hours, read⟩ past
      cases read.symm.trans (Sequence.flipHours_eq_error_iff.mpr ⟨rfl, past⟩)
    · intro inRange
      cases read : Sequence.flipHours tree with
      | ok hours => exact ⟨hours, rfl⟩
      | error fault => exact absurd (Sequence.flipHours_eq_error_iff.mp read).2 inRange
  refine ⟨fun tree hours => Sequence.flipHours_eq_some_iff, fun tree hours read => ?_,
    fun tree => within, fun tree before outcome after unhindered obtained ended => ?_,
    fun scene => Visited.hoursFinite⟩
  · rcases Sequence.flipHours_eq_some_iff.mp read with ⟨_, _, found⟩
    exact found.isFinite
  · rw [← watcher.pollSequence_confined] at ended
    cases unhindered.calm.pollSequence_ends obtained ended with
    | read known =>
        have inRange := within.mp ⟨_, known⟩
        exact ⟨⟨fun _ => inRange, fun _ => rfl⟩, fun past => absurd past inRange⟩
    | past past => exact ⟨⟨nofun, fun inRange => absurd past inRange⟩, fun _ => rfl⟩

/-! ## A countdown past the range -/

/-- A sequence whose flip trigger has a whole number for its time. -/
def countdown (time : Int) : List Json :=
  [.object [("GlobalTriggers", .array
    [.object [("Name", .string Sequence.flipTrigger), ("TimeToFlip", .integer time)]])]]

theorem countdown_flipTime (time : Int) : Sequence.FlipTime (countdown time) (.integer time) :=
  ⟨_, _, [], [], [], rfl, rfl, ⟨_, rfl, rfl⟩, nofun, rfl⟩

/-- A one with four hundred zeros. -/
def farTime : Int := .ofNat (Nat.pow 10 400)

theorem countdown_pastRange : Sequence.PastRange (countdown farTime) :=
  ⟨farTime, countdown_flipTime farTime, by decide +kernel⟩

namespace Dictation

theorem unhindered (channels : Nat) : Unhindered (watcher channels) where
  mount := by
    rintro fault ⟨_, ⟨⟩⟩
    exact Option.some_ne_none _
  delivery := by
    rintro channel member card image message ⟨_, raised⟩
    cases List.eq_of_mem_replicate member
    cases image <;> cases raised

/-- Nothing but a sequence is there to be looked at. -/
def showing (tree : List Json) : Scene Dictation := .fresh gate ⟨[], [], [.ok tree], []⟩

end Dictation

theorem ends_of_outcome {watch : Watched W α} {before : Scene W} {outcome : Except Fault α}
    (same : (play watch before).1 = outcome) : ∃ after, Ends watch before outcome after :=
  ⟨_, Prod.ext same rfl⟩

theorem flip_hours_read_iff_within_range_dictated :
    (∃ after, Yields (Dictation.watcher 1).witnessed.pollSequence
      (Dictation.showing (countdown 2)) () after) ∧
    ∃ after, Ends (Dictation.watcher 1).witnessed.pollSequence
      (Dictation.showing (countdown farTime)) (.error (.conversion .pastRange)) after := by
  have read := flip_hours_read_iff_within_range (Dictation.watcher 1)
  have looked (time : Int) := read.2.2.2.1 (countdown time) (Dictation.showing (countdown time)) _ _
    (Dictation.unhindered 1) rfl (ends_play _ _)
  have two : (Sequence.flipHours (countdown 2)).toOption = some (some (.ofNat 2)) := by
    decide +kernel
  have inRange : ¬ Sequence.PastRange (countdown 2) :=
    (read.2.2.1 _).mp ⟨_, eq_ok_of_toOption two⟩
  exact ⟨ends_of_outcome ((looked 2).1.mpr inRange),
    ends_of_outcome ((looked farTime).2 countdown_pastRange)⟩

/-- A whole number past the range has no nearest value, and then there are not even no hours. -/
theorem countdown_unread : ¬ ∀ tree, ∃ hours, Sequence.flipHours tree = .ok hours := by
  intro claimed
  rcases claimed (countdown farTime) with ⟨hours, read⟩
  have failed := Sequence.flipHours_eq_error_iff.mpr ⟨rfl, countdown_pastRange⟩
  cases read.symm.trans failed

end ObservatoryWatch.Monitor
