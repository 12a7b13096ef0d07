import Mathlib.Logic.Relation
import ObservatoryWatch.Proofs.ImageHandling
import ObservatoryWatch.Proofs.Start

/-!
Courses of the monitor.

A course is the start and after it any looks at the sequence, the events and the images, in
any order. It passes through stages: between two looks, and within a look between two entries
of the history. What holds at the start and is kept by each step from a stage to the next holds
at every stage, in the middle of a look as well as after it.
-/

namespace ObservatoryWatch.Monitor

open Observatory

variable {W : Type}

/-! ## Programs -/

/-- What the monitor does after its start. -/
inductive Phase where
  | sequence
  | events
  | images
  | pause
  deriving DecidableEq

namespace Watcher

def phase (watcher : Watcher (StateM W)) : Phase → Watched W Unit
  | .sequence => watcher.witnessed.pollSequence
  | .events => watcher.witnessed.pollEventsWith watcher.handleNoted
  | .images => watcher.witnessed.pollImagesWith watcher.handleImageNoted
  | .pause => Watch.perform (watcher.witnessed.world.sleep watcher.pollInterval)

def course (watcher : Watcher (StateM W)) (phases : List Phase) : Watched W Unit := do
  watcher.witnessed.baseline
  phases.forM watcher.phase

end Watcher

/-! ## Stages -/

/-- An entry of a history that is still to be taken into account. -/
inductive Item where
  | event (event : Event)
  | image (index : Nat) (image : Image)

namespace Item

def event? : Item → Option Event
  | .event entry => some entry
  | .image _ _ => none

def image? : Item → Option Image
  | .event _ => none
  | .image _ entry => some entry

def ofEvents (history : List Event) : List Item := history.map event

/-- Images are known by their place in the history. -/
def ofImages (history : List Image) : List Item :=
  history.zipIdx.map fun (entry, index) => image index entry

end Item

/-- A point of a course, and what is left of the history that is being looked at. -/
structure Stage (W : Type) where
  scene : Scene W
  agenda : List Item

namespace Stage

def pendingEvents (stage : Stage W) : List Event := stage.agenda.filterMap Item.event?

def pendingImages (stage : Stage W) : List Image := stage.agenda.filterMap Item.image?

@[simp] theorem pendingEvents_ofEvents (scene : Scene W) (history : List Event) :
    pendingEvents ⟨scene, Item.ofEvents history⟩ = history := by
  unfold pendingEvents Item.ofEvents
  rw [List.filterMap_map]
  exact List.filterMap_some

@[simp] theorem pendingEvents_ofImages (scene : Scene W) (history : List Image) :
    pendingEvents ⟨scene, Item.ofImages history⟩ = [] := by
  unfold pendingEvents Item.ofImages
  rw [List.filterMap_map]
  exact List.filterMap_eq_nil_iff.mpr fun _ _ => rfl

@[simp] theorem pendingImages_ofEvents (scene : Scene W) (history : List Event) :
    pendingImages ⟨scene, Item.ofEvents history⟩ = [] := by
  unfold pendingImages Item.ofEvents
  rw [List.filterMap_map]
  exact List.filterMap_eq_nil_iff.mpr fun _ _ => rfl

@[simp] theorem pendingImages_ofImages (scene : Scene W) (history : List Image) :
    pendingImages ⟨scene, Item.ofImages history⟩ = history := by
  unfold pendingImages Item.ofImages
  rw [List.filterMap_map]
  change history.zipIdx.filterMap (fun entry => some entry.1) = history
  rw [List.filterMap_eq_map', List.zipIdx_map_fst]

end Stage

inductive Step (watcher : Watcher (StateM W)) : Stage W → Stage W → Prop where
  | sequence {before after : Scene W}
      (yields : Yields watcher.witnessed.pollSequence before () after) :
      Step watcher ⟨before, []⟩ ⟨after, []⟩
  | events {before after : Scene W} {history : List Event}
      (yields : Yields
        (watcher.witnessed.historyOrNone watcher.witnessed.station.events "events")
        before history after) :
      Step watcher ⟨before, []⟩ ⟨after, Item.ofEvents history⟩
  | images {before after : Scene W} {history : List Image}
      (yields : Yields
        (watcher.witnessed.historyOrNone watcher.witnessed.station.images "images")
        before history after) :
      Step watcher ⟨before, []⟩ ⟨after, Item.ofImages history⟩
  | event {before after : Scene W} {event : Event} {rest : List Item}
      (yields : Yields (watcher.witnessed.considerEvent watcher.handleNoted event)
        before () after) :
      Step watcher ⟨before, .event event :: rest⟩ ⟨after, rest⟩
  | image {before after : Scene W} {index : Nat} {image : Image} {rest : List Item}
      (yields : Yields (watcher.witnessed.considerImage watcher.handleImageNoted index image)
        before () after) :
      Step watcher ⟨before, .image index image :: rest⟩ ⟨after, rest⟩
  | pause {before after : Scene W}
      (yields : Yields (Watch.perform (watcher.witnessed.world.sleep watcher.pollInterval))
        before () after) :
      Step watcher ⟨before, []⟩ ⟨after, []⟩

/-- All that a step can come to. -/
inductive Effect (watcher : Watcher (StateM W)) : Stage W → Stage W → Prop where
  | sequenceMissed {before after : Scene W} (fault : Fault)
      (aside : Aside (before.jotted (.sequence (.error fault))) after) :
      Effect watcher ⟨before, []⟩ ⟨after, []⟩
  | sequenceSeen {before after : Scene W} (tree : List Json) (flipHours : Option Binary64)
      (aside : Aside (before.withSequence tree flipHours) after) :
      Effect watcher ⟨before, []⟩ ⟨after, []⟩
  | eventsAsked {before : Scene W} (answer : Except Fault (List Event)) (world : W) :
      Effect watcher ⟨before, []⟩
        ⟨(before.jotted (.events answer)).inWorld world,
          Item.ofEvents (answer.toOption.getD [])⟩
  | imagesAsked {before : Scene W} (answer : Except Fault (List Image)) (world : W) :
      Effect watcher ⟨before, []⟩
        ⟨(before.jotted (.images answer)).inWorld world,
          Item.ofImages (answer.toOption.getD [])⟩
  | eventPassed {scene : Scene W} {event : Event} {rest : List Item}
      (old : event.changesNothing = true ∨
        event.fingerprint ∈ scene.state.seenEvents.fingerprints) :
      Effect watcher ⟨scene, .event event :: rest⟩ ⟨scene, rest⟩
  | eventTaken {before after : Scene W} {event : Event} {rest : List Item} (seen : Seen)
      (telling : event.changesNothing = false)
      (added : before.state.seenEvents.add? event.fingerprint = some seen)
      (aside : Aside (before.withEvent event seen) after) :
      Effect watcher ⟨before, .event event :: rest⟩ ⟨after, rest⟩
  | imagePassed {scene : Scene W} {index : Nat} {image : Image} {rest : List Item}
      (old : image.fingerprint ∈ scene.state.seenImages.fingerprints) :
      Effect watcher ⟨scene, .image index image :: rest⟩ ⟨scene, rest⟩
  | imageTaken {before after : Scene W} {index : Nat} {image : Image} {rest : List Item}
      (seen : Seen) (world : W)
      (added : before.state.seenImages.add? image.fingerprint = some seen)
      (handled : Yields (watcher.witnessed.handleImage index image)
        ((before.withImage index image seen).inWorld world) () after)
      (frame : ImageFrame before after) :
      Effect watcher ⟨before, .image index image :: rest⟩ ⟨after, rest⟩
  | paused {before after : Scene W} (aside : Aside before after) :
      Effect watcher ⟨before, []⟩ ⟨after, []⟩

theorem Step.effect {watcher : Watcher (StateM W)} {earlier later : Stage W}
    (taken : Step watcher earlier later) : Effect watcher earlier later := by
  cases taken with
  | sequence yields =>
      rcases Watcher.pollSequence_yields yields with ⟨fault, aside⟩ | ⟨tree, flipHours, _, aside⟩
      · exact .sequenceMissed (.imaging fault) aside
      · exact .sequenceSeen tree flipHours aside
  | events yields =>
      rcases Watcher.historyOrNone_yields yields with ⟨answer, world, rfl, rfl⟩
      rw [← toOption_mapError Fault.imaging]
      exact .eventsAsked (answer.mapError .imaging) world
  | images yields =>
      rcases Watcher.historyOrNone_yields yields with ⟨answer, world, rfl, rfl⟩
      rw [← toOption_mapError Fault.imaging]
      exact .imagesAsked (answer.mapError .imaging) world
  | event yields =>
      rcases Watcher.considerEvent_yields yields with ⟨rfl, old⟩ | ⟨telling, seen, added, aside⟩
      · exact .eventPassed old
      · exact .eventTaken seen telling added aside
  | image yields =>
      rcases Watcher.considerImage_yields yields with ⟨rfl, old⟩ | ⟨seen, world, added, handled⟩
      · exact .imagePassed old
      · exact .imageTaken seen world added handled (Watcher.considerImage_frame yields)
  | pause yields => exact .paused (Watcher.sleep_aside yields)

/-- A stage comes after another one in the same course, or is it. -/
def Leads (watcher : Watcher (StateM W)) : Stage W → Stage W → Prop :=
  Relation.ReflTransGen (Step watcher)

/-- Nothing is remembered and nothing noted yet. -/
def Scene.fresh (gate : Gate) (world : W) : Scene W := ⟨.fresh gate, [], world⟩

/-- The scene after a start with a gate that has let nothing pass. -/
def Begins (watcher : Watcher (StateM W)) (start : Scene W) : Prop :=
  ∃ cooldown gate world, Gate.new? cooldown = some gate ∧
    Yields watcher.witnessed.baseline (.fresh gate world) () start

def Reached (watcher : Watcher (StateM W)) (stage : Stage W) : Prop :=
  ∃ start, Begins watcher start ∧ Leads watcher ⟨start, []⟩ stage

namespace Reached

variable {watcher : Watcher (StateM W)} {stage : Stage W}

/-- What holds at the start and is kept by every step holds at every stage. -/
theorem induction {motive : Stage W → Prop} (reached : Reached watcher stage)
    (begin : ∀ start, Begins watcher start → motive ⟨start, []⟩)
    (step : ∀ earlier later, Step watcher earlier later → motive earlier → motive later) :
    motive stage := by
  rcases reached with ⟨start, begins, leads⟩
  induction leads with
  | refl => exact begin start begins
  | tail _ taken kept => exact step _ _ taken kept

end Reached

/-! ## Programs pass through stages -/

namespace Watcher

variable {watcher : Watcher (StateM W)} {before after : Scene W}

theorem forM_events_leads (history : List Event) {before : Scene W}
    (yields : Yields (history.forM (watcher.witnessed.considerEvent watcher.handleNoted))
      before () after) :
    Leads watcher ⟨before, Item.ofEvents history⟩ ⟨after, []⟩ := by
  induction history generalizing before with
  | nil =>
      have same : before = after := yields_forM_nil.mp yields
      subst after
      exact .refl
  | cons event rest induction =>
      rcases yields_forM_cons.mp yields with ⟨middle, first, remaining⟩
      exact .head (.event first) (induction remaining)

theorem forM_images_leads (history : List (Image × Nat)) {before : Scene W}
    (yields : Yields (history.forM fun (image, index) =>
      watcher.witnessed.considerImage watcher.handleImageNoted index image) before () after) :
    Leads watcher ⟨before, history.map fun (entry, index) => .image index entry⟩ ⟨after, []⟩ := by
  induction history generalizing before with
  | nil =>
      have same : before = after := yields_forM_nil.mp yields
      subst after
      exact .refl
  | cons entry rest induction =>
      rcases yields_forM_cons.mp yields with ⟨middle, first, remaining⟩
      exact .head (.image first) (induction remaining)

/-- A whole phase is a series of steps. -/
theorem phase_leads {phase : Phase} (yields : Yields (watcher.phase phase) before () after) :
    Leads watcher ⟨before, []⟩ ⟨after, []⟩ := by
  cases phase with
  | sequence => exact .single (.sequence yields)
  | pause => exact .single (.pause yields)
  | events =>
      rcases yields_bind.mp yields with ⟨history, middle, fetched, worked⟩
      exact .head (.events fetched) (forM_events_leads history worked)
  | images =>
      rcases yields_bind.mp yields with ⟨history, middle, fetched, worked⟩
      exact .head (.images fetched) (forM_images_leads history.zipIdx worked)

theorem phases_leads (phases : List Phase) {before : Scene W}
    (yields : Yields (phases.forM watcher.phase) before () after) :
    Leads watcher ⟨before, []⟩ ⟨after, []⟩ := by
  induction phases generalizing before with
  | nil =>
      have same : before = after := yields_forM_nil.mp yields
      subst after
      exact .refl
  | cons phase rest induction =>
      rcases yields_forM_cons.mp yields with ⟨middle, first, remaining⟩
      exact (phase_leads first).trans (induction remaining)

theorem course_reached {cooldown : Binary64} {gate : Gate} {world : W} {phases : List Phase}
    (fresh : Gate.new? cooldown = some gate)
    (yields : Yields (watcher.course phases) (.fresh gate world) () after) :
    Reached watcher ⟨after, []⟩ := by
  rcases yields_bind.mp yields with ⟨_, start, begins, worked⟩
  exact ⟨start, ⟨cooldown, gate, world, fresh, begins⟩, phases_leads phases worked⟩

end Watcher

end ObservatoryWatch.Monitor
