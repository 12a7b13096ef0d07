import ObservatoryWatch.Monitor.Watcher
import ObservatoryWatch.Proofs.CardReading

/-!
What a card that was sent tells about the target.

The title tells the topic, and on each topic the target stands in a field of its own. A welcome
without a target has a text in the place of the name, so it takes the source as well to tell
whether a target was announced.
-/

namespace ObservatoryWatch.Card

open Calendar Observatory

inductive Topic where
  | welcome
  | started
  | changed
  | image
  | mount
  | other
  deriving DecidableEq

/-- Titles that are the same whenever they are used. -/
def fixedTitles : List (String × Topic) :=
  [("🚀 SpaceCat Observatory Monitor Started", .welcome), ("🎯 Target Started", .started),
    ("🎯 Target Change", .changed)] ++
    Monitor.Watcher.mountKinds.map fun kind => ((mountStyle kind).1, .mount)

def topic (card : Card) : Topic :=
  (fixedTitles.lookup card.title).getD (if card.isOfImage then .image else .other)

/-- The name of the target that a card announces, if it announces one. -/
def announced? (card : Card) : Option String :=
  match card.topic with
  | .welcome => (card.value? "Target Source").bind fun _ => card.value? "Current Target"
  | .started => card.value? "Target"
  | .changed => card.value? "New Target"
  | _ => none

theorem announced?_stampedAt (card : Card) (timestamp : String) :
    (card.stampedAt timestamp).announced? = card.announced? := rfl

/-! ## Fields -/

theorem value?_addWide_of_ne (card : Card) {name wanted : String} (value : String)
    (different : name ≠ wanted) :
    (card.addWide name value).value? wanted = card.value? wanted := by
  simp [value?, addWide, List.find?_append, different]

theorem value?_addWide_self (card : Card) {name : String} (value : String)
    (absent : card.value? name = none) : (card.addWide name value).value? name = some value := by
  unfold value? addWide at *
  rw [Option.map_eq_none_iff] at absent
  simp [List.find?_append, absent]

def mountFields : List String := ["Mount Position", "Alt/Az", "Pier Side", "Tracking"]

theorem value?_addMount_of_notMem (card : Card) (mount : Option Mount) {wanted : String}
    (absent : wanted ∉ mountFields) : (card.addMount mount).value? wanted = card.value? wanted := by
  simp only [mountFields, List.mem_cons, List.not_mem_nil, or_false, not_or] at absent
  rcases absent with ⟨position, altitude, pier, tracking⟩
  cases mount with
  | none => rfl
  | some mount =>
      unfold addMount
      dsimp only
      split
      · rw [value?_add_of_ne _ _ (Ne.symm tracking), value?_add_of_ne _ _ (Ne.symm pier),
          value?_add_of_ne _ _ (Ne.symm altitude), value?_add_of_ne _ _ (Ne.symm position)]
      · rfl

def detailFields : List String := ["Project", "Coordinates", "Rotation"]

theorem value?_addTargetDetails_of_notMem (card : Card) (target : Target) {wanted : String}
    (absent : wanted ∉ detailFields) :
    (card.addTargetDetails target).value? wanted = card.value? wanted := by
  simp only [detailFields, List.mem_cons, List.not_mem_nil, or_false, not_or] at absent
  rcases absent with ⟨project, coordinates, rotation⟩
  cases target with
  | sequenced name => rfl
  | announced start =>
      unfold addTargetDetails
      rw [value?_add_of_ne _ _ (Ne.symm rotation), value?_addWide_of_ne _ _ (Ne.symm coordinates),
        value?_add_of_ne _ _ (Ne.symm project)]

theorem value?_addCurrentTarget_self (card : Card) {name : String} (target : Option Target)
    (absent : card.value? name = none) :
    (card.addCurrentTarget name target).value? name = target.map Target.name := by
  cases target with
  | none => exact absent
  | some target => exact value?_add_self card _ absent

/-! ## Topics -/

theorem topic_of_title {card : Card} (title : String) {topic : Topic} (same : card.title = title)
    (fixed : fixedTitles.lookup title = some topic) : card.topic = topic := by
  rw [Card.topic, same, fixed, Option.getD_some]

/-- A title that begins with a sign of its own is no fixed one. -/
theorem lookup_fixedTitles_of_head {title : String} (sign : Char)
    (head : title.toList.head? = some sign)
    (foreign : ∀ entry ∈ fixedTitles, entry.1.toList.head? ≠ some sign) :
    fixedTitles.lookup title = none := by
  refine List.lookup_eq_none_iff.mpr fun entry member => bne_iff_ne.mpr ?_
  rintro rfl
  exact foreign entry member head

theorem topic_of_free_title {card : Card} (free : fixedTitles.lookup card.title = none) :
    card.topic = if card.isOfImage then .image else .other := by
  rw [topic, free, Option.getD_none]

theorem topic_image (image : Image) (current : Option Target) (skipped : Int)
    (flipHours : Option Binary64) (now : Moment) :
    (Card.image image current skipped flipHours now).topic = .image := by
  have shows := isOfImage_image image current skipped flipHours now
  have free := lookup_fixedTitles_of_head '📸' (beq_iff_eq.mp shows) (by decide)
  rw [topic_of_free_title free, if_pos shows]

theorem topic_welcome (current : Option Target) (events images channels : Int)
    (flipHours : Option Binary64) (mount : Option Mount) (now : Moment) :
    (welcome current events images channels flipHours mount now).topic = .welcome := by
  refine topic_of_title "🚀 SpaceCat Observatory Monitor Started" ?_ (by decide)
  cases current <;> simp [welcome, titled]

theorem topic_newTarget (target : Target) (previous : Option Target)
    (flipHours : Option Binary64) (mount : Option Mount) (now : Moment) :
    (newTarget target previous flipHours mount now).topic =
      if previous.isNone then .started else .changed := by
  cases previous with
  | none =>
      refine topic_of_title "🎯 Target Started" ?_ (by decide)
      simp [newTarget, titled]
  | some previous =>
      rw [Option.isNone_some, if_neg Bool.false_ne_true]
      refine topic_of_title "🎯 Target Change" ?_ (by decide)
      simp [newTarget, titled]

theorem topic_mountEvent {event : Event} (current : Option Target) (mount : Option Mount)
    (kind : event.kind ∈ Monitor.Watcher.mountKinds) :
    (mountEvent event current mount).topic = .mount := by
  refine topic_of_title (mountStyle event.kind).1 (by simp [mountEvent, titled]) ?_
  revert kind
  generalize event.kind = kind
  revert kind
  decide

theorem topic_event {event : Event} (other : event.kind ≠ Kind.targetStarted) :
    (Card.event event).topic = .other := by
  have free : fixedTitles.lookup (Card.event event).title = none := by
    rw [title_event, eventTitle, if_neg (c := (event.kind == Kind.targetStarted) = true)
      (by simpa using other)]
    split
    · decide
    · exact lookup_fixedTitles_of_head '📡' (by simp) (by decide)
  rw [topic_of_free_title free, isOfImage_event]
  rfl

theorem topic_autofocus {result : Autofocus} {card : Card}
    (written : autofocus result = .ok card) : card.topic = .other := by
  have free : fixedTitles.lookup card.title = none := by
    rcases title_autofocus written with title | title <;> rw [title] <;> decide
  rw [topic_of_free_title free, isOfImage_autofocus written]
  rfl

/-! ## Announcements -/

theorem announced?_welcome (current : Option Target) (events images channels : Int)
    (flipHours : Option Binary64) (mount : Option Mount) (now : Moment) :
    (welcome current events images channels flipHours mount now).announced? =
      current.map Target.name := by
  rw [announced?, topic_welcome]
  dsimp only
  unfold welcome
  cases current with
  | none =>
      simp (disch := decide) only [value?_addMount_of_notMem, value?_addFlip_of_ne,
        value?_add_of_ne]
      rfl
  | some target =>
      simp (disch := decide) only [value?_addMount_of_notMem, value?_addFlip_of_ne,
        value?_add_of_ne, value?_addTargetDetails_of_notMem]
      rw [value?_add_self, value?_addWide_self]
      · rfl
      · rfl
      · simp (disch := decide) only [value?_addTargetDetails_of_notMem]
        rfl

theorem announced?_newTarget (target : Target) (previous : Option Target)
    (flipHours : Option Binary64) (mount : Option Mount) (now : Moment) :
    (newTarget target previous flipHours mount now).announced? = some target.name := by
  rw [announced?, topic_newTarget]
  unfold newTarget
  cases previous with
  | none =>
      rw [Option.isNone_none, if_pos rfl]
      simp (disch := decide) only [value?_addMount_of_notMem, value?_addFlip_of_ne,
        value?_addTargetDetails_of_notMem]
      rfl
  | some previous =>
      rw [Option.isNone_some, if_neg Bool.false_ne_true]
      simp (disch := decide) only [value?_addMount_of_notMem, value?_addFlip_of_ne,
        value?_addTargetDetails_of_notMem]
      rfl

theorem value?_previousTarget (target previous : Target) (flipHours : Option Binary64)
    (mount : Option Mount) (now : Moment) :
    (newTarget target (some previous) flipHours mount now).value? "Previous Target" =
      some previous.name := by
  unfold newTarget
  simp (disch := decide) only [value?_addMount_of_notMem, value?_addFlip_of_ne,
    value?_addTargetDetails_of_notMem]
  rfl

theorem value?_target_image (image : Image) (current : Option Target) (skipped : Int)
    (flipHours : Option Binary64) (now : Moment) :
    (Card.image image current skipped flipHours now).value? "Target" =
      current.map Target.name := by
  unfold Card.image
  simp (disch := decide) only [value?_addFlip_of_ne, value?_add_of_ne]
  split
  · rw [value?_add_of_ne _ _ (by decide)]
    exact value?_addCurrentTarget_self _ current rfl
  · exact value?_addCurrentTarget_self _ current rfl

theorem value?_currentTarget_mountEvent (event : Event) (current : Option Target)
    (mount : Option Mount) :
    (mountEvent event current mount).value? "Current Target" = current.map Target.name := by
  unfold mountEvent
  rw [value?_addMount_of_notMem _ _ (by decide)]
  refine value?_addCurrentTarget_self _ current ?_
  simp (disch := decide) only [value?_add_of_ne]
  rfl

end ObservatoryWatch.Card
