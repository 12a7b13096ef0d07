import ObservatoryWatch.Card.Notice

/-!
What can be read off a card that was sent.

The title tells whether a card is about a new image, and a field tells how many images
were passed over before it. Both can be told from the card alone: no other occasion
has such a title, and the number reads back as it was written.
-/

namespace ObservatoryWatch.Card

open Calendar Observatory

/-- Cards of new images show a camera; no other card does. -/
def isOfImage (card : Card) : Bool := card.title.toList.head? == some '📸'

/-- The number that a text begins with. -/
def leadingNumber (text : String) : Nat :=
  Nat.ofDigitChars 10 (text.toList.takeWhile Char.isDigit) 0

/-- How many images were passed over before the one of a card. Without a word about it the
card is the only one since the last. -/
def skippedImages (card : Card) : Nat :=
  ((card.value? "Images Since Last Post").map leadingNumber).getD 1 - 1

/-! ## Titles -/

@[simp] theorem title_add (card : Card) (name value : String) :
    (card.add name value).title = card.title := rfl

@[simp] theorem title_addWide (card : Card) (name value : String) :
    (card.addWide name value).title = card.title := rfl

@[simp] theorem title_withFooter (card : Card) (footer : String) :
    (card.withFooter footer).title = card.title := rfl

@[simp] theorem title_addFlip (card : Card) (flipHours : Option Binary64) (now : Moment) :
    (card.addFlip flipHours now).title = card.title := by
  cases flipHours <;> rfl

@[simp] theorem title_addMount (card : Card) (mount : Option Mount) :
    (card.addMount mount).title = card.title := by
  cases mount with
  | none => rfl
  | some mount =>
      unfold addMount
      dsimp only
      split <;> simp

@[simp] theorem title_addTargetDetails (card : Card) (target : Target) :
    (card.addTargetDetails target).title = card.title := by
  cases target <;> simp [addTargetDetails]

@[simp] theorem title_addCurrentTarget (card : Card) (fieldName : String)
    (target : Option Target) :
    (card.addCurrentTarget fieldName target).title = card.title := by
  cases target <;> simp [addCurrentTarget]

theorem isOfImage_stampedAt (card : Card) (timestamp : String) :
    (card.stampedAt timestamp).isOfImage = card.isOfImage := rfl

theorem isOfImage_newTarget (target : Target) (previous : Option Target)
    (flipHours : Option Binary64) (mount : Option Mount) (now : Moment) :
    (newTarget target previous flipHours mount now).isOfImage = false := by
  cases previous <;> simp [newTarget, isOfImage, titled]

theorem isOfImage_welcome (current : Option Target) (events images channels : Int)
    (flipHours : Option Binary64) (mount : Option Mount) (now : Moment) :
    (welcome current events images channels flipHours mount now).isOfImage = false := by
  cases current <;> simp [welcome, isOfImage, titled]

theorem title_event (event : Event) : (Card.event event).title = eventTitle event.kind := by
  unfold Card.event
  cases event.change? <;> simp [titled]

theorem isOfImage_event (event : Event) : (Card.event event).isOfImage = false := by
  unfold isOfImage
  rw [title_event]
  unfold eventTitle
  split
  · simp
  · split <;> simp

theorem title_mountEvent (event : Event) (current : Option Target) (mount : Option Mount) :
    (mountEvent event current mount).title = (mountStyle event.kind).1 := by
  simp [mountEvent, titled]

theorem isOfImage_mountEvent (event : Event) (current : Option Target) (mount : Option Mount) :
    (mountEvent event current mount).isOfImage = false := by
  unfold isOfImage
  rw [title_mountEvent]
  unfold mountStyle
  repeat' split
  all_goals simp

theorem title_autofocus {result : Autofocus} {card : Card} (written : autofocus result = .ok card) :
    card.title = "✅ Autofocus Completed" ∨ card.title = "⚠️ Autofocus Completed" := by
  unfold autofocus at written
  cases change : result.positionChange with
  | error fault => simp [change, bind, Except.bind] at written
  | ok change =>
      simp only [change, bind, Except.bind, pure, Except.pure, Except.ok.injEq] at written
      subst card
      cases result.isSuccessful <;> simp [titled]

/-- A card can be written if the change of position is a whole number. -/
theorem autofocus_of_positionChange {result : Autofocus} {change : Int}
    (known : result.positionChange = .ok change) : ∃ card, autofocus result = .ok card := by
  simp [autofocus, known, bind, Except.bind, pure, Except.pure]

theorem isOfImage_autofocus {result : Autofocus} {card : Card}
    (written : autofocus result = .ok card) : card.isOfImage = false := by
  unfold isOfImage
  rcases title_autofocus written with title | title <;> simp [title]

theorem isOfImage_image (image : Image) (current : Option Target) (skipped : Int)
    (flipHours : Option Binary64) (now : Moment) :
    (Card.image image current skipped flipHours now).isOfImage = true := by
  unfold Card.image isOfImage
  by_cases passed : 0 < skipped <;> simp [passed, titled]

/-! ## The number of images passed over -/

/-- A number reads back as it was written. -/
theorem leadingNumber_toString_append (number : Nat) (rest : String)
    (boundary : rest.toList.takeWhile Char.isDigit = []) :
    leadingNumber (toString number ++ rest) = number := by
  have digits : ∀ character ∈ Nat.toDigits 10 number, character.isDigit = true :=
    fun _ member => Nat.isDigit_of_mem_toDigits (by decide) (by decide) member
  unfold leadingNumber
  rw [String.toList_append, Nat.toString_eq_repr, Nat.toList_repr,
    List.takeWhile_append_of_pos digits, boundary, List.append_nil,
    Nat.ofDigitChars_ten_toDigits]

theorem value?_add_of_ne (card : Card) {name wanted : String} (value : String)
    (different : name ≠ wanted) : (card.add name value).value? wanted = card.value? wanted := by
  simp [value?, add, List.find?_append, different]

theorem value?_add_self (card : Card) {name : String} (value : String)
    (absent : card.value? name = none) : (card.add name value).value? name = some value := by
  unfold value? add at *
  rw [Option.map_eq_none_iff] at absent
  simp [List.find?_append, absent]

theorem value?_addFlip_of_ne (card : Card) (flipHours : Option Binary64) (now : Moment)
    {wanted : String} (different : "Meridian Flip In" ≠ wanted) :
    (card.addFlip flipHours now).value? wanted = card.value? wanted := by
  cases flipHours with
  | none => rfl
  | some hours => exact value?_add_of_ne card _ different

theorem value?_addCurrentTarget_of_ne (card : Card) {fieldName wanted : String}
    (target : Option Target) (different : fieldName ≠ wanted) :
    (card.addCurrentTarget fieldName target).value? wanted = card.value? wanted := by
  cases target with
  | none => rfl
  | some target => exact value?_add_of_ne card _ different

/-- Only the count of images passed over goes by that name. -/
theorem value?_image (image : Image) (current : Option Target) (skipped : Nat)
    (flipHours : Option Binary64) (now : Moment) :
    (Card.image image current skipped flipHours now).value? "Images Since Last Post" =
      if 0 < skipped then some (toString (skipped + 1) ++ " images") else none := by
  unfold Card.image
  simp (disch := decide) only [value?_addFlip_of_ne, value?_add_of_ne]
  by_cases passed : 0 < skipped
  · rw [if_pos (by omega), if_pos passed]
    refine value?_add_self _ _ ?_
    rw [value?_addCurrentTarget_of_ne _ _ (by decide)]
    rfl
  · rw [if_neg (by omega), if_neg passed, value?_addCurrentTarget_of_ne _ _ (by decide)]
    rfl

/-- The card of an image tells how many images were passed over before it. -/
theorem skippedImages_image (image : Image) (current : Option Target) (skipped : Nat)
    (flipHours : Option Binary64) (now : Moment) (timestamp : String) :
    ((Card.image image current skipped flipHours now).stampedAt timestamp).skippedImages =
      skipped := by
  change (((Card.image image current skipped flipHours now).value?
    "Images Since Last Post").map leadingNumber).getD 1 - 1 = skipped
  rw [value?_image]
  by_cases passed : 0 < skipped
  · have read : leadingNumber (toString (skipped + 1) ++ " images") = skipped + 1 :=
      leadingNumber_toString_append (skipped + 1) " images" (by decide)
    simp only [passed, if_true, Option.map_some, Option.getD_some, read]
    omega
  · simp only [passed, if_false, Option.map_none, Option.getD_none]
    omega

end ObservatoryWatch.Card
