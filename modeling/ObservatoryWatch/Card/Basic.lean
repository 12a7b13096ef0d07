/-!
Notification cards.

A card is what one notification says, before any chat service gives it a form of its
own: a title, a colour, named fields in order, a footer and a time stamp.
-/

namespace ObservatoryWatch

namespace Card

/-- A named line of a card; several inline fields may share a row. -/
structure Field where
  name : String
  value : String
  isInline : Bool
  deriving DecidableEq, Repr

end Card

structure Card where
  title : String
  color : Option Int
  fields : List Card.Field
  footer : Option String
  timestamp : Option String
  deriving DecidableEq, Repr

namespace Card

def titled (title : String) (color : Int) : Card :=
  { title, color := some color, fields := [], footer := none, timestamp := none }

def withFooter (card : Card) (footer : String) : Card := { card with footer := some footer }

def stampedAt (card : Card) (timestamp : String) : Card :=
  { card with timestamp := some timestamp }

/-- Adds a field that may share its row. -/
def add (card : Card) (name value : String) : Card :=
  { card with fields := card.fields ++ [⟨name, value, true⟩] }

/-- Adds a field that has a row of its own. -/
def addWide (card : Card) (name value : String) : Card :=
  { card with fields := card.fields ++ [⟨name, value, false⟩] }

/-- The value of the first field of a name. -/
def value? (card : Card) (name : String) : Option String :=
  (card.fields.find? (·.name == name)).map (·.value)

/-- The footer, if it says anything. -/
def shownFooter? (card : Card) : Option String := card.footer.filter (!·.isEmpty)

/-- The time stamp, if it says anything. -/
def shownTimestamp? (card : Card) : Option String := card.timestamp.filter (!·.isEmpty)

end Card

end ObservatoryWatch
