import ObservatoryWatch.Card.Basic
import ObservatoryWatch.Json.Basic

/-!
The forms in which chat services receive a card: a plain text with marks for bold and
italic, the same as HTML, and an object with the card's parts.
-/

namespace ObservatoryWatch.Card

/-! ## Plain text -/

def plainField (field : Field) : String := "**" ++ field.name ++ "**: " ++ field.value

def toPlain (card : Card) : String :=
  "\n".intercalate (("**" ++ card.title ++ "**") :: "" :: card.fields.map plainField) ++ "\n" ++
    match card.shownFooter? with
    | some footer => "_" ++ footer ++ "_"
    | none => ""

/-! ## HTML -/

/-- What stands for a character in HTML text; a line break becomes a tag. -/
def htmlChar : Char → List Char
  | '&' => "&amp;".toList
  | '<' => "&lt;".toList
  | '>' => "&gt;".toList
  | '"' => "&quot;".toList
  | '\'' => "&#x27;".toList
  | '\n' => "<br/>".toList
  | character => [character]

def htmlText (text : String) : String := String.ofList (text.toList.flatMap htmlChar)

def htmlField (field : Field) : String :=
  "<strong>" ++ htmlText field.name ++ "</strong>: " ++ htmlText field.value ++ "<br/>"

def toHtml (card : Card) : String :=
  "<strong>" ++ htmlText card.title ++ "</strong><br/><br/>" ++
    String.join (card.fields.map htmlField) ++
    match card.shownFooter? with
    | some footer => "<em>" ++ htmlText footer ++ "</em>"
    | none => ""

/-! ## Embedded object -/

/-- The colour of a card that has none. -/
def defaultColor : Int := 0x808080

def embedField (field : Field) : Json :=
  .object
    [("name", .string field.name), ("value", .string field.value),
      ("inline", .bool field.isInline)]

/-- The members of the object; time stamp and footer only if they say anything. -/
def embedMembers (card : Card) : List (String × Json) :=
  [("title", .string card.title), ("color", .integer (card.color.getD defaultColor)),
      ("fields", .array (card.fields.map embedField))] ++
    (card.shownTimestamp?.map fun timestamp => ("timestamp", Json.string timestamp)).toList ++
    (card.shownFooter?.map fun footer =>
      ("footer", Json.object [("text", .string footer)])).toList

def toEmbed (card : Card) : Json := .object card.embedMembers

/-- The object with the image that is attached under a file name. -/
def toEmbedWithImage (card : Card) (filename : String) : Json :=
  .object (card.embedMembers ++
    [("image", .object [("url", .string ("attachment://" ++ filename))])])

end ObservatoryWatch.Card
