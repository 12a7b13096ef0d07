import ObservatoryWatch.Card.Notice
import ObservatoryWatch.Text.Hexadecimal
import ObservatoryWatch.Text.Segment
import ObservatoryWatch.World

/-!
What a person at the console is shown of the histories and of the last autofocus run.

A history is shown as a table of its latest entries; images keep the position they
have in the whole history, since a thumbnail is asked for by that position.
-/

namespace ObservatoryWatch.Command

open Number Observatory

/-- A text, or a hyphen for an empty one. -/
def orHyphen (text : String) : String := if text.isEmpty then "-" else text

/-- A number with fixed places, or a hyphen where there is none. -/
def cellText (number : Binary64) (places : Nat) : String :=
  if number.isNaN then "-" else number.toFixedText places

/-- The significant digits of a number in a table. -/
def tableDigits : Nat := 6

/-- How many of so many entries are shown. -/
def tailTitle (count : Int) (total : Nat) (noun : String) : String :=
  "Last " ++ toString (min count total) ++ " of " ++ toString total ++ " " ++ noun

/-- The entries from a position on. A negative position counts from the end, and one that lies
before the first entry stands for it. -/
def entriesFrom {α : Type} (position : Int) (entries : List α) : List α :=
  entries.drop (if position < 0 then entries.length + position else position).toNat

example : entriesFrom (-2) ["a", "b", "c"] = ["b", "c"] ∧ entriesFrom (-0) ["a"] = ["a"] := by
  decide

/-! ## Lines

A console without layout of its own shows a table line by line, its cells padded to
the width of their columns. -/

/-- The widest cell of each column. -/
def columnWidths (rows : List (List String)) : List Nat :=
  rows.foldl (fun widths row =>
    (row.zipIdx.map fun (cell, index) => max cell.length (widths.getD index 0)) ++
      widths.drop row.length) []

def paddedCell (width : Nat) (cell : String) : String :=
  cell ++ String.ofList (List.replicate (width - cell.length) ' ')

def rowLine (widths : List Nat) (row : List String) : String :=
  "  ".intercalate (row.zipIdx.map fun (cell, index) => paddedCell (widths.getD index 0) cell)

def shownLines : Shown → List String
  | .line text => [text]
  | .table title columns rows =>
    let widths := columnWidths (columns :: rows)
    title :: rowLine widths columns :: rows.map (rowLine widths)

/-! ## Events -/

/-- The details of an event in one line. -/
def detailsText (event : Event) : String :=
  match event.details with
  | some (.filterChange change) => change.previous.name ++ " → " ++ change.new.name
  | some (.targetStart start) =>
    start.targetName ++
      (if start.projectName.isEmpty then "" else " (" ++ start.projectName ++ ")")
  | none => "-"

def eventRow (event : Event) : List String := [event.time, event.kind, detailsText event]

def eventTable (events : List Event) (count : Int) : Shown :=
  .table (tailTitle count events.length "events") ["Time", "Event", "Details"]
    ((entriesFrom (-count) events).map eventRow)

/-! ## Images -/

def imageRow (index : Nat) (image : Image) : List String :=
  [toString index, image.timestamp, image.imageType, orHyphen image.filter,
    image.exposureTime.toGeneralText tableDigits ++ "s", toString image.stars,
    cellText image.halfFluxRadius 2, orHyphen image.trackingText]

def imageTable (images : List Image) (count : Int) : Shown :=
  let start := max 0 (images.length - count)
  .table (tailTitle count images.length "images")
    ["#", "Date", "Type", "Filter", "Exposure", "Stars", "HFR", "RMS"]
    (((entriesFrom start images).zipIdx start.toNat).map fun (image, index) =>
      imageRow index image)

/-! ## Autofocus -/

def autofocusTable (result : Autofocus) : Except ConversionFault Shown := do
  let change ← result.positionChange
  let status :=
    if result.isSuccessful then "[green]successful[/green]"
    else "[yellow]questionable[/yellow]"
  return .table ("Last autofocus (" ++ status ++ ")") ["Field", "Value"]
    [["Filter", orHyphen result.filter], ["Method", orHyphen result.method],
      ["Fitting", orHyphen result.fitting], ["Duration", orHyphen result.duration],
      ["Temperature", cellText result.temperature 1 ++ "°C"],
      ["Focus position", result.foundPoint.position.toGeneralText tableDigits],
      ["Position change", withSign change],
      ["Best R²", result.fits.best.toFixedText 4],
      ["Measurements", toString result.measuredPoints.length]]

/-! ## Thumbnails -/

def jpegBeginning : Bytes := [0xFF, 0xD8, 0xFF]

def pngBeginning : Bytes := [0x89, 0x50, 0x4E, 0x47]

/-- The format of an image by its first octets. -/
def imageFormat (content : Bytes) : String :=
  if jpegBeginning.isPrefixOf content then "JPEG"
  else if pngBeginning.isPrefixOf content then "PNG"
  else "unknown (header: " ++ Text.hexText (content.take 4) ++ ")"

/-- A file path without empty and idle segments. -/
def plainPath (path : String) : String :=
  let segments :=
    (Text.segments '/' path).filter fun segment =>
      !(segment.isEmpty || segment == ".")
  let root :=
    if Text.startsWith path "//" && !Text.startsWith path "///" then "//"
    else if Text.startsWith path "/" then "/"
    else ""
  let whole := root ++ "/".intercalate segments
  if whole.isEmpty then "." else whole

example : plainPath "./a//b/../c.jpg" = "a/b/../c.jpg" := by decide +kernel

end ObservatoryWatch.Command
