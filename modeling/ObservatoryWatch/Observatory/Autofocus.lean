import ObservatoryWatch.Number.Conversion
import ObservatoryWatch.Observatory.Event

/-!
The result of an autofocus run.

The measured points are fitted by several curves; the best coefficient of
determination among them and the error of the point found decide whether the run
counts as successful.
-/

namespace ObservatoryWatch.Observatory

open Number Payload Payload.Checked

structure FocusPoint where
  position : Binary64
  value : Binary64
  error : Binary64
  deriving DecidableEq

namespace FocusPoint

def decode : Decoder FocusPoint := record "FocusPoint" fun members =>
  mk <$> Field.required ⟨"Position", "position"⟩ Payload.number members
    <*> Field.required ⟨"Value", "value"⟩ numberOrName members
    <*> Field.optional ⟨"Error", "error"⟩ (.ofNat 0) numberOrName members

def toJson (point : FocusPoint) : Json :=
  .object
    [("position", .float point.position), ("value", .float point.value),
      ("error", .float point.error)]

end FocusPoint

/-- How well each curve fits the measured points. -/
structure Fits where
  quadratic : Binary64
  hyperbolic : Binary64
  leftTrend : Binary64
  rightTrend : Binary64
  deriving DecidableEq

namespace Fits

def unknown : Fits := ⟨.nan, .nan, .nan, .nan⟩

def decode : Decoder Fits := record "RSquares" fun members =>
  mk <$> Field.optional ⟨"Quadratic", "quadratic"⟩ .nan numberOrName members
    <*> Field.optional ⟨"Hyperbolic", "hyperbolic"⟩ .nan numberOrName members
    <*> Field.optional ⟨"LeftTrend", "left_trend"⟩ .nan numberOrName members
    <*> Field.optional ⟨"RightTrend", "right_trend"⟩ .nan numberOrName members

def toJson (fits : Fits) : Json :=
  .object
    [("quadratic", .float fits.quadratic), ("hyperbolic", .float fits.hyperbolic),
      ("left_trend", .float fits.leftTrend), ("right_trend", .float fits.rightTrend)]

/-- The best of the fits that are numbers; minus infinity if there is none. -/
def best (fits : Fits) : Binary64 :=
  match [fits.quadratic, fits.hyperbolic, fits.leftTrend, fits.rightTrend].filter
      (!·.isNaN) with
  | [] => .infinite true
  | first :: rest =>
    rest.foldl (fun best fit => if best.isLess fit then fit else best) first

end Fits

structure Autofocus where
  filter : String
  focuserName : String
  timestamp : Option String
  temperature : Binary64
  method : String
  fitting : String
  duration : String
  initialPoint : FocusPoint
  foundPoint : FocusPoint
  measuredPoints : List FocusPoint
  fits : Fits
  deriving DecidableEq

namespace Autofocus

def decode : Decoder Autofocus := record "AutofocusResult" fun members =>
  mk <$> Field.optional ⟨"Filter", "filter"⟩ "" text members
    <*> Field.optional ⟨"AutoFocuserName", "auto_focuser_name"⟩ "" text members
    <*> Field.optional ⟨"Timestamp", "timestamp"⟩ none (nullable text) members
    <*> Field.optional ⟨"Temperature", "temperature"⟩ .nan numberOrName members
    <*> Field.optional ⟨"Method", "method"⟩ "" text members
    <*> Field.optional ⟨"Fitting", "fitting"⟩ "" text members
    <*> Field.optional ⟨"Duration", "duration"⟩ "" text members
    <*> Field.required ⟨"InitialFocusPoint", "initial_focus_point"⟩ FocusPoint.decode members
    <*> Field.required ⟨"CalculatedFocusPoint", "calculated_focus_point"⟩ FocusPoint.decode
      members
    <*> Field.optional ⟨"MeasurePoints", "measure_points"⟩ [] (Payload.list FocusPoint.decode)
      members
    <*> Field.optional ⟨"RSquares", "r_squares"⟩ .unknown Fits.decode members

def toJson (result : Autofocus) : Json :=
  .object
    [("filter", .string result.filter), ("auto_focuser_name", .string result.focuserName),
      ("timestamp", orNull .string result.timestamp),
      ("temperature", .float result.temperature), ("method", .string result.method),
      ("fitting", .string result.fitting), ("duration", .string result.duration),
      ("initial_focus_point", result.initialPoint.toJson),
      ("calculated_focus_point", result.foundPoint.toJson),
      ("measure_points", .array (result.measuredPoints.map FocusPoint.toJson)),
      ("r_squares", result.fits.toJson)]

/-- A fit must be better than this. -/
def leastFit : Binary64 := Decimal.toBinary64 ⟨false, 8, -1⟩

/-- The point found has no error and some curve fits well. -/
def isSuccessful (result : Autofocus) : Bool :=
  result.foundPoint.error.isEqual (.ofNat 0) && leastFit.isLess result.fits.best

/-- How far the focuser has moved, in whole steps. -/
def positionChange (result : Autofocus) : Except ConversionFault Int :=
  wholePart (result.foundPoint.position - result.initialPoint.position)

end Autofocus

end ObservatoryWatch.Observatory
