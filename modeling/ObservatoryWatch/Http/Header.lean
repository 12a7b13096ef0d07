import ObservatoryWatch.Text.Label

/-!
Headers of requests.

A header is written in ASCII. A text with other characters is refused before anything
is sent.
-/

namespace ObservatoryWatch.Http

open Text

/-- The header's value by which a request is made in the name of a token. -/
def authorization (token : String) : String := "Bearer " ++ token

/-- What keeps a value from being a header's, if anything does. -/
def headerFault? (value : String) : Option EncodingFault :=
  Encoding.ascii.fault? (points value.toList)

end ObservatoryWatch.Http
