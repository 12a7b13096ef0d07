import ObservatoryWatch.Http.Url

/-!
The questions that the imaging interface answers.
-/

namespace ObservatoryWatch.Imaging

inductive Query where
  | version
  | events
  | images
  | sequence
  | mount
  | autofocus
  /-- The preview of the image at a position; a type restricts the counting to its images. -/
  | thumbnail (index : Int) (imageType : Option String)
  deriving DecidableEq, Repr

namespace Query

/-- What the question is about, as messages call it. -/
def subject : Query → String
  | version => "version"
  | events => "event history"
  | images => "image history"
  | sequence => "sequence"
  | mount => "mount info"
  | autofocus => "last autofocus"
  | thumbnail _ _ => "thumbnail"

def path : Query → String
  | version => "/version"
  | events => "/event-history"
  | images => "/image-history"
  | sequence => "/sequence/json"
  | mount => "/equipment/mount/info"
  | autofocus => "/equipment/focuser/last-af"
  | thumbnail index _ => "/image/thumbnail/" ++ toString index

def parameters : Query → List (String × String)
  | images => [("all", "true")]
  | thumbnail _ (some imageType) => if imageType.isEmpty then [] else [("imageType", imageType)]
  | _ => []

/-- The path under which the interface is found on its host. -/
def root : String := "/v2/api"

/-- The address of a question, given the address of the host. -/
def url (host : String) (query : Query) : Http.Url :=
  (Http.Url.ofText (Http.Url.withoutLastSlashes host ++ root ++ query.path)).withParameters
    query.parameters

end Query

end ObservatoryWatch.Imaging
