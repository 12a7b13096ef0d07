import ObservatoryWatch.Command.Execution
import ObservatoryWatch.Proofs.HistoryReading
import ObservatoryWatch.Rehearsal

/-!
Tables of the latest entries.

The events are cut off at a position counted from the end of their history, the images at one
counted from its beginning. For every count that is let through, also for one beyond the length of
the history, both leave the same part: the latest entries, each in a row of its own. An image keeps
the position that it has in the whole history, so a preview that is asked for by the number of a row
is the preview of the image in this row. A table is handed over to the console as it is; whether the
console draws it is for the console to say.
-/

namespace ObservatoryWatch.Command

open Imaging Observatory

variable {W α : Type}

/-! ## The latest entries -/

section

variable {count : Int} (positive : 0 < count) (entries : List α)
include positive

theorem entriesFrom_neg :
    entriesFrom (-count) entries = entries.drop (entries.length - count.toNat) := by
  have behind : -count < 0 := by omega
  have start : (entries.length + -count).toNat = entries.length - count.toNat := by omega
  rw [entriesFrom, if_pos behind, start]

theorem entriesFrom_max :
    entriesFrom (max 0 (entries.length - count)) entries =
      entries.drop (entries.length - count.toNat) := by
  have ahead : ¬ max 0 (entries.length - count) < 0 := by omega
  have start : (max 0 (entries.length - count)).toNat = entries.length - count.toNat := by omega
  rw [entriesFrom, if_neg ahead, start]

end

/-- The rows show so many of the latest entries of a history, or all of them if there are no more.
Each row tells an entry and, if it is numbered, the position that it has in the whole history. -/
structure ShowsLatest (history : List α) (count : Int) (tells : Nat → α → List String → Prop)
    (rows : List (List String)) : Prop where
  length : (rows.length : Int) = min count history.length
  shown : ∀ (place : Nat) (inside : place < rows.length), ∃ entry,
    history[history.length - rows.length + place]? = some entry ∧
      tells (history.length - rows.length + place) entry rows[place]

namespace ShowsLatest

variable {history : List α} {count : Int} {tells : Nat → α → List String → Prop}
  {rows : List (List String)}

theorem zipIdx_drop (positive : 0 < count) (history : List α) {row : Nat → α → List String}
    (made : ∀ position entry, tells position entry (row position entry)) :
    ShowsLatest history count tells
      (((history.drop (history.length - count.toNat)).zipIdx (history.length - count.toNat)).map
        fun (entry, index) => row index entry) := by
  have size : (((history.drop (history.length - count.toNat)).zipIdx
      (history.length - count.toNat)).map fun (entry, index) => row index entry).length =
        min count.toNat history.length := by
    rw [List.length_map, List.length_zipIdx, List.length_drop]
    omega
  constructor
  · rw [size]
    omega
  · intro place inside
    have start : history.length - min count.toNat history.length =
        history.length - count.toNat := by omega
    have within : history.length - count.toNat + place < history.length := by omega
    refine ⟨history[history.length - count.toNat + place], ?_, ?_⟩
    · rw [size, start]
      exact List.getElem?_eq_getElem within
    · simp only [size, start, List.getElem_map, List.getElem_zipIdx, List.getElem_drop]
      exact made _ _

/-- If a row does not tell the position, positions need not be counted. -/
theorem drop (positive : 0 < count) (history : List α) {tells : α → List String → Prop}
    {row : α → List String} (made : ∀ entry, tells entry (row entry)) :
    ShowsLatest history count (fun _ => tells)
      ((history.drop (history.length - count.toNat)).map row) := by
  have shows := zipIdx_drop positive history fun _ : Nat => made
  have unnumbered := List.map_map (g := row) (f := Prod.fst)
    (l := (history.drop (history.length - count.toNat)).zipIdx (history.length - count.toNat))
  rw [List.zipIdx_map_fst] at unnumbered
  exact unnumbered ▸ shows

/-- The title of a table tells how many rows it has. -/
theorem title (shows : ShowsLatest history count tells rows) (noun : String) :
    tailTitle count history.length noun =
      "Last " ++ toString rows.length ++ " of " ++ toString history.length ++ " " ++ noun := by
  rw [tailTitle, ← shows.length]
  rfl

end ShowsLatest

/-! ## Rows -/

/-- The cells of an event are its time, its kind and what its details are about: two filters, or a
target with its project, if it has one. -/
inductive TellsEvent : Event → List String → Prop where
  | plain (time kind : String) : TellsEvent ⟨time, kind, none⟩ [time, kind, "-"]
  | change (time kind : String) (change : FilterChange) :
      TellsEvent ⟨time, kind, some (.filterChange change)⟩
        [time, kind, change.previous.name ++ " → " ++ change.new.name]
  | target (time kind : String) {start : TargetStart} (alone : start.projectName = "") :
      TellsEvent ⟨time, kind, some (.targetStart start)⟩ [time, kind, start.targetName]
  | ofProject (time kind : String) {start : TargetStart} (named : start.projectName ≠ "") :
      TellsEvent ⟨time, kind, some (.targetStart start)⟩
        [time, kind, start.targetName ++ " (" ++ start.projectName ++ ")"]

/-- The cells of an image are its position, four of its texts and four of its numbers. An empty text
and a radius that is not a number are told by a hyphen. -/
structure TellsImage (position : Nat) (image : Image) (row : List String) : Prop where
  width : row.length = 8
  position : row[0]? = some (toString position)
  date : row[1]? = some image.timestamp
  kind : row[2]? = some image.imageType
  filter : row[3]? = some (if image.filter = "" then "-" else image.filter)
  exposure : row[4]? = some (image.exposureTime.toGeneralText 6 ++ "s")
  stars : row[5]? = some (toString image.stars)
  radius : row[6]? = some
    (if image.halfFluxRadius = .nan then "-" else image.halfFluxRadius.toFixedText 2)
  tracking : row[7]? = some (if image.trackingText = "" then "-" else image.trackingText)

theorem eventRow_tells (event : Event) : TellsEvent event (eventRow event) := by
  rcases event with ⟨time, kind, _ | change | start⟩
  · exact .plain time kind
  · exact .change time kind change
  · by_cases alone : start.projectName = ""
    · simpa [eventRow, detailsText, alone] using TellsEvent.target time kind alone
    · simpa [eventRow, detailsText, alone, String.append_assoc] using
        TellsEvent.ofProject time kind alone

theorem orHyphen_eq (text : String) : orHyphen text = if text = "" then "-" else text := by
  unfold orHyphen
  simp only [String.isEmpty_iff]

theorem cellText_eq (number : Binary64) (places : Nat) :
    cellText number places = if number = .nan then "-" else number.toFixedText places := by
  cases number <;> rfl

theorem imageRow_tells (position : Nat) (image : Image) :
    TellsImage position image (imageRow position image) := by
  unfold imageRow
  rw [orHyphen_eq, orHyphen_eq, cellText_eq]
  exact ⟨rfl, rfl, rfl, rfl, rfl, rfl, rfl, rfl, rfl⟩

/-! ## Tables -/

theorem eventTable_latest {count : Int} (positive : 0 < count) (events : List Event) :
    ∃ rows, ShowsLatest events count (fun _ => TellsEvent) rows ∧
      eventTable events count =
        .table ("Last " ++ toString rows.length ++ " of " ++ toString events.length ++ " events")
          ["Time", "Event", "Details"] rows := by
  have shows := ShowsLatest.drop positive events eventRow_tells
  refine ⟨_, shows, ?_⟩
  rw [eventTable, shows.title, entriesFrom_neg positive, String.append_assoc]
  rfl

theorem imageTable_latest {count : Int} (positive : 0 < count) (images : List Image) :
    ∃ rows, ShowsLatest images count TellsImage rows ∧
      imageTable images count =
        .table ("Last " ++ toString rows.length ++ " of " ++ toString images.length ++ " images")
          ["#", "Date", "Type", "Filter", "Exposure", "Stars", "HFR", "RMS"] rows := by
  have shows := ShowsLatest.zipIdx_drop positive images imageRow_tells
  have start : (max 0 (images.length - count)).toNat = images.length - count.toNat := by omega
  refine ⟨_, shows, ?_⟩
  rw [imageTable, shows.title, entriesFrom_max positive, start, String.append_assoc]
  rfl

/-- The address under which a station is asked for the preview at a position. -/
theorem preview_address (access : Access) (number : Nat) :
    (access.request (.thumbnail number none)).url =
      .ofText (Http.Url.withoutLastSlashes access.host ++ "/v2/api/image/thumbnail/" ++
        toString number) := by
  have path : Query.root ++ (Query.thumbnail number none).path =
      "/v2/api/image/thumbnail/" ++ toString number := by
    have whole : "/v2/api/image/thumbnail/" = Query.root ++ "/image/thumbnail/" := by decide
    rw [whole, String.append_assoc]
    rfl
  unfold Access.request Query.url
  dsimp only
  rw [String.append_assoc, path, String.append_assoc]
  rfl

/-- Each row begins with a number. At this position of the history is the image of the row, and a
preview that is asked for by this number is asked for at this position. -/
def NumbersPreviews (images : List Image) (rows : List (List String)) : Prop :=
  ∀ row ∈ rows, ∃ (number : Nat) (image : Image), row.head? = some (toString number) ∧
    images[number]? = some image ∧ TellsImage number image row ∧
      ∀ access : Access, (access.request (.thumbnail number none)).url =
        .ofText (Http.Url.withoutLastSlashes access.host ++ "/v2/api/image/thumbnail/" ++
          toString number)

theorem ShowsLatest.numbersPreviews {images : List Image} {count : Int} {rows : List (List String)}
    (shows : ShowsLatest images count TellsImage rows) : NumbersPreviews images rows := by
  intro row member
  rcases List.getElem_of_mem member with ⟨place, inside, rfl⟩
  rcases shows.shown place inside with ⟨image, found, tells⟩
  refine ⟨_, image, ?_, found, tells, fun access => preview_address access _⟩
  rw [List.head?_eq_getElem?]
  exact tells.position

/-! ## Queries that show them -/

section

variable (world : World (StateM W)) (settings : Settings)

/-- The station of a query, once its client is there. -/
abbrev queried (client : Http.Client) : Station (StateM W) :=
  .over world client (access settings)

variable {world settings} {client : Http.Client} {before opened after : W}
  (opening : (access settings).openClient world before = (client, opened))
include opening

theorem withStation_run {use : Station (StateM W) → Action (StateM W) Unit}
    {outcome : Except Fault Unit}
    (used : (use (queried world settings client)).run.run opened = (outcome, after)) :
    (withStation world settings use).run.run before =
      (outcome, (world.closeClient client after).2) := by
  have connected : (liftM ((access settings).openClient world) :
      Action (StateM W) Http.Client).run.run before = (.ok client, opened) :=
    congrArg (fun ran : Http.Client × W => (Except.ok ran.1, ran.2)) opening
  have closed : (world.closeClient client : Action (StateM W) Unit).run.run after =
      (.ok (), (world.closeClient client after).2) := rfl
  unfold withStation
  rw [run_bind_ok connected, run_andFinally used closed]

/-- A query ends with the command that answers for its outcome, once its client is closed. -/
theorem query_run {use : Station (StateM W) → Action (StateM W) Unit} {outcome : Except Fault Unit}
    (used : (use (queried world settings client)).run.run opened = (outcome, after)) :
    (query world settings use).run.run before =
      (answered world (ofExcept outcome)).run.run (world.closeClient client after).2 := by
  have ran := withStation_run opening used
  have same := run_ofExcept outcome (world.closeClient client after).2
  unfold query answered
  change ((withStation world settings use).run >>= _ : StateM W _).run before =
    ((ofExcept outcome : Action (StateM W) Unit).run >>= _ : StateM W _).run _
  rw [StateT.run_bind, StateT.run_bind, ran, same]

end

/-- Something is handed over to the console, and then the client is closed. If the console has drawn
it, the command ends well; if not, it ends as it does after any other fault of its query. -/
def HandsOver (world : World (StateM W)) (client : Http.Client) (shown : Shown) (before : W)
    (ran : Except Fault Ending × W) : Prop :=
  match (world.present shown).run.run before with
  | (.ok _, after) => ran = (.ok .done, (world.closeClient client after).2)
  | (.error fault, after) =>
    ran = (answered world (throw fault)).run.run (world.closeClient client after).2

section

variable {world : World (StateM W)} {settings : Settings} {client : Http.Client}
  {before opened after : W}
  (opening : (access settings).openClient world before = (client, opened))
include opening

theorem query_handsOver {use : Station (StateM W) → Action (StateM W) Unit} {shown : Shown}
    (used : (use (queried world settings client)).run.run opened =
      (world.present shown).run.run after) :
    HandsOver world client shown after ((query world settings use).run.run before) := by
  unfold HandsOver
  rcases drawing : (world.present shown).run.run after with ⟨fault | drawn, last⟩
  · exact query_run opening (used.trans drawing)
  · exact query_run opening (used.trans drawing)

theorem showEvents_handsOver {events : List Event} (count : Int)
    (fetched : (queried world settings client).events.run.run opened = (.ok events, after)) :
    HandsOver world client (eventTable events count) after
      ((query world settings (showEvents world count)).run.run before) :=
  query_handsOver opening (run_bind_ok fetched _)

theorem showImages_handsOver {images : List Image} (count : Int)
    (fetched : (queried world settings client).images.run.run opened = (.ok images, after)) :
    HandsOver world client (imageTable images count) after
      ((query world settings (showImages world count)).run.run before) :=
  query_handsOver opening (run_bind_ok fetched _)

end

/-- A query for a history, with a count that is let through, hands one table over to the console: a
row for each of so many of the latest entries, or of all if there are no more, in their order, under
a title that tells the number of rows and that of all entries. The rows of images begin with their
positions in the whole history, by which their previews are asked for. Then the client is closed. -/
theorem tables_show_latest {world : World (StateM W)} {settings : Settings} {client : Http.Client}
    {before opened : W} (opening : (access settings).openClient world before = (client, opened))
    {count : Int} (positive : 0 < count) :
    (∀ events after, (queried world settings client).events.run.run opened = (.ok events, after) →
      ∃ rows, ShowsLatest events count (fun _ => TellsEvent) rows ∧
        HandsOver world client
          (.table ("Last " ++ toString rows.length ++ " of " ++ toString events.length ++ " events")
            ["Time", "Event", "Details"] rows) after
          ((execute world settings (.events count)).run.run before)) ∧
    (∀ images after, (queried world settings client).images.run.run opened = (.ok images, after) →
      ∃ rows, ShowsLatest images count TellsImage rows ∧ NumbersPreviews images rows ∧
        HandsOver world client
          (.table ("Last " ++ toString rows.length ++ " of " ++ toString images.length ++ " images")
            ["#", "Date", "Type", "Filter", "Exposure", "Stars", "HFR", "RMS"] rows) after
          ((execute world settings (.images count)).run.run before)) := by
  have passes : ¬ count ≤ 0 := Int.not_le.mpr positive
  constructor
  · intro events after fetched
    rcases eventTable_latest positive events with ⟨rows, shows, table⟩
    refine ⟨rows, shows, ?_⟩
    rw [execute, if_neg passes, ← table]
    exact showEvents_handsOver opening count fetched
  · intro images after fetched
    rcases imageTable_latest positive images with ⟨rows, shows, table⟩
    refine ⟨rows, shows, shows.numbersPreviews, ?_⟩
    rw [execute, if_neg passes, ← table]
    exact showImages_handsOver opening count fetched

/-! ## An evening with three images -/

def stationSettings : Settings :=
  ⟨"http://station", .ofNat 30, 0, .ofNat 5, .ofNat 60, false, none, false, none, none, none, none,
    "info"⟩

/-- An image of the history as it is written. -/
def frame (timestamp : String) : String :=
  "\x7b\"Date\": \"" ++ timestamp ++ "\", \"CameraName\": \"A\", \"ImageType\": \"LIGHT\"\x7d"

/-- A rehearsal in which the station answers every question with three images. -/
def evening : World Rehearsal :=
  { Rehearsal.world with
    exchange := fun _ _ => return .ok (listing [frame "20:00", frame "20:05", frame "20:10"]) }

/-- The clients of a rehearsal are numbered. -/
theorem openClient_evening (settings : Settings) (script : Script) :
    (access settings).openClient evening script =
      (⟨script.clients, settings.timeout, some Access.userAgent⟩,
        { script with clients := script.clients + 1 }) :=
  rfl

/-- The first client of the evening. -/
def eveningClient : Http.Client := ⟨0, stationSettings.timeout, some Access.userAgent⟩

/-- What the station answers, and the world when it has answered. -/
def eveningImages : Except Fault (List Image) × Script :=
  (queried evening stationSettings eveningClient).images.run.run
    { Script.new .first with clients := 1 }

theorem tables_show_latest_two_of_three :
    (0 : Int) < 2 ∧ ∃ images rows, images.map (·.timestamp) = ["20:00", "20:05", "20:10"] ∧
      ShowsLatest images 2 TellsImage rows ∧ NumbersPreviews images rows ∧
      ((execute evening stationSettings (.images 2)).run.run (Script.new .first)).2.shown =
        [.table "Last 2 of 3 images"
          ["#", "Date", "Type", "Filter", "Exposure", "Stars", "HFR", "RMS"] rows] := by
  refine ⟨by decide, ?_⟩
  obtain ⟨told, unshown⟩ : eveningImages.1.toOption.map (·.map (·.timestamp)) =
      some ["20:00", "20:05", "20:10"] ∧ eveningImages.2.shown = [] := by decide +kernel
  rcases Option.map_eq_some_iff.mp told with ⟨images, fetched, stamps⟩
  have opening := openClient_evening stationSettings (Script.new .first)
  have answered : eveningImages = (.ok images, eveningImages.2) := eq_of_toOption fetched
  rcases (tables_show_latest opening (by decide : (0 : Int) < 2)).2 images _ answered with
    ⟨rows, shows, numbers, ran⟩
  have three : images.length = 3 := by simpa using congrArg List.length stamps
  have two : rows.length = 2 := by
    have length := shows.length
    omega
  refine ⟨images, rows, stamps, shows, numbers, ?_⟩
  rw [two, three] at ran
  change _ = (Except.ok Ending.done, _) at ran
  rw [ran]
  change _ :: eveningImages.2.shown = _
  rw [unshown]
  rfl

end ObservatoryWatch.Command
