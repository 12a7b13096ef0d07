import ObservatoryWatch.Proofs.HistoryReading

/-!
How an event is read off its members.

An event without details of its own needs a time and a kind and nothing else. What is left over
beside them is tried as the details of one variant, and which one that is depends on the keys
alone; if it does not fit, the event has no details. A list of events is therefore never lost for
what stands beside the time and the kind of one of them.
-/

namespace ObservatoryWatch.Json.Members

theorem find?_filter {members : Members} (keep : String → Bool) {key : String}
    (kept : keep key = true) :
    find? (members.filter fun member => keep member.1) key = members.find? key := by
  unfold find?
  induction members with
  | nil => rfl
  | cons member rest induction =>
      obtain ⟨name, value⟩ := member
      by_cases same : key = name
      · subst same
        simp [kept]
      · have differs : (key == name) = false := beq_false_of_ne same
        cases stays : keep name <;> simp [stays, List.lookup_cons, differs, induction]

end ObservatoryWatch.Json.Members

namespace ObservatoryWatch.Observatory

open Payload Payload.Checked

variable {members : Json.Members} {event : Event}

/-! ## What the members tell -/

namespace Event

/-- The members are those of an event without details of its own. -/
def Flat (members : Json.Members) : Prop := members.has detailsKey = false

/-- Time and kind are texts; each wire name goes before the plain name. -/
structure Titled (members : Json.Members) (time kind : String) : Prop where
  time : ((members.find? "Time").or (members.find? "time")).bind Json.text? = some time
  kind : ((members.find? "Event").or (members.find? "kind")).bind Json.text? = some kind

/-- The members that are not the event's own. -/
def leftOver (members : Json.Members) : Json.Members :=
  members.filter fun member => !ownKeys.contains member.1

/-- An old and a new filter are given, and what is left over is a change of filters. -/
structure TellsChange (members : Json.Members) (change : FilterChange) : Prop where
  new : members.has "New" = true
  previous : members.has "Previous" = true
  fits : FilterChange.decode (.object (leftOver members)) = valid change

/-- A target is named, the filters are not both given, and what is left over is the start of a
target. -/
structure TellsStart (members : Json.Members) (start : TargetStart) : Prop where
  unchanged : ¬ (members.has "New" = true ∧ members.has "Previous" = true)
  named : members.has "TargetName" = true
  fits : TargetStart.decode (.object (leftOver members)) = valid start

/-- The event has the time and the kind that are told, and the details that are told beside them,
if any are. -/
structure ReadOff (members : Json.Members) (event : Event) : Prop where
  titled : Titled members event.time event.kind
  change_iff : ∀ change, event.details = some (.filterChange change) ↔ TellsChange members change
  start_iff : ∀ start, event.details = some (.targetStart start) ↔ TellsStart members start
  plain_iff : event.details = none ↔
    (∀ change, ¬ TellsChange members change) ∧ ∀ start, ¬ TellsStart members start

end Event

open Event

/-! ## What is left over -/

/-- A key that is not the event's own is left over exactly if it is given. -/
theorem has_leftOver {key : String} (foreign : ownKeys.contains key = false) :
    (leftOver members).has key = members.has key := by
  have kept : (!ownKeys.contains key) = true := by rw [foreign, Bool.not_false]
  exact congrArg Option.isSome (Json.Members.find?_filter (fun name => !ownKeys.contains name) kept)

namespace Details

variable {rest : Json.Members}

theorem beside_eq_filterChange_iff {change : FilterChange} :
    beside rest = some (.filterChange change) ↔
      (rest.has "New" = true ∧ rest.has "Previous" = true) ∧
        FilterChange.decode (.object rest) = valid change := by
  unfold beside
  split_ifs <;> simp_all [value?_eq_some_iff]

theorem beside_eq_targetStart_iff {start : TargetStart} :
    beside rest = some (.targetStart start) ↔
      ¬ (rest.has "New" = true ∧ rest.has "Previous" = true) ∧ rest.has "TargetName" = true ∧
        TargetStart.decode (.object rest) = valid start := by
  unfold beside
  split_ifs <;> simp_all [value?_eq_some_iff]

theorem eq_none_iff {details : Option Details} :
    details = none ↔ (∀ change, details ≠ some (.filterChange change)) ∧
      ∀ start, details ≠ some (.targetStart start) := by
  rcases details with _ | _ | _ <;> simp

end Details

/-! ## Single events -/

namespace Event

theorem titled_iff {time kind : String} :
    Titled members time kind ↔
      timeField.required text members = valid time ∧
        kindField.required text members = valid kind := by
  simp only [Field.required_eq_valid_iff, text_eq_valid_iff, ← Option.bind_eq_some_iff]
  exact ⟨fun titled => ⟨titled.time, titled.kind⟩, fun ⟨time, kind⟩ => ⟨time, kind⟩⟩

/-- Nothing but time and kind decides whether a flat event is accepted. -/
theorem decode_flat_iff (flat : Flat members) :
    Event.decode (.object members) = valid event ↔
      Titled members event.time event.kind ∧
        event.details = Details.beside (leftOver members) := by
  have decoded : Event.decode (.object members) =
      (fun time kind => mk time kind (Details.beside (leftOver members)))
        <$> timeField.required text members <*> kindField.required text members :=
    if_neg (Bool.eq_false_iff.mp flat)
  rw [decoded, titled_iff]
  simp only [seq_eq_valid_iff, map_eq_valid_iff]
  constructor
  · rintro ⟨_, ⟨time, timed, rfl⟩, kind, kinded, rfl⟩
    exact ⟨⟨timed, kinded⟩, rfl⟩
  · rintro ⟨⟨timed, kinded⟩, same⟩
    exact ⟨_, ⟨_, timed, rfl⟩, _, kinded, by rw [← same]⟩

theorem tellsChange_iff {change : FilterChange} :
    TellsChange members change ↔
      Details.beside (leftOver members) = some (.filterChange change) := by
  rw [Details.beside_eq_filterChange_iff, has_leftOver (by decide), has_leftOver (by decide)]
  exact ⟨fun tells => ⟨⟨tells.new, tells.previous⟩, tells.fits⟩,
    fun ⟨⟨new, previous⟩, fits⟩ => ⟨new, previous, fits⟩⟩

theorem tellsStart_iff {start : TargetStart} :
    TellsStart members start ↔
      Details.beside (leftOver members) = some (.targetStart start) := by
  rw [Details.beside_eq_targetStart_iff, has_leftOver (by decide), has_leftOver (by decide),
    has_leftOver (by decide)]
  exact ⟨fun tells => ⟨tells.unchanged, tells.named, tells.fits⟩,
    fun ⟨unchanged, named, fits⟩ => ⟨unchanged, named, fits⟩⟩

theorem readOff_of_decode (flat : Flat members)
    (decoded : Event.decode (.object members) = valid event) : ReadOff members event := by
  obtain ⟨titled, beside⟩ := (decode_flat_iff flat).mp decoded
  have change_iff (change : FilterChange) :
      event.details = some (.filterChange change) ↔ TellsChange members change := by
    rw [tellsChange_iff, beside]
  have start_iff (start : TargetStart) :
      event.details = some (.targetStart start) ↔ TellsStart members start := by
    rw [tellsStart_iff, beside]
  refine ⟨titled, change_iff, start_iff, ?_⟩
  -- There are two variants, and details of neither are no details.
  simp only [Details.eq_none_iff, ne_eq, change_iff, start_iff]

/-! ## Items of a history -/

/-- What an item of the history must be: a flat event with time and kind, or an event whose own
details fit it. -/
inductive Readable : Json → Prop where
  | flat {members : Json.Members} {time kind : String} (flat : Flat members)
      (titled : Titled members time kind) : Readable (.object members)
  | detailed {members : Json.Members} {event : Event} (detailed : ¬ Flat members)
      (fits : Event.decode (.object members) = valid event) : Readable (.object members)

theorem readable_iff {item : Json} : Readable item ↔ ∃ event, Event.decode item = valid event := by
  constructor
  · rintro (⟨flat, titled⟩ | ⟨_, fits⟩)
    · exact ⟨⟨_, _, _⟩, (decode_flat_iff flat).mpr ⟨titled, rfl⟩⟩
    · exact ⟨_, fits⟩
  · rintro ⟨event, decoded⟩
    cases item with
    | object members =>
        by_cases flat : Flat members
        · exact .flat flat ((decode_flat_iff flat).mp decoded).1
        · exact .detailed flat decoded
    | _ => cases decoded

end Event

end ObservatoryWatch.Observatory

namespace ObservatoryWatch.Imaging

open Observatory Payload Payload.Checked

variable {α W : Type}

/-! ## Histories of events -/

theorem exists_readInPlace_iff {decode : Decoder α} {items : List Json} :
    (∃ entries, ReadInPlace decode items entries) ↔
      ∀ item ∈ items, ∃ entry, decode item = valid entry := by
  simp only [readInPlace_iff]
  induction items with
  | nil => simp
  | cons item rest induction =>
      rw [List.forall_mem_cons, ← induction]
      constructor
      · rintro ⟨_, _ | ⟨first, remaining⟩⟩
        exact ⟨⟨_, first⟩, _, remaining⟩
      · rintro ⟨⟨entry, first⟩, entries, remaining⟩
        exact ⟨entry :: entries, .cons first remaining⟩

/-- A history of events is read exactly if each of its items is readable. -/
theorem events_read_iff {world : World (StateM W)} {client : Http.Client} {access : Access}
    {before after : W} {response : Http.Response} {envelope : Envelope} {items : List Json}
    (answered : Answered world client access .events before response after)
    (wraps : Wraps response envelope) (success : envelope.success = true)
    (listed : envelope.response = .array items) :
    (∃ events, ((Station.over world client access).events.run.run before).1 = .ok events) ↔
      ∀ item ∈ items, Event.Readable item := by
  have ran : ((Station.over world client access).events.run.run before).1 =
      (Answer.events response).mapError .imaging := congrArg Prod.fst (askFor_run answered)
  have whole := history_readWhole .events Event.decode response
  simp only [Event.readable_iff, ← exists_readInPlace_iff]
  rw [ran]
  refine exists_congr fun events => (whole.listed_iff events).trans ?_
  rw [lists_iff_of_success wraps success, listed]
  simp

end ObservatoryWatch.Imaging

namespace ObservatoryWatch.Observatory.Event

open Payload Payload.Checked Imaging

/-- A change of filters that has lost its old filter, with a tag of another variant. -/
def strayMembers : Json.Members :=
  [("Event", .string Kind.filterChanged), ("variant", .string targetStartTag),
    ("New", (Filter.mk (.whole "Ha") 2).toJson), ("Previous", .null), ("TargetName", .integer 31),
    ("Time", .string "8")]

end ObservatoryWatch.Observatory.Event
