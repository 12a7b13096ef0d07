import ObservatoryWatch.Imaging.Station
import ObservatoryWatch.Proofs.Running
import ObservatoryWatch.Proofs.Transcript
import ObservatoryWatch.Proofs.Validity

/-!
How the histories are read.

A history is read as a whole or not at all: every item of the list has a place in the result, and
it is the same place. Whatever a server sends instead ends in a fault of the imaging interface, and
a failure that the interface reports of itself can be told from everything else by its category.
-/

namespace ObservatoryWatch.Imaging

open Observatory Payload Payload.Checked

variable {α W : Type}

/-! ## What a response holds -/

/-- The body is an envelope. -/
def Wraps (response : Http.Response) (envelope : Envelope) : Prop :=
  ∃ members, response.json? = some (.object members) ∧
    Envelope.decode (.object members) = valid envelope

/-- The entries are what the items are read as, each in the place of its item. -/
def ReadInPlace (decode : Decoder α) (items : List Json) (entries : List α) : Prop :=
  entries.length = items.length ∧
    ∀ (index : Nat) (item : Json) (entry : α), items[index]? = some item →
      entries[index]? = some entry → decode item = valid entry

/-- The interface reports success and gives a list whose items are read as the entries. -/
def Lists (decode : Decoder α) (response : Http.Response) (entries : List α) : Prop :=
  ∃ envelope items, Wraps response envelope ∧ envelope.success = true ∧
    envelope.response = .array items ∧ ReadInPlace decode items entries

/-- The interface reports that it has failed, and with which status. -/
def ReportsFailure (response : Http.Response) (status : Int) : Prop :=
  ∃ envelope, Wraps response envelope ∧ envelope.success = false ∧ envelope.statusCode = status

/-- A history comes to the entries that the response lists. If it lists none, there is a fault of
the imaging interface, and its category is that of a reported failure exactly if there is one. -/
structure ReadWhole (decode : Decoder α) (response : Http.Response)
    (outcome : Except ObservatoryWatch.Fault (List α)) : Prop where
  listed_iff : ∀ entries, outcome = .ok entries ↔ Lists decode response entries
  unlisted : (∀ entries, ¬ Lists decode response entries) →
    ∃ fault, outcome = .error (.imaging fault)
  reported_iff : ∀ status, ReportsFailure response status ↔
    ∃ fault, outcome = .error (.imaging fault) ∧ fault.category? = some .apiFailure ∧
      fault.statusCode? = some status

/-! ## From the body to the content -/

theorem Wraps.unique {response : Http.Response} {one other : Envelope}
    (first : Wraps response one) (second : Wraps response other) : one = other := by
  rcases first with ⟨members, read, decoded⟩
  rcases second with ⟨_, same, again⟩
  cases read.symm.trans same
  cases decoded.symm.trans again
  rfl

/-- What the layers before the records come to: content, a reported failure, or a fault of the
body or the envelope. -/
inductive Unwrapped (response : Http.Response) : Except Fault Json → Prop where
  | content {envelope : Envelope} (wraps : Wraps response envelope)
      (success : envelope.success = true) : Unwrapped response (.ok envelope.response)
  | reported {envelope : Envelope} {fault : Fault} (wraps : Wraps response envelope)
      (success : envelope.success = false) (category : fault.category? = some .apiFailure)
      (status : fault.statusCode? = some envelope.statusCode) :
      Unwrapped response (.error fault)
  | shapeless {fault : Fault} (unwrapped : ∀ envelope, ¬ Wraps response envelope)
      (category : fault.category? = none) : Unwrapped response (.error fault)

theorem content_unwrapped (query : Query) (response : Http.Response) :
    Unwrapped response (Answer.content query response) := by
  unfold Answer.content
  cases read : response.json? with
  | none =>
      have unwrapped : ∀ envelope, ¬ Wraps response envelope := by
        rintro envelope ⟨members, body, _⟩
        cases read.symm.trans body
      exact .shapeless unwrapped rfl
  | some value =>
      cases value with
      | object members =>
          cases decoded : Envelope.decode (.object members) with
          | valid envelope =>
              have wraps : Wraps response envelope := ⟨members, read, decoded⟩
              simp only [decoded, asResult, Answer.ofEnvelope]
              cases success : envelope.success with
              | true => exact .content wraps success
              | false => exact .reported wraps success rfl rfl
          | invalid problems =>
              have unwrapped : ∀ envelope, ¬ Wraps response envelope := by
                rintro envelope ⟨_, body, wrapped⟩
                cases read.symm.trans body
                cases decoded.symm.trans wrapped
              simp only [decoded, asResult]
              exact .shapeless unwrapped rfl
      | _ =>
          have unwrapped : ∀ envelope, ¬ Wraps response envelope := by
            rintro envelope ⟨members, body, _⟩
            cases read.symm.trans body
          exact .shapeless unwrapped rfl

/-! ## From the content to the entries -/

theorem readInPlace_iff {decode : Decoder α} {items : List Json} {entries : List α} :
    ReadInPlace decode items entries ↔
      List.Forall₂ (fun item entry => decode item = valid entry) items entries := by
  rw [List.forall₂_iff_get, ReadInPlace, eq_comm]
  simp only [List.getElem?_eq_some_iff, List.get_eq_getElem]
  constructor
  · rintro ⟨length, places⟩
    exact ⟨length, fun index item entry => places index _ _ ⟨item, rfl⟩ ⟨entry, rfl⟩⟩
  · rintro ⟨length, places⟩
    refine ⟨length, ?_⟩
    rintro index _ _ ⟨item, rfl⟩ ⟨entry, rfl⟩
    exact places index item entry

theorem records_eq_ok_iff {query : Query} {decode : Decoder α} {content : Json}
    {entries : List α} :
    Answer.records query decode content = .ok entries ↔
      ∃ items, content = .array items ∧ ReadInPlace decode items entries := by
  simp only [readInPlace_iff, ← list_eq_valid_iff]
  unfold Answer.records
  cases Payload.list decode content <;> simp [asResult]

/-- Content that is refused is refused by a fault without a category. -/
theorem category?_of_records {query : Query} {decode : Decoder α} {content : Json} {fault : Fault}
    (refused : Answer.records query decode content = .error fault) : fault.category? = none := by
  unfold Answer.records at refused
  cases read : (Payload.list decode content).asResult "list" with
  | ok items =>
      rw [read] at refused
      cases refused
  | error rejection =>
      rw [read] at refused
      cases refused
      rfl

/-! ## The whole history -/

theorem mapError_eq_ok_iff {result : Except Fault α} {value : α} :
    result.mapError ObservatoryWatch.Fault.imaging = .ok value ↔ result = .ok value := by
  cases result <;> simp [Except.mapError]

theorem mapError_eq_error_iff {result : Except Fault α} {fault : Fault} :
    result.mapError ObservatoryWatch.Fault.imaging = .error (.imaging fault) ↔
      result = .error fault := by
  cases result <;> simp [Except.mapError]

theorem lists_iff_of_success {decode : Decoder α} {response : Http.Response}
    {envelope : Envelope} (wraps : Wraps response envelope) (success : envelope.success = true)
    {entries : List α} :
    Lists decode response entries ↔
      ∃ items, envelope.response = .array items ∧ ReadInPlace decode items entries := by
  constructor
  · rintro ⟨other, items, again, _, listed, places⟩
    cases wraps.unique again
    exact ⟨items, listed, places⟩
  · rintro ⟨items, listed, places⟩
    exact ⟨envelope, items, wraps, success, listed, places⟩

theorem not_lists_of_failure {decode : Decoder α} {response : Http.Response}
    {envelope : Envelope} (wraps : Wraps response envelope) (failed : envelope.success = false)
    (entries : List α) : ¬ Lists decode response entries := by
  rintro ⟨other, items, again, success, _⟩
  cases wraps.unique again
  cases failed.symm.trans success

theorem reportsFailure_iff {response : Http.Response} {envelope : Envelope}
    (wraps : Wraps response envelope) {status : Int} :
    ReportsFailure response status ↔
      envelope.success = false ∧ envelope.statusCode = status := by
  constructor
  · rintro ⟨other, again, failed⟩
    cases wraps.unique again
    exact failed
  · exact fun failed => ⟨envelope, wraps, failed⟩

/-- The records are all that is left to be read once there is content. -/
theorem readWhole_of_success (query : Query) (decode : Decoder α) {response : Http.Response}
    {envelope : Envelope} (wraps : Wraps response envelope) (success : envelope.success = true) :
    ReadWhole decode response
      ((Answer.records query decode envelope.response).mapError .imaging) := by
  have listed_iff (entries : List α) :
      (Answer.records query decode envelope.response).mapError ObservatoryWatch.Fault.imaging =
          .ok entries ↔
        Lists decode response entries := by
    rw [mapError_eq_ok_iff, records_eq_ok_iff, lists_iff_of_success wraps success]
  refine ⟨listed_iff, fun unlisted => ?_, fun status => ?_⟩
  · cases read : Answer.records query decode envelope.response with
    | ok entries =>
        rw [read] at listed_iff
        exact absurd ((listed_iff entries).mp rfl) (unlisted entries)
    | error fault => exact ⟨fault, rfl⟩
  · rw [reportsFailure_iff wraps, success]
    constructor
    · rintro ⟨failed, _⟩
      cases failed
    · rintro ⟨fault, refused, category, _⟩
      have uncategorized := category?_of_records (mapError_eq_error_iff.mp refused)
      cases uncategorized.symm.trans category

theorem readWhole_of_failure (decode : Decoder α) {response : Http.Response}
    {envelope : Envelope} {fault : Fault} (wraps : Wraps response envelope)
    (failed : envelope.success = false) (category : fault.category? = some .apiFailure)
    (status : fault.statusCode? = some envelope.statusCode) :
    ReadWhole decode response (.error (.imaging fault)) := by
  refine ⟨fun entries => ?_, fun _ => ⟨fault, rfl⟩, fun code => ?_⟩
  · exact ⟨nofun, fun lists => absurd lists (not_lists_of_failure wraps failed entries)⟩
  · rw [reportsFailure_iff wraps]
    constructor
    · rintro ⟨_, rfl⟩
      exact ⟨fault, rfl, category, status⟩
    · rintro ⟨_, refused, _, told⟩
      cases refused
      exact ⟨failed, Option.some.inj (status.symm.trans told)⟩

theorem readWhole_of_unwrapped (decode : Decoder α) {response : Http.Response} {fault : Fault}
    (unwrapped : ∀ envelope, ¬ Wraps response envelope) (category : fault.category? = none) :
    ReadWhole decode response (.error (.imaging fault)) := by
  refine ⟨fun entries => ⟨nofun, ?_⟩, fun _ => ⟨fault, rfl⟩, fun code => ⟨?_, ?_⟩⟩
  · rintro ⟨envelope, _, wraps, _⟩
    exact absurd wraps (unwrapped envelope)
  · rintro ⟨envelope, wraps, _⟩
    exact absurd wraps (unwrapped envelope)
  · rintro ⟨_, refused, told, _⟩
    cases refused
    cases category.symm.trans told

theorem history_readWhole (query : Query) (decode : Decoder α) (response : Http.Response) :
    ReadWhole decode response
      ((Answer.content query response >>= Answer.records query decode).mapError .imaging) := by
  have unwrapped := content_unwrapped query response
  generalize Answer.content query response = content at unwrapped ⊢
  cases unwrapped with
  | content wraps success => exact readWhole_of_success query decode wraps success
  | reported wraps failed category status =>
      exact readWhole_of_failure decode wraps failed category status
  | shapeless unwrapped category => exact readWhole_of_unwrapped decode unwrapped category

/-! ## Asking for a history -/

/-- The question is put to the interface and answered by a response, at whatever attempt. -/
def Answered (world : World (StateM W)) (client : Http.Client) (access : Access) (query : Query)
    (before : W) (response : Http.Response) (after : W) : Prop :=
  (ask world client access query).run.run before = (.ok response, after)

section

variable {world : World (StateM W)} {client : Http.Client} {access : Access} {query : Query}
variable {before after : W} {response : Http.Response}

/-- A response of success ends the asking at once. -/
theorem answered_of_exchange (patient : 0 ≤ access.retries) (success : response.isSuccess = true)
    (exchanged : (world.exchange client (access.request query)).run.run before =
      (.ok (.ok response), after)) :
    Answered world client access query before response after := by
  have attempts : access.attempts = access.retries.toNat + 1 := by
    unfold Access.attempts
    omega
  have final : isFinal (.ok response) = true := by simp [isFinal, success]
  unfold Answered ask
  rw [attempts, askFrom]
  change (world.exchange client (access.request query) >>= _).run.run before = _
  rw [run_bind_ok exchanged, final, Bool.true_or, if_pos rfl, run_ofExcept, settle, success]
  rfl

/-- What is read from the response is what the asker gets. -/
theorem askFor_run {read : Http.Response → Except Fault α}
    (answered : Answered world client access query before response after) :
    (askFor world client access query read).run.run before =
      ((read response).mapError .imaging, after) := by
  unfold askFor
  rw [run_bind_ok answered, run_ofExcept]

end

def patience : Access := ⟨"http://station", 0, 2, 0⟩

/-- A response of success that lists items, each as it is written. -/
def listing (items : List String) : Http.Response :=
  ⟨200, Text.utf8 ("\x7b\"Response\": [" ++ ", ".intercalate items ++ "]\x7d")⟩

def opened : String := "\x7b\"Time\": \"8\", \"Event\": \"DOME-OPEN\"\x7d"

def shut : String := "\x7b\"time\": \"9\", \"kind\": \"DOME-SHUT\"\x7d"

/-- An event of no kind. -/
def nameless : String := "\x7b\"Time\": \"10\"\x7d"

/-- A station that answers every question with a list of these items. -/
def listingStation (items : List String) : Station (StateM Nat) :=
  Station.over (answering fun _ => .ok (listing items)) ⟨0, 0, none⟩ patience

end ObservatoryWatch.Imaging
