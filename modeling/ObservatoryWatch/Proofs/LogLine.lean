import ObservatoryWatch.Log.Entry
import ObservatoryWatch.Proofs.WrittenLine

/-!
Log lines.

An entry becomes one line, whatever stands in its texts, and from the line the same texts are read
under the same keys: the message and the error as they are after redaction, the channel if it says
something and the error if there is one. No text adds a line or a key.
-/

namespace ObservatoryWatch.Log.Entry

variable (made : Calendar.Moment) (logger : String) (record : Record) (error : Option LoggedError)

/-- The entry of a record, made by whichever logger and with or without an error. -/
def ofRecordBy : Entry := { ofRecord made record with logger, error }

/-- The text under each key of the line. -/
def told (key : String) : Option String :=
  match key with
  | "ts" => some made.utcText
  | "level" => some record.level.name
  | "logger" => some logger
  | "message" => some (Redaction.redact record.message)
  | "channel" => record.channel.filter (· ≠ "")
  | "exception" => error.map fun error => Redaction.redact error.line
  | _ => none

/-- The keys and texts of the line one after the other. -/
def texts : List (String × String) :=
  [("ts", made.utcText), ("level", record.level.name), ("logger", logger),
      ("message", Redaction.redact record.message)] ++
    ((record.channel.filter (· ≠ "")).map ("channel", ·)).toList ++
    (error.map fun error => ("exception", Redaction.redact error.line)).toList

theorem members_ofRecordBy :
    (ofRecordBy made logger record error).members =
      (texts made logger record error).map fun member => (member.1, .string member.2) := by
  have channel : (if saysNothing ((record.channel.map Json.string).getD .null) then []
      else [("channel", (record.channel.map Json.string).getD .null)]) =
        (((record.channel.filter (· ≠ "")).map ("channel", ·)).toList).map
          fun member => (member.1, Json.string member.2) := by
    cases record.channel with
    | none => rfl
    | some text => by_cases empty : text = "" <;> simp [saysNothing, Option.filter, empty]
  unfold members texts
  rw [List.map_append, List.map_append, ← channel]
  cases error <;> rfl

theorem nodup_keys :
    ((ofRecordBy made logger record error).members.map Prod.fst).Nodup := by
  rw [members_ofRecordBy]
  unfold texts
  cases record.channel.filter (· ≠ "") <;> cases error <;> simp

theorem find?_members (key : String) :
    Json.Members.find? (ofRecordBy made logger record error).members key =
      (told made logger record error key).map .string := by
  rw [Json.Members.find?, members_ofRecordBy]
  unfold texts told
  cases record.channel.filter (· ≠ "") <;> cases error <;> split <;>
    simp_all [List.lookup_cons, beq_false_of_ne]

theorem ofText?_line :
    Json.ofText? (ofRecordBy made logger record error).line =
      some (.object (ofRecordBy made logger record error).members) := by
  apply Json.Legible.ofText?_write
  refine .object ?_ (nodup_keys made logger record error)
  rw [members_ofRecordBy]
  exact List.forall_mem_map.mpr fun member _ => .string member.2

/-- An entry's line has no control character. It is the writing of an object with different keys and
is read as this object. Under its keys stand the entry's own moment, level and logger, message and
error after redaction, the channel exactly if it is not empty and the error exactly if there is one;
under any other key stands nothing. -/
theorem line_tells_entry :
    (∀ character ∈ (ofRecordBy made logger record error).line.toList, ' ' ≤ character) ∧
      ∃ members, (ofRecordBy made logger record error).line = Json.write .line (.object members) ∧
        Json.ofText? (ofRecordBy made logger record error).line = some (.object members) ∧
        (members.map Prod.fst).Nodup ∧
        ∀ key, Json.Members.find? members key =
          (told made logger record error key).map .string :=
  ⟨Json.oneLine_write _, _, rfl, ofText?_line made logger record error,
    nodup_keys made logger record error, find?_members made logger record error⟩

example : (ofRecordBy .first "watch" (.info "a\n\"b\": token=c") none).line =
    "\x7b\"ts\": \"0001-01-01T00:00:00+00:00\", \"level\": \"INFO\", \"logger\": \"watch\", " ++
      "\"message\": \"a\\n\\\"b\\\": token=[REDACTED]\"\x7d" := by decide +kernel

end ObservatoryWatch.Log.Entry
