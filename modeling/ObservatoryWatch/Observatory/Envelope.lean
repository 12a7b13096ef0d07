import ObservatoryWatch.Observatory.Event

/-!
The wrapper around every answer of the imaging interface.
-/

namespace ObservatoryWatch.Observatory

open Payload Payload.Checked

structure Envelope where
  response : Json
  error : String
  statusCode : Int
  success : Bool
  kind : String

namespace Envelope

def decode : Decoder Envelope := record "ApiEnvelope" fun members =>
  mk <$> Field.optional ⟨"Response", "response"⟩ .null anything members
    <*> Field.optional ⟨"Error", "error"⟩ "" text members
    <*> Field.optional ⟨"StatusCode", "status_code"⟩ 200 whole members
    <*> Field.optional ⟨"Success", "success"⟩ true truth members
    <*> Field.optional ⟨"Type", "type"⟩ "" text members

def toJson (envelope : Envelope) : Json :=
  .object
    [("response", envelope.response), ("error", .string envelope.error),
      ("status_code", .integer envelope.statusCode), ("success", .bool envelope.success),
      ("type", .string envelope.kind)]

end Envelope

end ObservatoryWatch.Observatory
