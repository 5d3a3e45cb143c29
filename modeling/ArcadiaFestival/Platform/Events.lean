import ArcadiaFestival.Platform.Json

/-! The Kafka wire envelope. -/
namespace Arcadia

def schemaVersion : Int := 1

/-- One message on the bus. The text fields have type `τ`: `String` in an
envelope this service builds, any JSON value in one it decodes, since `decode`
does not look at their types. -/
structure Envelope (τ : Type) where
  eventType : τ
  aggregateType : τ
  aggregateId : τ
  payload : Fields
  producer : τ
  eventId : τ
  schemaVersion : Json
  occurredAt : DateTime
  correlationId : τ
  causationId : τ
  traceId : τ

namespace Envelope

/-- Keying by aggregate is what preserves the order of one aggregate's events. -/
def partitionKey {τ : Type} (envelope : Envelope τ) : τ := envelope.aggregateId

/-- `occurred_at` is written in UTC with a `Z`, and an empty optional id is
left out. -/
def toDict (rt : Runtime) (envelope : Envelope String) : Fields :=
  let occurred := (envelope.occurredAt.astimezoneUtc rt.localOffset).isoformat
  [("event_id", .str envelope.eventId),
    ("event_type", .str envelope.eventType),
    ("schema_version", envelope.schemaVersion),
    ("occurred_at", .str (Text.replace occurred "+00:00" "Z")),
    ("producer", .str envelope.producer),
    ("aggregate_type", .str envelope.aggregateType),
    ("aggregate_id", .str envelope.aggregateId),
    ("payload", .obj envelope.payload)] ++
  ([("correlation_id", envelope.correlationId), ("causation_id", envelope.causationId),
      ("trace_id", envelope.traceId)].filter (fun entry => entry.2 ≠ "")).map
    (fun entry => (entry.1, Json.str entry.2))

/-- `encode`. A time that UTC puts outside the years 1 to 9999 cannot be
converted. -/
def encode (rt : Runtime) (envelope : Envelope String) : Except Exn (List UInt8) := do
  let _ ← rt.timestamptz envelope.occurredAt
  return rt.dumps (.obj (envelope.toDict rt))

/-- The texts of which the empty ones are left out. -/
theorem storable_optional (entries : List (String × String))
    (hNames : ∀ entry ∈ entries, Text.storable entry.1 = true) :
    Json.fieldsStorable ((entries.filter fun entry => entry.2 ≠ "").map
      fun entry => (entry.1, Json.str entry.2)) =
      entries.all fun entry => Text.storable entry.2 := by
  induction entries with
  | nil => rfl
  | cons entry rest ih =>
      have hRest := ih fun entry h => hNames entry (List.mem_cons_of_mem _ h)
      have hName := hNames entry (List.mem_cons_self ..)
      rw [List.all_cons, ← hRest]
      by_cases hEmpty : entry.2 = ""
      · rw [List.filter_cons_of_neg (by simp [hEmpty]), hEmpty, Text.storable_empty, Bool.true_and]
      · rw [List.filter_cons_of_pos (by simp [hEmpty]), List.map_cons, Json.fieldsStorable, hName,
          Json.storable, Bool.true_and]

/-- The names and the time in the envelope can be stored, so that only the
values decide whether JSONB takes it. -/
theorem storable_toDict (rt : Runtime) (envelope : Envelope String) :
    (Json.obj (envelope.toDict rt)).storable =
      (Text.storable envelope.eventId && Text.storable envelope.eventType &&
        envelope.schemaVersion.storable && Text.storable envelope.producer &&
        Text.storable envelope.aggregateType && Text.storable envelope.aggregateId &&
        Json.fieldsStorable envelope.payload && Text.storable envelope.correlationId &&
        Text.storable envelope.causationId && Text.storable envelope.traceId) := by
  have hOccurred : Text.storable (Text.replace
      (envelope.occurredAt.astimezoneUtc rt.localOffset).isoformat "+00:00" "Z") = true :=
    Text.storable_replace _ (DateTime.storable_isoformat _) (by decide)
  have hNames : ∀ entry ∈ [("correlation_id", envelope.correlationId),
      ("causation_id", envelope.causationId), ("trace_id", envelope.traceId)],
      Text.storable entry.1 = true := by
    intro entry hEntry
    simp only [List.mem_cons, List.not_mem_nil, or_false] at hEntry
    rcases hEntry with rfl | rfl | rfl
    · show Text.storable "correlation_id" = true
      decide
    · show Text.storable "causation_id" = true
      decide
    · show Text.storable "trace_id" = true
      decide
  rw [Json.storable, toDict, Json.fieldsStorable_append, storable_optional _ hNames]
  rw [Json.fieldsStorable_cons (by decide), Json.fieldsStorable_cons (by decide),
    Json.fieldsStorable_cons (by decide), Json.fieldsStorable_cons (by decide),
    Json.fieldsStorable_cons (by decide), Json.fieldsStorable_cons (by decide),
    Json.fieldsStorable_cons (by decide), Json.fieldsStorable_cons (by decide)]
  simp only [Json.storable, Json.fieldsStorable, hOccurred, List.all_cons, List.all_nil,
    Bool.and_true, Bool.true_and, Bool.and_assoc]

/-- `isinstance(version, int) and version > 0`; a boolean is an integer. -/
def versionSupported : Json → Bool
  | .int n => 0 < n
  | .bool b => b
  | _ => false

/-- `decode` of a JSON object. -/
def decodeFields (rt : Runtime) (data : Fields) : Except Exn (Envelope Json) :=
  let required := ["event_id", "event_type", "aggregate_id", "occurred_at"]
  match required.find? (fun name => !(Json.get data name).truthy) with
  | some name => .error (.malformedEnvelope (name ++ " is required"))
  | none =>
      let version := (data.lookup "schema_version").getD (.int 0)
      if versionSupported version = false then
        .error (.malformedEnvelope ("unsupported schema version " ++ rt.repr version))
      else
        let occurred := Json.get data "occurred_at"
        match rt.fromisoformat (Text.replace (rt.str occurred) "Z" "+00:00") with
        | none =>
            .error (.malformedEnvelope
              ("occurred_at " ++ rt.repr occurred ++ " is not a timestamp"))
        | some parsed =>
            let build (payload : Fields) : Envelope Json := {
              eventType := Json.get data "event_type"
              aggregateType := (data.lookup "aggregate_type").getD (.str "")
              aggregateId := Json.get data "aggregate_id"
              payload := payload
              producer := (data.lookup "producer").getD (.str "")
              eventId := Json.get data "event_id"
              schemaVersion := version
              occurredAt := parsed
              correlationId := (data.lookup "correlation_id").getD (.str "")
              causationId := (data.lookup "causation_id").getD (.str "")
              traceId := (data.lookup "trace_id").getD (.str "") }
            match Json.get data "payload" with
            | .null => .ok (build [])
            | .obj payload => .ok (build payload)
            | _ => .error (.malformedEnvelope "payload must be a JSON object")

/-- What the consumer sets `correlation_id_var` to while it handles the
message, and so what an event that the handler enqueues carries as its
`correlation_id` and its `trace_id`. -/
def correlation (envelope : Envelope Json) : Json :=
  envelope.traceId.or (envelope.correlationId.or envelope.eventId)

/-- Only `JSONDecodeError` is turned into `MalformedEnvelope` when the bytes do
not load; any other exception of `json.loads` passes through. -/
def decode (rt : Runtime) (raw : List UInt8) : Except Exn (Envelope Json) :=
  match rt.loads raw with
  | .error (.builtin .jsonDecodeError message) =>
      .error (.malformedEnvelope ("not JSON: " ++ message))
  | .error e => .error e
  | .ok (.obj data) => decodeFields rt data
  | .ok _ => .error (.malformedEnvelope "envelope must be a JSON object")

end Envelope

/-- What the environment puts into an envelope: a fresh id, the time, and the
correlation id of the request or message being served. -/
structure Stamp where
  eventId : String
  occurredAt : DateTime
  correlationId : String

/-- `EnvelopeFactory.build`, as the publisher calls it: the correlation id is
the trace id as well. -/
def EnvelopeFactory.build (producer : String) (stamp : Stamp)
    (eventType aggregateType aggregateId : String) (payload : Fields) (causationId : String) :
    Envelope String where
  eventType := eventType
  aggregateType := aggregateType
  aggregateId := aggregateId
  payload := payload
  producer := producer
  eventId := stamp.eventId
  schemaVersion := .int schemaVersion
  occurredAt := stamp.occurredAt
  correlationId := stamp.correlationId
  causationId := causationId
  traceId := stamp.correlationId

end Arcadia
