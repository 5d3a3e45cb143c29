import ArcadiaFestival.Adapters.Repositories
import ArcadiaFestival.Platform.Kafka
import ArcadiaFestival.Platform.OutboxDelivery

/-! An envelope on its way to a consumer. It is either encoded by itself, or it is
a row of the outbox, which the database may hand back with the fields of its
objects in another order, and which a dispatcher gives to the producer. -/
namespace Arcadia
open Library

/-- `json.loads` undoes `json.dumps` on this value. -/
def Runtime.Rereads (rt : Runtime) (value : Json) : Prop := rt.loads (rt.dumps value) = .ok value

/-- The time of an envelope is read back from its text in UTC. -/
def Runtime.RereadsTime (rt : Runtime) (t : Timestamptz) : Prop :=
  rt.fromisoformat (DateTime.ofTimestamptz t).isoformat = some (.ofTimestamptz t)

namespace Envelope
variable {rt : Runtime} {envelope : Envelope String}

/-- An envelope with all that `decode` requires. -/
structure Complete (envelope : Envelope String) : Prop where
  eventId : envelope.eventId ≠ ""
  eventType : envelope.eventType ≠ ""
  aggregateId : envelope.aggregateId ≠ ""
  schemaVersion : ∃ version : Int, 0 < version ∧ envelope.schemaVersion = .int version

/-- What was sent and what was decoded agree in every field, the time of the
event included. -/
structure Arrives (rt : Runtime) (sent : Envelope String) (got : Envelope Json) : Prop where
  eventType : got.eventType = .str sent.eventType
  aggregateType : got.aggregateType = .str sent.aggregateType
  aggregateId : got.aggregateId = .str sent.aggregateId
  payload : Json.Same (.obj sent.payload) (.obj got.payload)
  producer : got.producer = .str sent.producer
  eventId : got.eventId = .str sent.eventId
  schemaVersion : got.schemaVersion = sent.schemaVersion
  occurredAt : got.occurredAt.Aware ∧ got.occurredAt.SameInstant rt sent.occurredAt
  correlationId : got.correlationId = .str sent.correlationId
  causationId : got.causationId = .str sent.causationId
  traceId : got.traceId = .str sent.traceId

/-- The text of a time in UTC ends with a `Z`, which can be turned back. -/
theorem replace_occurred (t : Timestamptz) : ∃ body : String,
    Text.replace (DateTime.ofTimestamptz t).isoformat "+00:00" "Z" = body ++ "Z" ∧
      Text.replace (body ++ "Z") "Z" "+00:00" = (DateTime.ofTimestamptz t).isoformat := by
  obtain ⟨body, hText, hPlus, hZ⟩ := DateTime.isoformat_ofTimestamptz t
  have hOffset : "+00:00".toList = '+' :: "00:00".toList := rfl
  have hUtc : "Z".toList = 'Z' :: "".toList := rfl
  have hWritten : Text.replace (body ++ "+00:00") "+00:00" "Z" = body ++ "Z" := by
    rw [Text.replace, String.toList_append, hOffset, Text.replaceChars_append _ hPlus]
    rw [show Text.replaceChars ('+' :: "00:00".toList) "Z".toList 0 ('+' :: "00:00".toList) =
      "Z".toList by decide, ← String.toList_append, String.ofList_toList]
  have hRead : Text.replace (body ++ "Z") "Z" "+00:00" = body ++ "+00:00" := by
    rw [Text.replace, String.toList_append, hUtc, Text.replaceChars_append _ hZ]
    rw [show Text.replaceChars ('Z' :: "".toList) "+00:00".toList 0 ('Z' :: "".toList) =
      "+00:00".toList by decide, ← String.toList_append, String.ofList_toList]
  rw [hText]
  exact ⟨body, hWritten, hRead⟩

/-- What is left of an optional text once an empty one has been left out. -/
theorem lookup_optional (entries : List (String × String)) (name : String)
    (hNames : (entries.map Prod.fst).Nodup) :
    (((entries.filter fun entry => entry.2 ≠ "").map fun entry =>
      (entry.1, Json.str entry.2)).lookup name).getD (.str "") =
      .str ((entries.lookup name).getD "") := by
  induction entries with
  | nil => rfl
  | cons entry rest ih =>
      obtain ⟨key, text⟩ := entry
      rw [List.map_cons, List.nodup_cons] at hNames
      have hRest := ih hNames.2
      rw [List.lookup_cons]
      by_cases hEmpty : text = ""
      · rw [List.filter_cons_of_neg (by simp [hEmpty]), hRest]
        by_cases hName : name = key
        · have hAbsent : rest.lookup name = none := by
            rw [List.lookup_eq_none_iff]
            intro entry hEntry
            have hOther : entry.1 ≠ key := by
              intro h
              apply hNames.1
              exact List.mem_map.mpr ⟨entry, hEntry, h⟩
            simpa [hName] using hOther.symm
          rw [hAbsent, hName, beq_self_eq_true, hEmpty]
          rfl
        · rw [beq_eq_false_iff_ne.mpr hName]
      · rw [List.filter_cons_of_pos (by simp [hEmpty]), List.map_cons, List.lookup_cons]
        cases name == key with
        | true => rfl
        | false => exact hRest

/-- The names under which `to_dict` writes, in the order of the source. -/
theorem names_toDict : ((envelope.toDict rt).map Prod.fst).Nodup := by
  have hNames : ((envelope.toDict rt).map Prod.fst).Sublist ["event_id", "event_type",
      "schema_version", "occurred_at", "producer", "aggregate_type", "aggregate_id", "payload",
      "correlation_id", "causation_id", "trace_id"] := by
    rw [toDict, List.map_append, List.map_map]
    exact (List.Sublist.refl _).append (List.filter_sublist.map Prod.fst)
  exact hNames.nodup (by decide)

theorem toDict_optional {name : String}
    (hName : name ∉ ["event_id", "event_type", "schema_version", "occurred_at", "producer",
      "aggregate_type", "aggregate_id", "payload"]) :
    ((envelope.toDict rt).lookup name).getD (.str "") =
      .str ((List.lookup name [("correlation_id", envelope.correlationId),
        ("causation_id", envelope.causationId), ("trace_id", envelope.traceId)]).getD "") := by
  rw [toDict, List.lookup_append, List.lookup_eq_none_iff.mpr, Option.none_or, lookup_optional]
  · change ["correlation_id", "causation_id", "trace_id"].Nodup
    decide
  · intro field hField
    rw [bne_iff_ne]
    intro h
    apply hName
    rw [h]
    exact List.mem_map_of_mem hField

/-- What `decode` reads from an object with the fields of `to_dict`, in
whatever order they are listed. -/
structure Holds (rt : Runtime) (envelope : Envelope String) (data body : Fields) : Prop where
  eventId : Json.get data "event_id" = .str envelope.eventId
  eventType : Json.get data "event_type" = .str envelope.eventType
  schemaVersion : Json.Same envelope.schemaVersion ((data.lookup "schema_version").getD (.int 0))
  occurredAt : Json.get data "occurred_at" =
    .str (Text.replace (envelope.occurredAt.astimezoneUtc rt.localOffset).isoformat "+00:00" "Z")
  producer : (data.lookup "producer").getD (.str "") = .str envelope.producer
  aggregateType : (data.lookup "aggregate_type").getD (.str "") = .str envelope.aggregateType
  aggregateId : Json.get data "aggregate_id" = .str envelope.aggregateId
  payload : Json.get data "payload" = .obj body
  samePayload : Json.Same (.obj envelope.payload) (.obj body)
  correlationId : (data.lookup "correlation_id").getD (.str "") = .str envelope.correlationId
  causationId : (data.lookup "causation_id").getD (.str "") = .str envelope.causationId
  traceId : (data.lookup "trace_id").getD (.str "") = .str envelope.traceId

theorem holds_of_same {data : Fields} (h : Json.Same (.obj (envelope.toDict rt)) (.obj data)) :
    ∃ body, Holds rt envelope data body := by
  have hLookup := h.lookup names_toDict
  have hText {name text : String} {default : Json}
      (hWritten : ((envelope.toDict rt).lookup name).getD default = .str text) :
      (data.lookup name).getD default = .str text := by
    have hSame := Json.same_getD (hLookup name) default
    rw [hWritten] at hSame
    generalize (data.lookup name).getD default = value at hSame
    cases hSame
    rfl
  have hPayload : Json.Same (.obj envelope.payload) (Json.get data "payload") :=
    Json.same_getD (hLookup "payload") .null
  obtain ⟨body, hBody⟩ := hPayload.of_obj
  exact ⟨body, {
    eventId := hText rfl
    eventType := hText rfl
    schemaVersion := Json.same_getD (hLookup "schema_version") (.int 0)
    occurredAt := hText rfl
    producer := hText rfl
    aggregateType := hText rfl
    aggregateId := hText rfl
    payload := hBody
    samePayload := hBody ▸ hPayload
    correlationId := hText (toDict_optional (by decide))
    causationId := hText (toDict_optional (by decide))
    traceId := hText (toDict_optional (by decide)) }⟩

theorem decodeFields_of_holds {data body : Fields} {t : Timestamptz} (hComplete : envelope.Complete)
    (hTime : rt.timestamptz envelope.occurredAt = .ok t) (hReads : rt.RereadsTime t)
    (h : Holds rt envelope data body) :
    ∃ got, decodeFields rt data = .ok got ∧ envelope.Arrives rt got ∧ got.payload = body := by
  obtain ⟨version, hPositive, hVersion⟩ := hComplete.schemaVersion
  have hSchema : (data.lookup "schema_version").getD (.int 0) = .int version := by
    have hSame := h.schemaVersion
    rw [hVersion] at hSame
    generalize (data.lookup "schema_version").getD (.int 0) = value at hSame
    cases hSame
    rfl
  have hUtc := DateTime.astimezoneUtc_of_stored hTime
  have hOccurred := h.occurredAt
  rw [hUtc] at hOccurred
  obtain ⟨text, hWritten, hRead⟩ := replace_occurred t
  rw [hWritten] at hOccurred
  have hParsed : rt.fromisoformat (Text.replace (rt.str (.str (text ++ "Z"))) "Z" "+00:00") =
      some (.ofTimestamptz t) := by
    rw [Runtime.str, hRead]
    exact hReads
  have hText {text : String} (h : text ≠ "") : (!(Json.str text).truthy) = false := by
    rw [Json.truthy, bne_iff_ne.mpr h]
    rfl
  have hRequired : ["event_id", "event_type", "aggregate_id", "occurred_at"].find?
      (fun name => !(Json.get data name).truthy) = none := by
    have hZ : text ++ "Z" ≠ "" := by simp
    simp only [List.find?, h.eventId, h.eventType, h.aggregateId, hOccurred,
      hText hComplete.eventId, hText hComplete.eventType, hText hComplete.aggregateId, hText hZ]
  have hSupported : versionSupported (.int version) = true := decide_eq_true hPositive
  refine ⟨{
    eventType := .str envelope.eventType
    aggregateType := .str envelope.aggregateType
    aggregateId := .str envelope.aggregateId
    payload := body
    producer := .str envelope.producer
    eventId := .str envelope.eventId
    schemaVersion := .int version
    occurredAt := .ofTimestamptz t
    correlationId := .str envelope.correlationId
    causationId := .str envelope.causationId
    traceId := .str envelope.traceId }, ?_, ?_⟩
  · rw [decodeFields, hRequired]
    dsimp only
    rw [hSchema, hSupported, if_neg (by decide), hOccurred, hParsed, h.payload]
    dsimp only
    rw [h.eventId, h.eventType, h.aggregateId, h.aggregateType, h.producer, h.correlationId,
      h.causationId, h.traceId]
  · refine ⟨?_, rfl⟩
    exact {
      eventType := rfl
      aggregateType := rfl
      aggregateId := rfl
      payload := h.samePayload
      producer := rfl
      eventId := rfl
      schemaVersion := hVersion.symm
      occurredAt := ⟨rfl, DateTime.sameInstant_of_stored hTime⟩
      correlationId := rfl
      causationId := rfl
      traceId := rfl }

/-- The envelope arrives whatever the order in which the fields of the object
come, since `decode` looks each of them up by its name. -/
theorem decode_of_same {raw : List UInt8} {value : Json} {t : Timestamptz}
    (hComplete : envelope.Complete) (hTime : rt.timestamptz envelope.occurredAt = .ok t)
    (hReads : rt.RereadsTime t) (hSame : Json.Same (.obj (envelope.toDict rt)) value)
    (hRaw : rt.loads raw = .ok value) :
    ∃ data got, value = .obj data ∧ decode rt raw = .ok got ∧ envelope.Arrives rt got ∧
      Json.get data "payload" = .obj got.payload := by
  obtain ⟨data, rfl⟩ := hSame.of_obj
  obtain ⟨body, hHolds⟩ := holds_of_same hSame
  obtain ⟨got, hGot, hArrives, rfl⟩ := decodeFields_of_holds hComplete hTime hReads hHolds
  refine ⟨data, got, rfl, ?_, hArrives, hHolds.payload⟩
  rw [decode, hRaw]
  exact hGot

end Envelope

/-- The row as the database holds it: `JSONB` keeps the value, not the order of
its fields. -/
structure OutboxMessage.StoredAs (row stored : OutboxMessage) : Prop where
  topic : stored.topic = row.topic
  partitionKey : stored.partitionKey = row.partitionKey
  envelope : Json.Same row.envelope stored.envelope

/-- The envelope survives the wire. An envelope with all that `decode`
requires, at a time that has a form in UTC, is decoded from its own encoding
with every field it had. It is also decoded from every record a dispatcher
gives to the producer for the row the publisher wrote, in every run of the
dispatchers, and the key of the record is its aggregate id. -/
theorem Envelope.survives_wire {rt : Runtime} {envelope : Envelope String} {t : Timestamptz}
    (hComplete : envelope.Complete) (hTime : rt.timestamptz envelope.occurredAt = .ok t)
    (hReads : rt.RereadsTime t) :
    (rt.Rereads (.obj (envelope.toDict rt)) →
      ∃ raw got, envelope.encode rt = .ok raw ∧ decode rt raw = .ok got ∧
        envelope.Arrives rt got ∧ got.payload = envelope.payload) ∧
    ∀ (cfg : Config) (env : Env) (eventType aggregateType aggregateId : String) (payload : Fields)
      (topic causationId : String),
      envelope = EnvelopeFactory.build cfg.serviceName env.stamp eventType aggregateType aggregateId
        payload causationId →
      ∀ events, ∀ stored ∈ (Trace.run Relay.step (.initial .empty) events).table.rows,
        (OutboxEventPublisher.message cfg rt env eventType aggregateType aggregateId payload topic
          causationId).StoredAs stored →
        rt.Rereads stored.envelope →
        ∀ sent ∈ (Trace.run Relay.step (.initial .empty) events).sent, sent.id = stored.id →
          ∃ got, decode rt (Producer.send rt sent.topic sent.key sent.value).value = .ok got ∧
            envelope.Arrives rt got ∧
            (Producer.send rt sent.topic sent.key sent.value).key =
              some (Text.encode envelope.aggregateId) := by
  constructor
  · intro hRereads
    obtain ⟨data, got, hData, hGot, hArrives, hPayload⟩ :=
      decode_of_same hComplete hTime hReads (.refl _) hRereads
    have hEncoded : envelope.encode rt = .ok (rt.dumps (.obj (envelope.toDict rt))) := by
      rw [encode, hTime]
      rfl
    obtain rfl := Json.obj.inj hData
    exact ⟨_, got, hEncoded, hGot, hArrives, (Json.obj.inj hPayload).symm⟩
  · intro cfg env eventType aggregateType aggregateId payload topic causationId hBuilt events stored
      hStored hSame hRereads sent hSent hId
    obtain ⟨row, hRow, hSentId, -, hKey, hValue⟩ := (Relay.run_sound events).content sent hSent
    obtain rfl := KeyedTable.eq_of_key_eq _ hRow hStored (hSentId.symm.trans hId)
    have hDict : Json.Same (.obj (envelope.toDict rt)) row.envelope := by
      rw [hBuilt]
      exact hSame.envelope
    have hPartition : sent.key = envelope.aggregateId := by
      rw [hKey, hSame.partitionKey, hBuilt]
      rfl
    rw [hValue, hPartition]
    obtain ⟨_, got, _, hGot, hArrives, _⟩ :=
      decode_of_same hComplete hTime hReads hDict hRereads
    exact ⟨got, hGot, hArrives, if_neg hComplete.aggregateId⟩

namespace Envelope.Sample

/-- `json.dumps(value, separators=(",", ":"))` -/
def compact : Json → String := Json.print "," ":"

def cfg : Config := ⟨"festival-service", "festival-events"⟩

def env : Env where
  now := ⟨1785153600000000, some 0⟩
  startsNow := ⟨1785153600000000, some 0⟩
  endsNow := ⟨1785153600000000, some 0⟩
  newId := "fest-1"
  audience := .ok []
  stamp := ⟨"event-1", ⟨1785153600000000, some 0⟩, "request-1"⟩
  fault _ := none
  commit := .committed
  skipped := 0

def envelope : Envelope String :=
  EnvelopeFactory.build cfg.serviceName env.stamp "FestivalCreated" "festival" "fest-1"
    [("name", .str "Summer")] ""

def fields : Fields := envelope.toDict (.ascii fun _ => .ok .null)

/-- The order `JSONB` gives to the fields of an object. -/
def stored : Fields :=
  fields.insertionSort fun a b => a.1.length < b.1.length ∨ a.1.length = b.1.length ∧ a.1 ≤ b.1

def loads (raw : List UInt8) : Except Exn Json :=
  if raw = Text.encode (compact (.obj fields)) then .ok (.obj fields)
  else if raw = Text.encode (compact (.obj stored)) then .ok (.obj stored)
  else .error (.builtin .jsonDecodeError "Expecting value")

def rt : Runtime :=
  { Runtime.ascii loads with
    dumps value := Text.encode (compact value)
    fromisoformat text :=
      if text = "2026-07-27T12:00:00+00:00" then some ⟨1785153600000000, some 0⟩ else none }

def row : OutboxMessage :=
  { OutboxEventPublisher.message cfg rt env "FestivalCreated" "festival" "fest-1"
      [("name", .str "Summer")] "" "" with
    id := 1
    envelope := .obj stored }

/-- The row is enqueued, claimed and sent. -/
def events : List Relay.Event :=
  [.enqueue row, .claim 0 100, .send 0 (.ok ⟨1785153601000000, some 0⟩)]

/-- The last second of the year 9999, an hour west of UTC. In UTC it is a time
that Python cannot hold. -/
def late : Envelope String :=
  { envelope with occurredAt := ⟨253402300799000000, some (-3600000000)⟩ }

theorem complete : envelope.Complete where
  eventId := by decide
  eventType := by decide
  aggregateId := by decide
  schemaVersion := ⟨1, by decide, rfl⟩

theorem rt_dumps (value : Json) : rt.dumps value = Text.encode (compact value) := rfl

theorem rt_loads : rt.loads = loads := rfl

theorem rereads_fields : rt.Rereads (.obj fields) := by
  rw [Runtime.Rereads, rt_dumps, rt_loads, loads, if_pos rfl]

theorem rereads_stored : rt.Rereads (.obj stored) := by
  have hOther : Text.encode (compact (.obj stored)) ≠ Text.encode (compact (.obj fields)) := by
    decide +kernel
  rw [Runtime.Rereads, rt_dumps, rt_loads, loads, if_neg hOther, if_pos rfl]

end Envelope.Sample

open Envelope.Sample in
theorem Envelope.survives_wire_sample :
    (∃ raw got, envelope.encode rt = .ok raw ∧ decode rt raw = .ok got ∧
      envelope.Arrives rt got ∧ got.payload = envelope.payload) ∧
    ∃ sent ∈ (Trace.run Relay.step (.initial .empty) events).sent,
      ∃ got, decode rt (Producer.send rt sent.topic sent.key sent.value).value = .ok got ∧
        envelope.Arrives rt got ∧
        (Producer.send rt sent.topic sent.key sent.value).key =
          some (Text.encode envelope.aggregateId) := by
  have hTime : rt.timestamptz envelope.occurredAt = .ok 1785153600000000 := by decide
  have hReads : rt.RereadsTime 1785153600000000 := by
    unfold Runtime.RereadsTime
    decide +kernel
  obtain ⟨hDecoded, hSent⟩ := survives_wire complete hTime hReads
  have hStored : row ∈ (Trace.run Relay.step (.initial .empty) events).table.rows :=
    List.mem_singleton.mpr rfl
  have hSame : (OutboxEventPublisher.message cfg rt env "FestivalCreated" "festival" "fest-1"
      [("name", .str "Summer")] "" "").StoredAs row :=
    ⟨rfl, rfl, .obj (List.perm_insertionSort _ _).symm (.refl _)⟩
  exact ⟨hDecoded rereads_fields, Relay.receipt 0 row (.ok ⟨1785153601000000, some 0⟩),
    List.mem_singleton.mpr rfl, hSent cfg env _ _ _ _ _ _ rfl events row hStored hSame
      rereads_stored _ (List.mem_singleton.mpr rfl) rfl⟩

/-- The envelope claimed to be encoded for every aware time: not when its time
in UTC is in the year 10000. -/
theorem Envelope.late_not_encoded :
    Sample.late.Complete ∧ Sample.late.occurredAt.Aware ∧
      Sample.late.encode Sample.rt =
        .error (.builtin .overflowError "date value out of range") := by
  refine ⟨⟨?_, ?_, ?_, 1, by decide, rfl⟩, by decide, rfl⟩
  · exact Sample.complete.eventId
  · exact Sample.complete.eventType
  · exact Sample.complete.aggregateId

end Arcadia
