import ArcadiaFestival.Application.Convergence

/-! The catalog read model against its reference: each column of the row of a game is
found in the processed events about that game, in the order in which they came. -/
namespace Arcadia
open Library Fallible

/-- A string, or nothing. -/
def Json.textual : Json → Bool
  | .null => true
  | .str _ => true
  | _ => false

theorem Json.textual_cases {value : Json} (h : value.textual = true) :
    value = .null ∨ ∃ text, value = .str text := by
  cases value with
  | null => exact Or.inl rfl
  | str text => exact Or.inr ⟨text, rfl⟩
  | _ => cases h

namespace Envelope

/-- The fields of the payload that speak about a game are strings where they
are given. -/
def StringFields (envelope : Envelope Json) : Prop :=
  ∀ field ∈ ["game_id", "title", "developer_id"],
    (Json.get envelope.payload field).textual = true

/-- The string that the payload carries, empty if there is none. -/
def carried (envelope : Envelope Json) (field : String) : String :=
  (Json.get envelope.payload field).text?.getD ""

/-- The same, if it is not empty. -/
def known (envelope : Envelope Json) (field : String) : Option String :=
  if envelope.carried field = "" then none else some (envelope.carried field)

def concerns (envelope : Envelope Json) (gameId : String) : Bool :=
  envelope.carried "game_id" = gameId

/-- An event on a game, other than a `GameUpdated` without a title. Only these
change the row. -/
def reportsGame (envelope : Envelope Json) : Bool :=
  match envelope.handler? with
  | some .gamePublished | some .gameWithdrawn | some .gameRelisted => true
  | some .gameUpdated =>
      match Json.get envelope.payload "title" with
      | .null => false
      | _ => true
  | some (.promotion _) | none => false

/-- Whether the event puts the game on sale or takes it off, if it does either.
A new title does neither. -/
def listing (envelope : Envelope Json) : Option Bool :=
  match envelope.handler? with
  | some .gamePublished | some .gameRelisted => some true
  | some .gameWithdrawn => some false
  | _ => none

def givenTitle (envelope : Envelope Json) : Option String :=
  match envelope.handler? with
  | some .gamePublished | some .gameUpdated => envelope.known "title"
  | _ => none

def publishedDeveloper (envelope : Envelope Json) : Option String :=
  match envelope.handler? with
  | some .gamePublished => envelope.known "developer_id"
  | _ => none

/-- The developer that a `GameUpdated` carries. -/
def updatedDeveloper (envelope : Envelope Json) : String :=
  match envelope.handler? with
  | some .gameUpdated => envelope.carried "developer_id"
  | _ => ""

end Envelope

/-- The row of a game, from the events about it. The first one that reports
anything creates the row. -/
def GameFacts.reference (own : List (Envelope Json)) : Option GameFacts :=
  (own.find? Envelope.reportsGame).map fun creator => {
    title := (own.filterMap Envelope.givenTitle).getLast?.getD ""
    developerId :=
      (own.filterMap Envelope.publishedDeveloper).getLast?.getD creator.updatedDeveloper
    published := (own.filterMap Envelope.listing).getLast? = some true }

namespace Envelope
variable {rt : Runtime} {envelope : Envelope Json}

theorem StringFields.textField (h : envelope.StringFields) {field : String}
    (hField : field ∈ ["game_id", "title", "developer_id"]) :
    CatalogSyncService.textField rt envelope.payload field = envelope.carried field := by
  unfold CatalogSyncService.textField carried
  rcases Json.textual_cases (h field hField) with hNull | ⟨text, hText⟩
  · rw [hNull]
    rfl
  · rw [hText, Json.or]
    split_ifs with hTruthy
    · rfl
    · have hEmpty : text = "" := by simpa [Json.truthy] using hTruthy
      rw [hEmpty]
      rfl

theorem known_getD (field : String) : (envelope.known field).getD "" = envelope.carried field := by
  unfold known
  split_ifs with h
  · exact h.symm
  · rfl

theorem known_ne (field : String) : envelope.known field ≠ some "" := by
  unfold known
  split_ifs with h
  · simp
  · simpa using h

theorem givenTitle_ne (envelope : Envelope Json) : envelope.givenTitle ≠ some "" := by
  unfold givenTitle
  split
  · exact known_ne "title"
  · exact known_ne "title"
  · simp

theorem publishedDeveloper_ne (envelope : Envelope Json) : envelope.publishedDeveloper ≠ some "" := by
  unfold publishedDeveloper
  split
  · exact known_ne "developer_id"
  · simp

theorem publishedDeveloper_none (envelope : Envelope Json)
    (h : envelope.handler? ≠ some .gamePublished) : envelope.publishedDeveloper = none := by
  unfold publishedDeveloper
  split
  · exact absurd ‹_› h
  · rfl

/-- An event that reports nothing tells nothing. -/
theorem silent (h : envelope.reportsGame = false) : envelope.listing = none ∧
    envelope.givenTitle = none ∧ envelope.publishedDeveloper = none := by
  unfold reportsGame at h
  unfold listing givenTitle publishedDeveloper
  cases hHandler : envelope.handler? with
  | none => exact ⟨rfl, rfl, rfl⟩
  | some handler =>
      rw [hHandler] at h
      cases handler with
      | gameUpdated =>
          refine ⟨rfl, ?_, rfl⟩
          cases hTitle : Json.get envelope.payload "title" with
          | null => simp [known, carried, hTitle, Json.text?]
          | _ => simp [hTitle] at h
      | promotion eventType => exact ⟨rfl, rfl, rfl⟩
      | _ => cases h

/-- From a payload of strings the handler reads the game, whether it is listed,
and the texts, just as they were sent. -/
theorem StringFields.report (h : envelope.StringFields) (rt : Runtime) :
    envelope.handler?.bind (Arcadia.gameReport rt envelope.payload) =
      if envelope.reportsGame then some {
        gameId := envelope.carried "game_id"
        title := envelope.givenTitle.getD ""
        developerId := envelope.publishedDeveloper.getD envelope.updatedDeveloper
        replacesDeveloper := envelope.handler? = some .gamePublished
        published := envelope.listing }
      else none := by
  have hGame : CatalogSyncService.textField rt envelope.payload "game_id" = envelope.carried "game_id" :=
    h.textField (by decide)
  have hTitle : CatalogSyncService.textField rt envelope.payload "title" = envelope.carried "title" :=
    h.textField (by decide)
  have hDeveloper : CatalogSyncService.textField rt envelope.payload "developer_id" =
      envelope.carried "developer_id" := h.textField (by decide)
  unfold reportsGame givenTitle publishedDeveloper updatedDeveloper listing
  cases hHandler : envelope.handler? with
  | none => rfl
  | some handler =>
      cases handler with
      | gamePublished => simp [Arcadia.gameReport, hGame, hTitle, hDeveloper, known_getD]
      | gameWithdrawn => simp [Arcadia.gameReport, hGame]
      | gameRelisted => simp [Arcadia.gameReport, hGame]
      | gameUpdated =>
          rcases Json.textual_cases (h "title" (by decide)) with hNull | ⟨text, hText⟩
          · simp [Arcadia.gameReport, hNull]
          · have hCarried : rt.str (.str text) = envelope.carried "title" := by
              rw [carried, hText]
              rfl
            simp [Arcadia.gameReport, hText, hGame, hDeveloper, known_getD, hCarried]
      | promotion eventType => simp [Arcadia.gameReport]

end Envelope

/-- The latest entry, once one more element has been looked at, is that of the
new element if it has one. -/
theorem getLast?_filterMap_concat {α β : Type} (f : α → Option β) (xs : List α) (x : α) :
    ((xs ++ [x]).filterMap f).getLast? = (f x).or (xs.filterMap f).getLast? := by
  rw [List.filterMap_append, List.getLast?_append]
  cases h : f x with
  | none => simp [h]
  | some y => simp [h]

/-- The latest text that is known is the same whether it is looked for from the
last message backwards, or kept in a column on the way. -/
theorem orText_getD {latest : Option String} (h : latest ≠ some "") (earlier : Option String)
    (default : String) :
    (latest.or earlier).getD default = orText (latest.getD "") (earlier.getD default) := by
  cases latest with
  | none => rfl
  | some text =>
      have hText : text ≠ "" := fun hEmpty => h (by rw [hEmpty])
      exact (orText_of_ne hText _).symm

/-- One more event about the game does to its row what the event reports. The
reference is a fold, so that this is its step. -/
theorem GameFacts.reference_concat {own : List (Envelope Json)} {envelope : Envelope Json}
    (h : envelope.StringFields) (rt : Runtime) :
    reference (own ++ [envelope]) =
      match envelope.handler?.bind (gameReport rt envelope.payload) with
      | some report => some (report.onto (reference own))
      | none => reference own := by
  rw [h.report rt]
  unfold reference
  rw [getLast?_filterMap_concat, getLast?_filterMap_concat, getLast?_filterMap_concat,
    List.find?_append]
  cases hReports : envelope.reportsGame with
  | false =>
      obtain ⟨hListing, hTitle, hDeveloper⟩ := envelope.silent hReports
      simp [hListing, hTitle, hDeveloper, hReports]
  | true =>
      cases hCreator : own.find? Envelope.reportsGame with
      | none =>
          -- the events before the first report tell nothing
          have hSilent (e : Envelope Json) (he : e ∈ own) : e.listing = none ∧
              e.givenTitle = none ∧ e.publishedDeveloper = none := by
            apply e.silent
            simpa using List.find?_eq_none.mp hCreator e he
          have hNone {β : Type} (f : Envelope Json → Option β) (hf : ∀ e ∈ own, f e = none) :
              own.filterMap f = [] := by
            rw [List.filterMap_eq_nil_iff]
            exact hf
          rw [hNone _ fun e he => (hSilent e he).1, hNone _ fun e he => (hSilent e he).2.1,
            hNone _ fun e he => (hSilent e he).2.2]
          simp only [List.find?_cons, hReports, Option.none_or, Option.map_some, Option.map_none,
            if_true, List.getLast?_nil, Option.or_none, GameReport.onto, GameReport.create]
          cases envelope.listing with
          | none => rfl
          | some listed =>
              cases listed with
              | true => rfl
              | false => rfl
      | some creator =>
          simp only [Option.some_or, Option.map_some, if_true, GameReport.onto, GameReport.update,
            Option.some.injEq, GameFacts.mk.injEq]
          refine ⟨orText_getD envelope.givenTitle_ne _ _, ?_, ?_⟩
          · by_cases hPublished : envelope.handler? = some .gamePublished
            · have hNoUpdate : envelope.updatedDeveloper = "" := by
                rw [Envelope.updatedDeveloper, hPublished]
              rw [if_pos (decide_eq_true hPublished), hNoUpdate]
              exact orText_getD envelope.publishedDeveloper_ne _ _
            · rw [if_neg (by simpa using hPublished), envelope.publishedDeveloper_none hPublished]
              rfl
          · cases envelope.listing with
            | none => rfl
            | some listed =>
                cases listed with
                | true => rfl
                | false => rfl

section
variable {cfg : Config} {rt : Runtime} {db : Database} {delivered : Delivered}

/-- The message is about a game, in texts that the columns hold, and nothing
else can make its handler fail. -/
structure Delivered.Acceptable (rt : Runtime) (delivered : Delivered) : Prop where
  healthy : delivered.env.Healthy
  now : ∃ t, rt.timestamptz delivered.env.now = .ok t
  handled : ∃ handler, delivered.envelope.handler? = some handler ∧
    ∀ eventType, handler ≠ .promotion eventType
  strings : delivered.envelope.StringFields
  game : delivered.envelope.carried "game_id" ≠ ""
  storable : ∀ field ∈ ["game_id", "title", "developer_id"],
    Text.storable (delivered.envelope.carried field) = true

theorem Delivered.Acceptable.reported (h : delivered.Acceptable rt) {report : GameReport}
    (hReport : delivered.envelope.handler?.bind (gameReport rt delivered.envelope.payload) =
      some report) : report.gameId = delivered.envelope.carried "game_id" ∧ report.storable = true := by
  have hCarried (field : String) (hField : field ∈ ["game_id", "title", "developer_id"]) :
      Text.storable ((delivered.envelope.known field).getD "") = true := by
    rw [Envelope.known_getD]
    exact h.storable field hField
  have hTitle : Text.storable (delivered.envelope.givenTitle.getD "") = true := by
    unfold Envelope.givenTitle
    split
    · exact hCarried "title" (by decide)
    · exact hCarried "title" (by decide)
    · decide
  have hUpdated : Text.storable delivered.envelope.updatedDeveloper = true := by
    unfold Envelope.updatedDeveloper
    split
    · exact h.storable "developer_id" (by decide)
    · decide
  have hDeveloper : Text.storable (delivered.envelope.publishedDeveloper.getD
      delivered.envelope.updatedDeveloper) = true := by
    unfold Envelope.publishedDeveloper Envelope.known
    split
    · split_ifs
      · exact hUpdated
      · exact h.storable "developer_id" (by decide)
    · exact hUpdated
  rw [h.strings.report rt] at hReport
  split_ifs at hReport
  obtain rfl := Option.some.inj hReport
  refine ⟨rfl, ?_⟩
  simp only [GameReport.storable, h.storable "game_id" (by decide), hTitle, hDeveloper, Bool.and_self]

theorem Delivered.Acceptable.processed (h : delivered.Acceptable rt) (cfg : Config)
    (hStored : db.GamesStored) : delivered.processed cfg rt db = true := by
  obtain ⟨handler, hHandler, hGames⟩ := h.handled
  have hGame : CatalogSyncService.textField rt delivered.envelope.payload "game_id" ≠ "" := by
    rw [h.strings.textField (by decide)]
    exact h.game
  unfold Delivered.processed
  rw [hHandler]
  dsimp only
  cases hReport : gameReport rt delivered.envelope.payload handler with
  | none =>
      -- only an update without a title has nothing to report, and it returns at once
      cases handler with
      | gameUpdated =>
          have hNull : Json.get delivered.envelope.payload "title" = .null := by
            cases hTitle : Json.get delivered.envelope.payload "title" with
            | null => rfl
            | _ => simp [gameReport, hTitle] at hReport
          have hRun : CatalogSyncService.Handler.run cfg rt delivered.env.settled
              delivered.envelope.payload .gameUpdated db = (.ok (), db) := by
            unfold CatalogSyncService.Handler.run CatalogSyncService.gameUpdated
            rw [CatalogSyncService.require_present hGame]
            simp only [hNull]
          rw [hRun]
      | promotion eventType => exact absurd rfl (hGames eventType)
      | _ => cases hReport
  | some report =>
      have hBind : delivered.envelope.handler?.bind (gameReport rt delivered.envelope.payload) =
          some report := by
        rw [hHandler]
        exact hReport
      obtain ⟨hKey, hStorable⟩ := h.reported hBind
      obtain ⟨snapshot, tx, hTx, hRun⟩ := CatalogSyncService.run_runs cfg db hReport delivered.env
      have hSettled := hRun delivered.env.settled.commit
      change handler.run cfg rt delivered.env.settled delivered.envelope.payload db = _ at hSettled
      rw [hSettled, if_neg (by rw [hKey]; exact h.game)]
      have hTexts : ∀ facts ∈ (db.catalogGames.find? report.gameId).map CatalogGameRow.facts,
          Text.storable facts.title = true ∧ Text.storable facts.developerId = true := by
        intro facts hFacts
        obtain ⟨row, hRow, rfl⟩ := Option.map_eq_some_iff.mp hFacts
        exact hStored row (KeyedTable.mem_of_find? hRow)
      have hDeveloper : report.replacesDeveloper = false → Text.storable report.developerId = true := by
        intro _
        simp only [GameReport.storable, Bool.and_eq_true] at hStorable
        exact hStorable.2
      obtain ⟨hId, hTitle, hDeveloper⟩ := (GameReport.storable_onto hTexts hDeveloper).mpr hStorable
      rw [← hTx.facts] at hTitle hDeveloper
      obtain ⟨row, hRow⟩ := hTx.accepted h.now hId hTitle hDeveloper
      have hDone := hTx.writes h.healthy row hRow
      have hCommit : delivered.env.settled.commit = .committed := by
        unfold Env.settled
        rw [h.healthy.2]
      have hBegin : UnitOfWork.begin_
          { delivered.env with commit := delivered.env.settled.commit } tx db = (.ok (), _) :=
        UnitOfWork.begin_ok.mpr ⟨hCommit, _, _, hDone, rfl, rfl⟩
      rw [hBegin]

/-- A row keeps what it knows, whatever is consumed. Only an empty text is ever
filled. -/
theorem consume_keeps (cfg : Config) (rt : Runtime) (delivered : Delivered) {gameId : String}
    {row : CatalogGameRow} (hRow : db.catalogGames.find? gameId = some row) :
    ∃ row', (consume cfg rt db delivered).catalogGames.find? gameId = some row' ∧
      (row.title ≠ "" → row'.title ≠ "") ∧ (row.developerId ≠ "" → row'.developerId ≠ "") := by
  have hText (value default : String) (h : default ≠ "") : orText value default ≠ "" := by
    unfold orText
    split_ifs with hEmpty
    · exact h
    · exact hEmpty
  cases hBind : delivered.envelope.handler?.bind (gameReport rt delivered.envelope.payload) with
  | none =>
      rw [consume_unreported cfg hBind]
      exact ⟨row, hRow, fun h => h, fun h => h⟩
  | some report =>
      obtain ⟨handler, hHandler, hReport⟩ := Option.bind_eq_some_iff.mp hBind
      rcases processed_cases cfg hHandler hReport with
        ⟨_, hSame⟩ | ⟨_, new, _, _, hKey, hFacts, hPut⟩
      · rw [hSame]
        exact ⟨row, hRow, fun h => h, fun h => h⟩
      · rw [hPut, KeyedTable.find?_put]
        split_ifs with hHere
        · rw [← hKey, hHere, hRow] at hFacts
          obtain ⟨hTitle, hDeveloper, _⟩ := GameFacts.mk.inj hFacts
          refine ⟨new, rfl, ?_, ?_⟩
          · intro h
            rw [hTitle]
            exact hText _ _ h
          · intro h
            rw [hDeveloper]
            change (if report.replacesDeveloper then orText report.developerId row.developerId
              else row.developerId) ≠ ""
            split_ifs
            · exact hText _ _ h
            · exact h
        · exact ⟨row, hRow, fun h => h, fun h => h⟩

/-- The database, and the events processed so far. -/
def recordEvent (cfg : Config) (rt : Runtime) (state : Database × List (Envelope Json))
    (delivered : Delivered) : Database × List (Envelope Json) :=
  (consume cfg rt state.1 delivered,
    if delivered.processed cfg rt state.1 then state.2 ++ [delivered.envelope] else state.2)

/-- The catalog read model is what the reference makes of the events, and stays
so. -/
structure CatalogReflects (cfg : Config) (rt : Runtime) (db : Database)
    (events : List (Envelope Json)) : Prop where
  rows : ∀ gameId, (db.catalogGames.find? gameId).map CatalogGameRow.facts =
    GameFacts.reference (events.filter fun envelope => envelope.concerns gameId)
  accepts : ∀ delivered : Delivered, delivered.Acceptable rt → delivered.processed cfg rt db = true
  keeps : ∀ delivered gameId row, db.catalogGames.find? gameId = some row →
    ∃ row', (consume cfg rt db delivered).catalogGames.find? gameId = some row' ∧
      (row.title ≠ "" → row'.title ≠ "") ∧ (row.developerId ≠ "" → row'.developerId ≠ "")

/-- The events about a game, once one more has been processed. -/
theorem GameFacts.reference_filter {events : List (Envelope Json)} {envelope : Envelope Json}
    (hStrings : envelope.StringFields) (rt : Runtime) (gameId : String) :
    reference ((events ++ [envelope]).filter fun e => e.concerns gameId) =
      match (envelope.handler?.bind (gameReport rt envelope.payload)).filter
        fun report => report.gameId = gameId with
      | some report => some (report.onto (reference (events.filter fun e => e.concerns gameId)))
      | none => reference (events.filter fun e => e.concerns gameId) := by
  rw [List.filter_append, List.filter_singleton]
  have hKey (report : GameReport)
      (h : envelope.handler?.bind (gameReport rt envelope.payload) = some report) :
      envelope.concerns gameId = decide (report.gameId = gameId) := by
    rw [hStrings.report rt] at h
    split_ifs at h
    obtain rfl := Option.some.inj h
    rfl
  cases hBind : envelope.handler?.bind (gameReport rt envelope.payload) with
  | none =>
      rw [Option.filter_none]
      cases envelope.concerns gameId with
      | false => rw [cond_false, List.append_nil]
      | true => rw [cond_true, reference_concat hStrings rt, hBind]
  | some report =>
      rw [hKey report hBind, Option.filter_some]
      by_cases hHere : report.gameId = gameId
      · rw [decide_eq_true hHere, cond_true, if_pos rfl, reference_concat hStrings rt, hBind]
      · rw [decide_eq_false hHere, cond_false, if_neg (by decide), List.append_nil]

/-- One more message of strings takes the rows to what the reference makes of
the longer log. -/
theorem recordEvent_rows {state : Database × List (Envelope Json)}
    (hStrings : delivered.envelope.StringFields)
    (h : ∀ gameId, (state.1.catalogGames.find? gameId).map CatalogGameRow.facts =
      GameFacts.reference (state.2.filter fun envelope => envelope.concerns gameId))
    (gameId : String) :
    ((recordEvent cfg rt state delivered).1.catalogGames.find? gameId).map CatalogGameRow.facts =
      GameFacts.reference ((recordEvent cfg rt state delivered).2.filter
        fun envelope => envelope.concerns gameId) := by
  obtain ⟨db, events⟩ := state
  have hMore := @GameFacts.reference_filter events _ hStrings rt gameId
  unfold recordEvent
  dsimp only
  cases hBind : delivered.envelope.handler?.bind (gameReport rt delivered.envelope.payload) with
  | none =>
      rw [hBind, Option.filter_none] at hMore
      rw [consume_unreported cfg hBind, h]
      split_ifs
      · exact hMore.symm
      · rfl
  | some report =>
      obtain ⟨handler, hHandler, hReport⟩ := Option.bind_eq_some_iff.mp hBind
      rcases processed_cases cfg hHandler hReport with
        ⟨hFailed, hSame⟩ | ⟨hProcessed, row, _, _, hKey, hFacts, hPut⟩
      · rw [hFailed, hSame, h]
        rfl
      · rw [hProcessed, hPut, if_pos rfl, hMore, hBind, Option.filter_some, KeyedTable.find?_put, hKey]
        by_cases hHere : report.gameId = gameId
        · rw [if_pos hHere, decide_eq_true hHere, if_pos rfl, Option.map_some, hFacts, hHere, h]
        · rw [if_neg hHere, decide_eq_false hHere, if_neg (by decide), h]

end

/-- From an empty table on, whatever is delivered in whatever order and
whatever fails, the catalog read model is what the reference makes of the
processed events. -/
theorem run_catalogReflects (cfg : Config) (rt : Runtime) (db : Database)
    (deliveries : List Delivered) (hStrings : ∀ delivered ∈ deliveries, delivered.envelope.StringFields) :
    CatalogReflects cfg rt
      (Trace.run (recordEvent cfg rt) ({ db with catalogGames := .empty }, []) deliveries).1
      (Trace.run (recordEvent cfg rt) ({ db with catalogGames := .empty }, []) deliveries).2 := by
  let start : Database × List (Envelope Json) := ({ db with catalogGames := .empty }, [])
  let Reflected (state : Database × List (Envelope Json)) : Prop :=
    state.1.GamesStored ∧ ∀ gameId, (state.1.catalogGames.find? gameId).map CatalogGameRow.facts =
      GameFacts.reference (state.2.filter fun envelope => envelope.concerns gameId)
  have hStep (state : Database × List (Envelope Json)) (delivered : Delivered)
      (h : Reflected state) (hString : delivered.envelope.StringFields) :
      Reflected (recordEvent cfg rt state delivered) :=
    ⟨consume_gamesStored cfg rt delivered h.1, recordEvent_rows hString h.2⟩
  have hStart : Reflected start := ⟨fun _ h => (by cases h), fun _ => rfl⟩
  have hInv := Trace.run_invariant_of_eachStep (recordEvent cfg rt) hStep hStart
    (Trace.EachStep.of_forall (recordEvent cfg rt) hStrings start)
  exact {
    rows := hInv.2
    accepts := fun delivered h => h.processed cfg hInv.1
    keeps := fun delivered gameId row hRow => consume_keeps cfg rt delivered hRow }

namespace Sample

/-- A game that is updated, withdrawn and only then published, without its
developer. -/
def outOfOrder : List Delivered :=
  [⟨gameEvent Ev.catalogGameUpdated [("game_id", .str "game-2"), ("title", .str "Metroid"),
      ("developer_id", .str "dev-2")], env 1⟩,
    ⟨withdrawnUnknown, env 2⟩,
    ⟨gameEvent Ev.catalogGamePublished [("game_id", .str "game-2"), ("title", .str "")], env 3⟩]

example : GameFacts.reference (outOfOrder.map Delivered.envelope) = some ⟨"Metroid", "dev-2", true⟩ := by
  decide +kernel

end Sample

open Sample in
theorem run_catalogReflects_outOfOrder : CatalogReflects cfg rt
    (Trace.run (recordEvent cfg rt) ({ start with catalogGames := .empty }, []) outOfOrder).1
    (Trace.run (recordEvent cfg rt) ({ start with catalogGames := .empty }, []) outOfOrder).2 := by
  apply run_catalogReflects cfg rt start outOfOrder
  unfold Envelope.StringFields
  decide +kernel

end Arcadia
