import ArcadiaFestival.Adapters.PublicRoutes
import ArcadiaFestival.Application.FestivalPages
import ArcadiaFestival.Application.IntactStore
import ArcadiaFestival.Application.Responses
import ArcadiaFestival.Application.Versions

/-! What the public is shown while the service is at work. The cache and the model of the
route stand between the rows and the reader: whatever the cache holds was the answer to a
visit of the run, and what is no page of the route does not get past the model. -/
namespace Arcadia
open Library Fallible

/-! The times of a page are times of the rows. -/

def FestivalRow.times (row : FestivalRow) : List Timestamptz :=
  [row.startsAt, row.endsAt, row.createdAt] ++ row.startedAt.toList ++ row.endedAt.toList

def PromotionSnapshotRow.times (row : PromotionSnapshotRow) : List Timestamptz :=
  [row.startsAt, row.endsAt, row.updatedAt]

def Database.times (db : Database) : List Timestamptz :=
  db.festivals.rows.flatMap FestivalRow.times ++ db.festivalGames.rows.map FestivalGameRow.addedAt ++
    db.promotionSnapshots.rows.flatMap PromotionSnapshotRow.times

section
variable {rt : Runtime} {env : Env} {db : Database}

theorem FestivalRow.times_of {row : FestivalRow} {games : KeyedTable FestivalGameRow.gameId}
    {festival : Festival} (h : toFestival row games = .ok festival) :
    (FestivalView.of festival).times = row.times.map DateTime.ofTimestamptz := by
  obtain ⟨_, _, rfl⟩ := toFestival_ok.mp h
  cases hStarted : row.startedAt <;> cases hEnded : row.endedAt <;>
    simp [FestivalView.times, FestivalView.of, FestivalRow.times, hStarted, hEnded]

/-- A time of a page is stored. -/
def Database.Dates (db : Database) (time : DateTime) : Prop :=
  ∃ stored ∈ db.times, DateTime.ofTimestamptz stored = time

/-- A festival that was read has the times that the database has. -/
theorem Database.dates_festival {row : FestivalRow} (hRow : row ∈ db.festivals.rows)
    {games : KeyedTable FestivalGameRow.gameId} {festival : Festival}
    (h : toFestival row games = .ok festival) {time : DateTime}
    (hTime : time ∈ (FestivalView.of festival).times) : db.Dates time := by
  rw [FestivalRow.times_of h] at hTime
  obtain ⟨stored, hStored, rfl⟩ := List.mem_map.mp hTime
  refine ⟨stored, ?_, rfl⟩
  simp only [times, List.mem_append, List.mem_flatMap]
  exact Or.inl (Or.inl ⟨row, hRow, hStored⟩)

theorem Database.dates_game {festivalId : String} {row : FestivalRow} {festival : Festival}
    (h : toFestival row (db.gamesOf festivalId) = .ok festival) {entry : String × FestivalGame}
    (hEntry : entry ∈ festival.games.rows) : db.Dates entry.2.addedAt := by
  obtain ⟨_, _, rfl⟩ := toFestival_ok.mp h
  obtain ⟨game, hGame, rfl⟩ := List.mem_map.mp hEntry
  have hRow : game ∈ db.festivalGames.rows :=
    (KeyedTable.mem_select.mp (KeyedTable.mem_orderBy.mp hGame)).1
  refine ⟨game.addedAt, ?_, rfl⟩
  simp only [times, List.mem_append]
  exact Or.inl (Or.inr (List.mem_map_of_mem hRow))

theorem Database.dates_promotion {festivalId : String} {promotions : List PromotionSnapshot}
    (h : PostgresPromotionRepository.loadForFestival rt db festivalId = .ok promotions)
    {snapshot : PromotionSnapshot} (hMem : snapshot ∈ promotions) {time : DateTime}
    (hTime : time ∈ (PromotionSnapshotView.of snapshot).times) : db.Dates time := by
  obtain ⟨row, hRow, _, hRead⟩ := (PostgresPromotionRepository.mem_loadForFestival h snapshot).mp hMem
  obtain ⟨_, _, _, _, rfl⟩ := toPromotion_ok.mp hRead
  have hTimes : time ∈ row.times.map DateTime.ofTimestamptz := hTime
  obtain ⟨stored, hStored, rfl⟩ := List.mem_map.mp hTimes
  refine ⟨stored, ?_, rfl⟩
  simp only [times, List.mem_append, List.mem_flatMap]
  exact Or.inr ⟨row, hRow, hStored⟩

theorem FestivalService.detail_dates {festivalId : String} {view : FestivalDetailView}
    (h : detail rt env festivalId db = .ok view) : ∀ time ∈ view.times, db.Dates time := by
  obtain ⟨_, _, festival, promotions, hLoad, hPromotions, hView⟩ := detail_ok.mp h
  obtain ⟨_, row, hRow, hRead⟩ := PostgresFestivalRepository.load_some hLoad
  obtain rfl := FestivalDetailView.ofDetail_ok hView
  intro time hTime
  simp only [FestivalDetailView.times, List.mem_append, List.mem_flatMap, List.mem_map] at hTime
  rcases hTime with (hTime | ⟨_, ⟨entry, hEntry, rfl⟩, hTime⟩) | ⟨_, ⟨snapshot, hMem, rfl⟩, hTime⟩
  · exact Database.dates_festival (KeyedTable.mem_of_find? hRow) hRead hTime
  · obtain rfl : time = entry.2.addedAt := List.mem_singleton.mp hTime
    exact Database.dates_game hRead hEntry
  · exact Database.dates_promotion hPromotions hMem hTime

theorem FestivalService.list_dates {collation : Collation} {limit offset : Nat}
    {state : Option FestivalState} {page : Page FestivalView}
    (h : list env collation limit offset state db = .ok page) :
    ∀ view ∈ page.items, ∀ time ∈ view.times, db.Dates time := by
  obtain ⟨⟨festivals, total⟩, hRead, hPure⟩ := bind_ok.mp h
  obtain rfl := pure_ok.mp hPure
  obtain ⟨⟨_, _⟩, hList, hFst⟩ := map_ok.mp hRead
  obtain rfl := hFst
  obtain ⟨_, hPage, _⟩ := PostgresFestivalRepository.list_ok.mp hList
  have hRows := (PostgresFestivalRepository.loadPage_ok.mp hPage).1
  intro view hView time hTime
  obtain ⟨festival, hFestival, rfl⟩ := List.mem_map.mp hView
  obtain ⟨row, hRow, hLoaded⟩ := (mem_mapM_ok hRows festival).mp hFestival
  have hStored : row ∈ PostgresFestivalRepository.matching collation db state :=
    (List.drop_sublist _ _).subset ((List.take_sublist _ _).subset hRow)
  exact Database.dates_festival (PostgresFestivalRepository.mem_matching.mp hStored).1 hLoaded hTime

end

/-- What happens to the service: something arrives that may change the rows, or
somebody browses. -/
inductive Happening where
  | arrival (arrival : Arrival)
  | browse (visit : PublicVisit)

def Happening.arrived : Happening → Option Arrival
  | .arrival next => some next
  | .browse _ => none

structure Scene where
  db : Database
  redis : Redis

namespace Storefront

def step (front : Storefront) (scene : Scene) : Happening → Scene
  | .arrival arrival => { scene with db := front.app.step scene.db arrival }
  | .browse visit => { scene with redis := (front.observe visit scene.db scene.redis).2 }

/-- The service after all this, from empty tables and an empty cache.
Everything is served one after the other. -/
def after (front : Storefront) (past : List Happening) : Scene :=
  Trace.run front.step ⟨.fresh .empty .empty, .empty⟩ past

/-- What the service answers to a visit, were it asked this. -/
def answer (front : Storefront) (db : Database) (visit : PublicVisit) (query : FestivalQuery) :
    Except Exn Json := (front.browsing visit.env db).answer visit.times.computed query

/-- The lifetime of a key, in microseconds. -/
def lifetime (front : Storefront) : Int := front.cache.defaultTtl * 1000000

/-- A visit of the run asked this at these moments, and the service had this
answer. -/
inductive Answered (front : Storefront) :
    List Happening → FestivalQuery → Json → ReadThrough.Moments → Prop where
  | intro {earlier between : List Happening} {visit : PublicVisit} {query : FestivalQuery}
      {value : Json} (asked : front.query visit.call = .ok query)
      (answer : front.answer (front.after earlier).db visit query = .ok value) :
      Answered front (earlier ++ .browse visit :: between) query value visit.times

/-- Each key of the server is that of a visit, with its answer. It expires the
lifetime of a key after the visit has set it. -/
def Kept (front : Storefront) (past : List Happening) (redis : Redis) : Prop :=
  ∀ key entry, redis key = some entry → ∃ query value times, front.Answered past query value times ∧
    key = front.cache.fullKey query.key ∧
    entry = ⟨front.json.dumps value, times.stored + front.lifetime⟩

/-- What is read is what was written: of the answer to this visit, and of the
times that are stored. -/
structure Rereads (front : Storefront) (db : Database) (visit : PublicVisit) : Prop where
  json : ∀ query value, front.query visit.call = .ok query → front.answer db visit query = .ok value →
    front.json.loads (front.json.dumps value) = .ok value
  times : ∀ time, db.Dates time → front.text.Rereads time

variable {front : Storefront} {past : List Happening} {visit : PublicVisit} {db : Database}
  {redis : Redis} {query other : FestivalQuery} {value : Json}

theorem Answered.later {times : ReadThrough.Moments} (h : front.Answered past query value times)
    (next : Happening) : front.Answered (past ++ [next]) query value times := by
  obtain ⟨asked, answer⟩ := h
  rw [List.append_assoc, List.cons_append]
  exact .intro asked answer

/-- A public visit reads the cache, asks the service if there is no entry, and
writes the entry. -/
theorem serve_eq (front : Storefront) (visit : PublicVisit) (db : Database) (redis : Redis)
    (query : FestivalQuery) :
    (front.browsing visit.env db).serve redis ⟨visit.times, query, visit.turn⟩ =
      ((front.browsing visit.env db).policy.reply redis
          ((front.browsing visit.env db).visit ⟨visit.times, query, visit.turn⟩),
        (front.browsing visit.env db).policy.next redis
          ((front.browsing visit.env db).visit ⟨visit.times, query, visit.turn⟩)) :=
  Browsing.serve_eq _ _ _

/-- What happens next is the only thing that can be new in the cache. All other
entries were there before. -/
theorem Kept.step (h : front.Kept past (front.after past).redis) (next : Happening) :
    front.Kept (past ++ [next]) (front.step (front.after past) next).redis := by
  intro key entry hEntry
  have hOld (hEntry : (front.after past).redis key = some entry) : ∃ query value times,
      front.Answered (past ++ [next]) query value times ∧ key = front.cache.fullKey query.key ∧
        entry = ⟨front.json.dumps value, times.stored + front.lifetime⟩ := by
    obtain ⟨query, value, times, hAnswered, hKey, rfl⟩ := h key entry hEntry
    exact ⟨query, value, times, hAnswered.later next, hKey, rfl⟩
  cases next with
  | arrival arrival => exact hOld hEntry
  | browse visit =>
      change (front.observe visit (front.after past).db (front.after past).redis).2 key = some entry
        at hEntry
      unfold observe at hEntry
      cases hQuery : front.query visit.call with
      | error failure =>
          rw [hQuery] at hEntry
          exact hOld (ReadThrough.Store.drop_eq_some hEntry)
      | ok query =>
          rw [hQuery] at hEntry
          simp only [serve_eq] at hEntry
          rcases ReadThrough.Policy.next_eq_some hEntry with hStored | ⟨rfl, value, hAnswer, rfl⟩
          · exact hOld hStored
          · exact ⟨query, value, visit.times, .intro hQuery hAnswer, rfl, rfl⟩

/-- Every entry of the cache is a text of an answer that the service once gave. -/
theorem kept_after (front : Storefront) (past : List Happening) :
    front.Kept past (front.after past).redis :=
  @Trace.run_history _ _ front.step (fun past scene => front.Kept past scene.redis)
    ⟨.fresh .empty .empty, .empty⟩ (fun _ _ h => by cases h) (fun _ next h => h.step next) past

/-- The reply comes from the service, or from a visit under the same key. -/
theorem serve_cases (hKept : front.Kept past redis) :
    ((front.browsing visit.env db).serve redis ⟨visit.times, query, visit.turn⟩).1 =
        front.answer db visit query ∨
      ∃ other value times, front.Answered past other value times ∧ other.key = query.key ∧
        visit.times.asked ≤ times.stored + front.lifetime ∧
        ((front.browsing visit.env db).serve redis ⟨visit.times, query, visit.turn⟩).1 =
          front.json.loads (front.json.dumps value) := by
  rw [serve_eq]
  set p := (front.browsing visit.env db).policy
  set v := (front.browsing visit.env db).visit ⟨visit.times, query, visit.turn⟩
  cases hFound : p.found redis v with
  | none => exact Or.inl (ReadThrough.Policy.reply_of_none hFound)
  | some text =>
      obtain ⟨entry, hFinds, hText⟩ := ReadThrough.Policy.found_eq_some_iff.mp hFound
      obtain ⟨other, value, times, hAnswered, hKey, rfl⟩ :=
        hKept _ _ (ReadThrough.Store.drop_eq_some hFinds.held)
      refine Or.inr ⟨other, value, times, hAnswered, ?_, hFinds.unexpired, ?_⟩
      · exact (front.cache.fullKey_injective hKey).symm
      · change p.reply redis v = _
        rw [ReadThrough.Policy.reply, hFound, ← hText]
        rfl

/-- The model of the route takes the answer of the service as it is. -/
theorem serialized_answer (hReads : front.Rereads db visit)
    (h : front.answer db visit query = .ok value) : front.serialized value query = some value := by
  cases query with
  | list page state =>
      obtain ⟨views, hViews, rfl⟩ := map_ok.mp h
      have hRead := @Page.read_toJson _ (FestivalView.read front.text)
        (FestivalView.toJson front.app.time) views fun view hView =>
          FestivalView.read_toJson fun time hTime =>
            hReads.times time (FestivalService.list_dates hViews view hView time hTime)
      exact congrArg (Option.map (Page.toJson (FestivalView.toJson front.app.time))) hRead
  | get festivalId =>
      obtain ⟨view, hView, rfl⟩ := map_ok.mp h
      have hRead := @FestivalDetailView.read_toJson front.text view fun time hTime =>
        hReads.times time (FestivalService.detail_dates hView time hTime)
      exact congrArg (Option.map (FestivalDetailView.toJson front.app.time)) hRead

/-- The model of the route does not take the answer that the other route gives
under the same key. -/
theorem serialized_other (h : front.answer db visit other = .ok value) (hKey : other.key = query.key)
    (hOther : other ≠ query) : front.serialized value query = none := by
  obtain ⟨page, state, ⟨rfl, rfl⟩ | ⟨rfl, rfl⟩⟩ := Browsing.key_collision hKey hOther
  · obtain ⟨views, _, rfl⟩ := map_ok.mp h
    rfl
  · obtain ⟨view, _, rfl⟩ := map_ok.mp h
    rfl

/-- The rows of a run in which pages are read are those of the run without the
readers. -/
theorem run_db (front : Storefront) (scene : Scene) (happenings : List Happening) :
    (Trace.run front.step scene happenings).db =
      Trace.run front.app.step scene.db (happenings.filterMap Happening.arrived) := by
  induction happenings generalizing scene with
  | nil => rfl
  | cons happening happenings ih =>
      rw [Trace.run_cons, ih]
      cases happening <;> rfl

/-- The requests of the admins leave the database intact, and the visits of the
readers do not write to it. -/
theorem after_intact (front : Storefront) (past : List Happening) :
    (front.after past).db.Intact front.app.rt := by
  rw [after, run_db, App.run_eq]
  exact run_intact front.app.cfg front.app.rt _

/-- A festival that is stored at some moment is stored from then on, as nothing
deletes one. -/
theorem known_after (front : Storefront) (past next : List Happening) {festivalId : String}
    (h : ((front.after past).db.festivals.find? festivalId).isSome = true) :
    ((front.after (past ++ next)).db.festivals.find? festivalId).isSome = true := by
  obtain ⟨row, hRow⟩ := Option.isSome_iff_exists.mp h
  obtain ⟨row', hRow', _⟩ := run_advanced front.app.cfg front.app.rt (front.after past).db
    ((next.filterMap Happening.arrived).filterMap front.app.request) festivalId row hRow
  rw [← App.run_eq, ← run_db, after, ← Trace.run_append] at hRow'
  exact Option.isSome_iff_exists.mpr ⟨row', hRow'⟩

/-- A detail page is only answered for a festival that has a row. -/
theorem answer_known {festivalId : String} (h : front.answer db visit (.get festivalId) = .ok value) :
    (db.festivals.find? festivalId).isSome = true := by
  obtain ⟨view, hView, _⟩ := map_ok.mp h
  obtain ⟨_, _, festival, _, hLoad, _⟩ := FestivalService.detail_ok.mp hView
  obtain ⟨_, row, hRow, _⟩ := PostgresFestivalRepository.load_some hLoad
  exact Option.isSome_iff_exists.mpr ⟨row, hRow⟩

/-- The page of a festival that is not there is not found. -/
theorem answer_unknown (hGet : visit.env.fault .festivalsGet = none) {festivalId : String}
    (hText : Text.storable festivalId = true) (hNone : db.festivals.find? festivalId = none) :
    front.answer db visit (.get festivalId) = .error (FestivalService.unknownFestival festivalId) := by
  have hLoad : PostgresFestivalRepository.get_ visit.env festivalId ⟨db, []⟩ = .ok (none, ⟨db, []⟩) :=
    PostgresFestivalRepository.get_ok.mpr
      ⟨hGet, PostgresFestivalRepository.load_none hText hNone, rfl⟩
  have hDetail : FestivalService.detail front.app.rt visit.env festivalId db =
      .error (FestivalService.unknownFestival festivalId) := by
    unfold FestivalService.detail UnitOfWork.read
    rw [Tx.bind_eq hLoad]
    rfl
  change FestivalDetailView.toJson _ <$> FestivalService.detail front.app.rt visit.env festivalId db = _
  rw [hDetail]
  rfl

/-- Errors of the service: the festival is not there, or something is in the
way. -/
theorem answer_raises (hForeign : visit.env.Foreign) {e : Exn}
    (h : front.answer db visit query = .error e) : e.Unclassified ∨ ∃ festivalId,
      query = .get festivalId ∧ db.festivals.find? festivalId = none ∧
        e = FestivalService.unknownFestival festivalId := by
  cases query with
  | list page state =>
      have hPage (db : Database) : Raises Exn.Unclassified (PostgresFestivalRepository.loadPage
          front.collation db page.limit page.offset state) := by
        have hRow (row : FestivalRow) : Raises Exn.Unclassified (toFestival row (db.gamesOf row.id)) :=
          (toFestival_raises row _).imp fun _ => Exn.Builtin.unclassified
        exact (Raises.mapM hRow _).bind fun _ => raises_ok _
      have hList : Tx.Raises Exn.Unclassified (PostgresFestivalRepository.list visit.env
          front.collation page.limit page.offset state) :=
        (hForeign.raises _).bind fun _ => Tx.Raises.get.bind fun _ => .lift (hPage _)
      exact Or.inl (((Raises.map (hList ⟨db, []⟩) Prod.fst).bind fun _ => raises_ok _).map _ e h)
  | get festivalId =>
      cases hKnown : db.festivals.find? festivalId with
      | some row =>
          have hDetail := @FestivalService.detail_raises front.app.rt visit.env db festivalId hForeign
            (by rw [hKnown]; rfl)
          exact Or.inl (hDetail.map _ e h)
      | none =>
          have hGet : Tx.Raises Exn.Unclassified (PostgresFestivalRepository.get_ visit.env festivalId) :=
            (hForeign.raises _).bind fun _ => Tx.Raises.get.bind fun _ =>
              .lift ((PostgresFestivalRepository.load_raises _ _).imp fun _ => Exn.Builtin.unclassified)
          rcases hFound : PostgresFestivalRepository.get_ visit.env festivalId ⟨db, []⟩ with e' | ⟨found, s⟩
          · have hDetail : FestivalService.detail front.app.rt visit.env festivalId db = .error e' := by
              unfold FestivalService.detail UnitOfWork.read
              rw [Tx.bind_error hFound]
              rfl
            have hError : front.answer db visit (.get festivalId) = .error e' :=
              congrArg (Except.map _) hDetail
            obtain rfl := Except.error.inj (h.symm.trans hError)
            exact Or.inl (hGet _ e hFound)
          · obtain ⟨hFault, hLoad, _⟩ := PostgresFestivalRepository.get_ok.mp hFound
            have hText : Text.storable festivalId = true := by
              obtain ⟨_, hColumn, _⟩ := bind_ok.mp hLoad
              exact (Column.text_ok.mp hColumn).1
            have hError := @answer_unknown front visit db hFault festivalId hText hKnown
            exact Or.inr ⟨festivalId, rfl, hKnown, Except.error.inj (h.symm.trans hError)⟩

/-- A visit that nothing disturbs is answered, since every row of the database
can be read. -/
theorem answer_quiet (hIntact : db.Intact front.app.rt) (hQuiet : ∀ call, visit.env.fault call = none)
    (hText : ∀ festivalId, query = .get festivalId → Text.storable festivalId = true) :
    (∃ value, front.answer db visit query = .ok value) ∨ ∃ festivalId,
      query = .get festivalId ∧ db.festivals.find? festivalId = none ∧
        front.answer db visit query = .error (FestivalService.unknownFestival festivalId) := by
  cases query with
  | list page state =>
      left
      obtain ⟨festivals, hListed⟩ := @exists_listed db state front.collation fun _ row hRow =>
        (hIntact.festivals row hRow).state
      exact ⟨_, map_ok.mpr ⟨_, (FestivalService.list_ok hListed).mpr ⟨hQuiet _, rfl⟩, rfl⟩⟩
  | get festivalId =>
      cases hKnown : db.festivals.find? festivalId with
      | none => exact Or.inr ⟨festivalId, rfl, hKnown, answer_unknown (hQuiet _) (hText _ rfl) hKnown⟩
      | some row =>
          left
          obtain ⟨view, hView⟩ := @Database.Intact.exists_detail front.app.rt visit.env db hIntact hQuiet
            festivalId (hText _ rfl) (by rw [hKnown]; rfl)
          exact ⟨_, map_ok.mpr ⟨view, hView, rfl⟩⟩

/-- Only the parameters are refused. -/
theorem query_error {call : PublicCall} {failure : Failure} (h : front.query call = .error failure) :
    ∃ errors, failure = .validation errors := by
  cases call with
  | getFestival festivalId => cases h
  | listFestivals limit offset state =>
      cases hPage : front.pagination limit offset <;> cases hState : queryState state <;>
        simp [query, hPage, hState] at h <;> exact ⟨_, h.symm⟩

/-- What a reader may conclude from an answer. A page is of the service as it
is, or as it was at most the lifetime of a key ago. -/
structure Told (front : Storefront) (past : List Happening) (visit : PublicVisit)
    (response : Response) : Prop where
  status : response.status ∈ [200, 400, 404, 500]
  correlationId : response.correlationId = visit.correlationId
  refused : response.status = 400 ↔ ∃ failure, front.query visit.call = .error failure
  /-- A page is the one asked for, as the service has it, or had it for an earlier visit whose
  key has not expired. -/
  shown : response.status = 200 → ∃ query, front.query visit.call = .ok query ∧
    (front.answer (front.after past).db visit query = .ok response.body ∨
      ∃ times, front.Answered past query response.body times ∧
        visit.times.asked ≤ times.stored + front.lifetime)
  known : ∀ festivalId, visit.call = .getFestival festivalId → response.status = 200 →
    ((front.after past).db.festivals.find? festivalId).isSome = true
  missing : response.status = 404 → ∃ festivalId, visit.call = .getFestival festivalId ∧
    (front.after past).db.festivals.find? festivalId = none
  /-- Where the database does not fail and can look up the id, the cache had the answer of the
  other route. -/
  failed : response.status = 500 → (∀ call, visit.env.fault call = none) →
    (∀ festivalId, visit.call = .getFestival festivalId → Text.storable festivalId = true) →
    ∃ query other value times, front.query visit.call = .ok query ∧ other ≠ query ∧
      other.key = query.key ∧ front.Answered past other value times ∧
      visit.times.asked ≤ times.stored + front.lifetime

theorem query_get {call : PublicCall} {festivalId : String}
    (h : front.query call = .ok (.get festivalId)) : call = .getFestival festivalId := by
  cases call with
  | getFestival id =>
      obtain rfl := FestivalQuery.get.inj (Except.ok.inj h)
      rfl
  | listFestivals limit offset state =>
      cases hPage : front.pagination limit offset <;> cases hState : queryState state <;>
        simp [query, hPage, hState] at h

/-- A festival that was ever shown has a row now. No festival is deleted. -/
theorem Answered.known {times : ReadThrough.Moments} {festivalId : String}
    (h : front.Answered past (.get festivalId) value times) :
    ((front.after past).db.festivals.find? festivalId).isSome = true := by
  generalize hQuery : FestivalQuery.get festivalId = query at h
  obtain ⟨asked, answer⟩ := h
  subst hQuery
  exact known_after front _ _ (answer_known answer)

/-- A page may be shown if the service has it now, or had it for an earlier
visit whose key has not expired. -/
theorem told_page (hQuery : front.query visit.call = .ok query)
    (hShown : front.answer (front.after past).db visit query = .ok value ∨
      ∃ times, front.Answered past query value times ∧
        visit.times.asked ≤ times.stored + front.lifetime) :
    front.Told past visit ⟨200, "application/json", value, visit.correlationId⟩ := by
  refine ⟨by simp, rfl, ?_, fun _ => ⟨query, hQuery, hShown⟩, ?_, ?_, ?_⟩
  · simp [hQuery]
  · rintro festivalId hCall _
    rw [hCall] at hQuery
    obtain rfl : FestivalQuery.get festivalId = query := Except.ok.inj hQuery
    rcases hShown with hNow | ⟨_, hAnswered, _⟩
    · exact answer_known hNow
    · exact hAnswered.known
  · intro h
    cases h
  · intro h
    cases h

/-- An error may be told if 404 is only said of a festival that is not stored,
and 500 only for a fault, a text that cannot be looked up, or the other route's
answer under the key. -/
theorem told_failure {failure : Failure} (hQuery : front.query visit.call = .ok query)
    (hStatus : failure.status = 404 ∨ failure.status = 500)
    (hMissing : failure.status = 404 → ∃ festivalId, query = .get festivalId ∧
      (front.after past).db.festivals.find? festivalId = none)
    (hFailed : failure.status = 500 → (∀ call, visit.env.fault call = none) →
      (∀ festivalId, query = .get festivalId → Text.storable festivalId = true) →
      ∃ other value times, other ≠ query ∧ other.key = query.key ∧
        front.Answered past other value times ∧ visit.times.asked ≤ times.stored + front.lifetime) :
    front.Told past visit (failure.response visit.correlationId) := by
  have hResponse := failure.response_status visit.correlationId
  refine ⟨?_, failure.response_correlationId _, ?_, ?_, ?_, ?_, ?_⟩
  · rw [hResponse]
    rcases hStatus with h | h <;> simp [h]
  · rw [hResponse, hQuery]
    rcases hStatus with h | h <;> simp [h]
  · intro h
    rw [hResponse] at h
    rcases hStatus with h' | h' <;> cases h.symm.trans h'
  · intro _ _ h
    rw [hResponse] at h
    rcases hStatus with h' | h' <;> cases h.symm.trans h'
  · intro h
    obtain ⟨festivalId, rfl, hNone⟩ := hMissing (hResponse.symm.trans h)
    exact ⟨festivalId, query_get hQuery, hNone⟩
  · intro h hQuiet hText
    obtain ⟨other, value, times, hOther, hKey, hAnswered, hTime⟩ :=
      hFailed (hResponse.symm.trans h) hQuiet fun festivalId hGet => hText festivalId
        (query_get (hQuery.trans (congrArg Except.ok hGet)))
    exact ⟨query, other, value, times, hQuery, hOther, hKey, hAnswered, hTime⟩

/-- What the visits of a run rely on: that what was printed and stored is read
back. -/
def Legible (front : Storefront) (scene : Scene) : Happening → Prop
  | .arrival _ => True
  | .browse visit => front.Rereads scene.db visit ∧ visit.env.Foreign

/-- What the cache keeps comes out of it as it went in. -/
theorem Answered.rereads {times : ReadThrough.Moments} (h : front.Answered past query value times)
    (hReads : ∀ before visit after, past = before ++ .browse visit :: after →
      front.Rereads (front.after before).db visit) :
    front.json.loads (front.json.dumps value) = .ok value ∧ front.serialized value query = some value := by
  obtain ⟨asked, answer⟩ := h
  have hVisit := hReads _ _ _ rfl
  exact ⟨hVisit.json _ _ asked answer, serialized_answer hVisit answer⟩

/-- The page that a visit finds under its key was the answer to an earlier
visit with that key. -/
theorem told_cached (hQuery : front.query visit.call = .ok query) {times : ReadThrough.Moments}
    (hAnswered : front.Answered past other value times) (hKey : other.key = query.key)
    (hTime : visit.times.asked ≤ times.stored + front.lifetime)
    (hModel : front.serialized value other = some value) :
    front.Told past visit (front.respond visit query (.ok value)) := by
  by_cases hOther : other = query
  · subst hOther
    have hRespond : front.respond visit other (.ok value) =
        ⟨200, "application/json", value, visit.correlationId⟩ := by
      simp only [respond, hModel]
    rw [hRespond]
    exact told_page hQuery (Or.inr ⟨times, hAnswered, hTime⟩)
  · have hNone : front.serialized value query = none := by
      obtain ⟨asked, answer⟩ := hAnswered
      exact serialized_other answer hKey hOther
    simp only [respond, hNone]
    refine told_failure hQuery (Or.inr rfl) (fun h => by cases h) fun _ _ _ => ?_
    exact ⟨other, value, times, hOther, hKey, hAnswered, hTime⟩

/-- What the service itself answers at the moment of the visit may be told, a
page as well as an error. -/
theorem told_answered (hForeign : visit.env.Foreign) (hQuery : front.query visit.call = .ok query)
    (hReads : front.Rereads (front.after past).db visit) :
    front.Told past visit (front.respond visit query (front.answer (front.after past).db visit query)) := by
  cases hAnswer : front.answer (front.after past).db visit query with
  | ok value =>
      have hModel := serialized_answer hReads hAnswer
      have hRespond : front.respond visit query (.ok value) =
          ⟨200, "application/json", value, visit.correlationId⟩ := by
        simp only [respond, hModel]
      rw [hRespond]
      exact told_page hQuery (Or.inl hAnswer)
  | error e =>
      change front.Told past visit ((Failure.exn e).response visit.correlationId)
      rcases answer_raises hForeign hAnswer with hUnclassified | ⟨festivalId, rfl, hNone, rfl⟩
      · have hStatus := Failure.status_unclassified hUnclassified
        refine told_failure hQuery (Or.inr hStatus) (fun h => ?_) fun _ hQuiet hText => ?_
        · cases hStatus.symm.trans h
        · rcases answer_quiet (front.after_intact past) hQuiet hText with ⟨value, hOk⟩ | ⟨id, _, _, hError⟩
          · cases hAnswer.symm.trans hOk
          · obtain rfl := Except.error.inj (hAnswer.symm.trans hError)
            exact absurd rfl (hUnclassified _)
      · exact told_failure hQuery (Or.inl rfl) (fun _ => ⟨festivalId, rfl, hNone⟩) fun h => by cases h

/-- In every run, whatever Redis does, a page that is shown is the page asked
for, as the service has it, or had it for an earlier visit that set its key no
longer than its lifetime ago. What the cache has of the other route under the
same key is never shown, and is the only reason for a 500 while the database
answers and the id can be looked up. -/
theorem run_browsed (front : Storefront) (happenings : List Happening)
    (h : Trace.EachStep front.step front.Legible ⟨.fresh .empty .empty, .empty⟩ happenings)
    {past rest : List Happening} {visit : PublicVisit}
    (hVisit : happenings = past ++ .browse visit :: rest) :
    front.Told past visit (front.observe visit (front.after past).db (front.after past).redis).1 := by
  have hLegible := (Trace.eachStep_iff front.step).mp h
  obtain ⟨hReads, hForeign⟩ := hLegible past (.browse visit) rest hVisit
  unfold observe
  cases hQuery : front.query visit.call with
  | error failure =>
      obtain ⟨errors, rfl⟩ := query_error hQuery
      refine ⟨by simp [Failure.response, problem], rfl, ?_, ?_, ?_, ?_, ?_⟩
      · exact iff_of_true rfl ⟨_, hQuery⟩
      · intro h
        cases h
      · intro _ _ h
        cases h
      · intro h
        cases h
      · intro h
        cases h
  | ok query =>
      change front.Told past visit (front.respond visit query
        ((front.browsing visit.env (front.after past).db).serve (front.after past).redis
          ⟨visit.times, query, visit.turn⟩).1)
      rcases serve_cases (front.kept_after past) with hNow | ⟨other, value, times, hAnswered, hKey, hTime, hFound⟩
      · rw [hNow]
        exact told_answered hForeign hQuery hReads
      · obtain ⟨hText, hModel⟩ := hAnswered.rereads fun before earlier after hPast =>
          (hLegible before (.browse earlier) (after ++ .browse visit :: rest) (by
            rw [hVisit, hPast, List.append_assoc, List.cons_append])).1
        rw [hFound, hText]
        exact told_cached hQuery hAnswered hKey hTime hModel

end Storefront

namespace Sample

/-- The page of the sale. -/
def salePage (state : FestivalState) (endedAt : Option DateTime) : Json :=
  FestivalDetailView.toJson DateTime.isoformat {
    id := "fest-1"
    name := "Sale"
    description := ""
    state := state
    startsAt := ⟨100, some 0⟩
    endsAt := ⟨200, some 0⟩
    gameCount := 0
    createdBy := "admin-1"
    createdAt := ⟨1, some 0⟩
    startedAt := none
    endedAt := endedAt
    games := []
    promotions := [] }

def draftPage : Json := salePage .draft none

def cancelledPage : Json := salePage .cancelled (some ⟨2, some 0⟩)

def loadsPage (text : String) : Except Exn Json :=
  if text = draftPage.print ", " ": " then .ok draftPage
  else if text = cancelledPage.print ", " ": " then .ok cancelledPage
  else .error (.builtin .jsonDecodeError "Expecting value")

def front : Storefront where
  app := app
  cache := ⟨true, "festival-service", 30⟩
  json := ⟨Json.print ", " ": ", loadsPage⟩
  collation := Browsing.Sample.collation
  readTime := fun text => ([1, 2, 100, 200].find? fun t => (DateTime.ofTimestamptz t).isoformat = text).map
    DateTime.ofTimestamptz
  parseInt := fun _ => .error "Input should be a valid integer, unable to parse string as an integer"

def reader (now : Int) : PublicVisit where
  correlationHeader := none
  newId := "minted-2"
  call := .getFestival "fest-1"
  times := .instant now
  turn := Browsing.Sample.quiet
  env := env 3

/-- The sale is read, cancelled, and read again from the cache. -/
def happenings : List Happening :=
  [.arrival (.http (visit (.createFestival saleBody) 1)), .browse (reader 1000000),
    .arrival (.http (visit (.cancelFestival "fest-1") 2)), .browse (reader 2000000)]

theorem answer_draft : front.answer (front.after (happenings.take 1)).db (reader 1000000)
    (.get "fest-1") = .ok draftPage := rfl

theorem answer_cancelled : front.answer (front.after (happenings.take 3)).db (reader 2000000)
    (.get "fest-1") = .ok cancelledPage := rfl

theorem loadsPage_print : loadsPage (draftPage.print ", " ": ") = .ok draftPage ∧
    loadsPage (cancelledPage.print ", " ": ") = .ok cancelledPage := by
  have hOther : cancelledPage.print ", " ": " ≠ draftPage.print ", " ": " := by decide +kernel
  unfold loadsPage
  constructor
  · rw [if_pos rfl]
  · rw [if_neg hOther, if_pos rfl]

theorem front_json : front.json = ⟨Json.print ", " ": ", loadsPage⟩ := rfl

theorem rereads_times {db : Database} (h : ∀ t ∈ db.times, t ∈ [1, 2, 100, 200]) :
    ∀ time, db.Dates time → front.text.Rereads time := by
  have hEach : ∀ t ∈ ([1, 2, 100, 200] : List Timestamptz),
      front.text.Rereads (.ofTimestamptz t) := by decide +kernel
  rintro time ⟨t, ht, rfl⟩
  exact hEach t (h t ht)

end Sample

open Sample in
/-- The reader is shown the sale as it was a second ago. -/
theorem Storefront.run_browsed_cached :
    front.Told (happenings.take 3) (reader 2000000) (front.observe (reader 2000000)
      (front.after (happenings.take 3)).db (front.after (happenings.take 3)).redis).1 := by
  refine run_browsed front happenings ⟨trivial, ⟨⟨?_, ?_⟩, foreign_env 3⟩, trivial,
    ⟨⟨?_, ?_⟩, foreign_env 3⟩, trivial⟩ rfl
  · rintro query value hQuery hAnswer
    obtain rfl := Except.ok.inj hQuery
    obtain rfl := Except.ok.inj (answer_draft.symm.trans hAnswer)
    rw [front_json]
    dsimp only
    exact loadsPage_print.1
  · exact rereads_times (by decide +kernel)
  · rintro query value hQuery hAnswer
    obtain rfl := Except.ok.inj hQuery
    obtain rfl := Except.ok.inj (answer_cancelled.symm.trans hAnswer)
    rw [front_json]
    dsimp only
    exact loadsPage_print.2
  · exact rereads_times (by decide +kernel)

open Sample in
example : ((front.observe (reader 2000000) (front.after (happenings.take 3)).db
    (front.after (happenings.take 3)).redis).1.body.print ", " ": ") = draftPage.print ", " ": " := by
  decide +kernel

end Arcadia
