import ArcadiaFestival.Adapters.FestivalRoutes
import ArcadiaFestival.Application.IntactStore
import ArcadiaFestival.Library.Paging

/-! The listing of the festivals, which is served in pages. Each page is read on its own,
and together they are one list, which does not depend on how long the pages are. -/
namespace Arcadia
open Library Fallible

/-- The row as the listing shows it. -/
def FestivalRow.Shows (db : Database) (row : FestivalRow) (view : FestivalView) : Prop :=
  ∃ festival, toFestival row (db.gamesOf row.id) = .ok festival ∧ view = FestivalView.of festival

/-- All festivals in a state, or in any: each of them once, those that start
last first, and those that start together by their ids. -/
structure Listing (collation : Collation) (db : Database) (state : Option FestivalState)
    (views : List FestivalView) : Prop where
  once : (views.map FestivalView.id).Nodup
  complete : ∀ view, view ∈ views ↔
    ∃ row ∈ db.festivals.rows, (∀ s ∈ state, row.state = s.text) ∧ row.Shows db view
  ordered : views.Pairwise fun a b => DateTime.Before b.startsAt a.startsAt ∨
    a.startsAt = b.startsAt ∧ collation.le a.id b.id = true

/-- Pages of one length, whoever serves each of them, and what they are
together. -/
structure Tiling (collation : Collation) (db : Database) (state : Option FestivalState)
    (views : List FestivalView) (limit : Nat) : Prop where
  answered : ∀ (env : Env) (offset : Nat), env.fault .festivalsList = none →
    ∃ page, FestivalService.list env collation limit offset state db = .ok page ∧
      page.total = views.length ∧ (page.items = [] ↔ views.length ≤ offset)
  whole : ∀ (envs : Nat → Env) (pages : Nat → Page FestivalView) (count : Nat),
    (∀ k < count,
      FestivalService.list (envs k) collation limit (k * limit) state db = .ok (pages k)) →
    views.length ≤ count * limit →
    (List.range count).flatMap (fun k => (pages k).items) = views

/-- There is only one such list, since no two festivals stand in the same place
of the order. -/
theorem Listing.unique {collation : Collation} {db : Database} {state : Option FestivalState}
    {views views' : List FestivalView} (h : Listing collation db state views)
    (h' : Listing collation db state views') : views = views' := by
  have hSame : views.Perm views' := by
    rw [List.perm_ext_iff_of_nodup h.once.of_map h'.once.of_map]
    intro view
    rw [h.complete, h'.complete]
  refine List.Perm.eq_of_pairwise ?_ h.ordered h'.ordered hSame
  intro a b ha hb hFirst hSecond
  have hIds : a.id = b.id := by
    rcases hFirst with hLater | ⟨hStart, hLe⟩
    · have hInstants := (DateTime.before_iff.mp hLater).2
      rcases hSecond with hEarlier | ⟨hStart, _⟩
      · have hOther := (DateTime.before_iff.mp hEarlier).2
        omega
      · rw [hStart] at hInstants
        omega
    · rcases hSecond with hEarlier | ⟨_, hGe⟩
      · have hInstants := (DateTime.before_iff.mp hEarlier).2
        rw [hStart] at hInstants
        omega
      · exact collation.antisymm hLe hGe
  exact List.inj_on_of_nodup_map h.once ha (hSame.mem_iff.mpr hb) hIds

section Order
variable {collation : Collation}

/-- `ORDER BY starts_at DESC, id`. The id breaks the ties, so that the order is
total. -/
def FestivalRow.Precedes (collation : Collation) (a b : FestivalRow) : Prop :=
  b.startsAt < a.startsAt ∨ a.startsAt = b.startsAt ∧ collation.le a.id b.id = true

instance : DecidableRel (FestivalRow.Precedes collation) := by
  unfold FestivalRow.Precedes
  infer_instance

instance : Std.Total (FestivalRow.Precedes collation) where
  total a b := by
    rcases lt_trichotomy a.startsAt b.startsAt with hLess | hSame | hMore
    · exact Or.inr (Or.inl hLess)
    · rcases collation.total a.id b.id with hIds | hIds
      · exact Or.inl (Or.inr ⟨hSame, hIds⟩)
      · exact Or.inr (Or.inr ⟨hSame.symm, hIds⟩)
    · exact Or.inl (Or.inl hMore)

instance : IsTrans FestivalRow (FestivalRow.Precedes collation) where
  trans a b c := by
    rintro (hFirst | ⟨hFirst, hIds⟩) (hSecond | ⟨hSecond, hIds'⟩)
    · exact Or.inl (hSecond.trans hFirst)
    · exact Or.inl (hSecond ▸ hFirst)
    · exact Or.inl (hFirst ▸ hSecond)
    · exact Or.inr ⟨hFirst.trans hSecond, collation.trans hIds hIds'⟩

end Order

namespace PostgresFestivalRepository
variable {collation : Collation} {db : Database} {state : Option FestivalState}

/-- The rows that the filter lets through, in the order of the query. -/
def matching (collation : Collation) (db : Database) (state : Option FestivalState) :
    List FestivalRow :=
  (db.festivals.rows.filter fun row => state.all fun s => row.state = s.text).insertionSort
    (FestivalRow.Precedes collation)

/-- All of them, read at once. -/
def listed (collation : Collation) (db : Database) (state : Option FestivalState) :
    Except Exn (List Festival) :=
  (matching collation db state).mapM fun row => toFestival row (db.gamesOf row.id)

/-- The rows that match are those in the state that is asked for. -/
theorem mem_matching {row : FestivalRow} : row ∈ matching collation db state ↔
    row ∈ db.festivals.rows ∧ ∀ s ∈ state, row.state = s.text := by
  rw [matching, List.mem_insertionSort, List.mem_filter]
  cases state with
  | none => simp
  | some s => simp

/-- A page is a slice of the rows, and the count is that of all of them. Both
are read in one transaction. -/
theorem loadPage_ok {limit offset : Nat} {festivals : List Festival} {total : Nat} :
    loadPage collation db limit offset state = .ok (festivals, total) ↔
      (Paging.page limit offset (matching collation db state)).mapM
          (fun row => toFestival row (db.gamesOf row.id)) = .ok festivals ∧
        total = (matching collation db state).length := by
  have hCount : (matching collation db state).length =
      (db.festivals.rows.filter fun row => state.all fun s => row.state = s.text).length :=
    List.length_insertionSort _ _
  rw [hCount]
  unfold loadPage
  rw [bind_ok]
  constructor
  · rintro ⟨read, hRead, h⟩
    obtain ⟨rfl, rfl⟩ := Prod.mk.inj (pure_ok.mp h)
    exact ⟨hRead, rfl⟩
  · rintro ⟨hRead, rfl⟩
    exact ⟨festivals, hRead, rfl⟩

/-- The query returns a page and a count, and leaves the session. -/
theorem list_ok {env : Env} {limit offset : Nat} {s t : Session} {result : List Festival × Nat} :
    list env collation limit offset state s = .ok (result, t) ↔ env.fault .festivalsList = none ∧
      loadPage collation s.db limit offset state = .ok result ∧ t = s := by
  rw [list, Tx.call_bind_ok, Tx.get_bind_ok, Tx.lift_ok]

/-- No two rows have one id. -/
theorem matching_nodup : ((matching collation db state).map FestivalRow.id).Nodup := by
  have hRows : ((db.festivals.rows.filter fun row => state.all fun s => row.state = s.text).map
      FestivalRow.id).Nodup := db.festivals.nodup.sublist (List.filter_sublist.map FestivalRow.id)
  exact ((List.perm_insertionSort _ _).map FestivalRow.id).nodup_iff.mpr hRows

/-- The rows are listed by their start, the latest first, and by their ids. -/
theorem matching_ordered : (matching collation db state).Pairwise (FestivalRow.Precedes collation) :=
  List.pairwise_insertionSort _ _

end PostgresFestivalRepository

/-! The list that the pages are taken from. -/

section
variable {collation : Collation} {db : Database} {state : Option FestivalState}
  {festivals : List Festival}

/-- Rows whose states are known are festivals. A filter lets only such rows
through. -/
theorem exists_listed (collation : Collation)
    (hKnown : state = none → ∀ row ∈ db.festivals.rows, ∃ s : FestivalState, row.state = s.text) :
    ∃ festivals, PostgresFestivalRepository.listed collation db state = .ok festivals := by
  apply mapM_ok_of_forall
  intro row hRow
  obtain ⟨hMem, hState⟩ := PostgresFestivalRepository.mem_matching.mp hRow
  have hOne : ∃ s : FestivalState, row.state = s.text := by
    cases state with
    | none => exact hKnown rfl row hMem
    | some s => exact ⟨s, hState s rfl⟩
  obtain ⟨s, hText⟩ := hOne
  have hParse : FestivalState.parse row.state = .ok s := by rw [hText, FestivalState.parse_text]
  exact ⟨_, toFestival_ok.mpr ⟨s, hParse, rfl⟩⟩

theorem listing_of_listed
    (h : PostgresFestivalRepository.listed collation db state = .ok festivals) :
    Listing collation db state (festivals.map FestivalView.of) where
  once := by
    have hIds : festivals.map Festival.id =
        (PostgresFestivalRepository.matching collation db state).map FestivalRow.id := by
      apply map_mapM_ok h
      intro row festival _ hRead
      exact (toFestival_loaded hRead).id
    have hViews : (festivals.map FestivalView.of).map FestivalView.id = festivals.map Festival.id :=
      List.map_map
    rw [hViews, hIds]
    exact PostgresFestivalRepository.matching_nodup
  complete := by
    intro view
    rw [List.mem_map]
    constructor
    · rintro ⟨festival, hFestival, rfl⟩
      obtain ⟨row, hRow, hRead⟩ := (mem_mapM_ok h festival).mp hFestival
      obtain ⟨hMem, hState⟩ := PostgresFestivalRepository.mem_matching.mp hRow
      exact ⟨row, hMem, hState, festival, hRead, rfl⟩
    · rintro ⟨row, hMem, hState, festival, hRead, rfl⟩
      have hRow : row ∈ PostgresFestivalRepository.matching collation db state :=
        PostgresFestivalRepository.mem_matching.mpr ⟨hMem, hState⟩
      exact ⟨festival, (mem_mapM_ok h festival).mpr ⟨row, hRow, hRead⟩, rfl⟩
  ordered := by
    -- the order looks at the start and the id only, and these are those of the row
    let before (a b : DateTime × String) : Prop := DateTime.Before b.1 a.1 ∨
      a.1 = b.1 ∧ collation.le a.2 b.2 = true
    have hKeys : festivals.map (fun festival => (festival.startsAt, festival.id)) =
        (PostgresFestivalRepository.matching collation db state).map fun row =>
          (DateTime.ofTimestamptz row.startsAt, row.id) := by
      apply map_mapM_ok h
      intro row festival _ hRead
      have hLoaded := toFestival_loaded hRead
      rw [hLoaded.startsAt, hLoaded.id]
    have hRows : ((PostgresFestivalRepository.matching collation db state).map fun row =>
        (DateTime.ofTimestamptz row.startsAt, row.id)).Pairwise before := by
      rw [List.pairwise_map]
      apply PostgresFestivalRepository.matching_ordered.imp
      rintro a b (hLater | ⟨hSame, hIds⟩)
      · exact Or.inl (DateTime.before_ofTimestamptz.mpr hLater)
      · exact Or.inr ⟨congrArg DateTime.ofTimestamptz hSame, hIds⟩
    rw [← hKeys, List.pairwise_map] at hRows
    rw [List.pairwise_map]
    exact hRows

/-- Where the rows can be read there is only one answer to a request for a
page, and it is given unless the storage fails. -/
theorem FestivalService.list_ok
    (h : PostgresFestivalRepository.listed collation db state = .ok festivals)
    {env : Env} {limit offset : Nat} {page : Page FestivalView} :
    FestivalService.list env collation limit offset state db = .ok page ↔
      env.fault .festivalsList = none ∧
        page = ⟨Paging.page limit offset (festivals.map FestivalView.of),
          (festivals.map FestivalView.of).length, limit, offset⟩ := by
  have hLength : (PostgresFestivalRepository.matching collation db state).length =
      festivals.length := (mapM_ok_iff.mp h).length_eq
  have hPage := PostgresFestivalRepository.loadPage_ok.mpr
    ⟨Paging.mapM_page h limit offset, hLength.symm⟩
  have hRead {result : List Festival × Nat} :
      UnitOfWork.read (PostgresFestivalRepository.list env collation limit offset state) db =
        .ok result ↔ env.fault .festivalsList = none ∧
          result = (Paging.page limit offset festivals, festivals.length) := by
    constructor
    · intro hRead
      obtain ⟨⟨result', t⟩, hList, rfl⟩ := map_ok.mp hRead
      obtain ⟨hQuiet, hResult, _⟩ := PostgresFestivalRepository.list_ok.mp hList
      exact ⟨hQuiet, Except.ok.inj (hResult.symm.trans hPage)⟩
    · rintro ⟨hQuiet, rfl⟩
      exact map_ok.mpr ⟨_, PostgresFestivalRepository.list_ok.mpr ⟨hQuiet, hPage, rfl⟩, rfl⟩
  rw [← Paging.map_page, List.length_map, FestivalService.list, bind_ok]
  constructor
  · rintro ⟨result, hResult, hSome⟩
    obtain ⟨hQuiet, rfl⟩ := hRead.mp hResult
    exact ⟨hQuiet, (pure_ok.mp hSome).symm⟩
  · rintro ⟨hQuiet, rfl⟩
    exact ⟨_, hRead.mpr ⟨hQuiet, rfl⟩, rfl⟩

/-- The pages of one length are cut from this listing, one after the other. -/
theorem tiling_of_listed
    (h : PostgresFestivalRepository.listed collation db state = .ok festivals)
    {limit : Nat} (hLimit : 1 ≤ limit) :
    Tiling collation db state (festivals.map FestivalView.of) limit where
  answered := by
    intro env offset hQuiet
    exact ⟨_, (FestivalService.list_ok h).mpr ⟨hQuiet, rfl⟩, rfl, Paging.page_eq_nil_iff hLimit⟩
  whole := by
    intro envs pages count hPages hEnough
    have hItems (k : Nat) (hk : k ∈ List.range count) : (pages k).items =
        Paging.page limit (k * limit) (festivals.map FestivalView.of) := by
      obtain ⟨_, hPage⟩ := (FestivalService.list_ok h).mp (hPages k (List.mem_range.mp hk))
      rw [hPage]
    rw [List.flatMap_congr hItems]
    exact Paging.flatMap_page_eq hEnough

theorem pages_of_listed
    (h : PostgresFestivalRepository.listed collation db state = .ok festivals) :
    ∃ views, Listing collation db state views ∧
      ∀ limit, 1 ≤ limit → Tiling collation db state views limit :=
  ⟨_, listing_of_listed h, fun _ hLimit => tiling_of_listed h hLimit⟩

/-- Whatever the service has done, its rows hold such states, and all of them
are listed. -/
theorem run_pages_tile (cfg : Config) (rt : Runtime) (requests : List Request)
    (collation : Collation) (state : Option FestivalState) :
    ∃ views, Listing collation (Trace.run (serve cfg rt) (.fresh .empty .empty) requests) state views ∧
      ∀ limit, 1 ≤ limit →
        Tiling collation (Trace.run (serve cfg rt) (.fresh .empty .empty) requests) state views limit := by
  have hIntact := run_intact cfg rt requests
  obtain ⟨festivals, hListed⟩ := exists_listed collation
    fun (_ : state = none) row hRow => (hIntact.festivals row hRow).state
  exact pages_of_listed hListed

/-- The pages of one length tile the listing, and it is the same for every
length. The festivals that are listed are those in one state, or all of them
where every row holds one of the states. -/
theorem FestivalService.pages_tile (collation : Collation) (db : Database)
    (state : Option FestivalState)
    (hKnown : state = none → ∀ row ∈ db.festivals.rows, ∃ s : FestivalState, row.state = s.text) :
    ∃ views, Listing collation db state views ∧
      ∀ limit, 1 ≤ limit → Tiling collation db state views limit := by
  obtain ⟨festivals, hListed⟩ := exists_listed collation hKnown
  exact pages_of_listed hListed

end

namespace Sample

/-- Two of the three start together. -/
def threeFestivals : Database :=
  let row (id : String) (startsAt : Timestamptz) : FestivalRow :=
    { Browsing.Sample.festivalRow with id := id, startsAt := startsAt }
  { Database.fresh .empty .empty with
    festivals := ⟨[row "fest-2" 5, row "fest-3" 7, row "fest-1" 5], by decide⟩ }

end Sample

open PostgresFestivalRepository in
example : (matching Browsing.Sample.collation Sample.threeFestivals none).map FestivalRow.id =
    ["fest-3", "fest-1", "fest-2"] := by decide +kernel

/-- Two festivals of the sample start together and are told apart by their ids. -/
theorem FestivalService.pages_tile_ties :
    ∃ views, Listing Browsing.Sample.collation Sample.threeFestivals none views ∧
      ∀ limit, 1 ≤ limit →
        Tiling Browsing.Sample.collation Sample.threeFestivals none views limit := by
  apply FestivalService.pages_tile
  intro _ row hRow
  have hState : row.state = FestivalState.text .draft := by
    revert row
    decide
  exact ⟨.draft, hState⟩

end Arcadia
