import ArcadiaFestival.Domain.CatalogSync
import ArcadiaFestival.Domain.Festival
import ArcadiaFestival.Platform.Outbox

/-! The tables, and what their columns accept. A value that a column rejects makes
the statement fail with an error of the database driver. -/
namespace Arcadia
open Library

def databaseError (message : String) : Exn := .builtin .databaseError message

namespace Column

/-- `TEXT`, as a column or as a parameter of a query -/
def text (s : String) : Except Exn String :=
  if Text.storable s then .ok s
  else .error (databaseError "invalid byte sequence for encoding UTF8")

theorem text_ok {s t : String} : text s = .ok t ↔ Text.storable s = true ∧ t = s := by
  unfold text
  split_ifs with h
  · simp [h, eq_comm]
  · simp [h]

/-- `INTEGER` -/
def int4 (n : Int) : Except Exn Int :=
  if -2147483648 ≤ n ∧ n ≤ 2147483647 then .ok n
  else .error (databaseError "value out of int32 range")

/-- `BIGINT` -/
def int8 (n : Int) : Except Exn Int :=
  if -9223372036854775808 ≤ n ∧ n ≤ 9223372036854775807 then .ok n
  else .error (databaseError "value out of int64 range")

/-- A column that may be `NULL`. It fails as the column fails, on a value that
is there. -/
def nullable {α β : Type} (encode : α → Except Exn β) : Option α → Except Exn (Option β)
  | none => .ok none
  | some a => (encode a).map some

end Column

structure FestivalRow where
  id : String
  name : String
  description : String
  state : String
  startsAt : Timestamptz
  endsAt : Timestamptz
  createdBy : String
  createdAt : Timestamptz
  startedAt : Option Timestamptz
  endedAt : Option Timestamptz
  version : Nat
  deriving DecidableEq, Repr

structure FestivalGameRow where
  festivalId : String
  gameId : String
  title : String
  developerId : String
  addedBy : String
  addedAt : Timestamptz
  deriving DecidableEq, Repr

def FestivalGameRow.key (row : FestivalGameRow) : String × String := (row.festivalId, row.gameId)

structure CatalogGameRow where
  gameId : String
  title : String
  developerId : String
  published : Bool
  updatedAt : Timestamptz
  deriving DecidableEq, Repr

structure PromotionSnapshotRow where
  promotionId : String
  festivalId : String
  gameId : String
  state : String
  discountBps : Int
  startsAt : Timestamptz
  endsAt : Timestamptz
  listPriceMinor : Option Int
  listPriceCurrency : Option String
  effectivePriceMinor : Option Int
  effectivePriceCurrency : Option String
  updatedAt : Timestamptz
  deriving DecidableEq, Repr

/-- The outbox with its sequence of ids: rows are added at the end, under ids
that the sequence has not given out before. -/
structure OutboxLog where
  rows : List OutboxMessage
  next : Nat
  sorted : rows.Pairwise fun a b => a.id < b.id
  bound : ∀ row ∈ rows, row.id < next

namespace OutboxLog

def empty : OutboxLog := ⟨[], 1, List.Pairwise.nil, fun _ h => nomatch h⟩

/-- The sequence runs ahead when transactions that took an id are rolled back. -/
def append (log : OutboxLog) (skipped : Nat) (row : OutboxMessage) : OutboxLog where
  rows := log.rows ++ [{ row with id := log.next + skipped }]
  next := log.next + skipped + 1
  sorted := by
    rw [List.pairwise_append]
    refine ⟨log.sorted, List.pairwise_singleton _ _, ?_⟩
    intro a ha b hb
    obtain rfl := List.mem_singleton.mp hb
    exact Nat.lt_add_right skipped (log.bound a ha)
  bound := by
    intro r hr
    rcases List.mem_append.mp hr with hr | hr
    · have := log.bound r hr
      omega
    · obtain rfl := List.mem_singleton.mp hr
      exact Nat.lt_succ_self _

/-- The table that the dispatchers drain. It is the same table as the one that
the requests write to. -/
def table (log : OutboxLog) : OutboxTable where
  rows := log.rows
  nodup := List.pairwise_map.mpr (log.sorted.imp Nat.ne_of_lt)

end OutboxLog

structure Database where
  festivals : KeyedTable FestivalRow.id
  festivalGames : KeyedTable FestivalGameRow.key
  catalogGames : KeyedTable CatalogGameRow.gameId
  promotionSnapshots : KeyedTable PromotionSnapshotRow.promotionId
  outboxMessages : OutboxLog

/-- Before the first festival is created, whatever Catalog has reported.
Messages about games can come first. -/
def Database.fresh (catalogGames : KeyedTable CatalogGameRow.gameId)
    (promotionSnapshots : KeyedTable PromotionSnapshotRow.promotionId) : Database :=
  ⟨.empty, .empty, catalogGames, promotionSnapshots, .empty⟩

/-- The order of texts in the database. Only equal texts are equal in it, as in
every deterministic collation. -/
structure Collation where
  le : String → String → Bool
  total : ∀ a b, le a b = true ∨ le b a = true
  trans : ∀ {a b c}, le a b = true → le b c = true → le a c = true
  antisymm : ∀ {a b}, le a b = true → le b a = true → a = b

/-- `FestivalState(text)` -/
def FestivalState.parse : String → Except Exn FestivalState
  | "DRAFT" => .ok .draft
  | "ACTIVE" => .ok .active
  | "ENDED" => .ok .ended
  | "CANCELLED" => .ok .cancelled
  | text => .error (valueError ("'" ++ text ++ "' is not a valid FestivalState"))

@[simp] theorem FestivalState.parse_text (s : FestivalState) : FestivalState.parse s.text = .ok s := by
  cases s <;> rfl

theorem FestivalState.text_injective : Function.Injective FestivalState.text := by
  intro s t h
  have hParse : FestivalState.parse s.text = FestivalState.parse t.text := by rw [h]
  rw [parse_text, parse_text] at hParse
  exact Except.ok.inj hParse

end Arcadia
