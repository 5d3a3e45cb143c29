import ArcadiaFestival.Adapters.FestivalMapping

/-! What the columns reject, they reject with an exception of the driver or of the
language. No such exception says what is wrong with a request. -/
namespace Arcadia
open Library Fallible

def Exn.Builtin (e : Exn) : Prop := ∃ cls message, e = .builtin cls message

/-- The driver and the language raise built-in exceptions, whatever the text of
the message is. -/
theorem raises_builtin {α : Type} (cls : ExcClass) (message : String) :
    Raises Exn.Builtin (.error (.builtin cls message) : Except Exn α) :=
  raises_error ⟨cls, message, rfl⟩

namespace Column

/-- A text column refuses what the driver cannot encode or the server cannot
hold. Neither is an error of the application. -/
theorem text_raises (s : String) : Raises Exn.Builtin (text s) := by
  unfold text
  split_ifs
  · exact raises_ok s
  · exact raises_builtin _ _

/-- The columns `version` and `discount_bps` have four bytes. -/
theorem int4_raises (n : Int) : Raises Exn.Builtin (int4 n) := by
  unfold int4
  split_ifs
  · exact raises_ok n
  · exact raises_builtin _ _

/-- A nullable column fails as the column does, and never on NULL. -/
theorem nullable_raises {α β : Type} {p : Exn → Prop} {encode : α → Except Exn β}
    (h : ∀ a, Raises p (encode a)) (value : Option α) : Raises p (nullable encode value) := by
  cases value with
  | none => exact raises_ok none
  | some a => exact (h a).map some

end Column

section
variable {rt : Runtime}

/-- A time is refused when it has no offset or is out of the range of the
column. -/
theorem Runtime.timestamptz_raises (d : DateTime) : Raises Exn.Builtin (rt.timestamptz d) := by
  unfold timestamptz
  dsimp only
  split_ifs
  · exact raises_ok _
  · exact raises_builtin _ _

/-- The constructor of the enumeration raises a ValueError for a text that is
none of its values. Only rows from elsewhere have such a text. -/
theorem FestivalState.parse_raises (text : String) : Raises Exn.Builtin (parse text) := by
  unfold parse
  split
  · exact raises_ok _
  · exact raises_ok _
  · exact raises_ok _
  · exact raises_ok _
  · exact raises_builtin _ _

/-- The check constraint on the window of a festival is reported by the driver. -/
theorem checkFestivalRow_raises (row : FestivalRow) : Raises Exn.Builtin (checkFestivalRow row) := by
  unfold checkFestivalRow
  split_ifs
  · exact raises_ok row
  · exact raises_builtin _ _

/-- An INSERT of a festival encodes its columns one after the other, and the
first that refuses its value decides the error. -/
theorem newFestivalRow_raises (festival : Festival) : Raises Exn.Builtin (newFestivalRow rt festival) :=
  (Column.text_raises _).bind fun _ => (Column.text_raises _).bind fun _ =>
    (Column.text_raises _).bind fun _ => (rt.timestamptz_raises _).bind fun _ =>
      (rt.timestamptz_raises _).bind fun _ => (Column.text_raises _).bind fun _ =>
        (rt.timestamptz_raises _).bind fun _ => checkFestivalRow_raises _

/-- An UPDATE of a festival fails on the same columns as the INSERT. -/
theorem savedFestivalRow_raises (row : FestivalRow) (festival : Festival) :
    Raises Exn.Builtin (savedFestivalRow rt row festival) :=
  (Column.int4_raises _).bind fun _ => (Column.text_raises _).bind fun _ =>
    (Column.text_raises _).bind fun _ => (rt.timestamptz_raises _).bind fun _ =>
      (rt.timestamptz_raises _).bind fun _ =>
        (Column.nullable_raises rt.timestamptz_raises _).bind fun _ =>
          (Column.nullable_raises rt.timestamptz_raises _).bind fun _ => checkFestivalRow_raises _

/-- An INSERT of a selected game fails on a text or on the time of the
selection. -/
theorem newFestivalGameRow_raises (festivalId : String) (game : FestivalGame) :
    Raises Exn.Builtin (newFestivalGameRow rt festivalId game) :=
  (Column.text_raises _).bind fun _ => (Column.text_raises _).bind fun _ =>
    (Column.text_raises _).bind fun _ => (Column.text_raises _).bind fun _ =>
      (rt.timestamptz_raises _).bind fun _ => raises_ok _

/-- A festival that was loaded from these rows passes the version check. -/
theorem planSave_raises {db : Database} {row : FestivalRow} {festival : Festival}
    (hRow : db.festivals.find? festival.id = some row) (hVersion : row.version = festival.version) :
    Raises Exn.Builtin (planSave rt db festival) := by
  unfold planSave
  simp only [hRow, hVersion, ne_eq, not_true_eq_false, if_false]
  exact (savedFestivalRow_raises _ _).bind fun _ =>
    (Raises.mapM (fun entry => newFestivalGameRow_raises _ _) _).bind fun _ => raises_ok _

/-- Reading a festival back can fail on its state only, since the other columns
map to the fields as they are. -/
theorem toFestival_raises (row : FestivalRow) (games : KeyedTable FestivalGameRow.gameId) :
    Raises Exn.Builtin (toFestival row games) :=
  (FestivalState.parse_raises _).bind fun _ => raises_ok _

/-- A key that is no text of the database makes the SELECT itself fail. -/
theorem PostgresFestivalRepository.load_raises (db : Database) (festivalId : String) :
    Raises Exn.Builtin (load db festivalId) := by
  unfold load
  refine (Column.text_raises _).bind fun key => ?_
  cases db.festivals.find? key with
  | none => exact raises_ok _
  | some row => exact (toFestival_raises _ _).map some

/-- The read model of the catalog is keyed by texts too, so that its SELECT
fails on the same keys. -/
theorem PostgresCatalogGameRepository.load_raises (db : Database) (gameId : String) :
    Raises Exn.Builtin (load db gameId) :=
  (Column.text_raises _).bind fun _ => raises_ok _

/-- An INSERT into the outbox fails when the type, the topic or the key is no
text of the database, or when JSONB refuses the envelope. -/
theorem OutboxLog.insert_raises (log : OutboxLog) (skipped : Nat) (row : OutboxMessage) :
    Raises Exn.Builtin (log.insert skipped row) := by
  unfold insert
  refine (Column.text_raises _).bind fun _ => (Column.text_raises _).bind fun _ =>
    (Column.text_raises _).bind fun _ => (Column.text_raises _).bind fun _ => ?_
  have hDatabase (message : String) (next : PUnit → Except Exn OutboxLog) :
      Raises Exn.Builtin (throw (databaseError message) >>= next) :=
    raises_builtin _ _
  dsimp only
  split_ifs
  · exact hDatabase _ _
  · exact hDatabase _ _
  · exact hDatabase _ _
  · exact raises_ok _

/-- The events of one transaction are written one after the other, so that the
first refusal is the error of all. -/
theorem OutboxLog.insertAll_raises (log : OutboxLog) (skipped : Nat) (rows : List OutboxMessage) :
    Raises Exn.Builtin (log.insertAll skipped rows) :=
  Raises.foldlM (fun log row => insert_raises log skipped row) rows log

end
end Arcadia
