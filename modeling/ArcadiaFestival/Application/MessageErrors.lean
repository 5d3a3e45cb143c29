import ArcadiaFestival.Application.RequestErrors
import ArcadiaFestival.Platform.MessageHandling

/-! Which of Catalog's messages are handled with one call: those whose handler returns or
finds a required field missing. Everything else that a payload can bring about is not
classified, and is retried. -/
namespace Arcadia
open Library Fallible

/-- The transaction fails with nothing else, whatever it finds in the session. -/
def Tx.Raises {α : Type} (p : Exn → Prop) (m : Tx α) : Prop := ∀ s, Fallible.Raises p (m s)

namespace Tx.Raises
variable {α β : Type} {p : Exn → Prop}

/-- A transaction that goes on fails as its first part or as its second. The
rules of this section take the handlers apart by the shape of their code. -/
theorem bind {m : Tx α} {g : α → Tx β} (hm : Tx.Raises p m) (hg : ∀ a, Tx.Raises p (g a)) :
    Tx.Raises p (m >>= g) := by
  intro s
  change Fallible.Raises p (m s >>= fun r => g r.1 r.2)
  exact (hm s).bind fun r => hg r.1 r.2

/-- A computation on the values alone fails in a transaction as it does
outside. -/
theorem lift {result : Except Exn α} (h : Fallible.Raises p result) : Tx.Raises p (Tx.lift result) :=
  fun s => h.map fun a => (a, s)

/-- The built-in exceptions are among the unclassified ones: no handler of the
service names their class. -/
theorem builtin {result : Except Exn α} (h : Fallible.Raises Exn.Builtin result) :
    Tx.Raises Exn.Unclassified (Tx.lift result) := lift (h.imp fun _ => Exn.Builtin.unclassified)

/-- Without faults of the storage a call to it does not fail. -/
theorem call {env : Env} (hQuiet : ∀ call, env.fault call = none) (c : Call) :
    Tx.Raises p (Tx.call env c) := by
  intro s
  have hCall : Tx.call env c s = .ok ((), s) := Tx.call_ok.mpr ⟨hQuiet c, rfl⟩
  rw [hCall]
  exact raises_ok _

theorem get : Tx.Raises p (get : Tx Session) := fun _ => raises_ok _

theorem modify (f : Session → Session) : Tx.Raises p (modify f : Tx PUnit) := fun _ => raises_ok _

theorem pure (a : α) : Tx.Raises p (pure a : Tx α) := fun _ => raises_ok _

end Tx.Raises

/-! No coercion of a payload and no reading of a row raises an `AppError`. -/

section
variable {rt : Runtime} {env : Env}

/-- The constructor of `Money` refuses a currency that has not three characters
by a MoneyError, and a value without a length by a TypeError. Neither is an
AppError. -/
theorem Money.new_raises (minor : Int) (currency : Json) :
    Raises Exn.Unclassified (new rt minor currency) := by
  unfold new
  split
  · dsimp only
    split_ifs
    · exact raises_error fun _ h => nomatch h
    · exact raises_ok _
  · exact raises_error (unclassified_builtin _ _)

/-- A time of the payload that is absent is the present. One that
`fromisoformat` cannot read is a ValueError of Python. -/
theorem CatalogSyncService.parse_raises (now : DateTime) (value : Json) :
    Raises Exn.Unclassified (parse rt now value) := by
  unfold parse
  split_ifs
  · exact raises_ok _
  · split
    · exact raises_ok _
    · exact raises_error (unclassified_builtin _ _)

/-- The prices of a row were written through `Money`, and are read through it
again. -/
theorem moneyOfColumns_raises (minor : Option Int) (currency : Option String) :
    Raises Exn.Unclassified (moneyOfColumns rt minor currency) := by
  unfold moneyOfColumns
  split
  · split_ifs
    · exact raises_ok _
    · exact (Money.new_raises _ _).map some
  · exact raises_ok _

/-- A row of a promotion fails to be read on its prices only. -/
theorem toPromotion_raises (row : PromotionSnapshotRow) : Raises Exn.Unclassified (toPromotion rt row) :=
  (moneyOfColumns_raises _ _).bind fun _ => (moneyOfColumns_raises _ _).bind fun _ => raises_ok _

/-- The stored promotion is looked up by the id of the payload, which may be no
text of the database. -/
theorem PostgresPromotionRepository.load_raises (db : Database) (promotionId : String) :
    Raises Exn.Unclassified (load rt db promotionId) := by
  unfold load
  refine ((Column.text_raises _).imp fun _ => Exn.Builtin.unclassified).bind fun key => ?_
  split
  · exact raises_ok _
  · exact (toPromotion_raises _).map some

/-! Nor does a transaction of a handler, while the storage works. -/

namespace CatalogSyncService
variable {cfg : Config} {db : Database} {payload : Fields}

/-- The fields that a handler asks for with `_require`, in its order. The first
that is missing is named. -/
def Handler.required : Handler → List String
  | .promotion _ => ["promotion_id", "game_id"]
  | _ => ["game_id"]

def MissingField (rt : Runtime) (payload : Fields) (handler : Handler) : Prop :=
  ∃ field ∈ handler.required, textField rt payload field = ""

instance (payload : Fields) (handler : Handler) : Decidable (MissingField rt payload handler) :=
  inferInstanceAs (Decidable (∃ field ∈ _, _))

end CatalogSyncService

end
end Arcadia
