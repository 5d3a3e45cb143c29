import ArcadiaFestival.Domain.Festival
import ArcadiaFestival.Library.Simulation
import Mathlib.Data.Set.Insert
import Mathlib.Order.Basic

/-! What the service is for, in terms of its own: sales over a window, of games picked
from those that are on the market. A sale is planned, opened once and closed for good. -/
namespace Arcadia
open Library

/-- One sale, as far as a customer can tell: its phase, its window and what is
on offer. -/
structure Sale (Game Time : Type*) where
  phase : FestivalState
  opens : Time
  closes : Time
  games : Set Game

/-- The games that can be picked, and the sales there are. Prices and
promotions are no part of it. -/
structure Marketplace (Key Game Time : Type*) where
  released : Set Game
  sales : Key → Option (Sale Game Time)

namespace Sale
variable {Game Time : Type*}

/-- What can be done to a sale that exists. -/
inductive Action (Game Time : Type*) where
  | move (opens closes : Time)
  | pick (game : Game)
  | drop (game : Game)
  | open_
  | close
  | callOff

inductive Edit [LT Time] (released : Set Game) (sale : Sale Game Time) :
    Action Game Time → Sale Game Time → Prop where
  | move {opens closes : Time} (draft : sale.phase = .draft) (window : opens < closes) :
      Edit released sale (.move opens closes) { sale with opens := opens, closes := closes }
  | pick {game : Game} (editable : sale.phase = .draft ∨ sale.phase = .active)
      (onSale : game ∈ released) (absent : game ∉ sale.games) :
      Edit released sale (.pick game) { sale with games := insert game sale.games }
  | drop {game : Game} (editable : sale.phase = .draft ∨ sale.phase = .active)
      (picked : game ∈ sale.games) :
      Edit released sale (.drop game) { sale with games := sale.games \ {game} }
  | open_ (draft : sale.phase = .draft) (some_game : sale.games.Nonempty) :
      Edit released sale .open_ { sale with phase := .active }
  | close (active : sale.phase = .active) : Edit released sale .close { sale with phase := .ended }
  | callOff (running : sale.phase = .draft ∨ sale.phase = .active) :
      Edit released sale .callOff { sale with phase := .cancelled }

end Sale

namespace Marketplace
variable {Key Game Time : Type*} [DecidableEq Key]

inductive Action (Key Game Time : Type*) where
  | release (game : Game)
  | withdraw (game : Game)
  | plan (key : Key) (opens closes : Time)
  | edit (key : Key) (action : Sale.Action Game Time)

inductive Step [LT Time] (market : Marketplace Key Game Time) :
    Action Key Game Time → Marketplace Key Game Time → Prop where
  | release {game : Game} :
      Step market (.release game) { market with released := insert game market.released }
  | withdraw {game : Game} :
      Step market (.withdraw game) { market with released := market.released \ {game} }
  | plan {key : Key} {opens closes : Time} (unused : market.sales key = none)
      (window : opens < closes) :
      Step market (.plan key opens closes)
        { market with sales := Function.update market.sales key (some ⟨.draft, opens, closes, ∅⟩) }
  | edit {key : Key} {sale sale' : Sale Game Time} {action : Sale.Action Game Time}
      (known : market.sales key = some sale) (edited : sale.Edit market.released action sale') :
      Step market (.edit key action)
        { market with sales := Function.update market.sales key (some sale') }

end Marketplace

/-- How far a sale has come. An ended sale and a cancelled one have come
equally far. -/
def FestivalState.rank : FestivalState → Nat
  | .draft => 0
  | .active => 1
  | .ended => 2
  | .cancelled => 2

namespace Sale
variable {Game Time : Type*}

/-- What a sale may have become: it has not gone back, it has left the draft
with the window it keeps, it has a window at all, and it is over for good. -/
structure Later [LT Time] (sale sale' : Sale Game Time) : Prop where
  forward : sale.phase.rank ≤ sale'.phase.rank
  window : sale.phase ≠ .draft → sale'.opens = sale.opens ∧ sale'.closes = sale.closes
  proper : sale.opens < sale.closes → sale'.opens < sale'.closes
  final : sale.phase.terminal = true → sale' = sale

theorem rank_draft {phase : FestivalState} : phase = .draft ↔ phase.rank = 0 := by
  cases phase <;> simp [FestivalState.rank]

namespace Later
variable [LT Time] {sale sale' sale'' : Sale Game Time}

theorem refl (sale : Sale Game Time) : Later sale sale :=
  ⟨Nat.le_refl _, fun _ => ⟨rfl, rfl⟩, fun h => h, fun _ => rfl⟩

theorem trans (h : Later sale sale') (h' : Later sale' sale'') : Later sale sale'' where
  forward := h.forward.trans h'.forward
  window hLeft := by
    have hStill : sale'.phase ≠ .draft := by
      rw [ne_eq, rank_draft] at hLeft ⊢
      have := h.forward
      omega
    exact ⟨(h'.window hStill).1.trans (h.window hLeft).1, (h'.window hStill).2.trans (h.window hLeft).2⟩
  proper hWindow := h'.proper (h.proper hWindow)
  final hOver := by
    obtain rfl := h.final hOver
    exact h'.final hOver

end Later

/-- Every edit takes the sale forward or leaves its phase. None applies to a
sale that is over. -/
theorem Edit.later [LT Time] {released : Set Game} {sale sale' : Sale Game Time}
    {action : Action Game Time} (h : sale.Edit released action sale') : Later sale sale' := by
  have hEditable (hPhase : sale.phase = .draft ∨ sale.phase = .active) : sale.phase.terminal ≠ true := by
    rw [Ne, FestivalState.terminal, Bool.not_eq_true', FestivalState.editable_iff.mpr hPhase]
    decide
  cases h with
  | move draft window =>
      exact ⟨Nat.le_refl _, fun h => absurd draft h, fun _ => window,
        fun h => absurd h (hEditable (Or.inl draft))⟩
  | pick editable onSale absent =>
      exact ⟨Nat.le_refl _, fun _ => ⟨rfl, rfl⟩, fun h => h, fun h => absurd h (hEditable editable)⟩
  | drop editable picked =>
      exact ⟨Nat.le_refl _, fun _ => ⟨rfl, rfl⟩, fun h => h, fun h => absurd h (hEditable editable)⟩
  | open_ draft some_game =>
      refine ⟨?_, fun _ => ⟨rfl, rfl⟩, fun h => h, fun h => absurd h (hEditable (Or.inl draft))⟩
      rw [draft]
      exact Nat.zero_le _
  | close active =>
      refine ⟨?_, fun _ => ⟨rfl, rfl⟩, fun h => h, fun h => absurd h (hEditable (Or.inr active))⟩
      rw [active]
      exact Nat.le_succ 1
  | callOff running =>
      refine ⟨?_, fun _ => ⟨rfl, rfl⟩, fun h => h, fun h => absurd h (hEditable running)⟩
      rcases running with h | h
      · rw [h]
        exact Nat.zero_le _
      · rw [h]
        exact Nat.le_succ 1

end Sale

namespace Marketplace
variable {Key Game Time : Type*} [LT Time]

/-- Every sale of the one is a sale of the other, as it may have become. New
sales may have been planned. -/
def Later (market market' : Marketplace Key Game Time) : Prop :=
  ∀ key sale, market.sales key = some sale → ∃ sale', market'.sales key = some sale' ∧ sale.Later sale'

theorem Later.refl (market : Marketplace Key Game Time) : Later market market :=
  fun _ sale h => ⟨sale, h, .refl sale⟩

theorem Later.trans {market market' market'' : Marketplace Key Game Time} (h : Later market market')
    (h' : Later market' market'') : Later market market'' := by
  intro key sale hSale
  obtain ⟨sale', hSale', hLater⟩ := h key sale hSale
  obtain ⟨sale'', hSale'', hLater'⟩ := h' key sale' hSale'
  exact ⟨sale'', hSale'', hLater.trans hLater'⟩

variable [DecidableEq Key]

/-- A step edits one sale at most, and does not take another one away. -/
theorem Step.later {market market' : Marketplace Key Game Time} {action : Action Key Game Time}
    (h : Step market action market') : Later market market' := by
  cases h with
  | release => exact .refl market
  | withdraw => exact .refl market
  | @plan planned opens closes unused window =>
      intro key sale hSale
      have hOther : key ≠ planned := by
        rintro rfl
        rw [unused] at hSale
        cases hSale
      exact ⟨sale, (Function.update_of_ne hOther _ _).trans hSale, .refl sale⟩
  | @edit edited old new action known edit =>
      intro key sale hSale
      by_cases hHere : key = edited
      · subst hHere
        obtain rfl := Option.some.inj (known.symm.trans hSale)
        exact ⟨new, Function.update_self .., edit.later⟩
      · exact ⟨sale, (Function.update_of_ne hHere _ _).trans hSale, .refl sale⟩

/-- Over a path every sale only goes forward, and no sale is taken away. -/
theorem path_later {market market' : Marketplace Key Game Time}
    {actions : List (Action Key Game Time)} (h : Simulation.Path Step market actions market') :
    Later market market' :=
  h.rel Later .refl (fun hFirst hSecond => hFirst.trans hSecond) Step.later

end Marketplace
end Arcadia
