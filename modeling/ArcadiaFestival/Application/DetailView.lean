import ArcadiaFestival.Application.Dto
import ArcadiaFestival.Library.Fallible
import Mathlib.Data.List.MinMax
import Mathlib.Data.List.Pairwise

/-! Which discount the detail view shows for a game: that of the active promotion that
was updated last. -/
namespace Arcadia
open Library Fallible

/-- `List.argmax` picks the first of the largest elements. Whatever stands
before it is smaller, and what comes after it is not larger. -/
theorem argmax_split {α β : Type*} [LinearOrder β] {f : α → β} {l : List α} {m : α}
    (h : l.argmax f = some m) : ∃ before after, l = before ++ m :: after ∧
      (∀ a ∈ before, f a < f m) ∧ ∀ a ∈ after, f a ≤ f m := by
  induction l generalizing m with
  | nil => cases h
  | cons a l ih =>
      rw [List.argmax_cons] at h
      cases hRest : l.argmax f with
      | none =>
          rw [hRest] at h
          obtain rfl := Option.some.inj h
          obtain rfl := List.argmax_eq_none.mp hRest
          exact ⟨[], [], rfl, by simp, by simp⟩
      | some c =>
          rw [hRest] at h
          dsimp only at h
          split_ifs at h with hLess
          · obtain rfl := Option.some.inj h
            obtain ⟨before, after, rfl, hBefore, hAfter⟩ := ih hRest
            refine ⟨a :: before, after, rfl, ?_, hAfter⟩
            intro b hb
            rcases List.mem_cons.mp hb with rfl | hb
            · exact hLess
            · exact hBefore b hb
          · obtain rfl := Option.some.inj h
            refine ⟨[], l, rfl, by simp, ?_⟩
            intro b hb
            exact (List.le_of_mem_argmax hb hRest).trans (not_lt.mp hLess)

namespace DateTime

/-- `a == b`. An aware value never equals a naive one, although their
comparison by order raises. -/
def Same (a b : DateTime) : Prop := (a.Aware ↔ b.Aware) ∧ a.instant = b.instant

instance (a b : DateTime) : Decidable (Same a b) := by
  unfold Same
  infer_instance

end DateTime

/-- The promotion gives the game a discount. -/
def PromotionSnapshot.discounts (snapshot : PromotionSnapshot) (gameId : String) : Bool :=
  snapshot.isActive && snapshot.gameId = gameId

namespace FestivalDetailView

/-- The times of promotions for one game can be compared: all of them have an
offset, or none has. -/
def Comparable (promotions : List PromotionSnapshot) : Prop :=
  ∀ a ∈ promotions, ∀ b ∈ promotions, a.isActive = true → b.isActive = true →
    a.gameId = b.gameId → (a.updatedAt.Aware ↔ b.updatedAt.Aware)

/-- The promotion of a game that was updated last, and of several the last one
in the list. -/
def newest (promotions : List PromotionSnapshot) (gameId : String) : Option PromotionSnapshot :=
  letI : Preorder Int := Int.instLinearOrder.toPreorder
  (promotions.filter (·.discounts gameId)).reverse.argmax fun snapshot =>
    snapshot.updatedAt.instant

/-- One more promotion replaces the newest of its game, unless that one is
newer. Among promotions of the same time the last one of the list wins. -/
theorem newest_concat (promotions : List PromotionSnapshot) (snapshot : PromotionSnapshot)
    (gameId : String) : newest (promotions ++ [snapshot]) gameId =
      if snapshot.discounts gameId then
        match newest promotions gameId with
        | none => some snapshot
        | some current =>
            if snapshot.updatedAt.instant < current.updatedAt.instant then some current
            else some snapshot
      else newest promotions gameId := by
  unfold newest
  rw [List.filter_append]
  cases hNames : snapshot.discounts gameId with
  | false => simp [hNames]
  | true =>
      simp only [List.filter_cons, hNames, if_true, List.filter_nil, List.reverse_append,
        List.reverse_singleton, List.singleton_append, List.argmax_cons]
      cases (promotions.filter (·.discounts gameId)).reverse.argmax
        fun snapshot => snapshot.updatedAt.instant with
      | none => rfl
      | some current => rfl

/-- The newest promotion of a game is an active one of the list and of the
game. -/
theorem newest_mem {promotions : List PromotionSnapshot} {gameId : String}
    {snapshot : PromotionSnapshot} (h : newest promotions gameId = some snapshot) :
    snapshot ∈ promotions ∧ snapshot.isActive = true ∧ snapshot.gameId = gameId := by
  have hMem := List.mem_reverse.mp (List.argmax_mem h)
  simpa [PromotionSnapshot.discounts] using hMem

theorem newest_max {promotions : List PromotionSnapshot} {gameId : String}
    {snapshot : PromotionSnapshot} (h : newest promotions gameId = some snapshot)
    {other : PromotionSnapshot} (hMem : other ∈ promotions) (hActive : other.isActive = true)
    (hGame : other.gameId = gameId) : other.updatedAt.instant ≤ snapshot.updatedAt.instant := by
  have hNames : other.discounts gameId = true := by
    simp [PromotionSnapshot.discounts, hActive, hGame]
  have hListed : other ∈ (promotions.filter (·.discounts gameId)).reverse :=
    List.mem_reverse.mpr (List.mem_filter.mpr ⟨hMem, hNames⟩)
  exact List.le_of_mem_argmax (f := fun snapshot => snapshot.updatedAt.instant) hListed h

theorem newest_isSome {promotions : List PromotionSnapshot} {gameId : String} :
    (newest promotions gameId).isSome = true ↔
      ∃ snapshot ∈ promotions, snapshot.isActive = true ∧ snapshot.gameId = gameId := by
  rw [Option.isSome_iff_ne_none, ne_eq, newest, List.argmax_eq_none, List.reverse_eq_nil_iff,
    List.filter_eq_nil_iff]
  simp [PromotionSnapshot.discounts]

/-- The times are comparable for one more promotion. -/
def Alike (promotions : List PromotionSnapshot) (snapshot : PromotionSnapshot) : Prop :=
  snapshot.isActive = true → ∀ current, newest promotions snapshot.gameId = some current →
    (current.updatedAt.Aware ↔ snapshot.updatedAt.Aware)

/-- One more promotion can be compared with the others or it cannot. -/
theorem comparable_concat {promotions : List PromotionSnapshot} {snapshot : PromotionSnapshot} :
    Comparable (promotions ++ [snapshot]) ↔ Comparable promotions ∧ Alike promotions snapshot := by
  constructor
  · intro h
    refine ⟨fun a ha b hb => h a (List.mem_append_left _ ha) b (List.mem_append_left _ hb), ?_⟩
    intro hActive current hCurrent
    obtain ⟨hMem, hCurrentActive, hGame⟩ := newest_mem hCurrent
    exact h current (List.mem_append_left _ hMem) snapshot (by simp) hCurrentActive hActive hGame
  · rintro ⟨hOld, hAlike⟩
    have hNew : ∀ a ∈ promotions, a.isActive = true → snapshot.isActive = true →
        a.gameId = snapshot.gameId → (a.updatedAt.Aware ↔ snapshot.updatedAt.Aware) := by
      intro a ha hActive hNewActive hGame
      obtain ⟨current, hCurrent⟩ :=
        Option.isSome_iff_exists.mp (newest_isSome.mpr ⟨a, ha, hActive, hGame⟩)
      obtain ⟨hMem, hCurrentActive, hCurrentGame⟩ := newest_mem hCurrent
      exact (hOld a ha current hMem hActive hCurrentActive (hGame.trans hCurrentGame.symm)).trans
        (hAlike hNewActive current hCurrent)
    intro a hFirst b hSecond hActive hActive' hGame
    rcases List.mem_append.mp hFirst with ha | ha
    · rcases List.mem_append.mp hSecond with hb | hb
      · exact hOld a ha b hb hActive hActive' hGame
      · rw [List.mem_singleton.mp hb] at hActive' hGame ⊢
        exact hNew a ha hActive hActive' hGame
    · rw [List.mem_singleton.mp ha] at hActive hGame ⊢
      rcases List.mem_append.mp hSecond with hb | hb
      · exact (hNew b hb hActive' hActive hGame.symm).symm
      · rw [List.mem_singleton.mp hb]

section Round
variable {promotions : List PromotionSnapshot} {byGameActive : Dict String PromotionSnapshot}
  {snapshot : PromotionSnapshot}

/-- A promotion that is not active or of another game does not matter. -/
theorem newest_concat_ne {gameId : String} (h : snapshot.isActive = true → snapshot.gameId ≠ gameId) :
    newest (promotions ++ [snapshot]) gameId = newest promotions gameId := by
  have hOther : snapshot.discounts gameId = false := by
    cases hActive : snapshot.isActive with
    | false => simp [PromotionSnapshot.discounts, hActive]
    | true => simp [PromotionSnapshot.discounts, h hActive]
  rw [newest_concat, hOther]
  rfl

/-- One round of the loop takes the newest active promotion of each game to the
newest of one promotion more. -/
theorem collect_alike (h : ∀ gameId, byGameActive.get? gameId = newest promotions gameId)
    (hAlike : Alike promotions snapshot) : ∃ byGameActive',
      collect byGameActive snapshot = .ok byGameActive' ∧
        ∀ gameId, byGameActive'.get? gameId = newest (promotions ++ [snapshot]) gameId := by
  by_cases hActive : snapshot.isActive = true
  · have hNames : snapshot.discounts snapshot.gameId = true := by
      simp [PromotionSnapshot.discounts, hActive]
    have hSet : newest (promotions ++ [snapshot]) snapshot.gameId = some snapshot →
        ∀ gameId, (byGameActive.set snapshot.gameId snapshot).get? gameId =
          newest (promotions ++ [snapshot]) gameId := by
      intro hNewest gameId
      rw [Dict.get?_set]
      split_ifs with hGame
      · rw [← hGame, hNewest]
      · rw [h, newest_concat_ne fun _ => hGame]
    unfold collect
    rw [if_pos hActive, h]
    cases hCurrent : newest promotions snapshot.gameId with
    | none =>
        refine ⟨_, rfl, hSet ?_⟩
        rw [newest_concat, hNames, hCurrent]
        rfl
    | some current =>
        have hNewest : newest (promotions ++ [snapshot]) snapshot.gameId =
            if snapshot.updatedAt.instant < current.updatedAt.instant then some current
            else some snapshot := by
          rw [newest_concat, hNames, hCurrent]
          rfl
        dsimp only
        rw [DateTime.le_of_alike (hAlike hActive current hCurrent)]
        by_cases hNewer : current.updatedAt.instant ≤ snapshot.updatedAt.instant
        · rw [if_neg (not_lt.mpr hNewer)] at hNewest
          exact ⟨_, by simp [hNewer, bind, Except.bind, pure, Except.pure], hSet hNewest⟩
        · rw [if_pos (not_le.mp hNewer)] at hNewest
          refine ⟨byGameActive, by simp [hNewer, bind, Except.bind, pure, Except.pure], ?_⟩
          intro gameId
          by_cases hGame : snapshot.gameId = gameId
          · rw [h, ← hGame, hNewest, hCurrent]
          · rw [h, newest_concat_ne fun _ => hGame]
  · refine ⟨byGameActive, if_neg hActive, ?_⟩
    intro gameId
    rw [h, newest_concat_ne fun hOther => absurd hOther hActive]

/-- A promotion that cannot be compared with the current one of its game makes
the page fail. -/
theorem collect_unlike (h : ∀ gameId, byGameActive.get? gameId = newest promotions gameId)
    (hUnlike : ¬Alike promotions snapshot) : ∃ e, collect byGameActive snapshot = .error e := by
  unfold Alike at hUnlike
  push Not at hUnlike
  obtain ⟨hActive, current, hCurrent, hTimes⟩ := hUnlike
  have hMixed : ¬(current.updatedAt.Aware ↔ snapshot.updatedAt.Aware) := by
    intro hSame
    rcases hTimes with ⟨hFirst, hSecond⟩ | ⟨hFirst, hSecond⟩
    · exact hSecond (hSame.mp hFirst)
    · exact hFirst (hSame.mpr hSecond)
  unfold collect
  rw [if_pos hActive, h, hCurrent]
  dsimp only
  rw [DateTime.le_error hMixed]
  exact ⟨_, rfl⟩

end Round

/-- The whole loop: it collects the newest promotion of each game, or it raises
because two times cannot be compared. -/
theorem collect_fold (promotions : List PromotionSnapshot) :
    (Comparable promotions ∧ ∃ byGameActive, promotions.foldlM collect .empty = .ok byGameActive ∧
      ∀ gameId, byGameActive.get? gameId = newest promotions gameId) ∨
    (¬Comparable promotions ∧ ∃ e, promotions.foldlM collect .empty = .error e) := by
  induction promotions using List.reverseRecOn with
  | nil => exact Or.inl ⟨by simp [Comparable], .empty, rfl, fun gameId => rfl⟩
  | append_singleton promotions snapshot ih =>
      rw [List.foldlM_append, comparable_concat]
      rcases ih with ⟨hComparable, byGameActive, hFold, hNewest⟩ | ⟨hComparable, e, hFold⟩
      · rw [hFold]
        by_cases hAlike : Alike promotions snapshot
        · obtain ⟨byGameActive', hRound, hNewest'⟩ := collect_alike hNewest hAlike
          left
          refine ⟨⟨hComparable, hAlike⟩, byGameActive', ?_, hNewest'⟩
          exact bind_ok.mpr ⟨byGameActive, rfl, bind_ok.mpr ⟨byGameActive', hRound, rfl⟩⟩
        · obtain ⟨e, hRound⟩ := collect_unlike hNewest hAlike
          right
          refine ⟨fun h => hAlike h.2, e, ?_⟩
          change (collect byGameActive snapshot >>= pure) = _
          rw [hRound]
          rfl
      · right
        refine ⟨fun h => hComparable h.1, e, ?_⟩
        rw [hFold]
        rfl

/-- What the loop has collected are the newest promotions of all games,
whatever order they came in. -/
theorem collect_newest {promotions : List PromotionSnapshot}
    {byGameActive : Dict String PromotionSnapshot}
    (h : promotions.foldlM collect .empty = .ok byGameActive) (gameId : String) :
    byGameActive.get? gameId = newest promotions gameId := by
  rcases collect_fold promotions with ⟨_, _, hFold, hNewest⟩ | ⟨_, e, hFold⟩
  · obtain rfl := Except.ok.inj (hFold.symm.trans h)
    exact hNewest gameId
  · cases hFold.symm.trans h

/-- Of the active promotions of the game this one was updated last, and those
after it in the list were updated earlier. -/
def Latest (promotions : List PromotionSnapshot) (gameId : String) (snapshot : PromotionSnapshot) :
    Prop :=
  ∃ before after, promotions = before ++ snapshot :: after ∧ snapshot.discounts gameId = true ∧
    (∀ other ∈ before, other.discounts gameId = true →
      other.updatedAt.instant ≤ snapshot.updatedAt.instant) ∧
    ∀ other ∈ after, other.discounts gameId = true →
      other.updatedAt.instant < snapshot.updatedAt.instant

/-- The promotion that the page shows is the latest of its game. Of several at
the same time it is the last in the list. -/
theorem newest_latest {promotions : List PromotionSnapshot} {gameId : String}
    {snapshot : PromotionSnapshot} (h : newest promotions gameId = some snapshot) :
    Latest promotions gameId snapshot := by
  obtain ⟨later, earlier, hSplit, hLater, hEarlier⟩ := argmax_split h
  have hList : promotions.filter (·.discounts gameId) =
      earlier.reverse ++ snapshot :: later.reverse := by
    rw [← List.reverse_reverse (promotions.filter _), hSplit]
    simp
  obtain ⟨before, rest, rfl, hBefore, hRest⟩ := List.filter_eq_append_iff.mp hList
  obtain ⟨between, after, rfl, hBetween, hNames, hAfter⟩ := List.filter_eq_cons_iff.mp hRest
  refine ⟨before ++ between, after, by simp, hNames, ?_, ?_⟩
  · intro other hOther hOtherNames
    rcases List.mem_append.mp hOther with hOther | hOther
    · have hMem : other ∈ earlier.reverse := by
        rw [← hBefore]
        exact List.mem_filter.mpr ⟨hOther, hOtherNames⟩
      exact hEarlier other (List.mem_reverse.mp hMem)
    · exact absurd hOtherNames (hBetween other hOther)
  · intro other hOther hOtherNames
    have hMem : other ∈ later.reverse := by
      rw [← hAfter]
      exact List.mem_filter.mpr ⟨hOther, hOtherNames⟩
    exact hLater other (List.mem_reverse.mp hMem)

/-- Where no two were updated at the same time, the order of the list makes no
difference. -/
theorem newest_perm {promotions permuted : List PromotionSnapshot} (h : promotions.Perm permuted)
    (hComparable : Comparable promotions)
    (hDistinct : promotions.Pairwise fun a b => ¬a.updatedAt.Same b.updatedAt) (gameId : String) :
    newest promotions gameId = newest permuted gameId := by
  have hSymm : Std.Symm fun a b : PromotionSnapshot => ¬a.updatedAt.Same b.updatedAt :=
    ⟨fun a b hOther hSame => hOther ⟨hSame.1.symm, hSame.2.symm⟩⟩
  cases hFirst : newest promotions gameId with
  | none =>
      cases hSecond : newest permuted gameId with
      | none => rfl
      | some other =>
          have hSome := newest_isSome.mp (Option.isSome_of_eq_some hSecond)
          simp only [← h.mem_iff] at hSome
          rw [← newest_isSome, hFirst] at hSome
          cases hSome
  | some snapshot =>
      have hSome := newest_isSome.mp (Option.isSome_of_eq_some hFirst)
      simp only [h.mem_iff] at hSome
      obtain ⟨other, hSecond⟩ := Option.isSome_iff_exists.mp (newest_isSome.mpr hSome)
      obtain ⟨hMem, hActive, hGame⟩ := newest_mem hFirst
      obtain ⟨hOther, hOtherActive, hOtherGame⟩ := newest_mem hSecond
      rw [← h.mem_iff] at hOther
      have hAlike := hComparable snapshot hMem other hOther hActive hOtherActive
        (hGame.trans hOtherGame.symm)
      have hLe := newest_max hFirst hOther hOtherActive hOtherGame
      have hGe := newest_max hSecond (h.mem_iff.mp hMem) hActive hGame
      rw [hSecond]
      by_contra hDifferent
      exact hDistinct.forall hMem hOther (fun hSame => hDifferent (congrArg some hSame))
        ⟨hAlike, le_antisymm hGe hLe⟩

/-- The page is the festival with its games, and with the newest promotion at
each of them. -/
theorem ofDetail_ok {festival : Festival} {promotions : List PromotionSnapshot}
    {view : FestivalDetailView} (h : ofDetail festival promotions = .ok view) :
    view = { FestivalView.of festival with
      games := festival.games.rows.map fun entry =>
        FestivalGameView.of entry.2 (newest promotions entry.1)
      promotions := promotions.map PromotionSnapshotView.of } := by
  obtain ⟨byGameActive, hFold, hPure⟩ := bind_ok.mp h
  obtain rfl := pure_ok.mp hPure
  simp only [collect_newest hFold]

/-- The page can be built if and only if the promotions can be compared. The
order of the list does not matter for this. -/
theorem ofDetail_returns (festival : Festival) (promotions : List PromotionSnapshot) :
    (∃ view, ofDetail festival promotions = .ok view) ↔ Comparable promotions := by
  constructor
  · rintro ⟨view, h⟩
    obtain ⟨byGameActive, hFold, _⟩ := bind_ok.mp h
    rcases collect_fold promotions with ⟨hComparable, _⟩ | ⟨_, e, hError⟩
    · exact hComparable
    · cases hError.symm.trans hFold
  · intro hComparable
    rcases collect_fold promotions with ⟨_, byGameActive, hFold, _⟩ | ⟨hNot, _⟩
    · exact ⟨_, bind_ok.mpr ⟨byGameActive, hFold, rfl⟩⟩
    · exact absurd hComparable hNot

/-- What the view shows for a selected game: the facts of its selection, and
the discount and the prices of its promotion. -/
structure Shows (promotions : List PromotionSnapshot) (entry : String × FestivalGame)
    (game : FestivalGameView) : Prop where
  facts : { game with discountedPrice := none, discountBps := none } =
    FestivalGameView.of entry.2 none
  discounted : game.discountBps.isSome = true ↔
    ∃ snapshot ∈ promotions, snapshot.isActive = true ∧ snapshot.gameId = entry.1
  price : game.discountBps = none → game.discountedPrice = none
  latest : ∀ bps, game.discountBps = some bps → ∃ snapshot, Latest promotions entry.1 snapshot ∧
    bps = snapshot.discountBps ∧
    game.discountedPrice = snapshot.effectivePrice.map MoneyView.of

/-- Each game of the page shows its newest promotion, and no discount if it has
none. -/
theorem shows_newest (promotions : List PromotionSnapshot) (entry : String × FestivalGame) :
    Shows promotions entry (FestivalGameView.of entry.2 (newest promotions entry.1)) where
  facts := rfl
  discounted := by
    rw [← newest_isSome, FestivalGameView.of, Option.isSome_map]
  price := by
    intro h
    rw [FestivalGameView.of, Option.map_eq_none_iff] at h
    rw [FestivalGameView.of, h]
    rfl
  latest := by
    intro bps h
    obtain ⟨snapshot, hNewest, rfl⟩ := Option.map_eq_some_iff.mp h
    refine ⟨snapshot, newest_latest hNewest, rfl, ?_⟩
    rw [FestivalGameView.of, hNewest]
    rfl

/-- The detail view of a festival with these promotions: one entry for each
selected game in the order of the festival, with the discount of the promotion
updated last, and all the promotions in their order. It can be had where the
times of promotions for one game can be compared, and then the order of the
promotions only decides between those updated at the same time. -/
theorem ofDetail_shows (festival : Festival) (promotions : List PromotionSnapshot) :
    ((∃ view, ofDetail festival promotions = .ok view) ↔ Comparable promotions) ∧
    ∀ view, ofDetail festival promotions = .ok view →
      List.Forall₂ (Shows promotions) festival.games.rows view.games ∧
      view.promotions = promotions.map PromotionSnapshotView.of ∧
      ((promotions.Pairwise fun a b => ¬a.updatedAt.Same b.updatedAt) →
        ∀ permuted, promotions.Perm permuted → ∃ view', ofDetail festival permuted = .ok view' ∧
          view'.games = view.games) := by
  refine ⟨ofDetail_returns festival promotions, ?_⟩
  intro view h
  have hComparable := (ofDetail_returns festival promotions).mp ⟨view, h⟩
  obtain rfl := ofDetail_ok h
  refine ⟨?_, rfl, ?_⟩
  · rw [List.forall₂_map_right_iff]
    exact List.forall₂_same.mpr fun entry _ => shows_newest promotions entry
  · intro hDistinct permuted hPerm
    have hPermuted : Comparable permuted := fun a ha b hb =>
      hComparable a (hPerm.mem_iff.mpr ha) b (hPerm.mem_iff.mpr hb)
    obtain ⟨view', hView⟩ := (ofDetail_returns festival permuted).mpr hPermuted
    refine ⟨view', hView, ?_⟩
    rw [ofDetail_ok hView]
    simp only [newest_perm hPerm hComparable hDistinct]

/-- The view claimed to be there for every list of promotions: not where an
aware and a naive time would have to be compared. -/
theorem mixed_times_raise : ¬∀ (festival : Festival) (promotions : List PromotionSnapshot),
    ∃ view, ofDetail festival promotions = .ok view := by
  intro h
  let day : DateTime := ⟨0, some 0⟩
  let festival : Festival :=
    ⟨"fest-1", "Sale", "", day, day, .active, "admin-1", day, none, none, .empty, 0⟩
  let promotion (updatedAt : DateTime) : PromotionSnapshot :=
    ⟨"promo-1", "fest-1", "game-1", "ACTIVE", 1000, day, day, none, none, updatedAt⟩
  have hComparable := (ofDetail_returns festival [promotion ⟨0, some 0⟩, promotion ⟨0, none⟩]).mp
    (h festival _)
  have hAlike := hComparable (promotion ⟨0, some 0⟩) (by simp) (promotion ⟨0, none⟩) (by simp) rfl rfl rfl
  revert hAlike
  decide

end FestivalDetailView
end Arcadia
