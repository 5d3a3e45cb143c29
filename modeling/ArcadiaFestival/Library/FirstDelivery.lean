import ArcadiaFestival.Library.Trace

/-! At-least-once delivery that keeps the order in which things first come. A reader that
passes over what it has seen before ends up with a beginning of the log. -/
namespace Library.FirstDelivery

variable {α κ : Type*} [DecidableEq κ]

/-- A reader that knows things by their key takes what is new to it and skips
the rest. -/
def take (key : α → κ) (taken : List α) (x : α) : List α :=
  if key x ∈ taken.map key then taken else taken ++ [x]

/-- What is taken of everything that comes. -/
def firsts (key : α → κ) (sent : List α) : List α := Trace.run (take key) [] sent

variable (key : α → κ)

theorem firsts_concat (sent : List α) (x : α) :
    firsts key (sent ++ [x]) = take key (firsts key sent) x :=
  Trace.run_concat (take key) [] sent x

/-- Nothing is taken that did not come. -/
theorem firsts_subset (sent : List α) : firsts key sent ⊆ sent := by
  induction sent using List.reverseRecOn with
  | nil => exact List.Subset.refl _
  | append_singleton sent x ih =>
      rw [firsts_concat, take]
      split_ifs
      · exact List.Subset.trans ih (List.subset_append_left ..)
      · exact List.append_subset.mpr
          ⟨List.Subset.trans ih (List.subset_append_left ..), List.subset_append_right ..⟩

/-- Everything that comes is known afterwards, whether it was taken now or
before. -/
theorem key_mem_firsts {sent : List α} {x : α} (h : x ∈ sent) :
    key x ∈ (firsts key sent).map key := by
  induction sent using List.reverseRecOn with
  | nil => cases h
  | append_singleton sent last ih =>
      rw [firsts_concat, take]
      rcases List.mem_append.mp h with hOld | hLast
      · split_ifs
        · exact ih hOld
        · rw [List.map_append]
          exact List.mem_append_left _ (ih hOld)
      · obtain rfl := List.mem_singleton.mp hLast
        split_ifs with hKnown
        · exact hKnown
        · simp

theorem nodup_firsts (sent : List α) : ((firsts key sent).map key).Nodup := by
  induction sent using List.reverseRecOn with
  | nil => exact List.nodup_nil
  | append_singleton sent x ih =>
      rw [firsts_concat, take]
      split_ifs with hKnown
      · exact ih
      · rw [List.map_append, List.map_singleton, List.nodup_append]
        refine ⟨ih, List.pairwise_singleton _ _, ?_⟩
        rintro k hk _ hLast rfl
        rw [List.mem_singleton.mp hLast] at hk
        exact hKnown hk

/-- Whatever comes is from the log, and everything before it in the log has
come before. -/
def InOrder (log sent : List α) : Prop :=
  ∀ before x after, sent = before ++ x :: after →
    x ∈ log ∧ ∀ older newer, log = older ++ x :: newer → older ⊆ before

theorem InOrder.init {log sent : List α} {x : α} (h : InOrder log (sent ++ [x])) :
    InOrder log sent := by
  rintro before y after rfl
  exact h before y (after ++ [x]) (by simp)

variable {key}

/-- In a log of distinct keys, what a reader has taken is always a beginning of
the log. -/
theorem InOrder.isPrefix_firsts {log sent : List α} (hLog : (log.map key).Nodup)
    (h : InOrder log sent) : firsts key sent <+: log := by
  induction sent using List.reverseRecOn with
  | nil => exact List.nil_prefix
  | append_singleton sent x ih =>
      rw [firsts_concat, take]
      split_ifs with hKnown
      · exact ih h.init
      · obtain ⟨rest, hRest⟩ := ih h.init
        obtain ⟨hIn, hOlder⟩ := h sent x [] rfl
        -- what has been taken does not have x, so x is in the rest of the log
        have hNot : x ∉ firsts key sent := fun hTaken => hKnown (List.mem_map_of_mem hTaken)
        rw [← hRest] at hIn hLog
        rcases List.mem_append.mp hIn with hTaken | hLater
        · exact absurd hTaken hNot
        · obtain ⟨older, newer, rfl⟩ := List.append_of_mem hLater
          cases older with
          | nil => exact ⟨newer, by rw [← hRest]; simp⟩
          | cons y older =>
              have hCame := hOlder (firsts key sent ++ y :: older) newer (by rw [← hRest]; simp)
              have hTaken := key_mem_firsts key (hCame (List.mem_append_right _ (List.mem_cons_self ..)))
              rw [List.map_append, List.nodup_append] at hLog
              exact absurd rfl (hLog.2.2 _ hTaken (key y) (by simp))

/-- When the whole log has come, the reader has taken all of it. -/
theorem InOrder.firsts_eq {log sent : List α} (hLog : (log.map key).Nodup) (h : InOrder log sent)
    (hAll : log ⊆ sent) : firsts key sent = log := by
  obtain ⟨rest, hRest⟩ := h.isPrefix_firsts hLog
  cases rest with
  | nil => rw [← hRest, List.append_nil]
  | cons x rest =>
      have hLast : x ∈ log := by rw [← hRest]; simp
      have hTaken := key_mem_firsts key (hAll hLast)
      rw [← hRest, List.map_append, List.nodup_append] at hLog
      exact absurd rfl (hLog.2.2 _ hTaken (key x) (by simp))

end Library.FirstDelivery
