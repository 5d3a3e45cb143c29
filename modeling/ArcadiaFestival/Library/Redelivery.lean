import ArcadiaFestival.Library.Trace
import Mathlib.Data.List.TakeDrop
import Mathlib.Order.Nat

/-! At-least-once delivery of a log, and the algebra under which it does no harm.
A consumer reads a log in order but may go back to any earlier offset at any
moment. A record kept by creating it on one event and updating it on the later
ones ends, whatever was delivered twice, as it does when the log is read once,
provided an update that ran before is absorbed when it runs again. -/
namespace Library.Redelivery
open Library.Trace

variable {ε ρ : Type*}

/-- `Delivery log position delivered`: reading the log from its start, with any
number of jumps back, has produced exactly the events `delivered`, oldest
first, and is about to read the one at `position`. -/
inductive Delivery (log : List ε) : Nat → List ε → Prop where
  | start : Delivery log 0 []
  | next {position : Nat} {delivered : List ε} {e : ε}
      (prior : Delivery log position delivered) (read : log[position]? = some e) :
      Delivery log (position + 1) (delivered ++ [e])
  | back {position earlier : Nat} {delivered : List ε}
      (prior : Delivery log position delivered) (le : earlier ≤ position) :
      Delivery log earlier delivered

/-- Everything delivered comes from the log. -/
theorem Delivery.subset {log delivered : List ε} {position : Nat}
    (h : Delivery log position delivered) : delivered ⊆ log := by
  induction h with
  | start => exact List.nil_subset _
  | next prior read ih =>
      intro x hx
      rcases List.mem_append.mp hx with hx | hx
      · exact ih hx
      · rw [List.mem_singleton.mp hx]
        exact List.mem_of_getElem? read
  | back prior le ih => exact ih

/-- Events that read `from` up to but not including `upTo`. A redelivery starts
again at the beginning of a slice. -/
def slice (log : List ε) (start upTo : Nat) : List ε := (log.take upTo).drop start

theorem slice_self (log : List ε) (m : Nat) : slice log m m = [] :=
  List.drop_eq_nil_of_le (List.length_take_le _ _)

theorem slice_cons {log : List ε} {p m : Nat} {e : ε} (he : log[p]? = some e) (hp : p < m) :
    slice log p m = e :: slice log (p + 1) m := by
  unfold slice
  have hTake : (log.take m)[p]? = some e := by rw [List.getElem?_take_of_lt hp, he]
  obtain ⟨hLt, hEq⟩ := List.getElem?_eq_some_iff.mp hTake
  rw [List.drop_eq_getElem_cons hLt, hEq]

theorem slice_append {log : List ε} {q p m : Nat} (hq : q ≤ p) (hp : p ≤ m) :
    slice log q m = slice log q p ++ slice log p m := by
  unfold slice
  have hSplit : log.take m = log.take p ++ (log.take m).drop p := by
    conv_lhs => rw [← List.take_append_drop p (log.take m)]
    rw [List.take_take, Nat.min_eq_left hp]
  by_cases hLen : q ≤ (log.take p).length
  · conv_lhs => rw [hSplit, List.drop_append_of_le_length hLen]
  · have hShort : log.length ≤ q := by
      rw [List.length_take] at hLen
      omega
    have hNil : ∀ i j, log.length ≤ i → (log.take j).drop i = [] := by
      intro i j hi
      exact List.drop_eq_nil_of_le ((List.length_take_le' _ _).trans hi)
    rw [hNil q m hShort, hNil q p hShort, hNil p m (hShort.trans hq)]
    rfl

section Record
variable (create : ε → Option ρ) (update : ε → ρ → ρ)

/-- One event on a record that may not exist yet. Some events create it, the
others need it. -/
def act : Option ρ → ε → Option ρ
  | none, e => create e
  | some r, e => some (update e r)

/-- Processing again what was processed before leaves no trace. An event that
created the record finds it as it left it, whatever the events did to it that
could not create it. And when a record comes to the same end with and without
the events ahead of `e`, running `e` first and all of them after it brings it
there too. -/
structure Absorbing : Prop where
  again : ∀ e r between, create e = some r → (∀ x ∈ between, create x = none) →
    update e (run (fun r e => update e r) r between) = r
  absorb : ∀ a e b r,
    run (fun r e => update e r) r (a ++ e :: b) = run (fun r e => update e r) r (e :: b) →
      run (fun r e => update e r) (update e r) (a ++ e :: b) =
        run (fun r e => update e r) r (e :: b)

variable {create update}

theorem run_act_some (r : ρ) (es : List ε) :
    run (act create update) (some r) es = some (run (fun r e => update e r) r es) := by
  induction es generalizing r with
  | nil => rfl
  | cons e es ih => exact ih (update e r)

/-- A record that is still missing was created by none of the events. -/
theorem run_act_eq_none_iff {s : Option ρ} {es : List ε} :
    run (act create update) s es = none ↔ s = none ∧ ∀ e ∈ es, create e = none := by
  induction es generalizing s with
  | nil => simp
  | cons e es ih =>
      cases s with
      | none => simp [ih, act]
      | some r => simp [ih, act]

/-- An update of which what it does not write stays, and what it writes does
not depend on the record: an event that can create nothing changes nothing,
running an event twice is running it once, and records that an event makes
equal are made equal by it after any other event as well. -/
theorem Absorbing.of_overwriting (hInert : ∀ e, create e = none → ∀ r, update e r = r)
    (hAgain : ∀ e r, create e = some r → update e r = r)
    (hIdem : ∀ e r, update e (update e r) = update e r)
    (hCongr : ∀ e x r s, update e r = update e s →
      update e (update x r) = update e (update x s)) : Absorbing create update where
  again := by
    intro e r between hCreate hNone
    have hSame : run (fun r e => update e r) r between = r := by
      induction between with
      | nil => rfl
      | cons x xs ih =>
          rw [run_cons, hInert x (hNone x (List.mem_cons_self ..))]
          exact ih fun y hy => hNone y (List.mem_cons_of_mem _ hy)
    rw [hSame, hAgain e r hCreate]
  absorb := by
    intro a e b r hEnd
    have hRun (s : ρ) (h : update e s = update e r) :
        update e (run (fun r e => update e r) s a) = update e (run (fun r e => update e r) r a) := by
      clear hEnd
      induction a generalizing r s with
      | nil => exact h
      | cons x xs ih => exact ih (update x r) (update x s) (hCongr e x s r h)
    rw [← hEnd, run_append, run_append, run_cons, run_cons, hRun _ (hIdem e r)]

section Guarded
variable {mode : ε → Bool → Bool} {marked : ρ → Bool} {leaves : ε → Bool} {write : ε → ρ → ρ}

/-- The update overwrites all but what only the creation writes. Some events do
so only to a record with a certain mark, which is one that the last update
left; an event that acts without the mark acts with it. -/
structure Guarded (create : ε → Option ρ) (update : ε → ρ → ρ) (mode : ε → Bool → Bool)
    (marked : ρ → Bool) (leaves : ε → Bool) (write : ε → ρ → ρ) : Prop where
  acts : ∀ e r, update e r = if mode e (marked r) then write e r else r
  bold : ∀ e, mode e false = true → mode e true = true
  left : ∀ e r, mode e true = true → marked (write e r) = leaves e
  overwrites : ∀ e x r, mode e true = true → mode x true = true → write e (write x r) = write e r
  created : ∀ e r, create e = some r → mode e false = true ∧ write e r = r

namespace Guarded

theorem live (h : Guarded create update mode marked leaves write) {e : ε} {m : Bool}
    (hMode : mode e m = true) : mode e true = true := by
  cases m with
  | false => exact h.bold e hMode
  | true => exact hMode

/-- An event that acts on a record without the mark acts on every record, and
writes the same. -/
theorem update_firm (h : Guarded create update mode marked leaves write) {e : ε}
    (hFirm : mode e false = true) (r : ρ) : update e r = write e r := by
  rw [h.acts]
  cases marked r with
  | false => rw [if_pos hFirm]
  | true => rw [if_pos (h.bold e hFirm)]

/-- Whatever ran before, an event that acts at all writes the same record. -/
theorem write_run (h : Guarded create update mode marked leaves write) {e : ε}
    (hLive : mode e true = true) (r : ρ) (es : List ε) :
    write e (run (fun r e => update e r) r es) = write e r := by
  induction es generalizing r with
  | nil => rfl
  | cons x xs ih =>
      rw [run_cons, ih, h.acts]
      split_ifs with hx
      · exact h.overwrites e x r hLive (h.live hx)
      · rfl

/-- What a record was before an event that acts in any case makes no
difference. -/
theorem run_firm (h : Guarded create update mode marked leaves write) {x : ε} {es : List ε}
    (hx : x ∈ es) (hFirm : mode x false = true) {r s : ρ} (hSame : write x r = write x s) :
    run (fun r e => update e r) r es = run (fun r e => update e r) s es := by
  obtain ⟨before, after, rfl⟩ := List.append_of_mem hx
  have hLive := h.bold x hFirm
  rw [run_append, run_append, run_cons, run_cons, h.update_firm hFirm, h.update_firm hFirm,
    h.write_run hLive, h.write_run hLive, hSame]

/-- Records with the same mark come together at the first event that acts, and
stay together from then on. -/
theorem run_live (h : Guarded create update mode marked leaves write) {x : ε} {es : List ε}
    (hx : x ∈ es) {r s : ρ} (hMark : marked r = marked s) (hLive : mode x (marked r) = true)
    (hSame : ∀ y, mode y true = true → write y r = write y s) :
    run (fun r e => update e r) r es = run (fun r e => update e r) s es := by
  induction es with
  | nil => cases hx
  | cons y ys ih =>
      rw [run_cons, run_cons, h.acts, h.acts, ← hMark]
      split_ifs with hy
      · rw [hSame y (h.live hy)]
      · refine ih ?_
        rcases List.mem_cons.mp hx with rfl | hx
        · exact absurd hLive hy
        · exact hx

/-- Nothing acts on a record without the mark but the events that need none. -/
theorem run_idle (h : Guarded create update mode marked leaves write) {r : ρ} {es : List ε}
    (hMark : marked r = false) (hIdle : ∀ x ∈ es, mode x false = false) :
    run (fun r e => update e r) r es = r := by
  induction es with
  | nil => rfl
  | cons x xs ih =>
      rw [run_cons, h.acts, hMark, hIdle x (List.mem_cons_self ..), if_neg (by decide)]
      exact ih fun y hy => hIdle y (List.mem_cons_of_mem _ hy)

/-- Guarded events are absorbing, so that the rules for redelivered messages
apply to them. -/
theorem absorbing (h : Guarded create update mode marked leaves write) :
    Absorbing create update where
  again := by
    intro e r between hCreate _
    obtain ⟨hFirm, hWrite⟩ := h.created e r hCreate
    rw [h.update_firm hFirm, h.write_run (h.bold e hFirm), hWrite]
  absorb := by
    intro a e b r hEnd
    by_cases hActs : mode e (marked r) = true
    · have hLive : mode e true = true := h.live hActs
      have hUpdate : update e r = write e r := by rw [h.acts, if_pos hActs]
      have hSame : ∀ y, mode y true = true → write y (write e r) = write y r :=
        fun y hy => h.overwrites y e r hy hLive
      rw [run_cons, hUpdate] at hEnd
      rw [run_cons, hUpdate]
      by_cases hFirm : ∃ x ∈ a ++ e :: b, mode x false = true
      · obtain ⟨x, hx, hFirm⟩ := hFirm
        rw [h.run_firm hx hFirm (hSame x (h.bold x hFirm)), hEnd]
      · have hIdle : ∀ x ∈ a ++ e :: b, mode x false = false := by
          intro x hx
          exact Bool.eq_false_iff.mpr fun hMode => hFirm ⟨x, hx, hMode⟩
        have hMem : e ∈ a ++ e :: b := List.mem_append_right a (List.mem_cons_self ..)
        cases hLeaves : leaves e with
        | true =>
            -- only a marked record lets this event act, and it leaves the mark
            have hMark : marked r = true := by
              by_contra hMark
              rw [Bool.not_eq_true] at hMark
              rw [hMark, hIdle e hMem] at hActs
              cases hActs
            have hLeft : marked (write e r) = true := (h.left e r hLive).trans hLeaves
            rw [← hEnd]
            exact h.run_live hMem (hLeft.trans hMark.symm) (by rwa [hLeft]) hSame
        | false =>
            have hLeft : marked (write e r) = false := (h.left e r hLive).trans hLeaves
            rw [h.run_idle hLeft hIdle, h.run_idle hLeft fun x hx => hIdle x ?_]
            exact List.mem_append_right a (List.mem_cons_of_mem e hx)
    · have hUpdate : update e r = r := by rw [h.acts, if_neg hActs]
      rw [hUpdate]
      exact hEnd

end Guarded
end Guarded

/-- An event that comes a second time may be followed by all that was read
between and then by itself. -/
theorem Absorbing.replayed (h : Absorbing create update) {s : Option ρ} {a b : List ε} {e : ε}
    (hEnd : run (act create update) s (a ++ e :: b) = run (act create update) s (e :: b))
    (hKnown : s = none → create e = none) :
    run (act create update) (act create update s e) (a ++ e :: b) =
      run (act create update) s (e :: b) := by
  cases s with
  | none =>
      rw [act, hKnown rfl]
      exact hEnd
  | some r =>
      rw [run_act_some, run_act_some, Option.some.injEq] at hEnd
      rw [act, run_act_some, run_act_some, h.absorb a e b r hEnd]

/-- An event that comes for the first time may be followed by what was read
before it, when that has no effect on the record, and then by itself. -/
theorem Absorbing.first (h : Absorbing create update) {s : Option ρ} {a : List ε} {e : ε}
    (hBack : run (act create update) s a = s) :
    run (act create update) (act create update s e) (a ++ [e]) =
      run (act create update) s [e] := by
  have hEnd : run (act create update) s (a ++ [e]) = run (act create update) s [e] := by
    rw [run_append, hBack]
  cases s with
  | some r => exact h.replayed hEnd fun hNone => nomatch hNone
  | none =>
      cases hCreate : create e with
      | none => exact h.replayed hEnd fun _ => hCreate
      | some r =>
          have hNone := (run_act_eq_none_iff.mp hBack).2
          have hAgain := h.again e r a hCreate hNone
          have hAct : act create update none e = some r := hCreate
          rw [hAct, run_act_some, run_append, run_cons, run_nil, hAgain, run_cons, run_nil, hAct]

/-- How far a delivery ever got, and what continuing it up to there from any
offset it has already passed would give: what reading that part of the log once
gives. -/
private theorem Delivery.resume (h : Absorbing create update) {log delivered : List ε}
    {position : Nat} (hd : Delivery log position delivered) (s : Option ρ) :
    ∃ furthest, position ≤ furthest ∧ furthest ≤ log.length ∧
      (∀ e ∈ log.take furthest, e ∈ delivered) ∧
      ∀ q ≤ position, run (act create update) s (delivered ++ slice log q furthest) =
        run (act create update) s (log.take furthest) := by
  induction hd with
  | start =>
      refine ⟨0, Nat.le_refl _, Nat.zero_le _, by simp, ?_⟩
      intro q _
      simp [slice]
  | back prior le ih =>
      obtain ⟨m, hp, hm, hSeen, hRun⟩ := ih
      exact ⟨m, le.trans hp, hm, hSeen, fun q hq => hRun q (hq.trans le)⟩
  | @next p w e prior read ih =>
      obtain ⟨m, hp, hm, hSeen, hRun⟩ := ih
      rcases Nat.lt_or_eq_of_le hp with hLt | rfl
      · -- the event was read before: the furthest offset stays where it is
        have hOld : e ∈ w := hSeen e (by
          have hTake : (log.take m)[p]? = some e := by rw [List.getElem?_take_of_lt hLt, read]
          exact List.mem_of_getElem? hTake)
        refine ⟨m, hLt, hm, fun x hx => List.mem_append_left _ (hSeen x hx), ?_⟩
        intro q hq
        have hHere := hRun p (Nat.le_refl _)
        rw [slice_cons read hLt, run_append] at hHere
        rcases Nat.lt_or_eq_of_le hq with hq | rfl
        · have hq : q ≤ p := by omega
          have hBack := hRun q hq
          have hSlice : slice log q m = slice log q p ++ e :: slice log (p + 1) m := by
            rw [slice_append hq hLt.le, slice_cons read hLt]
          rw [hSlice, run_append] at hBack ⊢
          rw [run_concat, ← hHere]
          rw [← hHere] at hBack
          exact h.replayed hBack fun hNone =>
            (run_act_eq_none_iff.mp hNone).2 e hOld
        · rw [← hHere, run_append, run_append]
          rfl
      · -- the event is new: the furthest offset moves on by one
        have hLength : p < log.length := (List.getElem?_eq_some_iff.mp read).1
        have hTake : log.take (p + 1) = log.take p ++ [e] := by
          rw [List.take_add_one, read]
          rfl
        have hHere : run (act create update) s w = run (act create update) s (log.take p) := by
          have h := hRun p (Nat.le_refl _)
          rwa [slice_self, List.append_nil] at h
        refine ⟨p + 1, Nat.le_refl _, hLength, ?_, ?_⟩
        · intro x hx
          rw [hTake] at hx
          rcases List.mem_append.mp hx with hx | hx
          · exact List.mem_append_left _ (hSeen x hx)
          · exact List.mem_append_right _ hx
        · intro q hq
          rcases Nat.lt_or_eq_of_le hq with hq | rfl
          · have hq : q ≤ p := by omega
            have hSlice : slice log q (p + 1) = slice log q p ++ [e] := by
              rw [slice_append hq (Nat.le_succ p), slice_cons read (Nat.lt_succ_self p), slice_self]
            have hBack := hRun q hq
            rw [run_append, ← hHere] at hBack
            have hStep := run_concat (act create update) s w e
            rw [hSlice, hTake, run_append, hStep, run_append (act create update) s, ← hHere]
            exact h.first hBack
          · rw [slice_self, List.append_nil, hTake, run_append, run_append, hHere]

/-- At-least-once delivery of a whole log leaves the record as reading the log
once does, from any record to begin with. -/
theorem Delivery.run_eq_once (h : Absorbing create update) {log delivered : List ε}
    (hd : Delivery log log.length delivered) (s : Option ρ) :
    run (act create update) s delivered = run (act create update) s log := by
  obtain ⟨m, hp, hm, _, hRun⟩ := hd.resume h s
  obtain rfl : m = log.length := Nat.le_antisymm hm hp
  have hEnd := hRun log.length (Nat.le_refl _)
  rwa [slice_self, List.append_nil, List.take_length] at hEnd

end Record
end Library.Redelivery
