import ArcadiaFestival.Library.Trace
import Mathlib.Data.Int.Order.Basic
import Mathlib.Logic.Function.Basic

/-! A store in front of a service whose answers change with time. An answer is kept
as a text for a fixed lifetime, under a key that is made from the question alone.
The store may lose what it holds at any time. A question takes time: it is looked up
first, answered by the service later, and the lifetime of what is kept begins when it
is stored, later still. -/
namespace Library.ReadThrough

structure Entry (τ : Type*) where
  text : τ
  expires : Int

abbrev Store (κ τ : Type*) := κ → Option (Entry τ)

namespace Store
variable {κ τ : Type*} (store : Store κ τ)

def empty : Store κ τ := fun _ => none

def drop (lost : κ → Bool) : Store κ τ := fun k => if lost k then none else store k

/-- An entry is there up to the moment at which it expires. -/
def live (now : Int) (k : κ) : Option τ :=
  match store k with
  | some entry => if now ≤ entry.expires then some entry.text else none
  | none => none

def put [DecidableEq κ] (k : κ) (entry : Entry τ) : Store κ τ :=
  Function.update store k (some entry)

variable {store}

theorem drop_eq_some {lost : κ → Bool} {k : κ} {entry : Entry τ}
    (h : store.drop lost k = some entry) : store k = some entry := by
  unfold drop at h
  split_ifs at h
  exact h

theorem live_eq_some {now : Int} {k : κ} {text : τ} (h : store.live now k = some text) :
    ∃ entry, store k = some entry ∧ entry.text = text ∧ now ≤ entry.expires := by
  unfold live at h
  split at h
  · rename_i entry hEntry
    split_ifs at h with hNow
    exact ⟨entry, hEntry, Option.some.inj h, hNow⟩
  · cases h

end Store

/-- A service, and how its answers are kept: under which key, for how long, and
as which text. -/
structure Policy (κ θ α τ ε : Type*) where
  answers : Int → θ → Except ε α
  key : θ → κ
  encode : α → τ
  decode : τ → Except ε α
  lifetime : Int

/-- The moments of one question. What is kept of an answer is as old as
`computed` and lives from `stored` on. -/
structure Moments where
  /-- The store is looked at. -/
  asked : Int
  /-- The service answers, if it is asked at all. -/
  computed : Int
  /-- The answer is in the store. -/
  stored : Int
  asked_le : asked ≤ computed
  computed_le : computed ≤ stored
  deriving DecidableEq

/-- A question that takes no time. -/
def Moments.instant (now : Int) : Moments := ⟨now, now, now, le_refl now, le_refl now⟩

theorem Moments.asked_le_stored (times : Moments) : times.asked ≤ times.stored :=
  le_trans times.asked_le times.computed_le

/-- One question, and what becomes of the store while it is answered. The store
can fail at each of its calls. -/
structure Visit (κ θ : Type*) extends Moments where
  question : θ
  /-- The store can be read. -/
  sees : Bool
  /-- What is written to it stays. -/
  keeps : Bool
  /-- The keys lost since the last question. -/
  lost : κ → Bool

namespace Policy
variable {κ θ α τ ε : Type*} (p : Policy κ θ α τ ε)

/-- The text that a visit finds under its key. -/
def found (store : Store κ τ) (visit : Visit κ θ) : Option τ :=
  if visit.sees then (store.drop visit.lost).live visit.asked (p.key visit.question) else none

/-- The visit can read the store, and this entry is there and has not expired. -/
structure Finds (store : Store κ τ) (visit : Visit κ θ) (entry : Entry τ) : Prop where
  sees : visit.sees = true
  held : store.drop visit.lost (p.key visit.question) = some entry
  unexpired : visit.asked ≤ entry.expires

def reply (store : Store κ τ) (visit : Visit κ θ) : Except ε α :=
  match p.found store visit with
  | some text => p.decode text
  | none => p.answers visit.computed visit.question

/-- What a visit leaves in the store. -/
def entry (visit : Visit κ θ) (answer : α) : Entry τ := ⟨p.encode answer, visit.stored + p.lifetime⟩

/-- What a visit leaves behind. Answers are kept where the store takes them,
errors are not kept. -/
def next [DecidableEq κ] (store : Store κ τ) (visit : Visit κ θ) : Store κ τ :=
  match p.found store visit, p.answers visit.computed visit.question with
  | none, .ok answer =>
      if visit.keeps then
        (store.drop visit.lost).put (p.key visit.question) (p.entry visit answer)
      else store.drop visit.lost
  | _, _ => store.drop visit.lost

section
variable (known : Visit κ θ → Prop)

/-- What the service answers is read back as it was. -/
def Rereads : Prop :=
  ∀ visit answer, known visit → p.answers visit.computed visit.question = .ok answer →
    p.decode (p.encode answer) = .ok answer

/-- The visit finds what an earlier one has left under the same key. Between
the two the entry has not expired. -/
structure Inherits (store : Store κ τ) (visit earlier : Visit κ θ) (answer : α) : Prop where
  known : known earlier
  key : p.key earlier.question = p.key visit.question
  answered : p.answers earlier.computed earlier.question = .ok answer
  found : p.Finds store visit (p.entry earlier answer)

/-- The visit finds the answer to another question under its key. It cannot
notice this, as the entry is a text. -/
def Misled (store : Store κ τ) (visit : Visit κ θ) : Prop :=
  ∃ earlier answer, p.Inherits known store visit earlier answer ∧ earlier.question ≠ visit.question

/-- The visit finds an answer to its own question that was older than a
lifetime when the visit began. It was stored so late that it has not expired
yet. -/
def Overdue (store : Store κ τ) (visit : Visit κ θ) : Prop :=
  ∃ earlier answer, p.Inherits known store visit earlier answer ∧
    earlier.question = visit.question ∧ earlier.computed + p.lifetime < visit.asked

/-- Each entry was left by a visit under its key, with the text of an answer
that the service gave at that visit. -/
def Sound (store : Store κ τ) (clock : Int) : Prop :=
  ∀ k entry, store k = some entry → ∃ earlier answer, known earlier ∧
    p.key earlier.question = k ∧ p.answers earlier.computed earlier.question = .ok answer ∧
    earlier.stored ≤ clock ∧ entry = p.entry earlier answer

end

/-- The service gives this reply during the visit, or gave it at most a
lifetime before the visit. An error is one that it raises during the visit. -/
structure Fresh (visit : Visit κ θ) (reply : Except ε α) : Prop where
  recent : ∃ moment, p.answers moment visit.question = reply ∧
    (moment = visit.computed ∨ moment ≤ visit.asked ∧ visit.asked ≤ moment + p.lifetime)
  error : ∀ e, reply = .error e → p.answers visit.computed visit.question = .error e

variable {p} {known : Visit κ θ → Prop} {store : Store κ τ} {clock : Int}
  {visit earlier : Visit κ θ} {answer : α}

theorem found_eq_some_iff {text : τ} :
    p.found store visit = some text ↔ ∃ entry, p.Finds store visit entry ∧ entry.text = text := by
  constructor
  · intro h
    unfold found at h
    split_ifs at h with hSees
    obtain ⟨entry, hEntry, hText, hNow⟩ := Store.live_eq_some h
    exact ⟨entry, ⟨hSees, hEntry, hNow⟩, hText⟩
  · rintro ⟨entry, ⟨hSees, hEntry, hNow⟩, rfl⟩
    rw [found, if_pos hSees, Store.live, hEntry]
    exact if_pos hNow

theorem reply_of_none (h : p.found store visit = none) :
    p.reply store visit = p.answers visit.computed visit.question := by
  rw [reply, h]

theorem Inherits.reply (h : p.Inherits known store visit earlier answer) (hReads : p.Rereads known) :
    p.reply store visit = .ok answer := by
  have hFound : p.found store visit = some (p.encode answer) :=
    found_eq_some_iff.mpr ⟨_, h.found, rfl⟩
  rw [Policy.reply, hFound]
  exact hReads earlier answer h.known h.answered

theorem next_of_some [DecidableEq κ] {text : τ} (h : p.found store visit = some text) :
    p.next store visit = store.drop visit.lost := by
  rw [next, h]

theorem next_of_error [DecidableEq κ] {e : ε}
    (h : p.answers visit.computed visit.question = .error e) :
    p.next store visit = store.drop visit.lost := by
  rw [next, h]
  cases p.found store visit with
  | none => rfl
  | some text => rfl

theorem next_of_ok [DecidableEq κ] (hFound : p.found store visit = none)
    (h : p.answers visit.computed visit.question = .ok answer) :
    p.next store visit =
      if visit.keeps then
        (store.drop visit.lost).put (p.key visit.question) (p.entry visit answer)
      else store.drop visit.lost := by
  rw [next, hFound, h]

/-- A visit writes its own answer or nothing. -/
theorem next_eq_some [DecidableEq κ] {k : κ} {entry : Entry τ} (h : p.next store visit k = some entry) :
    store k = some entry ∨ (k = p.key visit.question ∧ ∃ answer,
      p.answers visit.computed visit.question = .ok answer ∧ entry = p.entry visit answer) := by
  cases hFound : p.found store visit with
  | some text =>
      rw [next_of_some hFound] at h
      exact Or.inl (Store.drop_eq_some h)
  | none =>
      cases hAnswer : p.answers visit.computed visit.question with
      | error e =>
          rw [next_of_error hAnswer] at h
          exact Or.inl (Store.drop_eq_some h)
      | ok answer =>
          rw [next_of_ok hFound hAnswer] at h
          split_ifs at h
          · by_cases hKey : k = p.key visit.question
            · rw [hKey, Store.put, Function.update_self] at h
              exact Or.inr ⟨hKey, answer, rfl, (Option.some.inj h).symm⟩
            · rw [Store.put, Function.update_of_ne hKey] at h
              exact Or.inl (Store.drop_eq_some h)
          · exact Or.inl (Store.drop_eq_some h)

theorem sound_empty : p.Sound known .empty clock := by
  intro k entry h
  cases h

theorem Sound.later (h : p.Sound known store clock) {now : Int} (hNow : clock ≤ now) :
    p.Sound known store now := by
  intro k entry hEntry
  obtain ⟨earlier, answer, hKnown, hKey, hAnswer, hStored, hText⟩ := h k entry hEntry
  exact ⟨earlier, answer, hKnown, hKey, hAnswer, le_trans hStored hNow, hText⟩

/-- One visit keeps the store sound. -/
theorem Sound.next [DecidableEq κ] (h : p.Sound known store visit.asked) (hKnown : known visit) :
    p.Sound known (p.next store visit) visit.stored := by
  intro k entry hEntry
  rcases next_eq_some hEntry with hOld | ⟨rfl, answer, hAnswer, rfl⟩
  · exact h.later visit.asked_le_stored k entry hOld
  · exact ⟨visit, answer, hKnown, rfl, hAnswer, le_refl _, rfl⟩

/-- An entry that a visit finds was written for an earlier visit, no later than
the visit asks, with the answer computed for that visit. -/
theorem Sound.inherits (h : p.Sound known store visit.asked) {entry : Entry τ}
    (hFound : p.Finds store visit entry) : ∃ earlier answer,
      p.Inherits known store visit earlier answer ∧ earlier.stored ≤ visit.asked := by
  obtain ⟨earlier, answer, hKnown, hKey, hAnswer, hStored, rfl⟩ :=
    h _ entry (Store.drop_eq_some hFound.held)
  exact ⟨earlier, answer, ⟨hKnown, hKey, hAnswer, hFound⟩, hStored⟩

/-- A visit is answered by the service, or by what an earlier one has left.
There is no third source of replies. -/
theorem Sound.cases (h : p.Sound known store visit.asked) :
    p.reply store visit = p.answers visit.computed visit.question ∨ ∃ earlier answer,
      p.Inherits known store visit earlier answer ∧ earlier.stored ≤ visit.asked := by
  cases hFound : p.found store visit with
  | none => exact Or.inl (reply_of_none hFound)
  | some text =>
      obtain ⟨entry, hFinds, _⟩ := found_eq_some_iff.mp hFound
      exact Or.inr (h.inherits hFinds)

/-- The store raises no error of its own. -/
theorem Sound.reply_error (h : p.Sound known store visit.asked) (hReads : p.Rereads known) {e : ε}
    (hError : p.reply store visit = .error e) :
    p.answers visit.computed visit.question = .error e := by
  rcases h.cases with hReply | ⟨earlier, answer, hInherits, _⟩
  · rwa [hReply] at hError
  · rw [hInherits.reply hReads] at hError
    cases hError

/-- A visit that is neither misled nor overdue gets a fresh reply: one that its
own question had not long ago. -/
theorem Sound.fresh (h : p.Sound known store visit.asked) (hReads : p.Rereads known)
    (hMisled : ¬p.Misled known store visit) (hOverdue : ¬p.Overdue known store visit) :
    p.Fresh visit (p.reply store visit) := by
  refine ⟨?_, fun e hError => h.reply_error hReads hError⟩
  rcases h.cases with hReply | ⟨earlier, answer, hInherits, hStored⟩
  · exact ⟨visit.computed, hReply.symm, Or.inl rfl⟩
  · have hSame : earlier.question = visit.question := by
      by_contra hOther
      exact hMisled ⟨earlier, answer, hInherits, hOther⟩
    have hRecent : visit.asked ≤ earlier.computed + p.lifetime := by
      by_contra hLate
      exact hOverdue ⟨earlier, answer, hInherits, hSame, not_le.mp hLate⟩
    rw [hInherits.reply hReads]
    refine ⟨earlier.computed, ?_, Or.inr ⟨le_trans earlier.computed_le hStored, hRecent⟩⟩
    rw [← hSame]
    exact hInherits.answered

/-- The invariant of a run, before the visits still to come. -/
structure Ready (p : Policy κ θ α τ ε) (known : Visit κ θ → Prop) (store : Store κ τ)
    (visits : List (Visit κ θ)) : Prop where
  inOrder : visits.Pairwise fun before after => before.stored ≤ after.asked
  among : ∀ visit ∈ visits, known visit
  sound : ∃ clock, p.Sound known store clock ∧ ∀ visit ∈ visits, clock ≤ visit.asked

theorem Ready.start {visits : List (Visit κ θ)}
    (hOrder : visits.Pairwise fun before after => before.stored ≤ after.asked) :
    p.Ready (· ∈ visits) .empty visits := by
  refine ⟨hOrder, fun visit hVisit => hVisit, ?_⟩
  cases visits with
  | nil => exact ⟨0, sound_empty, fun _ h => absurd h List.not_mem_nil⟩
  | cons visit visits =>
      refine ⟨visit.asked, sound_empty, ?_⟩
      intro after hAfter
      rcases List.mem_cons.mp hAfter with rfl | hAfter
      · exact le_refl _
      · exact le_trans visit.asked_le_stored ((List.pairwise_cons.mp hOrder).1 after hAfter)

theorem Ready.now {visits : List (Visit κ θ)} (h : p.Ready known store (visit :: visits)) :
    p.Sound known store visit.asked := by
  obtain ⟨clock, hSound, hClock⟩ := h.sound
  exact hSound.later (hClock visit (List.mem_cons_self ..))

theorem Ready.next [DecidableEq κ] {visits : List (Visit κ θ)}
    (h : p.Ready known store (visit :: visits)) : p.Ready known (p.next store visit) visits where
  inOrder := (List.pairwise_cons.mp h.inOrder).2
  among after hAfter := h.among after (List.mem_cons_of_mem visit hAfter)
  sound := ⟨visit.stored, h.now.next (h.among visit (List.mem_cons_self ..)),
    (List.pairwise_cons.mp h.inOrder).1⟩

section Run
variable [DecidableEq κ] {visits : List (Visit κ θ)}

end Run
end Policy
end Library.ReadThrough
