import Mathlib.Data.List.Basic

/-! The string methods the service uses, on code points. A `String` stands for a text of
Python, which may hold surrogates on their own: `json.loads` makes one of an escape like
`\ud800`. No `Char` is a surrogate, so each is written as a mark and a character after it. -/
namespace Arcadia.Text

/-- Before a character `c` it stands for the surrogate `0xd000 + c`. Lean has
no such characters, while `json.loads` delivers them. -/
def lone : Char := Char.ofNat 0x10ffff

/-- Before `e` and before `f` it stands for the last two code points, which are
the marks. -/
def quoted : Char := Char.ofNat 0x10fffe

def isMark (c : Char) : Bool := c == lone || c == quoted

/-- How a code point is written. All of them but the surrogates and the marks
stand for themselves. -/
def ofCodePoint (n : Nat) : List Char :=
  if n = 0x10fffe then [quoted, 'e']
  else if n = 0x10ffff then [quoted, 'f']
  else if 0xd800 ≤ n ∧ n ≤ 0xdfff then [lone, Char.ofNat (n - 0xd000)]
  else [Char.ofNat n]

/-- The text with these code points. -/
def ofCodePoints (codePoints : List Nat) : String :=
  String.ofList (codePoints.flatMap ofCodePoint)

/-- The characters that Python counts, each as it is written. -/
def characters : List Char → List (List Char)
  | [] => []
  | [c] => [[c]]
  | c :: d :: rest =>
      if isMark c then [c, d] :: characters rest else [c] :: characters (d :: rest)

/-- `len(s)` -/
def length (s : String) : Nat := (characters s.toList).length

/-- What Postgres can hold, and `str.encode` can encode apart from the null
character: a text without a null character and without a surrogate. -/
def storable (s : String) : Bool := s.toList.all fun c => c != '\x00' && c != lone

/-- The characters `str.strip` removes: those with `str.isspace`. -/
def isSpace (c : Char) : Bool :=
  let n := c.toNat
  (9 ≤ n && n ≤ 13) || (28 ≤ n && n ≤ 32) || n == 0x85 || n == 0xa0 || n == 0x1680 ||
    (0x2000 ≤ n && n ≤ 0x200a) || n == 0x2028 || n == 0x2029 || n == 0x202f || n == 0x205f ||
    n == 0x3000

def stripChars (cs : List Char) : List Char :=
  ((cs.dropWhile isSpace).reverse.dropWhile isSpace).reverse

/-- `s.strip()` -/
def strip (s : String) : String := String.ofList (stripChars s.toList)

/-- `s[:n]` -/
def truncate (n : Nat) (s : String) : String :=
  String.ofList ((characters s.toList).take n).flatten

/-- The bytes of one character. A surrogate has none. -/
def encodeCharacter : List Char → List UInt8
  | [c] => (String.singleton c).toUTF8.data.toList
  | [_, 'e'] => (String.singleton quoted).toUTF8.data.toList
  | [_, 'f'] => (String.singleton lone).toUTF8.data.toList
  | _ => []

/-- `s.encode()` of a text without surrogates. A text with one is refused
before, see `storable`. -/
def encode (s : String) : List UInt8 := (characters s.toList).flatMap encodeCharacter

/-- `skip` characters are part of an occurrence that has been replaced already,
as occurrences do not overlap. -/
def replaceChars (old new : List Char) (skip : Nat) : List Char → List Char
  | [] => []
  | c :: cs =>
      if 0 < skip then replaceChars old new (skip - 1) cs
      else if old.isPrefixOf (c :: cs) then new ++ replaceChars old new (old.length - 1) cs
      else c :: replaceChars old new 0 cs

/-- `s.replace(old, new)` for a non-empty `old`: leftmost occurrences first,
none of them overlapping. -/
def replace (s old new : String) : String :=
  String.ofList (replaceChars old.toList new.toList 0 s.toList)

example : replace "2026-07-27T12:00:00+00:00" "+00:00" "Z" = "2026-07-27T12:00:00Z" := by decide

/-- A list that does not begin with such a character is left alone. -/
private theorem dropWhile_eq_self {p : Char → Bool} {cs : List Char}
    (h : ∀ c, cs.head? = some c → p c = false) : cs.dropWhile p = cs := by
  cases cs with
  | nil => rfl
  | cons c cs => simp [h c rfl]

private theorem head?_dropWhile {p : Char → Bool} {cs : List Char} {c : Char}
    (h : (cs.dropWhile p).head? = some c) : p c = false := by
  induction cs with
  | nil => simp at h
  | cons d cs ih =>
      rw [List.dropWhile_cons] at h
      split_ifs at h with hd
      · exact ih h
      · obtain rfl : d = c := by simpa using h
        simpa using hd

theorem stripChars_head {cs : List Char} {c : Char} (h : (stripChars cs).head? = some c) :
    isSpace c = false := by
  -- what is left after cutting the end still begins where the front was cut
  set front := cs.dropWhile isSpace with hFront
  have hSuffix : (front.reverse.dropWhile isSpace) <:+ front.reverse := List.dropWhile_suffix _
  have hPrefix : stripChars cs <+: front := by
    have := List.reverse_prefix.mpr hSuffix
    rwa [List.reverse_reverse] at this
  obtain ⟨rest, hRest⟩ := hPrefix
  suffices hHead : (cs.dropWhile isSpace).head? = some c from head?_dropWhile hHead
  rw [← hFront, ← hRest]
  cases hs : stripChars cs with
  | nil => rw [hs] at h; cases h
  | cons d ds => rw [hs] at h; simpa using h

theorem stripChars_idem (cs : List Char) : stripChars (stripChars cs) = stripChars cs := by
  have hFront : (stripChars cs).dropWhile isSpace = stripChars cs :=
    dropWhile_eq_self (fun c hc => stripChars_head hc)
  have hBack : (stripChars cs).reverse.dropWhile isSpace = (stripChars cs).reverse := by
    apply dropWhile_eq_self
    intro c hc
    have hc : ((cs.dropWhile isSpace).reverse.dropWhile isSpace).head? = some c := by
      simpa [stripChars] using hc
    exact head?_dropWhile hc
  conv_lhs => rw [stripChars, hFront, hBack, List.reverse_reverse]

@[simp] theorem strip_idem (s : String) : strip (strip s) = strip s := by
  simp [strip, stripChars_idem]

theorem strip_eq_self {s : String} (h : ∀ c ∈ s.toList, isSpace c = false) : strip s = s := by
  have hFront : s.toList.dropWhile isSpace = s.toList :=
    dropWhile_eq_self fun c hc => h c (List.mem_of_mem_head? hc)
  have hBack : s.toList.reverse.dropWhile isSpace = s.toList.reverse :=
    dropWhile_eq_self fun c hc => h c (List.mem_reverse.mp (List.mem_of_mem_head? hc))
  rw [strip, stripChars, hFront, hBack, List.reverse_reverse, String.ofList_toList]

/-- A character that is no mark begins a character of Python by itself. -/
theorem characters_cons {c : Char} (h : isMark c = false) (cs : List Char) :
    characters (c :: cs) = [c] :: characters cs := by
  cases cs with
  | nil => rfl
  | cons d rest => rw [characters, h]; rfl

/-- The first characters of a text are the characters of what it is cut to, so
that a cut text has at most that length. -/
theorem characters_take (n : Nat) (cs : List Char) :
    characters ((characters cs).take n).flatten = (characters cs).take n := by
  induction cs using characters.induct generalizing n with
  | case1 => simp [characters]
  | case2 c => cases n <;> simp [characters]
  | case3 c d rest hMark ih =>
      cases n with
      | zero => rfl
      | succ n =>
          have hFirst : characters (c :: d :: rest) = [c, d] :: characters rest := by
            rw [characters, if_pos hMark]
          rw [hFirst, List.take_succ_cons, List.flatten_cons]
          change characters (c :: d :: ((characters rest).take n).flatten) = _
          rw [characters, if_pos hMark, ih]
  | case4 c d rest hMark ih =>
      have hPlain : isMark c = false := by simpa using hMark
      cases n with
      | zero => rfl
      | succ n =>
          rw [characters_cons hPlain, List.take_succ_cons, List.flatten_cons]
          change characters (c :: ((characters (d :: rest)).take n).flatten) = _
          rw [characters_cons hPlain, ih]

theorem length_truncate_le (n : Nat) (s : String) : length (truncate n s) ≤ n := by
  rw [length, truncate, String.toList_ofList, characters_take, List.length_take]
  exact Nat.min_le_left n _

/-- The database takes a text without null characters that has no lone
surrogates. -/
theorem storable_iff {s : String} : storable s = true ↔ '\x00' ∉ s.toList ∧ lone ∉ s.toList := by
  simp only [storable, List.all_eq_true, Bool.and_eq_true, bne_iff_ne, ne_eq]
  constructor
  · intro h
    exact ⟨fun hNull => (h _ hNull).1 rfl, fun hLone => (h _ hLone).2 rfl⟩
  · rintro ⟨hNull, hLone⟩ c hc
    exact ⟨fun h => hNull (h ▸ hc), fun h => hLone (h ▸ hc)⟩

/-- A text is storable if its characters are all of a kind, such as digits,
that has neither the null character nor the mark. -/
theorem storable_of_forall {s : String} {p : Char → Bool} (h : ∀ c ∈ s.toList, p c = true)
    (hNull : p '\x00' = false) (hLone : p lone = false) : storable s = true := by
  refine storable_iff.mpr ⟨fun hMem => ?_, fun hMem => ?_⟩
  · rw [h _ hMem] at hNull
    cases hNull
  · rw [h _ hMem] at hLone
    cases hLone

theorem storable_empty : storable "" = true := by decide

theorem storable_append (s t : String) : storable (s ++ t) = (storable s && storable t) := by
  rw [storable, String.toList_append, List.all_append]
  rfl

theorem toNat_ofNat {n : Nat} (h : n ≤ 0x10ffff) (hScalar : ¬(0xd800 ≤ n ∧ n ≤ 0xdfff)) :
    (Char.ofNat n).toNat = n := by
  have hValid : n.isValidChar := by
    unfold Nat.isValidChar
    omega
  rw [Char.ofNat, dif_pos hValid]
  rfl

/-- A text of Python can be stored if it holds neither the null character nor a
surrogate. -/
theorem storable_ofCodePoints {codePoints : List Nat} (h : ∀ n ∈ codePoints, n ≤ 0x10ffff) :
    storable (ofCodePoints codePoints) = true ↔
      ∀ n ∈ codePoints, n ≠ 0 ∧ ¬(0xd800 ≤ n ∧ n ≤ 0xdfff) := by
  have hEach (n : Nat) (hn : n ≤ 0x10ffff) :
      ((ofCodePoint n).all fun c => c != '\x00' && c != lone) = true ↔
        n ≠ 0 ∧ ¬(0xd800 ≤ n ∧ n ≤ 0xdfff) := by
    unfold ofCodePoint
    split_ifs with hQuoted hLone hSurrogate
    · subst hQuoted
      decide
    · subst hLone
      decide
    · simp [hSurrogate]
    · have hNat := toNat_ofNat hn hSurrogate
      have hOther : Char.ofNat n ≠ lone := by
        intro hChar
        rw [hChar] at hNat
        exact hLone hNat.symm
      have hNull : Char.ofNat n = '\x00' ↔ n = 0 := by
        constructor
        · intro hChar
          rw [hChar] at hNat
          exact hNat.symm
        · rintro rfl
          rfl
      simp [hOther, hNull, hSurrogate]
  rw [storable, ofCodePoints, String.toList_ofList, List.all_flatMap, List.all_eq_true]
  exact forall₂_congr fun n hn => hEach n (h n hn)

/-- A replacement brings in no characters but those of the new text. -/
theorem mem_replaceChars {old new : List Char} {skip : Nat} {cs : List Char} {c : Char}
    (h : c ∈ replaceChars old new skip cs) : c ∈ new ∨ c ∈ cs := by
  induction cs generalizing skip with
  | nil => cases h
  | cons d ds ih =>
      unfold replaceChars at h
      split_ifs at h
      · exact (ih h).imp_right (List.mem_cons_of_mem d)
      · rcases List.mem_append.mp h with h | h
        · exact Or.inl h
        · exact (ih h).imp_right (List.mem_cons_of_mem d)
      · rcases List.mem_cons.mp h with rfl | h
        · exact Or.inr (List.mem_cons_self ..)
        · exact (ih h).imp_right (List.mem_cons_of_mem d)

/-- What comes before the first occurrence is left as it is. -/
theorem replaceChars_append {first : Char} {old new before : List Char} (after : List Char)
    (h : first ∉ before) : replaceChars (first :: old) new 0 (before ++ after) =
      before ++ replaceChars (first :: old) new 0 after := by
  induction before with
  | nil => rfl
  | cons c before ih =>
      rw [List.mem_cons, not_or] at h
      have hOther : (first :: old).isPrefixOf (c :: (before ++ after)) = false := by
        rw [List.isPrefixOf_cons_cons, beq_eq_false_iff_ne.mpr h.1, Bool.false_and]
      rw [List.cons_append, replaceChars, hOther, ih h.2]
      rfl

/-- A text up to its first separator, and what comes after it. -/
theorem append_cons_inj {separator : Char} {before after first second : List Char}
    (hBefore : separator ∉ before) (hFirst : separator ∉ first)
    (h : before ++ separator :: after = first ++ separator :: second) :
    before = first ∧ after = second := by
  induction before generalizing first with
  | nil =>
      cases first with
      | nil => exact ⟨rfl, (List.cons.inj h).2⟩
      | cons c first => exact absurd (List.cons.inj h).1 fun hc => hFirst (hc ▸ List.mem_cons_self ..)
  | cons c before ih =>
      cases first with
      | nil => exact absurd (List.cons.inj h).1 fun hc => hBefore (hc ▸ List.mem_cons_self ..)
      | cons d first =>
          obtain ⟨rfl, hTail⟩ := List.cons.inj h
          rw [List.mem_cons, not_or] at hBefore hFirst
          obtain ⟨rfl, rfl⟩ := ih hBefore.2 hFirst.2 hTail
          exact ⟨rfl, rfl⟩

/-- A number is known by its decimal digits. -/
theorem toList_repr_injective {n m : Nat} (h : (toString n).toList = (toString m).toList) :
    n = m := by
  change n.repr.toList = m.repr.toList at h
  rw [Nat.toList_repr, Nat.toList_repr] at h
  calc n = Nat.ofDigitChars 10 (Nat.toDigits 10 n) 0 := Nat.ofDigitChars_ten_toDigits.symm
    _ = Nat.ofDigitChars 10 (Nat.toDigits 10 m) 0 := by rw [h]
    _ = m := Nat.ofDigitChars_ten_toDigits

theorem not_mem_repr {c : Char} (h : c.isDigit = false) (n : Nat) : c ∉ (toString n).toList := by
  change c ∉ n.repr.toList
  rw [Nat.toList_repr]
  intro hMem
  rw [Nat.isDigit_of_mem_toDigits (by decide) (by decide) hMem] at h
  cases h

/-- Replacing by a text that can be stored keeps a text storable. -/
theorem storable_replace {s new : String} (old : String) (hs : storable s = true)
    (hNew : storable new = true) : storable (replace s old new) = true := by
  rw [storable_iff] at hs hNew ⊢
  rw [replace, String.toList_ofList]
  exact ⟨fun h => (mem_replaceChars h).elim hNew.1 hs.1,
    fun h => (mem_replaceChars h).elim hNew.2 hs.2⟩

end Arcadia.Text
