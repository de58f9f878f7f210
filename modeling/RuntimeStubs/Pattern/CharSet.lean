/-! Sets of characters.

Characters are numbered without a gap (`ordinal`), and a set is a list of ranges of such numbers in
ascending order, of which no two overlap or touch. So the set that holds every character is one
range, and a set without characters is the empty list. Every operation is given by the members of
its result (`contains_union`, `contains_complement` and the like). -/

set_option autoImplicit false

namespace RuntimeStubs.Pattern

/-- The number of a character when the code points that are no characters are left out. -/
def ordinal (c : Char) : Nat := if c.toNat < 0xD800 then c.toNat else c.toNat - 0x800

def lastOrdinal : Nat := 0x10F7FF

theorem ordinal_le (c : Char) : ordinal c ≤ lastOrdinal := by
  have valid : c.toNat < 0xD800 ∨ (0xDFFF < c.toNat ∧ c.toNat < 0x110000) := c.valid
  unfold ordinal lastOrdinal
  split <;> omega

structure CharSet where
  ranges : List (Nat × Nat)
  deriving DecidableEq, Repr

namespace CharSet

def contains (n : Nat) (s : CharSet) : Bool := s.ranges.any fun r => r.1 ≤ n && n ≤ r.2

def holds (c : Char) (s : CharSet) : Bool := s.contains (ordinal c)

def empty : CharSet := ⟨[]⟩

def isEmpty (s : CharSet) : Bool := s.ranges.isEmpty

/-- Ranges in ascending order that neither overlap nor touch, all above a bound. -/
def Ordered : Nat → List (Nat × Nat) → Prop
  | _, [] => True
  | bound, r :: rest => bound ≤ r.1 ∧ r.1 ≤ r.2 ∧ Ordered (r.2 + 2) rest

def addRange (low high : Nat) : List (Nat × Nat) → List (Nat × Nat)
  | [] => [(low, high)]
  | r :: rest =>
    if high + 1 < r.1 then (low, high) :: r :: rest
    else if r.2 + 1 < low then r :: addRange low high rest
    else addRange (min low r.1) (max high r.2) rest

def range (low high : Nat) : CharSet := ⟨[(low, high)]⟩

def singleton (c : Char) : CharSet := range (ordinal c) (ordinal c)

def union (s t : CharSet) : CharSet :=
  ⟨t.ranges.foldl (fun all r => addRange r.1 r.2 all) s.ranges⟩

def ofRanges (ranges : List (Nat × Nat)) : CharSet := empty.union ⟨ranges⟩

/-- What lies between ranges in order, from a first number up to a last one. -/
def gaps (last : Nat) : Nat → List (Nat × Nat) → List (Nat × Nat)
  | first, [] => if first ≤ last then [(first, last)] else []
  | first, r :: rest =>
    if first < r.1 then (first, r.1 - 1) :: gaps last (r.2 + 1) rest
    else gaps last (r.2 + 1) rest

def complement (last : Nat) (s : CharSet) : CharSet := ⟨gaps last 0 s.ranges⟩

def intersection (last : Nat) (s t : CharSet) : CharSet :=
  ((s.complement last).union (t.complement last)).complement last

def difference (last : Nat) (s t : CharSet) : CharSet := s.intersection last (t.complement last)

/-- Adds the other case of every letter of ASCII. -/
def foldAscii (s : CharSet) : CharSet :=
  let shifted (low high offset : Nat) (up : Bool) : List (Nat × Nat) :=
    (s.intersection lastOrdinal (range low high)).ranges.map fun r =>
      if up then (r.1 + offset, r.2 + offset) else (r.1 - offset, r.2 - offset)
  s.union (ofRanges (shifted 0x41 0x5A 0x20 true ++ shifted 0x61 0x7A 0x20 false))

def isAscii (s : CharSet) : Bool := s.ranges.all fun r => r.2 < 0x80

theorem ordered_mono {a b : Nat} {ranges : List (Nat × Nat)} (h : Ordered b ranges) (le : a ≤ b) :
    Ordered a ranges := by
  cases ranges with
  | nil => trivial
  | cons r rest => exact ⟨Nat.le_trans le h.1, h.2⟩

theorem ordered_addRange {bound low high : Nat} {ranges : List (Nat × Nat)}
    (h : Ordered bound ranges) (le : low ≤ high) (above : bound ≤ low) :
    Ordered bound (addRange low high ranges) := by
  induction ranges generalizing bound low high with
  | nil => exact ⟨above, le, trivial⟩
  | cons r rest ih =>
    obtain ⟨h1, h2, h3⟩ := h
    unfold addRange
    split
    · exact ⟨above, le, by omega, h2, h3⟩
    · split
      · exact ⟨h1, h2, ih h3 le (by omega)⟩
      · exact ih (ordered_mono h3 (by omega)) (by omega) (by omega)

theorem any_addRange {n low high : Nat} {ranges : List (Nat × Nat)} {bound : Nat}
    (h : Ordered bound ranges) (le : low ≤ high) :
    ((addRange low high ranges).any fun r => r.1 ≤ n && n ≤ r.2) =
      (decide (low ≤ n ∧ n ≤ high) || ranges.any fun r => r.1 ≤ n && n ≤ r.2) := by
  induction ranges generalizing bound low high with
  | nil => simp [addRange]
  | cons r rest ih =>
    obtain ⟨_, h2, h3⟩ := h
    unfold addRange
    split
    · simp
    · split
      · simp only [List.any_cons, ih h3 le]
        grind
      · rw [ih h3 (by omega), List.any_cons, ← Bool.or_assoc]
        congr 1
        grind

theorem ordered_union {s t : CharSet} {bound : Nat} (hs : Ordered 0 s.ranges)
    (ht : Ordered bound t.ranges) : Ordered 0 (s.union t).ranges := by
  obtain ⟨ranges⟩ := t
  induction ranges generalizing s bound with
  | nil => exact hs
  | cons r rest ih =>
    exact ih (s := ⟨addRange r.1 r.2 s.ranges⟩) (ordered_addRange hs ht.2.1 (Nat.zero_le _)) ht.2.2

theorem contains_union {s t : CharSet} {bound : Nat} (hs : Ordered 0 s.ranges)
    (ht : Ordered bound t.ranges) (n : Nat) :
    (s.union t).contains n = (s.contains n || t.contains n) := by
  obtain ⟨ranges⟩ := t
  induction ranges generalizing s bound with
  | nil => simp [union, contains]
  | cons r rest ih =>
    have step := ih (s := ⟨addRange r.1 r.2 s.ranges⟩)
      (ordered_addRange hs ht.2.1 (Nat.zero_le _)) ht.2.2
    simp only [union, List.foldl_cons] at step ⊢
    rw [step]
    simp only [contains, any_addRange hs ht.2.1, List.any_cons]
    grind

theorem ordered_gaps {last first : Nat} {ranges : List (Nat × Nat)} (h : Ordered first ranges) :
    Ordered first (gaps last first ranges) := by
  induction ranges generalizing first with
  | nil =>
    unfold gaps
    split
    · exact ⟨Nat.le_refl _, by omega, trivial⟩
    · trivial
  | cons r rest ih =>
    obtain ⟨h1, h2, h3⟩ := h
    have tail : Ordered (r.2 + 1) (gaps last (r.2 + 1) rest) := ih (ordered_mono h3 (by omega))
    unfold gaps
    split
    · exact ⟨Nat.le_refl _, by omega, ordered_mono tail (by omega)⟩
    · exact ordered_mono tail (by omega)

theorem any_gaps {last n first : Nat} {ranges : List (Nat × Nat)} (h : Ordered first ranges)
    (le : n ≤ last) :
    ((gaps last first ranges).any fun r => r.1 ≤ n && n ≤ r.2) =
      (decide (first ≤ n) && !ranges.any fun r => r.1 ≤ n && n ≤ r.2) := by
  induction ranges generalizing first with
  | nil => grind [gaps]
  | cons r rest ih =>
    obtain ⟨h1, h2, h3⟩ := h
    have tail := ih (ordered_mono h3 (Nat.le_succ _))
    have apart : ∀ q ∈ rest, r.2 + 2 ≤ q.1 := fun q hq => le_of_mem h3 hq
    have below : n ≤ r.2 → (rest.any fun q => q.1 ≤ n && n ≤ q.2) = false := by
      intro hn
      simp only [List.any_eq_false, Bool.and_eq_true, decide_eq_true_eq, not_and]
      intro q hq
      have := apart q hq
      omega
    unfold gaps
    split <;> simp only [List.any_cons, tail] <;> grind
where
  le_of_mem {bound : Nat} {q : Nat × Nat} : ∀ {rs : List (Nat × Nat)}, Ordered bound rs →
      q ∈ rs → bound ≤ q.1
    | [], _, hq => absurd hq (List.not_mem_nil)
    | r :: rest, h, hq => by
      rcases List.mem_cons.1 hq with rfl | hq
      · exact h.1
      · have := le_of_mem h.2.2 hq
        have := h.1
        have := h.2.1
        omega

theorem ordered_complement {last : Nat} {s : CharSet} (h : Ordered 0 s.ranges) :
    Ordered 0 (s.complement last).ranges := ordered_gaps h

theorem contains_complement {last n : Nat} {s : CharSet} (h : Ordered 0 s.ranges) (le : n ≤ last) :
    (s.complement last).contains n = !s.contains n := by
  simpa [contains, complement] using any_gaps h le

theorem ordered_intersection {last : Nat} {s t : CharSet} (hs : Ordered 0 s.ranges)
    (ht : Ordered 0 t.ranges) : Ordered 0 (s.intersection last t).ranges :=
  ordered_complement (ordered_union (ordered_complement hs) (ordered_complement ht))

theorem contains_intersection {last n : Nat} {s t : CharSet} (hs : Ordered 0 s.ranges)
    (ht : Ordered 0 t.ranges) (le : n ≤ last) :
    (s.intersection last t).contains n = (s.contains n && t.contains n) := by
  have hs' : Ordered 0 (s.complement last).ranges := ordered_complement hs
  have ht' : Ordered 0 (t.complement last).ranges := ordered_complement ht
  simp [intersection, contains_complement (ordered_union hs' ht') le, contains_union hs' ht',
    contains_complement hs le, contains_complement ht le]

theorem contains_difference {last n : Nat} {s t : CharSet} (hs : Ordered 0 s.ranges)
    (ht : Ordered 0 t.ranges) (le : n ≤ last) :
    (s.difference last t).contains n = (s.contains n && !t.contains n) := by
  simp [difference, contains_intersection hs (ordered_complement ht) le, contains_complement ht le]

end CharSet

end RuntimeStubs.Pattern
