import RuntimeStubs.Proofs.Statistics.Counts

/-! The report on statistics.

The counts of the groups come in no particular order. The report sorts them, and since no two groups
have one name, they have one order only (`groupLines_eq_of_perm`). All other lines depend on numbers
that no order of the descriptors changes, except for the name of the largest stub. Main statement
(`report_canonical`): registries with the same descriptors in any order have the same report, as
long as all the largest stubs have one name. -/

set_option autoImplicit false

namespace RuntimeStubs

theorem Sorting.sort_eq_of_perm {α : Type} {le : α → α → Bool}
    (total : ∀ a b, le a b = false → le b a = true)
    (trans : ∀ a b c, le a b = true → le b c = true → le a c = true)
    (antisymm : ∀ a b, le a b = true → le b a = true → a = b) {l m : List α} (perm : l.Perm m) :
    sort le l = sort le m := by
  have sorted : (sort le l).Perm (sort le m) :=
    ((sort_perm le l).trans perm).trans (sort_perm le m).symm
  exact sorted.eq_of_pairwise (fun a b _ _ => antisymm a b) (pairwise_sort total trans l)
    (pairwise_sort total trans m)

namespace Statistics

/-! ### The order of the groups -/

section

variable {a b : String × Nat}

theorem groupOrder_iff : groupOrder a b = true ↔ b.2 < a.2 ∨ (a.2 = b.2 ∧ a.1 ≤ b.1) := by
  simp [groupOrder]

theorem groupOrder_total (a b : String × Nat) (unordered : groupOrder a b = false) :
    groupOrder b a = true := by
  rw [← Bool.not_eq_true, groupOrder_iff] at unordered
  rw [groupOrder_iff]
  obtain ⟨notMore, notBefore⟩ := not_or.mp unordered
  rcases Nat.lt_or_eq_of_le (Nat.le_of_not_lt notMore) with more | same
  · exact .inl more
  · refine .inr ⟨same.symm, ?_⟩
    exact (String.le_total a.1 b.1).resolve_left fun before => notBefore ⟨same, before⟩

theorem groupOrder_trans (a b c : String × Nat) (first : groupOrder a b = true)
    (second : groupOrder b c = true) : groupOrder a c = true := by
  rw [groupOrder_iff] at first second ⊢
  rcases first with more | ⟨same, before⟩ <;> rcases second with moreToo | ⟨sameToo, beforeToo⟩
  · exact .inl (Nat.lt_trans moreToo more)
  · exact .inl (sameToo ▸ more)
  · exact .inl (same ▸ moreToo)
  · exact .inr ⟨same.trans sameToo, String.le_trans before beforeToo⟩

theorem groupOrder_antisymm (a b : String × Nat) (first : groupOrder a b = true)
    (second : groupOrder b a = true) : a = b := by
  rw [groupOrder_iff] at first second
  rcases first with more | ⟨same, before⟩ <;> rcases second with moreToo | ⟨sameToo, beforeToo⟩
  · exact absurd moreToo (Nat.lt_asymm more)
  · exact absurd more (Nat.not_lt.mpr (Nat.le_of_eq sameToo.symm))
  · exact absurd moreToo (Nat.not_lt.mpr (Nat.le_of_eq same.symm))
  · exact Prod.ext (String.le_antisymm before beforeToo) same

end

/-! ### The lines on groups -/

def heading : String := "Descriptors by group:"

def row (entry : String × Nat) : String := s!"  {entry.1}: {entry.2}"

def groupLines (groups : List (String × Nat)) : List String :=
  if groups.length ≤ 1 then [] else heading :: (Sorting.sort groupOrder groups).map row

theorem lines_eq (s : Statistics) :
    s.lines = { s with groups := [] }.lines ++ groupLines s.groups := by
  rw [lines, lines]
  exact congrArg (· ++ groupLines s.groups) (List.append_nil _).symm

-- Every other line begins with another letter than the heading, whatever the numbers and names are.
theorem heading_not_mem (s : Statistics) : heading ∉ { s with groups := [] }.lines := by
  have phases : ∀ entry ∈ phaseCounts, phaseLine entry.1 entry.2 ≠ heading := by decide +kernel
  have begins {line : String} (same : heading = line) : line.toList.head? = some 'D' := same ▸ rfl
  intro listed
  simp only [lines, List.length_nil, Nat.zero_le, if_true, List.append_nil, List.mem_append,
    List.mem_cons, List.not_mem_nil, or_false, List.mem_map] at listed
  rcases listed with ((first | ⟨entry, member, same⟩) | total | size) | largest
  · exact absurd first (by decide)
  · exact phases entry member same
  · simpa [ToString.toString] using begins total
  · simpa [ToString.toString] using begins size
  · split at largest
    · cases largest
    · simpa [ToString.toString] using begins (List.mem_singleton.mp largest)

theorem heading_mem_groupLines_iff {groups : List (String × Nat)} :
    heading ∈ groupLines groups ↔ 1 < groups.length := by
  rw [groupLines]
  split
  · next few => exact iff_of_false List.not_mem_nil (Nat.not_lt.mpr few)
  · next many => exact iff_of_true List.mem_cons_self (Nat.lt_of_not_le many)

theorem groupLines_eq_of_perm {groups others : List (String × Nat)} (perm : groups.Perm others) :
    groupLines groups = groupLines others := by
  rw [groupLines, groupLines, perm.length_eq,
    Sorting.sort_eq_of_perm groupOrder_total groupOrder_trans groupOrder_antisymm perm]

theorem toText_congr {s u : Statistics}
    (same : { s with groups := [] } = { u with groups := [] })
    (perm : s.groups.Perm u.groups) : s.toText = u.toText := by
  rw [toText, toText, lines_eq s, lines_eq u, same, groupLines_eq_of_perm perm]

/-! ### Groups that occur -/

/-- The descriptors belong to two groups at least. -/
def Varied (ds : List Descriptor) : Prop := ∃ d ∈ ds, ∃ e ∈ ds, d.group ≠ e.group

variable {ds es : List Descriptor} {groups others : List (String × Nat)}

theorem Tally.varied_iff (tally : Tally ds groups) : Varied ds ↔ 1 < groups.length := by
  have keys (group : String) : group ∈ groups.map Prod.fst ↔ ∃ d ∈ ds, d.group = group := by
    simp [tally.mem_keys_iff, List.countP_pos_iff]
  constructor
  · rintro ⟨d, listed, e, listedToo, differ⟩
    have first := (keys d.group).mpr ⟨d, listed, rfl⟩
    have second := (keys e.group).mpr ⟨e, listedToo, rfl⟩
    by_contra few
    match groups, few with
    | [], _ => cases first
    | [entry], _ =>
      exact differ ((List.mem_singleton.mp first).trans (List.mem_singleton.mp second).symm)
    | _ :: _ :: _, few => exact few (by simp)
  · intro many
    match groups, many with
    | first :: second :: rest, _ =>
      obtain ⟨d, listed, isFirst⟩ := (keys first.1).mp (by simp)
      obtain ⟨e, listedToo, isSecond⟩ := (keys second.1).mp (by simp)
      refine ⟨d, listed, e, listedToo, fun same => ?_⟩
      obtain ⟨absent, -⟩ := List.nodup_cons.mp tally.nodup
      exact absent (by simp [← isFirst, ← isSecond, same])

-- Sorting orders by names that may be equal; as no name is listed twice, the order is strict.
theorem Tally.pairwise_sort (tally : Tally ds groups) :
    (Sorting.sort groupOrder groups).Pairwise
      fun a b => b.2 < a.2 ∨ (a.2 = b.2 ∧ a.1 < b.1) := by
  have perm := Sorting.sort_perm groupOrder groups
  have distinct : (Sorting.sort groupOrder groups).Pairwise fun a b => a.1 ≠ b.1 :=
    List.pairwise_map.mp ((perm.map Prod.fst).nodup_iff.mpr tally.nodup)
  have sorted := Sorting.pairwise_sort groupOrder_total groupOrder_trans groups
  refine (sorted.and distinct).imp fun {a b} both => ?_
  rcases groupOrder_iff.mp both.1 with more | ⟨same, before⟩
  · exact .inl more
  · refine .inr ⟨same, ?_⟩
    by_contra notBefore
    exact both.2 (String.le_antisymm before (String.not_lt.mp notBefore))

/-! ### Registries in another order -/

/-- All the largest descriptors that are not empty have one name. -/
def OneNamed (ds : List Descriptor) : Prop :=
  ∀ d ∈ ds, ∀ e ∈ ds, 0 < d.size → (∀ f ∈ ds, f.size ≤ d.size) → e.size = d.size → e.name = d.name

namespace Describes

variable {s u : Statistics}

theorem largestSize_le (first : s.Describes ds) (second : u.Describes es) (perm : es.Perm ds) :
    s.largestSize ≤ u.largestSize := by
  rcases first.newest with ⟨zero, -⟩ | ⟨older, d, newer, split, -, size, -, -⟩
  · exact zero ▸ Nat.zero_le _
  · rw [← size]
    exact second.bound d (perm.mem_iff.mpr (by simp [split]))

theorem largestSize_eq (first : s.Describes ds) (second : u.Describes es) (perm : es.Perm ds) :
    u.largestSize = s.largestSize :=
  Nat.le_antisymm (second.largestSize_le first perm.symm) (first.largestSize_le second perm)

theorem largestName_eq (first : s.Describes ds) (second : u.Describes es) (perm : es.Perm ds)
    (oneNamed : OneNamed ds) : u.largestName = s.largestName := by
  have same : u.largestSize = s.largestSize := first.largestSize_eq second perm
  rcases first.newest with ⟨zero, noName⟩ | ⟨older, d, newer, split, positive, size, name, -⟩ <;>
    rcases second.newest with
      ⟨zeroToo, noNameToo⟩ | ⟨olderToo, e, newerToo, splitToo, positiveToo, sizeToo, nameToo, -⟩
  · rw [noName, noNameToo]
  · omega
  · omega
  · have listed : d ∈ ds := by simp [split]
    have listedToo : e ∈ ds := perm.mem_iff.mp (by simp [splitToo])
    rw [← name, ← nameToo]
    exact oneNamed d listed e listedToo positive (fun f other => size ▸ first.bound f other)
      (sizeToo.trans (same.trans size.symm))

theorem toText_eq (first : s.Describes ds) (second : u.Describes es) (perm : es.Perm ds)
    (oneNamed : OneNamed ds) : u.toText = s.toText := by
  have emitted : u.emitted = s.emitted := by rw [first.emitted, second.emitted, perm.countP_eq]
  have hydrated : u.hydrated = s.hydrated := by
    rw [first.hydrated, second.hydrated, perm.countP_eq]
  have total : u.totalSize = s.totalSize := by
    rw [first.total, second.total, (perm.map _).sum_nat]
  have largest : u.largestSize = s.largestSize := first.largestSize_eq second perm
  have name : u.largestName = s.largestName := first.largestName_eq second perm oneNamed
  refine toText_congr ?_ ((second.tally.perm perm).perm_unique first.tally)
  rw [emitted, hydrated, total, largest, name]

end Describes

/-! ### The text -/

/-- Every group is listed once with the number of its descriptors, larger groups first and groups of
one size by name. -/
structure Ranked (ds : List Descriptor) (rows : List (String × Nat)) : Prop where
  nodup : (rows.map Prod.fst).Nodup
  mem_iff : ∀ group count, (group, count) ∈ rows ↔
    0 < count ∧ ds.countP (fun d => d.group = group) = count
  sorted : rows.Pairwise fun a b => b.2 < a.2 ∨ (a.2 = b.2 ∧ a.1 < b.1)

theorem Tally.ranked (tally : Tally ds groups) : Ranked ds (Sorting.sort groupOrder groups) where
  nodup := ((Sorting.sort_perm groupOrder groups).map _).nodup_iff.mpr tally.nodup
  mem_iff group count := (Sorting.sort_perm groupOrder groups).mem_iff.trans
    (tally.mem_iff group count)
  sorted := tally.pairwise_sort

/-- The text of a report on descriptors: phases and totals, and behind them the groups if there are
several. -/
structure Reports (s : Statistics) (ds : List Descriptor) : Prop where
  text : s.toText = String.join (s.lines.map (· ++ "\n"))
  phases : "StubRoutines Stubs:" :: Phase.all.map (fun kind =>
    "  " ++ Text.padRight 22 (kind.name ++ " stubs:") ++ " " ++ toString kind.stubCount) <+: s.lines
  counts : s!"Total stubroutines stubs emitted: {s.emitted} (generated={s.generated}, " ++
    s!"loaded from cache={s.hydrated})" ∈ s.lines
  size : s!"Total code size: {s.totalSize} bytes" ∈ s.lines
  largest : s.largestName ≠ "" →
    s!"Largest stub: {s.largestName} ({s.largestSize} bytes)" ∈ s.lines
  heading_iff : heading ∈ s.lines ↔ Varied ds
  uniform : ¬ Varied ds → s.lines = { s with groups := [] }.lines
  varied : Varied ds → ∃ rows, Ranked ds rows ∧
    s.lines = { s with groups := [] }.lines ++ heading :: rows.map row

theorem Describes.reports {s : Statistics} (describes : s.Describes ds) : s.Reports ds where
  text := rfl
  phases := by
    rw [lines, phaseCounts, List.map_map]
    simp only [List.append_assoc]
    exact List.prefix_append _ _
  counts := by simp [lines]
  size := by simp [lines]
  largest named := by simp [lines, named]
  heading_iff := by
    rw [lines_eq, List.mem_append, or_iff_right (heading_not_mem s), heading_mem_groupLines_iff,
      describes.tally.varied_iff]
  uniform uniform := by
    rw [describes.tally.varied_iff, Nat.not_lt] at uniform
    rw [lines_eq, groupLines, if_pos uniform, List.append_nil]
  varied varied := by
    rw [describes.tally.varied_iff, ← Nat.not_le] at varied
    refine ⟨_, describes.tally.ranked, ?_⟩
    rw [lines_eq, groupLines, if_neg varied]

/-- The counts of the groups may be kept in any order, and so may the descriptors unless the largest
of them have different names. -/
theorem report_canonical {r : Registry}
    (fits : (r.descriptors.map Descriptor.size).sum < UInt64.size) :
    ∃ s, collect r = .ok s ∧ s.Reports r.descriptors ∧
      (∀ groups : List (String × Nat), groups.Perm s.groups →
        toText { s with groups := groups } = s.toText) ∧
      ∀ t : Registry, t.descriptors.Perm r.descriptors → OneNamed r.descriptors →
        ∃ u, collect t = .ok u ∧ u.toText = s.toText := by
  obtain ⟨s, collected⟩ := collect_isOk_iff.mpr fits
  have describes := collect_describes collected
  refine ⟨s, collected, describes.reports, fun groups perm => toText_congr rfl perm, ?_⟩
  intro t perm oneNamed
  have total := (perm.map Descriptor.size).sum_nat
  obtain ⟨u, collectedToo⟩ := collect_isOk_iff.mpr (total ▸ fits)
  exact ⟨u, collectedToo, describes.toText_eq (collect_describes collectedToo) perm oneNamed⟩

def twins : Registry where
  descriptors := [⟨"Boot", "entry", ⟨0x1000⟩, some ⟨0x1010⟩, 0, false⟩,
    ⟨"Interpreter", "entry", ⟨0x2000⟩, some ⟨0x2010⟩, 0, false⟩,
    ⟨"Boot", "exit", ⟨0x3000⟩, some ⟨0x3004⟩, 0, false⟩]
  frozen := false

theorem report_canonical_twins : ∃ s u, collect twins = .ok s ∧ heading ∈ s.lines ∧
    collect { twins with descriptors := twins.newestFirst } = .ok u ∧ u.toText = s.toText := by
  obtain ⟨s, collected, reports, -, reordered⟩ :=
    report_canonical (r := twins) (by decide +kernel)
  obtain ⟨u, collectedToo, same⟩ := reordered { twins with descriptors := twins.newestFirst }
    (List.reverse_perm _) (by unfold OneNamed; decide +kernel)
  have varied : Varied twins.descriptors := by
    unfold Varied
    decide +kernel
  exact ⟨s, u, collected, reports.heading_iff.mpr varied, collectedToo, same⟩

end Statistics

end RuntimeStubs
