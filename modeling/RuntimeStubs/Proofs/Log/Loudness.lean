import RuntimeStubs.Log

/-! Logs of two runs of which one may report more.

The second run may list code where the first does not, and may have a listener ask for code because
its log takes traces. A relation between logs that allows for this (`Louder`) survives the report of
a descriptor whose listing cannot abort, and code that ends within the address space can always be
listed. Of logs that are filtered by level alone the relation says exactly what the second one has
and the first one has not (`louder_overheard`). -/

set_option autoImplicit false

namespace RuntimeStubs

/-! ### Listings that do not abort -/

namespace Listing

theorem bytes_ne_nil_of_mem_pieces {limit : Nat} {code : List UInt8} {piece : CodePiece}
    (member : piece ∈ pieces limit code) : 0 < piece.bytes.length := by
  induction limit generalizing code with
  | zero => simp [pieces] at member
  | succ limit ih =>
    cases code with
    | nil => simp [pieces] at member
    | cons byte rest =>
      rw [pieces] at member
      split at member
      · next instruction length decoded =>
        rcases List.mem_cons.mp member with rfl | member
        · have positive := decode?_length_pos decoded
          simp only [List.length_take, List.length_cons]
          omega
        · exact ih member
      · rw [List.mem_singleton.mp member]
        exact Nat.succ_pos _

-- Every piece starts before the code ends.
theorem place_ok (start : Address) {pieces : List CodePiece} {offset : Nat}
    (filled : ∀ piece ∈ pieces, 0 < piece.bytes.length)
    (inside : start.raw.toNat + (offset + (pieces.flatMap CodePiece.bytes).length) ≤ UInt64.size) :
    ∃ lines, place start offset pieces = .ok lines := by
  induction pieces generalizing offset with
  | nil => exact ⟨[], rfl⟩
  | cons piece rest ih =>
    obtain ⟨positive, filledRest⟩ := List.forall_mem_cons.mp filled
    rw [List.flatMap_cons, List.length_append] at inside
    have insideRest : start.raw.toNat + (offset + piece.bytes.length +
        (rest.flatMap CodePiece.bytes).length) ≤ UInt64.size := by omega
    obtain ⟨lines, placed⟩ := ih filledRest insideRest
    exact ⟨_, by rw [place, if_pos (by omega), placed]⟩

end Listing

theorem disassemble_ok {code : List UInt8} {start : Address}
    (inside : start.raw.toNat + code.length ≤ UInt64.size) :
    ∃ lines, disassemble code start = .ok lines := by
  refine Listing.place_ok start (fun piece => Listing.bytes_ne_nil_of_mem_pieces) ?_
  rwa [Listing.flatten_split, Nat.zero_add]

/-! ### Logs of a quiet run and of a loud one -/

/-- Both sessions list code or neither does, or, if that is allowed, only the second one does. -/
def Switched (allowed : Prop) (first second : Bool) : Prop :=
  second = first ∨ allowed ∧ first = false ∧ second = true

theorem switched_off (second : Bool) : Switched True false second := by
  cases second with
  | false => exact .inl rfl
  | true => exact .inr ⟨trivial, rfl, rfl⟩

/-- A relation between the log of a quiet run and that of a loud one. Both report the same, but the
loud run may add listings, if that is allowed, and reports of posted code to a listener that asks
for it in the loud run only. -/
structure Louder (allowed : Prop) (L : Log → Log → Prop) : Prop where
  report : ∀ {quiet loud} d, L quiet loud → L (quiet.report d) (loud.report d)
  listed : ∀ {quiet loud} d, allowed → d.level = .info → L quiet loud → L quiet (loud.report d)
  asks : ∀ {quiet loud}, L quiet loud → quiet.enabled .trace .listener = true →
    loud.enabled .trace .listener = true
  posted : ∀ {quiet loud} d, quiet.enabled .trace .listener = false → d.level = .trace →
    L quiet loud → L quiet (loud.report d)

theorem Louder.describe {allowed : Prop} {L : Log → Log → Prop} (louder : Louder allowed L)
    (d : Descriptor) {code : Option (List UInt8)} {first second : Bool} {quiet loud : Log}
    (switched : Switched allowed first second)
    (listable : ∀ bytes, code = some bytes → first = second ∨
      ∃ lines, disassemble bytes d.start = .ok lines)
    (related : L quiet loud) :
    (Log.describe d code first quiet).1 = (Log.describe d code second loud).1 ∧
      L (Log.describe d code first quiet).2 (Log.describe d code second loud).2 := by
  have described := louder.report (.described d) related
  rcases switched with rfl | ⟨isAllowed, rfl, rfl⟩
  · cases second with
    | false => exact ⟨rfl, described⟩
    | true =>
      cases code with
      | none => exact ⟨rfl, louder.report _ described⟩
      | some bytes =>
        simp only [Log.describe, if_true]
        cases disassemble bytes d.start with
        | error cause => exact ⟨rfl, described⟩
        | ok lines => exact ⟨rfl, louder.report _ described⟩
  · cases code with
    | none => exact ⟨rfl, louder.listed (.codeUnavailable d) isAllowed rfl described⟩
    | some bytes =>
      obtain ⟨lines, disassembled⟩ := (listable bytes rfl).resolve_left Bool.false_ne_true
      simp only [Log.describe, Bool.false_eq_true, if_false, if_true, disassembled]
      exact ⟨trivial, louder.listed (.listed d lines) isAllowed rfl described⟩

/-- The quiet log takes nothing, and nothing is known of the other. -/
def Hushed (quiet _ : Log) : Prop := quiet.filter = .upTo 0

theorem louder_hushed : Louder True Hushed where
  report _ hushed := (Log.filter_report ..).trans hushed
  listed _ _ _ hushed := hushed
  asks hushed asks := by
    rw [Log.enabled, hushed, Filter.enabled_upTo] at asks
    cases asks
  posted _ _ _ hushed := hushed

/-! ### Logs that are filtered by level -/

/-- The second list is the first with reports of level `info` inserted, if that is allowed. -/
inductive Interspersed (allowed : Prop) : List Diagnostic → List Diagnostic → Prop where
  | nil : Interspersed allowed [] []
  | both (d : Diagnostic) {first second : List Diagnostic} : Interspersed allowed first second →
    Interspersed allowed (d :: first) (d :: second)
  | inserted (d : Diagnostic) {first second : List Diagnostic} : allowed → d.level = .info →
    Interspersed allowed first second → Interspersed allowed first (d :: second)

namespace Interspersed

variable {allowed : Prop} {first second third fourth : List Diagnostic}

theorem refl (allowed : Prop) (records : List Diagnostic) :
    Interspersed allowed records records := by
  induction records with
  | nil => exact .nil
  | cons d rest ih => exact .both d ih

theorem append (front : Interspersed allowed first second)
    (back : Interspersed allowed third fourth) :
    Interspersed allowed (first ++ third) (second ++ fourth) := by
  induction front with
  | nil => exact back
  | both d _ ih => exact .both d ih
  | inserted d isAllowed info _ ih => exact .inserted d isAllowed info ih

theorem eq_of_not (same : Interspersed allowed first second) (never : ¬ allowed) :
    first = second := by
  induction same with
  | nil => rfl
  | both d _ ih => rw [ih]
  | inserted d isAllowed _ _ _ => exact absurd isAllowed never

end Interspersed

/-- The loud log has taken what the quiet one has taken, and of the levels that the quiet one takes
no more than what may be inserted. -/
structure Overheard (allowed : Prop) (limit higher : Nat) (quiet loud : Log) : Prop where
  quiet_filter : quiet.filter = .upTo limit
  loud_filter : loud.filter = .upTo higher
  within : ∀ d ∈ loud.records, d.level.rank ≤ higher
  records : Interspersed allowed quiet.records
    (loud.records.filter fun d => decide (d.level.rank ≤ limit))

theorem Filter.filter_keeps_upTo {limit higher : Nat} (le : limit ≤ higher) (d : Diagnostic) :
    ([d].filter (upTo higher).keeps).filter (fun d => decide (d.level.rank ≤ limit)) =
      [d].filter (upTo limit).keeps := by
  rw [List.filter_filter]
  refine List.filter_congr fun d _ => ?_
  rw [keeps_upTo, keeps_upTo, ← Bool.decide_and]
  exact decide_eq_decide.mpr ⟨And.left, fun below => ⟨below, Nat.le_trans below le⟩⟩

namespace Overheard

variable {allowed : Prop} {limit higher : Nat} {quiet loud : Log}

theorem create : Overheard allowed limit higher (.create (.upTo limit)) (.create (.upTo higher)) :=
  ⟨rfl, rfl, List.forall_mem_nil _, .nil⟩

theorem within_report (overheard : Overheard allowed limit higher quiet loud) (d : Diagnostic) :
    ∀ e ∈ (loud.report d).records, e.level.rank ≤ higher := by
  intro e member
  rw [Log.records_report, overheard.loud_filter] at member
  rcases List.mem_append.mp member with member | member
  · exact overheard.within e member
  · have kept := (List.mem_filter.mp member).2
    rwa [Filter.keeps_upTo, decide_eq_true_iff] at kept

theorem records_report (overheard : Overheard allowed limit higher quiet loud)
    (le : limit ≤ higher) (d : Diagnostic) :
    (loud.report d).records.filter (fun d => decide (d.level.rank ≤ limit)) =
      loud.records.filter (fun d => decide (d.level.rank ≤ limit)) ++
        [d].filter (Filter.upTo limit).keeps := by
  rw [Log.records_report, List.filter_append, overheard.loud_filter,
    Filter.filter_keeps_upTo le]

theorem report (overheard : Overheard allowed limit higher quiet loud) (le : limit ≤ higher)
    (d : Diagnostic) : Overheard allowed limit higher (quiet.report d) (loud.report d) where
  quiet_filter := (Log.filter_report ..).trans overheard.quiet_filter
  loud_filter := (Log.filter_report ..).trans overheard.loud_filter
  within := overheard.within_report d
  records := by
    rw [overheard.records_report le, Log.records_report, overheard.quiet_filter]
    exact overheard.records.append (.refl allowed _)

-- A report of the loud run alone is taken into account only if the quiet log takes its level.
theorem added (overheard : Overheard allowed limit higher quiet loud) (le : limit ≤ higher)
    (d : Diagnostic) (new : d.level.rank ≤ limit → allowed ∧ d.level = .info) :
    Overheard allowed limit higher quiet (loud.report d) where
  quiet_filter := overheard.quiet_filter
  loud_filter := (Log.filter_report ..).trans overheard.loud_filter
  within := overheard.within_report d
  records := by
    rw [overheard.records_report le, ← List.append_nil quiet.records]
    refine overheard.records.append ?_
    by_cases below : d.level.rank ≤ limit
    · obtain ⟨isAllowed, info⟩ := new below
      rw [List.filter_cons_of_pos (by simp [below])]
      exact .inserted d isAllowed info .nil
    · rw [List.filter_cons_of_neg (by simp [below])]
      exact .nil

theorem interspersed (overheard : Overheard allowed limit limit quiet loud) :
    Interspersed allowed quiet.records loud.records := by
  have all : loud.records.filter (fun d => decide (d.level.rank ≤ limit)) = loud.records :=
    List.filter_eq_self.mpr fun d member => decide_eq_true (overheard.within d member)
  exact all ▸ overheard.records

end Overheard

theorem louder_overheard (allowed : Prop) {limit higher : Nat} (le : limit ≤ higher) :
    Louder allowed (Overheard allowed limit higher) where
  report d overheard := overheard.report le d
  listed d isAllowed info overheard := overheard.added le d fun _ => ⟨isAllowed, info⟩
  asks := by
    intro quiet loud overheard asks
    rw [Log.enabled, overheard.quiet_filter, Filter.enabled_upTo, decide_eq_true_iff] at asks
    rw [Log.enabled, overheard.loud_filter, Filter.enabled_upTo, decide_eq_true_iff]
    exact Nat.le_trans asks le
  posted := by
    intro quiet loud d silent trace overheard
    rw [Log.enabled, overheard.quiet_filter, Filter.enabled_upTo, decide_eq_false_iff_not] at silent
    refine overheard.added le d fun below => absurd below ?_
    rwa [trace]

end RuntimeStubs
