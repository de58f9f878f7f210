import Mathlib.Data.List.Find
import Mathlib.Data.List.Infix
import RuntimeStubs.Proofs.Registry.LifeCycle

/-! Two owners of one registry.

Two parties register in turns, on top of what is in the registry already. Each of them has a share
of the descriptors, which is what it would have registered if it were alone, in the same order; only
the handles differ, as those of one party skip the descriptors of the other (`Place.Names`). Calls
to the shared registry and to the one of a party alone come to the same, and leave the share of the
other party as it was. -/

set_option autoImplicit false

namespace RuntimeStubs

def share (party : Bool) (entries : List (Bool × Descriptor)) : List Descriptor :=
  (entries.filter fun e => e.1 == party).map Prod.snd

/-- How many of the first few entries belong to a party. -/
def rank (party : Bool) (owners : List Bool) (n : Nat) : Nat := (owners.take n).count party

section

variable {party : Bool} {entries : List (Bool × Descriptor)} {d e : Descriptor} {n m : Nat}

theorem share_concat_self (party : Bool) (entries : List (Bool × Descriptor)) (d : Descriptor) :
    share party (entries ++ [(party, d)]) = share party entries ++ [d] := by
  simp [share]

theorem share_concat_other (party : Bool) (entries : List (Bool × Descriptor)) (d : Descriptor) :
    share (!party) (entries ++ [(party, d)]) = share (!party) entries := by
  simp [share]

theorem length_share (party : Bool) (entries : List (Bool × Descriptor)) :
    (share party entries).length = (entries.map Prod.fst).count party := by
  induction entries with
  | nil => rfl
  | cons entry rest ih =>
    simp only [share, List.length_map] at ih
    simp [share, List.filter_cons, List.count_cons]
    split <;> simp_all

theorem rank_cons (party owner : Bool) (owners : List Bool) (n : Nat) :
    rank party (owner :: owners) (n + 1) =
      rank party owners n + if owner == party then 1 else 0 := by
  rw [rank, List.take_succ_cons, List.count_cons, rank]

theorem getElem?_share (found : entries[n]? = some (party, d)) :
    (share party entries)[rank party (entries.map Prod.fst) n]? = some d := by
  induction entries generalizing n with
  | nil => simp at found
  | cons entry rest ih =>
    cases n with
    | zero =>
      obtain rfl : entry = (party, d) := by simpa using found
      simp [share, rank]
    | succ n =>
      rw [List.getElem?_cons_succ] at found
      have later := ih found
      rw [List.map_cons, rank_cons]
      obtain ⟨owner, other⟩ := entry
      by_cases same : owner = party
      · subst same
        simpa [share] using later
      · simpa [share, same] using later

theorem share_set (found : entries[n]? = some (party, d)) (e : Descriptor) :
    share party (entries.set n (party, e)) =
      (share party entries).set (rank party (entries.map Prod.fst) n) e := by
  induction entries generalizing n with
  | nil => simp at found
  | cons entry rest ih =>
    cases n with
    | zero =>
      obtain rfl : entry = (party, d) := by simpa using found
      simp [share, rank]
    | succ n =>
      rw [List.getElem?_cons_succ] at found
      have later := ih found
      rw [List.set_cons_succ, List.map_cons, rank_cons]
      obtain ⟨owner, other⟩ := entry
      by_cases same : owner = party
      · subst same
        simpa [share] using later
      · simpa [share, same] using later

theorem share_set_other (found : entries[n]? = some (party, d)) (e : Descriptor) :
    share (!party) (entries.set n (party, e)) = share (!party) entries := by
  induction entries generalizing n with
  | nil => simp at found
  | cons entry rest ih =>
    cases n with
    | zero =>
      obtain rfl : entry = (party, d) := by simpa using found
      simp [share]
    | succ n =>
      rw [List.getElem?_cons_succ] at found
      have later := ih found
      simp only [share] at later
      simp only [List.set_cons_succ, share, List.filter_cons]
      split <;> simp [later]

theorem owners_set (found : entries[n]? = some (party, d)) (e : Descriptor) :
    (entries.set n (party, e)).map Prod.fst = entries.map Prod.fst := by
  obtain ⟨inside, isEntry⟩ := List.getElem?_eq_some_iff.mp found
  refine List.ext_getElem? fun m => ?_
  rw [List.map_set, List.getElem?_set]
  split
  · next same =>
    subst same
    simp [inside, isEntry]
  · rfl

theorem rank_lt {owners : List Bool} (found : owners[n]? = some party) (before : n < m) :
    rank party owners n < rank party owners m := by
  have next : rank party owners (n + 1) = rank party owners n + 1 := by
    simp [rank, List.take_add_one, found]
  have later : rank party owners (n + 1) ≤ rank party owners m :=
    (List.take_prefix_take_left before).sublist.count_le party
  omega

-- The shares make up everything, in an order of their own.
theorem perm_shares (entries : List (Bool × Descriptor)) :
    (share true entries ++ share false entries).Perm (entries.map Prod.snd) := by
  have split := (List.filter_append_perm (fun e => e.1) entries).map Prod.snd
  rw [List.map_append] at split
  simpa [share] using split

theorem find?_share (party : Bool) {accepts : Descriptor → Bool}
    (others : ∀ d ∈ share (!party) entries, accepts d = false) :
    (entries.map Prod.snd).reverse.find? accepts = (share party entries).reverse.find? accepts := by
  have owned : ∀ entry ∈ entries, accepts entry.2 = true → entry.1 = party := by
    rintro ⟨owner, d⟩ member accepted
    by_contra other
    have shared : d ∈ share (!party) entries := by
      simp only [share, List.mem_map, List.mem_filter, beq_iff_eq]
      exact ⟨⟨owner, d⟩, ⟨member, Bool.eq_not_of_ne other⟩, rfl⟩
    simp [others d shared] at accepted
  rw [share, ← List.map_reverse, ← List.map_reverse, List.find?_map, List.find?_map,
    ← List.filter_reverse, List.find?_filter]
  refine congrArg (Option.map Prod.snd) (List.find?_congr fun entry member => ?_)
  cases accepted : accepts entry.2 with
  | true => simp [accepted, owned entry (List.mem_reverse.mp member) accepted]
  | false => simp [accepted]

end

/-- One of two parties, on top of what was in the registry before. -/
structure Place where
  party : Bool
  base : List Descriptor

namespace Place

def shared (p : Place) (entries : List (Bool × Descriptor)) : Registry :=
  ⟨p.base ++ entries.map Prod.snd, false⟩

def alone (p : Place) (entries : List (Bool × Descriptor)) : Registry :=
  ⟨p.base ++ share p.party entries, false⟩

/-- The two handles lead to the same descriptor of the party, the second one if it is alone. -/
def Names (p : Place) (owners : List Bool) (handle solo : Handle) : Prop :=
  ∃ n, owners[n]? = some p.party ∧ handle = ⟨p.base.length + n⟩ ∧
    solo = ⟨p.base.length + rank p.party owners n⟩

/-- What the party adds or changes leaves the share of the other as it is. -/
structure Keeps (p : Place) (entries later : List (Bool × Descriptor)) : Prop where
  owners : entries.map Prod.fst <+: later.map Prod.fst
  other : share (!p.party) later = share (!p.party) entries

variable {p : Place} {entries later : List (Bool × Descriptor)} {owners : List Bool}
  {handle solo : Handle} {d : Descriptor}

theorem Keeps.refl (p : Place) (entries : List (Bool × Descriptor)) : p.Keeps entries entries :=
  ⟨List.prefix_refl _, rfl⟩

theorem Names.mono {more : List Bool} (names : p.Names owners handle solo)
    (grown : owners <+: more) : p.Names more handle solo := by
  obtain ⟨n, owned, rfl, rfl⟩ := names
  obtain ⟨rest, rfl⟩ := grown
  have inside : n < owners.length := (List.getElem?_eq_some_iff.mp owned).1
  refine ⟨n, (List.getElem?_append_left inside).trans owned, rfl, ?_⟩
  rw [rank, rank, List.take_append_of_le_length inside.le]

theorem rel_names_mono {open? solo? : Option Handle} {more : List Bool}
    (related : Option.Rel (p.Names owners) open? solo?) (grown : owners <+: more) :
    Option.Rel (p.Names more) open? solo? := by
  cases related with
  | some names => exact .some (names.mono grown)
  | none => exact .none

theorem Names.iff {other otherSolo : Handle} (names : p.Names owners handle solo)
    (namesOther : p.Names owners other otherSolo) : handle = other ↔ solo = otherSolo := by
  obtain ⟨n, owned, rfl, rfl⟩ := names
  obtain ⟨m, ownedOther, rfl, rfl⟩ := namesOther
  simp only [Handle.mk.injEq, Nat.add_left_cancel_iff]
  constructor
  · rintro rfl
    rfl
  · intro same
    rcases Nat.lt_trichotomy n m with before | equal | after
    · have := rank_lt owned before
      omega
    · exact equal
    · have := rank_lt ownedOther after
      omega

theorem Names.get? (names : p.Names (entries.map Prod.fst) handle solo) :
    ∃ n d, entries[n]? = some (p.party, d) ∧ handle = ⟨p.base.length + n⟩ ∧
      solo = ⟨p.base.length + rank p.party (entries.map Prod.fst) n⟩ ∧
      (p.shared entries).get? handle = some d ∧ (p.alone entries).get? solo = some d := by
  obtain ⟨n, owned, rfl, rfl⟩ := names
  rw [List.getElem?_map, Option.map_eq_some_iff] at owned
  obtain ⟨⟨owner, d⟩, found, rfl⟩ := owned
  refine ⟨n, d, found, rfl, rfl, ?_, ?_⟩
  · rw [Registry.get?, shared, List.getElem?_append_right (Nat.le_add_right ..),
      Nat.add_sub_cancel_left, List.getElem?_map, found, Option.map_some]
  · rw [Registry.get?, alone, List.getElem?_append_right (Nat.le_add_right ..),
      Nat.add_sub_cancel_left, getElem?_share found]

-- A call that changes the descriptor behind a handle is refused on both registries, for the same
-- reason, or changes both descriptors alike.
theorem update_eq (names : p.Names (entries.map Prod.fst) handle solo)
    (change : Descriptor → Except Fault Descriptor) :
    (∃ fault, (p.shared entries).update handle change = .error fault ∧
        (p.alone entries).update solo change = .error fault) ∨
      ∃ later d, p.Keeps entries later ∧
        (p.shared entries).update handle change = .ok (d, p.shared later) ∧
        (p.alone entries).update solo change = .ok (d, p.alone later) := by
  obtain ⟨n, d, found, isHandle, isSolo, known, knownAlone⟩ := names.get?
  have first := Registry.descriptor_eq_ok_iff.mpr known
  have second := Registry.descriptor_eq_ok_iff.mpr knownAlone
  cases changed : change d with
  | error fault =>
    exact .inl ⟨fault, by simp only [Registry.update, first, second, changed, and_self]⟩
  | ok e =>
    refine .inr ⟨entries.set n (p.party, e), e, ⟨?_, share_set_other found e⟩, ?_, ?_⟩
    · rw [owners_set found e]
    · simp only [Registry.update, first, changed]
      simp [shared, isHandle, List.map_set]
    · simp only [Registry.update, second, changed]
      simp [alone, isSolo, share_set found]

theorem shared_concat (p : Place) (entries : List (Bool × Descriptor)) (d : Descriptor) :
    p.shared (entries ++ [(p.party, d)]) = (p.shared entries).push d := by
  simp [shared, Registry.push]

theorem alone_concat (p : Place) (entries : List (Bool × Descriptor)) (d : Descriptor) :
    p.alone (entries ++ [(p.party, d)]) = (p.alone entries).push d := by
  simp [alone, Registry.push, share_concat_self]

theorem names_concat (p : Place) (entries : List (Bool × Descriptor)) (d : Descriptor) :
    p.Names ((entries ++ [(p.party, d)]).map Prod.fst) ⟨(p.shared entries).size⟩
      ⟨(p.alone entries).size⟩ := by
  refine ⟨entries.length, ?_, ?_, ?_⟩
  · rw [List.map_append, List.getElem?_append_right (by simp)]
    simp
  · simp [Registry.size, shared]
  · simp [Registry.size, alone, rank, length_share]

-- Neither the name nor the bounds depend on what is registered already.
theorem register_eq (p : Place) (entries : List (Bool × Descriptor)) (group name : String)
    (start : Address) (stop : Option Address) :
    (∃ fault, (p.shared entries).register group name start stop = .error fault ∧
        (p.alone entries).register group name start stop = .error fault) ∨
      ∃ later handle solo, p.Keeps entries later ∧ p.Names (later.map Prod.fst) handle solo ∧
        (p.shared entries).register group name start stop = .ok (handle, p.shared later) ∧
        (p.alone entries).register group name start stop = .ok (solo, p.alone later) := by
  by_cases named : name = ""
  · exact .inl ⟨.emptyStubName group, by simp [Registry.register, named],
      by simp [Registry.register, named]⟩
  by_cases ordered : ∀ bound, stop = some bound → ¬ bound < start
  · refine .inr ⟨entries ++ [(p.party, .create group name start stop)], _, _, ⟨?_, ?_⟩,
      p.names_concat entries _, ?_, ?_⟩
    · rw [List.map_append]
      exact List.prefix_append ..
    · exact share_concat_other ..
    · exact Registry.register_eq_ok_iff.mpr ⟨named, ordered, rfl, rfl, p.shared_concat ..⟩
    · exact Registry.register_eq_ok_iff.mpr ⟨named, ordered, rfl, rfl, p.alone_concat ..⟩
  · push Not at ordered
    obtain ⟨bound, rfl, below⟩ := ordered
    exact .inl ⟨.unorderedBounds name start bound, by simp [Registry.register, named, below],
      by simp [Registry.register, named, below]⟩

end Place

end RuntimeStubs
