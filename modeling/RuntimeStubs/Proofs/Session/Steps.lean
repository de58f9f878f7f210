import RuntimeStubs.Proofs.Archive.Requests
import RuntimeStubs.Proofs.Registry.Calls
import RuntimeStubs.Session.Generation

/-! The steps that the operations of a session consist of.

Reports change nothing that an operation depends on but the memory of the hooks (`Silent`). Every
operation is made of reports, calls to the registry, requests to the archive, moves of the sink and
changes of the open stub; a relation between sessions that all these steps respect is respected by
the operations, however they end (`Admits`). -/

set_option autoImplicit false

namespace RuntimeStubs

namespace Action

variable {σ α β : Type} {R : σ → σ → Prop}

def Respects (R : σ → σ → Prop) (action : Action σ α) : Prop := ∀ s, R s (action s).2

theorem Respects.bind {action : Action σ α} {next : α → Action σ β}
    (trans : ∀ {a b c}, R a b → R b c → R a c) (first : action.Respects R)
    (rest : ∀ value, (next value).Respects R) : (action >>= next).Respects R := by
  intro s
  have moved := first s
  rcases ran : action s with ⟨fault | value, middle⟩
  · rw [bind_of_error ran]
    rwa [ran] at moved
  · rw [bind_of_ok ran]
    rw [ran] at moved
    exact trans moved (rest value middle)

theorem get_bind (next : σ → Action σ α) (s : σ) : (get >>= next) s = next s s := rfl

theorem modify_bind (f : σ → σ) (next : Unit → Action σ α) (s : σ) :
    (modify f >>= next) s = next () (f s) := rfl

end Action

namespace Session

variable {σ η α : Type}

/-- The second session differs from the first in reports and in what the hooks keep in mind. -/
def Silent (s t : Session σ η) : Prop :=
  ∃ memory published events log,
    t = { s with memory := memory, published := published, events := events, log := log }

theorem Silent.refl (s : Session σ η) : s.Silent s := ⟨_, _, _, _, rfl⟩

theorem Silent.trans {s t u : Session σ η} (first : s.Silent t) (second : t.Silent u) :
    s.Silent u := by
  obtain ⟨_, _, _, _, rfl⟩ := first
  obtain ⟨memory, published, events, log, rfl⟩ := second
  exact ⟨memory, published, events, log, rfl⟩

theorem report_bind (d : Diagnostic) (next : Unit → Action (Session σ η) α) (s : Session σ η) :
    (report d >>= next) s = next () { s with log := s.log.report d } := rfl

theorem pc_bind [Sink σ] (next : Address → Action (Session σ η) α) (s : Session σ η) :
    (pc >>= next) s = next (Sink.pc s.sink) s := rfl

theorem silent_tell (event : Event) (s : Session σ η) : s.Silent (s.tell event) :=
  ⟨_, _, _, _, rfl⟩

theorem silent_tellAll (events : List Event) (s : Session σ η) : s.Silent (tellAll events s) := by
  induction events generalizing s with
  | nil => exact .refl s
  | cons event rest ih => exact (silent_tell event s).trans (ih (s.tell event))

-- The listener may ask for the code as well, which depends on what it has been told already.
theorem publish_eq (d : Descriptor) (s : Session σ η) :
    ∃ t, publish d s = (.ok (), t) ∧ s.Silent t := by
  refine ⟨_, rfl, ?_⟩
  have counted : s.Silent { s with published := s.published + 1 } := ⟨_, _, _, _, rfl⟩
  have told := counted.trans (silent_tell (.registered d.name d.start d.stopOrStart) _)
  dsimp only
  split
  · exact told.trans (silent_tell ..)
  · exact told

theorem silent_describe (d : Descriptor) (code : Option (List UInt8)) (s : Session σ η) :
    s.Silent (describe d code s).2 := ⟨_, _, _, _, rfl⟩

-- Without code there is nothing to list and nothing that could abort.
theorem describe_none_eq (d : Descriptor) (s : Session σ η) :
    ∃ t, describe d none s = (.ok (), t) ∧ s.Silent t := by
  refine ⟨(describe d none s).2, Prod.ext ?_ rfl, silent_describe d none s⟩
  cases listing : s.listing <;>
    simp [describe, Action.bind_apply, onLog, Log.describe, listing, Fault.ofAborting]

theorem silent_runEpilog (d : Descriptor) (s : Session σ η) : s.Silent (runEpilog d s).2 :=
  ⟨_, _, _, _, rfl⟩

theorem onRegistry_eq_ok_iff {change : Registry → Except Fault (α × Registry)} {value : α}
    {s t : Session σ η} :
    onRegistry change s = (.ok value, t) ↔
      ∃ registry, change s.registry = .ok (value, registry) ∧
        t = { s with registry := registry } := by
  rw [onRegistry]
  cases change s.registry with
  | error fault => simp
  | ok result => simp [eq_comm, Prod.ext_iff]

theorem onRegistry_snd (change : Registry → Except Fault (α × Registry)) (s : Session σ η) :
    (onRegistry change s).2 = { s with registry := s.registry.settle (change s.registry) } := by
  rw [onRegistry]
  cases change s.registry with
  | error fault => rfl
  | ok result => rfl

section

variable [Sink σ]

theorem displacement_eq (start : Address) (s : Session σ η) :
    ∃ t, displacement start s = (.ok ((start.offsetFrom (Sink.base s.sink)).getD 0), t) ∧
      s.Silent t := by
  rw [displacement, Action.bind_of_ok (Action.get_apply s)]
  cases start.offsetFrom (Sink.base s.sink) with
  | some offset => exact ⟨s, rfl, .refl s⟩
  | none => exact ⟨_, rfl, ⟨_, _, _, _, rfl⟩⟩

theorem runProlog_standard {s : Session σ η} (standard : s.hooks = .standard) (d : Descriptor) :
    runProlog d s = (.ok (), s) := by
  rw [runProlog, Action.get_bind, standard]
  rfl

theorem runEpilog_standard {s : Session σ η} (standard : s.hooks = .standard) (d : Descriptor) :
    runEpilog d s = describe d (Sink.codeBytes s.sink d.start d.stopOrStart) s := by
  rw [runEpilog, describe, Action.get_bind, Action.get_bind, standard]
  rfl

/-! ### What every step respects -/

-- A relation is checked for each kind of step once. The operations themselves are never unfolded
-- again for a property that holds however they end.
/-- A relation that every step of an operation respects. -/
structure Admits (R : Session σ η → Session σ η → Prop) : Prop where
  refl : ∀ s, R s s
  trans : ∀ {s t u}, R s t → R t u → R s u
  silent : ∀ {s t}, s.Silent t → R s t
  flush : ∀ s, R s (flush s).2
  prolog : ∀ d s, R s (runProlog d s).2
  call : ∀ s call, R s { s with registry := s.registry.call call }
  request : ∀ s a request, s.archive = some a →
    R s { s with archive := some (a.serve request).2 }
  active : ∀ s active, R s { s with active := active }

namespace Admits

variable {R : Session σ η → Session σ η → Prop}

theorem bind (admits : Admits R) {β : Type} {action : Action (Session σ η) α}
    {next : α → Action (Session σ η) β} (first : action.Respects R)
    (rest : ∀ value, (next value).Respects R) : (action >>= next).Respects R :=
  first.bind admits.trans rest

theorem pure (admits : Admits R) (value : α) :
    (Pure.pure value : Action (Session σ η) α).Respects R := admits.refl

theorem fail (admits : Admits R) (fault : Fault) :
    (Action.fail fault : Action (Session σ η) α).Respects R := admits.refl

theorem get (admits : Admits R) : (Action.get : Action (Session σ η) _).Respects R := admits.refl

theorem pc (admits : Admits R) : (Session.pc : Action (Session σ η) Address).Respects R :=
  admits.refl

theorem descriptor (admits : Admits R) (handle : Handle) :
    (Session.descriptor handle : Action (Session σ η) _).Respects R := admits.refl

theorem report (admits : Admits R) (d : Diagnostic) :
    (Session.report d : Action (Session σ η) Unit).Respects R := fun s =>
  admits.silent ⟨s.memory, s.published, s.events, s.log.report d, rfl⟩

theorem publish (admits : Admits R) (d : Descriptor) :
    (Session.publish d : Action (Session σ η) Unit).Respects R := by
  intro s
  obtain ⟨t, published, silent⟩ := publish_eq d s
  rw [published]
  exact admits.silent silent

theorem displacement (admits : Admits R) (start : Address) :
    (Session.displacement start : Action (Session σ η) Nat).Respects R := by
  intro s
  obtain ⟨t, displaced, silent⟩ := displacement_eq start s
  rw [displaced]
  exact admits.silent silent

theorem onRegistry (admits : Admits R) {change : Registry → Except Fault (α × Registry)}
    (call : RegistryCall) (same : ∀ r : Registry, r.call call = r.settle (change r)) :
    (Session.onRegistry change : Action (Session σ η) α).Respects R := by
  intro s
  rw [onRegistry_snd, ← same]
  exact admits.call s call

theorem setActive (admits : Admits R) (active : Option Handle) :
    (Action.modify fun s : Session σ η => { s with active := active }).Respects R := fun s =>
  admits.active s active

end Admits

end

end Session

end RuntimeStubs
