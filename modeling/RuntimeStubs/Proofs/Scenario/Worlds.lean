import RuntimeStubs.Proofs.Bootstrap.Discretion
import RuntimeStubs.Proofs.Scenario.Settings

/-! Worlds in which more or less is reported.

Two worlds may differ in which sites list code and in their logs. An operation without a body cannot
tell them apart (`Operation.discreet_run`). -/

set_option autoImplicit false

namespace RuntimeStubs.Scenario

open RuntimeStubs.Action

variable {allowed : Prop} {L : Log → Log → Prop} {α : Type}

/-! ### Sites and worlds -/

/-- The same bootstrap over the same registry, which may list code. -/
def BootstrapSite.Discreet (allowed : Prop) (first second : BootstrapSite) : Prop :=
  ∃ listing, Switched allowed first.bootstrap.listing listing ∧
    second = { first with bootstrap := { first.bootstrap with listing := listing } }

theorem forall₂_getElem? {β : Type} {R : α → β → Prop} {xs : List α} {ys : List β}
    (related : List.Forall₂ R xs ys) (index : Nat) : Option.Rel R xs[index]? ys[index]? := by
  induction related generalizing index with
  | nil => exact .none
  | cons first _ ih =>
    cases index with
    | zero => exact .some first
    | succ index => exact ih index

theorem forall₂_set {β : Type} {R : α → β → Prop} {xs : List α} {ys : List β} {x : α} {y : β}
    (related : List.Forall₂ R xs ys) (replaced : R x y) (index : Nat) :
    List.Forall₂ R (xs.set index x) (ys.set index y) := by
  induction related generalizing index with
  | nil => exact .nil
  | cons first rest ih =>
    cases index with
    | zero => exact .cons replaced rest
    | succ index => exact .cons first (ih index)

namespace World

def Discreet (allowed : Prop) (L : Log → Log → Prop) (w v : World) : Prop :=
  ∃ sites log, List.Forall₂ (BootstrapSite.Discreet allowed) w.sites sites ∧ L w.log log ∧
    v = { w with sites := sites, log := log }

theorem discreet_modify {f : World → World}
    (blind : ∀ w sites log, f { w with sites := sites, log := log } =
      { f w with sites := sites, log := log }) :
    Couples (Discreet allowed L) (modify f) (modify f) := by
  rintro w v ⟨sites, log, related, logs, rfl⟩
  have same : f w = { f w with sites := w.sites, log := w.log } := blind w w.sites w.log
  refine ⟨rfl, sites, log, ?_, ?_, blind w sites log⟩
  · rw [modify_apply, same]
    exact related
  · rw [modify_apply, same]
    exact logs

theorem discreet_get {next : World → Action World α}
    (blind : ∀ w sites log, next { w with sites := sites, log := log } = next w)
    (rest : ∀ w, Couples (Discreet allowed L) (next w) (next w)) :
    Couples (Discreet allowed L) (get >>= next) (get >>= next) := by
  refine Couples.get ?_
  rintro w v ⟨sites, log, related, logs, rfl⟩
  rw [blind w sites log]
  exact rest w w _ ⟨sites, log, related, logs, rfl⟩

theorem discreet_ofExcept (result : Except Fault α) :
    Couples (Discreet allowed L) (ofExcept result) (ofExcept result) :=
  fun _ _ related => ⟨rfl, related⟩

theorem discreet_report (louder : Louder allowed L) (d : Diagnostic) :
    Couples (Discreet allowed L) (World.report d) (World.report d) := by
  rintro w v ⟨sites, log, related, logs, rfl⟩
  exact ⟨rfl, sites, _, related, louder.report d logs, rfl⟩

theorem discreet_onRegistry {action : Action (Registry × Log) α}
    (couples : Couples (Registry.Discreet L) action action) (registry : Nat) :
    Couples (Discreet allowed L) (World.onRegistry registry action)
      (World.onRegistry registry action) := by
  rintro w v ⟨sites, log, related, logs, rfl⟩
  obtain ⟨same, changed, logs⟩ := couples (w.numbered registry, w.log)
    (w.numbered registry, log) ⟨rfl, logs⟩
  refine ⟨same, sites, _, related, logs, ?_⟩
  change { w.setRegistry (w.registryId registry) (action (w.numbered registry, log)).2.1 with
    sites := sites, log := (action (w.numbered registry, log)).2.2 } = _
  rw [changed]
  rfl

theorem couples_stub {σ τ : Type} {R : σ → τ → Prop} (number : Nat) :
    Couples R (World.stub number) (World.stub number) := by
  rw [World.stub, World.stub]
  cases Stub.ofNumber? number with
  | some stub => exact Couples.pure stub
  | none => exact Couples.fail _

section

variable {use : Archive → Action World Answer}

theorem discreet_withArchive (name : String)
    (uses : ∀ archive, Couples (Discreet allowed L) (use archive) (use archive)) :
    Couples (Discreet allowed L) (withArchive name use) (withArchive name use) := by
  refine discreet_get (fun _ _ _ => rfl) fun w => ?_
  cases lookup name w.archives with
  | some archive => exact uses archive
  | none => exact Couples.pure _

theorem discreet_withBuffer (name : String) {use : Buffer → Action World Answer}
    (uses : ∀ buffer, Couples (Discreet allowed L) (use buffer) (use buffer)) :
    Couples (Discreet allowed L) (withBuffer name use) (withBuffer name use) := by
  refine discreet_get (fun _ _ _ => rfl) fun w => ?_
  cases lookup name w.buffers with
  | some buffer => exact uses buffer
  | none => exact Couples.pure _

theorem discreet_withHandle (index : Nat) {use : Handle → Action World Answer}
    (uses : ∀ handle, Couples (Discreet allowed L) (use handle) (use handle)) :
    Couples (Discreet allowed L) (withHandle index use) (withHandle index use) := by
  refine discreet_get (fun _ _ _ => rfl) fun w => ?_
  cases w.handles[index]? with
  | some handle => exact uses handle
  | none => exact Couples.pure _

end

theorem discreet_storeIn (louder : Louder allowed L) (name : String) (number : Nat)
    (start stop : Address) (extras : Nat) (store : Stub → Archive → Except Fault Archive) :
    Couples (Discreet allowed L) (storeIn name number start stop extras store)
      (storeIn name number start stop extras store) := by
  refine discreet_withArchive name fun archive => ?_
  refine (couples_stub number).bind fun stub => ?_
  refine (discreet_ofExcept _).bind fun stored => ?_
  refine (discreet_modify fun _ _ _ => rfl).bind fun _ => ?_
  exact (discreet_report louder _).bind fun _ => Couples.pure _

theorem discreet_restoreAs (name : String) (snapshot : Snapshot) :
    Couples (Discreet allowed L) (restoreAs name snapshot) (restoreAs name snapshot) := by
  refine (discreet_ofExcept _).bind fun archive => ?_
  exact (discreet_modify fun _ _ _ => rfl).bind fun _ => Couples.pure _

theorem discreet_emitInto (name : String) (code : List Emission) (buffer : Buffer) :
    Couples (Discreet allowed L) (emitInto name code buffer) (emitInto name code buffer) := by
  rintro w v ⟨sites, log, related, logs, rfl⟩
  rw [emitInto, emitInto]
  rcases Emission.runAll code buffer with ⟨_ | _, _⟩ <;>
    exact ⟨rfl, sites, log, related, logs, rfl⟩

theorem discreet_describe (louder : Louder allowed L) (d : Descriptor) (code : Option (List UInt8))
    (listing : Bool) :
    Couples (Discreet allowed L)
      (focus (fun w : World => w.log) (fun log w => { w with log := log })
        (aborting (Log.describe d code listing)))
      (focus (fun w => w.log) (fun log w => { w with log := log })
        (aborting (Log.describe d code listing))) := by
  rintro w v ⟨sites, log, related, logs, rfl⟩
  have unswitched : Switched allowed listing listing := .inl rfl
  obtain ⟨same, logs⟩ := louder.describe d unswitched (fun bytes _ => .inl rfl) logs
  exact ⟨congrArg Fault.ofAborting same, sites, _, related, logs, rfl⟩

end World

theorem newBootstrap_discreet (registry : Nat) (delayed : Bool) {first second : Bool}
    (switched : Switched allowed first second) :
    Couples (World.Discreet allowed L) (Operation.newBootstrap registry delayed first).run
      (Operation.newBootstrap registry delayed second).run := by
  rintro w v ⟨sites, log, related, logs, rfl⟩
  let site : BootstrapSite := ⟨Bootstrap.create delayed second, w.registryId registry⟩
  refine ⟨rfl, sites ++ [site], log, List.rel_append related (.cons ⟨second, switched, rfl⟩ .nil),
    logs, ?_⟩
  simp only [Operation.run, modify_bind, pure_apply, related.length_eq]
  rfl

def World.site? (w : World) : Option (Nat × BootstrapSite) :=
  w.site.bind fun id => (w.sites[id]?).map fun site => (id, site)

theorem World.Discreet.site? {w v : World} (related : w.Discreet allowed L v) :
    Option.Rel (fun a b => ∃ site, a.2.Discreet allowed site ∧ b = (a.1, site))
      w.site? v.site? := by
  obtain ⟨sites, log, related, -, rfl⟩ := related
  rw [World.site?, World.site?]
  cases w.site with
  | none => exact .none
  | some id =>
    have sameSite := forall₂_getElem? related id
    simp only [Option.bind_some]
    generalize w.sites[id]? = first at sameSite ⊢
    generalize sites[id]? = second at sameSite ⊢
    cases sameSite with
    | none => exact .none
    | some same => exact .some ⟨_, same, rfl⟩

theorem isGenerated_discreet (kind : Phase) :
    Couples (World.Discreet allowed L) (Operation.isGenerated kind).run
      (Operation.isGenerated kind).run := by
  have answers (w : World) : (Operation.isGenerated kind).run w =
      (.ok (match w.site? with
        | none => .missing .bootstrap
        | some (_, site) =>
          .standing (site.bootstrap.isGenerated kind) (w.registryAt site.registry).frozen), w) := by
    rw [Operation.run, get_bind, World.site?]
    cases w.site with
    | none => rfl
    | some id =>
      simp only [Option.bind_some]
      cases w.sites[id]? <;> rfl
  intro w v related
  rw [answers, answers]
  refine ⟨?_, related⟩
  have sameSite := related.site?
  obtain ⟨sites, log, -, -, rfl⟩ := related
  dsimp only
  generalize World.site? w = first at sameSite ⊢
  generalize World.site? _ = second at sameSite ⊢
  cases sameSite with
  | none => rfl
  | some same =>
    obtain ⟨_, ⟨listing, -, rfl⟩, rfl⟩ := same
    rfl

open World in
-- One case for each operation. Only the standing of a phase is read off a site, and only
-- `newBootstrap` adds one.
theorem Operation.discreet_run (louder : Louder allowed L) (operation : Operation) :
    Couples (World.Discreet allowed L) operation.run operation.run := by
  have pures (answer : Answer) : Couples (World.Discreet allowed L) (pure answer) (pure answer) :=
    Couples.pure answer
  cases operation with
  | newRegistry | newArchive | newPhaseBuffer | newScriptedSink =>
    exact (discreet_modify fun _ _ _ => rfl).bind fun _ => pures _
  | register registry group name start stop =>
    refine discreet_get (fun _ _ _ => rfl) fun w => ?_
    refine (discreet_ofExcept _).bind fun (handle, changed) => ?_
    exact (discreet_modify fun _ _ _ => rfl).bind fun _ => pures _
  | find | summary | descriptors | texts =>
    exact discreet_get (fun _ _ _ => rfl) fun w => pures _
  | descriptor | describe | contains =>
    exact discreet_withHandle _ fun handle => discreet_get (fun _ _ _ => rfl) fun w => pures _
  | freeze registry =>
    exact (discreet_onRegistry (Registry.discreet_reported louder) registry).bind fun _ => pures _
  | unfreeze registry =>
    exact (discreet_onRegistry (Registry.discreet_reported louder) registry).bind fun _ => pures _
  | statistics registry =>
    refine discreet_get (fun _ _ _ => rfl) fun w => ?_
    exact (discreet_ofExcept _).bind fun _ => pures _
  | report registry handle code listing =>
    refine discreet_withHandle _ fun handle => discreet_get (fun _ _ _ => rfl) fun w => ?_
    cases (w.numbered registry).get? handle with
    | none => exact pures _
    | some d => exact (discreet_describe louder d code listing).bind fun _ => pures _
  | store | storeWithEntry | storeWithTwoEntries => exact discreet_storeIn louder _ _ _ _ _ _
  | findStub name number =>
    refine discreet_withArchive _ fun archive => (couples_stub number).bind fun stub => ?_
    refine (discreet_ofExcept _).bind fun (hit, archive) => ?_
    refine (discreet_modify fun _ _ _ => rfl).bind fun _ => ?_
    exact (discreet_report louder _).bind fun _ => pures _
  | retrieve | retrieveAll | entryAt =>
    exact discreet_withArchive _ fun archive => (discreet_ofExcept _).bind fun _ => pures _
  | currentStub | contents | takeSnapshot =>
    exact discreet_withArchive _ fun archive => pures _
  | restoreFrom name source =>
    exact discreet_withArchive _ fun archive => discreet_restoreAs name archive.snapshot
  | restore name snapshot => exact discreet_restoreAs name snapshot
  | newBuffer name base capacity =>
    refine (discreet_ofExcept _).bind fun buffer => ?_
    exact (discreet_modify fun _ _ _ => rfl).bind fun _ => pures _
  | emit name code => exact discreet_withBuffer _ fun buffer => discreet_emitInto name code buffer
  | sink | codeBytes => exact discreet_withBuffer _ fun buffer => pures _
  | newBootstrap registry delayed listing => exact newBootstrap_discreet registry delayed (.inl rfl)
  | isGenerated kind => exact isGenerated_discreet kind

end RuntimeStubs.Scenario
