import RuntimeStubs.Bootstrap
import RuntimeStubs.Scenario.Command
import RuntimeStubs.Session.Generation
import RuntimeStubs.Statistics

/-! The world of a scenario, and the answers of its operations.

A number of a registry can be bound to a fresh registry, while a bootstrap or a session goes on with
the one it was made for; registries therefore have identities, which are their places in one list.
The archive and the buffer of a session are not in the world as long as its body runs. -/

set_option autoImplicit false

namespace RuntimeStubs.Scenario

inductive HookCall where
  | prolog (descriptor : Descriptor)
  | epilog (descriptor : Descriptor) (listing : Bool) (code : Option (List UInt8))
  deriving DecidableEq, Repr

inductive Missing where
  | archive
  | buffer
  | handle
  | mark
  | descriptor
  | bootstrap
  deriving DecidableEq, Repr

def Missing.message : Missing → String
  | archive => "no such archive"
  | buffer => "no such buffer"
  | handle => "no such handle"
  | mark => "no such mark"
  | descriptor => "no such descriptor"
  | bootstrap => "no routines"

inductive Answer where
  | nothing
  | missing (what : Missing)
  | handle (handle : Handle)
  | descriptor (descriptor : Descriptor)
  | descriptor? (descriptor : Option Descriptor)
  | text? (text : Option String)
  | flag (flag : Bool)
  | flag? (flag : Option Bool)
  | registry (size : Nat) (frozen : Bool)
  | descriptors (descriptors : List Descriptor)
  | texts (texts : List String)
  | statistics (statistics : Statistics)
  | archived (archived : ArchivedStub)
  | address (address : Address)
  | stub? (stub : Option Stub)
  | archive (archive : Archive)
  | snapshot (snapshot : Snapshot)
  | count (count : Nat)
  | emitted (entries : List Address) (pc : Address)
  | sink (buffer : Buffer)
  | bytes? (bytes : Option (List UInt8))
  | standing (generated frozen : Bool)
  | mark (mark : Mark)
  | entries? (entries : Option StubEntries)
  /-- The fault of the whole session, the results of its steps, the number of stubs published and
  whether an archive is attached if the body ran, what the listener and the hooks have kept, and the
  cursor of the buffer. -/
  | session (fault : Option Fault) (steps : List (Except Fault Answer))
      (standing : Option (Nat × Bool)) (events : Option (List Event))
      (calls : Option (List HookCall)) (pc : Address)

structure BootstrapSite where
  bootstrap : Bootstrap
  registry : Nat

structure World where
  registries : List Registry
  /-- The identity of the registry that each number is bound to. -/
  bindings : List Nat
  sites : List BootstrapSite
  site : Option Nat
  archives : List (String × Archive)
  buffers : List (String × Buffer)
  handles : List Handle
  /-- A mark is gone once it has been used. -/
  marks : List (Option Mark)
  log : Log

namespace World

variable {α : Type}

/-- Two empty registries and nothing else. -/
def create (filter : Filter) : World :=
  ⟨[Registry.empty, Registry.empty], [0, 1], [], none, [], [], [], [], Log.create filter⟩

def registryId (registry : Nat) (w : World) : Nat := w.bindings.getD registry 0

def registryAt (id : Nat) (w : World) : Registry := w.registries.getD id Registry.empty

def setRegistry (id : Nat) (registry : Registry) (w : World) : World :=
  { w with registries := w.registries.set id registry }

def numbered (registry : Nat) (w : World) : Registry := w.registryAt (w.registryId registry)

def lookup {α : Type} (name : String) (entries : List (String × α)) : Option α :=
  (entries.find? fun entry => entry.1 == name).map Prod.snd

def insert {α : Type} (name : String) (value : α) (entries : List (String × α)) :
    List (String × α) := (name, value) :: entries.filter fun entry => entry.1 != name

def erase {α : Type} (name : String) (entries : List (String × α)) : List (String × α) :=
  entries.filter fun entry => entry.1 != name

def putArchive (name : String) (archive : Archive) (w : World) : World :=
  { w with archives := insert name archive w.archives }

def putBuffer (name : String) (buffer : Buffer) (w : World) : World :=
  { w with buffers := insert name buffer w.buffers }

def addHandle (handle : Handle) (w : World) : World := { w with handles := w.handles ++ [handle] }

def report (d : Diagnostic) : Action World Unit :=
  Action.modify fun w => { w with log := w.log.report d }

def onRegistry (registry : Nat) (action : Action (Registry × Log) α) : Action World α := fun w =>
  match action (w.numbered registry, w.log) with
  | (result, changed) =>
    (result, { w.setRegistry (w.registryId registry) changed.1 with log := changed.2 })

def withArchive (name : String) (use : Archive → Action World Answer) : Action World Answer := do
  let w ← Action.get
  match lookup name w.archives with
  | some archive => use archive
  | none => return .missing .archive

def withBuffer (name : String) (use : Buffer → Action World Answer) : Action World Answer := do
  let w ← Action.get
  match lookup name w.buffers with
  | some buffer => use buffer
  | none => return .missing .buffer

def withHandle (index : Nat) (use : Handle → Action World Answer) : Action World Answer := do
  let w ← Action.get
  match w.handles[index]? with
  | some handle => use handle
  | none => return .missing .handle

def stub {σ : Type} (number : Nat) : Action σ Stub :=
  match Stub.ofNumber? number with
  | some stub => return stub
  | none => Action.fail (.unknownStub number)

def storeIn (name : String) (number : Nat) (start stop : Address) (extras : Nat)
    (store : Stub → Archive → Except Fault Archive) : Action World Answer :=
  withArchive name fun archive => do
    let stub ← stub number
    let stored ← Action.ofExcept (store stub archive)
    Action.modify (putArchive name stored)
    report (.archived stub start stop extras archive.addresses.length)
    return .nothing

def restoreAs (name : String) (snapshot : Snapshot) : Action World Answer := do
  let archive ← Action.ofExcept (Archive.ofSnapshot snapshot)
  Action.modify (putArchive name archive)
  return .count archive.storedCount

/-- Emits into a named buffer and keeps what was emitted before a failure. -/
def emitInto (name : String) (code : List Emission) (buffer : Buffer) : Action World Answer :=
  fun w =>
    match Emission.runAll code buffer with
    | (.ok entries, buffer) => (.ok (.emitted entries buffer.pc), w.putBuffer name buffer)
    | (.error fault, buffer) => (.error fault, w.putBuffer name buffer)

end World

open World in
def Operation.run : Operation → Action World Answer
  | newRegistry registry => do
    Action.modify fun w => { w with
      registries := w.registries ++ [Registry.empty]
      bindings := w.bindings.set registry w.registries.length }
    return .nothing
  | register registry group name start stop => do
    let w ← Action.get
    let (handle, changed) ←
      Action.ofExcept ((w.numbered registry).register group name start stop)
    Action.modify fun w => (w.setRegistry (w.registryId registry) changed).addHandle handle
    return .handle handle
  | find registry pc => do
    let w ← Action.get
    return .descriptor? ((w.numbered registry).find? pc)
  | descriptor registry handle => withHandle handle fun handle => do
    let w ← Action.get
    return .descriptor? ((w.numbered registry).get? handle)
  | describe registry handle => withHandle handle fun handle => do
    let w ← Action.get
    return .text? (((w.numbered registry).get? handle).map Descriptor.toText)
  | contains registry handle pc => withHandle handle fun handle => do
    let w ← Action.get
    return .flag? (((w.numbered registry).get? handle).map fun d => d.contains pc)
  | freeze registry => do
    onRegistry registry Registry.freezing
    return .nothing
  | unfreeze registry => do
    onRegistry registry Registry.unfreezing
    return .nothing
  | summary registry => do
    let w ← Action.get
    return .registry (w.numbered registry).size (w.numbered registry).frozen
  | descriptors registry => do
    let w ← Action.get
    return .descriptors (w.numbered registry).newestFirst
  | texts registry => do
    let w ← Action.get
    return .texts ((w.numbered registry).newestFirst.map Descriptor.toText)
  | statistics registry => do
    let w ← Action.get
    let statistics ← Action.ofExcept
      (Fault.ofAborting (Statistics.collect (w.numbered registry)))
    return .statistics statistics
  | report registry handle code listing => withHandle handle fun handle => do
    let w ← Action.get
    match (w.numbered registry).get? handle with
    | none => return .missing .descriptor
    | some d => do
      Action.focus (fun w => w.log) (fun log w => { w with log := log })
        (Action.aborting (Log.describe d code listing))
      return .nothing
  | newArchive archive kind => do
    Action.modify (putArchive archive (Archive.create kind))
    return .nothing
  | store name number start stop extras =>
    storeIn name number start stop extras.length fun stub => Archive.store stub start stop extras
  | storeWithEntry name number start entry stop =>
    storeIn name number start stop 1 fun stub => Archive.storeWithEntry stub start entry stop
  | storeWithTwoEntries name number start first second stop =>
    storeIn name number start stop 2 fun stub =>
      Archive.storeWithTwoEntries stub start first second stop
  | findStub name number => withArchive name fun archive => do
    let stub ← stub number
    let (hit, archive) ← Action.ofExcept (archive.find stub)
    Action.modify (putArchive name archive)
    World.report (.archiveLookup archive.kind stub hit)
    return .flag hit
  | retrieve name extra => withArchive name fun archive => do
    let archived ← Action.ofExcept (archive.retrieve extra)
    return .archived archived
  | retrieveAll name => withArchive name fun archive => do
    let archived ← Action.ofExcept archive.retrieveAll
    return .archived archived
  | entryAt name index => withArchive name fun archive => do
    let address ← Action.ofExcept (archive.entry index)
    return .address address
  | currentStub name => withArchive name fun archive => return .stub? archive.current
  | contents name => withArchive name fun archive => return .archive archive
  | takeSnapshot name => withArchive name fun archive => return .snapshot archive.snapshot
  | restoreFrom name source => withArchive source fun archive => restoreAs name archive.snapshot
  | restore name snapshot => restoreAs name snapshot
  | newBuffer name base capacity => do
    let buffer ← Action.ofExcept (Fault.ofAborting (CodeBuffer.allocate base capacity))
    Action.modify (putBuffer name (.code buffer))
    return .nothing
  | newPhaseBuffer name base kind => do
    Action.modify (putBuffer name (.code (CodeBuffer.forPhase kind base)))
    return .nothing
  | newScriptedSink name base cursor => do
    Action.modify (putBuffer name (.scripted ⟨base, cursor, none⟩))
    return .nothing
  | emit name code => withBuffer name (emitInto name code)
  | sink name => withBuffer name fun buffer => return .sink buffer
  | codeBytes name start stop => withBuffer name fun buffer =>
    return .bytes? (buffer.codeBytes start stop)
  | newBootstrap registry delayed listing => do
    Action.modify fun w => { w with
      sites := w.sites ++ [⟨Bootstrap.create delayed listing, w.registryId registry⟩]
      site := some w.sites.length }
    return .nothing
  | isGenerated kind => do
    let w ← Action.get
    match w.site.bind fun site => w.sites[site]? with
    | none => return .missing .bootstrap
    | some site =>
      return .standing (site.bootstrap.isGenerated kind) (w.registryAt site.registry).frozen

end RuntimeStubs.Scenario
