import RuntimeStubs.Archive.Snapshot
import RuntimeStubs.Scenario.Emission

/-! Scenarios: commands that exercise registries, archives, buffers, sessions and bootstraps.

Registries are numbered, archives and buffers have names. A command that opens a session has a body
of steps, which are operations of that session or further commands, so that sessions and phases can
be nested. -/

set_option autoImplicit false

namespace RuntimeStubs.Scenario

/-- Commands without a body. Stubs are given by number and descriptors by the place of their handle
among all handles that the scenario has obtained. -/
inductive Operation where
  | newRegistry (registry : Nat)
  | register (registry : Nat) (group name : String) (start : Address) (stop : Option Address)
  | find (registry : Nat) (pc : Address)
  | descriptor (registry handle : Nat)
  | describe (registry handle : Nat)
  | contains (registry handle : Nat) (pc : Address)
  | freeze (registry : Nat)
  | unfreeze (registry : Nat)
  | summary (registry : Nat)
  | descriptors (registry : Nat)
  | texts (registry : Nat)
  | statistics (registry : Nat)
  | report (registry handle : Nat) (code : Option (List UInt8)) (listing : Bool)
  | newArchive (archive : String) (kind : Phase)
  | store (archive : String) (stub : Nat) (start stop : Address) (extras : List Address)
  | storeWithEntry (archive : String) (stub : Nat) (start entry stop : Address)
  | storeWithTwoEntries (archive : String) (stub : Nat) (start first second stop : Address)
  | findStub (archive : String) (stub : Nat)
  | retrieve (archive : String) (extra : Nat)
  | retrieveAll (archive : String)
  | entryAt (archive : String) (index : UInt64)
  | currentStub (archive : String)
  | contents (archive : String)
  | takeSnapshot (archive : String)
  | restoreFrom (archive source : String)
  | restore (archive : String) (snapshot : Snapshot)
  | newBuffer (buffer : String) (base : Address) (capacity : Nat)
  | newPhaseBuffer (buffer : String) (base : Address) (kind : Phase)
  | newScriptedSink (buffer : String) (base cursor : Address)
  | emit (buffer : String) (code : List Emission)
  | sink (buffer : String)
  | codeBytes (buffer : String) (start stop : Address)
  | newBootstrap (registry : Nat) (delayed listing : Bool)
  | isGenerated (kind : Phase)
  deriving Repr

/-- Operations on the session whose body they stand in. Marks are numbered in the order in which
they were obtained. -/
inductive SessionOperation where
  | openStub (group name : String)
  | closeStub (mark : Nat)
  | emit (code : List Emission)
  | generate (stub extra : Nat) (code : List Emission)
  | hydrate (stub extra : Nat)
  | commit (stub : Nat) (start stop : Address) (extras : List Address)
  | published
  | registrySize
  | sink
  deriving Repr

inductive ListenerKind where
  | silent
  | logging
  | recording (wantsCode : Bool)
  deriving DecidableEq, Repr

inductive HookKind where
  | standard
  | prolog (code : List Emission)
  /-- Emits code in front of every stub and keeps the calls; the epilog reports nothing. -/
  | recording (code : List Emission)
  deriving DecidableEq, Repr

structure Setup where
  buffer : String
  archive : Option String
  listener : ListenerKind
  /-- A failing step does not end the body. -/
  keepGoing : Bool
  deriving Repr

mutual

inductive Command where
  | operation (operation : Operation)
  | phase (kind : Phase) (setup : Setup) (body : List BodyStep)
  | generator (registry : Nat) (setup : Setup) (hooks : HookKind) (listing : Bool)
      (body : List BodyStep)

inductive BodyStep where
  | session (operation : SessionOperation)
  | outer (command : Command)

end

end RuntimeStubs.Scenario
