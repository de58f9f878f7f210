import RuntimeStubs.Code.Listing
import RuntimeStubs.Descriptor
import RuntimeStubs.Options

/-! What is reported while stubs are generated, kept in archives and looked up.

A diagnostic is the thing that happened, with its data. Its severity, the part of the program that
reports it and its wording are functions of it. -/

set_option autoImplicit false

namespace RuntimeStubs

inductive Level where
  | error
  | warn
  | info
  | debug
  | trace
  deriving DecidableEq, Repr

namespace Level

/-- Less severe levels have higher ranks. -/
def rank : Level → Nat
  | error => 1
  | warn => 2
  | info => 3
  | debug => 4
  | trace => 5

def name : Level → String
  | error => "ERROR"
  | warn => "WARN"
  | info => "INFO"
  | debug => "DEBUG"
  | trace => "TRACE"

def all : List Level := [error, warn, info, debug, trace]

end Level

inductive Source where
  | archive
  | registry
  | session
  | listener
  | bootstrap
  | program
  deriving DecidableEq, Repr

def Source.target : Source → String
  | archive => "stubcode::core::archive"
  | registry => "stubcode::core::registry"
  | session => "stubcode::core::session"
  | listener => "stubcode::core::listener"
  | bootstrap => "stubcode::routines"
  | program => "stubgen"

inductive Diagnostic where
  | archiveLookup (kind : Phase) (stub : Stub) (hit : Bool)
  | archived (stub : Stub) (start stop : Address) (extras position : Nat)
  | frozen (descriptors : Nat)
  | unfrozen
  | generating (group name : String)
  | hydrated (name : String)
  | belowBase (start base : Address)
  | described (descriptor : Descriptor)
  | listed (descriptor : Descriptor) (lines : List ListingLine)
  | codeUnavailable (descriptor : Descriptor)
  | stubRegistered (name : String) (start stop : Address)
  | codePosted (name : String) (start stop : Address)
  | addressPublished (address : Address)
  | reopening
  | phaseStarted (kind : Phase)
  | phaseDone (kind : Phase) (published : Nat)
  | optionsChosen (options : Options)
  | archiveRestored (kind : Phase) (stubs addresses : Nat)
  | regenerated (stubs : Nat)
  | failed (fault : Fault)
  deriving DecidableEq, Repr

namespace Diagnostic

def source : Diagnostic → Source
  | archiveLookup .. | archived .. => .archive
  | frozen .. | unfrozen => .registry
  | generating .. | hydrated .. | belowBase .. | described .. | listed .. | codeUnavailable .. =>
    .session
  | stubRegistered .. | codePosted .. | addressPublished .. => .listener
  | reopening | phaseStarted .. | phaseDone .. => .bootstrap
  | optionsChosen .. | archiveRestored .. | regenerated .. | failed .. => .program

def level : Diagnostic → Level
  | archiveLookup .. | archived .. | frozen .. | unfrozen | generating .. | hydrated ..
  | stubRegistered .. | codePosted .. | addressPublished .. => .trace
  | described .. | reopening | optionsChosen .. => .debug
  | listed .. | codeUnavailable .. | phaseStarted .. | phaseDone .. | archiveRestored .. => .info
  | belowBase .. | regenerated .. => .warn
  | failed .. => .error

def listingText (descriptor : Descriptor) (lines : List ListingLine) : String :=
  "- - - [BEGIN] - - - - - - - - - -\n" ++ descriptor.toText ++ "\n" ++
    String.join (lines.map fun line => line.toText ++ "\n") ++
    "- - - [END] - - - - - - - - - -"

def message : Diagnostic → String
  | archiveLookup kind stub hit =>
    s!"archive {kind} lookup for {stub}: " ++ if hit then "hit" else "miss"
  | archived stub start stop extras position =>
    s!"archived {stub}: [{start}, {stop}) with {extras} extra entries at index {position}"
  | frozen descriptors => s!"stub registry frozen with {descriptors} descriptors"
  | unfrozen => "stub registry unfrozen"
  | generating group name => s!"{group}::{name} generating"
  | hydrated name => s!"{name} hydrated from archive"
  | belowBase start base => s!"stub at {start} lies below buffer base {base}"
  | described descriptor => descriptor.toText
  | listed descriptor lines => listingText descriptor lines
  | codeUnavailable descriptor => descriptor.toText ++ " (no code available)"
  | stubRegistered name start stop => s!"register stub {name} [{start}, {stop})"
  | codePosted name start stop => s!"dynamic code generated: {name} [{start}, {stop})"
  | addressPublished address => s!"stub address published: {address}"
  | reopening => "unfreezing stub registry for delayed compiler stubs"
  | phaseStarted kind => s!"generating {kind} stubs ({kind.stubCount} declared)"
  | phaseDone kind published => s!"{kind} stubs done: {published} descriptors registered"
  | optionsChosen options => s!"stub generation options: {options}"
  | archiveRestored kind stubs addresses =>
    s!"{kind} archive: {stubs} stubs, {addresses} addresses"
  | regenerated stubs => s!"{stubs} stubs were regenerated despite a complete archive"
  | failed fault => "stub generation failed: " ++ fault.message

end Diagnostic

end RuntimeStubs
