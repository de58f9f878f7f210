import RuntimeStubs.Log

/-! Listeners for published stubs.

A session tells its listener about every stub that it completes or hydrates, about the code itself
if the listener asks for that, and about every entry address of freshly generated stubs. Either the
events go to the log, or a watching party receives them, whose wish to be told about code may depend
on what it has received so far. -/

set_option autoImplicit false

namespace RuntimeStubs

inductive Event where
  | registered (name : String) (start stop : Address)
  | posted (name : String) (start stop : Address)
  | address (address : Address)
  deriving DecidableEq, Repr

def Event.diagnostic : Event → Diagnostic
  | registered name start stop => .stubRegistered name start stop
  | posted name start stop => .codePosted name start stop
  | address a => .addressPublished a

inductive Listener where
  | logging
  | watching (wantsCode : List Event → Bool)

namespace Listener

def silent : Listener := watching fun _ => false

/-- Whether the listener asks for code, given the log and the events sent to it so far. -/
def wantsCode (listener : Listener) (log : Log) (sent : List Event) : Bool :=
  match listener with
  | logging => log.enabled .trace .listener
  | watching wants => wants sent

def receive (listener : Listener) (event : Event) (log : Log) : Log :=
  match listener with
  | logging => log.report event.diagnostic
  | watching _ => log

end Listener

end RuntimeStubs
