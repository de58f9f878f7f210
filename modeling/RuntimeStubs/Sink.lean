import RuntimeStubs.Action

/-! What a generation session asks of the buffer that stubs are emitted into. -/

set_option autoImplicit false

namespace RuntimeStubs

class Sink (σ : Type) where
  /-- The write cursor. Code that has not been flushed is not counted. -/
  pc : σ → Address
  base : σ → Address
  /-- Commits what is pending, so that the cursor lies behind it. -/
  flush : Action σ Unit
  /-- The committed bytes from one address up to another, if the buffer holds that range. -/
  codeBytes : σ → Address → Address → Option (List UInt8)

end RuntimeStubs
