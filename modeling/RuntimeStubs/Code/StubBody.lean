import RuntimeStubs.Code.Buffer
import RuntimeStubs.Stub

/-! The code of every stub, and the entry points it has besides its start. -/

set_option autoImplicit false

namespace RuntimeStubs.Stub

def extraEntries : Stub → Nat
  | callStub | jbyteArraycopy | jintArraycopy | jlongArraycopy => 1
  | _ => 0

def queue (instructions : List Instruction) : Action CodeBuffer Unit :=
  Action.modify fun b => instructions.foldl (fun b i => b.push i) b

def entryPoint : Action CodeBuffer Address := do
  CodeBuffer.flush
  let b ← Action.get
  return b.pc

/-- Queues the code of a stub and answers with its further entry points: the return address of
frames that are entered through the call stub, and the place at which the frame of an array copy is
already set up. -/
def emitBody : Stub → Action CodeBuffer (List Address)
  | callStub => do
    Action.modify (·.pushPrologue 16)
    queue [.saveRdi, .callRdx]
    let entry ← entryPoint
    queue [.restoreRdi]
    Action.modify (·.pushEpilogue 16)
    return [entry]
  | getPreviousSp => do
    queue [.leaRaxRsp8, .ret]
    return []
  | fence => do
    queue [.mfence, .ret]
    return []
  | verifyMxcsr => do
    queue [.subRsp 8, .stmxcsrRsp, .movEaxRsp, .addRsp 8, .ret]
    return []
  | jbyteArraycopy | jintArraycopy | jlongArraycopy => do
    Action.modify (·.pushPrologue 0)
    let entry ← entryPoint
    queue [.movRcxRdx, .xorEaxEax]
    Action.modify (·.pushEpilogue 0)
    return [entry]
  | _ => do
    Action.modify (·.pushPrologue 0)
    queue [.xorEaxEax]
    Action.modify (·.pushEpilogue 0)
    return []

end RuntimeStubs.Stub
