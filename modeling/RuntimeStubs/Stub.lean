import RuntimeStubs.Phase

/-! The closed set of runtime stubs.

Every stub belongs to one phase, and the stubs of a phase are numbered one after the other, in the
order of `Stub.all`. This order is the identity of a stub across runs: an archive means the same
only to a table that lists the same stubs in the same order. -/

set_option autoImplicit false

namespace RuntimeStubs

inductive Stub where
  | callStub
  | forwardException
  | catchException
  | getPreviousSp
  | verifyMxcsr
  | f2iFixup
  | f2lFixup
  | d2iFixup
  | d2lFixup
  | fence
  | updateBytesCrc32
  | updateBytesCrc32c
  | contThaw
  | contReturnBarrier
  | contReturnBarrierException
  | base64EncodeBlock
  | base64DecodeBlock
  | sha256ImplCompress
  | md5ImplCompress
  | updateBytesAdler32
  | ghashProcessBlocks
  | chacha20Block
  | poly1305ProcessBlocks
  | arraysHashcode
  | verifyOop
  | jbyteArraycopy
  | jintArraycopy
  | jlongArraycopy
  | checkcastArraycopy
  | genericArraycopy
  | methodEntryBarrier
  | upcallStubExceptionHandler
  deriving DecidableEq, Repr, Inhabited

namespace Stub

def all : List Stub :=
  [callStub, forwardException, catchException, getPreviousSp, verifyMxcsr, f2iFixup, f2lFixup,
    d2iFixup, d2lFixup, fence, updateBytesCrc32, updateBytesCrc32c, contThaw, contReturnBarrier,
    contReturnBarrierException, base64EncodeBlock, base64DecodeBlock, sha256ImplCompress,
    md5ImplCompress, updateBytesAdler32, ghashProcessBlocks, chacha20Block, poly1305ProcessBlocks,
    arraysHashcode, verifyOop, jbyteArraycopy, jintArraycopy, jlongArraycopy, checkcastArraycopy,
    genericArraycopy, methodEntryBarrier, upcallStubExceptionHandler]

theorem mem_all (stub : Stub) : stub ∈ all := by cases stub <;> decide

theorem nodup_all : all.Nodup := by decide

def name : Stub → String
  | callStub => "call_stub"
  | forwardException => "forward_exception"
  | catchException => "catch_exception"
  | getPreviousSp => "get_previous_sp"
  | verifyMxcsr => "verify_mxcsr"
  | f2iFixup => "f2i_fixup"
  | f2lFixup => "f2l_fixup"
  | d2iFixup => "d2i_fixup"
  | d2lFixup => "d2l_fixup"
  | fence => "fence"
  | updateBytesCrc32 => "updateBytesCRC32"
  | updateBytesCrc32c => "updateBytesCRC32C"
  | contThaw => "Thaw"
  | contReturnBarrier => "Cont thaw return barrier"
  | contReturnBarrierException => "Cont thaw return barrier exception"
  | base64EncodeBlock => "base64_encodeBlock"
  | base64DecodeBlock => "base64_decodeBlock"
  | sha256ImplCompress => "sha256_implCompress"
  | md5ImplCompress => "md5_implCompress"
  | updateBytesAdler32 => "updateBytesAdler32"
  | ghashProcessBlocks => "ghash_processBlocks"
  | chacha20Block => "chacha20Block"
  | poly1305ProcessBlocks => "poly1305_processBlocks"
  | arraysHashcode => "arrays_hashcode"
  | verifyOop => "verify_oop"
  | jbyteArraycopy => "jbyte_arraycopy"
  | jintArraycopy => "jint_arraycopy"
  | jlongArraycopy => "jlong_arraycopy"
  | checkcastArraycopy => "checkcast_arraycopy"
  | genericArraycopy => "generic_arraycopy"
  | methodEntryBarrier => "method_entry_barrier"
  | upcallStubExceptionHandler => "upcall_stub_exception_handler"

def phase : Stub → Phase
  | callStub | forwardException | catchException | getPreviousSp | verifyMxcsr | f2iFixup
  | f2lFixup | d2iFixup | d2lFixup | fence | updateBytesCrc32 | updateBytesCrc32c => .initial
  | contThaw | contReturnBarrier | contReturnBarrierException => .continuation
  | base64EncodeBlock | base64DecodeBlock | sha256ImplCompress | md5ImplCompress
  | updateBytesAdler32 | ghashProcessBlocks | chacha20Block | poly1305ProcessBlocks
  | arraysHashcode => .compiler
  | verifyOop | jbyteArraycopy | jintArraycopy | jlongArraycopy | checkcastArraycopy
  | genericArraycopy | methodEntryBarrier | upcallStubExceptionHandler => .final

def number (stub : Stub) : Nat := all.idxOf stub

def ofNumber? (n : Nat) : Option Stub := all[n]?

theorem ofNumber?_number (stub : Stub) : ofNumber? stub.number = some stub := by
  cases stub <;> decide

def toText (stub : Stub) : String := s!"{stub.name} ({stub.number})"

instance : ToString Stub := ⟨toText⟩

end Stub

namespace Phase

def stubs (kind : Phase) : List Stub := Stub.all.filter fun stub => stub.phase == kind

def stubCount (kind : Phase) : Nat := kind.stubs.length

def stubAt? (kind : Phase) (index : Nat) : Option Stub := kind.stubs[index]?

theorem mem_stubs {kind : Phase} {stub : Stub} : stub ∈ kind.stubs ↔ stub.phase = kind := by
  simp [stubs, Stub.mem_all]

end Phase

def Stub.localIndex (stub : Stub) : Nat := stub.phase.stubs.idxOf stub

theorem Stub.localIndex_lt (stub : Stub) : stub.localIndex < stub.phase.stubCount :=
  List.idxOf_lt_length_of_mem (Phase.mem_stubs.mpr rfl)

theorem Stub.stubAt?_localIndex (stub : Stub) :
    stub.phase.stubAt? stub.localIndex = some stub := by
  cases stub <;> decide

theorem Stub.localIndex_inj {a b : Stub} (kind : a.phase = b.phase)
    (index : a.localIndex = b.localIndex) : a = b := by
  have atA := a.stubAt?_localIndex
  rw [kind, index, b.stubAt?_localIndex] at atA
  exact (Option.some.inj atA).symm

end RuntimeStubs
