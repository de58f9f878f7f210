import RuntimeStubs.Proofs.Archive.Validation

/-! Requests to archives, and the archives that they lead to.

A client asks an archive one thing after the other; what a request answers and what it leaves behind
are those of the operation of its name, and a request that fails leaves the archive as it was. The
look-up of a single entry point is not among the requests: it changes nothing. Every reachable
archive, be it new or restored, is sound. -/

set_option autoImplicit false

namespace RuntimeStubs.Archive

inductive Request where
  | find (stub : Stub)
  | store (stub : Stub) (start stop : Address) (extras : List Address)
  | storeWithEntry (stub : Stub) (start entry stop : Address)
  | storeWithTwoEntries (stub : Stub) (start first second stop : Address)
  | retrieve (extra : Nat)
  | retrieveAll
  deriving DecidableEq, Repr

inductive Answer where
  | hit (hit : Bool)
  | stored
  | addresses (archived : ArchivedStub)
  deriving DecidableEq, Repr

/-- Serves requests one after the other, going on after a failure. -/
def Request.serveAll {σ : Type} (serve : Request → σ → Except Fault Answer × σ) :
    List Request → σ → List (Except Fault Answer) × σ
  | [], s => ([], s)
  | request :: rest, s =>
    let (answer, s) := serve request s
    let (answers, s) := serveAll serve rest s
    (answer :: answers, s)

def settle (a : Archive) : Except Fault Archive → Except Fault Answer × Archive
  | .ok changed => (.ok .stored, changed)
  | .error fault => (.error fault, a)

def serve : Request → Archive → Except Fault Answer × Archive
  | .find stub, a =>
    match a.find stub with
    | .ok (hit, found) => (.ok (.hit hit), found)
    | .error fault => (.error fault, a)
  | .store stub start stop extras, a => a.settle (a.store stub start stop extras)
  | .storeWithEntry stub start entry stop, a => a.settle (a.storeWithEntry stub start entry stop)
  | .storeWithTwoEntries stub start first second stop, a =>
    a.settle (a.storeWithTwoEntries stub start first second stop)
  | .retrieve extra, a => ((a.retrieve extra).map .addresses, a)
  | .retrieveAll, a => (a.retrieveAll.map .addresses, a)

/-- The archives that clients can come by. -/
inductive Reachable : Archive → Prop where
  | created (kind : Phase) : Reachable (create kind)
  | restored {s : Snapshot} {a : Archive} : ofSnapshot s = .ok a → Reachable a
  | served {a : Archive} (request : Request) : Reachable a → Reachable (a.serve request).2

theorem Request.serveAll_simulation {σ τ : Type} {first : Request → σ → Except Fault Answer × σ}
    {second : Request → τ → Except Fault Answer × τ} {Related : σ → τ → Prop}
    (step : ∀ request s t, Related s t → (first request s).1 = (second request t).1 ∧
      Related (first request s).2 (second request t).2)
    (requests : List Request) {s : σ} {t : τ} (related : Related s t) :
    (serveAll first requests s).1 = (serveAll second requests t).1 ∧
      Related (serveAll first requests s).2 (serveAll second requests t).2 := by
  induction requests generalizing s t with
  | nil => exact ⟨rfl, related⟩
  | cons request rest ih =>
    obtain ⟨answer, next⟩ := step request s t related
    obtain ⟨answers, last⟩ := ih next
    exact ⟨congrArg₂ List.cons answer answers, last⟩

/-! ### What a request leaves behind -/

-- Every operation that changes an archive answers with the changed archive or with a fault, never
-- with both.
theorem settle_error {a : Archive} {attempt : Except Fault Archive} {fault : Fault}
    (failed : (a.settle attempt).1 = .error fault) : (a.settle attempt).2 = a := by
  cases attempt with
  | ok changed => cases failed
  | error fault => rfl

theorem serve_error {a : Archive} {request : Request} {fault : Fault}
    (failed : (a.serve request).1 = .error fault) : (a.serve request).2 = a := by
  cases request with
  | find stub =>
    simp only [serve] at failed ⊢
    split at failed
    · cases failed
    · rfl
  | store | storeWithEntry | storeWithTwoEntries => exact settle_error failed
  | retrieve | retrieveAll => rfl

theorem Sound.settle {a : Archive} {attempt : Except Fault Archive} (sound : a.Sound)
    (kept : ∀ changed, attempt = .ok changed → changed.Sound) : (a.settle attempt).2.Sound := by
  cases attempt with
  | ok changed => exact kept changed rfl
  | error fault => exact sound

theorem Sound.serve {a : Archive} (sound : a.Sound) (request : Request) :
    (a.serve request).2.Sound := by
  cases request with
  | find stub =>
    simp only [Archive.serve]
    split
    · next found => exact sound.find found
    · exact sound
  | store | storeWithEntry | storeWithTwoEntries => exact sound.settle fun _ => sound.store
  | retrieve | retrieveAll => exact sound

theorem Reachable.sound {a : Archive} (reachable : a.Reachable) : a.Sound := by
  induction reachable with
  | created kind => exact sound_create kind
  | restored accepted => exact sound_ofSnapshot accepted
  | served request _ ih => exact ih.serve request

theorem Reachable.find {a b : Archive} {stub : Stub} {hit : Bool} (reachable : a.Reachable)
    (found : a.find stub = .ok (hit, b)) : b.Reachable := by
  have next := reachable.served (.find stub)
  simpa only [serve, found] using next

theorem Reachable.store {a b : Archive} {stub : Stub} {start stop : Address}
    {extras : List Address} (reachable : a.Reachable)
    (accepted : a.store stub start stop extras = .ok b) : b.Reachable := by
  have next := reachable.served (.store stub start stop extras)
  simpa only [serve, accepted, settle] using next

end RuntimeStubs.Archive
