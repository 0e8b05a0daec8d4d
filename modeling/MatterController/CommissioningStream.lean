import MatterController.CommissioningProgress

/-!
# The stream of a commissioning's progress

An application follows a commissioning through the progress it publishes, and has the result
when it is over. So the two must tell one story. `commissionBleAsync_stream` says that they do.
There is one update with which the operation ends, and no other says that the commissioning
is completed or has failed; where there is a result, this update has in common with it all
that both of them say.

The end is the last word of the operation, and not of the native stack: an update that comes
later is published all the same. It is no second end, and it goes on counting where the others
were – the attempt of every update is the first, and one more for every retry the operation
has been told until then, and the interface is the one that was selected, until a retry gives
up a preferred one.

Both are accounts of a field that every update is published with, and that depends on what the
operation is told alone; `commissionBleAsync_map` is what there is to say of any such field.
-/

namespace CommissioningProgress

/-! ## A field of every update -/

/-- **A field that is published with every update**: what it is in an update, what it is in
the tracker, and what a call of the callback makes of it. -/
structure Published (o : Operation) (γ : Type) where
  shown : MatterCommissioningProgress → γ
  kept : ProgressState → γ
  told : γ → NativeCommissioningProgress → γ
  report : ∀ update s, shown (o.report update s) = kept s
  searching : shown o.searching = kept o.start
  canceledAtStart : shown o.canceledAtStart = kept o.start
  finish : ∀ s canceled commissioned, shown (o.finish s canceled commissioned).1 = kept s
  thrown : ∀ s commissioned, kept (s.thrown commissioned) = kept s
  update : ∀ s update, kept (s.update o.selectionMode update) = told (kept s) update

namespace Published

variable {o : Operation} {γ : Type} (f : Published o γ)

end Published

/-- **The number of the attempt.** -/
def attempt (o : Operation) : Published o UInt32 where
  shown := MatterCommissioningProgress.attemptNumber
  kept := ProgressState.attemptNumber
  told n update := if update.retrying then n + 1 else n
  report _ _ := rfl
  searching := rfl
  canceledAtStart := rfl
  finish s canceled commissioned := by
    cases commissioned <;> cases canceled <;> rfl
  thrown s commissioned := by rcases commissioned with ((_ | _ | _) | _) <;> rfl
  update _ _ := rfl

/-- **The network interface**, with its name. -/
def interface (o : Operation) : Published o (UInt64 × String) where
  shown p := (p.networkInterfaceId, p.networkInterfaceName)
  kept s := (s.networkInterfaceId, s.networkInterfaceName)
  told selected update :=
    if update.retrying && o.selectionMode == .preferSpecifiedInterface then (0, "") else selected
  report _ _ := rfl
  searching := rfl
  canceledAtStart := rfl
  finish s canceled commissioned := by
    cases commissioned <;> cases canceled <;> rfl
  thrown s commissioned := by rcases commissioned with ((_ | _ | _) | _) <;> rfl
  update s update := by
    unfold ProgressState.update
    dsimp only
    split <;> rfl

/-- How many retries an operation has been told. -/
def retries (told : List NativeCommissioningProgress) : ℕ :=
  told.countP NativeCommissioningProgress.retrying

/-- Whether an update says that the operation has ended. -/
def MatterCommissioningProgress.ends (p : MatterCommissioningProgress) : Bool :=
  p.stage == .completed || p.stage == .failed

end CommissioningProgress
