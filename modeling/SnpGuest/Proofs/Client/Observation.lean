import SnpGuest.Guest.Client

namespace SnpGuest

/-!
# Devices that answer alike, and observed devices

The client sees nothing of a device but its replies.  So on two devices that give the same replies
in related states, and stay in related states, every request of the client has the same result and
ends in related states.  This is said once, for the calls, and then for the requests.

An observed device notes every call together with the state in which the call finds it.  It answers
like the device itself, so what it notes is what the client does with that device.
-/

/-- A call, and the state of the device that it reaches. -/
structure Arrival (σ : Type) where
  state : σ
  call : Call

namespace GuestDevice

variable {σ τ α : Type}

/-- The devices give the same replies in related states, and the states stay related. -/
def AnswersAlike (Related : σ → τ → Prop) (left : GuestDevice σ) (right : GuestDevice τ) : Prop :=
  ∀ {n : Nat} (command : UInt64) (argument : Argument n) (leftState : σ) (rightState : τ),
    Related leftState rightState →
      (left.ioctl command argument leftState).1 = (right.ioctl command argument rightState).1 ∧
        Related (left.ioctl command argument leftState).2
          (right.ioctl command argument rightState).2

/-- The same device, keeping the calls and the states in which they find it. -/
def observed (device : GuestDevice σ) : GuestDevice (σ × List (Arrival σ)) where
  ioctl command argument state :=
    let (reply, next) := device.ioctl command argument state.1
    (reply, next, state.2 ++ [⟨state.1, command, argument⟩])

/-- The calls that a computation makes when it starts in a state, in order. -/
def arrivals (device : GuestDevice σ) (state : σ)
    (program : GuestDevice (σ × List (Arrival σ)) → Client (σ × List (Arrival σ)) α) :
    List (Arrival σ) :=
  (program device.observed (state, [])).2.2

theorem observed_answersAlike (device : GuestDevice σ) :
    AnswersAlike (fun observed state => observed.1 = state) device.observed device := by
  rintro n command argument ⟨_, seen⟩ state rfl
  exact ⟨rfl, rfl⟩

/-- The record of a device is what an observer notes, less the states. -/
theorem recorded_answersAlike (device : GuestDevice σ) :
    AnswersAlike (fun recorded observed => recorded.1 = observed.1 ∧
      recorded.2 = observed.2.map Arrival.call) device.recorded device.observed := by
  rintro n command argument ⟨state, calls⟩ ⟨state', seen⟩ ⟨hState, hCalls⟩
  obtain rfl : state = state' := hState
  obtain rfl : calls = seen.map Arrival.call := hCalls
  exact ⟨rfl, rfl, by simp [recorded, observed]⟩

end GuestDevice

namespace Arrival

variable {σ : Type}

/-- What the device answers. -/
def reply (device : GuestDevice σ) (arrival : Arrival σ) : Reply arrival.call.size :=
  (device.ioctl arrival.call.command arrival.call.argument arrival.state).1

/-- The state in which the call leaves the device. -/
def next (device : GuestDevice σ) (arrival : Arrival σ) : σ :=
  (device.ioctl arrival.call.command arrival.call.argument arrival.state).2

end Arrival

namespace Client

variable {σ τ α β : Type} {Related : σ → τ → Prop}

/-- The computations have the same result in related states, and the states stay related. -/
def RunsAlike (Related : σ → τ → Prop) (left : Client σ α) (right : Client τ α) : Prop :=
  ∀ leftState rightState, Related leftState rightState →
    (left leftState).1 = (right rightState).1 ∧
      Related (left leftState).2 (right rightState).2

namespace RunsAlike

theorem pure (value : α) :
    RunsAlike Related (Pure.pure value : Client σ α) (Pure.pure value : Client τ α) :=
  fun _ _ hRelated => ⟨rfl, hRelated⟩

theorem lift (result : Except Error α) :
    RunsAlike Related (liftM result : Client σ α) (liftM result : Client τ α) :=
  fun _ _ hRelated => ⟨rfl, hRelated⟩

theorem bind {left : Client σ α} {right : Client τ α} {leftNext : α → Client σ β}
    {rightNext : α → Client τ β} (hFirst : RunsAlike Related left right)
    (hNext : ∀ value, RunsAlike Related (leftNext value) (rightNext value)) :
    RunsAlike Related (left >>= leftNext) (right >>= rightNext) := by
  intro leftState rightState hRelated
  obtain ⟨hResult, hAfter⟩ := hFirst leftState rightState hRelated
  rw [bind_apply, bind_apply]
  rcases hLeft : left leftState with ⟨result, leftAfter⟩
  rcases hRight : right rightState with ⟨result', rightAfter⟩
  rw [hLeft, hRight] at hResult hAfter
  obtain rfl : result = result' := hResult
  cases result with
  | error cause => exact ⟨rfl, hAfter⟩
  | ok value => exact hNext value leftAfter rightAfter hAfter

end RunsAlike

section Requests

variable {left : GuestDevice σ} {right : GuestDevice τ}

theorem call_runsAlike (hAlike : GuestDevice.AnswersAlike Related left right) {n : Nat}
    (command : UInt64) (argument : Argument n) :
    RunsAlike Related (call left command argument) (call right command argument) := by
  intro leftState rightState hRelated
  obtain ⟨hReply, hAfter⟩ := hAlike command argument leftState rightState hRelated
  cases hResult : (right.ioctl command argument rightState).1.result with
  | error cause =>
      simp only [call, hReply, hResult]
      exact ⟨trivial, hAfter⟩
  | ok result =>
      simp only [call, hReply, hResult]
      exact ⟨trivial, hAfter⟩

theorem callExtended_runsAlike (hAlike : GuestDevice.AnswersAlike Related left right)
    (request : RequestMessage) (size : Nat) (response : ResponseMessage) :
    RunsAlike Related (callExtended left request size response)
      (callExtended right request size response) :=
  (call_runsAlike hAlike _ _).bind fun _ => .lift _

theorem requestReport_runsAlike (hAlike : GuestDevice.AnswersAlike Related left right)
    (reportData : Block 64) (vmpl : UInt32) :
    RunsAlike Related (requestReport left reportData vmpl)
      (requestReport right reportData vmpl) :=
  (call_runsAlike hAlike _ _).bind fun _ => .lift _

theorem requestWithCertificates_runsAlike (hAlike : GuestDevice.AnswersAlike Related left right)
    (reportData : Block 64) (vmpl : UInt32) :
    RunsAlike Related (requestWithCertificates left reportData vmpl)
      (requestWithCertificates right reportData vmpl) := by
  refine (callExtended_runsAlike hAlike _ _ _).bind fun query => ?_
  by_cases hAsks : query.errorWord.asksForBuffer = true
  · by_cases hNone : query.certsLen = 0
    · simp only [hAsks, hNone, if_true]
      exact (requestReport_runsAlike hAlike _ _).bind fun _ => .pure _
    · simp only [hAsks, hNone, if_true, if_false]
      exact (callExtended_runsAlike hAlike _ _ _).bind fun _ =>
        (RunsAlike.lift _).bind fun _ => .pure _
  · simp only [hAsks]
    exact (RunsAlike.lift _).bind fun _ => .pure _

end Requests

end Client

end SnpGuest
