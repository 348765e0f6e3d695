import SnpGuest.Proofs.Client.Observation

namespace SnpGuest

/-!
# What the client makes of a reply

A reply can carry several failures at once.  `Verdict` says which of them counts: one rule for each
outcome, each with the condition that the checks before it found nothing.  Main statement: every
call of the client ends in the verdict on its reply.
-/

namespace Request

/-- The request is still one for a report with certificates. -/
def IsExtended (request : Request) : Prop :=
  ∃ version report certsLen word, request = .guest ⟨version, .extended report certsLen, word⟩

/-- The request can be read back after a call with the given command.  Only the request of an
extended call is. -/
def ReadableAfter (command : UInt64) (request : Request) : Prop :=
  command = Command.getExtendedReport → request.IsExtended

end Request

/-- All checks on a reply find nothing. -/
structure Passes (command : UInt64) {n : Nat} (reply : Reply n) : Prop where
  result : reply.result = .ok .ok
  readable : reply.argument.request.ReadableAfter command
  errorWord : reply.argument.request.errorWord = .clear
  status : reply.argument.response.status = 0

/-- The outcome of a request whose last call has the given command and reply. -/
inductive Verdict (command : UInt64) {n : Nat} (reply : Reply n) : Except Error Report → Prop
  | refused (cause : Error) (hResult : reply.result = .error cause) :
      Verdict command reply (.error cause)
  | replaced (exit : ExitResult) (hResult : reply.result = .ok exit)
      (hReplaced : ¬ reply.argument.request.ReadableAfter command) :
      Verdict command reply (.error (.unexpectedRequest .replaced))
  | errorWord (exit : ExitResult) (hResult : reply.result = .ok exit)
      (hReadable : reply.argument.request.ReadableAfter command)
      (hWord : reply.argument.request.errorWord ≠ .clear) :
      Verdict command reply (.error (.firmware reply.argument.request.errorWord))
  | exit (exit : ExitResult) (hResult : reply.result = .ok exit)
      (hReadable : reply.argument.request.ReadableAfter command)
      (hWord : reply.argument.request.errorWord = .clear) (hExit : exit ≠ .ok) :
      Verdict command reply (.error (.lowerLayer exit))
  | status (hResult : reply.result = .ok .ok)
      (hReadable : reply.argument.request.ReadableAfter command)
      (hWord : reply.argument.request.errorWord = .clear)
      (hStatus : reply.argument.response.status ≠ 0) :
      Verdict command reply (.error (.firmware ⟨reply.argument.response.status.toUInt64⟩))
  | passed (hPasses : Passes command reply) :
      Verdict command reply (.ok reply.argument.response.report)

namespace Verdict

variable {command : UInt64} {n : Nat} {reply : Reply n}

theorem eq_ok_iff {outcome : Except Error Report} (hVerdict : Verdict command reply outcome)
    (report : Report) :
    outcome = .ok report ↔
      Passes command reply ∧ report = reply.argument.response.report := by
  cases hVerdict with
  | refused cause hResult =>
      refine ⟨nofun, fun ⟨hPasses, _⟩ => ?_⟩
      cases hResult.symm.trans hPasses.result
  | replaced exit hResult hReplaced =>
      exact ⟨nofun, fun ⟨hPasses, _⟩ => absurd hPasses.readable hReplaced⟩
  | errorWord exit hResult hReadable hWord =>
      exact ⟨nofun, fun ⟨hPasses, _⟩ => absurd hPasses.errorWord hWord⟩
  | exit exit hResult hReadable hWord hExit =>
      refine ⟨nofun, fun ⟨hPasses, _⟩ => absurd ?_ hExit⟩
      exact Except.ok.inj (hResult.symm.trans hPasses.result)
  | status hResult hReadable hWord hStatus =>
      exact ⟨nofun, fun ⟨hPasses, _⟩ => absurd hPasses.status hStatus⟩
  | passed hPasses =>
      constructor
      · intro hReport
        exact ⟨hPasses, (Except.ok.inj hReport).symm⟩
      · rintro ⟨-, rfl⟩
        rfl

/-- The checks behind the reading of the request come in the order of the rules. -/
theorem of_accept {exit : ExitResult} (hResult : reply.result = .ok exit)
    (hReadable : reply.argument.request.ReadableAfter command) :
    Verdict command reply
      (Client.accept exit reply.argument.request.errorWord reply.argument.response) := by
  unfold Client.accept Client.exitFailure? Client.statusFailure?
  by_cases hWord : reply.argument.request.errorWord = .clear
  · by_cases hExit : exit = .ok
    · subst hExit
      by_cases hStatus : reply.argument.response.status = 0
      · simpa [hWord, hStatus] using .passed ⟨hResult, hReadable, hWord, hStatus⟩
      · simpa [hWord, hStatus] using .status hResult hReadable hWord hStatus
    · simpa [hWord, hExit] using .exit exit hResult hReadable hWord hExit
  · simpa [hWord] using .errorWord exit hResult hReadable hWord

end Verdict

end SnpGuest
