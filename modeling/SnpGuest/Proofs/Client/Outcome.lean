import SnpGuest.Proofs.Client.Protocol

namespace SnpGuest

/-!
# The outcome of a request

Whatever a device does, the last call of a request decides.  The client returns the verdict on the
reply to that call, and of the certificates only what a buffer that it lent holds then.  So it
returns a report exactly when that reply passes every check, and the report is the one inside the
response that came with it.
-/

namespace Client

variable {σ : Type} {device : GuestDevice σ}

/-! ## Verdicts with certificates -/

theorem map_pair_eq_ok_iff {verdict : Except Error Report} {lent certificates : Bytes}
    {report : Report} :
    (verdict.map fun report => (report, lent)) = .ok (report, certificates) ↔
      verdict = .ok report ∧ certificates = lent := by
  cases verdict <;> simp [Except.map, eq_comm]

theorem map_fst_map_pair (verdict : Except Error Report) (lent : Bytes) :
    (verdict.map fun report => (report, lent)).map Prod.fst = verdict := by
  cases verdict <;> rfl

/-- What the client hands over as certificates after its last call: nothing if this was the size
query or a plain call. -/
def handedOver (device : GuestDevice σ) (earlier : List (Arrival σ)) (last : Arrival σ) : Bytes :=
  if earlier.isEmpty ∨ last.call.command = Command.getReport then []
  else (last.reply device).argument.certificates.toList

/-- On every course the last call decides, and a buffer that it lends has the size which the reply
to the first call declares. -/
theorem Course.exists_last {request : RequestMessage} {state : σ} {arrivals : List (Arrival σ)}
    {outcome : Except Error (Report × Bytes)}
    (hCourse : Course device request state arrivals outcome) :
    ∃ earlier last verdict, arrivals = earlier ++ [last] ∧
      Verdict last.call.command (last.reply device) verdict ∧
      outcome = verdict.map (fun report => (report, handedOver device earlier last)) ∧
      (earlier ≠ [] → last.call.command ≠ Command.getReport →
        ∃ first version report certsLen word, earlier = [first] ∧
          (first.reply device).argument.request =
            .guest ⟨version, .extended report certsLen, word⟩ ∧
          (handedOver device earlier last).length = certsLen.toNat) := by
  cases hCourse with
  | query query hQuery hSilent verdict hVerdict =>
      subst hQuery
      exact ⟨[], _, verdict, rfl, hVerdict, rfl, fun hEarlier => absurd rfl hEarlier⟩
  | plain query last hQuery hAsks hLast verdict hVerdict =>
      subst hLast
      exact ⟨[query], _, verdict, rfl, hVerdict, rfl, fun _ hPlain => absurd rfl hPlain⟩
  | fill query last hQuery certsLen hLen hAsks hLast verdict hVerdict =>
      subst hLast
      refine ⟨[query], _, verdict, rfl, hVerdict, rfl, fun _ _ => ?_⟩
      obtain ⟨_, version, report, word, _, hRequest, _⟩ := hAsks
      exact ⟨query, version, report, certsLen, word, rfl, hRequest, Block.length_toList _⟩

/-! ## The last reply -/

/-- For any device, the reply to the last call decides both requests of the client, by the rules of
`Verdict`.  A report comes back exactly when the reply passes all checks; it is the report in the
response of the last call, the 1184 bytes behind the first 32.  The certificates that come with it
are empty after a size query or a plain call.  Otherwise they are the whole buffer of the last call,
and its size is the length that the first reply declares, whatever the second declares. -/
theorem outcome_of_last_reply (device : GuestDevice σ) (reportData : Block 64) (vmpl : UInt32)
    (state : σ) :
    (∃ last : Arrival σ,
      let outcome := (requestReport device reportData vmpl state).1
      let reply := last.reply device
      device.arrivals state (requestReport · reportData vmpl) = [last] ∧
      Verdict last.call.command reply outcome ∧
      ∀ report, outcome = .ok report ↔
        Passes last.call.command reply ∧ report = reply.argument.response.report) ∧
    (∃ (earlier : List (Arrival σ)) (last : Arrival σ),
      let outcome := (requestWithCertificates device reportData vmpl state).1
      let reply := last.reply device
      device.arrivals state (requestWithCertificates · reportData vmpl) = earlier ++ [last] ∧
      Verdict last.call.command reply (outcome.map Prod.fst) ∧
      (∀ report certificates, outcome = .ok (report, certificates) ↔
        Passes last.call.command reply ∧ report = reply.argument.response.report ∧
          certificates = handedOver device earlier last) ∧
      (earlier ≠ [] → last.call.command ≠ Command.getReport →
        ∃ first version request certsLen word, earlier = [first] ∧
          (first.reply device).argument.request =
            .guest ⟨version, .extended request certsLen, word⟩ ∧
          (handedOver device earlier last).length = certsLen.toNat)) ∧
    ∀ response : ResponseMessage,
      response.report.toBlock = response.toBlock.slice 32 1184 (by decide) := by
  refine ⟨?_, ?_, fun response => response.slice_toBlock.symm⟩
  · have hOutcome := (requestReport_runsAlike device.observed_answersAlike reportData vmpl
      (state, []) state rfl).1
    obtain ⟨verdict, hVerdict, hRun⟩ := requestReport_observed device reportData vmpl state []
    obtain rfl : verdict = (requestReport device reportData vmpl state).1 := by
      rw [← hOutcome, hRun]
    exact ⟨_, arrivals_requestReport device reportData vmpl state, hVerdict, hVerdict.eq_ok_iff⟩
  · obtain ⟨earlier, last, verdict, hArrivals, hVerdict, hOutcome, hFill⟩ :=
      (course_requestWithCertificates device reportData vmpl state).exists_last
    refine ⟨earlier, last, hArrivals, ?_, fun report certificates => ?_, hFill⟩
    · rw [hOutcome, map_fst_map_pair]
      exact hVerdict
    · rw [hOutcome, map_pair_eq_ok_iff, hVerdict.eq_ok_iff, and_assoc]

end Client

end SnpGuest
