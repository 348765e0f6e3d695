import SnpGuest.Proofs.Client.Outcome
import SnpGuest.Simulator.Script

namespace SnpGuest

/-!
# Failures that a request with certificates passes over

A report with certificates comes out of one call or of two, and the reply to the last one passes
every check of the client.  A first reply that asks for a buffer is not checked.  The client looks
at the upper half of its error word and goes on, whatever the outcome of the exit was and whatever
the firmware put into the lower half.

Main statement: a run that hands out a report was free of failures exactly when such a first reply,
if there is one, had a good exit and nothing from the firmware.  Each of the two conditions is
broken by a device whose report is accepted all the same.
-/

variable {σ : Type}

namespace GuestDevice

/-- The calls of a run go well: every exit is good and leaves a clear error word, except that the
first call may leave the answer to a size query. -/
structure AllWell (device : GuestDevice σ) (arrivals : List (Arrival σ)) : Prop where
  exits : ∀ arrival ∈ arrivals, (arrival.reply device).result = .ok .ok
  words : ∀ (place : Nat) (hPlace : place < arrivals.length),
    let word := (arrivals[place].reply device).argument.request.errorWord
    word = .clear ∨ place = 0 ∧ word = .sizeReply

variable {device : GuestDevice σ} {last : Arrival σ}

theorem allWell_singleton (hPasses : Passes last.call.command (last.reply device)) :
    device.AllWell [last] := by
  refine ⟨fun arrival hArrival => ?_, fun place hPlace => .inl ?_⟩
  · rw [List.mem_singleton.mp hArrival]
    exact hPasses.result
  · obtain rfl : place = 0 := by simpa using hPlace
    exact hPasses.errorWord

theorem allWell_pair_iff {query : Arrival σ}
    (hPasses : Passes last.call.command (last.reply device)) :
    device.AllWell [query, last] ↔
      (query.reply device).result = .ok .ok ∧
        ((query.reply device).argument.request.errorWord = .clear ∨
          (query.reply device).argument.request.errorWord = .sizeReply) := by
  constructor
  · intro hWell
    refine ⟨hWell.exits query List.mem_cons_self, ?_⟩
    rcases hWell.words 0 (Nat.zero_lt_succ 1) with hClear | ⟨-, hReply⟩
    · exact .inl hClear
    · exact .inr hReply
  · rintro ⟨hExit, hWord⟩
    refine ⟨fun arrival hArrival => ?_, fun place hPlace => ?_⟩
    · rcases List.mem_cons.mp hArrival with rfl | hLast
      · exact hExit
      · rw [List.mem_singleton.mp hLast]
        exact hPasses.result
    · match place, hPlace with
      | 0, _ => exact hWord.imp_right fun hReply => ⟨rfl, hReply⟩
      | 1, _ => exact .inl hPasses.errorWord

/-- A first reply with a bad exit, or with an error word that is neither clear nor the answer to a
size query, spoils the run. -/
theorem not_allWell_cons {query : Arrival σ} {later : List (Arrival σ)}
    (hFails : (query.reply device).result ≠ .ok .ok ∨
      (query.reply device).argument.request.errorWord ≠ .clear ∧
        (query.reply device).argument.request.errorWord ≠ .sizeReply) :
    ¬ device.AllWell (query :: later) := by
  intro hWell
  rcases hFails with hExit | ⟨hNotClear, hNotReply⟩
  · exact hExit (hWell.exits query List.mem_cons_self)
  · rcases hWell.words 0 (Nat.zero_lt_succ later.length) with hClear | ⟨-, hReply⟩
    · exact hNotClear hClear
    · exact hNotReply hReply

end GuestDevice

/-- A word that asks for a buffer is acceptable only without a word from the firmware. -/
theorem ErrorWord.clear_or_sizeReply_iff {word : ErrorWord} (hAsks : word.asksForBuffer = true) :
    word = .clear ∨ word = .sizeReply ↔ word.firmwareCode = 0 := by
  have hNotClear : word ≠ .clear := by
    rintro rfl
    exact absurd hAsks (by decide)
  rw [or_iff_right hNotClear, eq_sizeReply_iff, and_iff_right hAsks]

namespace Client

/-! ## Reports and what was passed over for them -/

/-- On a course that ends in a report the last reply passes, and a call before it is a size query
whose reply asks for a buffer. -/
theorem Course.passes_of_ok {device : GuestDevice σ} {request : RequestMessage} {state : σ}
    {arrivals : List (Arrival σ)} {outcome : Except Error (Report × Bytes)}
    (hCourse : Course device request state arrivals outcome) {report : Report}
    {certificates : Bytes} (hOk : outcome = .ok (report, certificates)) :
    ∃ last, Passes last.call.command (last.reply device) ∧
      (arrivals = [last] ∨ ∃ query certsLen, arrivals = [query, last] ∧
        (query.reply device).AsksForBuffer certsLen) := by
  have hPasses : ∀ {last : Arrival σ} {verdict : Except Error Report} {lent : Bytes},
      Verdict last.call.command (last.reply device) verdict →
      (verdict.map fun report => (report, lent)) = .ok (report, certificates) →
      Passes last.call.command (last.reply device) := by
    intro last verdict lent hVerdict hMapped
    obtain ⟨hReport, -⟩ := map_pair_eq_ok_iff.mp hMapped
    exact ((hVerdict.eq_ok_iff report).mp hReport).1
  cases hCourse with
  | query query hQuery hSilent verdict hVerdict =>
      subst hQuery
      exact ⟨_, hPasses hVerdict hOk, .inl rfl⟩
  | plain query last hQuery hAsks hLast verdict hVerdict =>
      subst hLast
      exact ⟨_, hPasses hVerdict hOk, .inr ⟨query, 0, rfl, hAsks⟩⟩
  | fill query last hQuery certsLen hLen hAsks hLast verdict hVerdict =>
      subst hLast
      exact ⟨_, hPasses hVerdict hOk, .inr ⟨query, certsLen, rfl, hAsks⟩⟩

/-- For any device, when a request with certificates gives a report, the last call was free of
failures, and a call before it came back with an error word that asks for a buffer.  Nothing else
is known of that first reply: the run as a whole went well exactly when its exit was good and the
firmware left nothing in the word. -/
theorem allWell_iff_of_ok (device : GuestDevice σ) (reportData : Block 64) (vmpl : UInt32)
    (state : σ) {report : Report} {certificates : Bytes}
    (hOk : (requestWithCertificates device reportData vmpl state).1 =
      .ok (report, certificates)) :
    let arrivals := device.arrivals state (requestWithCertificates · reportData vmpl)
    ∃ (earlier : List (Arrival σ)) (last : Arrival σ), arrivals = earlier ++ [last] ∧
      earlier.length ≤ 1 ∧
      Passes last.call.command (last.reply device) ∧
      (∀ query ∈ earlier, ∃ certsLen, (query.reply device).AsksForBuffer certsLen) ∧
      (device.AllWell arrivals ↔ ∀ query ∈ earlier,
        (query.reply device).result = .ok .ok ∧
          (query.reply device).argument.request.errorWord.firmwareCode = 0) := by
  intro arrivals
  obtain ⟨last, hPasses, hSingle | ⟨query, certsLen, hPair, hAsks⟩⟩ :=
    (course_requestWithCertificates device reportData vmpl state).passes_of_ok hOk
  · refine ⟨[], last, hSingle, Nat.zero_le 1, hPasses, by simp, ?_⟩
    have hWell : device.AllWell arrivals := by
      rw [show arrivals = [last] from hSingle]
      exact GuestDevice.allWell_singleton hPasses
    simp [hWell]
  · refine ⟨[query], last, hPair, Nat.le_refl 1, hPasses, by simpa using ⟨certsLen, hAsks⟩, ?_⟩
    have hWord : (query.reply device).argument.request.errorWord.asksForBuffer = true := by
      obtain ⟨_, _, _, word, -, hRequest, hWord⟩ := hAsks
      rw [hRequest]
      exact hWord
    rw [show arrivals = [query, last] from hPair, GuestDevice.allWell_pair_iff hPasses,
      ErrorWord.clear_or_sizeReply_iff hWord]
    simp

/-! ## Devices that break each condition -/

theorem Course.exists_tail {device : GuestDevice σ} {request : RequestMessage} {state : σ}
    {arrivals : List (Arrival σ)} {outcome : Except Error (Report × Bytes)}
    (hCourse : Course device request state arrivals outcome) :
    ∃ later, arrivals = .extended state request 0 .zero :: later := by
  cases hCourse with
  | query query hQuery => exact ⟨[], by rw [hQuery]⟩
  | plain query last hQuery => exact ⟨[last], by rw [hQuery]⟩
  | fill query last hQuery => exact ⟨[last], by rw [hQuery]⟩

/-- A script of two replies.  The first has some exit and some error word and declares that there
are no certificates; the second lets the call pass. -/
def lenientScript (exit : ExitResult) (word : ErrorWord) : List ScriptedReply :=
  let passing : ScriptedReply :=
    { response := [], errorWord := none, certificates := [], certsLen := none
      replacement := none, ending := .answer .ok }
  [{ passing with errorWord := some word, certsLen := some 0, ending := .answer exit }, passing]

theorem status_patch_zero : (ResponseMessage.zero.patch []).status = 0 := by
  rw [ResponseMessage.patch, ResponseMessage.toBlock_zero]
  rfl

/-- If only the first reply asks for a buffer, the report is accepted, whatever else that reply
says. -/
theorem requestWithCertificates_lenientScript (exit : ExitResult) {word : ErrorWord}
    (hAsks : word.asksForBuffer = true) (reportData : Block 64) (vmpl : UInt32) :
    (requestWithCertificates scriptedDevice reportData vmpl (lenientScript exit word)).1 =
      .ok ((ResponseMessage.zero.patch []).report, []) := by
  have hQuery : callExtended scriptedDevice (.new reportData vmpl) 0 .zero
      (lenientScript exit word) =
        (.ok ⟨exit, word, 0, ResponseMessage.zero.patch [], .zero 0⟩,
          (lenientScript exit word).tail) := rfl
  have hPlain : requestReport scriptedDevice reportData vmpl (lenientScript exit word).tail =
      (accept .ok .clear (ResponseMessage.zero.patch []), []) := rfl
  have hAccept : accept .ok .clear (ResponseMessage.zero.patch []) =
      .ok (ResponseMessage.zero.patch []).report := by
    simp [accept, exitFailure?, statusFailure?, status_patch_zero]
  rw [requestWithCertificates, bind_apply, hQuery]
  simp only [hAsks, if_true]
  rw [bind_pure_apply, hPlain, hAccept]
  rfl

/-- The size query of a lenient script comes back as the script says. -/
theorem exists_arrivals_lenientScript (exit : ExitResult) (word : ErrorWord)
    (reportData : Block 64) (vmpl : UInt32) :
    ∃ query later,
      scriptedDevice.arrivals (lenientScript exit word)
        (requestWithCertificates · reportData vmpl) = query :: later ∧
      (query.reply scriptedDevice).result = .ok exit ∧
      (query.reply scriptedDevice).argument.request.errorWord = word := by
  obtain ⟨later, hArrivals⟩ := (course_requestWithCertificates scriptedDevice reportData vmpl
    (lenientScript exit word)).exists_tail
  exact ⟨_, later, hArrivals, rfl, rfl⟩

/-- Once the exit of the size query is an error of the hypervisor, once the firmware calls a
parameter invalid beside the wish for a buffer.  Both runs give a report, and neither went well. -/
theorem exists_report_of_failed_query :
    let data : Block 64 := .zero 64
    let run := requestWithCertificates scriptedDevice data 0
    let arrivals := fun script => scriptedDevice.arrivals script (requestWithCertificates · data 0)
    let badExit := lenientScript .vmmError .sizeReply
    let badWord := lenientScript .ok ⟨0x100000016⟩
    (∃ report, (run badExit).1 = .ok (report, []) ∧
      ¬ scriptedDevice.AllWell (arrivals badExit)) ∧
    ∃ report, (run badWord).1 = .ok (report, []) ∧
      ¬ scriptedDevice.AllWell (arrivals badWord) := by
  intro data run arrivals badExit badWord
  obtain ⟨query, later, hExitRun, hExit, -⟩ :=
    exists_arrivals_lenientScript .vmmError .sizeReply data 0
  obtain ⟨query', later', hWordRun, -, hWord⟩ :=
    exists_arrivals_lenientScript .ok ⟨0x100000016⟩ data 0
  have hFirst : ¬ scriptedDevice.AllWell (arrivals badExit) := by
    rw [show arrivals badExit = query :: later from hExitRun]
    exact GuestDevice.not_allWell_cons (.inl (by simp [hExit]))
  have hSecond : ¬ scriptedDevice.AllWell (arrivals badWord) := by
    rw [show arrivals badWord = query' :: later' from hWordRun]
    exact GuestDevice.not_allWell_cons (.inr (by rw [hWord]; decide))
  exact ⟨⟨_, requestWithCertificates_lenientScript .vmmError (by decide) data 0, hFirst⟩,
    ⟨_, requestWithCertificates_lenientScript .ok (by decide) data 0, hSecond⟩⟩

/-- With a good exit and nothing from the firmware in the word, the same script makes a run that
went well. -/
theorem allWell_iff_of_ok_of_clean_query :
    let data : Block 64 := .zero 64
    let script := lenientScript .ok .sizeReply
    (∃ report, (requestWithCertificates scriptedDevice data 0 script).1 = .ok (report, [])) ∧
      scriptedDevice.AllWell
        (scriptedDevice.arrivals script (requestWithCertificates · data 0)) := by
  intro data script
  have hOk : (requestWithCertificates scriptedDevice data 0 script).1 = .ok (_, []) :=
    requestWithCertificates_lenientScript .ok (by decide) data 0
  refine ⟨⟨_, hOk⟩, ?_⟩
  obtain ⟨earlier, last, hArrivals, hLength, -, -, hIff⟩ :=
    allWell_iff_of_ok scriptedDevice data 0 script hOk
  obtain ⟨query, later, hRun, hExit, hWord⟩ := exists_arrivals_lenientScript .ok .sizeReply data 0
  rw [hIff]
  intro first hFirst
  -- The call before the last is the query, which is at the head of the run.
  have hOne : earlier.length = 1 := Nat.le_antisymm hLength (List.length_pos_of_mem hFirst)
  obtain ⟨only, rfl⟩ := List.length_eq_one_iff.mp hOne
  obtain rfl : first = only := List.mem_singleton.mp hFirst
  obtain rfl : first = query := by
    have hSame : first :: [last] = query :: later := hArrivals.symm.trans hRun
    exact (List.cons.inj hSame).1
  exact ⟨hExit, by rw [hWord]; decide⟩

end Client

end SnpGuest
