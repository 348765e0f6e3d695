import SnpGuest.Proofs.Client.Verdict

namespace SnpGuest

/-!
# The calls of the client

A request for a report is one call.  A request with certificates starts with a size query, and the
reply to it decides alone what comes next: nothing, a plain call, or a call that lends a buffer of
the size that the reply declares.  `Course` has one rule for each, together with the outcome.

Nothing is assumed of the device.  It may answer from its own history, put other requests in the
place of those it got, write into a response before there is a report, or ask for a buffer twice.
-/

variable {σ : Type}

namespace Reply

/-- The reply leaves an extended request that declares a length, and asks for a buffer. -/
def AsksForBuffer {n : Nat} (reply : Reply n) (certsLen : UInt32) : Prop :=
  ∃ exit version report word, reply.result = .ok exit ∧
    reply.argument.request = .guest ⟨version, .extended report certsLen, word⟩ ∧
    word.asksForBuffer = true

theorem AsksForBuffer.certsLen_eq {n : Nat} {reply : Reply n} {certsLen : UInt32}
    (hAsks : reply.AsksForBuffer certsLen) {version : UInt8} {report : RequestMessage}
    {declared : UInt32} {word : ErrorWord}
    (hRequest : reply.argument.request = .guest ⟨version, .extended report declared, word⟩) :
    declared = certsLen := by
  obtain ⟨_, _, _, _, _, hAsked, _⟩ := hAsks
  cases hRequest.symm.trans hAsked
  rfl

theorem asksForBuffer_iff {n : Nat} (reply : Reply n) :
    (∃ certsLen, reply.AsksForBuffer certsLen) ↔
      ∃ exit version report certsLen word, reply.result = .ok exit ∧
        reply.argument.request = .guest ⟨version, .extended report certsLen, word⟩ ∧
        word.value.toNat / 0x100000000 = 1 := by
  simp only [AsksForBuffer, ErrorWord.asksForBuffer_iff]
  constructor
  · rintro ⟨certsLen, exit, version, report, word, hReply⟩
    exact ⟨exit, version, report, certsLen, word, hReply⟩
  · rintro ⟨exit, version, report, certsLen, word, hReply⟩
    exact ⟨certsLen, exit, version, report, word, hReply⟩

end Reply

namespace Arrival

/-- A plain call of the client. -/
def plain (state : σ) (request : RequestMessage) : Arrival σ where
  state := state
  call := ⟨Command.getReport, .plain request⟩

/-- An extended call of the client. -/
def extended (state : σ) (request : RequestMessage) (size : Nat) (response : ResponseMessage) :
    Arrival σ where
  state := state
  call := ⟨Command.getExtendedReport, .extended request size response⟩

end Arrival

namespace Client

/-! ## Single calls -/

theorem call_observed (device : GuestDevice σ) (arrival : Arrival σ) (seen : List (Arrival σ)) :
    call device.observed arrival.call.command arrival.call.argument (arrival.state, seen) =
      ((arrival.reply device).result.map fun exit => (exit, (arrival.reply device).argument),
        arrival.next device, seen ++ [arrival]) := by
  simp only [call, GuestDevice.observed, Arrival.reply, Arrival.next]
  cases (device.ioctl arrival.call.command arrival.call.argument arrival.state).1.result <;> rfl

theorem requestReport_observed (device : GuestDevice σ) (reportData : Block 64) (vmpl : UInt32)
    (state : σ) (seen : List (Arrival σ)) :
    let arrival := Arrival.plain state (.new reportData vmpl)
    ∃ verdict, Verdict Command.getReport (arrival.reply device) verdict ∧
      requestReport device.observed reportData vmpl (state, seen) =
        (verdict, arrival.next device, seen ++ [arrival]) := by
  intro arrival
  have hCall : call device.observed Command.getReport (.plain (.new reportData vmpl))
      (state, seen) = _ := call_observed device arrival seen
  have hReadable : (arrival.reply device).argument.request.ReadableAfter Command.getReport :=
    fun hExtended => absurd hExtended.symm Command.getExtendedReport_ne_getReport
  rw [requestReport, bind_apply, hCall]
  cases hResult : (arrival.reply device).result with
  | error cause => exact ⟨_, .refused cause hResult, rfl⟩
  | ok exit => exact ⟨_, .of_accept hResult hReadable, rfl⟩

theorem arrivals_requestReport (device : GuestDevice σ) (reportData : Block 64) (vmpl : UInt32)
    (state : σ) :
    device.arrivals state (requestReport · reportData vmpl) =
      [.plain state (.new reportData vmpl)] := by
  obtain ⟨_, -, hRun⟩ := requestReport_observed device reportData vmpl state []
  rw [GuestDevice.arrivals, hRun]
  rfl

/-- What the client reads off the reply to an extended call. -/
inductive Reading {n : Nat} (reply : Reply n) : Except Error (ExtendedAnswer n) → Prop
  | failed (cause : Error) (hVerdict : Verdict Command.getExtendedReport reply (.error cause))
      (hSilent : ∀ certsLen, ¬ reply.AsksForBuffer certsLen) : Reading reply (.error cause)
  | read (exit : ExitResult) (version : UInt8) (report : RequestMessage) (certsLen : UInt32)
      (word : ErrorWord) (hResult : reply.result = .ok exit)
      (hRequest : reply.argument.request = .guest ⟨version, .extended report certsLen, word⟩) :
      Reading reply
        (.ok ⟨exit, word, certsLen, reply.argument.response, reply.argument.certificates⟩)

theorem callExtended_observed (device : GuestDevice σ) (request : RequestMessage) (size : Nat)
    (response : ResponseMessage) (state : σ) (seen : List (Arrival σ)) :
    let arrival := Arrival.extended state request size response
    ∃ answer, Reading (arrival.reply device) answer ∧
      callExtended device.observed request size response (state, seen) =
        (answer, arrival.next device, seen ++ [arrival]) := by
  intro arrival
  have hCall : call device.observed Command.getExtendedReport (.extended request size response)
      (state, seen) = _ := call_observed device arrival seen
  rw [callExtended, bind_apply, hCall]
  cases hResult : (arrival.reply device).result with
  | error cause =>
      refine ⟨_, .failed cause (.refused cause hResult) ?_, rfl⟩
      rintro certsLen ⟨exit, -, -, -, hOk, -⟩
      cases hResult.symm.trans hOk
  | ok exit =>
      by_cases hExtended : (arrival.reply device).argument.request.IsExtended
      · obtain ⟨version, report, certsLen, word, hRequest⟩ := hExtended
        refine ⟨_, .read exit version report certsLen word hResult hRequest, ?_⟩
        show ((extendedAnswer exit (arrival.reply device).argument), _) = _
        rw [extendedAnswer, hRequest]
      · have hReplaced : extendedAnswer exit (arrival.reply device).argument =
            .error (.unexpectedRequest .replaced) := by
          unfold extendedAnswer
          split
          · next version report certsLen word hRequest =>
              exact absurd ⟨version, report, certsLen, word, hRequest⟩ hExtended
          · rfl
        refine ⟨_, .failed _ (.replaced exit hResult fun hRead => hExtended (hRead rfl)) ?_, ?_⟩
        · rintro certsLen ⟨-, version, report, word, -, hRequest, -⟩
          exact hExtended ⟨version, report, certsLen, word, hRequest⟩
        · show ((extendedAnswer exit (arrival.reply device).argument), _) = _
          rw [hReplaced]

/-! ## The three courses of a request with certificates -/

/-- The calls of a request with certificates, and its outcome.  The size query may be all there is;
else a plain call follows, or one that lends a buffer. -/
inductive Course (device : GuestDevice σ) (request : RequestMessage) (state : σ) :
    List (Arrival σ) → Except Error (Report × Bytes) → Prop
  | query (query : Arrival σ) (hQuery : query = .extended state request 0 .zero)
      (hSilent : ∀ certsLen, ¬ (query.reply device).AsksForBuffer certsLen)
      (verdict : Except Error Report)
      (hVerdict : Verdict Command.getExtendedReport (query.reply device) verdict) :
      Course device request state [query] (verdict.map fun report => (report, []))
  | plain (query last : Arrival σ) (hQuery : query = .extended state request 0 .zero)
      (hAsks : (query.reply device).AsksForBuffer 0)
      (hLast : last = .plain (query.next device) request)
      (verdict : Except Error Report)
      (hVerdict : Verdict Command.getReport (last.reply device) verdict) :
      Course device request state [query, last] (verdict.map fun report => (report, []))
  | fill (query last : Arrival σ) (hQuery : query = .extended state request 0 .zero)
      (certsLen : UInt32) (hLen : certsLen ≠ 0)
      (hAsks : (query.reply device).AsksForBuffer certsLen)
      (hLast : last = .extended (query.next device) request certsLen.toNat
        (query.reply device).argument.response)
      (verdict : Except Error Report)
      (hVerdict : Verdict Command.getExtendedReport (last.reply device) verdict) :
      Course device request state [query, last] (verdict.map fun report =>
        (report, (last.reply device).argument.certificates.toList))

/-- The verdict on an extended call whose answer was read. -/
theorem verdict_of_read {n : Nat} {reply : Reply n} {exit : ExitResult} {version : UInt8}
    {report : RequestMessage} {certsLen : UInt32} {word : ErrorWord}
    (hResult : reply.result = .ok exit)
    (hRequest : reply.argument.request = .guest ⟨version, .extended report certsLen, word⟩) :
    Verdict Command.getExtendedReport reply (accept exit word reply.argument.response) := by
  have hWord : reply.argument.request.errorWord = word := by
    rw [hRequest]
    rfl
  rw [← hWord]
  exact .of_accept hResult fun _ => ⟨version, report, certsLen, word, hRequest⟩

/-- Every request with certificates takes one of the three courses. -/
theorem course_requestWithCertificates (device : GuestDevice σ) (reportData : Block 64)
    (vmpl : UInt32) (state : σ) :
    Course device (.new reportData vmpl) state
      (device.arrivals state (requestWithCertificates · reportData vmpl))
      (requestWithCertificates device reportData vmpl state).1 := by
  have hOutcome := (requestWithCertificates_runsAlike device.observed_answersAlike reportData vmpl
    (state, []) state rfl).1
  let query : Arrival σ := .extended state (.new reportData vmpl) 0 .zero
  obtain ⟨answer, hReading, hQuery⟩ :=
    callExtended_observed device (.new reportData vmpl) 0 .zero state []
  rw [← hOutcome, GuestDevice.arrivals, requestWithCertificates, bind_apply, hQuery]
  cases hReading with
  | failed cause hVerdict hSilent => exact .query query rfl hSilent _ hVerdict
  | read exit version report certsLen word hResult hRequest =>
      by_cases hAsks : word.asksForBuffer = true
      · have hReply : (query.reply device).AsksForBuffer certsLen :=
          ⟨exit, version, report, word, hResult, hRequest, hAsks⟩
        by_cases hLen : certsLen = 0
        · subst hLen
          obtain ⟨verdict, hVerdict, hPlain⟩ :=
            requestReport_observed device reportData vmpl (query.next device) ([] ++ [query])
          simp only [hAsks, if_true]
          rw [bind_pure_apply, hPlain]
          exact .plain query _ rfl hReply rfl verdict hVerdict
        · obtain ⟨answer, hReading, hFill⟩ :=
            callExtended_observed device (.new reportData vmpl) certsLen.toNat
              (query.reply device).argument.response (query.next device) ([] ++ [query])
          simp only [hAsks, hLen, if_true, if_false]
          rw [bind_apply, hFill]
          cases hReading with
          | failed cause hVerdict hSilent =>
              exact .fill query _ rfl certsLen hLen hReply rfl _ hVerdict
          | read exit version report fillLen word hResult hRequest =>
              simp only [bind_pure_apply, lift_apply]
              exact .fill query _ rfl certsLen hLen hReply rfl _ (verdict_of_read hResult hRequest)
      · have hSilent : ∀ certsLen, ¬ (query.reply device).AsksForBuffer certsLen := by
          rintro certsLen' ⟨exit', version', report', word', -, hRequest', hAsks'⟩
          cases hRequest.symm.trans hRequest'
          exact hAsks hAsks'
        simp only [hAsks, Bool.false_eq_true, if_false, bind_pure_apply, lift_apply]
        exact .query query rfl hSilent _ (verdict_of_read hResult hRequest)

/-- On every course the size query comes first, and a second call only if the reply asks for it. -/
theorem Course.exists_later {device : GuestDevice σ} {request : RequestMessage} {state : σ}
    {arrivals : List (Arrival σ)} {outcome : Except Error (Report × Bytes)}
    (hCourse : Course device request state arrivals outcome) :
    let query : Arrival σ := .extended state request 0 .zero
    ∃ later, arrivals.map Arrival.call = query.call :: later ∧
      ((later = [] ∧ ∀ certsLen, ¬ (query.reply device).AsksForBuffer certsLen) ∨
        ∃ certsLen, (query.reply device).AsksForBuffer certsLen ∧
          (certsLen = 0 → later = [⟨Command.getReport, .plain request⟩]) ∧
          (certsLen ≠ 0 → later = [⟨Command.getExtendedReport,
            .extended request certsLen.toNat (query.reply device).argument.response⟩])) := by
  cases hCourse with
  | query query hQuery hSilent =>
      subst hQuery
      exact ⟨[], rfl, .inl ⟨rfl, hSilent⟩⟩
  | plain query last hQuery hAsks hLast =>
      subst hQuery hLast
      exact ⟨_, rfl, .inr ⟨0, hAsks, fun _ => rfl, fun hLen => absurd rfl hLen⟩⟩
  | fill query last hQuery certsLen hLen hAsks hLast =>
      subst hQuery hLast
      exact ⟨_, rfl, .inr ⟨certsLen, hAsks, fun hNone => absurd hNone hLen, fun _ => rfl⟩⟩

/-! ## What arrives at the device -/

theorem recorded_eq_map_arrivals (device : GuestDevice σ) (reportData : Block 64) (vmpl : UInt32)
    (state : σ) :
    (requestWithCertificates device.recorded reportData vmpl (state, [])).2.2 =
      (device.arrivals state (requestWithCertificates · reportData vmpl)).map Arrival.call :=
  (requestWithCertificates_runsAlike device.recorded_answersAlike reportData vmpl
    (state, []) (state, []) ⟨rfl, rfl⟩).2.2

/-- For any device, a request with certificates makes one call or two.  The first is the size query:
no buffer, nothing declared, a clear error word and a zeroed response.  A second call follows
exactly when the reply leaves an extended request whose error word has one in its upper half.  It
is a plain call over a zeroed response if the declared length is zero, and otherwise lends a zeroed
buffer of that length and the response as the first reply left it.  There is no third call. -/
theorem calls_requestWithCertificates (device : GuestDevice σ) (reportData : Block 64)
    (vmpl : UInt32) (state : σ) :
    let request : RequestMessage := ⟨reportData, vmpl, .zero 28⟩
    let query : Argument 0 := ⟨.guest ⟨1, .extended request 0, ⟨0⟩⟩, .zero, .zero 0⟩
    let plain : Argument 0 := ⟨.guest ⟨1, .report request, ⟨0⟩⟩, .zero, .zero 0⟩
    let reply := (device.ioctl Command.getExtendedReport query state).1
    let fill (certsLen : UInt32) : Argument certsLen.toNat :=
      ⟨.guest ⟨1, .extended request certsLen, ⟨0⟩⟩, reply.argument.response, .zero certsLen.toNat⟩
    ∃ later : List Call,
      (requestWithCertificates device.recorded reportData vmpl (state, [])).2.2 =
        ⟨Command.getExtendedReport, query⟩ :: later ∧
      later.length ≤ 1 ∧
      (later ≠ [] ↔ ∃ exit version report certsLen word, reply.result = .ok exit ∧
        reply.argument.request = .guest ⟨version, .extended report certsLen, word⟩ ∧
        word.value.toNat / 0x100000000 = 1) ∧
      (∀ version report certsLen word, later ≠ [] →
        reply.argument.request = .guest ⟨version, .extended report certsLen, word⟩ →
        (certsLen = 0 → later = [⟨Command.getReport, plain⟩]) ∧
        (certsLen ≠ 0 → later = [⟨Command.getExtendedReport, fill certsLen⟩])) ∧
      ResponseMessage.zero.toBlock = .zero 4000 := by
  intro request query plain reply fill
  have hZero : ResponseMessage.zero.toBlock = .zero 4000 := ResponseMessage.toBlock_zero
  have hFill : ∀ certsLen : UInt32,
      Argument.extended request certsLen.toNat reply.argument.response = fill certsLen :=
    fun certsLen => Argument.extended_toNat request certsLen reply.argument.response
  obtain ⟨later, hCalls, hLater⟩ :=
    (course_requestWithCertificates device reportData vmpl state).exists_later
  rw [recorded_eq_map_arrivals, ← Reply.asksForBuffer_iff]
  refine ⟨later, hCalls, ?_⟩
  rcases hLater with ⟨rfl, hSilent⟩ | ⟨certsLen, hAsks, hPlain, hExtended⟩
  · refine ⟨Nat.zero_le 1, ⟨fun hLater => absurd rfl hLater, ?_⟩, ?_, hZero⟩
    · rintro ⟨certsLen, hAsks⟩
      exact absurd hAsks (hSilent certsLen)
    · exact fun _ _ _ _ hLater => absurd rfl hLater
  · have hOne : later.length = 1 := by
      by_cases hLen : certsLen = 0
      · rw [hPlain hLen]
        rfl
      · rw [hExtended hLen]
        rfl
    have hSome : later ≠ [] := List.ne_nil_of_length_pos (by omega)
    refine ⟨Nat.le_of_eq hOne, ⟨fun _ => ⟨certsLen, hAsks⟩, fun _ => hSome⟩, ?_, hZero⟩
    intro version report certsLen' word _ hRequest
    obtain rfl : certsLen' = certsLen := hAsks.certsLen_eq hRequest
    exact ⟨hPlain, fun hLen => by rw [← hFill]; exact hExtended hLen⟩

end Client

end SnpGuest
