import SnpGuest.Proofs.Fixture.Runs

namespace SnpGuest

/-!
# Runs that are refused

The tool takes its input in a fixed order: the report data, the seed, and the certificate files.
The first of these that is not acceptable ends the run (`Fixture.Refuses`), and nothing was written
by then.  With all of them in hand (`Fixture.Inputs`) the device makes a fixture exactly if the
certificates fit into a length field and the signer has a signature for the report, and what is left
of the run is to write that fixture (`Fixture.run_of_inputs`).  All this holds on every file system
whose files can be read without changing anything.
-/

namespace FixtureError

/-! ## What a refusal says -/

section Texts

variable {error : FixtureError} {headline cause : String}

theorem message_of_headline (hHeadline : error.headline = headline) (hCause : error.cause? = none) :
    error.message = "Error: " ++ headline ++ "\n" := by
  rw [message, hHeadline, hCause]
  simp only [String.append_empty]

theorem message_of_cause (hHeadline : error.headline = headline)
    (hCause : error.cause? = some cause) :
    error.message = "Error: " ++ headline ++ "\n\nCaused by:\n    " ++ cause ++ "\n" := by
  rw [message, hHeadline, hCause]
  simp only [String.append_assoc]

end Texts

theorem message_invalidDigit (byte : UInt8) (position : Nat) :
    message (.reportDataHex (.invalidDigit byte position)) =
      "Error: report data is not valid hex: Invalid character " ++ Quoted.byte byte ++
        " at position " ++ toString position ++ "\n" := by
  have hHeadline : headline (.reportDataHex (.invalidDigit byte position)) =
      "report data is not valid hex: " ++ ("Invalid character " ++ Quoted.byte byte ++
        " at position " ++ toString position) := rfl
  -- Literals join only when they stand side by side, so the one in front is cut into its parts.
  have hFront : "Error: report data is not valid hex: Invalid character " =
      "Error: " ++ ("report data is not valid hex: " ++ "Invalid character ") := by decide
  rw [message_of_headline hHeadline rfl, hFront]
  simp only [String.append_assoc]

theorem message_reportDataTooLong (length : Nat) : message (.reportDataTooLong length) =
    "Error: report data is " ++ toString length ++ " bytes, at most 64 are allowed\n" := by
  have hHeadline : headline (.reportDataTooLong length) =
    "report data is " ++ toString length ++ " bytes, at most 64 are allowed" := rfl
  have hFront : "Error: report data is " = "Error: " ++ "report data is " := by decide
  have hBack : " bytes, at most 64 are allowed\n" =
      " bytes, at most 64 are allowed" ++ "\n" := by decide
  rw [message_of_headline hHeadline rfl, hFront, hBack]
  simp only [String.append_assoc]

theorem message_certificate (path : String) (cause : OsError) :
    message (.certificate path cause) =
      "Error: couldn't read certificate " ++ path ++ "\n\nCaused by:\n    " ++ cause.text ++
        " (os error " ++ toString cause.code ++ ")\n" := by
  have hHeadline : headline (.certificate path cause) = "couldn't read certificate " ++ path := rfl
  have hFront : "Error: couldn't read certificate " =
      "Error: " ++ "couldn't read certificate " := by decide
  have hBack : ")\n" = ")" ++ "\n" := by decide
  rw [message_of_cause hHeadline rfl, OsError.message, hFront, hBack]
  simp only [String.append_assoc]

end FixtureError

namespace Fixture

/-! ## What the tool takes -/

variable {scheme : SignatureScheme} {settings : Settings}

/-- Why the tool refuses settings, when reading a file has a given result: the first of the report
data, the seed and the certificate files that is not acceptable. -/
inductive Refuses (scheme : SignatureScheme) (settings : Settings)
    (read : String → Except OsError Bytes) : FixtureError → Prop
  | hex (cause : Hex.DecodeError) (hHex : Hex.decode settings.reportData = .error cause) :
      Refuses scheme settings read (.reportDataHex cause)
  | long (bytes : Bytes) (hHex : Hex.decode settings.reportData = .ok bytes)
      (hLong : 64 < bytes.length) :
      Refuses scheme settings read (.reportDataTooLong bytes.length)
  | seed (data : Block 64) (hData : reportDataOfText settings.reportData = .ok data)
      (hSeed : Signer.keyOfSeed? scheme (utf8 settings.seed) = none) :
      Refuses scheme settings read .seed
  | certificate (data : Block 64) (key : scheme.PrivateKey)
      (front back : List (CertificateKind × String)) (kind : CertificateKind) (path : String)
      (cause : OsError) (hData : reportDataOfText settings.reportData = .ok data)
      (hSeed : Signer.keyOfSeed? scheme (utf8 settings.seed) = some key)
      (hFiles : certificateFiles settings = front ++ (kind, path) :: back)
      (hFront : ∀ file ∈ front, ∃ bytes, read file.2 = .ok bytes)
      (hFail : read path = .error cause) :
      Refuses scheme settings read (.certificate path cause)

/-- Input that is acceptable in all its parts. -/
structure Inputs (scheme : SignatureScheme) (settings : Settings)
    (read : String → Except OsError Bytes) where
  data : Block 64
  key : scheme.PrivateKey
  /-- What the certificate files hold; of other paths it says nothing. -/
  contents : String → Bytes
  reportData : reportDataOfText settings.reportData = .ok data
  seed : Signer.keyOfSeed? scheme (utf8 settings.seed) = some key
  certificates : ∀ file ∈ certificateFiles settings, read file.2 = .ok (contents file.2)

section Taking

variable {read : String → Except OsError Bytes}

theorem exists_refuses_of_reportData {cause : FixtureError}
    (hData : reportDataOfText settings.reportData = .error cause) :
    ∃ cause, Refuses scheme settings read cause := by
  cases hHex : Hex.decode settings.reportData with
  | error cause => exact ⟨_, .hex cause hHex⟩
  | ok bytes =>
      rcases Nat.lt_or_ge 64 bytes.length with hLong | hShort
      · exact ⟨_, .long bytes hHex hLong⟩
      · simp only [reportDataOfText, hHex, if_pos hShort] at hData
        cases hData

/-- Of some files that cannot all be read, one is the first. -/
theorem exists_first_unreadable {files : List (CertificateKind × String)}
    (hSome : ¬ ∀ file ∈ files, ∃ bytes, read file.2 = .ok bytes) :
    ∃ front kind path cause back, files = front ++ (kind, path) :: back ∧
      (∀ file ∈ front, ∃ bytes, read file.2 = .ok bytes) ∧ read path = .error cause := by
  induction files with
  | nil => simp at hSome
  | cons file rest ih =>
      obtain ⟨kind, path⟩ := file
      cases hFile : read path with
      | error cause => exact ⟨[], kind, path, cause, rest, rfl, by simp, hFile⟩
      | ok bytes =>
          have hRest : ¬ ∀ file ∈ rest, ∃ bytes, read file.2 = .ok bytes :=
            fun hAll => hSome (List.forall_mem_cons.mpr ⟨⟨bytes, hFile⟩, hAll⟩)
          obtain ⟨front, later, place, cause, back, rfl, hFront, hFail⟩ := ih hRest
          exact ⟨(kind, path) :: front, later, place, cause, back, rfl,
            List.forall_mem_cons.mpr ⟨⟨bytes, hFile⟩, hFront⟩, hFail⟩

/-- Settings are refused exactly if there is no acceptable input. -/
theorem isEmpty_inputs_iff :
    IsEmpty (Inputs scheme settings read) ↔ ∃ cause, Refuses scheme settings read cause := by
  constructor
  · intro hNone
    cases hData : reportDataOfText settings.reportData with
    | error cause => exact exists_refuses_of_reportData hData
    | ok data =>
        cases hSeed : Signer.keyOfSeed? scheme (utf8 settings.seed) with
        | none => exact ⟨_, .seed data hData hSeed⟩
        | some key =>
            by_cases hAll : ∀ file ∈ certificateFiles settings, ∃ bytes, read file.2 = .ok bytes
            · refine hNone.elim ⟨data, key, fun path => (read path).toOption.getD [], hData, hSeed,
                fun file hFile => ?_⟩
              obtain ⟨bytes, hRead⟩ := hAll file hFile
              rw [hRead]
              rfl
            · obtain ⟨front, kind, path, cause, back, hFiles, hFront, hFail⟩ :=
                exists_first_unreadable hAll
              exact ⟨_, .certificate data key front back kind path cause hData hSeed hFiles hFront
                hFail⟩
  · rintro ⟨cause, hRefuses⟩
    refine ⟨fun inputs => ?_⟩
    cases hRefuses with
    | hex cause hHex => cases (reportDataOfText_of_hex hHex).symm.trans inputs.reportData
    | long bytes hHex hLong =>
        cases (reportDataOfText_of_long hHex hLong).symm.trans inputs.reportData
    | seed data hData hSeed => cases hSeed.symm.trans inputs.seed
    | certificate data key front back kind path cause hData hSeed hFiles hFront hFail =>
        have hHere : (kind, path) ∈ certificateFiles settings := by simp [hFiles]
        cases hFail.symm.trans (inputs.certificates _ hHere)

namespace Inputs

/-- The certificates with the contents of their files, in order. -/
def given (inputs : Inputs scheme settings read) : List (CertificateKind × Bytes) :=
  certificatesOf inputs.contents (certificateFiles settings)

def table (inputs : Inputs scheme settings read) : CertificateTable :=
  OrderedMap.ofList inputs.given

/-- The written table has a length that four bytes can hold. -/
def Fits (inputs : Inputs scheme settings read) : Prop :=
  CertificateTable.pageCeiling (CertificateRecord.size * (inputs.given.length + 1) +
    CertificateTable.dataLength inputs.given) < CertificateTable.wordLimit

/-- The signer has a signature for the report. -/
def Signs (inputs : Inputs scheme settings read) : Prop :=
  (scheme.sign inputs.key
    (PreparedResponse.currentReport inputs.data).signedBytes.toList).isSome

/-! ## What the device makes of it -/

/-- What the fixture of some input holds. -/
structure Yields (inputs : Inputs scheme settings read) (fixture : Fixture) : Prop where
  report : fixture.report = signedReport scheme inputs.key inputs.data
  publicKey : fixture.publicKey = scheme.encodeKey (scheme.publicKey inputs.key)
  empty : fixture.certificates = [] ↔ inputs.given = []
  listed : inputs.given ≠ [] → ∃ table,
    CertificateTable.parse fixture.certificates = .ok table ∧ table.entries = inputs.given

/-- Certificates that fit are handed out, none for none. -/
theorem exists_blob_of_fits (inputs : Inputs scheme settings read) (hFits : inputs.Fits) :
    ∃ certificates, blob inputs.table = .ok certificates ∧
      certificates.length < CertificateTable.wordLimit ∧
      (certificates = [] ↔ inputs.given = []) ∧
      (inputs.given ≠ [] → ∃ table, CertificateTable.parse certificates = .ok table ∧
        table.entries = inputs.given) := by
  have hLength : inputs.given.length = (certificateFiles settings).length := List.length_map _
  rw [Fits, hLength] at hFits
  obtain ⟨certificates, hBlob, hSize, hNone, hParses⟩ := exists_certificates hFits
  exact ⟨certificates, hBlob, hSize, hNone.trans List.map_eq_nil_iff.symm, hParses⟩

theorem exists_make (inputs : Inputs scheme settings read) (hFits : inputs.Fits)
    (hSigns : inputs.Signs) :
    ∃ fixture, make scheme inputs.key inputs.data settings.vmpl inputs.table = .ok fixture ∧
      inputs.Yields fixture := by
  obtain ⟨certificates, hBlob, hSize, hNone, hParses⟩ := inputs.exists_blob_of_fits hFits
  obtain ⟨signed, hSign⟩ := (Report.exists_sign_ofKey_iff inputs.key _).mpr hSigns
  refine ⟨_, make_of_blob hSign hBlob hSize settings.vmpl, ?_, rfl, hNone, hParses⟩
  rw [signedReport, hSign]

theorem entries_table (inputs : Inputs scheme settings read) :
    inputs.table.entries = inputs.given := by
  have hKinds := kinds_sublist settings inputs.contents
  exact OrderedMap.entries_ofList (hKinds.nodup (by decide))

/-- A table that does not fit has no written form, or one that is too long to be declared. -/
theorem fits_of_make (inputs : Inputs scheme settings read) {fixture : Fixture}
    (hMake : make scheme inputs.key inputs.data settings.vmpl inputs.table = .ok fixture) :
    inputs.Fits := by
  by_contra hLarge
  have hSome : inputs.given ≠ [] := by
    intro hNone
    refine hLarge ?_
    rw [Fits, hNone]
    decide
  have hFull : ¬ inputs.table.isEmpty = true := by
    rw [OrderedMap.isEmpty, entries_table]
    simpa using hSome
  cases hBlob : blob inputs.table with
  | error cause => cases (make_of_unwritten hBlob settings.vmpl).symm.trans hMake
  | ok bytes =>
      have hWritten : CertificateTable.toBytes inputs.table = .ok bytes :=
        (if_neg hFull).symm.trans hBlob
      have hLength : CertificateTable.wordLimit ≤ bytes.length := by
        rw [CertificateTable.length_toBytes hWritten, CertificateTable.dataBase, OrderedMap.size,
          entries_table]
        exact Nat.not_lt.mp hLarge
      let device : SimulatedDevice :=
        { prepared (.ofKey scheme inputs.key) inputs.data bytes with isOpen := true }
      have hOpen : device.isOpen = true := rfl
      have hClient := SimulatedDevice.requestWithCertificates_of_large hOpen hLength inputs.data
        settings.vmpl
      cases (make_of_failure hBlob rfl hClient).symm.trans hMake

theorem signs_of_make (inputs : Inputs scheme settings read) {fixture : Fixture}
    (hMake : make scheme inputs.key inputs.data settings.vmpl inputs.table = .ok fixture) :
    inputs.Signs := by
  obtain ⟨bytes, hBlob, hSize, -⟩ := inputs.exists_blob_of_fits (inputs.fits_of_make hMake)
  let device : SimulatedDevice :=
    { prepared (.ofKey scheme inputs.key) inputs.data bytes with isOpen := true }
  have hOpen : device.isOpen = true := rfl
  have hFound : device.registry.get? inputs.data = some (.accepted inputs.data) :=
    OrderedMap.get?_insert_self _ _ _
  cases hSign : (PreparedResponse.currentReport inputs.data).sign (.ofKey scheme inputs.key) with
  | mk result signed =>
      cases result with
      | ok _ => exact (Report.exists_sign_ofKey_iff inputs.key _).mp ⟨signed, hSign⟩
      | error cause =>
          have hServe := SimulatedDevice.serve_of_unsigned hFound rfl hSign .zero .clear
          have hClient := SimulatedDevice.requestWithCertificates_open hOpen hSize inputs.data
            settings.vmpl
          rw [hServe] at hClient
          cases (make_of_failure hBlob rfl hClient).symm.trans hMake

/-- The device fails in no other case. -/
theorem exists_make_iff (inputs : Inputs scheme settings read) :
    (∃ fixture, make scheme inputs.key inputs.data settings.vmpl inputs.table = .ok fixture) ↔
      inputs.Fits ∧ inputs.Signs := by
  constructor
  · rintro ⟨fixture, hMake⟩
    exact ⟨inputs.fits_of_make hMake, inputs.signs_of_make hMake⟩
  · rintro ⟨hFits, hSigns⟩
    obtain ⟨fixture, hMake, -⟩ := inputs.exists_make hFits hSigns
    exact ⟨fixture, hMake⟩

theorem yields_of_make (inputs : Inputs scheme settings read) {fixture : Fixture}
    (hMake : make scheme inputs.key inputs.data settings.vmpl inputs.table = .ok fixture) :
    inputs.Yields fixture := by
  obtain ⟨other, hOther, hYields⟩ :=
    inputs.exists_make (inputs.fits_of_make hMake) (inputs.signs_of_make hMake)
  obtain rfl : other = fixture := Except.ok.inj (hOther.symm.trans hMake)
  exact hYields

end Inputs

end Taking

/-! ## Runs -/

/-- How a run ends. -/
def outcome : Except FixtureError String → Outcome
  | .error cause => ⟨1, "", cause.message⟩
  | .ok line => ⟨0, line, ""⟩

section Runs

variable {σ : Type} {system : FileSystem (StateM σ)} {arguments : List String} {state : σ}
  {read : String → Except OsError Bytes}

theorem run_of_parse (hParse : Settings.parse arguments = .ok settings) :
    run scheme system arguments state =
      (outcome (generate scheme system settings state).1,
        (generate scheme system settings state).2) := by
  simp only [run, hParse, bind, StateT.bind]
  rcases generate scheme system settings state with ⟨_ | _, after⟩ <;> rfl

/-- A refusal changes nothing. -/
theorem run_of_refuses (hReads : system.Reads state read)
    (hParse : Settings.parse arguments = .ok settings) {cause : FixtureError}
    (hRefuses : Refuses scheme settings read cause) :
    run scheme system arguments state = (⟨1, "", cause.message⟩, state) := by
  have hGenerate : generate scheme system settings state = (.error cause, state) := by
    cases hRefuses with
    | hex cause hHex =>
        simp only [generate, reportDataOfText_of_hex hHex]
        rfl
    | long bytes hHex hLong =>
        simp only [generate, reportDataOfText_of_long hHex hLong]
        rfl
    | seed data hData hSeed =>
        simp only [generate, hData, hSeed]
        rfl
    | certificate data key front back kind path cause hData hSeed hFiles hFront hFail =>
        have hTable := readCertificates_of_failure hReads hFiles hFront hFail .empty
        simp only [generate, hData, hSeed, bind, StateT.bind, hTable]
        rfl
  rw [run_of_parse hParse, hGenerate]
  rfl

/-- With acceptable input the device decides, and then the fixture is written. -/
theorem run_of_inputs (hReads : system.Reads state read)
    (hParse : Settings.parse arguments = .ok settings)
    (inputs : Inputs scheme settings read) :
    run scheme system arguments state =
      match make scheme inputs.key inputs.data settings.vmpl inputs.table with
      | .error cause => (⟨1, "", (FixtureError.device cause).message⟩, state)
      | .ok fixture =>
        let written := write system settings.outputDir fixture state
        (outcome (written.1.map fun _ => summary inputs.data), written.2) := by
  have hTable : readCertificates system
      [(.ark, settings.ark), (.ask, settings.ask), (.vcek, settings.vcek)] .empty state =
        (.ok inputs.table, state) :=
    readCertificates_of_contents hReads inputs.certificates .empty
  rw [run_of_parse hParse]
  simp only [generate, inputs.reportData, inputs.seed, bind, StateT.bind, hTable]
  cases make scheme inputs.key inputs.data settings.vmpl inputs.table with
  | error cause => rfl
  | ok fixture =>
      rcases hWritten : write system settings.outputDir fixture state with ⟨_ | _, after⟩
      · simp only [StateT.bind, hWritten]
        rfl
      · simp only [StateT.bind, hWritten]
        rfl

end Runs

section Trees

variable {arguments : List String} {tree final : FileTree} {line : String}

/-- A run that goes well took acceptable input. -/
theorem nonempty_inputs_of_run (hParse : Settings.parse arguments = .ok settings)
    (hRun : run scheme FileTree.fileSystem arguments tree = (⟨0, line, ""⟩, final)) :
    Nonempty (Inputs scheme settings tree.readFile) := by
  rcases isEmpty_or_nonempty (Inputs scheme settings tree.readFile) with hNone | hSome
  · obtain ⟨cause, hRefuses⟩ := isEmpty_inputs_iff.mp hNone
    have hRefused := run_of_refuses tree.reads hParse hRefuses
    cases congrArg (fun ended => ended.1.exitCode) (hRefused.symm.trans hRun)
  · exact hSome

/-- A run that goes well made a fixture and wrote all of it. -/
theorem exists_written_of_run (hParse : Settings.parse arguments = .ok settings)
    (hRun : run scheme FileTree.fileSystem arguments tree = (⟨0, line, ""⟩, final))
    (inputs : Inputs scheme settings tree.readFile) :
    ∃ fixture,
      make scheme inputs.key inputs.data settings.vmpl inputs.table = .ok fixture ∧
      write FileTree.fileSystem settings.outputDir fixture tree = (.ok (), final) := by
  have hWhole := run_of_inputs tree.reads hParse inputs
  rw [hRun] at hWhole
  cases hMake : make scheme inputs.key inputs.data settings.vmpl inputs.table with
  | error cause =>
      rw [hMake] at hWhole
      cases congrArg (fun ended => ended.1.exitCode) hWhole
  | ok fixture =>
      rw [hMake] at hWhole
      refine ⟨fixture, rfl, ?_⟩
      rcases hWritten : write FileTree.fileSystem settings.outputDir fixture tree with
        ⟨cause | _, after⟩
      · simp only [hWritten] at hWhole
        cases congrArg (fun ended => ended.1.exitCode) hWhole
      · simp only [hWritten] at hWhole
        obtain rfl : final = after := congrArg Prod.snd hWhole
        rfl

theorem exists_certificates_of_run (hParse : Settings.parse arguments = .ok settings)
    (hRun : run scheme FileTree.fileSystem arguments tree = (⟨0, line, ""⟩, final))
    (inputs : Inputs scheme settings tree.readFile) (hSome : inputs.given ≠ []) :
    ∃ blob table,
      final.readFile (Path.join settings.outputDir "certs.bin") = .ok blob ∧
      CertificateTable.parse blob = .ok table ∧ table.entries = inputs.given := by
  obtain ⟨fixture, hMake, hWritten⟩ := exists_written_of_run hParse hRun inputs
  have hYields := inputs.yields_of_make hMake
  obtain ⟨table, hTable, hEntries⟩ := hYields.listed hSome
  have hFull : fixture.certificates ≠ [] := fun hEmpty => hSome (hYields.empty.mp hEmpty)
  have hFile : ("certs.bin", fixture.certificates) ∈ fixture.files := by
    simp [files, hFull]
  exact ⟨_, table, readFile_of_write hWritten hFile, hTable, hEntries⟩

end Trees

/-- For arguments that the parser accepts.  On any file system and in any state in which files can
be read without changing anything: there is a refusal exactly if not all input is acceptable; a
refusal, whichever it is, ends the run with its message and leaves the state as it was, and the
messages are these.  With acceptable input the device makes a fixture exactly if the certificates
fit into a length field and there is a signature for the report; it holds the certificates as they
were read, and the rest of the run is to write it, from the state as it was.  Without a fixture the
state is left as it was too.  On a tree, a run that succeeds had acceptable input, and for any such
input its file of certificates reads as what the certificate files held at the start, even if one of
them was written over. -/
theorem run_refuses_or_writes {arguments : List String}
    (hParse : Settings.parse arguments = .ok settings) :
    (∀ {σ : Type} (system : FileSystem (StateM σ)) (state : σ)
      (read : String → Except OsError Bytes), system.Reads state read →
      let endsWith (text : String) : Prop :=
        run scheme system arguments state = (⟨1, "", text⟩, state)
      (IsEmpty (Inputs scheme settings read) ↔ ∃ cause, Refuses scheme settings read cause) ∧
      (∀ cause, Refuses scheme settings read cause → endsWith cause.message) ∧
      (Refuses scheme settings read (.reportDataHex .oddLength) →
        endsWith "Error: report data is not valid hex: Odd number of digits\n") ∧
      (∀ byte position,
        Refuses scheme settings read (.reportDataHex (.invalidDigit byte position)) →
        endsWith ("Error: report data is not valid hex: Invalid character " ++ Quoted.byte byte ++
          " at position " ++ toString position ++ "\n")) ∧
      (∀ length, Refuses scheme settings read (.reportDataTooLong length) →
        endsWith ("Error: report data is " ++ toString length ++
          " bytes, at most 64 are allowed\n")) ∧
      (Refuses scheme settings read .seed →
        endsWith
          "Error: seed does not yield a valid P-384 scalar\n\nCaused by:\n    signature error\n") ∧
      (∀ path cause, Refuses scheme settings read (.certificate path cause) →
        endsWith ("Error: couldn't read certificate " ++ path ++ "\n\nCaused by:\n    " ++
          cause.text ++ " (os error " ++ toString cause.code ++ ")\n")) ∧
      ∀ inputs : Inputs scheme settings read,
        let made := make scheme inputs.key inputs.data settings.vmpl inputs.table
        ((∃ fixture, made = .ok fixture) ↔ inputs.Fits ∧ inputs.Signs) ∧
        (∀ cause, made = .error cause → endsWith (FixtureError.device cause).message) ∧
        ∀ fixture, made = .ok fixture → inputs.Yields fixture ∧
          let written := write system settings.outputDir fixture state
          run scheme system arguments state =
            (outcome (written.1.map fun _ => summary inputs.data), written.2)) ∧
    ∀ (tree final : FileTree) (line : String),
      run scheme FileTree.fileSystem arguments tree = (⟨0, line, ""⟩, final) →
      Nonempty (Inputs scheme settings tree.readFile) ∧
      ∀ inputs : Inputs scheme settings tree.readFile, inputs.given ≠ [] →
        ∃ blob table,
          final.readFile (Path.join settings.outputDir "certs.bin") = .ok blob ∧
          CertificateTable.parse blob = .ok table ∧ table.entries = inputs.given := by
  refine ⟨fun system state read hReads => ?_, fun tree final line hRun =>
    ⟨nonempty_inputs_of_run hParse hRun, exists_certificates_of_run hParse hRun⟩⟩
  intro endsWith
  -- Each text is the message of its cause, so one lemma on refused runs serves for all of them.
  have hEnds (cause : FixtureError) (text : String) (hText : cause.message = text)
      (hRefuses : Refuses scheme settings read cause) : endsWith text :=
    hText ▸ run_of_refuses hReads hParse hRefuses
  refine ⟨isEmpty_inputs_iff, fun cause => hEnds cause _ rfl, hEnds _ _ (by decide),
    fun byte position => hEnds _ _ (FixtureError.message_invalidDigit byte position),
    fun length => hEnds _ _ (FixtureError.message_reportDataTooLong length),
    hEnds _ _ (by decide),
    fun path cause => hEnds _ _ (FixtureError.message_certificate path cause), fun inputs => ?_⟩
  have hRun := run_of_inputs hReads hParse inputs
  refine ⟨inputs.exists_make_iff, fun cause hMake => ?_, fun fixture hMake =>
    ⟨inputs.yields_of_make hMake, ?_⟩⟩
  · show run scheme system arguments state = _
    rw [hRun, hMake]
  · rw [hRun, hMake]

/-- The certificate comes from the file over which the certificates are written. -/
theorem run_refuses_or_writes_of_overwritten_certificate :
    let tree := (FileTree.ofWorkingDirectory "w").plant ["certs.bin"] (.file [7])
    let arguments := ["--ark", "certs.bin"]
    ∃ line final blob table,
      run Ecdsa.trusted FileTree.fileSystem arguments tree = (⟨0, line, ""⟩, final) ∧
      final.readFile "./certs.bin" = .ok blob ∧ CertificateTable.parse blob = .ok table ∧
      table.entries = [(.ark, [7])] := by
  intro tree arguments
  let settings : Settings := { Settings.default with ark := some "certs.bin" }
  have hParse : Settings.parse arguments = .ok settings := rfl
  have hSeed : (Signer.keyOfSeed? Ecdsa.trusted (utf8 settings.seed)).isSome = true := by
    decide +kernel
  obtain ⟨key, hKey⟩ := Option.isSome_iff_exists.mp hSeed
  have hFile : tree.readFile "certs.bin" = .ok [7] := rfl
  have hCertificates : ∀ file ∈ certificateFiles settings, tree.readFile file.2 = .ok [7] := by
    have hFiles : certificateFiles settings = [(.ark, "certs.bin")] := rfl
    rw [hFiles, List.forall_mem_singleton]
    exact hFile
  let inputs : Inputs Ecdsa.trusted settings tree.readFile :=
    ⟨Block.padded 64 [], key, fun _ => [7], rfl, hKey, hCertificates⟩
  obtain ⟨hRuns, hOnTree⟩ := @run_refuses_or_writes Ecdsa.trusted settings arguments hParse
  obtain ⟨-, -, -, -, -, -, -, hInputs⟩ :=
    hRuns FileTree.fileSystem tree tree.readFile tree.reads
  obtain ⟨hMakes, -, hWrites⟩ := hInputs inputs
  have hFits : inputs.Fits := by
    show CertificateTable.pageCeiling (CertificateRecord.size * 2 + 1) < CertificateTable.wordLimit
    decide
  obtain ⟨fixture, hMake⟩ := hMakes.mpr ⟨hFits, Ecdsa.trusted_lawful.sign_isSome _ _⟩
  obtain ⟨hYields, hRun⟩ := hWrites fixture hMake
  have hRooms : ∀ file ∈ fixture.files, tree.HasRoom "." ["w"] file.1 := by
    have hInside : tree.inside "." = .ok ["w"] := rfl
    have hThree : ∀ name ∈ ["report.bin", "certs.bin", "vcek_public_key.hex"],
        tree.HasRoom "." ["w"] name := by
      rw [List.forall_mem_cons, List.forall_mem_cons, List.forall_mem_singleton]
      exact ⟨⟨by decide, hInside, by decide⟩, ⟨by decide, hInside, by decide⟩,
        ⟨by decide, hInside, by decide⟩⟩
    exact fun file hFile =>
      hThree file.1 (fixture.map_fst_files_sublist.subset (List.mem_map_of_mem hFile))
  have hDirectory : FileTree.fileSystem.createDirectories "." tree = (.ok (), tree) := rfl
  have hWritten : write FileTree.fileSystem settings.outputDir fixture tree =
      (.ok (), tree.putFiles ["w"] fixture.files) := by
    show write FileTree.fileSystem "." fixture tree = _
    simp only [write, bind, StateT.bind, hDirectory]
    exact writeFiles_of_room (fun file => isFileName_of_mem_files) hRooms
  rw [hWritten] at hRun
  obtain ⟨-, hOutput⟩ := hOnTree tree _ _ hRun
  have hGiven : inputs.given = [(.ark, [7])] := rfl
  obtain ⟨blob, table, hBlob, hTable, hEntries⟩ := hOutput inputs (by simp [hGiven])
  have hPath : Path.join settings.outputDir "certs.bin" = "./certs.bin" := by decide
  exact ⟨_, _, blob, table, hRun, hPath ▸ hBlob, hTable, hEntries⟩

end Fixture

end SnpGuest
