import SnpGuest.Proofs.Fixture.Generation
import SnpGuest.Proofs.Fixture.ReportData
import SnpGuest.Proofs.Report.Validation

namespace SnpGuest

/-!
# Runs that make a fixture

What the tool leaves behind when nothing stands in its way: settings that it accepts, certificates
that can be read, and an output directory with room for the files.  The report and the public key
follow from the seed and the report data alone; the certificates are those of the files, and their
file is there only if one was asked for.
-/

namespace Fixture

/-- The certificate files that the settings name, in order. -/
def certificateFiles (settings : Settings) : List (CertificateKind × String) :=
  chosen [(.ark, settings.ark), (.ask, settings.ask), (.vcek, settings.vcek)]

/-- The names of the files that the tool writes. -/
def outputNames (settings : Settings) : List String :=
  ["report.bin"] ++ (if (certificateFiles settings).isEmpty then [] else ["certs.bin"]) ++
    ["vcek_public_key.hex"]

theorem outputNames_sublist (settings : Settings) :
    (outputNames settings).Sublist ["report.bin", "certs.bin", "vcek_public_key.hex"] := by
  rw [outputNames]
  split <;> decide

theorem isFileName_of_mem_outputNames {settings : Settings} {name : String}
    (hName : name ∈ outputNames settings) : IsFileName name := by
  have hAll : ∀ name ∈ ["report.bin", "certs.bin", "vcek_public_key.hex"], IsFileName name := by
    decide
  exact hAll name ((outputNames_sublist settings).subset hName)

/-- The files of a fixture bear the names, if its certificates are there just when asked for. -/
theorem map_fst_files {settings : Settings} {fixture : Fixture}
    (hCertificates : fixture.certificates = [] ↔ certificateFiles settings = []) :
    fixture.files.map Prod.fst = outputNames settings := by
  by_cases hNone : certificateFiles settings = []
  · simp [files, outputNames, hNone, hCertificates.mpr hNone]
  · have hSome : fixture.certificates ≠ [] := fun hEmpty => hNone (hCertificates.mp hEmpty)
    simp [files, outputNames, hNone, hSome]

/-! ## What the files hold -/

/-- The certificates of the settings are of different kinds, in this order. -/
theorem kinds_sublist (settings : Settings) (contents : String → Bytes) :
    ((certificatesOf contents (certificateFiles settings)).map Prod.fst).Sublist
      [.ark, .ask, .vcek] := by
  rw [map_fst_certificatesOf]
  exact map_fst_chosen_sublist _

/-- The certificates of the settings are handed out in the order of their kinds, none for none. -/
theorem exists_certificates {settings : Settings} {contents : String → Bytes}
    (hSize : CertificateTable.pageCeiling
        (CertificateRecord.size * ((certificateFiles settings).length + 1) +
          CertificateTable.dataLength (certificatesOf contents (certificateFiles settings))) <
      CertificateTable.wordLimit) :
    let given := certificatesOf contents (certificateFiles settings)
    ∃ certificates, blob (OrderedMap.ofList given) = .ok certificates ∧
      certificates.length < CertificateTable.wordLimit ∧
      (certificates = [] ↔ certificateFiles settings = []) ∧
      (given ≠ [] → ∃ table, CertificateTable.parse certificates = .ok table ∧
        table.entries = given) := by
  intro given
  have hKeys : (given.map Prod.fst).Sublist [.ark, .ask, .vcek] := kinds_sublist settings contents
  have hDistinct : (given.map Prod.fst).Nodup := hKeys.nodup (by decide)
  have hKnown : ∀ entry ∈ given, entry.1 ∈ CertificateKind.known := by
    have hThree : [CertificateKind.ark, .ask, .vcek] ⊆ CertificateKind.known := by decide
    exact fun entry hEntry => hThree (hKeys.subset (List.mem_map_of_mem hEntry))
  have hLength : given.length = (certificateFiles settings).length := List.length_map _
  obtain ⟨certificates, hBlob, hFits, hNone, hParses⟩ :=
    exists_blob hDistinct hKnown (hLength ▸ hSize)
  exact ⟨certificates, hBlob, hFits, hNone.trans List.map_eq_nil_iff,
    fun hSome => ⟨_, hParses hSome, OrderedMap.entries_ofList hDistinct⟩⟩

/-- The report is about the data, and it is sound in form and signature. -/
theorem signedReport_sound {scheme : SignatureScheme} (hLawful : scheme.Lawful)
    (key : scheme.PrivateKey) (data : Block 64) :
    let report := signedReport scheme key data
    report.body.reportData = data ∧ report.validate = .ok () ∧
      report.verify scheme (scheme.publicKey key) = .ok () := by
  refine ⟨?_, ?_, (signedBy_signedReport hLawful key data).verifies⟩
  · rw [signedReport, Report.sign_body]
    rfl
  · exact (Report.validate_sign _ _).trans (Report.validate_currentReport data)

/-- Files that can be written are written: each reads back, the other names in their directory read
as before, and so does everything under another name anywhere. -/
theorem exists_written {settings : Settings} {fixture : Fixture} {made : FileTree}
    (hNames : fixture.files.map Prod.fst = outputNames settings)
    (hWritable : ∀ name ∈ outputNames settings, ∃ written,
      made.writeFile (Path.join settings.outputDir name) [] = .ok written) :
    let path := Path.join settings.outputDir
    ∃ final, writeFiles FileTree.fileSystem settings.outputDir fixture.files made =
        (.ok (), final) ∧
      (∀ name contents, (name, contents) ∈ fixture.files →
        final.readFile (path name) = .ok contents) ∧
      (∀ name, IsFileName name → name ∉ outputNames settings →
        final.readFile (path name) = made.readFile (path name)) ∧
      ∀ location, (∀ name ∈ outputNames settings, location.getLast? ≠ some name) →
        final.entryAt location = made.entryAt location := by
  intro path
  have hMember : ∀ file ∈ fixture.files, file.1 ∈ outputNames settings :=
    fun file hFile => hNames ▸ List.mem_map.mpr ⟨file, hFile, rfl⟩
  have hFileNames : ∀ file ∈ fixture.files, IsFileName file.1 := fun file => isFileName_of_mem_files
  have hDifferent : (fixture.files.map Prod.fst).Nodup :=
    fixture.map_fst_files_sublist.nodup (by decide)
  obtain ⟨place, hPlaces⟩ := FileTree.exists_rooms
    (fun name hName => isFileName_of_mem_outputNames hName) hWritable (by simp [outputNames])
  have hRooms : ∀ file ∈ fixture.files, made.HasRoom settings.outputDir place file.1 :=
    fun file hFile => hPlaces _ (hMember file hFile)
  have hFrame : ∀ location, (∀ name ∈ outputNames settings, location.getLast? ≠ some name) →
      (made.putFiles place fixture.files).entryAt location = made.entryAt location := by
    intro location hLocation
    apply FileTree.entryAt_putFiles_of_ne
    rintro file hFile rfl
    exact hLocation file.1 (hMember file hFile) (by simp)
  refine ⟨made.putFiles place fixture.files, writeFiles_of_room hFileNames hRooms,
    fun name contents hFile => FileTree.readFile_putFiles hFileNames hDifferent hRooms hFile,
    fun name hName hOther => ?_, hFrame⟩
  -- The report stands beside any other file of the directory, so its walk is theirs.
  have hReport := hPlaces "report.bin" (by simp [outputNames])
  have hInside := (FileTree.HasRoom.putFiles hRooms hReport).inside
  refine FileTree.readFile_congr hName hInside hReport.inside
    (hFrame _ fun written hWritten => ?_)
  rintro hSame
  simp at hSame
  exact hOther (hSame ▸ hWritten)

/-! ## Runs -/

/-- A run whose steps all go well. -/
theorem run_of_steps {scheme : SignatureScheme} {arguments : List String} {settings : Settings}
    {data : Block 64} {key : scheme.PrivateKey} {table : CertificateTable} {fixture : Fixture}
    {tree made final : FileTree} (hParse : Settings.parse arguments = .ok settings)
    (hData : reportDataOfText settings.reportData = .ok data)
    (hKey : Signer.keyOfSeed? scheme (utf8 settings.seed) = some key)
    (hTable : readCertificates FileTree.fileSystem
      [(.ark, settings.ark), (.ask, settings.ask), (.vcek, settings.vcek)] .empty tree =
        (.ok table, tree))
    (hMake : make scheme key data settings.vmpl table = .ok fixture)
    (hDirectory : FileTree.fileSystem.createDirectories settings.outputDir tree = (.ok (), made))
    (hWrite : writeFiles FileTree.fileSystem settings.outputDir fixture.files made =
      (.ok (), final)) :
    run scheme FileTree.fileSystem arguments tree = (⟨0, summary data, ""⟩, final) := by
  have hFixture : write FileTree.fileSystem settings.outputDir fixture tree = (.ok (), final) := by
    simp only [write, bind, StateT.bind, hDirectory, hWrite]
  have hGenerate : generate scheme FileTree.fileSystem settings tree =
      (.ok (summary data), final) := by
    simp only [generate, hData, hKey, bind, StateT.bind, hTable, hMake, hFixture]
    rfl
  simp only [run, hParse, bind, StateT.bind, hGenerate]
  rfl

/-- For a lawful scheme, and a fixture that nothing stands in the way of: acceptable arguments, data
of at most 64 bytes, a seed that yields a key, certificate files that can be read and whose table
fits into four bytes, and an output directory that can be made and has room for the files.  The tool
succeeds and prints the padded data.  It writes a report of 1184 bytes over these data, which passes
validation and verifies under the public key in the other file; both follow from the seed and the
data.  The file of certificates is written just when a certificate was asked for, and reads as the
certificates in order with the contents of their files.  The level has no part in any of this, and
nothing but these files is touched in the output directory or elsewhere. -/
theorem run_makes_fixture {scheme : SignatureScheme} (hLawful : scheme.Lawful)
    {arguments : List String} {settings : Settings} {bytes : Bytes} {key : scheme.PrivateKey}
    (hParse : Settings.parse arguments = .ok settings)
    (hHex : Hex.decode settings.reportData = .ok bytes) (hShort : bytes.length ≤ 64)
    (hKey : Signer.keyOfSeed? scheme (utf8 settings.seed) = some key)
    {tree made : FileTree} {contents : String → Bytes}
    (hRead : ∀ file ∈ certificateFiles settings, tree.readFile file.2 = .ok (contents file.2))
    (hSize : CertificateTable.pageCeiling
        (CertificateRecord.size * ((certificateFiles settings).length + 1) +
          CertificateTable.dataLength (certificatesOf contents (certificateFiles settings))) <
      CertificateTable.wordLimit)
    (hDirectory : FileTree.fileSystem.createDirectories settings.outputDir tree = (.ok (), made))
    (hWritable : ∀ name ∈ outputNames settings, ∃ written,
      made.writeFile (Path.join settings.outputDir name) [] = .ok written) :
    let data := Block.padded 64 bytes
    let report := signedReport scheme key data
    let given := certificatesOf contents (certificateFiles settings)
    let path := Path.join settings.outputDir
    ∃ final,
      run scheme FileTree.fileSystem arguments tree =
        (⟨0, "Report data: " ++ Hex.encode data.toList ++ "\n", ""⟩, final) ∧
      (∀ other vmpl, Settings.parse other = .ok { settings with vmpl := vmpl } →
        run scheme FileTree.fileSystem other tree =
          run scheme FileTree.fileSystem arguments tree) ∧
      (final.readFile (path "report.bin") = .ok report.toBlock.toList ∧
        report.toBlock.toList.length = 1184 ∧ report.body.reportData = data ∧
        report.validate = .ok () ∧ report.verify scheme (scheme.publicKey key) = .ok ()) ∧
      final.readFile (path "vcek_public_key.hex") =
        .ok (utf8 (Hex.encode (scheme.encodeKey (scheme.publicKey key)))) ∧
      (given ≠ [] → ∃ blob table, final.readFile (path "certs.bin") = .ok blob ∧
        CertificateTable.parse blob = .ok table ∧ table.entries = given) ∧
      (given = [] → final.readFile (path "certs.bin") = made.readFile (path "certs.bin")) ∧
      ∀ location, (∀ name ∈ outputNames settings, location.getLast? ≠ some name) →
        final.entryAt location = made.entryAt location := by
  intro data report given path
  have hData : reportDataOfText settings.reportData = .ok data := by
    simp only [reportDataOfText, hHex, if_pos hShort, data]
  obtain ⟨certificates, hBlob, hFits, hNone, hParses⟩ := exists_certificates hSize
  let fixture : Fixture := ⟨report, certificates, scheme.encodeKey (scheme.publicKey key)⟩
  have hSign := (signedBy_signedReport hLawful key data).sign
  obtain ⟨hReportData, hValid, hVerifies⟩ := signedReport_sound hLawful key data
  have hNames : fixture.files.map Prod.fst = outputNames settings := map_fst_files hNone
  obtain ⟨final, hWrite, hReads, hOthers, hFrame⟩ := exists_written hNames hWritable
  have hRun : ∀ other vmpl, Settings.parse other = .ok { settings with vmpl := vmpl } →
      run scheme FileTree.fileSystem other tree = (⟨0, summary data, ""⟩, final) :=
    fun other vmpl hOther => run_of_steps hOther hData hKey
      (readCertificates_of_read hRead .empty) (make_of_blob hSign hBlob hFits vmpl) hDirectory
      hWrite
  refine ⟨final, hRun arguments settings.vmpl hParse, fun other vmpl hOther => ?_,
    ⟨hReads _ _ ?_, report.toBlock.length_toList, hReportData, hValid, hVerifies⟩,
    hReads _ _ ?_, fun hSome => ?_, fun hEmpty => hOthers _ (by decide) ?_, hFrame⟩
  · rw [hRun other vmpl hOther, hRun arguments settings.vmpl hParse]
  · simp [fixture, files]
  · simp [fixture, files]
  · obtain ⟨table, hParse, hEntries⟩ := hParses hSome
    have hFull : certificates ≠ [] :=
      fun hEmpty => hSome (List.map_eq_nil_iff.mpr (hNone.mp hEmpty))
    exact ⟨certificates, table, hReads _ _ (by simp [fixture, files, hFull]), hParse, hEntries⟩
  · simp [outputNames, List.map_eq_nil_iff.mp hEmpty]

/-- Two certificates, the second from an empty file: both are in the file of certificates. -/
theorem run_makes_fixture_of_empty_certificate :
    let tree := ((FileTree.ofWorkingDirectory "w").plant ["root.der"] (.file [7])).plant
      ["chip.der"] (.file [])
    let arguments := ["--report-data", "0102", "--ark", "root.der", "--vcek=chip.der",
      "--output-dir", "out"]
    ∃ final blob table,
      run Ecdsa.trusted FileTree.fileSystem arguments tree =
        (⟨0, summary (Block.padded 64 [1, 2]), ""⟩, final) ∧
      final.readFile "out/certs.bin" = .ok blob ∧ CertificateTable.parse blob = .ok table ∧
      table.entries = [(.ark, [7]), (.vcek, [])] := by
  intro tree arguments
  let settings : Settings :=
    ⟨"0102", "oak-sev-guest-fixture", 0, some "root.der", none, some "chip.der", "out"⟩
  let contents (path : String) : Bytes := if path = "root.der" then [7] else []
  have hParse : Settings.parse arguments = .ok settings := rfl
  have hSeed : (Signer.keyOfSeed? Ecdsa.trusted (utf8 settings.seed)).isSome = true := by
    decide +kernel
  obtain ⟨key, hKey⟩ := Option.isSome_iff_exists.mp hSeed
  have hHex : Hex.decode settings.reportData = .ok [1, 2] := Hex.decode_encode [1, 2]
  have hRead : ∀ file ∈ certificateFiles settings,
      tree.readFile file.2 = .ok (contents file.2) := by
    have hFiles : certificateFiles settings = [(.ark, "root.der"), (.vcek, "chip.der")] := rfl
    rw [hFiles, List.forall_mem_cons, List.forall_mem_singleton]
    exact ⟨rfl, rfl⟩
  let made : FileTree := (FileTree.fileSystem.createDirectories "out" tree).2
  have hMade : (FileTree.fileSystem.createDirectories "out" tree).1 = .ok () := rfl
  have hDirectory : FileTree.fileSystem.createDirectories settings.outputDir tree =
      (.ok (), made) := Prod.ext hMade rfl
  have hRooms : ∀ name ∈ ["report.bin", "certs.bin", "vcek_public_key.hex"],
      made.HasRoom "out" ["w", "out"] name := by
    have hInside : made.inside "out" = .ok ["w", "out"] := rfl
    rw [List.forall_mem_cons, List.forall_mem_cons, List.forall_mem_singleton]
    exact ⟨⟨by decide, hInside, by decide⟩, ⟨by decide, hInside, by decide⟩,
      ⟨by decide, hInside, by decide⟩⟩
  have hWritable : ∀ name ∈ outputNames settings, ∃ written,
      made.writeFile (Path.join settings.outputDir name) [] = .ok written :=
    fun name hName => ⟨_, FileTree.writeFile_of_room (isFileName_of_mem_outputNames hName)
      (hRooms name ((outputNames_sublist settings).subset hName)) []⟩
  obtain ⟨final, hRun, -, -, -, hCertificates, -⟩ :=
    run_makes_fixture Ecdsa.trusted_lawful hParse hHex (by decide) hKey hRead (by decide)
      hDirectory hWritable
  obtain ⟨blob, table, hBlob, hTable, hEntries⟩ := hCertificates (by decide)
  have hPath : Path.join settings.outputDir "certs.bin" = "out/certs.bin" := by decide
  exact ⟨final, blob, table, hRun, hPath ▸ hBlob, hTable, hEntries⟩

end Fixture

end SnpGuest
