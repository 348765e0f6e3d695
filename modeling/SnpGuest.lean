import SnpGuest.Certificate.Source
import SnpGuest.Fixture.FileTree
import SnpGuest.Main
import SnpGuest.Proofs.Certificate.Canonical
import SnpGuest.Proofs.Certificate.Extension
import SnpGuest.Proofs.Certificate.Insertions
import SnpGuest.Proofs.Certificate.Layout
import SnpGuest.Proofs.Client.Failures
import SnpGuest.Proofs.Fixture.Refusals
import SnpGuest.Proofs.Message.ErrorText
import SnpGuest.Proofs.Report.Packing
import SnpGuest.Proofs.Report.ReservedAreas
import SnpGuest.Proofs.Report.SigningKey
import SnpGuest.Proofs.Report.Verification
import SnpGuest.Proofs.Simulator.Independence
import SnpGuest.Proofs.Simulator.PlainReports
