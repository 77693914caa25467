import GrammarLoader.Cli.Run
import GrammarLoader.Files.Host
import GrammarLoader.Main
import GrammarLoader.Proofs.Utf8
import GrammarLoader.Proofs.Validation
import GrammarLoader.Proofs.Codec
import GrammarLoader.Proofs.Loading
import GrammarLoader.Proofs.FileTree
import GrammarLoader.Proofs.Saving
import GrammarLoader.Proofs.KindLookup
import GrammarLoader.Proofs.FieldLookup
import GrammarLoader.Proofs.CliRun
import GrammarLoader.Proofs.StoredFingerprint
import GrammarLoader.Proofs.Canonical
import GrammarLoader.Proofs.EditDetection
import GrammarLoader.Proofs.ReportTables
import GrammarLoader.Proofs.ArgumentScan
import GrammarLoader.Proofs.DecodeOutcomes
