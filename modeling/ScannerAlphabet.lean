import ScannerAlphabet.ClassTable
import ScannerAlphabet.Refiner
import ScannerAlphabet.Unicode.Cache
import ScannerAlphabet.Proofs.Reachable
import ScannerAlphabet.Proofs.Coarsest
import ScannerAlphabet.Proofs.StableCodes
import ScannerAlphabet.Proofs.TableTiling
import ScannerAlphabet.Proofs.WideningReadBack
import ScannerAlphabet.Proofs.LateNarrowing
import ScannerAlphabet.Proofs.CaseVariants
import ScannerAlphabet.Proofs.BuiltSets
import ScannerAlphabet.Proofs.VariantClasses
import ScannerAlphabet.Proofs.NameBinding
import ScannerAlphabet.Proofs.Refusals
import ScannerAlphabet.Proofs.TraceLog
import ScannerAlphabet.Proofs.LooseLookup
import ScannerAlphabet.Proofs.SetAlgebra
import ScannerAlphabet.Proofs.GatheredSpans
import ScannerAlphabet.Proofs.Folding
import ScannerAlphabet.Proofs.AlphabetSequences
import ScannerAlphabet.Proofs.Machine.Sessions
import ScannerAlphabet.Proofs.Machine.Packed
import ScannerAlphabet.Proofs.TextRequests
import ScannerAlphabet.Proofs.PartitionCheck
import ScannerAlphabet.Proofs.LetterNames
import ScannerAlphabet.Proofs.ClassDumps
import ScannerAlphabet.Proofs.SetReadings
import ScannerAlphabet.Proofs.NormalNames
import ScannerAlphabet.Proofs.SharedDatabases
import ScannerAlphabet.Proofs.CursorsInStep
