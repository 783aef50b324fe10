import Abacus.Main
import Abacus.Proofs.LineBreaks
import Abacus.Proofs.NestingLimit
import Abacus.Proofs.Deliveries
import Abacus.Proofs.Respacing
import Abacus.Proofs.LineNumbers
import Abacus.Proofs.Turns
import Abacus.Proofs.EntryPaths
import Abacus.Proofs.Positions
import Abacus.Proofs.Locality
import Abacus.Proofs.LoggedLines
import Abacus.Proofs.Chains
import Abacus.Proofs.Literals
import Abacus.Proofs.ExactTotals
import Abacus.Proofs.Causes
import Abacus.Proofs.Likeness
import Abacus.Proofs.TokenShapes
