import MiniPascal.Main
import MiniPascal.Proofs.Counting
import MiniPascal.Proofs.Occurrences
import MiniPascal.Proofs.Parser.Resumption
import MiniPascal.Proofs.References
import MiniPascal.Proofs.Report
import MiniPascal.Proofs.Tally
import MiniPascal.Proofs.Text.Analyses
import MiniPascal.Proofs.Text.Concatenation
import MiniPascal.Proofs.Text.DanglingElse
import MiniPascal.Proofs.Text.Labels
import MiniPascal.Proofs.Text.LetterCase
import MiniPascal.Proofs.Text.WellFormedness
import MiniPascal.Proofs.Traversal
