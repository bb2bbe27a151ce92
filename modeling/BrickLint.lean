import BrickLint.Catalog.Bundled
import BrickLint.Proofs.AsmBlock.Report
import BrickLint.Proofs.CatalogFile
import BrickLint.Proofs.CatalogFreshness
import BrickLint.Proofs.DefinitionBody.Report
import BrickLint.Proofs.Dialect.Exposure
import BrickLint.Proofs.Dialect.InPlace
import BrickLint.Proofs.EnumBlock
import BrickLint.Proofs.Excerpt
import BrickLint.Proofs.FunctionConflict.Prototype
import BrickLint.Proofs.Grammar.Hints
import BrickLint.Proofs.HeaderScope.Loop
import BrickLint.Proofs.HintLine
import BrickLint.Proofs.LexicalScope.Correctness
import BrickLint.Proofs.LoopScope.Chain
import BrickLint.Proofs.Options
import BrickLint.Proofs.ParenDepth
import BrickLint.Proofs.Spelling.Suggestion
import BrickLint.Proofs.Timer.Debounce
import BrickLint.Proofs.TokenPartition
import BrickLint.Text.Quoted
import BrickLint.Tools.Expand.Source
import BrickLint.Tools.Outline
