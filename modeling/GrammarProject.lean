import GrammarProject.Command
import GrammarProject.Main
import GrammarProject.Proofs.Descriptor.Independence
import GrammarProject.Proofs.Descriptor.Orderly
import GrammarProject.Proofs.Descriptor.RoundTrip
import GrammarProject.Proofs.Descriptor.Degradation
import GrammarProject.Proofs.Descriptor.Account
import GrammarProject.Proofs.Descriptor.Streaming
import GrammarProject.Proofs.FileTree.Listing
import GrammarProject.Proofs.Glob.Directory
import GrammarProject.Proofs.Descriptor.Examples
import GrammarProject.Proofs.Descriptor.Failures
import GrammarProject.Proofs.Project.Names
import GrammarProject.Proofs.Project.Clashes
import GrammarProject.Proofs.Project.Building
import GrammarProject.Proofs.Command.Scan
import GrammarProject.Proofs.Grammar.Header
import GrammarProject.Proofs.Literal.Clean
import GrammarProject.Proofs.Command.Renderings
import GrammarProject.Proofs.Text.Lines
import GrammarProject.Proofs.Text.Words
import GrammarProject.Proofs.Text.PlainEncoding
import GrammarProject.Proofs.Grammar.Written
import GrammarProject.Proofs.Descriptor.Rereading
import GrammarProject.Proofs.Descriptor.Resolution
import GrammarProject.Proofs.Descriptor.Atomicity
import GrammarProject.Proofs.Descriptor.Spelling
import GrammarProject.Proofs.Descriptor.Expansions
import GrammarProject.Proofs.Command.Rows
import GrammarProject.Proofs.Descriptor.ExampleRoot
import GrammarProject.Proofs.Descriptor.Patterns
import GrammarProject.Proofs.Descriptor.Search
