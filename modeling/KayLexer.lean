import KayLexer.Main
import KayLexer.Scanner.Session
import KayLexer.Task
import KayLexer.Proofs.Layout
import KayLexer.Proofs.Rebasing
import KayLexer.Proofs.Scanner.Alike
import KayLexer.Proofs.Scanner.Failure
import KayLexer.Proofs.Scanner.Lifetime
import KayLexer.Proofs.Scanner.Stream
import KayLexer.Proofs.Scanner.Undecodable
import KayLexer.Proofs.Fronts
import KayLexer.Proofs.Scanner.Lookahead
import KayLexer.Proofs.Scanner.Consumption
import KayLexer.Proofs.Scanner.Reading
import KayLexer.Proofs.Command
import KayLexer.Proofs.Deliveries
import KayLexer.Proofs.Scanner.Sharing
import KayLexer.Proofs.CarriageReturns
import KayLexer.Proofs.Encoding.Acceptance
import KayLexer.Proofs.Source.Acceptance
import KayLexer.Proofs.Source.Interruptions
import KayLexer.Proofs.Lines
import KayLexer.Proofs.Printing
import KayLexer.Proofs.Scanner.Resumption
import KayLexer.Proofs.SettingsFile
import KayLexer.Proofs.Scanner.Spending
import KayLexer.Proofs.Scanner.Termination
import KayLexer.Proofs.Scanner.Closing
import KayLexer.Proofs.Scanner.Coherence
