import LineShell.Main
import LineShell.Proofs.Browsing
import LineShell.Proofs.HistoryAppends
import LineShell.Proofs.HistoryFormat
import LineShell.Proofs.HomeDirectory
import LineShell.Proofs.KeyReads
import LineShell.Proofs.LimitedScreens
import LineShell.Proofs.Persistence
import LineShell.Proofs.PrefixTree
import LineShell.Proofs.Printing
import LineShell.Proofs.ProgramSearch
import LineShell.Proofs.QuotedArguments
import LineShell.Proofs.RawMode
import LineShell.Proofs.RedirectionOwners
import LineShell.Proofs.Sessions
import LineShell.Proofs.SingleStage
import LineShell.Proofs.SparedStreams
import LineShell.Proofs.TabCompletion
import LineShell.Proofs.Threads
import LineShell.Proofs.TypedLines
import LineShell.Proofs.UnknownStages
import LineShell.Proofs.WordCompletion
import LineShell.Samples
