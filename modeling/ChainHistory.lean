import ChainHistory.Http.App
import ChainHistory.Logging.Format
import ChainHistory.Main
import ChainHistory.Settings.Environment
import ChainHistory.Proofs.Confinement
import ChainHistory.Proofs.PathText
import ChainHistory.Proofs.PageMerge
import ChainHistory.Proofs.PageSelection
import ChainHistory.Proofs.RegistryKeys
import ChainHistory.Proofs.RegistryTables
import ChainHistory.Proofs.IndexerCall
import ChainHistory.Proofs.XpubDirection
import ChainHistory.Proofs.AccountPage
import ChainHistory.Proofs.DistinctRequests
import ChainHistory.Proofs.TokenAgreement
import ChainHistory.Proofs.FailureAnswer
import ChainHistory.Proofs.IntegerText
import ChainHistory.Proofs.ChainListText
import ChainHistory.Proofs.ChainEntries
import ChainHistory.Proofs.DocumentRoundTrip
import ChainHistory.Proofs.DocumentReading
import ChainHistory.Proofs.ListedChains
import ChainHistory.Proofs.PageLimits
import ChainHistory.Proofs.QuotedSettings
import ChainHistory.Proofs.MaskedLog
import ChainHistory.Proofs.SourcePrecedence
import ChainHistory.Proofs.RouteTable
