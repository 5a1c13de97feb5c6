import Snip36.StorageProofProvider
import Snip36.ProofAlignment
import Snip36.HonestAnswers
import Snip36.ProofAssociation
import Snip36.ProofRoots
import Snip36.VirtualBlockExecutor
import Snip36.VirtualOs
import Snip36.ExecutionCompleteness
import Snip36.BaseBlock
import Snip36.Library.Words
import Snip36.Signing
import Snip36.HashCommitment
import Snip36.Json
import Snip36.Payload
import Snip36.Library.Reverting
import Snip36.SignedPayload
import Snip36.Library.Erc20
import Snip36.CoinFlipBank
import Snip36.BankAccounting
import Snip36.BankFairness
import Snip36.BankLifecycle
import Snip36.CoinFlipState
import Snip36.RouteFailures
import Snip36.CoinFlipRoutes
import Snip36.CoinFlipPlay
import Snip36.CoinFlipServer
import Snip36.HandlerAsks
import Snip36.ServerInvariant
import Snip36.SessionGames
import Snip36.SeedLock
import Snip36.StakeMatching
import Snip36.ReportedResult
import Snip36.StrandedStake
import Snip36.BetHiding
import Snip36.MasterNonce
import Snip36.OneTimeDeployment
import Snip36.SavedDeployments
import Snip36.DecisiveReceipt
import Snip36.RevealVerification
import Snip36.FactsContents
import Snip36.PrefetchedReads
import Snip36.WebProver
import Snip36.ProverPanics
import Snip36.ConfirmedSuccess
import Snip36.CounterRoutes
import Snip36.CounterServer
import Snip36.CounterAsks
import Snip36.OwnProof
import Snip36.ReferenceBlock
import Snip36.QueryPartition
import Snip36.PrefetchedClasses
import Snip36.RpcReplies
import Snip36.CoinAgreement
import Snip36.Library.LengthPrefix
import Snip36.Library.Mutex
import Snip36.Library.Rest
import Snip36.Library.ReadWriteLocks
import Snip36.SncastLock
import Snip36.CounterLock
import Snip36.Multicall
import Snip36.ReportedIncrement
import Snip36.BrowserInvoke
import Snip36.Library.Patterns
import Snip36.ToolKeys
import Snip36.KeyLookup
import Snip36.ChainIds
import Snip36.ResourcePacking
import Snip36.Library.Base64
import Snip36.ProofEncoding
import Snip36.Library.PatriciaTree
import Snip36.StateTries
import Snip36.ShownFacts
import Snip36.FlipPage
import Snip36.PrefetchedExecution
import Snip36.ProvedBlock
import Snip36.DeploymentLocks
