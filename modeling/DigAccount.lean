import DigAccount.Auth.Passkey
import DigAccount.Auth.SingleUse
import DigAccount.Auth.Totp
import DigAccount.Chain.Confirm
import DigAccount.Chain.Honest
import DigAccount.Chain.Node
import DigAccount.Chain.Query
import DigAccount.Chain.Reorganised
import DigAccount.Chain.Singleton
import DigAccount.Chain.ZeroFilled
import DigAccount.Edit.Commit
import DigAccount.Edit.Pinned
import DigAccount.Edit.Preview
import DigAccount.Edit.Profile
import DigAccount.Edit.Retry
import DigAccount.Edit.Serialised
import DigAccount.Edit.Store
import DigAccount.Foundation.Decimal
import DigAccount.Foundation.Interleaving
import DigAccount.Foundation.Kleene
import DigAccount.Foundation.LargestFirst
import DigAccount.Foundation.Latch
import DigAccount.Foundation.Lineage
import DigAccount.Foundation.Occupancy
import DigAccount.Foundation.Reads
import DigAccount.Foundation.Replies
import DigAccount.Foundation.Transcript
import DigAccount.Foundation.Triples
import DigAccount.Melt.AlreadyGone
import DigAccount.Melt.EndStatus
import DigAccount.Melt.Melter
import DigAccount.Melt.Plan
import DigAccount.Mint.BurialRule
import DigAccount.Mint.BuriedInclusion
import DigAccount.Mint.Ceremony
import DigAccount.Mint.CeremonyRuns
import DigAccount.Mint.CeremonySettles
import DigAccount.Mint.CeremonySteps
import DigAccount.Mint.CoinsetPush
import DigAccount.Mint.Commitments
import DigAccount.Mint.Did
import DigAccount.Mint.DidMint
import DigAccount.Mint.DistributorStatus
import DigAccount.Mint.DoorSafety
import DigAccount.Mint.FeePaid
import DigAccount.Mint.Gates
import DigAccount.Mint.HeldCoins
import DigAccount.Mint.Launch
import DigAccount.Mint.LaunchBuilder
import DigAccount.Mint.LaunchBuilt
import DigAccount.Mint.LaunchDead
import DigAccount.Mint.Profile
import DigAccount.Mint.PushedOnce
import DigAccount.Mint.Recordable
import DigAccount.Mint.Resume
import DigAccount.Mint.RewardDistributor
import DigAccount.Mint.RewardDoors
import DigAccount.Mint.StoreLaunch
import DigAccount.Mint.ZeroFilled
import DigAccount.Registry.Account
import DigAccount.Registry.Journal
import DigAccount.Registry.Outcomes
import DigAccount.Registry.Persistence
import DigAccount.Registry.Soundness
import DigAccount.Registry.Tombstone
import DigAccount.Registry.Verify
import DigAccount.Resolve.Complete
import DigAccount.Session.AccountStore
import DigAccount.Session.CustodyRoots
import DigAccount.Session.Irrevocable
import DigAccount.Session.Residency
import DigAccount.Session.SpentFactors
import DigAccount.Session.Unlock
import DigAccount.Session.UnlockGate
import DigAccount.Wallet.AddedSpends
import DigAccount.Wallet.AutoApproval
import DigAccount.Wallet.CatBundle
import DigAccount.Wallet.CatLineage
import DigAccount.Wallet.CatListing
import DigAccount.Wallet.CatSelection
import DigAccount.Wallet.CatTransfer
import DigAccount.Wallet.ConcurrentGate
import DigAccount.Wallet.FeeCoins
import DigAccount.Wallet.FewestCoins
import DigAccount.Wallet.FormatXch
import DigAccount.Wallet.Holdings
import DigAccount.Wallet.Host
import DigAccount.Wallet.NativeTotal
import DigAccount.Wallet.PaidOnce
import DigAccount.Wallet.PromptCeiling
import DigAccount.Wallet.Provenance
import DigAccount.Wallet.Replacement
import DigAccount.Wallet.Reservation
import DigAccount.Wallet.Selection
import DigAccount.Wallet.Stranded
import DigAccount.Wallet.Transfer
import DigAccount.Wallet.TransferBundle
import DigAccount.Wallet.TransferDeath
import DigAccount.Wallet.TransferPlan
import DigAccount.Wallet.Unprompted
import DigAccount.Wallet.VaultExit
import DigAccount.Edit.History
