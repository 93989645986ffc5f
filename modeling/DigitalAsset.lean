import DigitalAsset.Account.Draft
import DigitalAsset.Codec.Layout
import DigitalAsset.Main
import DigitalAsset.Proofs.Codec.Payloads
import DigitalAsset.Proofs.Registry.Grammar
import DigitalAsset.Proofs.Adapter.Identity
import DigitalAsset.Proofs.Derivation.Merge
import DigitalAsset.Proofs.Derivation.Sections
import DigitalAsset.Proofs.Derivation.Content
import DigitalAsset.Proofs.Derivation.Injection
import DigitalAsset.Proofs.Resolution.Descriptions
import DigitalAsset.Proofs.Traversal
import DigitalAsset.Proofs.Permission.Decision
import DigitalAsset.Proofs.Permission.ForeignCollection
import DigitalAsset.Proofs.Account.Placement
import DigitalAsset.Proofs.Account.View
import DigitalAsset.Proofs.Account.RoundTrip
import DigitalAsset.Proofs.Resolution.Accounts
import DigitalAsset.Proofs.Account.Truncation
import DigitalAsset.Proofs.Account.Trailing
import DigitalAsset.Proofs.Account.Strictness
import DigitalAsset.Proofs.Resolution.Refusals
import DigitalAsset.Proofs.Permission.Agreement
import DigitalAsset.Proofs.Account.Canonical
import DigitalAsset.Proofs.Account.Failures
import DigitalAsset.Proofs.Failures
import DigitalAsset.Proofs.Resolution.Dependence
import DigitalAsset.Proofs.Codec.Exactness
import DigitalAsset.Proofs.Registry.Slots
import DigitalAsset.Proofs.Registry.Table
import DigitalAsset.Proofs.Account.FirstFailure
import DigitalAsset.Proofs.Registry.Duplicates
import DigitalAsset.Proofs.CommandLine.Summary
import DigitalAsset.Proofs.CommandLine.Run
import DigitalAsset.Proofs.Text.Hex
import DigitalAsset.Proofs.CommandLine.AccountFile
import DigitalAsset.Proofs.Codec.Progress
import DigitalAsset.Proofs.Registry.Counts
import DigitalAsset.Proofs.Codec.Scripts
import DigitalAsset.Proofs.Codec.Frames
