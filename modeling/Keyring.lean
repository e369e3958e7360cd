import Keyring.Text.Basic
import Keyring.Text.Utf8
import Keyring.Text.Utf8.RoundTrip
import Keyring.Text.Blank
import Keyring.Text.Printable
import Keyring.Text.DecimalDigit
import Keyring.Text.Quoted
import Keyring.Text.Numeral
import Keyring.Text.Lines
import Keyring.Codec.Radix64
import Keyring.Codec.Base64
import Keyring.Hash.Sha512
import Keyring.Hash.PiWords
import Keyring.Hash.Blowfish
import Keyring.Hash.Bcrypt
import Keyring.Cell
import Keyring.Failure
import Keyring.Order
import Keyring.Presented
import Keyring.Named
import Keyring.Entropy
import Keyring.Secret
import Keyring.Credential
import Keyring.Lock
import Keyring.VerdictCache
import Keyring.LabelledCache
import Keyring.Entries
import Keyring.Header
import Keyring.Host.Name
import Keyring.Host.Path
import Keyring.Host.Tree
import Keyring.Host.Call
import Keyring.Host.State
import Keyring.Host.Directory
import Keyring.KeychainFile
import Keyring.Keychain
import Keyring.Gate
import Keyring.Table
import Keyring.Audit.Event
import Keyring.Audit.Channel
import Keyring.Audit.Log
import Keyring.Custodian
import Keyring.Session
import Keyring.CommandLine.Grammar
import Keyring.CommandLine.Options
import Keyring.CommandLine.Usage
import Keyring.CommandLine.Commands
import Keyring.Host.Moment
import Keyring.Main
import Keyring.Proofs.Text.Octets
import Keyring.Proofs.Text.Strict
import Keyring.Proofs.VerdictCache.Tagging
import Keyring.Proofs.Entries.Storable
import Keyring.Proofs.Entries.Gathering
import Keyring.Proofs.Entries.Line
import Keyring.Proofs.Entries.Grammar
import Keyring.Proofs.Entries.RoundTrip
import Keyring.Proofs.Entries.Normal
import Keyring.Proofs.Entries.Listing
import Keyring.Proofs.Keychain.Admission
import Keyring.Proofs.Keychain.Storage
import Keyring.Proofs.Keychain.Run
import Keyring.Proofs.Host.Calm
import Keyring.Proofs.Keychain.Transparency
import Keyring.Proofs.Keychain.Requests
import Keyring.Proofs.Hash.Bcrypt
import Keyring.Proofs.Codec.Radix64
import Keyring.Proofs.Codec.Base64
import Keyring.Proofs.Hash.Strict
import Keyring.Proofs.Hash.EffectiveKey
import Keyring.Proofs.Hash.Laws
import Keyring.Proofs.Secret.Outcome
import Keyring.Proofs.Secret.Checked
import Keyring.Proofs.Credential.Fresh
import Keyring.Proofs.Credential.Drawing
import Keyring.Proofs.Credential.Uniform
import Keyring.Proofs.Keychain.Faithful
import Keyring.Proofs.Host.Tree
import Keyring.Proofs.Host.Changes
import Keyring.Proofs.Host.Upkeep
import Keyring.Proofs.Host.Course
import Keyring.Proofs.Host.Route
import Keyring.Proofs.Host.Vacancy
import Keyring.Proofs.Host.Directory
import Keyring.Proofs.Host.Entropy
import Keyring.Proofs.Host.Fault
import Keyring.Proofs.Host.Addition
import Keyring.Proofs.Host.Paving
import Keyring.Proofs.KeychainFile.Write
import Keyring.Proofs.Keychain.Saving
import Keyring.Proofs.Keychain.Changes
import Keyring.Proofs.Custodian.Outcome
import Keyring.Proofs.Custodian.Task
import Keyring.Proofs.KeychainFile.Read
import Keyring.Proofs.KeychainFile.Reliable
import Keyring.Proofs.Custodian.Step
import Keyring.Proofs.Custodian.Performance
import Keyring.Proofs.Custodian.Answer
import Keyring.Proofs.Custodian.Alike
import Keyring.Proofs.Custodian.Agreement
import Keyring.Proofs.Custodian.Succession
import Keyring.Proofs.Custodian.Created
import Keyring.Proofs.Custodian.Twins
import Keyring.Proofs.Custodian.Company
import Keyring.Proofs.Lock.Traffic
import Keyring.Proofs.Lock.Waking
import Keyring.Proofs.Lock.Crowd
import Keyring.Proofs.Custodian.Notice
import Keyring.Proofs.Custodian.Trail
import Keyring.Proofs.Custodian.Mirror
import Keyring.Proofs.Session.Discretion
import Keyring.Proofs.VerdictCache.History
import Keyring.Proofs.VerdictCache.Recency
import Keyring.Proofs.VerdictCache.Inclusion
import Keyring.Proofs.KeychainFile.Cleanup
import Keyring.Proofs.Keychain.Failure
import Keyring.Proofs.Keychain.Renewal
import Keyring.Proofs.Custodian.Failure
import Keyring.Proofs.Table.Widths
import Keyring.Proofs.Audit.Recent
import Keyring.Proofs.CommandLine.Desk
import Keyring.Proofs.CommandLine.Report
import Keyring.Proofs.Keychain.Checks
import Keyring.Proofs.Keychain.Economy
import Keyring.Proofs.Secret.Recognized
import Keyring.Proofs.Header.RoundTrip
import Keyring.Proofs.Codec.Grammar
import Keyring.Proofs.Header.Grammar
import Keyring.Proofs.Host.Numbers
import Keyring.Proofs.Audit.Archive
import Keyring.Proofs.Text.Lines
import Keyring.Proofs.Text.Blocks
import Keyring.Proofs.Audit.Newest
import Keyring.Proofs.CommandLine.Logs
import Keyring.Proofs.Host.Absolute
import Keyring.Proofs.Audit.Forging
import Keyring.Proofs.Secret.Message
import Keyring.Proofs.Keychain.Capacity
import Keyring.Proofs.Lock.Order
import Keyring.Proofs.Host.Contents
import Keyring.Proofs.Table.Mask
import Keyring.Proofs.Table.Columns
import Keyring.Proofs.KeychainFile.Alike
import Keyring.Proofs.CommandLine.Listing
