import TlsSeed.Main
import TlsSeed.World
import TlsSeed.Proofs.Script
import TlsSeed.Proofs.Text.Blank
import TlsSeed.Proofs.Text.Utf8
import TlsSeed.Proofs.Text.Numeral
import TlsSeed.Proofs.Text.Parts
import TlsSeed.Proofs.Text.Quoted
import TlsSeed.Proofs.Text.WellFormed
import TlsSeed.Proofs.Settings
import TlsSeed.Proofs.Seed
import TlsSeed.Proofs.Reading
import TlsSeed.Proofs.FailureLine
import TlsSeed.Proofs.Job
import TlsSeed.Proofs.Program
import TlsSeed.Proofs.Item.Record
import TlsSeed.Proofs.Item.Format
import TlsSeed.Proofs.Item.Redaction
import TlsSeed.Proofs.Item.Refusal
import TlsSeed.Proofs.Store.Contents
import TlsSeed.Proofs.Store.Keeper
import TlsSeed.Proofs.History
import TlsSeed.Proofs.CommandLine.Flag
import TlsSeed.Proofs.CommandLine.Grammar
import TlsSeed.Proofs.CommandLine.Decisive
import TlsSeed.Proofs.Secrecy
import TlsSeed.Proofs.Log.Truth
import TlsSeed.Proofs.Log.Verbosity
import TlsSeed.Proofs.Causes
import TlsSeed.Proofs.Concurrent.Execution
import TlsSeed.Proofs.Concurrent.Interleaving
