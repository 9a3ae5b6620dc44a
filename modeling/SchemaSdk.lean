import SchemaSdk.Main
import SchemaSdk.Proofs.Order.Earliest
import SchemaSdk.Proofs.Order.Cycles
import SchemaSdk.Proofs.Order.Counters
import SchemaSdk.Proofs.Sdk.Outline
import SchemaSdk.Proofs.Sdk.RequestText
import SchemaSdk.Proofs.Bytes.Utf8
import SchemaSdk.Proofs.Web.Form
import SchemaSdk.Proofs.Login.Exchange
import SchemaSdk.Proofs.Toml.Strings
import SchemaSdk.Proofs.Toml.Sections
import SchemaSdk.Proofs.Toml.Keys
import SchemaSdk.Proofs.Account.ConfigText
import SchemaSdk.Proofs.Files.Kept
import SchemaSdk.Proofs.Account.Stored
import SchemaSdk.Proofs.Account.Secrets
import SchemaSdk.Proofs.Account.Outcomes
import SchemaSdk.Proofs.Account.Isolation
import SchemaSdk.Proofs.Account.CheckEntries
import SchemaSdk.Proofs.Account.Unsaved
import SchemaSdk.Proofs.Account.Ledger
import SchemaSdk.Proofs.CommandLine.History
import SchemaSdk.Proofs.CommandLine.Abandoned
import SchemaSdk.Proofs.CommandLine.ActiveProfile
import SchemaSdk.Proofs.Files.Places
import SchemaSdk.Proofs.Project.Written
import SchemaSdk.Proofs.CommandLine.Generated
import SchemaSdk.Proofs.Json.ReadBack
import SchemaSdk.Proofs.Login.TokenText
import SchemaSdk.Proofs.Account.Retained
import SchemaSdk.Proofs.Account.PartlySaved
import SchemaSdk.Proofs.CommandLine.Retained
import SchemaSdk.Proofs.Login.Listening
import SchemaSdk.Proofs.Sdk.DocumentText
import SchemaSdk.Proofs.Sdk.Descriptions
import SchemaSdk.Proofs.Sdk.DepthFirst
import SchemaSdk.Proofs.Sdk.SpreadFragments
import SchemaSdk.Proofs.Sdk.Decoded
import SchemaSdk.Proofs.Sdk.DocumentLength
import SchemaSdk.Proofs.Sdk.VariableTypes
import SchemaSdk.Proofs.Sdk.MethodNames
import SchemaSdk.Proofs.Text.SnakeCase
import SchemaSdk.Proofs.Sdk.ClientText
import SchemaSdk.Proofs.Sdk.ClientNames
import SchemaSdk.Proofs.Sdk.Collisions
import SchemaSdk.Proofs.Project.FileNames
import SchemaSdk.Proofs.Project.DerivedNames
import SchemaSdk.Proofs.Sdk.DefaultEndpoint
import SchemaSdk.Proofs.Sdk.DocumentConstants
import SchemaSdk.Proofs.Sdk.ArgumentLists
import SchemaSdk.Proofs.Text.Layout
import SchemaSdk.Proofs.Text.Recased
import SchemaSdk.Proofs.Report.Styles
import SchemaSdk.Proofs.Report.ReadBack
import SchemaSdk.Proofs.Bytes.Base64Url
import SchemaSdk.Proofs.Login.Stages
import SchemaSdk.Proofs.Login.Replies
import SchemaSdk.Proofs.Login.Discovery
import SchemaSdk.Proofs.Login.Challenges
