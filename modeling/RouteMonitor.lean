import RouteMonitor.Address.IpAddress
import RouteMonitor.Address.Ipv4
import RouteMonitor.Address.Ipv6
import RouteMonitor.Address.SocketAddress
import RouteMonitor.Bytes
import RouteMonitor.Bytes.Decimal
import RouteMonitor.Bytes.Hexadecimal
import RouteMonitor.CommandLine.Options
import RouteMonitor.CommandLine.Run
import RouteMonitor.ConfigError
import RouteMonitor.Endpoint
import RouteMonitor.Files
import RouteMonitor.Integer
import RouteMonitor.Json
import RouteMonitor.Json.Reader
import RouteMonitor.Json.Token
import RouteMonitor.Log
import RouteMonitor.Log.Logger
import RouteMonitor.Main
import RouteMonitor.Mode
import RouteMonitor.Nameserver
import RouteMonitor.Program
import RouteMonitor.Proofs.Bytes
import RouteMonitor.Proofs.Outcome
import RouteMonitor.Proofs.Service.Rows
import RouteMonitor.Service.Config
import RouteMonitor.Service.Load
import RouteMonitor.Service.Summary
import RouteMonitor.Setting
import RouteMonitor.Settings
import RouteMonitor.Settings.File
import RouteMonitor.Settings.Ini
import RouteMonitor.Table
import RouteMonitor.Whois.Registry
import RouteMonitor.Whois.Server
import RouteMonitor.Proofs.Service.FirstFault
import RouteMonitor.Proofs.Settings.Line
import RouteMonitor.Proofs.Settings.Reading
import RouteMonitor.Proofs.Settings.RoundTrip
import RouteMonitor.Proofs.Address.Ipv4
import RouteMonitor.Proofs.Address.Ipv6
import RouteMonitor.Proofs.Address.RoundTrip
import RouteMonitor.Proofs.Service.Agreement
import RouteMonitor.Proofs.Whois.LongestSuffix
import RouteMonitor.Proofs.Service.Independence
import RouteMonitor.Proofs.Setting
import RouteMonitor.Proofs.Whois.Entries
import RouteMonitor.Proofs.Service.Loaded
import RouteMonitor.Proofs.Integer
import RouteMonitor.Proofs.Nameserver
import RouteMonitor.Proofs.Service.WriteBack
import RouteMonitor.Proofs.Bytes.Lines
import RouteMonitor.Proofs.Settings.Rejection
import RouteMonitor.Proofs.Whois.ServerText
import RouteMonitor.Proofs.Whois.Spellings
import RouteMonitor.Proofs.Service.Defaults
import RouteMonitor.Proofs.Service.Records
import RouteMonitor.Proofs.CommandLine.Grammar
import RouteMonitor.Proofs.CommandLine.Contract
import RouteMonitor.Proofs.Address.Literal
import RouteMonitor.Proofs.Address.SocketAddress
import RouteMonitor.Proofs.Nameserver.Entries
import RouteMonitor.Proofs.Outcome.Steps
import RouteMonitor.Proofs.Service.Leniences
import RouteMonitor.Proofs.Settings.Traces
import RouteMonitor.Proofs.CommandLine.LogLevel
import RouteMonitor.Proofs.Integer.Outcomes
import RouteMonitor.Proofs.Whois.EntryFaults
import RouteMonitor.Proofs.Whois.FileFaults
import RouteMonitor.Proofs.Settings.Statements
import RouteMonitor.Proofs.Settings.Layout
import RouteMonitor.Proofs.Settings.Merge
import RouteMonitor.Proofs.Settings.Joining
import RouteMonitor.Proofs.Setting.Outcomes
import RouteMonitor.Proofs.CommandLine.Decomposition
import RouteMonitor.Proofs.Bytes.Words
import RouteMonitor.Proofs.Mode.Reading
import RouteMonitor.Proofs.Whois.StoredSuffixes
import RouteMonitor.Proofs.Address.Spelling
import RouteMonitor.Proofs.Settings.File
