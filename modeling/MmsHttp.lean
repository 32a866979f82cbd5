import MmsHttp.Exchange.Script
import MmsHttp.Main
import MmsHttp.Proofs.Carrier.Identifier
import MmsHttp.Proofs.Carrier.NationalNumber
import MmsHttp.Proofs.CommandLine.Exchange
import MmsHttp.Proofs.CommandLine.Files
import MmsHttp.Proofs.CommandLine.Program
import MmsHttp.Proofs.Executor.Arguments
import MmsHttp.Proofs.Executor.Assembly
import MmsHttp.Proofs.Executor.Attempt
import MmsHttp.Proofs.Executor.Authorization
import MmsHttp.Proofs.Executor.Delivery
import MmsHttp.Proofs.Executor.Dialling
import MmsHttp.Proofs.Executor.Downgrade
import MmsHttp.Proofs.Executor.Effects
import MmsHttp.Proofs.Executor.Gate
import MmsHttp.Proofs.Executor.HostName
import MmsHttp.Proofs.Executor.Legality
import MmsHttp.Proofs.Executor.Log
import MmsHttp.Proofs.Executor.Lookup
import MmsHttp.Proofs.Executor.Mapping
import MmsHttp.Proofs.Executor.Records
import MmsHttp.Proofs.Executor.Release
import MmsHttp.Proofs.Executor.Retrieval
import MmsHttp.Proofs.Executor.Serving
import MmsHttp.Proofs.Executor.Totality
import MmsHttp.Proofs.Executor.Traffic
import MmsHttp.Proofs.Executor.Worlds
import MmsHttp.Proofs.ExtraHeader.Concatenation
import MmsHttp.Proofs.ExtraHeader.RoundTrip
import MmsHttp.Proofs.ExtraHeader.Template
import MmsHttp.Proofs.ExtraHeader.Trimming
import MmsHttp.Proofs.Link.Dial
import MmsHttp.Proofs.Link.Transparency
import MmsHttp.Proofs.Locale
import MmsHttp.Proofs.Macro
import MmsHttp.Proofs.Macro.Residue
import MmsHttp.Proofs.Proxy.Return
import MmsHttp.Proofs.Registry.Course
import MmsHttp.Proofs.Request
import MmsHttp.Proofs.Session.Lifecycle
import MmsHttp.Proofs.Settings.Environment
import MmsHttp.Proofs.Wire.Pooled
import MmsHttp.Proofs.Wire.Service
