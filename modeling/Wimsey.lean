import Wimsey.Chain
import Wimsey.Cli.Binding
import Wimsey.Cli.Emit
import Wimsey.Cli.Key
import Wimsey.Cli.Keygen
import Wimsey.Cli.Target
import Wimsey.Cli.Tokens
import Wimsey.Cli.Wic
import Wimsey.Clock
import Wimsey.Critical
import Wimsey.Demo.Service
import Wimsey.Forgery
import Wimsey.HttpSig.Fields
import Wimsey.HttpSig.Integrity
import Wimsey.HttpSig.LetterCase
import Wimsey.HttpSig.Params
import Wimsey.HttpSig.Partition
import Wimsey.HttpSig.Relay
import Wimsey.HttpSig.Selection
import Wimsey.HttpSig.Syntax
import Wimsey.HttpSig.Tag
import Wimsey.Identifier.Bounds
import Wimsey.Identifier.Spelling
import Wimsey.Issuance.Contract
import Wimsey.Issuance.Jwks
import Wimsey.Mtls.RoundTrip
import Wimsey.Mtls.Strict
import Wimsey.Protocol.Delivery
import Wimsey.Protocol.Use
import Wimsey.Protocol.World
import Wimsey.RustStd.Path
import Wimsey.System.Files
import Wimsey.System.Keyed
import Wimsey.System.Replace
import Wimsey.Wit.RoundTrip
import Wimsey.Wpt.Binding
