import Obfuscator.Text.Utf8
import Obfuscator.Text.CharClass
import Obfuscator.Text.Printable
import Obfuscator.Language
import Obfuscator.Payload
import Obfuscator.Lexer
import Obfuscator.Number.Binary64
import Obfuscator.Number.Format
import Obfuscator.Json.Value
import Obfuscator.Json.Reader
import Obfuscator.Toml.Datetime
import Obfuscator.Toml.Reader
import Obfuscator.Toml.Document
import Obfuscator.Yaml.Scanner
import Obfuscator.Yaml.Events
import Obfuscator.Yaml.Resolve
import Obfuscator.Yaml.Load
import Obfuscator.Config.Value
import Obfuscator.Config.Setting
import Obfuscator.Config.Yaml.Token
import Obfuscator.Config.Yaml.Event
import Obfuscator.Config.Yaml.Node
import Obfuscator.Config.Ini
import Obfuscator.Config.Ron
import Obfuscator.Text.GeneralCategory
import Obfuscator.Config.Json5
import Obfuscator.Random
import Obfuscator.Passes
import Obfuscator.Settings.Basic
import Obfuscator.Settings.File
import Obfuscator.Pipeline
import Obfuscator.Service.Delegate
import Obfuscator.Config.Load
import Obfuscator.Service.Transformer
import Obfuscator.Failure
import Obfuscator.CommandLine.Parse
import Obfuscator.CommandLine.Grammar
import Obfuscator.CommandLine.Host
import Obfuscator.CommandLine.Interface
import Obfuscator.CommandLine.Run
import Obfuscator.Main
import Obfuscator.Proofs.Tiling
import Obfuscator.Proofs.Chunks
import Obfuscator.Proofs.WholeWords
import Obfuscator.Proofs.CodePositions
import Obfuscator.Proofs.ChunkReplace
import Obfuscator.Proofs.GeneratedNames
import Obfuscator.Proofs.Renaming
import Obfuscator.Proofs.ModulePaths
import Obfuscator.Proofs.Totality
import Obfuscator.Proofs.Utf8RoundTrip
import Obfuscator.Proofs.Base64RoundTrip
import Obfuscator.Proofs.PayloadCodec
import Obfuscator.Proofs.Serving
import Obfuscator.Proofs.Splicing
import Obfuscator.Proofs.Recoding
import Obfuscator.Proofs.Minifying
import Obfuscator.Proofs.RenamedLiterals
import Obfuscator.Proofs.BlankLines
import Obfuscator.Proofs.NameSupply
import Obfuscator.Proofs.CodeFences
import Obfuscator.Proofs.QuotePairing
import Obfuscator.Proofs.DecoyBlock
import Obfuscator.Proofs.WordSearch
import Obfuscator.Proofs.InterpolationHoles
