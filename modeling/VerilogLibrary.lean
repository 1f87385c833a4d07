import VerilogLibrary.Text.Classes
import VerilogLibrary.Text.Capitalize
import VerilogLibrary.Text.Quoted
import VerilogLibrary.Text.Utf8
import VerilogLibrary.Digest.Stream
import VerilogLibrary.ContentHash
import VerilogLibrary.ModuleDecl.Render
import VerilogLibrary.ModuleDecl.Json
import VerilogLibrary.Json.Parser
import VerilogLibrary.Artifact
import VerilogLibrary.Listing
import VerilogLibrary.Config.Load
import VerilogLibrary.Files.Walk
import VerilogLibrary.Session
import VerilogLibrary.CommandLine.Parser
import VerilogLibrary.Program
import VerilogLibrary.Main
import VerilogLibrary.Proofs.Capitalize
import VerilogLibrary.Proofs.CatalogRuns
import VerilogLibrary.Proofs.ModuleFaults
import VerilogLibrary.Proofs.ReportedFault
import VerilogLibrary.Proofs.GeneratedModules
import VerilogLibrary.Proofs.ModuleNames
import VerilogLibrary.Proofs.LibraryText
import VerilogLibrary.Proofs.ConfiguredCatalog
import VerilogLibrary.Proofs.Separators
import VerilogLibrary.Proofs.UnambiguousText
import VerilogLibrary.Proofs.DecodedText
import VerilogLibrary.Proofs.PortLines
import VerilogLibrary.Proofs.ModuleText
import VerilogLibrary.Proofs.LibraryFaults
import VerilogLibrary.Proofs.StreamedDigest
import VerilogLibrary.Proofs.SinkWrites
import VerilogLibrary.Proofs.StreamedLibrary
import VerilogLibrary.Proofs.Outline
import VerilogLibrary.Proofs.PortBlock
import VerilogLibrary.Proofs.BracketedLibrary
import VerilogLibrary.Proofs.Digits
import VerilogLibrary.Proofs.JsonText
import VerilogLibrary.Proofs.PrintedJson
import VerilogLibrary.Proofs.DeclarationJson
import VerilogLibrary.Proofs.DeclarationLayout
import VerilogLibrary.Proofs.TomlValues
import VerilogLibrary.Proofs.TomlDocument
import VerilogLibrary.Proofs.ConfigurationText
import VerilogLibrary.Proofs.ListedLibrary
import VerilogLibrary.Proofs.FileWrites
import VerilogLibrary.Proofs.FreshFiles
import VerilogLibrary.Proofs.ArgumentOrder
import VerilogLibrary.Proofs.RegisterNames
import VerilogLibrary.Proofs.HashedPieces
import VerilogLibrary.Proofs.JoinedPaths
import VerilogLibrary.Proofs.NamedSessions
import VerilogLibrary.Proofs.LetterCase
import VerilogLibrary.Proofs.LookalikeNames
import VerilogLibrary.Proofs.BuilderRuns
import VerilogLibrary.Proofs.HashTexts
import VerilogLibrary.Proofs.WidthTexts
