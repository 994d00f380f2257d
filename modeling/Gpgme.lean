import Gpgme.Lib.CInt
import Gpgme.Lib.SeekableArray
import Gpgme.Data.Mem
import Gpgme.Data.MemRefinement
import Gpgme.Data.PropertyTable
import Gpgme.Data.PropertyInvariant
import Gpgme.Data.PropertyRuns
import Gpgme.Lib.CString
import Gpgme.Status
import Gpgme.Context
import Gpgme.Conversion
import Gpgme.OpSupport
import Gpgme.Operation.Decrypt
import Gpgme.Operation.StatusLines
import Gpgme.Lib.LinkedList
import Gpgme.Operation.Verify
import Gpgme.Operation.VerifySegments
import Gpgme.Operation.VerifyInvariant
import Gpgme.Operation.VerifyRuns
import Gpgme.Operation.DecryptVerdict
import Gpgme.Operation.Encrypt
import Gpgme.Operation.Failures
import Gpgme.EngineGpg.ReadStatus
import Gpgme.EngineGpg.DecryptStream
import Gpgme.Lib.DoublyLinkedList
import Gpgme.Lib.FaultMachine
import Gpgme.Wait.CtxLists
import Gpgme.Wait.FdTable
import Gpgme.Wait.GlobalLoop
import Gpgme.Wait.Registrations
import Gpgme.Wait.Isolation
import Gpgme.Wait.ListProtocol
import Gpgme.Wait.PrivateLoop
import Gpgme.Wait.Dispatch
import Gpgme.Data.Blankout
import Gpgme.Data.Noninterference
import Gpgme.Operation.Composition
import Gpgme.Operation.InvalidRecipients
import Gpgme.Operation.Combined
import Gpgme.Operation.VerifyFrame
import Gpgme.Lib.LineBuffer
import Gpgme.Operation.VerifySafety
import Gpgme.EngineGpg.ReadPipes
import Gpgme.EngineGpg.Arguments
import Gpgme.EngineGpg.BuildArgv
import Gpgme.Keylist.Key
import Gpgme.Keylist.Handler
import Gpgme.Keylist.Records
import Gpgme.Keylist.Tracking
import Gpgme.Keylist.Safety
import Gpgme.Keylist.Attachment
import Gpgme.Keylist.Queue
import Gpgme.Trustlist
import Gpgme.EngineGpg.StoredBuffer
import Gpgme.Assuan.StatusHandler
import Gpgme.ColonErrors
import Gpgme.Assuan.Reassembly
import Gpgme.Gpgconf.Options
import Gpgme.Lib.Ring
import Gpgme.W32.Reader
import Gpgme.W32.Writer
import Gpgme.Lib.Descriptors
import Gpgme.Posix.Spawn
import Gpgme.Lib.Base64
import Gpgme.Json.Chunks
import Gpgme.Json.ReplySize
import Gpgme.Assuan.Recipients
import Gpgme.Lib.ByteMemory
import Gpgme.PercentString
import Gpgme.Assuan.SimpleCommand
import Gpgme.MonitorVeto
import Gpgme.Assuan.Inquiries
import Gpgme.Assuan.ListingOptions
import Gpgme.Assuan.EngineReuse
import Gpgme.Lib.Ledger
import Gpgme.Lib.PipeEnds
import Gpgme.EnginePipes
import Gpgme.EngineGpg.Lifecycle
import Gpgme.EngineGpg.Ownership
import Gpgme.EngineGpg.Starting
import Gpgme.EngineGpg.Registering
import Gpgme.EngineGpg.StartFailures
import Gpgme.EngineSpawn
import Gpgme.PipeLosses
import Gpgme.EngineGpg.Events
import Gpgme.EngineGpg.TagPairs
import Gpgme.EngineGpg.CommandProtocol
import Gpgme.CStringDecoder
import Gpgme.Keylist.UserIdScan
import Gpgme.Keylist.UserIdBlocks
import Gpgme.Keylist.UserIdSplitting
import Gpgme.Keylist.Subpackets
import Gpgme.Operation.ConsideredKeys
import Gpgme.Operation.Notations
import Gpgme.Operation.TrustLines
import Gpgme.Data.Callbacks
import Gpgme.Data.Handlers
import Gpgme.Data.Transfers
import Gpgme.Operation.NotationAssembly
import Gpgme.Operation.NotationBuffers
import Gpgme.Keylist.Mailboxes
import Gpgme.Assuan.KeyRecipients
import Gpgme.Gpgconf.Reading
import Gpgme.Gpgconf.Directories
import Gpgme.Gpgconf.Saving
import Gpgme.EngineGpg.RecipientArgs
import Gpgme.EngineGpg.StringFromData
import Gpgme.Data.Packets
import Gpgme.Data.PgpDetection
import Gpgme.Data.ArmorDecoder
import Gpgme.Data.Identify
import Gpgme.Data.ArmoredMessages
import Gpgme.Data.Asn1Objects
import Gpgme.Lib.Substring
import Gpgme.Operation.GenkeyStart
import Gpgme.Assuan.PatternLines
import Gpgme.EngineGpg.PatternArgs
import Gpgme.Operation.Export
import Gpgme.Operation.ExportErrors
import Gpgme.Json.KeyPatterns
import Gpgme.Lib.QuotedArguments
import Gpgme.W32.CommandLine
import Gpgme.Data.FileParts
import Gpgme.Keylist.TofuRecords
import Gpgme.EngineGpg.KeyserverLines
import Gpgme.FieldSplitting
import Gpgme.ContextFlags
import Gpgme.Data.TlvHeaders
import Gpgme.DebugBuffer
import Gpgme.Engine.InfoChanges
import Gpgme.Engine.InfoSurvival
import Gpgme.Keylist.MailboxChecks
import Gpgme.Lib.Hexadecimal
import Gpgme.Lib.Numerals
import Gpgme.Lib.SlotTable
import Gpgme.Lib.Xml
import Gpgme.Lib.XmlTrees
import Gpgme.Posix.CloseNotify
import Gpgme.Timestamps
import Gpgme.Tool.OperationResults
import Gpgme.Tool.StatusLines
import Gpgme.Tool.XmlFaithful
import Gpgme.Versions
import Gpgme.Assuan.ChannelCalls
import Gpgme.Assuan.ChannelIsolation
import Gpgme.Cpp.Interactor
import Gpgme.Cpp.KeySigning
