import AmigaRemote.Main
import AmigaRemote.Proofs.Cli.Downloads
import AmigaRemote.Proofs.Cli.ExitStatus
import AmigaRemote.Proofs.Cli.Following
import AmigaRemote.Proofs.Client.Alignment
import AmigaRemote.Proofs.Client.ErrorLine
import AmigaRemote.Proofs.Client.Listing
import AmigaRemote.Proofs.Client.Refusal
import AmigaRemote.Proofs.Client.Upload
import AmigaRemote.Proofs.Reply.ObjectInfo
import AmigaRemote.Proofs.Stream.CrossingRun
import AmigaRemote.Proofs.Stream.Events
import AmigaRemote.Proofs.Stream.GivenUp
import AmigaRemote.Proofs.Stream.LateStop
import AmigaRemote.Proofs.Stream.Notices
import AmigaRemote.Proofs.Stream.OwnEnd
import AmigaRemote.Proofs.Stream.Standing
import AmigaRemote.Proofs.Stream.Usage
import AmigaRemote.Proofs.Stream.WaitLimit
import AmigaRemote.Proofs.Stream.Writes
import AmigaRemote.Proofs.Wire.Attempts
import AmigaRemote.Proofs.Wire.Backlog
import AmigaRemote.Proofs.Wire.ChunkRoundTrip
import AmigaRemote.Proofs.Wire.CommandFraming
import AmigaRemote.Proofs.Wire.Expected
import AmigaRemote.Proofs.Wire.Fidelity
import AmigaRemote.Proofs.Wire.Greeting
import AmigaRemote.Proofs.Wire.LineLimit
import AmigaRemote.Proofs.Wire.Retry
import AmigaRemote.Proofs.Wire.Shortfall
import AmigaRemote.Proofs.Wire.TransferGrammar
import AmigaRemote.Proofs.Wire.Translation
import AmigaRemote.Proofs.Wire.Truncation
import AmigaRemote.Settings.Json
