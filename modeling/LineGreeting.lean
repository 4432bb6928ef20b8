import LineGreeting.Console.Sink
import LineGreeting.Files
import LineGreeting.Main
import LineGreeting.Proofs.Text.Decoding
import LineGreeting.Proofs.Wire.RoundTrip
import LineGreeting.Proofs.Server.Moves
import LineGreeting.Proofs.Server.Ledger
import LineGreeting.Proofs.Server.Slots
import LineGreeting.Proofs.Server.Sequential
import LineGreeting.Proofs.Exchange.Answering
import LineGreeting.Proofs.Exchange.Dialogue
import LineGreeting.Proofs.Server.Interleaving
import LineGreeting.Proofs.Server.OneSlot
import LineGreeting.Proofs.Server.Isolation
import LineGreeting.Proofs.Exchange.Deadline
import LineGreeting.Proofs.Exchange.Printing
import LineGreeting.Proofs.Server.Returning
import LineGreeting.Proofs.Server.Shutdown
import LineGreeting.Proofs.Server.Starting
import LineGreeting.Proofs.Text.Cutting
import LineGreeting.Proofs.Wire.Truncation
import LineGreeting.Proofs.Wire.Endings
import LineGreeting.Proofs.Exchange.Asking
import LineGreeting.Proofs.Exchange.Independence
import LineGreeting.Proofs.Server.OnTime
import LineGreeting.Proofs.Server.Failing
import LineGreeting.Proofs.Console.Survival
import LineGreeting.Proofs.Console.Captured
import LineGreeting.Proofs.Wire.Stopping
import LineGreeting.Proofs.Wire.Turns
import LineGreeting.Proofs.Toml.Keys
import LineGreeting.Proofs.Config.Sections
import LineGreeting.Proofs.Config.Layers
import LineGreeting.Proofs.Config.Stages
import LineGreeting.Proofs.Config.ReplyDelay
import LineGreeting.Proofs.Server.Serving
