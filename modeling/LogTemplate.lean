import LogTemplate.Main
import LogTemplate.Proofs.Command.Batch
import LogTemplate.Proofs.Command.Ending
import LogTemplate.Proofs.Field.Order
import LogTemplate.Proofs.Library.Dead
import LogTemplate.Proofs.Library.Flag
import LogTemplate.Proofs.Library.Isolation
import LogTemplate.Proofs.Library.Uuid
import LogTemplate.Proofs.Library.Written
import LogTemplate.Proofs.PatternFile.BadLine
import LogTemplate.Proofs.PatternFile.JsonLines
import LogTemplate.Proofs.PatternFile.Sniff
import LogTemplate.Proofs.Record.Shape
import LogTemplate.Proofs.Service.Agreement
import LogTemplate.Proofs.Service.Session
import LogTemplate.Proofs.Sink.Agreement
import LogTemplate.Proofs.Sink.Failure
import LogTemplate.Proofs.Sink.Verified
import LogTemplate.Proofs.Template.Append
import LogTemplate.Proofs.Template.Language
import LogTemplate.Proofs.Template.RoundTrip
import LogTemplate.Proofs.Validation.Account
import LogTemplate.Proofs.Validation.Match
import LogTemplate.Proofs.Watch
import LogTemplate.Record.Writer
import LogTemplate.Service
