import SpanPipeline.Config.Model
import SpanPipeline.Main
import SpanPipeline.Proofs.Report
import SpanPipeline.Proofs.Shutdown
import SpanPipeline.Proofs.Escape
import SpanPipeline.Proofs.FailFast
import SpanPipeline.Proofs.Delivery
import SpanPipeline.Proofs.Isolation
import SpanPipeline.Proofs.Frame
import SpanPipeline.Proofs.Trial
import SpanPipeline.Proofs.Substitution
import SpanPipeline.Proofs.Agreement
import SpanPipeline.Proofs.RoundTrip
import SpanPipeline.Proofs.Secrecy
import SpanPipeline.Proofs.Silence
import SpanPipeline.Proofs.Recording
import SpanPipeline.Proofs.Decoding
import SpanPipeline.Proofs.Ending
import SpanPipeline.Proofs.Scheme
import SpanPipeline.Proofs.Verdict
import SpanPipeline.Proofs.Limits
import SpanPipeline.Proofs.DefaultEndpoint
import SpanPipeline.Proofs.Settings
import SpanPipeline.Proofs.Loading
import SpanPipeline.Proofs.Handlers
import SpanPipeline.Proofs.Leaves
import SpanPipeline.Proofs.Grouping
import SpanPipeline.Proofs.Merging
import SpanPipeline.Proofs.Rounding
import SpanPipeline.Proofs.Timeout
