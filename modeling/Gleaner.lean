import Gleaner.Main
import Gleaner.Proofs.Extraction.Modes
import Gleaner.Proofs.Extraction.Alike
import Gleaner.Proofs.Extraction.Fields
import Gleaner.Proofs.Extraction.Calls.Order
import Gleaner.Proofs.Extraction.DocumentOrder
import Gleaner.Proofs.Json.Canonical
import Gleaner.Proofs.Spec.Build
import Gleaner.Proofs.Text.Utf8
import Gleaner.Proofs.Text.Utf8.Lenient
import Gleaner.Proofs.Extraction.Result
import Gleaner.Proofs.Service.Payload
import Gleaner.Proofs.Spec.Rearranged
import Gleaner.Proofs.Service.Agreement
import Gleaner.Proofs.Service.Lenience
import Gleaner.Proofs.Service.Stages
import Gleaner.Proofs.Extraction.Tables
import Gleaner.Proofs.Text.Runs
import Gleaner.Proofs.Extraction.Texts
import Gleaner.Proofs.Spec.Refusal
import Gleaner.Proofs.Charset.Top
import Gleaner.Proofs.Service.Settings
import Gleaner.Proofs.Extraction.Paths
import Gleaner.Proofs.Json.Skip
import Gleaner.Proofs.Json.Understand
import Gleaner.Proofs.Service.Bodies
