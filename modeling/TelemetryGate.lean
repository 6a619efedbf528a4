import TelemetryGate.AssociationId
import TelemetryGate.Json.Decoding
import TelemetryGate.Proofs.Association.Minting
import TelemetryGate.Proofs.Binary64.Spans
import TelemetryGate.Proofs.Dispatch.OptOut
import TelemetryGate.Proofs.Dispatch.Telling
import TelemetryGate.Proofs.Dispatch.TextOverrides
import TelemetryGate.Proofs.Log.Failing
import TelemetryGate.Proofs.Log.Filtering
import TelemetryGate.Proofs.Log.Installing
import TelemetryGate.Proofs.Log.Starting
import TelemetryGate.Proofs.Manifest
import TelemetryGate.Proofs.Race.Safety
import TelemetryGate.Proofs.Session.Endpoints
import TelemetryGate.Proofs.Session.Keys
import TelemetryGate.Proofs.Session.Logging
import TelemetryGate.Proofs.Session.Mirroring
import TelemetryGate.Proofs.Session.Runs
import TelemetryGate.Proofs.Session.Secrecy
import TelemetryGate.Proofs.Settings.Contents
import TelemetryGate.Proofs.Settings.Inputs
import TelemetryGate.Proofs.Settings.Omission
import TelemetryGate.Proofs.Settings.OneFile
import TelemetryGate.Proofs.Settings.Saving
import TelemetryGate.Proofs.Settings.Strict
import TelemetryGate.Proofs.Settings.Validating
import TelemetryGate.Proofs.Settings.Workspace
import TelemetryGate.Proofs.Wire.Conversion
import TelemetryGate.Proofs.Wire.Schema
import TelemetryGate.Session
import TelemetryGate.Settings.Loader
