import RefCheck.CrossCheck.Fields
import RefCheck.Comparison.Seniority
import RefCheck.Batch.NonInterference
import RefCheck.Batch.CustomIds
import RefCheck.Backends.Interchange
import RefCheck.Backends.Framing
import RefCheck.Backends.Location
import RefCheck.Backends.Files
import RefCheck.Backends.Waiting
import RefCheck.Providers.Choice
import RefCheck.Realtime.Clearance
import RefCheck.Realtime.NoFalseAlarm
import RefCheck.Verdict.Order
import RefCheck.Verdict.Settings
import RefCheck.Service.LaterPolls
import RefCheck.Service.Progress
import RefCheck.Page.Results
import RefCheck.Logging.Scrub
