import IotLab.Command.Versions
import IotLab.Command.ResetRace
import IotLab.Command.Ordering
import IotLab.Command.Flood
import IotLab.Command.GatewaySessions
import IotLab.Command.OneLine
import IotLab.Firmware.Geolocation
import IotLab.Firmware.Residue
import IotLab.Gateway.Forwarding
import IotLab.Server.FirstLines
import IotLab.Pipeline.DataMessage
import IotLab.Pipeline.GeolocMessage
import IotLab.Pipeline.Arrival
import IotLab.Localization.Combined
import IotLab.Localization.Alignment
import IotLab.Server.Privileges
import IotLab.Server.Access
import IotLab.Server.SingleActive
import IotLab.Pipeline.LossRatio
import IotLab.Localization.Isolation
import IotLab.Localization.Termination
import IotLab.Localization.CommonPoints
import IotLab.Localization.Barycenter
import IotLab.Localization.Multilateration
import IotLab.Localization.SmallestCircles
import IotLab.Localization.PropagationModel
import IotLab.Localization.RecentSamples
import IotLab.Localization.AnchorSamples
import IotLab.Firmware.GeolocationRequest
import IotLab.Server.FilterMerge
import IotLab.Server.IngestErrors
import IotLab.Server.LossBounds
import IotLab.Server.Conditions
import IotLab.Server.Means
import IotLab.Server.CompareMode
import IotLab.Firmware.Backups
import IotLab.Firmware.PayloadAccess
import IotLab.Firmware.DataPeriod
import IotLab.Firmware.Energy
import IotLab.Library.CountedRing
import IotLab.Firmware.Processes
import IotLab.Library.History
import IotLab.Firmware.EventDelivery
import IotLab.Library.Stamps
import IotLab.Firmware.EventTimers
import IotLab.Firmware.Alarms
import IotLab.Firmware.AlarmRuns
import IotLab.Library.ForeignKeys
import IotLab.Server.Catalogue
import IotLab.Server.CatalogueRuns
import IotLab.Firmware.AlarmEvents
import IotLab.Firmware.DataTurns
import IotLab.Firmware.DataSlots
import IotLab.Firmware.DataRuns
import IotLab.Routing.Lollipop
import IotLab.Routing.Repairs
import IotLab.Routing.Restarts
import IotLab.Server.SinkTable
import IotLab.Pipeline.SinkReports
import IotLab.Routing.Trickle
import IotLab.Routing.TrickleRuns
import IotLab.Firmware.NeighbourhoodRuns
import IotLab.Firmware.GeolocPackets
import IotLab.Pipeline.GeolocReports
