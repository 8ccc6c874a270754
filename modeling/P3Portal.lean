import P3Portal.Proof.Access.BulkAgreement
import P3Portal.Foundation.PythonText
import P3Portal.Construction.Http.Failure
import P3Portal.Construction.Auth.CurrentUser
import P3Portal.Construction.Nodes.Registry
import P3Portal.Construction.Vms.VmAccess
import P3Portal.Proof.Nodes.Lookup
import P3Portal.Proof.Vms.Installation
import P3Portal.Foundation.UriPath
import P3Portal.Foundation.IpAddress
import P3Portal.Construction.Proxmox.Client
import P3Portal.Proof.Proxmox.RequestPath
import P3Portal.Construction.Auth.History
import P3Portal.Proof.Auth.TokenUse
import P3Portal.Proof.Auth.Revocation
import P3Portal.Construction.Setup.Wizard
import P3Portal.Foundation.Interleaving
import P3Portal.Proof.Setup.StaysClosed
import P3Portal.Construction.Automation.Parameters
import P3Portal.Foundation.Precedence
import P3Portal.Construction.Automation.Inventory
import P3Portal.Proof.Automation.GuestRun
import P3Portal.Proof.Automation.PackerBuild
import P3Portal.Construction.Automation.Launch
import P3Portal.Construction.Automation.JobCredentials
import P3Portal.Proof.Automation.Approval
import P3Portal.Construction.Nodes.Deletion
import P3Portal.Proof.Access.NodeDeletion
import P3Portal.Construction.Owners.Ownership
import P3Portal.Construction.Owners.History
import P3Portal.Foundation.Assignments
import P3Portal.Foundation.KeyedRows
import P3Portal.Proof.Owners.Rows
import P3Portal.Proof.Owners.Limit
import P3Portal.Construction.Users.Administration
import P3Portal.Proof.Users.Deletion
import P3Portal.Proof.Users.AdminRemains
import P3Portal.Proof.Auth.Truth
import P3Portal.Construction.Auth.TwoFactor
import P3Portal.Proof.Auth.RecoveryCodes
import P3Portal.Proof.Auth.ChallengeLimit
import P3Portal.Construction.ApiSurface.DefaultDeny
import P3Portal.Proof.ApiSurface.DefaultDeny
import P3Portal.Foundation.CallTree
import P3Portal.Construction.ApiKeys.Service
import P3Portal.Proof.ApiKeys.Entitlement
import P3Portal.Proof.Auth.SessionLife
import P3Portal.Construction.Vms.Disks
import P3Portal.Proof.Vms.DiskAttach
import P3Portal.Proof.Owners.Removal
import P3Portal.Proof.Automation.PackerRequests
import P3Portal.Construction.Vms.Lifecycle
import P3Portal.Proof.Vms.Lifecycle
import P3Portal.Construction.Jobs.Cancellation
import P3Portal.Proof.Jobs.Cancellation
import P3Portal.Proof.Automation.JobCredentials
import P3Portal.Proof.Owners.DeployNode
import P3Portal.Foundation.FileTree
import P3Portal.Construction.Automation.PlaybookFiles
import P3Portal.Proof.Automation.PlaybookFiles
import P3Portal.Foundation.Script
import P3Portal.Construction.Jobs.Workers
import P3Portal.Proof.Jobs.Orphans
import P3Portal.Construction.Automation.ZipExtraction
import P3Portal.Proof.Automation.ZipSafety
import P3Portal.Construction.Automation.Uploads
import P3Portal.Proof.Automation.UploadStore
import P3Portal.Proof.Automation.Uploads
import P3Portal.Foundation.PythonNumber
import P3Portal.Foundation.Alarm
import P3Portal.Construction.Alerts.Rules
import P3Portal.Construction.Alerts.RuleService
import P3Portal.Construction.Alerts.Check
import P3Portal.Proof.Alerts.Checks
import P3Portal.Proof.Alerts.Layers
import P3Portal.Proof.Alerts.Alternation
import P3Portal.Proof.Alerts.Edits
import P3Portal.Proof.Alerts.Sustained
import P3Portal.Proof.Alerts.GhostAlerts
import P3Portal.Proof.Alerts.WellFormed
import P3Portal.Foundation.Noninterference
import P3Portal.Construction.Vms.DetailRead
import P3Portal.Proof.Vms.DetailRead
import P3Portal.Construction.Owners.Reconcile
import P3Portal.Proof.Owners.Reconcile
import P3Portal.Proof.Automation.Inventory
import P3Portal.Construction.Automation.HostKeys
import P3Portal.Proof.Automation.HostKeys
import P3Portal.Proof.Automation.TrustOnFirstUse
import P3Portal.Construction.Notifications.Service
import P3Portal.Proof.Notifications.Badge
import P3Portal.Construction.Access.ClusterViews
import P3Portal.Proof.Access.ClusterViews
import P3Portal.Construction.Alerts.Views
import P3Portal.Proof.Alerts.Views
import P3Portal.Foundation.PythonUrl
import P3Portal.Construction.Http.HttpClient
import P3Portal.Proof.Http.Webhook
import P3Portal.Construction.Cluster.Cache
import P3Portal.Proof.Cluster.SingleFlight
import P3Portal.Proof.Cluster.Invalidation
import P3Portal.Foundation.Renumber
import P3Portal.Construction.Sidebar.Pins
import P3Portal.Proof.Sidebar.Pins
import P3Portal.Proof.Nodes.Default
import P3Portal.Construction.Access.NodeAssignments
import P3Portal.Proof.Access.NodeAssignments
import P3Portal.Construction.Ipam.Pools
import P3Portal.Proof.Ipam.Pools
import P3Portal.Construction.License.Dispatcher
import P3Portal.Proof.License.Dispatcher
import P3Portal.Construction.Proxmox.ObjectWrites
import P3Portal.Proof.Proxmox.FullEdit
import P3Portal.Construction.Alerts.Webhooks
import P3Portal.Proof.Alerts.WebhookTokens
import P3Portal.Proof.Alerts.VmRights
import P3Portal.Proof.Owners.Dialects
import P3Portal.Proof.Owners.UserTransfer
import P3Portal.Proof.Vms.BootDisk
import P3Portal.Foundation.JsonReader
import P3Portal.Foundation.JsonWriter
import P3Portal.Construction.Audit.SecretMasking
import P3Portal.Foundation.JsonLeaves
import P3Portal.Proof.Audit.FormFields
import P3Portal.Proof.Audit.MaskedText
import P3Portal.Foundation.JsonSources
import P3Portal.Proof.Audit.HiddenSecrets
import P3Portal.Proof.Audit.NumberedBodies
import P3Portal.Foundation.TextSplit
import P3Portal.Construction.Audit.ProxmoxLog
import P3Portal.Proof.Audit.LogLines
import P3Portal.Proof.Audit.ProxmoxLog
import P3Portal.Proof.Audit.AuditRoundTrip
import P3Portal.Foundation.PosixPath
import P3Portal.Proof.Automation.ZipNames
import P3Portal.Proof.Automation.ZipExtraction
import P3Portal.Proof.Automation.ParamChecks
import P3Portal.Proof.Http.SpecialRanges
import P3Portal.Foundation.UrlRoundTrip
import P3Portal.Proof.Http.Pinning
import P3Portal.Foundation.TokenBucket
import P3Portal.Proof.ApiSurface.RateLimit
import P3Portal.Foundation.Ipv4Hosts
import P3Portal.Foundation.JoinedFields
import P3Portal.Proof.License.MacPayload
import P3Portal.Foundation.PagedReader
import P3Portal.Foundation.TextStream
import P3Portal.Proof.Jobs.LiveLog
import P3Portal.Foundation.PythonValue
import P3Portal.Construction.Proxmox.FirewallUsage
import P3Portal.Proof.Proxmox.FirewallUsage
import P3Portal.Foundation.TextFields
import P3Portal.Construction.Proxmox.BackupJobs
import P3Portal.Proof.Proxmox.Retention
import P3Portal.Proof.Proxmox.BackupRun
import P3Portal.Proof.Vms.TaskVerdict
import P3Portal.Construction.Proxmox.HaRules
import P3Portal.Proof.Proxmox.HaRules
import P3Portal.Proof.Nodes.Members
import P3Portal.Proof.Alerts.Dispatch
import P3Portal.Construction.Nodes.Updates
import P3Portal.Proof.Nodes.Updates
import P3Portal.Proof.Automation.Onboarding
import P3Portal.Proof.Help.Sanitizer
import P3Portal.Proof.Proxmox.FirewallNames
import P3Portal.Construction.Tooling.Health
import P3Portal.Proof.Tooling.Health
import P3Portal.Proof.Proxmox.HaActions
import P3Portal.Proof.Help.Overrides
import P3Portal.Construction.Proxmox.Dialogs
import P3Portal.Proof.Proxmox.Dialogs
import P3Portal.Proof.Automation.ZipLayout
