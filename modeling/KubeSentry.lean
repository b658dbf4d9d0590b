import KubeSentry.Gateway.MemberAgreement
import KubeSentry.Hublink.ExceptionLifecycle
import KubeSentry.Webhook.ExemptionSoundness
import KubeSentry.Hublink.EventDelivery
import KubeSentry.Gateway.SystemReferences
import KubeSentry.Gateway.EventIsolation
import KubeSentry.Database.IncidentConvergence
import KubeSentry.Gateway.LinkIncidents
import KubeSentry.Gateway.StatusSoundness
import KubeSentry.Hublink.ApplyConvergence
import KubeSentry.Cluster.UninstallTasks
import KubeSentry.Cluster.UninstallPhases
import KubeSentry.Cluster.Registration
import KubeSentry.Cluster.RowUpdates
import KubeSentry.Gateway.SinglePusher
import KubeSentry.Operator.WebhookRules
import KubeSentry.Operator.RecreatedPolicy
import KubeSentry.Operator.ReferencedBy
import KubeSentry.Console.GroupAtomicity
import KubeSentry.Console.VersionMirror
import KubeSentry.Console.WriteIsolation
import KubeSentry.Console.ReferenceSafety
import KubeSentry.Operator.WatchMapping
import KubeSentry.Operator.ExceptionRuns
import KubeSentry.Webhook.PolicySync
import KubeSentry.Operator.SharedStatus
import KubeSentry.Gateway.ChangePush
import KubeSentry.Identity.Logins
import KubeSentry.Identity.Revocation
import KubeSentry.Identity.PasswordPolicy
import KubeSentry.Webhook.Evaluator
import KubeSentry.Webhook.EventAccounting
import KubeSentry.Gateway.StorageRules
import KubeSentry.Webhook.NamespaceCache
import KubeSentry.Hublink.GroupComparison
import KubeSentry.Console.ExceptionEdits
import KubeSentry.Webhook.EventID
