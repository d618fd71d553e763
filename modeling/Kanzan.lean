import Kanzan.Tickets.Closure
import Kanzan.Tickets.Counter
import Kanzan.Tickets.FirstResponse
import Kanzan.Tickets.Pauses
import Kanzan.Tickets.Transitions
import Kanzan.Agents.Interleaving
import Kanzan.Agents.Recovery
import Kanzan.Inbox.Breaches
import Kanzan.Inbox.Conversion
import Kanzan.Inbox.Exclusion
import Kanzan.Inbox.Holding
import Kanzan.Inbox.Load
import Kanzan.Inbox.Triage
import Kanzan.Kanban.Order
import Kanzan.Mail.Polling
import Kanzan.Billing.Convergence
import Kanzan.Accounts.Curated
import Kanzan.Accounts.Escalation
import Kanzan.Accounts.Quota
import Kanzan.ApiKeys.Credentials
import Kanzan.Attachments.Agreement
import Kanzan.Comments.Disclosure
import Kanzan.Mail.Correspondence
import Kanzan.Webhooks.Delivery
import Kanzan.Voip.Calls
import Kanzan.Crm.Alerts
import Kanzan.Messaging.Openings
import Kanzan.Messaging.Replies
import Kanzan.Messaging.Senders
import Kanzan.Knowledge.Publication
import Kanzan.CustomFields.History
import Kanzan.Crm.Terminal
import Kanzan.Tenants.Sessions
import Kanzan.Analytics.Deleted
import Kanzan.Analytics.Compliance
import Kanzan.Analytics.ClosedStatuses
import Kanzan.Tickets.Csat
import Kanzan.Tickets.Surveys
import Kanzan.Tickets.OutboundEmail
import Kanzan.Tickets.AssignmentNotices
import Kanzan.Tickets.ActivityLogs
import Kanzan.Tickets.AssigneeMembership
import Kanzan.Tickets.PolicyLinks
import Kanzan.Access.Visibility
import Kanzan.Kanban.Trespass
import Kanzan.Kanban.Duplicates
import Kanzan.Inbox.Claims
import Kanzan.Billing.Limits
import Kanzan.Comments.Authorship
import Kanzan.Accounts.GlobalLogout
import Kanzan.Sla.Additions
import Kanzan.Sla.Accrual
import Kanzan.Tickets.Merges
import Kanzan.Tickets.ConcurrentEscalations
import Kanzan.Mail.SmtpServer
import Kanzan.Tenants.Hosts
import Kanzan.Tickets.MacroText
import Kanzan.Inbox.Routing
import Kanzan.Kanban.Arrangement
import Kanzan.Tickets.PatchFailures
import Kanzan.Kanban.MoveFailures
import Kanzan.Tickets.Warnings
import Kanzan.Tickets.PolicyTurns
import Kanzan.Kanban.StageMoves
import Kanzan.Agents.Rotation
import Kanzan.Mail.Quotes
import Kanzan.Nav.Badges
import Kanzan.Tickets.Splits
import Kanzan.Tickets.CommentNotices
import Kanzan.Mail.Overrides
import Kanzan.Analytics.Trends
import Kanzan.Messaging.Mentions
import Kanzan.Mail.Attaching
import Kanzan.Notifications.Dispatch
