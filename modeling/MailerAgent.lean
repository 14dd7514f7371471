import MailerAgent.Access.Requests
import MailerAgent.Grounding.ApprovedWording
import MailerAgent.Intake.Conversation
import MailerAgent.Intake.Identification
import MailerAgent.Intake.References
import MailerAgent.Llm.Callers
import MailerAgent.Llm.Waiting
import MailerAgent.Memory.Conversation
import MailerAgent.Memory.Reconciliation
import MailerAgent.Semantic.Response
import MailerAgent.Status.Metrics
import MailerAgent.Status.Stopping
import MailerAgent.World.Answers
import MailerAgent.World.AutoReply
import MailerAgent.World.Cadence
import MailerAgent.World.Credentials
import MailerAgent.World.Batches
import MailerAgent.World.Cycles
import MailerAgent.World.Conversations
import MailerAgent.World.Deliveries
import MailerAgent.World.Generation
import MailerAgent.World.Grounding
import MailerAgent.World.Ingestion
import MailerAgent.World.Intake
import MailerAgent.World.Isolation
import MailerAgent.World.Ownership
import MailerAgent.World.Recovery
import MailerAgent.World.Reports
import MailerAgent.World.Results
import MailerAgent.World.Retention
import MailerAgent.World.Senders
import MailerAgent.World.Shutdown
import MailerAgent.World.Tenants
import MailerAgent.World.Timestamps
