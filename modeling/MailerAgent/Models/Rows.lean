import MailerAgent.Models.Semantics

/-!
# Rows

The rows of the tables of `models.py`. A row does not carry its primary key: the
key is its position in the table. Enumerated columns are inductive types;
timestamps are naive UTC instants.
-/

namespace MailerAgent

/-- `ContactStatus`. -/
inductive ContactStatus where
  | new
  | active
  | replied
  | engaged
  | qualifying
  | evaluating
  | meetingRequested
  | meetingScheduled
  | negotiating
  | nurture
  | sequenceComplete
  | closedWon
  | closedLost
  | suppressed
  | paused
  | needsReview
  deriving DecidableEq, Repr

/-- The stored text of a contact status. -/
def ContactStatus.value : ContactStatus → String
  | new => "new"
  | active => "active"
  | replied => "replied"
  | engaged => "engaged"
  | qualifying => "qualifying"
  | evaluating => "evaluating"
  | meetingRequested => "meeting_requested"
  | meetingScheduled => "meeting_scheduled"
  | negotiating => "negotiating"
  | nurture => "nurture"
  | sequenceComplete => "sequence_complete"
  | closedWon => "closed_won"
  | closedLost => "closed_lost"
  | suppressed => "suppressed"
  | paused => "paused"
  | needsReview => "needs_review"

/-- `MessageDirection`. -/
inductive MessageDirection where
  | outbound
  | inbound
  deriving DecidableEq, Repr

/-- `MessageType`. -/
inductive MessageType where
  | initial
  | followUp
  | reply
  | closing
  deriving DecidableEq, Repr

/-- The values of `MessageStatus` that the code writes. -/
inductive MessageStatus where
  | draft
  | sending
  | sent
  | failed
  | unknown
  | received
  deriving DecidableEq, Repr

/-- The stored text of a status. -/
def MessageStatus.value : MessageStatus → String
  | draft => "draft"
  | sending => "sending"
  | sent => "sent"
  | failed => "failed"
  | unknown => "unknown"
  | received => "received"

/-- `ExternalDispatchState`. -/
inductive ExternalDispatchState where
  | queued
  | generating
  | sending
  | sent
  | failed
  | unknown
  deriving DecidableEq, Repr

/-- States that no later step may leave. -/
def ExternalDispatchState.terminal : ExternalDispatchState → Bool
  | sent => true
  | failed => true
  | unknown => true
  | _ => false

/-- `MailboxStatus`. -/
inductive MailboxStatus where
  | active
  | disabled
  deriving DecidableEq, Repr

/-- A row of `campaigns`. -/
structure Campaign where
  name : String
  organizationId : Option String
  integrationSource : Option String := none
  senderName : String
  senderOrg : String
  senderEmail : String
  replyToEmail : Option String := none
  valueProp : String
  proofPoints : Option String := none
  followUpDays : List Int := [3, 7, 14]
  timezone : String := "UTC"
  isActive : Bool := true
  deriving DecidableEq, Repr

/-- A row of `contacts`. -/
structure Contact where
  campaignId : Nat
  name : Option String := none
  email : String
  title : Option String := none
  company : Option String := none
  contextNotes : Option String := none
  status : ContactStatus := .new
  followUpIndex : Nat := 0
  nextActionAt : Option Instant := none
  lastReplyAt : Option Instant := none
  lastOutboundAt : Option Instant := none
  buyingStage : Option BuyingStage := none
  memorySummary : Option String := none
  claimedBy : Option String := none
  claimedAt : Option Instant := none
  updatedAt : Instant := 0
  deriving DecidableEq, Repr

/-- A row of `messages`. -/
structure Message where
  contactId : Nat
  direction : MessageDirection
  messageType : Option MessageType := none
  subject : Option String := none
  body : String
  status : MessageStatus := .draft
  messageIdHeader : Option String := none
  inReplyToHeader : Option String := none
  referencesHeader : Option String := none
  detectedIntent : Option String := none
  semanticAnalysis : Option SemanticIntent := none
  classificationSuccess : Option Bool := none
  classificationFailureReason : Option String := none
  errorMessage : Option String := none
  mailboxId : Option Nat := none
  createdAt : Instant := 0
  replyReference : Option String := none
  deriving DecidableEq, Repr

/-- The recipient part of a grounding snapshot. -/
structure RecipientSnapshot where
  name : Option String := none
  title : Option String := none
  company : Option String := none
  deriving DecidableEq, Repr

/-- The threading facts of a reply, fixed at acceptance. -/
structure ReplyParent where
  messageId : Nat
  subject : String
  inReplyToHeader : String
  referencesHeader : Option String
  deriving DecidableEq, Repr

/-- The write-once snapshot `grounding_context` of a generated dispatch. -/
structure GroundingContext where
  version : Nat
  valueProp : String
  contextNotes : Option String
  conversationTranscript : Option String
  recipient : RecipientSnapshot
  replyParent : Option ReplyParent := none
  deriving DecidableEq, Repr

/-- A row of `external_dispatches`. -/
structure ExternalDispatch where
  organizationId : String
  idempotencyKey : String
  externalActionId : Option String
  correlationId : Option String
  campaignId : Nat
  contactId : Nat
  messageId : Option Nat
  mailboxId : Option Nat
  requestFingerprint : String
  groundingContext : Option GroundingContext := none
  publicReference : String
  state : ExternalDispatchState := .queued
  claimedBy : Option String := none
  claimedAt : Option Instant := none
  errorMessage : Option String := none
  createdAt : Instant := 0
  updatedAt : Instant := 0
  deriving DecidableEq, Repr

/-- A row of `suppression_list`. -/
structure SuppressionEntry where
  email : String
  organizationId : Option String
  reason : Option String := none
  deriving DecidableEq, Repr

/-- A row of `mailboxes`. -/
structure Mailbox where
  publicReference : String
  organizationId : String
  emailAddress : String
  smtpHost : String
  smtpPort : Nat
  smtpUseTls : Bool
  smtpUsername : String
  smtpPasswordEnc : String
  imapHost : Option String := none
  imapPort : Option Nat := none
  imapUsername : Option String := none
  imapPasswordEnc : Option String := none
  status : MailboxStatus := .active
  updatedAt : Instant := 0
  deriving DecidableEq, Repr

/-- A row of `unmatched_inbound_messages`. -/
structure UnmatchedInboundMessage where
  mailboxId : Nat
  organizationId : String
  messageIdHeader : String
  reason : String
  fromEmail : Option String
  subject : Option String
  body : String
  inReplyToHeader : Option String
  referencesHeader : Option String
  resolvedAt : Option Instant := none
  deriving DecidableEq, Repr

end MailerAgent
