import MailerAgent.Dispatch.Claiming
import MailerAgent.Dispatch.ExactMessage

/-!
# The generation worker

The transactions of `mail/outreach_generation_worker.py`. G1 claims an accepted
dispatch and fixes the generation input; the language model then drafts without a
transaction; G2 inserts the one message and attaches it under the claim's fence.
The draft is input: the model may return any text, or raise.
-/

namespace MailerAgent
namespace Dispatch

open Relational

/-- The values that survive G1. -/
structure PreparedGeneration where
  claim : ClaimedDispatch
  contactId : Nat
  email : String
  valueProp : String
  contextNotes : Option String
  transcript : Option String
  recipient : RecipientSnapshot
  replyParent : Option ReplyParent
  deriving DecidableEq, Repr

/-- `_valid_reply_parent`, raising its refusal. -/
def validReplyParent : Option ReplyParent → Except String (Option ReplyParent)
  | none => .ok none
  | some parent =>
      if parent.subject = "" ∨ parent.inReplyToHeader = "" then
        .error "generation_context_invalid: reply parent snapshot is malformed"
      else .ok (some parent)

/-- `_prepare`, raising the text of its refusal. -/
def prepareGeneration
    (database : Database)
    (claim : ClaimedDispatch)
    (row : ExternalDispatch) : Except String PreparedGeneration :=
  match row.groundingContext.filter fun snapshot => snapshot.valueProp != "" with
  | none =>
      .error "generation_context_missing: dispatch has no usable grounding snapshot"
  | some snapshot =>
      match (database.campaigns.get row.campaignId).filter fun campaign =>
          campaign.organizationId == some row.organizationId with
      | none => .error "tenant_mismatch: campaign not found for this organization"
      | some _ =>
          match (database.contacts.get row.contactId).filter fun contact =>
              contact.campaignId == row.campaignId with
          | none =>
              .error "tenant_mismatch: contact does not belong to the dispatch's campaign"
          | some contact =>
              (validReplyParent snapshot.replyParent).map fun replyParent =>
                { claim := claim
                  contactId := row.contactId
                  email := contact.email
                  valueProp := snapshot.valueProp
                  contextNotes := snapshot.contextNotes
                  transcript := snapshot.conversationTranscript
                  recipient := snapshot.recipient
                  replyParent := replyParent }

/-- Transaction G1 under a claim: the claimed database with what was prepared, or
the refused one. -/
def transactionG1
    (database : Database)
    (claim : ClaimedDispatch) :
    Option (Database × Except String PreparedGeneration) :=
  (guardedGenerationClaim database claim).bind fun claimed =>
    (database.dispatches.get claim.dispatchId).bind fun row =>
      match prepareGeneration database claim row with
      | .ok prepared => some (claimed, .ok prepared)
      | .error reason =>
          (failGeneration claimed claim.claimedAt claim reason).map fun failed =>
            (failed, .error reason)

/-- How the call of the language model ended. -/
inductive DraftAttempt where
  | drafted (draft : Draft)
  | raised (exceptionName : String)
  deriving DecidableEq, Repr

/-- `_generate`: an accepted draft, or the reason of the failure. -/
def generate : DraftAttempt → Except String Draft
  | .raised name => .error ("generation_failed: " ++ name)
  | .drafted draft =>
      match draft.grounding with
      | none => .error "generation_grounding_blocked: no grounding result"
      | some grounding =>
          if grounding.hardBlock then
            .error ("generation_grounding_blocked: " ++ grounding.validationNotes)
          else .ok draft

/-- The message that G2 inserts. Subject and threading of a reply come from the
stored parent, never from the draft. -/
def generatedMessage
    (prepared : PreparedGeneration)
    (draft : Draft)
    (createdAt : Instant)
    (replyReference : String) : Message :=
  let message := createAuthorizedMessage prepared.contactId draft.subject draft.body
    createdAt replyReference
  match prepared.replyParent with
  | none => message
  | some parent =>
      { message with
        messageType := some .reply
        subject := some parent.subject
        inReplyToHeader := some parent.inReplyToHeader
        referencesHeader := parent.referencesHeader }

/-- Effect of the statements of one G2 attempt. -/
inductive G2Effect where
  | written (database : Database)
  | fenceLost
  | integrityError

/-- One attempt of `_transaction_g2` before its commit. -/
def transactionG2
    (database : Database)
    (prepared : PreparedGeneration)
    (result : Except String Draft)
    (createdAt : Instant)
    (replyReference : String) : G2Effect :=
  match result with
  | .error failure =>
      match failGeneration database createdAt prepared.claim failure with
      | none => .fenceLost
      | some updated => .written updated
  | .ok draft =>
      match database.insertMessage
          (generatedMessage prepared draft createdAt replyReference) with
      | none => .integrityError
      | some inserted =>
          match completeGeneration inserted createdAt prepared.claim
              database.messages.size with
          | none => .fenceLost
          | some updated => .written updated

/-- `_TXN_G2_ATTEMPTS`. -/
def transactionG2Attempts : Nat := 3

end Dispatch
end MailerAgent
