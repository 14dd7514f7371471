import MailerAgent.Native.Session

/-!
# Contact states and the follow-up schedule

The transition table of `state_machine.py` and the decisions of
`followup/conversation_aware.py`. A comparison of the aware current time with a
timestamp that was loaded without a time zone raises `TypeError`.
-/

namespace MailerAgent
namespace Native

open Mail

/-- `StateTransitionEvent`. -/
inductive StateTransitionEvent where
  | initialSent
  | followupSent
  | replyReceived
  | positiveInterest
  | meetingRequested
  | meetingConfirmed
  | pricingDiscussed
  | objectionRaised
  | notInterested
  | unsubscribed
  | outOfOffice
  | sequenceExhausted
  | manualPause
  | manualResume
  | manualWon
  | manualLost
  | needsHuman
  deriving DecidableEq, Repr

/-- `STATE_TRANSITIONS`; `none` is a missing edge. -/
def stateTransition : ContactStatus → StateTransitionEvent → Option ContactStatus
  | .new, .initialSent => some .active
  | .new, .manualPause => some .paused
  | .new, .needsHuman => some .needsReview
  | .active, .followupSent => some .active
  | .active, .replyReceived => some .replied
  | .active, .sequenceExhausted => some .sequenceComplete
  | .active, .manualPause => some .paused
  | .active, .manualWon => some .closedWon
  | .active, .manualLost => some .closedLost
  | .active, .needsHuman => some .needsReview
  | .replied, .positiveInterest => some .engaged
  | .replied, .meetingRequested => some .meetingRequested
  | .replied, .objectionRaised => some .engaged
  | .replied, .notInterested => some .closedLost
  | .replied, .unsubscribed => some .suppressed
  | .replied, .outOfOffice => some .active
  | .replied, .needsHuman => some .needsReview
  | .replied, .followupSent => some .active
  | .engaged, .replyReceived => some .replied
  | .engaged, .meetingRequested => some .meetingRequested
  | .engaged, .pricingDiscussed => some .evaluating
  | .engaged, .notInterested => some .closedLost
  | .engaged, .unsubscribed => some .suppressed
  | .engaged, .objectionRaised => some .engaged
  | .engaged, .manualWon => some .closedWon
  | .engaged, .manualLost => some .closedLost
  | .evaluating, .replyReceived => some .replied
  | .evaluating, .meetingRequested => some .meetingRequested
  | .evaluating, .positiveInterest => some .negotiating
  | .evaluating, .notInterested => some .closedLost
  | .evaluating, .unsubscribed => some .suppressed
  | .evaluating, .manualWon => some .closedWon
  | .evaluating, .manualLost => some .closedLost
  | .meetingRequested, .meetingConfirmed => some .meetingScheduled
  | .meetingRequested, .replyReceived => some .replied
  | .meetingRequested, .notInterested => some .closedLost
  | .meetingRequested, .unsubscribed => some .suppressed
  | .meetingRequested, .needsHuman => some .needsReview
  | .meetingScheduled, .positiveInterest => some .negotiating
  | .meetingScheduled, .notInterested => some .closedLost
  | .meetingScheduled, .manualWon => some .closedWon
  | .meetingScheduled, .manualLost => some .closedLost
  | .negotiating, .replyReceived => some .replied
  | .negotiating, .manualWon => some .closedWon
  | .negotiating, .manualLost => some .closedLost
  | .negotiating, .notInterested => some .closedLost
  | .nurture, .replyReceived => some .replied
  | .nurture, .positiveInterest => some .engaged
  | .nurture, .manualResume => some .active
  | .nurture, .notInterested => some .closedLost
  | .nurture, .unsubscribed => some .suppressed
  | .sequenceComplete, .replyReceived => some .replied
  | .sequenceComplete, .manualResume => some .active
  | .sequenceComplete, .manualWon => some .closedWon
  | .sequenceComplete, .manualLost => some .closedLost
  | .needsReview, .manualResume => some .active
  | .needsReview, .manualWon => some .closedWon
  | .needsReview, .manualLost => some .closedLost
  | .needsReview, .manualPause => some .paused
  | .paused, .manualResume => some .active
  | .paused, .manualWon => some .closedWon
  | .paused, .manualLost => some .closedLost
  | .closedLost, .manualResume => some .active
  | _, _ => none

/-- `infer_event_from_semantic_intent`. -/
def inferEventFromSemanticIntent (intent : SemanticIntent) : StateTransitionEvent :=
  if .unsubscribe ∈ intent.intents then .unsubscribed
  else if .notInterested ∈ intent.intents then .notInterested
  else if .outOfOffice ∈ intent.intents then .outOfOffice
  else if .meetingRequest ∈ intent.intents then .meetingRequested
  else if .pricingRequest ∈ intent.intents then .pricingDiscussed
  else if .positiveInterest ∈ intent.intents then .positiveInterest
  else if .objection ∈ intent.intents then .objectionRaised
  else .replyReceived

/-- `should_cancel_scheduled_followup`. -/
def shouldCancelScheduledFollowup : ContactStatus → Bool
  | .replied | .engaged | .evaluating | .meetingRequested | .meetingScheduled
  | .negotiating | .needsReview | .closedWon | .closedLost | .suppressed
  | .paused => true
  | _ => false

/-- Microseconds in a day. -/
def day : Nat := 86400 * second

/-- The least and the greatest instant that a `datetime` can hold. -/
def datetimeMin : Instant := -62135596800000000

@[inherit_doc datetimeMin]
def datetimeMax : Instant := 253402300799999999

/-- `now + timedelta(days=days)`. -/
def addDays
    (now : Instant)
    (days : Int) : Except Failure Instant :=
  let result := now + days * day
  if datetimeMin ≤ result ∧ result ≤ datetimeMax then .ok result
  else .error (.raised "OverflowError")

/-- Time between the current time and a loaded timestamp. -/
def elapsed
    (services : Services)
    (now past : Instant) : Except Failure Int :=
  if services.loadsTimeZone then .ok (now - past) else .error (.raised "TypeError")

/-- `_extract_requested_timing`. -/
def extractRequestedTiming (intent : SemanticIntent) : Option Instant :=
  intent.timing.bind fun timing =>
    if timing.requiresClarification || (truthy timing.normalizedTarget).isNone then none
    else timing.parsedTarget

/-- `compute_next_followup` without an intent. -/
def computeNextFollowup
    (now : Instant)
    (contact : Contact)
    (campaign : Campaign) :
    Except Failure (Option Instant) :=
  if shouldCancelScheduledFollowup contact.status then .ok none
  else
    match campaign.followUpDays[contact.followUpIndex]? with
    | none => .ok none
    | some days => (addDays now days).map some

/-- `can_send_followup`. -/
def canSendFollowup
    (services : Services)
    (now : Instant)
    (contact : Contact) :
    Except Failure Bool :=
  if contact.status ≠ .active then .ok false
  else
    match contact.nextActionAt with
    | none => .ok false
    | some due => (elapsed services now due).map fun passed => 0 ≤ passed

/-- `should_send_followup_now`. -/
def shouldSendFollowupNow
    (services : Services)
    (now : Instant)
    (contact : Contact) :
    Except Failure Bool := do
  if !(← canSendFollowup services now contact) then return false
  match contact.lastReplyAt with
  | none => return true
  | some replied =>
      let passed ← elapsed services now replied
      return day ≤ passed

/-- The date arithmetic of `send_followup_if_due` and
`get_followup_message_hint`, which only the drafting reads. -/
def followupHints
    (services : Services)
    (now : Instant)
    (contact : Contact) :
    Except Failure Unit := do
  if let some sent := contact.lastOutboundAt then
    let _ ← elapsed services now sent
  if let some replied := contact.lastReplyAt then
    let _ ← elapsed services now replied

/-- `reschedule_after_reply`. -/
def rescheduleAfterReply
    (now : Instant)
    (campaign : Campaign)
    (intent : SemanticIntent) :
    Except Failure (Option Instant) :=
  let requested :=
    if .timingConstraint ∈ intent.intents then extractRequestedTiming intent else none
  match requested with
  | some instant => .ok (some instant)
  | none =>
      if intent.urgency = .longTerm then
        (addDays now ((campaign.followUpDays.max?.map (· * 2)).getD 30)).map some
      else if .positiveInterest ∈ intent.intents ∨ .meetingRequest ∈ intent.intents ∨
          .pricingRequest ∈ intent.intents then .ok none
      else (addDays now (campaign.followUpDays.head?.getD 7)).map some

end Native
end MailerAgent
