import Mathlib.Data.List.Basic

/-!
# Deployment settings

The settings that the modelled code reads. Stored timestamps have a resolution of
one microsecond; the configured durations are in seconds.
-/

namespace MailerAgent

/-- Microseconds in a second. -/
def second : Nat := 1000000

/-- Per-call SMTP transport. -/
structure SmtpConfig where
  host : String
  port : Nat
  useTls : Bool
  username : String
  password : String
  deriving DecidableEq, Repr

/-- Process-wide configuration, fixed while the processes run. -/
structure Settings where
  smtp : SmtpConfig := ⟨"smtp.gmail.com", 587, true, "", ""⟩
  liveSendingEnabled : Bool := false
  autoReplyEnabled : Bool := false
  maxSendsPerCycle : Nat := 20
  leadboostIntegrationSenderEmail : String := ""
  leadboostIntegrationSenderName : String := "LeadBoost Outreach"
  leadboostIntegrationSenderOrg : String := "LeadBoost"
  externalDispatchMaxPerCycle : Nat := 5
  externalDispatchLeaseSeconds : Nat := 900
  externalDispatchGenerationLeaseSeconds : Nat := 300
  claimLeaseSeconds : Nat := 300
  deriving DecidableEq, Repr

end MailerAgent
