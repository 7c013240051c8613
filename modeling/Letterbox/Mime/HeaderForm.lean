/-!
# Names of headers

The names that are registered for headers of mail, in their usual spelling, and how the values of those
with a meaning of their own are read.
-/

namespace Letterbox.Mime

/-- How the value of a header is read. -/
inductive HeaderForm where
  /-- Text that may hold encoded words. -/
  | phrase
  /-- Addresses. -/
  | addresses
  /-- A date. -/
  | date
  /-- Identifiers in angle brackets. -/
  | identifiers
  /-- Phrases between commas. -/
  | phrases
  /-- A content type with parameters. -/
  | contentType
  /-- Text as it stands. -/
  | verbatim
deriving DecidableEq, Repr

/-- The names whose values are not taken as they stand. -/
def formedHeaders : List (String × HeaderForm) :=
  [
    ("Subject", .phrase), ("Comments", .phrase), ("Content-Description", .phrase),
    ("Content-Location", .phrase), ("Content-Transfer-Encoding", .phrase),
    ("From", .addresses), ("To", .addresses), ("Cc", .addresses), ("Bcc", .addresses),
    ("Reply-To", .addresses), ("Sender", .addresses), ("Resent-To", .addresses),
    ("Resent-From", .addresses), ("Resent-Bcc", .addresses), ("Resent-Cc", .addresses),
    ("Resent-Sender", .addresses), ("List-Archive", .addresses), ("List-Help", .addresses),
    ("List-ID", .addresses), ("List-Owner", .addresses), ("List-Post", .addresses),
    ("List-Subscribe", .addresses), ("List-Unsubscribe", .addresses),
    ("Date", .date), ("Resent-Date", .date),
    ("Message-ID", .identifiers), ("References", .identifiers), ("In-Reply-To", .identifiers),
    ("Return-Path", .identifiers), ("Content-ID", .identifiers), ("Resent-Message-ID", .identifiers),
    ("Keywords", .phrases), ("Content-Language", .phrases),
    ("Content-Type", .contentType), ("Content-Disposition", .contentType)
  ]

/-- The other registered names. -/
def plainHeaders : List String :=
  [
    "Accept-Language", "Alternate-Recipient", "Archived-At", "ARC-Authentication-Results",
    "ARC-Message-Signature", "ARC-Seal", "Authentication-Results", "Auto-Submitted", "Autoforwarded",
    "Autosubmitted", "Base", "Content-Alternative", "Content-Base", "Content-Duration",
    "Content-Features", "Content-Identifier", "Content-MD5", "Content-Return",
    "Content-Translation-Type", "Conversion", "Conversion-With-Loss", "Deferred-Delivery",
    "Delivered-To", "Delivery-Date", "Discarded-X400-IPMS-Extensions", "Discarded-X400-MTS-Extensions",
    "Disclose-Recipients", "Disposition-Notification-Options", "Disposition-Notification-To",
    "DKIM-Signature", "DL-Expansion-History", "Encoding", "Encrypted", "Expires", "Expiry-Date",
    "Generate-Delivery-Report", "Importance", "Incomplete-Copy", "Language", "Latest-Delivery-Time",
    "List-Unsubscribe-Post", "Message-Context", "Message-Type", "MIME-Version",
    "MMHS-Acp127-Message-Identifier", "MMHS-Codress-Message-Indicator", "MMHS-Copy-Precedence",
    "MMHS-Exempted-Address", "MMHS-Extended-Authorisation-Info", "MMHS-Handling-Instructions",
    "MMHS-Message-Instructions", "MMHS-Message-Type", "MMHS-Originator-PLAD",
    "MMHS-Originator-Reference", "MMHS-Other-Recipients-Indicator-CC",
    "MMHS-Other-Recipients-Indicator-To", "MMHS-Primary-Precedence", "MMHS-Subject-Indicator-Codes",
    "MT-Priority", "Obsoletes", "Original-Encoded-Information-Types", "Original-From",
    "Original-Message-ID", "Original-Recipient", "Original-Subject", "Originator-Return-Address",
    "PICS-Label", "Prevent-NonDelivery-Report", "Priority", "Received", "Received-SPF", "Reply-By",
    "Require-Recipient-Valid-Since", "Resent-Reply-To", "Sensitivity", "SIO-Label", "SIO-Label-History",
    "Solicitation", "Supersedes", "TLS-Report-Domain", "TLS-Report-Submitter", "TLS-Required",
    "VBR-Info", "X400-Content-Identifier", "X400-Content-Return", "X400-Content-Type",
    "X400-MTS-Identifier", "X400-Originator", "X400-Received", "X400-Recipients", "X400-Trace"
  ]

/-- The registered names, and how their values are read. -/
def knownHeaders : List (String × HeaderForm) :=
  formedHeaders ++ plainHeaders.map fun name => (name, .verbatim)

end Letterbox.Mime
