import EnvAudit.Signature.Basic
import EnvAudit.Pattern.Reader
/-!
# The bundled table

Order is priority.  The patterns are case-sensitive, and the generic one of forty characters stands last.
-/
namespace EnvAudit

structure SignatureSource where
  name : Text
  pattern : Text
  severity : Severity
  description : Text
  deriving DecidableEq, Repr

def bundledSources : List SignatureSource := [
  ⟨"AWS Access Key ID".toList,
    "(?:A3T[A-Z0-9]|AKIA|AGPA|AIDA|AROA|AIPA|ANPA|ANVA|ASIA)[A-Z0-9]\x7b16\x7d".toList,
    .critical, "Amazon Web Services access key identifier".toList⟩,
  ⟨"GitHub Personal Access Token".toList,
    "ghp_[A-Za-z0-9]\x7b36\x7d".toList,
    .critical, "GitHub classic personal access token".toList⟩,
  ⟨"GitHub OAuth Token".toList,
    "gho_[A-Za-z0-9]\x7b36\x7d".toList,
    .critical, "GitHub OAuth access token".toList⟩,
  ⟨"GitHub App Token".toList,
    "(?:ghu|ghs)_[A-Za-z0-9]\x7b36\x7d".toList,
    .critical, "GitHub App user-to-server or server-to-server token".toList⟩,
  ⟨"GitHub Fine-Grained Token".toList,
    "github_pat_[A-Za-z0-9_]\x7b82\x7d".toList,
    .critical, "GitHub fine-grained personal access token".toList⟩,
  ⟨"GitLab Personal Access Token".toList,
    "glpat-[A-Za-z0-9_\\-]\x7b20\x7d".toList,
    .critical, "GitLab personal access token".toList⟩,
  ⟨"Slack Token".toList,
    "xox[baprs]-[A-Za-z0-9\\-]\x7b10,72\x7d".toList,
    .high, "Slack bot, user or app token".toList⟩,
  ⟨"Slack Webhook URL".toList,
    "https://hooks\\.slack\\.com/services/T[A-Za-z0-9_]+/B[A-Za-z0-9_]+/[A-Za-z0-9_]+".toList,
    .high, "Slack incoming webhook".toList⟩,
  ⟨"Private Key".toList,
    "-----BEGIN (?:RSA |EC |DSA |OPENSSH |PGP |ENCRYPTED )?PRIVATE KEY(?: BLOCK)?-----".toList,
    .critical, "PEM encoded private key header".toList⟩,
  ⟨"Stripe Live Secret Key".toList,
    "sk_live_[0-9a-zA-Z]\x7b24,\x7d".toList,
    .critical, "Stripe live mode secret key".toList⟩,
  ⟨"Stripe Test Secret Key".toList,
    "sk_test_[0-9a-zA-Z]\x7b24,\x7d".toList,
    .medium, "Stripe test mode secret key".toList⟩,
  ⟨"Stripe Restricted Key".toList,
    "rk_(?:live|test)_[0-9a-zA-Z]\x7b24,\x7d".toList,
    .high, "Stripe restricted API key".toList⟩,
  ⟨"Twilio API Key".toList,
    "SK[0-9a-fA-F]\x7b32\x7d".toList,
    .high, "Twilio API key SID".toList⟩,
  ⟨"SendGrid API Key".toList,
    "SG\\.[A-Za-z0-9_\\-]\x7b22\x7d\\.[A-Za-z0-9_\\-]\x7b43\x7d".toList,
    .high, "SendGrid API key".toList⟩,
  ⟨"Google API Key".toList,
    "AIza[0-9A-Za-z_\\-]\x7b35\x7d".toList,
    .high, "Google Cloud / Maps API key".toList⟩,
  ⟨"Mapbox Token".toList,
    "(?:pk|sk)\\.eyJ[A-Za-z0-9_\\-]+\\.[A-Za-z0-9_\\-]+".toList,
    .medium, "Mapbox access token".toList⟩,
  ⟨"JSON Web Token".toList,
    "eyJ[A-Za-z0-9_\\-]+\\.eyJ[A-Za-z0-9_\\-]+\\.[A-Za-z0-9_\\-]+".toList,
    .high, "Signed JWT (three base64url segments)".toList⟩,
  ⟨"Generic 40-character Secret".toList,
    "[A-Za-z0-9/+=]\x7b40\x7d".toList,
    .medium, "40 characters of base64 alphabet, the shape of AWS secret keys and many API secrets".toList⟩]

/-- Every pattern of the table can be read. -/
def SignatureSource.signature (s : SignatureSource) : Signature :=
  ⟨.text s.name, s.pattern, (readPattern .usual s.pattern).toOption.getD .empty, s.severity, .text s.description⟩

def bundledTable : List Signature := bundledSources.map SignatureSource.signature

/-- The name of the first bundled signature that occurs in a value. -/
def knownForm? (value : Text) : Option Value := (firstMatch bundledTable value).map (·.name)

end EnvAudit
