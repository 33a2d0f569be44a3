import EnvAudit.Secret.Heuristic
import EnvAudit.Signature.Basic
import EnvAudit.EnvFile.Line
/-!
# Findings

A finding is the suspicion that one variable holds a secret.  A variable yields at most one: that of the first
signature that knows its value, or, when none does, that of the look of a secret.
-/
namespace EnvAudit

structure Finding where
  key : Text
  reason : Text
  line : Int
  severity : Severity
  /-- The name of the signature, if it was one. -/
  signature : Option Value
  /-- The entropy of the value, where only its look speaks against it. -/
  entropy : Option Float
  deriving Repr

def lookReason : Text := "Key name suggests sensitive data with high-entropy value".toList

def signatureReason (s : Signature) : Text := "Looks like a ".toList ++ s.label

def inspect (table : List Signature) (v : Variable) : Option Finding :=
  match firstMatch table v.value with
  | some s => some ⟨v.key, signatureReason s, v.line, s.severity, some s.name, none⟩
  | none =>
    if looksLikeSecret v.key v.value then
      some ⟨v.key, lookReason, v.line, .medium, none, some (entropy v.value)⟩
    else none

def detect (table : List Signature) (vs : List Variable) : List Finding := vs.filterMap (inspect table)

end EnvAudit
