import EnvAudit.Text.Digit
import EnvAudit.Text.LetterCase
import EnvAudit.Text.Word
import EnvAudit.Number.Binary64
/-!
# The look of a secret

When no signature knows a value, its key decides: a key that names something sensitive, with a value longer than
sixteen characters that holds at least one character of the base64 alphabet.  The entropy of a value is reported
beside it and decides nothing.
-/
namespace EnvAudit

def secretKeywords : List Text := [
  "password".toList, "secret".toList, "token".toList, "api_key".toList, "apikey".toList, "auth".toList,
  "private".toList, "credential".toList, "key".toList]

def hasSecretKeyword (key : Text) : Bool :=
  let low := lowercase key
  secretKeywords.any fun k => occursIn k low

def isBase64Char (c : Char) : Bool :=
  isAsciiLetter c || isAsciiDigit c || c = '+' || c = '/' || c = '='

def longestPlainValue : Nat := 16

def looksLikeSecret (key value : Text) : Bool :=
  hasSecretKeyword key && longestPlainValue < value.length && value.any isBase64Char

/-! ## Entropy -/

/-- How often each character occurs, in the order of first appearance. -/
def countChars (t : Text) : List (Char × Nat) :=
  t.foldl (fun counts c =>
    if counts.any fun e => e.1 = c then counts.map fun e => if e.1 = c then (c, e.2 + 1) else e
    else counts ++ [(c, 1)]) []

/-- Bits for each character, the terms taken in the order of first appearance. -/
def entropy (t : Text) : Float :=
  let length := Float.ofNat t.length
  (countChars t).foldl (fun sum e =>
    let p := Float.ofNat e.2 / length
    sum - p * p.log2) 0.0

end EnvAudit
