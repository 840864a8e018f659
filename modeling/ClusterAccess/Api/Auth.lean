import ClusterAccess.Secret

/-!
# Signing in to the administration interface

## Main definitions

* `Auth`: the three ways of signing in.
* `Auth.describe`: a description without secrets.
-/
namespace ClusterAccess.Api

inductive Auth where
  /-- A token that was issued before. -/
  | bearer (token : Secret)
  /-- An account that is given short-lived tokens. -/
  | serviceAccount (id : String) (secret : Secret)
  /-- A key pair for answering digest challenges. -/
  | apiKey (publicKey : String) (privateKey : Secret)
  deriving DecidableEq

def Auth.describe : Auth → String
  | bearer _ => "Bearer([REDACTED])"
  | serviceAccount id _ =>
    Text.record "ServiceAccount"
      [("client_id", Text.quoted id), ("client_secret", Text.quoted "[REDACTED]")]
  | apiKey publicKey _ =>
    Text.record "ApiKey"
      [("public_key", Text.quoted publicKey), ("private_key", Text.quoted "[REDACTED]")]

end ClusterAccess.Api
