import MacMgmt.Lib.Base64

/-!
# Signed heartbeats and assessments

An instance signs its id and the time with the key that its id is a hash of. The arithmetic on times is that of a release build, and
an index out of bounds is a panic, written `none`.
-/

namespace MacMgmt.Server
open Lib

inductive SignatureError where
  | missing
  | signedAt
  | publicKeyBase64
  | fingerprint
  | publicKeyFormat
  | publicKey
  | signatureBase64
  | signatureFormat
  | verification
deriving DecidableEq

namespace SignatureError

def text : SignatureError → String
  | .missing => "missing public_key or signature"
  | .signedAt => "signed_at timestamp too old or too far in the future"
  | .publicKeyBase64 => "invalid base64 in public_key"
  | .fingerprint => "public key fingerprint does not match instance_id"
  | .publicKeyFormat => "invalid SSH ed25519 public key format"
  | .publicKey => "invalid ed25519 public key"
  | .signatureBase64 => "invalid base64 in signature"
  | .signatureFormat => "invalid ed25519 signature format"
  | .verification => "signature verification failed"

end SignatureError

structure HeartbeatBody where
  instanceId : String
  signedAt : Int64
  publicKey : String
  signature : String

/-- The packages `sha2` and `ed25519_dalek`. -/
structure Crypto where
  VerifyingKey : Type
  Signature : Type
  sha256 : List UInt8 → List UInt8
  keyFromBytes : List UInt8 → Option VerifyingKey
  signatureFromSlice : List UInt8 → Option Signature
  verify : VerifyingKey → String → Signature → Bool

def heartbeatMaxAgeSecs : Int64 := 120
def assessmentMaxAgeSecs : Int64 := 300

/-! ## The key of the wire format -/

def u32FromBeBytes (bytes : List UInt8) : Nat := bytes.foldl (fun value byte => value * 256 + byte.toNat) 0

/-- `data[start..stop]` -/
def slice (data : List UInt8) (start stop : Nat) : Option (List UInt8) :=
  if start ≤ stop ∧ stop ≤ data.length then some ((data.take stop).drop start) else none

def extractEd25519Pubkey (data : List UInt8) : Option (Option (List UInt8)) :=
  if data.length < 4 then some none
  else (slice data 0 4).bind fun typeLen =>
    let keyStart := 4 + u32FromBeBytes typeLen
    if data.length < keyStart + 4 then some none
    else (slice data keyStart (keyStart + 4)).bind fun keyLen =>
      if u32FromBeBytes keyLen ≠ 32 ∨ data.length < keyStart + 4 + 32 then some none
      else (slice data (keyStart + 4) (keyStart + 4 + 32)).map fun keyBytes =>
        if keyBytes.length = 32 then some keyBytes else none

/-! ## The checks -/

namespace Crypto
variable (crypto : Crypto)

def verifyWith (publicKey : List UInt8) (signature message : String) : Option (Except SignatureError Unit) :=
  (extractEd25519Pubkey publicKey).map fun
    | none => .error .publicKeyFormat
    | some rawPk =>
        match crypto.keyFromBytes rawPk with
        | none => .error .publicKey
        | some verifyingKey =>
            match base64Decode signature.toList with
            | none => .error .signatureBase64
            | some sigBytes =>
                match crypto.signatureFromSlice sigBytes with
                | none => .error .signatureFormat
                | some signature =>
                    if crypto.verify verifyingKey message signature then .ok () else .error .verification

def verifySignature (maxAge now : Int64) (instanceId : String) (signedAt : Int64) (publicKey signature : String) :
    Option (Except SignatureError Unit) :=
  if publicKey.isEmpty ∨ signature.isEmpty then some (.error .missing)
  else if maxAge < (now - signedAt).abs then some (.error .signedAt)
  else
    match base64Decode publicKey.toList with
    | none => some (.error .publicKeyBase64)
    | some pkBytes =>
        if String.ofList (hexEncode (crypto.sha256 pkBytes)) ≠ instanceId then some (.error .fingerprint)
        else crypto.verifyWith pkBytes signature (instanceId ++ ":" ++ toString signedAt.toInt)

def verifyHeartbeatSignature (now : Int64) (body : HeartbeatBody) : Option (Except SignatureError Unit) :=
  crypto.verifySignature heartbeatMaxAgeSecs now body.instanceId body.signedAt body.publicKey body.signature

def verifyAssessmentSignature (now : Int64) (instanceId : String) (signedAt : Int64) (publicKey signature : String) :
    Option (Except SignatureError Unit) :=
  crypto.verifySignature assessmentMaxAgeSecs now instanceId signedAt publicKey signature

end Crypto
end MacMgmt.Server
