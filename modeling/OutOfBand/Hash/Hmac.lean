import OutOfBand.Hash.Sha2
import OutOfBand.Target
import OutOfBand.Text.Utf8

/-!
# Keyed hashes

The keyed hash of a message under a secret, and the text form in which a request carries it: the
name of the algorithm, an equals sign, and the hash in hexadecimal digits.
-/

namespace OutOfBand.Hash

/-- The keyed hash: the message is hashed after the key mixed with one pad, and the result after the
key mixed with the other. A key longer than a block is hashed first. -/
def hmac (v : Variant α) (key message : List UInt8) : List UInt8 :=
  let short := if v.blockBytes < key.length then v.hash key else key
  let block := short ++ List.replicate (v.blockBytes - short.length) 0
  let inner := v.hash (block.map (· ^^^ 0x36) ++ message)
  v.hash (block.map (· ^^^ 0x5c) ++ inner)

end OutOfBand.Hash

namespace OutOfBand

namespace HmacAlgorithm

def tag (algorithm : HmacAlgorithm) (key message : List UInt8) : List UInt8 :=
  match algorithm with
  | sha256 => Hash.hmac Hash.sha256 key message
  | sha512 => Hash.hmac Hash.sha512 key message

/-- The signature of a message under a secret, as text. -/
def sign (algorithm : HmacAlgorithm) (secret : String) (message : List UInt8) : String :=
  s!"{algorithm.name}={Text.hexOfBytes (algorithm.tag (Text.Utf8.encode secret) message)}"

end HmacAlgorithm

end OutOfBand
