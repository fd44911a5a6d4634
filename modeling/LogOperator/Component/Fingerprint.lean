import LogOperator.Digest

/-!
# LogOperator.Component.Fingerprint

The fingerprint of the inputs a workload is built from: the digest of the inputs' bytes, each input
preceded by its length, so the boundaries between inputs count.

* `framed`: the bytes that are digested.
-/

namespace LogOperator.Fingerprint

/-- The bytes of one input, after their number in eight bytes. -/
def frame (part : String) : List UInt8 :=
  bytesLE 8 part.utf8ByteSize ++ utf8 part

/-- The bytes of all inputs. -/
def framed (parts : List String) : List UInt8 :=
  parts.flatMap frame

/-- The fingerprint of inputs, in hexadecimal. -/
def ofParts (parts : List String) : String :=
  hexText (Sha256.digest (framed parts))

end LogOperator.Fingerprint
