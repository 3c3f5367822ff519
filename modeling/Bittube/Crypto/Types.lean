import Mathlib

/-!
# The fixed-size values of the crypto layer

`crypto::hash`, `crypto::public_key`, `crypto::secret_key`, `crypto::key_image`,
`crypto::key_derivation` and `rct::key` are POD classes of 32 bytes, `crypto::hash8` of 8 and
`crypto::signature` of 64. The serializers copy them as raw blobs of exactly that size, so the
model keeps only the bytes, with the size as a field: a key of the wrong length cannot be built,
and every reader of a blob may rely on it.

The arithmetic behind these values (curve operations, hashing) is not modelled here; the
modules that need it take it as a function parameter.
-/

namespace Bittube.Crypto

/-- A POD blob of `n` bytes. -/
structure Blob (n : ℕ) where
  data : List UInt8
  size_eq : data.length = n
  deriving DecidableEq, Repr

/-- The all-zero blob (`null_hash`, `null_pkey`). -/
def Blob.zero (n : ℕ) : Blob n := ⟨List.replicate n 0, List.length_replicate⟩

theorem Blob.ext_data {n : ℕ} {a b : Blob n} (h : a.data = b.data) : a = b := by
  cases a
  cases b
  cases h
  rfl

/-- The first `n` bytes of a list, padded with zeros: a `memcpy` of `n` bytes into a POD value
from a buffer that may be shorter (the padding is never read by the modelled callers). -/
def Blob.ofList (n : ℕ) (bytes : List UInt8) : Blob n :=
  ⟨(bytes ++ List.replicate n 0).take n, by simp⟩

theorem Blob.ofList_data {n : ℕ} (b : Blob n) : Blob.ofList n b.data = b := by
  apply Blob.ext_data
  simp [Blob.ofList, ← b.size_eq]

theorem Blob.ofList_data_of_length {n : ℕ} {bytes : List UInt8} (h : bytes.length = n) :
    (Blob.ofList n bytes).data = bytes := by
  subst h
  simp [Blob.ofList]

abbrev Hash := Blob 32
abbrev Hash8 := Blob 8
abbrev PublicKey := Blob 32
abbrev SecretKey := Blob 32
abbrev KeyImage := Blob 32
abbrev KeyDerivation := Blob 32
abbrev Signature := Blob 64

/-- `crypto::null_hash` and `crypto::null_pkey`. -/
def nullHash : Hash := Blob.zero 32

/-- `keypair`: a public key with its secret key. -/
structure Keypair where
  pub : PublicKey
  sec : SecretKey
  deriving DecidableEq, Repr

end Bittube.Crypto
