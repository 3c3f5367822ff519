import Bittube.CryptonoteConfig
import Bittube.Common.Base58
import Bittube.Serialization.BinaryArchive

/-!
# Address strings (`cryptonote_basic/cryptonote_basic_impl.cpp`)

`get_account_address_as_str` and `get_account_integrated_address_as_str` write the binary
serialization of an address (the two public keys, and the payment id for an integrated
address) through `base58::encode_addr` under the network's prefix. `get_account_address_from_str`
takes a string apart again: a string of exactly `2 * sizeof(public_address_outer_blob)` = 132
characters is read in the legacy hex format, any other through `decode_addr`, whose prefix says
whether the data is a plain address, a subaddress or an integrated address; the keys must then
pass `crypto::check_key`.

The round trip rests on three facts: `decode_addr` undoes `encode_addr`; the binary readers
parse exactly the bytes the writers produce; and a base58 address has 97 or 109 characters, never 132, so the legacy branch
never captures it.

`crypto::check_key` (a curve-point test) and `cn_fast_hash` are parameters.
`address_parse_info` is an out-parameter in the source: the parser receives its previous value
and changes only the fields the taken branch assigns.
-/

namespace Bittube.CryptonoteBasic

open ByteStream Bittube.Crypto Bittube.Serialization Bittube.Common.Base58 Bittube.Common.Varint

/-- `account_public_address`. -/
structure AccountPublicAddress where
  mSpendPublicKey : PublicKey
  mViewPublicKey : PublicKey
  deriving DecidableEq, Repr

/-- `integrated_address`: an address with a short payment id. -/
structure IntegratedAddress where
  adr : AccountPublicAddress
  paymentId : Hash8
  deriving DecidableEq, Repr

/-- `address_parse_info`. -/
structure AddressParseInfo where
  address : AccountPublicAddress
  isSubaddress : Bool
  hasPaymentId : Bool
  paymentId : Hash8
  deriving DecidableEq, Repr

/-- `t_serializable_object_to_blob(adr)`: `FIELD(m_spend_public_key)`, `FIELD(m_view_public_key)`. -/
def AccountPublicAddress.toBlob (adr : AccountPublicAddress) : List UInt8 :=
  adr.mSpendPublicKey.data ++ adr.mViewPublicKey.data

/-- `t_serializable_object_to_blob(iadr)`: `FIELD(adr)`, `FIELD(payment_id)`. -/
def IntegratedAddress.toBlob (iadr : IntegratedAddress) : List UInt8 :=
  iadr.adr.toBlob ++ iadr.paymentId.data

/-- `account_public_address::do_serialize` on a reading archive. -/
def readAccountPublicAddress (s : Istream) : Option (AccountPublicAddress × Istream) := do
  let (spend, s) ← field (readBlob 32) s
  let (view, s) ← field (readBlob 32) s
  if s.good then some (⟨spend, view⟩, s) else none

/-- `integrated_address::do_serialize` on a reading archive. -/
def readIntegratedAddress (s : Istream) : Option (IntegratedAddress × Istream) := do
  let (adr, s) ← field readAccountPublicAddress s
  let (paymentId, s) ← field (readBlob 8) s
  if s.good then some (⟨adr, paymentId⟩, s) else none

section Strings

variable (cnFastHash : List UInt8 → Hash) (checkKey : PublicKey → Bool)

/-- `get_account_address_as_str(nettype, subaddress, adr)`; `none` where `get_config` throws. -/
def getAccountAddressAsStr (nettype : NetworkType) (subaddress : Bool)
    (adr : AccountPublicAddress) : Option (List UInt8) := do
  let cfg ← getConfig nettype
  let addressPrefix := if subaddress then cfg.cryptonotePublicSubaddressBase58Prefix
    else cfg.cryptonotePublicAddressBase58Prefix
  some (encodeAddr cnFastHash addressPrefix adr.toBlob)

/-- `get_account_integrated_address_as_str(nettype, adr, payment_id)`. -/
def getAccountIntegratedAddressAsStr (nettype : NetworkType) (adr : AccountPublicAddress)
    (paymentId : Hash8) : Option (List UInt8) := do
  let cfg ← getConfig nettype
  some (encodeAddr cnFastHash cfg.cryptonotePublicIntegratedAddressBase58Prefix
    (IntegratedAddress.toBlob ⟨adr, paymentId⟩))

/-- `epee::misc_utils::parse::isx`: the value of a hexadecimal digit. -/
def isx (c : UInt8) : Option ℕ :=
  if 0x30 ≤ c ∧ c ≤ 0x39 then some (c.toNat - 0x30)
  else if 0x61 ≤ c ∧ c ≤ 0x66 then some (c.toNat - 0x61 + 10)
  else if 0x41 ≤ c ∧ c ≤ 0x46 then some (c.toNat - 0x41 + 10)
  else none

/-- The loop of `parse_hexstr_to_binbuff`: two digits make one byte. -/
def parseHexPairs : List UInt8 → Option (List UInt8)
  | [] => some []
  | [_] => none
  | hi :: lo :: rest => do
      let tmp ← isx hi
      let t2 ← isx lo
      let bytes ← parseHexPairs rest
      some ((tmp <<< 4 ||| t2).toUInt8 :: bytes)

/-- `string_tools::parse_hexstr_to_binbuff(s, res)`. -/
def parseHexstrToBinbuff (s : List UInt8) : Option (List UInt8) :=
  if s.length % 2 = 1 then none else parseHexPairs s

/-- `sizeof(public_address_outer_blob)`: version byte, two keys, checksum byte. -/
def publicAddressOuterBlobSize : ℕ := 66

/-- `get_account_address_checksum(bl)`: the byte sum of all but the last byte of the blob. -/
def getAccountAddressChecksum (bl : List UInt8) : UInt8 :=
  ((bl.take (publicAddressOuterBlobSize - 1)).map UInt8.toNat).sum.toUInt8

/-- `get_account_address_from_str(info, nettype, str)`: the updated `info`, or `none` where the
source returns `false` (or `get_config` throws). -/
def getAccountAddressFromStr (info : AddressParseInfo) (nettype : NetworkType)
    (str : List UInt8) : Option AddressParseInfo := do
  let cfg ← getConfig nettype
  let addressPrefix := cfg.cryptonotePublicAddressBase58Prefix
  let integratedAddressPrefix := cfg.cryptonotePublicIntegratedAddressBase58Prefix
  let subaddressPrefix := cfg.cryptonotePublicSubaddressBase58Prefix
  if 2 * publicAddressOuterBlobSize ≠ str.length then
    let (addrPrefix, data) ← decodeAddr cnFastHash str
    let info ←
      if integratedAddressPrefix = addrPrefix then
        some { info with isSubaddress := false, hasPaymentId := true }
      else if addressPrefix = addrPrefix then
        some { info with isSubaddress := false, hasPaymentId := false }
      else if subaddressPrefix = addrPrefix then
        some { info with isSubaddress := true, hasPaymentId := false }
      else none
    let info ←
      if info.hasPaymentId then do
        let iadr ← parseBinary readIntegratedAddress data
        some { info with address := iadr.adr, paymentId := iadr.paymentId }
      else do
        let address ← parseBinary readAccountPublicAddress data
        some { info with address := address }
    if !checkKey info.address.mSpendPublicKey || !checkKey info.address.mViewPublicKey then none
    else some info
  else
    -- old address format: hex of a `public_address_outer_blob`
    let buff ← parseHexstrToBinbuff str
    if buff.length ≠ publicAddressOuterBlobSize then none
    else
      let mVer := buff.headD 0
      let mAddress : AccountPublicAddress :=
        ⟨Blob.ofList 32 ((buff.drop 1).take 32), Blob.ofList 32 ((buff.drop 33).take 32)⟩
      let checkSum := buff.getD (publicAddressOuterBlobSize - 1) 0
      if cryptonotePublicAddressTextblobVer < mVer.toNat then none
      else if checkSum ≠ getAccountAddressChecksum buff then none
      else some { info with address := mAddress, isSubaddress := false, hasPaymentId := false }

end Strings

/-! ### The binary readers -/

theorem readAccountPublicAddress_toBlob (adr : AccountPublicAddress) {s : Istream}
    {rest : List UInt8} (hs : s.good = true) (hrest : s.rest = adr.toBlob ++ rest) :
    readAccountPublicAddress s = some (adr, { s with rest := rest }) := by
  have hspend : field (readBlob 32) s =
      some (adr.mSpendPublicKey, { s with rest := adr.mViewPublicKey.data ++ rest }) :=
    field_of_good (readBlob_append _ hs (by rw [hrest, AccountPublicAddress.toBlob,
      List.append_assoc])) (by simpa using hs)
  have hview : field (readBlob 32) { s with rest := adr.mViewPublicKey.data ++ rest } =
      some (adr.mViewPublicKey, { s with rest := rest }) :=
    field_of_good (readBlob_append _ (by simpa using hs) rfl) (by simpa using hs)
  simp [readAccountPublicAddress, hspend, hview, hs]

theorem readIntegratedAddress_toBlob (iadr : IntegratedAddress) {s : Istream}
    {rest : List UInt8} (hs : s.good = true) (hrest : s.rest = iadr.toBlob ++ rest) :
    readIntegratedAddress s = some (iadr, { s with rest := rest }) := by
  have hadr : field readAccountPublicAddress s =
      some (iadr.adr, { s with rest := iadr.paymentId.data ++ rest }) :=
    field_of_good (readAccountPublicAddress_toBlob _ hs (by rw [hrest, IntegratedAddress.toBlob,
      List.append_assoc])) (by simpa using hs)
  have hpid : field (readBlob 8) { s with rest := iadr.paymentId.data ++ rest } =
      some (iadr.paymentId, { s with rest := rest }) :=
    field_of_good (readBlob_append _ (by simpa using hs) rfl) (by simpa using hs)
  simp [readIntegratedAddress, hadr, hpid, hs]

theorem parseBinary_readAccountPublicAddress (adr : AccountPublicAddress) :
    parseBinary readAccountPublicAddress adr.toBlob = some adr :=
  parseBinary_of_run (readAccountPublicAddress_toBlob adr rfl (List.append_nil _).symm) rfl rfl

theorem parseBinary_readIntegratedAddress (iadr : IntegratedAddress) :
    parseBinary readIntegratedAddress iadr.toBlob = some iadr :=
  parseBinary_of_run (readIntegratedAddress_toBlob iadr rfl (List.append_nil _).symm) rfl rfl

/-! ### Lengths: no base58 address is mistaken for the legacy format -/

theorem length_toBlob (adr : AccountPublicAddress) : adr.toBlob.length = 64 := by
  simp [AccountPublicAddress.toBlob, adr.mSpendPublicKey.size_eq, adr.mViewPublicKey.size_eq]

theorem length_integrated_toBlob (iadr : IntegratedAddress) : iadr.toBlob.length = 72 := by
  simp [IntegratedAddress.toBlob, length_toBlob, iadr.paymentId.size_eq]

theorem length_writeVarint_prefixes :
    (writeVarint (0xd1 : UInt64).toNat).length = 2 ∧
      (writeVarint (0x3750 : UInt64).toNat).length = 2 ∧
      (writeVarint (0x404f : UInt64).toNat).length = 3 := by
  simp [writeVarint_of_le, writeVarint_of_lt]

/-- A plain address or subaddress string has 97 characters. -/
theorem length_encodeAddr_address (cnFastHash : List UInt8 → Hash) (subaddress : Bool)
    (adr : AccountPublicAddress) :
    (encodeAddr cnFastHash (if subaddress then (0x3750 : UInt64) else 0xd1) adr.toBlob).length =
      97 := by
  obtain ⟨h1, h2, -⟩ := length_writeVarint_prefixes
  cases subaddress <;>
    simp only [length_encodeAddr, length_toBlob, h1, h2, if_true, if_false, Bool.false_eq_true] <;>
    rfl

/-- An integrated address string has 109 characters. -/
theorem length_encodeAddr_integrated (cnFastHash : List UInt8 → Hash) (iadr : IntegratedAddress) :
    (encodeAddr cnFastHash (0x404f : UInt64) iadr.toBlob).length = 109 := by
  obtain ⟨-, -, h3⟩ := length_writeVarint_prefixes
  simp only [length_encodeAddr, length_integrated_toBlob, h3]
  rfl

/-! ### Round trips -/

section RoundTrip

variable (cnFastHash : List UInt8 → Hash) (checkKey : PublicKey → Bool)
  {nettype : NetworkType} {cfg : ConfigT} (info : AddressParseInfo)

theorem getAccountAddressFromStr_address (hcfg : getConfig nettype = some cfg)
    (subaddress : Bool) (adr : AccountPublicAddress)
    (hkeys : checkKey adr.mSpendPublicKey = true ∧ checkKey adr.mViewPublicKey = true) :
    getAccountAddressFromStr cnFastHash checkKey info nettype
        (encodeAddr cnFastHash (if subaddress then (0x3750 : UInt64) else 0xd1) adr.toBlob) =
      some { info with address := adr, isSubaddress := subaddress, hasPaymentId := false } := by
  obtain rfl := getConfig_eq hcfg
  have hlen := length_encodeAddr_address cnFastHash subaddress adr
  simp only [getAccountAddressFromStr, hcfg, hlen, Option.bind_eq_bind, Option.bind_some]
  rw [if_pos (by decide), decodeAddr_encodeAddr]
  cases subaddress <;> simp [mainnetConfig, parseBinary_readAccountPublicAddress, hkeys]

theorem getAccountAddressFromStr_integrated (hcfg : getConfig nettype = some cfg)
    (adr : AccountPublicAddress) (paymentId : Hash8)
    (hkeys : checkKey adr.mSpendPublicKey = true ∧ checkKey adr.mViewPublicKey = true) :
    getAccountAddressFromStr cnFastHash checkKey info nettype
        (encodeAddr cnFastHash (0x404f : UInt64) (IntegratedAddress.toBlob ⟨adr, paymentId⟩)) =
      some { info with
        address := adr, isSubaddress := false, hasPaymentId := true, paymentId := paymentId } := by
  obtain rfl := getConfig_eq hcfg
  have hlen := length_encodeAddr_integrated cnFastHash ⟨adr, paymentId⟩
  simp only [getAccountAddressFromStr, hcfg, hlen, Option.bind_eq_bind, Option.bind_some]
  rw [if_pos (by decide), decodeAddr_encodeAddr]
  simp [mainnetConfig, parseBinary_readIntegratedAddress, hkeys]

end RoundTrip

/-- Address strings round-trip: on every network that `get_config` knows, the string of an
address with valid keys parses back to that address, with the subaddress flag it was written
with and no payment id; an integrated address string parses back to the address and its
payment id. -/
theorem address_string_roundtrip (cnFastHash : List UInt8 → Hash) (checkKey : PublicKey → Bool)
    (nettype : NetworkType) (hnet : nettype ≠ .undefined) (adr : AccountPublicAddress)
    (hkeys : checkKey adr.mSpendPublicKey = true ∧ checkKey adr.mViewPublicKey = true)
    (info : AddressParseInfo) :
    (∀ subaddress : Bool,
      (getAccountAddressAsStr cnFastHash nettype subaddress adr).bind
          (getAccountAddressFromStr cnFastHash checkKey info nettype) =
        some { info with address := adr, isSubaddress := subaddress, hasPaymentId := false }) ∧
      ∀ paymentId : Hash8,
        (getAccountIntegratedAddressAsStr cnFastHash nettype adr paymentId).bind
            (getAccountAddressFromStr cnFastHash checkKey info nettype) =
          some { info with
            address := adr, isSubaddress := false, hasPaymentId := true, paymentId := paymentId } := by
  obtain ⟨cfg, hcfg⟩ := getConfig_isSome hnet
  have hprefix := getConfig_eq hcfg
  subst hprefix
  refine ⟨fun subaddress => ?_, fun paymentId => ?_⟩
  · have h := getAccountAddressFromStr_address cnFastHash checkKey info hcfg subaddress adr hkeys
    cases subaddress <;> simpa [getAccountAddressAsStr, hcfg, mainnetConfig] using h
  · have h := getAccountAddressFromStr_integrated cnFastHash checkKey info hcfg adr paymentId hkeys
    simpa [getAccountIntegratedAddressAsStr, hcfg, mainnetConfig] using h

/-- The round trip on the main network for the all-zero keys, under a key check that accepts
them and a constant hash. -/
theorem address_string_roundtrip_zero_keys :
    NetworkType.mainnet ≠ .undefined ∧
      (getAccountAddressAsStr (fun _ => Blob.zero 32) .mainnet true
          ⟨Blob.zero 32, Blob.zero 32⟩).bind
        (getAccountAddressFromStr (fun _ => Blob.zero 32) (fun _ => true)
          ⟨⟨Blob.zero 32, Blob.zero 32⟩, false, false, Blob.zero 8⟩ .mainnet) =
      some ⟨⟨Blob.zero 32, Blob.zero 32⟩, true, false, Blob.zero 8⟩ :=
  ⟨by decide, (address_string_roundtrip (fun _ => Blob.zero 32) (fun _ => true) .mainnet
    (by decide) ⟨Blob.zero 32, Blob.zero 32⟩ ⟨rfl, rfl⟩
    ⟨⟨Blob.zero 32, Blob.zero 32⟩, false, false, Blob.zero 8⟩).1 true⟩

/-- For `UNDEFINED`, `get_config` throws: no address string is made, so none parses back. -/
theorem address_string_roundtrip_undefined :
    (getAccountAddressAsStr (fun _ => Blob.zero 32) .undefined false
        ⟨Blob.zero 32, Blob.zero 32⟩).bind
      (getAccountAddressFromStr (fun _ => Blob.zero 32) (fun _ => true)
        ⟨⟨Blob.zero 32, Blob.zero 32⟩, false, false, Blob.zero 8⟩ .undefined) = none :=
  rfl

end Bittube.CryptonoteBasic
