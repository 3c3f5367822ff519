import Mathlib.Data.Nat.Basic

/-!
# Network configuration (`cryptonote_config.h`)

The network types and the part of `config_t` that the modelled functions read: the three
base58 address prefixes; the block version and hard-fork constants that voting and the block
reward read; the emission constants; and the share wallets of each network. This fork gives all
three networks the same prefixes, so an address string does not say which
network it belongs to.

`get_config` throws for a network type outside the four it knows (`UNDEFINED`); that is `none`
here.
-/

namespace Bittube

/-- `network_type`. -/
inductive NetworkType
  | mainnet
  | testnet
  | stagenet
  | fakechain
  | undefined
  deriving DecidableEq, Repr

/-- The address prefixes of `config_t`. -/
structure ConfigT where
  cryptonotePublicAddressBase58Prefix : UInt64
  cryptonotePublicIntegratedAddressBase58Prefix : UInt64
  cryptonotePublicSubaddressBase58Prefix : UInt64
  deriving DecidableEq, Repr

/-- `config::CRYPTONOTE_PUBLIC_ADDRESS_BASE58_PREFIX` and its two companions, which
`config::testnet` and `config::stagenet` repeat. -/
def mainnetConfig : ConfigT := ⟨0xd1, 0x404f, 0x3750⟩

/-- The `testnet` block of `cryptonote_config.h`. -/
def testnetConfig : ConfigT := ⟨0xd1, 0x404f, 0x3750⟩

/-- The `stagenet` block of `cryptonote_config.h`. -/
def stagenetConfig : ConfigT := ⟨0xd1, 0x404f, 0x3750⟩

/-- `get_config(nettype)`: `none` where the source throws `Invalid network type`. -/
def getConfig : NetworkType → Option ConfigT
  | .mainnet => some mainnetConfig
  | .testnet => some testnetConfig
  | .stagenet => some stagenetConfig
  | .fakechain => some mainnetConfig
  | .undefined => none

/-- `CURRENT_TRANSACTION_VERSION`. -/
def currentTransactionVersion : ℕ := 2

/-- `CRYPTONOTE_MAX_BLOCK_NUMBER`. -/
def cryptonoteMaxBlockNumber : ℕ := 500000000

/-- `CRYPTONOTE_MAX_TX_PER_BLOCK`. -/
def cryptonoteMaxTxPerBlock : ℕ := 0x10000000

/-- `BULLETPROOF_MAX_OUTPUTS`. -/
def bulletproofMaxOutputs : ℕ := 16

/-- `BLOCK_MAJOR_VERSION_1`. -/
def blockMajorVersion1 : UInt8 := 1

/-- `BLOCK_MAJOR_VERSION_2`. -/
def blockMajorVersion2 : UInt8 := 2

/-- `BLOCK_MAJOR_VERSION_3`. -/
def blockMajorVersion3 : UInt8 := 3

/-- `BLOCK_MAJOR_VERSION_4`. -/
def blockMajorVersion4 : UInt8 := 4

/-- `BLOCK_MAJOR_VERSION_5`. -/
def blockMajorVersion5 : UInt8 := 5

/-- `BLOCK_MAJOR_VERSION_FUTURE`, `(uint8_t)(-1)`. -/
def blockMajorVersionFuture : UInt8 := 255

/-- `HF_VERSION_DEV_REWARD`. -/
def hfVersionDevReward : UInt8 := 4

/-- `HF_VERSION_AIRTIME_REWARD`. -/
def hfVersionAirtimeReward : UInt8 := 5

/-- `HF_VERSION_COMMUNITY_DEVS`. -/
def hfVersionCommunityDevs : UInt8 := 6

/-- `HF_VERSION_COMMUNITY_MODS`. -/
def hfVersionCommunityMods : UInt8 := 6

/-- `HF_VERSION_COMMUNITY_REF`. -/
def hfVersionCommunityRef : UInt8 := 6

/-- `HF_VERSION_PER_BYTE_FEE`. -/
def hfVersionPerByteFee : UInt8 := 6

/-- `HF_VERSION_EFFECTIVE_SHORT_TERM_MEDIAN_IN_PENALTY`. -/
def hfVersionEffectiveShortTermMedianInPenalty : UInt8 := 8

/-- `HF_VERSION_LONG_TERM_BLOCK_WEIGHT`. -/
def hfVersionLongTermBlockWeight : UInt8 := 8

/-- `HF_VERSION_AIRTIME2`. -/
def hfVersionAirtime2 : UInt8 := 9

/-- `HF_VERSION_EOL`. -/
def hfVersionEol : UInt8 := 10

/-- `MONEY_SUPPLY`. -/
def moneySupply : ℕ := 100000000000000000

/-- `EMISSION_SPEED_FACTOR_PER_MINUTE`. -/
def emissionSpeedFactorPerMinute : ℕ := 22

/-- `FINAL_SUBSIDY_PER_MINUTE`. -/
def finalSubsidyPerMinute : ℕ := 30000000

/-- `CRYPTONOTE_REWARD_BLOCKS_WINDOW`. -/
def cryptonoteRewardBlocksWindow : ℕ := 100

/-- `CRYPTONOTE_BLOCK_GRANTED_FULL_REWARD_ZONE_V1`. -/
def cryptonoteBlockGrantedFullRewardZoneV1 : ℕ := 100000

/-- `CRYPTONOTE_BLOCK_GRANTED_FULL_REWARD_ZONE_V2`. -/
def cryptonoteBlockGrantedFullRewardZoneV2 : ℕ := 1000000

/-- `CRYPTONOTE_BLOCK_GRANTED_FULL_REWARD_ZONE_V5`. -/
def cryptonoteBlockGrantedFullRewardZoneV5 : ℕ := 1000000

/-- `CRYPTONOTE_LONG_TERM_BLOCK_WEIGHT_WINDOW_SIZE`, in blocks. -/
def cryptonoteLongTermBlockWeightWindowSize : ℕ := 100000

/-- `CRYPTONOTE_SHORT_TERM_BLOCK_WEIGHT_SURGE_FACTOR`. -/
def cryptonoteShortTermBlockWeightSurgeFactor : ℕ := 50

/-- `CRYPTONOTE_COINBASE_BLOB_RESERVED_SIZE`. -/
def cryptonoteCoinbaseBlobReservedSize : ℕ := 600

/-- `P2P_LOCAL_WHITE_PEERLIST_LIMIT`. -/
def p2pLocalWhitePeerlistLimit : ℕ := 1000

/-- `P2P_LOCAL_GRAY_PEERLIST_LIMIT`. -/
def p2pLocalGrayPeerlistLimit : ℕ := 5000

/-- `DIFFICULTY_TARGET_V1`, in seconds. -/
def difficultyTargetV1 : ℕ := 120

/-- `DIFFICULTY_TARGET_V2`, in seconds. -/
def difficultyTargetV2 : ℕ := 120

/-- `DIFFICULTY_WINDOW`, in blocks. -/
def difficultyWindow : ℕ := 720

/-- `DIFFICULTY_WINDOW_V2`, in blocks. -/
def difficultyWindowV2 : ℕ := 70

/-- `DIFFICULTY_LAG`. -/
def difficultyLag : ℕ := 15

/-- `DIFFICULTY_BLOCKS_COUNT`: `DIFFICULTY_WINDOW + DIFFICULTY_LAG`. -/
def difficultyBlocksCount : ℕ := difficultyWindow + difficultyLag

/-- `DIFFICULTY_BLOCKS_COUNT_V2`: `DIFFICULTY_WINDOW_V2 + 1`. -/
def difficultyBlocksCountV2 : ℕ := difficultyWindowV2 + 1

/-- `BLOCKCHAIN_TIMESTAMP_CHECK_WINDOW`, in blocks. -/
def blockchainTimestampCheckWindow : ℕ := 60

/-- `BLOCKCHAIN_TIMESTAMP_CHECK_WINDOW_V2`, in blocks. -/
def blockchainTimestampCheckWindowV2 : ℕ := 11

/-- `CRYPTONOTE_BLOCK_FUTURE_TIME_LIMIT`, in seconds. -/
def cryptonoteBlockFutureTimeLimit : ℕ := 500

/-- `CRYPTONOTE_BLOCK_FUTURE_TIME_LIMIT_V2`, in seconds. -/
def cryptonoteBlockFutureTimeLimitV2 : ℕ := 60 * 10

/-- `CRYPTONOTE_PRUNING_STRIPE_SIZE`. -/
def cryptonotePruningStripeSize : ℕ := 4096

/-- `CRYPTONOTE_PRUNING_LOG_STRIPES`. -/
def cryptonotePruningLogStripes : ℕ := 3

/-- `CRYPTONOTE_PRUNING_TIP_BLOCKS`. -/
def cryptonotePruningTipBlocks : ℕ := 5500

/-- `config::DEFAULT_DUST_THRESHOLD`. -/
def defaultDustThreshold : ℕ := 10000

/-- The wallets that receive a share of each block reward, one address string per share. -/
structure ShareWalletAddresses where
  developmentWalletAddress : String
  marketingWalletAddress : String
  airtimeWalletAddress : String
  airtimeWalletAddress2 : String
  communityDevsWalletAddress : String
  communityModsWalletAddress : String
  communityRefWalletAddress : String

/-- The share wallets of `namespace config`. -/
def mainnetShareWallets : ShareWalletAddresses where
  developmentWalletAddress :=
    "bxdaNPkW77u6KYJuYNDSJpfocTXjVpZ7mMAsoNELySdnbAr8U6aMvnULosC456Kk7NRCAS2Xe7o14NF7bbPKyVta39KPYFia3"
  marketingWalletAddress :=
    "bxdEc4zm1g2ZQZkSwjYThuMJouTSfzL2xJXTC2o4q7Dq17sEcsMdwgRfNuBgg59TPCLJwCj4jJH7rT8bdKjx5p6Z35LJDknWU"
  airtimeWalletAddress :=
    "bxcfouydX4Q2jxw2Thx49bM7tmBiEhP7c8rUoXSVmYxxDpEqqSpBzdRe9WQDkg5LekBtX9W9XinTuG6ttKBtBnpT14KNegFD1"
  airtimeWalletAddress2 :=
    "bxdbjgfG5QhZHiK69WieSt4RYW8WeQYQT9PVoW6oCpSuPwMT4QY5jgsJ4azngCoSo7Ky3iRw61bBeTHFdKNAywTP2kjGRHmJb"
  communityDevsWalletAddress :=
    "bxdpg2rivP4g1PzBsm9nq3YXU2V3kDcmogGPxeGvdsup4DBLzdHqW3bEmepzhzS6RPgye1MbiGVbq95UbZxPN19531E9YPMta"
  communityModsWalletAddress :=
    "bxdKezUkPt4aci2PqZrEp7gqzkG3e7UC2R7zLn3Bd6dh1NhwRHPuXiB17uejH22dLh2qxj6mVVVZjTvGkbSSthbo2PeM429FW"
  communityRefWalletAddress :=
    "bxbuTE8eqwtXvQJEoNiDDPXoTExxuLu6igJsEbFuMQ4nBJgSYXHUR9u3PG26UrFZeYJ9d2uyPp28DgUm7SaXwA9u2uirzK4Ef"

/-- The share wallets of `namespace config::testnet`, the same as the main network's. -/
def testnetShareWallets : ShareWalletAddresses := mainnetShareWallets

/-- The share wallets of `namespace config::stagenet`. -/
def stagenetShareWallets : ShareWalletAddresses where
  developmentWalletAddress :=
    "bxcGifhyYCZH9SyAkEizkmUTRD6zjAJsWiua5zsXeyGyB1i2dyzGu4hZhUixhetA8jXzqSffetDEBahXX98jB2jb2DvBvPfDS"
  marketingWalletAddress :=
    "bxd76ATsNNy6Jt2dQ9kaz14P7wrjFL5h54HGzEY55VvHLoA5Qpuw23S2TY3gkw4atqbHjUJd7r95cHUWchiBqHGG2DQsuAHbJ"
  airtimeWalletAddress :=
    "bxdEqBAAgJcSBj7fSRvsEQUsVgC2eBz87FyFDxDrBSPxY7UQYdfgvQJ72hwC56k6p76chVZuoEQ2RXN85wpjTbJE2gffyT3wz"
  airtimeWalletAddress2 :=
    "bxdEqBAAgJcSBj7fSRvsEQUsVgC2eBz87FyFDxDrBSPxY7UQYdfgvQJ72hwC56k6p76chVZuoEQ2RXN85wpjTbJE2gffyT3wz"
  communityDevsWalletAddress :=
    "bxcmCVeX65oe6hV4UHPYuBWo7fTC6jMUkJpLUrakrSavNgZLfgUMEKpgksTkShgQcY1wRzfGYV5MsRPQbSeFRUYU2Vj2Bt1BJ"
  communityModsWalletAddress :=
    "bxcmCVeX65oe6hV4UHPYuBWo7fTC6jMUkJpLUrakrSavNgZLfgUMEKpgksTkShgQcY1wRzfGYV5MsRPQbSeFRUYU2Vj2Bt1BJ"
  communityRefWalletAddress :=
    "bxcmCVeX65oe6hV4UHPYuBWo7fTC6jMUkJpLUrakrSavNgZLfgUMEKpgksTkShgQcY1wRzfGYV5MsRPQbSeFRUYU2Vj2Bt1BJ"

/-- `CRYPTONOTE_PUBLIC_ADDRESS_TEXTBLOB_VER`. -/
def cryptonotePublicAddressTextblobVer : ℕ := 0

theorem getConfig_isSome {nettype : NetworkType} (h : nettype ≠ .undefined) :
    ∃ cfg, getConfig nettype = some cfg := by
  cases nettype <;> simp_all [getConfig]

/-- Every configuration has this fork's prefixes. -/
theorem getConfig_eq {nettype : NetworkType} {cfg : ConfigT} (h : getConfig nettype = some cfg) :
    cfg = mainnetConfig := by
  cases nettype <;> simp only [getConfig, Option.some.injEq, reduceCtorEq] at h <;> subst h <;> rfl

end Bittube
