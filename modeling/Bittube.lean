import Bittube.Lib.FixedRadix
import Bittube.Lib.IStream
import Bittube.Lib.CountedWindow
import Bittube.Lib.ListLex
import Bittube.Lib.KeyGroups
import Bittube.Lib.BinaryHeap
import Bittube.Lib.KeyedSet
import Bittube.Lib.OrderedIndex
import Bittube.Lib.AsciiDecimal
import Bittube.Lib.ChainedDigits
import Bittube.Lib.IndexMap
import Bittube.Lib.ByteReader
import Bittube.Crypto.Types
import Bittube.Epee.IntUtil
import Bittube.Epee.MiscLanguage
import Bittube.Common.Varint
import Bittube.Common.Base58
import Bittube.Common.Pruning
import Bittube.Serialization.BinaryArchive
import Bittube.CryptonoteConfig
import Bittube.CryptonoteBasic.Address
import Bittube.CryptonoteBasic.TxExtra
import Bittube.CryptonoteBasic.Transaction
import Bittube.Ringct.RctTypes
import Bittube.CryptonoteBasic.TxSerialization
import Bittube.CryptonoteBasic.BlockSerialization
import Bittube.CryptonoteBasic.TxWeight
import Bittube.CryptonoteBasic.Difficulty
import Bittube.CryptonoteBasic.BasicImpl
import Bittube.CryptonoteBasic.FormatUtils
import Bittube.CryptonoteBasic.Money
import Bittube.CryptonoteBasic.HardFork
import Bittube.CryptonoteBasic.HardForkSync
import Bittube.CryptonoteCore.TxUtils
import Bittube.CryptonoteCore.MinerTx
import Bittube.CryptonoteCore.Difficulty
import Bittube.CryptonoteCore.BlockTimestamp
import Bittube.CryptonoteCore.TxPool
import Bittube.CryptonoteCore.BlockTemplate
import Bittube.Net.NetworkAddress
import Bittube.Epee.RollingMedian
import Bittube.Epee.RollingMedianCorrect
import Bittube.CryptonoteProtocol.BlockQueue
import Bittube.CryptonoteCore.LongTermWeight
import Bittube.P2p.NetPeerlist
import Bittube.Mnemonics.LanguageBase
import Bittube.Mnemonics.WordLists
import Bittube.Mnemonics.ElectrumWords
import Bittube.Wallet.Wallet2
import Bittube.Wallet.Reorg
import Bittube.Epee.PortableStorageBase
import Bittube.Epee.PortableStorageToBin
import Bittube.Epee.PortableStorageFromBin
import Bittube.Epee.PortableStorageRoundTrip
import Bittube.Epee.PortableStorage
import Bittube.Epee.PortableStorageReload
