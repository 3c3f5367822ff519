import Bittube.Lib.ListLex

/-!
# Ordering network addresses (`epee::net_utils::network_address`, `net::tor_address`,
`net::i2p_address`)

The peer lists keep their peers in a `boost::multi_index` container whose `ordered_unique`
index `by_addr` orders them by `network_address::less` (through `operator<`); an ordered index
needs a strict weak order, and finds an element by the incomparability it induces.

A `network_address` points to an address of one kind, or to nothing. `less` puts the null
address first, orders addresses of different kinds by their type id and leaves addresses of one
kind to that kind's `less`. IPv4 addresses, IPv4 subnets and IPv6 addresses compare host first,
then port (or mask); Tor and I2P addresses compare as `strcmp(host) < 0 || port < rhs.port`,
which holds both ways round when the host order and the port order disagree.

Away from Tor and I2P, `less` is the lexicographic order of a key and `equal` is equality of
keys, so there `less` is a strict weak order whose incomparability is `equal`. Two Tor or two
I2P addresses whose hosts and ports are ordered the opposite ways are each less than the other.
-/

namespace Bittube.Net

/-- `epee::net_utils::address_type`, with its fixed values. -/
inductive AddressType where
  | invalid
  | ipv4
  | ipv6
  | i2p
  | tor
  deriving DecidableEq, Repr

/-- The value of an `address_type`. -/
def AddressType.toNat : AddressType → ℕ
  | .invalid => 0
  | .ipv4 => 1
  | .ipv6 => 2
  | .i2p => 3
  | .tor => 4

/-! ## The address kinds -/

/-- `ipv4_network_address`: `m_ip` and `m_port`. -/
structure Ipv4NetworkAddress where
  ip : UInt32
  port : UInt16
  deriving DecidableEq, Repr

namespace Ipv4NetworkAddress

/-- `is_same_host(other)`. -/
def isSameHost (a other : Ipv4NetworkAddress) : Bool := a.ip == other.ip

/-- `equal(other)`. -/
def equal (a other : Ipv4NetworkAddress) : Bool := a.isSameHost other && a.port == other.port

/-- `less(other)`. -/
def less (a other : Ipv4NetworkAddress) : Bool :=
  if a.isSameHost other then decide (a.port < other.port) else decide (a.ip < other.ip)

/-- `less` orders by host, then port. -/
theorem less_eq_true_iff (a b : Ipv4NetworkAddress) :
    a.less b = true ↔
      a.ip.toNat < b.ip.toNat ∨ a.ip.toNat = b.ip.toNat ∧ a.port.toNat < b.port.toNat := by
  unfold less isSameHost
  by_cases h : a.ip = b.ip
  · simp [h, UInt16.lt_iff_toNat_lt]
  · have hne : a.ip.toNat ≠ b.ip.toNat := fun e => h (UInt32.toNat_inj.1 e)
    simp [h, hne, UInt32.lt_iff_toNat_lt]

theorem equal_eq_true_iff (a b : Ipv4NetworkAddress) :
    a.equal b = true ↔ a.ip.toNat = b.ip.toNat ∧ a.port.toNat = b.port.toNat := by
  simp [equal, isSameHost, UInt32.toNat_inj, UInt16.toNat_inj]

end Ipv4NetworkAddress

/-- `ipv4_network_subnet`: `m_ip` and `m_mask`. -/
structure Ipv4NetworkSubnet where
  ip : UInt32
  mask : UInt8
  deriving DecidableEq, Repr

namespace Ipv4NetworkSubnet

/-- `subnet()`: `m_ip & ~(0xffffffffull << m_mask)` in 64 bits, returned as `uint32_t` (the
shift is undefined from a mask of 64, where it is taken as zero here). -/
def subnet (s : Ipv4NetworkSubnet) : ℕ :=
  (s.ip.toNat &&& (2 ^ 64 - 1 - (0xffffffff <<< s.mask.toNat) % 2 ^ 64)) % 2 ^ 32

/-- `is_same_host(other)`. -/
def isSameHost (s other : Ipv4NetworkSubnet) : Bool := s.subnet == other.subnet

/-- `equal(other)`. -/
def equal (s other : Ipv4NetworkSubnet) : Bool := s.isSameHost other && s.mask == other.mask

/-- `less(other)`. -/
def less (s other : Ipv4NetworkSubnet) : Bool :=
  if s.subnet < other.subnet then true
  else if other.subnet < s.subnet then false
  else decide (s.mask < other.mask)

/-- `less` orders by subnet, then mask. -/
theorem less_eq_true_iff (s t : Ipv4NetworkSubnet) :
    s.less t = true ↔
      s.subnet < t.subnet ∨ s.subnet = t.subnet ∧ s.mask.toNat < t.mask.toNat := by
  unfold less
  by_cases hlt : s.subnet < t.subnet
  · simp [hlt]
  by_cases hgt : t.subnet < s.subnet
  · simp [hlt, hgt]
    omega
  · have heq : s.subnet = t.subnet := by omega
    simp [heq, UInt8.lt_iff_toNat_lt]

theorem equal_eq_true_iff (s t : Ipv4NetworkSubnet) :
    s.equal t = true ↔ s.subnet = t.subnet ∧ s.mask.toNat = t.mask.toNat := by
  simp [equal, isSameHost, UInt8.toNat_inj]

end Ipv4NetworkSubnet

/-- `boost::asio::ip::address_v6`: sixteen bytes and a scope id. Its `<` and `==` compare the
bytes with `memcmp`, then the scope id. -/
structure AddressV6 where
  bytes : List UInt8
  scopeId : UInt32
  length_bytes : bytes.length = 16
  deriving DecidableEq

namespace AddressV6

/-- `address_v6::operator<`. -/
def lt (a b : AddressV6) : Bool :=
  decide (a.bytes < b.bytes) || (a.bytes == b.bytes && decide (a.scopeId < b.scopeId))

/-- `address_v6::operator==`. -/
def eq (a b : AddressV6) : Bool := a.bytes == b.bytes && a.scopeId == b.scopeId

end AddressV6

/-- `ipv6_network_address`: `m_address` and `m_port`. -/
structure Ipv6NetworkAddress where
  address : AddressV6
  port : UInt16
  deriving DecidableEq

namespace Ipv6NetworkAddress

/-- `is_same_host(other)`. -/
def isSameHost (a other : Ipv6NetworkAddress) : Bool := a.address.eq other.address

/-- `equal(other)`. -/
def equal (a other : Ipv6NetworkAddress) : Bool := a.isSameHost other && a.port == other.port

/-- `less(other)`. -/
def less (a other : Ipv6NetworkAddress) : Bool :=
  if a.isSameHost other then decide (a.port < other.port) else a.address.lt other.address

/-- The bytes, scope id and port of an address, whose lexicographic order `less` is. -/
def key (a : Ipv6NetworkAddress) : List ℕ :=
  a.address.bytes.map UInt8.toNat ++ [a.address.scopeId.toNat, a.port.toNat]

theorem length_map_bytes (a : Ipv6NetworkAddress) :
    (a.address.bytes.map UInt8.toNat).length = 16 := by
  simp [a.address.length_bytes]

/-- Comparing the keys compares the bytes first: they have the same length. -/
theorem key_lt_key_iff (a b : Ipv6NetworkAddress) :
    a.key < b.key ↔ a.address.bytes < b.address.bytes ∨ a.address.bytes = b.address.bytes ∧
      (a.address.scopeId.toNat < b.address.scopeId.toNat ∨
        a.address.scopeId.toNat = b.address.scopeId.toNat ∧ a.port.toNat < b.port.toNat) := by
  have hlen := (length_map_bytes a).trans (length_map_bytes b).symm
  have hbytes := @ListLex.map_lt_map_iff UInt8 ℕ _ _ UInt8.toNat
    (fun _ _ => UInt8.lt_iff_toNat_lt.symm) (fun _ _ => UInt8.toNat_inj.1)
    a.address.bytes b.address.bytes
  rw [key, key, ListLex.append_lt_append_iff _ _ hlen, hbytes,
    List.map_inj_right (fun _ _ => UInt8.toNat_inj.1)]
  simp [List.cons_lt_cons_iff]

/-- `less` is the lexicographic order of the keys. -/
theorem less_eq_true_iff (a b : Ipv6NetworkAddress) : a.less b = true ↔ a.key < b.key := by
  rw [key_lt_key_iff]
  unfold less isSameHost AddressV6.eq AddressV6.lt
  by_cases hb : a.address.bytes = b.address.bytes
  · by_cases hs : a.address.scopeId = b.address.scopeId
    · simp [hb, hs, UInt16.lt_iff_toNat_lt]
    · have hne : a.address.scopeId.toNat ≠ b.address.scopeId.toNat :=
        fun e => hs (UInt32.toNat_inj.1 e)
      simp [hb, hs, hne, UInt32.lt_iff_toNat_lt]
  · simp [hb]

/-- `equal` is equality of the keys. -/
theorem equal_eq_true_iff (a b : Ipv6NetworkAddress) : a.equal b = true ↔ a.key = b.key := by
  have hlen := (length_map_bytes a).trans (length_map_bytes b).symm
  unfold equal isSameHost AddressV6.eq key
  constructor
  · intro h
    simp only [Bool.and_eq_true, beq_iff_eq] at h
    rw [h.1.1, h.1.2, h.2]
  · intro h
    obtain ⟨hbytes, hrest⟩ := List.append_inj h hlen
    simp only [List.cons.injEq, and_true] at hrest
    simp [List.map_inj_right (fun _ _ => UInt8.toNat_inj.1) |>.1 hbytes,
      UInt32.toNat_inj.1 hrest.1, UInt16.toNat_inj.1 hrest.2]

end Ipv6NetworkAddress

/-- `equal` of `tor_address` and `i2p_address`, which share their code: the ports agree and
`strcmp` finds the null-terminated hosts the same. -/
def hostPortEqual (host : List UInt8) (port : UInt16) (host' : List UInt8) (port' : UInt16) :
    Bool :=
  port == port' && host == host'

/-- `less` of `tor_address` and `i2p_address`:
`std::strcmp(host_str(), rhs.host_str()) < 0 || port() < rhs.port()`, with `strcmp` the
bytewise lexicographic order of the hosts. -/
def hostPortLess (host : List UInt8) (port : UInt16) (host' : List UInt8) (port' : UInt16) :
    Bool :=
  decide (host < host') || decide (port < port')

/-- `net::tor_address`: the bytes of `host_` before its terminating null, and `port_`. -/
structure TorAddress where
  host : List UInt8
  port : UInt16
  deriving DecidableEq, Repr

/-- `tor_address::equal(rhs)`. -/
def TorAddress.equal (a rhs : TorAddress) : Bool := hostPortEqual a.host a.port rhs.host rhs.port

/-- `tor_address::less(rhs)`. -/
def TorAddress.less (a rhs : TorAddress) : Bool := hostPortLess a.host a.port rhs.host rhs.port

/-- `net::i2p_address`: the bytes of `host_` before its terminating null, and `port_`. -/
structure I2pAddress where
  host : List UInt8
  port : UInt16
  deriving DecidableEq, Repr

/-- `i2p_address::equal(rhs)`. -/
def I2pAddress.equal (a rhs : I2pAddress) : Bool := hostPortEqual a.host a.port rhs.host rhs.port

/-- `i2p_address::less(rhs)`. -/
def I2pAddress.less (a rhs : I2pAddress) : Bool := hostPortLess a.host a.port rhs.host rhs.port

/-! ## Loopback and local hosts -/

/-- `is_ip_loopback(ip)` on a little-endian host, where `SWAP32LE` leaves the address as it is
and its first octet is the low byte: `127.0.0.0/8`. -/
def isIpLoopback (ip : UInt32) : Bool := (ip ||| 0xffffff00) == 0xffffff7f

/-- `is_ip_local(ip)` on a little-endian host: `10.0.0.0/8`, `192.168.0.0/16` and
`172.16.0.0/12`. -/
def isIpLocal (ip : UInt32) : Bool :=
  if (ip ||| 0xffffff00) == 0xffffff0a then true
  else if (ip ||| 0xffff0000) == 0xffffa8c0 then true
  else if (ip ||| 0xffffff00) == 0xffffffac then
    let secondNum := (ip >>> 8) &&& 0xff
    decide (16 ≤ secondNum ∧ secondNum ≤ 31)
  else false

/-- `address_v6::is_loopback()`: `::1`. -/
def AddressV6.isLoopback (a : AddressV6) : Bool := a.bytes == List.replicate 15 0 ++ [1]

/-- `address_v6::is_link_local()`: `fe80::/10`. -/
def AddressV6.isLinkLocal (a : AddressV6) : Bool :=
  a.bytes.head? == some 0xfe && (a.bytes[1]?.map (· &&& 0xc0)) == some 0x80

/-! ## `network_address` -/

/-- `network_address`: what its shared pointer points to, by dynamic type, or null. Two
addresses sharing one pointee are equal and neither is less: that is what the comparisons of
the pointee with itself give, so the model keeps values, not pointers. -/
inductive NetworkAddress where
  | null
  | ipv4 (a : Ipv4NetworkAddress)
  | ipv4Subnet (s : Ipv4NetworkSubnet)
  | ipv6 (a : Ipv6NetworkAddress)
  | tor (a : TorAddress)
  | i2p (a : I2pAddress)

namespace NetworkAddress

/-- The pointee's `get_type_id()`: an IPv4 subnet reports `invalid`, like the null address. -/
def getTypeId : NetworkAddress → AddressType
  | null => .invalid
  | ipv4 _ => .ipv4
  | ipv4Subnet _ => .invalid
  | ipv6 _ => .ipv6
  | tor _ => .tor
  | i2p _ => .i2p

/-- `network_address::equal(other)`: a null address equals only a null one, pointees of
different dynamic types are never equal, and those of one type compare with the type's
`equal`. -/
def equal : NetworkAddress → NetworkAddress → Bool
  | null, null => true
  | ipv4 a, ipv4 b => a.equal b
  | ipv4Subnet a, ipv4Subnet b => a.equal b
  | ipv6 a, ipv6 b => a.equal b
  | tor a, tor b => a.equal b
  | i2p a, i2p b => a.equal b
  | _, _ => false

/-- `network_address::less(other)`: a null address is less than any other, pointees of
different dynamic types compare by `get_type_id()`, and those of one type with the type's
`less`. -/
def less : NetworkAddress → NetworkAddress → Bool
  | null, null => false
  | null, _ => true
  | _, null => false
  | ipv4 a, ipv4 b => a.less b
  | ipv4Subnet a, ipv4Subnet b => a.less b
  | ipv6 a, ipv6 b => a.less b
  | tor a, tor b => a.less b
  | i2p a, i2p b => a.less b
  | a, b => decide (a.getTypeId.toNat < b.getTypeId.toNat)

/-- `network_address::is_loopback()`: the pointee's, and `false` for the null address. A subnet
asks about `subnet()`; Tor and I2P addresses are never loopback. -/
def isLoopback : NetworkAddress → Bool
  | null => false
  | ipv4 a => isIpLoopback a.ip
  | ipv4Subnet s => isIpLoopback (UInt32.ofNat s.subnet)
  | ipv6 a => a.address.isLoopback
  | tor _ | i2p _ => false

/-- `network_address::is_local()`: the pointee's, and `false` for the null address; for an IPv6
address it is `is_link_local()`, and Tor and I2P addresses are never local. -/
def isLocal : NetworkAddress → Bool
  | null => false
  | ipv4 a => isIpLocal a.ip
  | ipv4Subnet s => isIpLocal (UInt32.ofNat s.subnet)
  | ipv6 a => a.address.isLinkLocal
  | tor _ | i2p _ => false

/-- Tor and I2P addresses, whose `less` combines host and port with `||`. -/
def isOverlay : NetworkAddress → Bool
  | tor _ | i2p _ => true
  | _ => false

/-- The key whose lexicographic order `less` is, away from Tor and I2P: the null address, then
the kinds in the order of their type ids, then the host and the port (or the mask). A Tor or
I2P address gets only its kind. -/
def orderKey : NetworkAddress → List ℕ
  | null => [0]
  | ipv4Subnet s => [1, s.subnet, s.mask.toNat]
  | ipv4 a => [2, a.ip.toNat, a.port.toNat]
  | ipv6 a => 3 :: (a.address.bytes.map UInt8.toNat ++ [a.address.scopeId.toNat, a.port.toNat])
  | i2p _ => [4]
  | tor _ => [5]

/-! ### Away from Tor and I2P: the order of a key -/

/-- `less` is the lexicographic order of `orderKey` on addresses that are not Tor or I2P. -/
theorem less_iff_orderKey_lt {a b : NetworkAddress} (ha : a.isOverlay = false)
    (hb : b.isOverlay = false) : a.less b = true ↔ a.orderKey < b.orderKey := by
  -- addresses of different kinds compare on the head of the key, as on their type ids
  cases a <;> cases b <;>
    simp_all [isOverlay, less, orderKey, getTypeId, AddressType.toNat, List.cons_lt_cons_iff,
      List.nil_lt_cons, List.not_lt_nil, Ipv4NetworkAddress.less_eq_true_iff,
      Ipv4NetworkSubnet.less_eq_true_iff, Ipv6NetworkAddress.less_eq_true_iff,
      Ipv6NetworkAddress.key]

/-- `equal` is equality of `orderKey` on addresses that are not Tor or I2P. -/
theorem equal_iff_orderKey_eq {a b : NetworkAddress} (ha : a.isOverlay = false)
    (hb : b.isOverlay = false) : a.equal b = true ↔ a.orderKey = b.orderKey := by
  cases a <;> cases b <;>
    simp_all [isOverlay, equal, orderKey, Ipv4NetworkAddress.equal_eq_true_iff,
      Ipv4NetworkSubnet.equal_eq_true_iff, Ipv6NetworkAddress.equal_eq_true_iff,
      Ipv6NetworkAddress.key]

/-- **Away from Tor and I2P, `less` is a strict weak order consistent with `equal`.** On null,
IPv4, IPv4 subnet and IPv6 addresses in any mix, `less` is irreflexive, asymmetric and
transitive, and two addresses are incomparable exactly when `equal` holds. -/
theorem network_address_less_strict_weak_order (a b c : NetworkAddress)
    (ha : a.isOverlay = false) (hb : b.isOverlay = false) (hc : c.isOverlay = false) :
    a.less a = false ∧ (a.less b = true → b.less a = false) ∧
      (a.less b = true → b.less c = true → a.less c = true) ∧
      (a.less b = false ∧ b.less a = false ↔ a.equal b = true) := by
  have hab := less_iff_orderKey_lt ha hb
  have hba := less_iff_orderKey_lt hb ha
  refine ⟨?_, fun h => ?_, fun h h' => ?_, ?_⟩
  · rw [← Bool.not_eq_true, less_iff_orderKey_lt ha ha]
    exact lt_irrefl _
  · rw [← Bool.not_eq_true, hba]
    exact lt_asymm (hab.1 h)
  · exact (less_iff_orderKey_lt ha hc).2 (lt_trans (hab.1 h) ((less_iff_orderKey_lt hb hc).1 h'))
  · -- incomparable keys of a linear order are equal
    rw [← Bool.not_eq_true, ← Bool.not_eq_true, hab, hba, equal_iff_orderKey_eq ha hb, not_lt,
      not_lt]
    exact ⟨fun h => le_antisymm h.2 h.1, fun h => ⟨h ▸ le_rfl, h ▸ le_rfl⟩⟩

/-- An IPv4 address, an IPv4 subnet and an IPv6 address. -/
theorem network_address_less_strict_weak_order_mixed :
    let a := NetworkAddress.ipv4 ⟨0x0100007f, 18080⟩
    let b := NetworkAddress.ipv4Subnet ⟨0x0000000a, 8⟩
    let c := NetworkAddress.ipv6 ⟨⟨List.replicate 15 0 ++ [1], 0, by simp⟩, 18080⟩
    a.isOverlay = false ∧ b.isOverlay = false ∧ c.isOverlay = false ∧
      a.less a = false ∧ (a.less b = true → b.less a = false) ∧
      (a.less b = true → b.less c = true → a.less c = true) ∧
      (a.less b = false ∧ b.less a = false ↔ a.equal b = true) :=
  ⟨rfl, rfl, rfl, network_address_less_strict_weak_order _ _ _ rfl rfl rfl⟩

/-! ### Tor and I2P -/

/-- **Tor and I2P addresses are not ordered asymmetrically.** When one host is before the
other but its port is after, each address is less than the other, for Tor and for I2P: the
`ordered_unique` index of the peer lists is then given no strict weak order. -/
theorem network_address_less_overlay_both_ways (host host' : List UInt8) (port port' : UInt16)
    (hhost : host < host') (hport : port' < port) :
    (less (tor ⟨host, port⟩) (tor ⟨host', port'⟩) = true ∧
        less (tor ⟨host', port'⟩) (tor ⟨host, port⟩) = true) ∧
      (less (i2p ⟨host, port⟩) (i2p ⟨host', port'⟩) = true ∧
        less (i2p ⟨host', port'⟩) (i2p ⟨host, port⟩) = true) := by
  simp [less, TorAddress.less, I2pAddress.less, hostPortLess, hhost, hport]

/-- The onion hosts `a` and `b` on ports 2 and 1. -/
theorem network_address_less_overlay_both_ways_ab :
    ([97] : List UInt8) < [98] ∧ (1 : UInt16) < 2 ∧
      (less (tor ⟨[97], 2⟩) (tor ⟨[98], 1⟩) = true ∧
          less (tor ⟨[98], 1⟩) (tor ⟨[97], 2⟩) = true) ∧
        (less (i2p ⟨[97], 2⟩) (i2p ⟨[98], 1⟩) = true ∧
          less (i2p ⟨[98], 1⟩) (i2p ⟨[97], 2⟩) = true) :=
  ⟨by decide, by decide, network_address_less_overlay_both_ways [97] [98] 2 1 (by decide)
    (by decide)⟩

end NetworkAddress

end Bittube.Net
