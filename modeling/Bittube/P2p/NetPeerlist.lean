import Bittube.Lib.OrderedIndex
import Bittube.Net.NetworkAddress
import Bittube.CryptonoteConfig

/-!
# The peer lists (`nodetool::peerlist_manager`)

A node keeps the peers it has talked to in a white list and the peers it has heard of in a gray
list, each a `peers_indexed` container: a `boost::multi_index_container` with an `ordered_unique`
index `by_addr` on the address and an `ordered_non_unique` index `by_time` on `last_seen`. New
white peers leave the gray list, gray peers already white are ignored, and each list is trimmed
to its limit by dropping its oldest peers.

The containers are modelled with the trees of `Bittube.Lib.OrderedIndex`, both indices over the
same nodes, so that `find` on `by_addr` descends the tree with `network_address::less` exactly as
the library does; that comparison is no strict weak order on Tor and I2P addresses, and there a
peer can end up in both lists.

Away from Tor and I2P, `less` is the order of a key, and `by_addr` stays a search tree for it
through every call: the inserts of `append_with_peer_*` link only what `find` did not find, their
updates replace a node by an entry of the same address, and trimming and removing only unlink.
So from its construction on, through `init`, `append_with_peer_white` (and
`set_peer_just_seen`), `append_with_peer_gray`, `merge_peerlist` and the two removals, each list
holds one entry per address, `find` finds each of them, and no address is in both lists. `init`
drops a stored entry whose address its list already holds, as the unique index refuses it, but
it does not compare the two lists: that no stored address is both white and gray is what it
assumes of the lists it is given.
-/

namespace Bittube.P2p

open Bittube.Net BinaryTree

/-- `peerlist_entry`. -/
structure PeerlistEntry where
  adr : NetworkAddress
  id : UInt64
  lastSeen : Int64
  pruningSeed : UInt32
  rpcPort : UInt16
  rpcCreditsPerHash : UInt32

/-- A node of a `peers_indexed` container: the entry, and the node's identity, which iterators
name. -/
structure PeerNode where
  node : ℕ
  entry : PeerlistEntry

/-- `peers_indexed`: the index `by_addr`, ordered by `network_address::less` and unique, and the
index `by_time`, ordered by `last_seen`; `nextNode` names the next node allocated. -/
structure PeersIndexed where
  byAddr : BinaryTree PeerNode
  byTime : BinaryTree PeerNode
  nextNode : ℕ

namespace PeersIndexed

/-- The key of `by_addr`. -/
def adr (n : PeerNode) : NetworkAddress := n.entry.adr

/-- The key of `by_time`. -/
def lastSeen (n : PeerNode) : Int64 := n.entry.lastSeen

/-- `std::less<int64_t>`, the comparison of `by_time`. -/
def timeLess (a b : Int64) : Bool := decide (a < b)

/-- An empty container. -/
def empty : PeersIndexed := ⟨.nil, .nil, 0⟩

/-- `size()`. -/
def size (c : PeersIndexed) : ℕ := c.byAddr.inorder.length

/-- `get<by_addr>().find(adr)`. -/
def findByAddr (c : PeersIndexed) (a : NetworkAddress) : Option PeerNode :=
  c.byAddr.find NetworkAddress.less adr a

/-- `insert(e)`: a new node, linked in `by_addr` unless an element of its address refuses it, and
then in `by_time`. -/
def insert (c : PeersIndexed) (e : PeerlistEntry) : PeersIndexed :=
  let n : PeerNode := ⟨c.nextNode, e⟩
  match c.byAddr.insertUnique NetworkAddress.less adr n with
  | .ok t => ⟨t, c.byTime.insertEqual timeLess lastSeen n, c.nextNode + 1⟩
  | .dup _ => c

/-- `erase(it)` for the node named `i`. -/
def erase (c : PeersIndexed) (i : ℕ) : PeersIndexed :=
  ⟨c.byAddr.eraseAt PeerNode.node i, c.byTime.eraseAt PeerNode.node i, c.nextNode⟩

/-- `replace(it, e)` for the node named `i`: through `by_addr`, then `by_time`; nothing changes
when `by_addr` cannot link the node again. -/
def replace (c : PeersIndexed) (i : ℕ) (e : PeerlistEntry) : PeersIndexed :=
  let n : PeerNode := ⟨i, e⟩
  match c.byAddr.replaceUnique NetworkAddress.less adr PeerNode.node i n with
  | some t => ⟨t, c.byTime.replaceEqual timeLess lastSeen PeerNode.node i n, c.nextNode⟩
  | none => c

/-- `get<by_time>().erase(get<by_time>().begin())`: the node seen longest ago. -/
def eraseOldest (c : PeersIndexed) : PeersIndexed :=
  match c.byTime.inorder.head? with
  | some n => c.erase n.node
  | none => c

/-- The loop of `trim_white_peerlist` and `trim_gray_peerlist`, with at most `fuel` rounds. -/
def trimLoop (limit : ℕ) : ℕ → PeersIndexed → PeersIndexed
  | 0, c => c
  | fuel + 1, c => if c.size > limit then trimLoop limit fuel c.eraseOldest else c

/-- `while (size() > limit) erase the oldest`, which takes at most `size()` rounds. -/
def trim (limit : ℕ) (c : PeersIndexed) : PeersIndexed := trimLoop limit c.size c

/-- `get<by_addr>().insert(first, last)`, as `add_peers` calls it: each entry with the hint at the
node after the one the previous insert linked or met, starting at the end. -/
def insertRange (c : PeersIndexed) (hint : Option ℕ) : List PeerlistEntry → PeersIndexed
  | [] => c
  | e :: es =>
    let n : PeerNode := ⟨c.nextNode, e⟩
    match c.byAddr.hintedInsertUnique NetworkAddress.less adr PeerNode.node hint n with
    | .ok t =>
      insertRange ⟨t, c.byTime.insertEqual timeLess lastSeen n, c.nextNode + 1⟩
        (t.next PeerNode.node c.nextNode) es
    | .dup w => insertRange c (c.byAddr.next PeerNode.node w.node) es

end PeersIndexed

/-- The entry an update of a known address stores: the new one, with the stored `last_seen`
(incoming peer lists are untrusted), and the stored pruning seed and RPC port where the new ones
are zero. `append_with_peer_white` and `append_with_peer_gray` share it. -/
def updatedEntry (stored ple : PeerlistEntry) : PeerlistEntry :=
  { ple with
    pruningSeed := if stored.pruningSeed ≠ 0 ∧ ple.pruningSeed = 0 then stored.pruningSeed
      else ple.pruningSeed
    rpcPort := if stored.rpcPort ≠ 0 ∧ ple.rpcPort = 0 then stored.rpcPort else ple.rpcPort
    lastSeen := stored.lastSeen }

/-- `peerlist_manager` without its anchor list. -/
structure PeerlistManager where
  allowLocalIp : Bool
  peersGray : PeersIndexed
  peersWhite : PeersIndexed

namespace PeerlistManager

open PeersIndexed

/-- A manager whose lists are empty, as constructed. -/
def empty (allowLocalIp : Bool) : PeerlistManager := ⟨allowLocalIp, .empty, .empty⟩

/-- `init(peers, allow_local_ip)`: fails unless both lists are empty, then inserts the stored white
and gray peers. -/
def init (m : PeerlistManager) (white gray : List PeerlistEntry) (allowLocalIp : Bool) :
    Option PeerlistManager :=
  if m.peersWhite.size ≠ 0 ∨ m.peersGray.size ≠ 0 then none
  else some ⟨allowLocalIp, m.peersGray.insertRange none gray, m.peersWhite.insertRange none white⟩

/-- `is_host_allowed(address)`. -/
def isHostAllowed (m : PeerlistManager) (address : NetworkAddress) : Bool :=
  if address.isLoopback then false
  else if !m.allowLocalIp && address.isLocal then false
  else true

/-- `append_with_peer_white(ple)`: a new white peer joins the list, which is trimmed to its limit,
and a known one is updated; either way the address leaves the gray list. -/
def appendWithPeerWhite (m : PeerlistManager) (ple : PeerlistEntry) : PeerlistManager :=
  if !m.isHostAllowed ple.adr then m
  else
    let white :=
      match m.peersWhite.findByAddr ple.adr with
      | none => (m.peersWhite.insert ple).trim p2pLocalWhitePeerlistLimit
      | some n => m.peersWhite.replace n.node (updatedEntry n.entry ple)
    let gray :=
      match m.peersGray.findByAddr ple.adr with
      | some n => m.peersGray.erase n.node
      | none => m.peersGray
    { m with peersWhite := white, peersGray := gray }

/-- `append_with_peer_gray(ple)`: nothing for a white peer; otherwise a new gray peer joins the
list, which is trimmed to its limit, and a known one is updated. -/
def appendWithPeerGray (m : PeerlistManager) (ple : PeerlistEntry) : PeerlistManager :=
  if !m.isHostAllowed ple.adr then m
  else if (m.peersWhite.findByAddr ple.adr).isSome then m
  else
    match m.peersGray.findByAddr ple.adr with
    | none => { m with peersGray := (m.peersGray.insert ple).trim p2pLocalGrayPeerlistLimit }
    | some n => { m with peersGray := m.peersGray.replace n.node (updatedEntry n.entry ple) }

/-- `set_peer_just_seen(peer, addr, pruning_seed, rpc_port, rpc_credits_per_hash)` at the time
`now` that `time(NULL)` returns. -/
def setPeerJustSeen (m : PeerlistManager) (peer : UInt64) (addr : NetworkAddress)
    (pruningSeed : UInt32) (rpcPort : UInt16) (rpcCreditsPerHash : UInt32) (now : Int64) :
    PeerlistManager :=
  m.appendWithPeerWhite ⟨addr, peer, now, pruningSeed, rpcPort, rpcCreditsPerHash⟩

/-- A white peer seen again keeps the `last_seen` stored for it: the update branch of
`append_with_peer_white` puts the stored time back into the entry `set_peer_just_seen` stamped. -/
theorem set_peer_just_seen_keeps_last_seen :
    let addr : NetworkAddress := .ipv4 ⟨0x08080808, 18080⟩
    let m : Option PeerlistManager :=
      (empty false).init [⟨addr, 1, 100, 0, 0, 0⟩] [] false
    (m.map fun m => m.isHostAllowed addr) = some true ∧
      (m.map fun m => (m.setPeerJustSeen 7 addr 0 0 0 200).peersWhite.byAddr.inorder.map
        fun n => (n.entry.adr.equal addr, n.entry.id, n.entry.lastSeen)) = some [(true, 7, 100)] := by
  dsimp only
  exact ⟨by decide, by decide⟩

/-- `merge_peerlist(outer_bs)`: each entry through `append_with_peer_gray`, then the gray list
trimmed. -/
def mergePeerlist (m : PeerlistManager) (outerBs : List PeerlistEntry) : PeerlistManager :=
  let m := outerBs.foldl appendWithPeerGray m
  { m with peersGray := m.peersGray.trim p2pLocalGrayPeerlistLimit }

/-- The erase by address of `remove_from_peer_white` and `remove_from_peer_gray`. -/
def removeByAddr (c : PeersIndexed) (a : NetworkAddress) : PeersIndexed :=
  match c.findByAddr a with
  | some n => c.erase n.node
  | none => c

/-- `remove_from_peer_white(pe)`. -/
def removeFromPeerWhite (m : PeerlistManager) (pe : PeerlistEntry) : PeerlistManager :=
  { m with peersWhite := removeByAddr m.peersWhite pe.adr }

/-- `remove_from_peer_gray(pe)`. -/
def removeFromPeerGray (m : PeerlistManager) (pe : PeerlistEntry) : PeerlistManager :=
  { m with peersGray := removeByAddr m.peersGray pe.adr }

/-- Two Tor addresses whose hosts and ports are ordered the opposite ways end up in both lists:
after `b` joins the white list as the left child of `a`, `find(b)` turns right at `a`, since
`a.less(b)` holds, and misses `b`, so `append_with_peer_gray` inserts `b` into the gray list. -/
theorem tor_peer_in_both_lists :
    let a : NetworkAddress := .tor ⟨[97], 2⟩
    let b : NetworkAddress := .tor ⟨[98], 1⟩
    let m : Option PeerlistManager := ((empty false).init [] [] false).map fun m =>
      ((m.appendWithPeerWhite ⟨a, 1, 10, 0, 0, 0⟩).appendWithPeerWhite
        ⟨b, 2, 20, 0, 0, 0⟩).appendWithPeerGray ⟨b, 2, 30, 0, 0, 0⟩
    m.map (fun m => (m.peersWhite.byAddr.inorder.any fun n => n.entry.adr.equal b,
      m.peersGray.byAddr.inorder.any fun n => n.entry.adr.equal b)) = some (true, true) := by
  decide

end PeerlistManager

/-! ## The invariant of the peer lists -/

/-- `network_address::less` is `<` of the order key away from Tor and I2P. -/
theorem less_agrees :
    Agrees NetworkAddress.orderKey NetworkAddress.less fun a => a.isOverlay = false :=
  fun _ _ ha hb => NetworkAddress.less_iff_orderKey_lt ha hb

namespace PeersIndexed

/-- What the operations keep of a container whose addresses are neither Tor nor I2P: `by_addr` is
a search tree for `network_address::less`, its nodes have distinct names, all below the next
name to be allocated. -/
structure Wf (c : PeersIndexed) : Prop where
  sorted : c.byAddr.Sorted adr NetworkAddress.orderKey fun a => a.isOverlay = false
  nodup : (c.byAddr.inorder.map PeerNode.node).Nodup
  lt_nextNode : ∀ n ∈ c.byAddr.inorder, n.node < c.nextNode

theorem wf_empty : empty.Wf :=
  ⟨⟨List.Pairwise.nil, by simp [empty]⟩, List.nodup_nil, by simp [empty]⟩

variable {c : PeersIndexed}

/-- A container with fewer nodes and no fewer names to allocate. -/
theorem Wf.of_sublist (h : c.Wf) {c' : PeersIndexed}
    (hsub : c'.byAddr.inorder.Sublist c.byAddr.inorder) (hnext : c.nextNode ≤ c'.nextNode) :
    c'.Wf :=
  ⟨h.sorted.of_sublist hsub, h.nodup.sublist (hsub.map _),
    fun n hn => (h.lt_nextNode n (hsub.subset hn)).trans_le hnext⟩

theorem erase_sublist (c : PeersIndexed) (i : ℕ) :
    (c.erase i).byAddr.inorder.Sublist c.byAddr.inorder := by
  rw [erase, inorder_eraseAt]
  exact List.eraseP_sublist

theorem Wf.erase (h : c.Wf) (i : ℕ) : (c.erase i).Wf :=
  h.of_sublist (c.erase_sublist i) le_rfl

theorem eraseOldest_sublist (c : PeersIndexed) :
    c.eraseOldest.byAddr.inorder.Sublist c.byAddr.inorder := by
  unfold eraseOldest
  split
  · exact c.erase_sublist _
  · exact List.Sublist.refl _

theorem trimLoop_sublist (limit : ℕ) :
    ∀ fuel (c : PeersIndexed), (trimLoop limit fuel c).byAddr.inorder.Sublist c.byAddr.inorder ∧
      (trimLoop limit fuel c).nextNode = c.nextNode
  | 0, _ => ⟨List.Sublist.refl _, rfl⟩
  | fuel + 1, c => by
    unfold trimLoop
    split_ifs
    · -- one round erases the oldest node, which keeps the names to allocate
      obtain ⟨hsub, hnext⟩ := trimLoop_sublist limit fuel c.eraseOldest
      refine ⟨hsub.trans c.eraseOldest_sublist, hnext.trans ?_⟩
      unfold eraseOldest
      split <;> rfl
    · exact ⟨List.Sublist.refl _, rfl⟩

theorem trim_sublist (limit : ℕ) (c : PeersIndexed) :
    (c.trim limit).byAddr.inorder.Sublist c.byAddr.inorder :=
  (trimLoop_sublist limit c.size c).1

theorem Wf.trim (h : c.Wf) (limit : ℕ) : (c.trim limit).Wf :=
  h.of_sublist (c.trim_sublist limit) (trimLoop_sublist limit c.size c).2.ge

section Address

variable (h : c.Wf) {a : NetworkAddress} (ha : a.isOverlay = false)
include h ha

/-- `find` on `by_addr` answers the node of an address equal to the one sought. -/
theorem Wf.findByAddr_eq_some_iff {n : PeerNode} :
    c.findByAddr a = some n ↔ n ∈ c.byAddr.inorder ∧ n.entry.adr.orderKey = a.orderKey :=
  find_eq_some_iff less_agrees ha h.sorted

theorem Wf.findByAddr_eq_none_iff :
    c.findByAddr a = none ↔ ∀ n ∈ c.byAddr.inorder, n.entry.adr.orderKey ≠ a.orderKey :=
  find_eq_none_iff less_agrees ha h.sorted

end Address

/-- Erasing the node of an address leaves no node of that address. -/
theorem Wf.orderKey_ne_of_mem_erase (h : c.Wf) {n : PeerNode} (hn : n ∈ c.byAddr.inorder)
    {m : PeerNode} (hm : m ∈ (c.erase n.node).byAddr.inorder) :
    m.entry.adr.orderKey ≠ n.entry.adr.orderKey := by
  have hname : m.node ≠ n.node := by
    rw [PeersIndexed.erase, inorder_eraseAt] at hm
    exact ne_of_mem_eraseP PeerNode.node h.nodup hm
  intro hkey
  exact hname (congrArg PeerNode.node
    (h.sorted.eq_of_ord_eq ((c.erase_sublist n.node).subset hm) hn hkey))

/-- Linking a node of the next name into `by_addr`, as `insert` and the range insert of `init`
do, keeps a well-formed container. -/
theorem Wf.link (h : c.Wf) {e : PeerlistEntry} {t : BinaryTree PeerNode}
    (hsorted : t.Sorted adr NetworkAddress.orderKey fun a => a.isOverlay = false)
    (hperm : t.inorder.Perm (⟨c.nextNode, e⟩ :: c.byAddr.inorder)) (byTime : BinaryTree PeerNode) :
    (⟨t, byTime, c.nextNode + 1⟩ : PeersIndexed).Wf ∧
      ∀ n ∈ t.inorder, n ∈ c.byAddr.inorder ∨ n.entry = e := by
  -- the new node takes the next name, which no node has yet
  have hfresh : c.nextNode ∉ c.byAddr.inorder.map PeerNode.node := fun hmem => by
    obtain ⟨n, hn, hname⟩ := List.mem_map.1 hmem
    exact (h.lt_nextNode n hn).ne hname
  refine ⟨⟨hsorted, ?_, fun n hn => ?_⟩, fun n hn => ?_⟩
  · rw [(hperm.map _).nodup_iff, List.map_cons, List.nodup_cons]
    exact ⟨hfresh, h.nodup⟩
  · rcases List.mem_cons.1 (hperm.subset hn) with rfl | hn
    · exact Nat.lt_succ_self _
    · exact (h.lt_nextNode n hn).trans (Nat.lt_succ_self _)
  · rcases List.mem_cons.1 (hperm.subset hn) with rfl | hn
    · exact .inr rfl
    · exact .inl hn

/-- `insert(e)` keeps a well-formed container and adds at most a node of `e`. -/
theorem Wf.insert (h : c.Wf) {e : PeerlistEntry} (he : e.adr.isOverlay = false) :
    (c.insert e).Wf ∧ ∀ n ∈ (c.insert e).byAddr.inorder, n ∈ c.byAddr.inorder ∨ n.entry = e := by
  unfold PeersIndexed.insert
  dsimp only
  split
  · next t hins =>
    have hv : (adr ⟨c.nextNode, e⟩).isOverlay = false := he
    obtain ⟨hsorted, hperm⟩ := insertUnique_ok less_agrees hv h.sorted hins
    exact h.link hsorted hperm _
  · exact ⟨h, fun n hn => .inl hn⟩

/-- The range insert of `init` keeps a well-formed container and adds only nodes of its
entries. -/
theorem Wf.insertRange {es : List PeerlistEntry} (hes : ∀ e ∈ es, e.adr.isOverlay = false) :
    ∀ {c : PeersIndexed} (hint : Option ℕ), c.Wf →
      (c.insertRange hint es).Wf ∧
        ∀ n ∈ (c.insertRange hint es).byAddr.inorder, n ∈ c.byAddr.inorder ∨ n.entry ∈ es := by
  induction es with
  | nil => exact fun _ h => ⟨h, fun n hn => .inl hn⟩
  | cons e es ih =>
    intro c hint h
    have hes' : ∀ e' ∈ es, e'.adr.isOverlay = false := fun e' he' =>
      hes e' (List.mem_cons_of_mem e he')
    unfold PeersIndexed.insertRange
    dsimp only
    split
    · next t hins =>
      -- `e` is linked, then the rest goes into the larger container
      have hv : (adr ⟨c.nextNode, e⟩).isOverlay = false := hes e (by simp)
      obtain ⟨hsorted, hperm⟩ :=
        hintedInsertUnique_ok less_agrees hv PeerNode.node h.sorted h.nodup hins
      obtain ⟨hwf, hnodes⟩ := h.link hsorted hperm (c.byTime.insertEqual timeLess lastSeen _)
      obtain ⟨hwf', hnodes'⟩ := ih hes' _ hwf
      refine ⟨hwf', fun n hn => ?_⟩
      rcases hnodes' n hn with hn | hn
      · rcases hnodes n hn with hn | hn
        · exact .inl hn
        · exact .inr (by simp [hn])
      · exact .inr (List.mem_cons_of_mem e hn)
    · obtain ⟨hwf, hnodes⟩ := ih hes' _ h
      exact ⟨hwf, fun n hn => (hnodes n hn).imp id (List.mem_cons_of_mem e)⟩

/-- `replace(it, e)` of a node by an entry of an equal address keeps a well-formed container and
puts in at most a node of `e`. -/
theorem Wf.replace (h : c.Wf) {n : PeerNode} (hn : n ∈ c.byAddr.inorder) {e : PeerlistEntry}
    (he : e.adr.isOverlay = false) (hkey : e.adr.orderKey = n.entry.adr.orderKey) :
    (c.replace n.node e).Wf ∧
      ∀ m ∈ (c.replace n.node e).byAddr.inorder, m ∈ c.byAddr.inorder ∨ m.entry = e := by
  unfold PeersIndexed.replace
  dsimp only
  split
  · next t hrep =>
    -- the only node of that name is `n`, whose address is equal to `e`'s
    have hsame : ∀ b ∈ c.byAddr.inorder, b.node = n.node →
        (adr b).orderKey = (adr ⟨n.node, e⟩).orderKey := fun b hb hbn => by
      rw [List.inj_on_of_nodup_map h.nodup hb hn hbn]
      exact hkey.symm
    have hv : (adr ⟨n.node, e⟩).isOverlay = false := he
    obtain ⟨hsorted, hperm, hmem⟩ := replaceUnique_some PeerNode.node less_agrees h.sorted hv rfl
      ⟨n, hn, rfl⟩ hsame hrep
    refine ⟨⟨hsorted, hperm.nodup_iff.2 h.nodup, fun m hm => ?_⟩, fun m hm => ?_⟩
    · rcases hmem m hm with rfl | hm
      · exact h.lt_nextNode n hn
      · exact h.lt_nextNode m hm
    · rcases hmem m hm with rfl | hm
      · exact .inr rfl
      · exact .inl hm
  · exact ⟨h, fun m hm => .inl hm⟩

/-- `c'` holds the nodes of `c` and, besides, only nodes of addresses equal to `a`. -/
def AddsAt (c : PeersIndexed) (a : NetworkAddress) (c' : PeersIndexed) : Prop :=
  ∀ n ∈ c'.byAddr.inorder, n ∈ c.byAddr.inorder ∨ n.entry.adr.orderKey = a.orderKey

/-- A new entry joins, then the list is trimmed: the branch of both `append_with_peer_*` for an
address the list does not hold. -/
theorem Wf.insert_trim (h : c.Wf) {ple : PeerlistEntry} (hple : ple.adr.isOverlay = false)
    (limit : ℕ) : ((c.insert ple).trim limit).Wf ∧ c.AddsAt ple.adr ((c.insert ple).trim limit) := by
  obtain ⟨hwf, hmem⟩ := h.insert hple
  refine ⟨hwf.trim limit, fun n hn => ?_⟩
  rcases hmem n ((trim_sublist limit _).subset hn) with hn | hn
  · exact .inl hn
  · exact .inr (by rw [hn])

/-- The entry of a known address is updated: the other branch of both `append_with_peer_*`. -/
theorem Wf.replace_updatedEntry (h : c.Wf) {ple : PeerlistEntry}
    (hple : ple.adr.isOverlay = false) {n : PeerNode} (hn : c.findByAddr ple.adr = some n) :
    (c.replace n.node (updatedEntry n.entry ple)).Wf ∧
      c.AddsAt ple.adr (c.replace n.node (updatedEntry n.entry ple)) := by
  obtain ⟨hmem, hkey⟩ := (h.findByAddr_eq_some_iff hple).1 hn
  obtain ⟨hwf, hnodes⟩ := h.replace hmem (e := updatedEntry n.entry ple) hple hkey.symm
  refine ⟨hwf, fun m hm => ?_⟩
  rcases hnodes m hm with hm | hm
  · exact .inl hm
  · exact .inr (by rw [hm]; rfl)

theorem Wf.removeByAddr (h : c.Wf) (a : NetworkAddress) :
    (PeerlistManager.removeByAddr c a).Wf ∧
      (PeerlistManager.removeByAddr c a).byAddr.inorder.Sublist c.byAddr.inorder := by
  unfold PeerlistManager.removeByAddr
  split
  · exact ⟨h.erase _, c.erase_sublist _⟩
  · exact ⟨h, List.Sublist.refl _⟩

end PeersIndexed

namespace PeerlistManager

open PeersIndexed

/-- What every call keeps of the peer lists, as long as no Tor or I2P address comes in: both are
well-formed, so each holds one entry per address, and no address is in both. -/
structure Inv (m : PeerlistManager) : Prop where
  white : m.peersWhite.Wf
  gray : m.peersGray.Wf
  disjoint : ∀ a ∈ m.peersWhite.byAddr.inorder, ∀ b ∈ m.peersGray.byAddr.inorder,
    a.entry.adr.orderKey ≠ b.entry.adr.orderKey

theorem inv_empty (allowLocalIp : Bool) : (empty allowLocalIp).Inv :=
  ⟨wf_empty, wf_empty, by simp [empty, PeersIndexed.empty]⟩

variable {m : PeerlistManager}

/-- New lists where the white one gains at most entries of an address the gray one no longer
holds keep the invariant. -/
theorem Inv.of_white_gray (h : m.Inv) {white gray : PeersIndexed} {a : NetworkAddress}
    (hw : white.Wf ∧ m.peersWhite.AddsAt a white)
    (hg : gray.Wf ∧ gray.byAddr.inorder.Sublist m.peersGray.byAddr.inorder ∧
      ∀ b ∈ gray.byAddr.inorder, b.entry.adr.orderKey ≠ a.orderKey) :
    ({ m with peersWhite := white, peersGray := gray } : PeerlistManager).Inv := by
  refine ⟨hw.1, hg.1, fun x hx y hy => ?_⟩
  rcases hw.2 x hx with hx | hkey
  · exact h.disjoint x hx y (hg.2.1.subset hy)
  · rw [hkey]
    exact (hg.2.2 y hy).symm

/-- `append_with_peer_white(ple)`: the white list gains at most the entry of `ple`'s address, and
the gray list loses it. -/
theorem Inv.appendWithPeerWhite (h : m.Inv) {ple : PeerlistEntry}
    (hple : ple.adr.isOverlay = false) : (m.appendWithPeerWhite ple).Inv := by
  unfold PeerlistManager.appendWithPeerWhite
  split_ifs
  · exact h
  dsimp only
  apply h.of_white_gray (a := ple.adr)
  · split
    · exact h.white.insert_trim hple _
    · next n hn => exact h.white.replace_updatedEntry hple hn
  · -- the gray list keeps only entries of other addresses
    split
    · next n hn =>
      obtain ⟨hmem, hkey⟩ := (h.gray.findByAddr_eq_some_iff hple).1 hn
      exact ⟨h.gray.erase _, erase_sublist _ _,
        fun b hb => hkey ▸ h.gray.orderKey_ne_of_mem_erase hmem hb⟩
    · next hn => exact ⟨h.gray, List.Sublist.refl _, (h.gray.findByAddr_eq_none_iff hple).1 hn⟩

/-- `append_with_peer_gray(ple)`: nothing for a white address; otherwise the gray list gains at
most the entry of `ple`'s address. -/
theorem Inv.appendWithPeerGray (h : m.Inv) {ple : PeerlistEntry}
    (hple : ple.adr.isOverlay = false) : (m.appendWithPeerGray ple).Inv := by
  unfold PeerlistManager.appendWithPeerGray
  split_ifs with _ hknown
  · exact h
  · exact h
  -- the white list holds no entry of `ple`'s address
  have hwhite : ∀ a ∈ m.peersWhite.byAddr.inorder, a.entry.adr.orderKey ≠ ple.adr.orderKey :=
    (h.white.findByAddr_eq_none_iff hple).1 (by simpa using hknown)
  have hgray {gray : PeersIndexed} (hg : gray.Wf ∧ m.peersGray.AddsAt ple.adr gray) :
      ({ m with peersGray := gray } : PeerlistManager).Inv := by
    refine ⟨h.white, hg.1, fun a ha b hb => ?_⟩
    rcases hg.2 b hb with hb | hkey
    · exact h.disjoint a ha b hb
    · rw [hkey]
      exact hwhite a ha
  split
  · exact hgray (h.gray.insert_trim hple _)
  · next n hn => exact hgray (h.gray.replace_updatedEntry hple hn)

/-- Lists that only lose entries keep the invariant. -/
theorem Inv.of_sublist (h : m.Inv) {m' : PeerlistManager}
    (hw : m'.peersWhite.Wf) (hwsub : m'.peersWhite.byAddr.inorder.Sublist m.peersWhite.byAddr.inorder)
    (hg : m'.peersGray.Wf) (hgsub : m'.peersGray.byAddr.inorder.Sublist m.peersGray.byAddr.inorder) :
    m'.Inv :=
  ⟨hw, hg, fun a ha b hb => h.disjoint a (hwsub.subset ha) b (hgsub.subset hb)⟩

/-- `merge_peerlist(outer_bs)`: each entry through `append_with_peer_gray`, then a trim. -/
theorem Inv.mergePeerlist (h : m.Inv) {outerBs : List PeerlistEntry}
    (hall : ∀ e ∈ outerBs, e.adr.isOverlay = false) : (m.mergePeerlist outerBs).Inv := by
  -- the loop keeps the invariant entry by entry
  have hfold : ∀ (es : List PeerlistEntry) (m : PeerlistManager), m.Inv →
      (∀ e ∈ es, e.adr.isOverlay = false) → (es.foldl PeerlistManager.appendWithPeerGray m).Inv := by
    intro es
    induction es with
    | nil => exact fun _ hm _ => hm
    | cons e es ih =>
      intro m hm hes
      exact ih _ (hm.appendWithPeerGray (hes e (by simp))) fun e' he' => hes e' (by simp [he'])
  have hm := hfold outerBs m h hall
  exact hm.of_sublist hm.white (List.Sublist.refl _) (hm.gray.trim _) (trim_sublist _ _)

theorem Inv.removeFromPeerWhite (h : m.Inv) (pe : PeerlistEntry) :
    (m.removeFromPeerWhite pe).Inv :=
  h.of_sublist (h.white.removeByAddr pe.adr).1 (h.white.removeByAddr pe.adr).2 h.gray
    (List.Sublist.refl _)

theorem Inv.removeFromPeerGray (h : m.Inv) (pe : PeerlistEntry) :
    (m.removeFromPeerGray pe).Inv :=
  h.of_sublist h.white (List.Sublist.refl _) (h.gray.removeByAddr pe.adr).1
    (h.gray.removeByAddr pe.adr).2

/-- `init(peers, allow_local_ip)` on empty lists, with stored lists that share no address: the
white list holds nodes of the stored white entries, the gray list of the gray ones. -/
theorem Inv.init (h : m.Inv) {white gray : List PeerlistEntry} {allowLocalIp : Bool}
    {m' : PeerlistManager} (hinit : m.init white gray allowLocalIp = some m')
    (hwhite : ∀ e ∈ white, e.adr.isOverlay = false) (hgray : ∀ e ∈ gray, e.adr.isOverlay = false)
    (hdisj : ∀ a ∈ white, ∀ b ∈ gray, a.adr.equal b.adr = false) : m'.Inv := by
  unfold PeerlistManager.init at hinit
  split_ifs at hinit with hsize
  cases hinit
  simp only [not_or, not_not, size, List.length_eq_zero_iff] at hsize
  obtain ⟨hwf, hwn⟩ := Wf.insertRange hwhite none h.white
  obtain ⟨hgf, hgn⟩ := Wf.insertRange hgray none h.gray
  refine ⟨hwf, hgf, fun a ha b hb hkey => ?_⟩
  -- the lists were empty, so every node is of a stored entry
  rcases hwn a ha with ha | ha
  · simp [hsize.1] at ha
  rcases hgn b hb with hb | hb
  · simp [hsize.2] at hb
  have hequal := (NetworkAddress.equal_iff_orderKey_eq (hwhite _ ha) (hgray _ hb)).2 hkey
  rw [hdisj _ ha _ hb] at hequal
  exact Bool.false_ne_true hequal

/-- The states of a node's peer lists from their construction on, through the calls that
change them, with no Tor or I2P address coming in. `set_peer_just_seen` is
`append_with_peer_white`; `init` loads stored lists that share no address. -/
inductive Reachable : PeerlistManager → Prop
  | empty (allowLocalIp : Bool) : Reachable (empty allowLocalIp)
  | init {m m' : PeerlistManager} (white gray : List PeerlistEntry) (allowLocalIp : Bool) :
      Reachable m → m.init white gray allowLocalIp = some m' →
      (∀ e ∈ white, e.adr.isOverlay = false) → (∀ e ∈ gray, e.adr.isOverlay = false) →
      (∀ a ∈ white, ∀ b ∈ gray, a.adr.equal b.adr = false) → Reachable m'
  | appendWhite {m : PeerlistManager} (ple : PeerlistEntry) :
      Reachable m → ple.adr.isOverlay = false → Reachable (m.appendWithPeerWhite ple)
  | appendGray {m : PeerlistManager} (ple : PeerlistEntry) :
      Reachable m → ple.adr.isOverlay = false → Reachable (m.appendWithPeerGray ple)
  | merge {m : PeerlistManager} (outerBs : List PeerlistEntry) :
      Reachable m → (∀ e ∈ outerBs, e.adr.isOverlay = false) → Reachable (m.mergePeerlist outerBs)
  | removeWhite {m : PeerlistManager} (pe : PeerlistEntry) :
      Reachable m → Reachable (m.removeFromPeerWhite pe)
  | removeGray {m : PeerlistManager} (pe : PeerlistEntry) :
      Reachable m → Reachable (m.removeFromPeerGray pe)

theorem Reachable.inv (hm : Reachable m) : m.Inv := by
  induction hm with
  | empty allowLocalIp => exact inv_empty allowLocalIp
  | init white gray allowLocalIp _ hinit hwhite hgray hdisj ih =>
    exact ih.init hinit hwhite hgray hdisj
  | appendWhite ple _ hple ih => exact ih.appendWithPeerWhite hple
  | appendGray ple _ hple ih => exact ih.appendWithPeerGray hple
  | merge outerBs _ hall ih => exact ih.mergePeerlist hall
  | removeWhite pe _ ih => exact ih.removeFromPeerWhite pe
  | removeGray pe _ ih => exact ih.removeFromPeerGray pe

end PeerlistManager

namespace PeersIndexed

variable {c : PeersIndexed}

/-- A well-formed container holds no two entries of equal addresses. -/
theorem Wf.pairwise_equal_false (h : c.Wf) :
    c.byAddr.inorder.Pairwise fun a b => a.entry.adr.equal b.entry.adr = false :=
  h.sorted.pairwise.imp_of_mem fun ha hb hab => Bool.eq_false_iff.2 fun hequal =>
    hab.ne ((NetworkAddress.equal_iff_orderKey_eq (h.sorted.mem _ ha) (h.sorted.mem _ hb)).1 hequal)

/-- `find` on `by_addr` finds every node of a well-formed container by its address. -/
theorem Wf.findByAddr_self (h : c.Wf) {n : PeerNode} (hn : n ∈ c.byAddr.inorder) :
    c.findByAddr n.entry.adr = some n :=
  (h.findByAddr_eq_some_iff (h.sorted.mem n hn)).2 ⟨hn, rfl⟩

end PeersIndexed

namespace PeerlistManager

open PeersIndexed

/-- **One entry per address, and in one list at most.** In every state the peer lists reach
while no Tor or I2P address comes in, neither list holds two entries of equal addresses, no
address is in both, and `find` on `by_addr` finds every entry by its address. -/
theorem peer_lists_one_entry_per_address {m : PeerlistManager} (hm : Reachable m) :
    m.peersWhite.byAddr.inorder.Pairwise (fun a b => a.entry.adr.equal b.entry.adr = false) ∧
      m.peersGray.byAddr.inorder.Pairwise (fun a b => a.entry.adr.equal b.entry.adr = false) ∧
      (∀ a ∈ m.peersWhite.byAddr.inorder, ∀ b ∈ m.peersGray.byAddr.inorder,
        a.entry.adr.equal b.entry.adr = false) ∧
      (∀ a ∈ m.peersWhite.byAddr.inorder, m.peersWhite.findByAddr a.entry.adr = some a) ∧
      ∀ b ∈ m.peersGray.byAddr.inorder, m.peersGray.findByAddr b.entry.adr = some b := by
  have h := hm.inv
  refine ⟨h.white.pairwise_equal_false, h.gray.pairwise_equal_false, fun a ha b hb => ?_,
    fun a ha => h.white.findByAddr_self ha, fun b hb => h.gray.findByAddr_self hb⟩
  exact Bool.eq_false_iff.2 fun hequal => h.disjoint a ha b hb
    ((NetworkAddress.equal_iff_orderKey_eq (h.white.sorted.mem a ha) (h.gray.sorted.mem b hb)).1
      hequal)

/-- A node that hears of `b` as a gray peer and then talks to `a` and `b`: `b` leaves the gray
list for the white one. -/
theorem peer_lists_one_entry_per_address_moved :
    let a : NetworkAddress := .ipv4 ⟨0x08080808, 18080⟩
    let b : NetworkAddress := .ipv4 ⟨0x04040808, 18080⟩
    let m := (((empty false).appendWithPeerGray ⟨b, 2, 10, 0, 0, 0⟩).appendWithPeerWhite
      ⟨a, 1, 20, 0, 0, 0⟩).appendWithPeerWhite ⟨b, 2, 30, 0, 0, 0⟩
    Reachable m ∧ m.peersWhite.size = 2 ∧ m.peersGray.size = 0 ∧
      m.peersWhite.byAddr.inorder.Pairwise (fun a b => a.entry.adr.equal b.entry.adr = false) ∧
      m.peersGray.byAddr.inorder.Pairwise (fun a b => a.entry.adr.equal b.entry.adr = false) ∧
      (∀ a ∈ m.peersWhite.byAddr.inorder, ∀ b ∈ m.peersGray.byAddr.inorder,
        a.entry.adr.equal b.entry.adr = false) ∧
      (∀ a ∈ m.peersWhite.byAddr.inorder, m.peersWhite.findByAddr a.entry.adr = some a) ∧
      ∀ b ∈ m.peersGray.byAddr.inorder, m.peersGray.findByAddr b.entry.adr = some b := by
  intro a b m
  have hm : Reachable m :=
    .appendWhite _ (.appendWhite _ (.appendGray _ (.empty false) rfl) rfl) rfl
  exact ⟨hm, by decide, by decide, peer_lists_one_entry_per_address hm⟩

end PeerlistManager


end Bittube.P2p
