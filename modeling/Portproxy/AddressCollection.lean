import Portproxy.Interfaces

/-! The addresses of an interface, taken out of a dump. For IPv4 all of them are
gathered in an array that is moved on for each; the move goes four elements
instead of one. For IPv6 the first global one is looked for; on a host whose
`char` is signed no address is ever found to be anything else. -/
namespace Portproxy.AddressCollection

/-- An entry of this family and interface. -/
abbrev OfInterface (family : Nat) (ifindex : Int) (ifa : AddrMsg) : Prop :=
  ifa.family = family ∧ ifa.index = ifindex

variable {ifindex : Int} {dump : List AddrMsg} {fresh : Nat → Nat → InAddr} {arr : AddrArray}

/-! ## IPv4 -/

/-- The IPv4 addresses of an interface, in the order of the dump. -/
def addresses (ifindex : Int) (dump : List AddrMsg) : List InAddr :=
  (dump.filter (OfInterface afInet ifindex)).map fun ifa => inOfBytes ((ifaAddr ifa).getD [])

/-- The array holds exactly the addresses of the interface, each once and the
latest first, and was never written outside its blocks. -/
structure Collected (ifindex : Int) (dump : List AddrMsg) (arr : AddrArray) : Prop where
  count : arr.cnt = dump.countP (OfInterface afInet ifindex)
  elements : ∀ buf, arr.buf = some buf → (List.range arr.cnt).map buf = (addresses ifindex dump).reverse
  allocated : 0 < arr.cnt → arr.buf.isSome
  inBounds : ∀ write ∈ arr.writes, write.index < write.room

theorem length_addresses (ifindex : Int) (dump : List AddrMsg) :
    (addresses ifindex dump).length = dump.countP (OfInterface afInet ifindex) := by
  rw [addresses, List.length_map, List.countP_eq_length_filter]

/-- Every entry of a family carries an address. -/
abbrev Addressed (family : Nat) (dump : List AddrMsg) : Prop :=
  ∀ ifa ∈ dump, ifa.family = family → (ifaAddr ifa).isSome

/-- Every entry of this interface carries an address. -/
abbrev Carries (ifindex : Int) (dump : List AddrMsg) : Prop :=
  ∀ ifa ∈ dump, OfInterface afInet ifindex ifa → (ifaAddr ifa).isSome

/-- The loop pushes one address after the other. -/
theorem global_get_pushes (carries : Carries ifindex dump) (arr : AddrArray) :
    ipaddrGlobalGet fresh ifindex dump arr =
      some ((addresses ifindex dump).foldl (AddrArray.push fresh) arr) := by
  induction dump generalizing arr with
  | nil => rfl
  | cons ifa rest ih =>
    have later := ih fun other member => carries other (List.mem_cons_of_mem _ member)
    by_cases here : OfInterface afInet ifindex ifa
    · obtain ⟨data, carried⟩ := Option.isSome_iff_exists.mp (carries ifa List.mem_cons_self here)
      have listed : addresses ifindex (ifa :: rest) = inOfBytes data :: addresses ifindex rest := by
        simp [addresses, here, carried]
      rw [ipaddrGlobalGet, if_pos here, carried, listed, List.foldl_cons]
      exact later _
    · have skipped : addresses ifindex (ifa :: rest) = addresses ifindex rest := by
        simp [addresses, here]
      rw [ipaddrGlobalGet, if_neg here, skipped]
      exact later _

theorem pushes_count (fresh : Nat → Nat → InAddr) (addrs : List InAddr) (arr : AddrArray) :
    (addrs.foldl (AddrArray.push fresh) arr).cnt = arr.cnt + addrs.length := by
  induction addrs generalizing arr with
  | nil => rfl
  | cons addr rest ih =>
    have one : (arr.push fresh addr).cnt = arr.cnt + 1 := rfl
    rw [List.foldl_cons, ih, one, List.length_cons]
    omega

/-- The last address pushed is the first of the array, wherever the others have
gone. -/
theorem pushes_first (fresh : Nat → Nat → InAddr) (addrs : List InAddr) :
    (addrs.foldl (AddrArray.push fresh) {}).buf.map (· 0) = addrs.getLast? := by
  rcases List.eq_nil_or_concat' addrs with rfl | ⟨front, last, rfl⟩
  · rfl
  · simp [AddrArray.push]

/-- It gets through only where there is an address to push for each entry. -/
theorem global_get_carries (gathered : ipaddrGlobalGet fresh ifindex dump arr = some arr') :
    Carries ifindex dump := by
  induction dump generalizing arr with
  | nil => exact fun _ member => absurd member List.not_mem_nil
  | cons ifa rest ih =>
    simp only [ipaddrGlobalGet] at gathered
    intro other member mine
    rcases List.mem_cons.mp member with rfl | later
    · rw [if_pos mine] at gathered
      cases carried : ifaAddr other with
      | none => simp [carried] at gathered
      | some => rfl
    · split at gathered
      · cases carried : ifaAddr ifa with
        | none => simp [carried] at gathered
        | some data =>
          rw [carried] at gathered
          exact ih gathered other later mine
      · exact ih gathered other later mine

/-- What was written stays written. -/
theorem pushes_keep_writes (addrs : List InAddr) (arr : AddrArray) :
    arr.writes ⊆ (addrs.foldl (AddrArray.push fresh) arr).writes := by
  induction addrs generalizing arr with
  | nil => exact List.Subset.refl _
  | cons addr rest ih =>
    refine List.Subset.trans ?_ (ih (arr.push fresh addr))
    rw [AddrArray.push, List.append_assoc]
    exact List.subset_append_left _ _

/-- The second address moves the first one out of the block. -/
theorem second_push_outside (first second : InAddr) (rest : List InAddr) :
    ∃ write ∈ ((first :: second :: rest).foldl (AddrArray.push fresh) {}).writes,
      write.room ≤ write.index := by
  refine ⟨⟨2, 4⟩, pushes_keep_writes rest _ ?_, by decide⟩
  simp [AddrArray.push]

/-- So only one address at most stays inside the blocks. -/
theorem pushes_in_bounds (fresh : Nat → Nat → InAddr) (addrs : List InAddr) :
    (∀ write ∈ (addrs.foldl (AddrArray.push fresh) {}).writes, write.index < write.room) ↔
      addrs.length ≤ 1 := by
  cases addrs with
  | nil => simp
  | cons first rest =>
    cases rest with
    | nil => simp [AddrArray.push]
    | cons second rest =>
      refine iff_of_false ?_ (by simp)
      intro inBounds
      obtain ⟨write, written, outside⟩ := second_push_outside first second rest
      exact absurd (inBounds write written) (not_lt.mpr outside)

/-- With entries that carry addresses, the collection is complete and in bounds
exactly for an interface of one address at most. -/
theorem collected_iff_at_most_one (fresh : Nat → Nat → InAddr) (ifindex : Int) (dump : List AddrMsg)
    (addressed : Addressed afInet dump) :
    (∃ arr, ipaddrGlobalGet fresh ifindex dump {} = some arr ∧ Collected ifindex dump arr) ↔
      dump.countP (OfInterface afInet ifindex) ≤ 1 := by
  have count := length_addresses ifindex dump
  have carries : Carries ifindex dump := fun ifa member mine => addressed ifa member mine.1
  rw [global_get_pushes carries, ← count, ← pushes_in_bounds fresh]
  simp only [Option.some.injEq, exists_eq_left']
  constructor
  · exact fun collected => collected.inBounds
  · intro inBounds
    have short := (pushes_in_bounds fresh _).mp inBounds
    cases found : addresses ifindex dump with
    | nil =>
      rw [found] at count
      exact ⟨count, by simp, by simp, by simp⟩
    | cons first rest =>
      rw [found] at count short inBounds
      obtain rfl : rest = [] := by simpa using short
      refine ⟨count, ?_, fun _ => rfl, inBounds⟩
      rintro buf allocated
      obtain rfl := Option.some.inj allocated
      rw [found]
      rfl

/-- The addresses of two interfaces, the loopback interface, number 1, and the WAN
interface, number 2. -/
def loopbackEntry : AddrMsg where
  family := afInet
  index := 1
  attrs := [⟨ifaAddress, [127, 0, 0, 1]⟩, ⟨ifaLocal, [127, 0, 0, 1]⟩]

def wanEntry : AddrMsg where
  family := afInet
  index := 2
  attrs := [⟨ifaAddress, [203, 0, 113, 7]⟩, ⟨ifaLocal, [203, 0, 113, 7]⟩]

def linkLocalEntry : AddrMsg where
  family := afInet6
  index := 2
  attrs := [⟨ifaAddress, [0xfe, 0x80, 0, 0, 0, 0, 0, 0, 0, 0, 0, 0, 0, 0, 0, 1]⟩]

def globalEntry : AddrMsg where
  family := afInet6
  index := 2
  attrs := [⟨ifaAddress, [0x20, 0x01, 0x0d, 0xb8, 0, 0, 0, 0, 0, 0, 0, 0, 0, 0, 0, 1]⟩]

def hostEntries : List AddrMsg := [loopbackEntry, linkLocalEntry, wanEntry, globalEntry]

theorem one_address_collected :
    (∃ arr, ipaddrGlobalGet (fun _ _ => {}) 2 hostEntries {} = some arr ∧ Collected 2 hostEntries arr) ↔
      hostEntries.countP (OfInterface afInet 2) ≤ 1 :=
  collected_iff_at_most_one (fun _ _ => {}) 2 hostEntries (by decide)

/-- A second address of the loopback interface. -/
def secondEntry : AddrMsg := { loopbackEntry with attrs := [⟨ifaAddress, [10, 0, 0, 1]⟩] }

/-- With two addresses the first one is written behind the end of the block. -/
theorem two_addresses_out_of_bounds :
    ¬ ∃ arr, ipaddrGlobalGet (fun _ _ => {}) 1 [loopbackEntry, secondEntry] {} = some arr ∧
      Collected 1 [loopbackEntry, secondEntry] arr := by
  rintro ⟨arr, gathered, collected⟩
  obtain rfl := Option.some.inj gathered
  exact absurd (collected.inBounds ⟨2, 4⟩ (by decide)) (by decide)

/-! ## IPv6 -/

variable {host : Host}

/-- Neither link-local nor multicast. -/
abbrev Global (addr : In6Addr) : Prop :=
  ¬ ((addr[0]? = some 0xfe ∧ addr[1]? = some 0x80) ∨ addr[0]? = some 0xff)

/-- The address of an IPv6 entry. -/
def in6Addr (ifa : AddrMsg) : Option In6Addr := (ifaAddr ifa).map in6OfBytes

/-- The IPv6 addresses of an interface, in the order of the dump. -/
def addresses6 (ifindex : Int) (dump : List AddrMsg) : List In6Addr :=
  (dump.filter (OfInterface afInet6 ifindex)).filterMap in6Addr

/-- `ipaddr6_global_get` finds the first global address, and fails exactly if
there is none. -/
def FindsGlobal (host : Host) (ifindex : Int) (dump : List AddrMsg) : Prop :=
  ipaddr6GlobalRead host ifindex dump = some ((addresses6 ifindex dump).find? (Global ·))

theorem addresses6_cons (here : OfInterface afInet6 ifindex ifa) (carried : in6Addr ifa = some addr) :
    addresses6 ifindex (ifa :: dump) = addr :: addresses6 ifindex dump := by
  simp [addresses6, here, carried]

theorem addresses6_skip (elsewhere : ¬ OfInterface afInet6 ifindex ifa) :
    addresses6 ifindex (ifa :: dump) = addresses6 ifindex dump := by
  simp [addresses6, elsewhere]

/-- What the loop reads before it returns does not change what it returns. -/
theorem global_get_of_read (read : ipaddr6GlobalRead host ifindex dump = some found) :
    ipaddr6GlobalGet host ifindex dump = found := by
  induction dump with
  | nil => exact Option.some.inj read
  | cons ifa rest ih =>
    by_cases here : OfInterface afInet6 ifindex ifa
    · rw [ipaddr6GlobalRead, if_pos here] at read
      rw [ipaddr6GlobalGet, if_pos here]
      cases carried : ifaAddr ifa with
      | none => simp [carried] at read
      | some data =>
        rw [carried, Option.map_some] at read
        rw [ifaAddr] at carried
        simp only [carried, Option.getD_some]
        simp only at read
        by_cases skipped : skipsAddr host (in6OfBytes data) = true
        · rw [if_pos skipped] at read ⊢
          exact ih read
        · rw [if_neg skipped] at read ⊢
          exact Option.some.inj read
    · rw [ipaddr6GlobalRead, if_neg here] at read
      rw [ipaddr6GlobalGet, if_neg here]
      exact ih read

/-- A signed `char` is never 254 or 255, so nothing is skipped. -/
theorem signed_never_skips (signed : host.charSigned = true) (addr : In6Addr) :
    skipsAddr host addr = false := by
  have small (byte : UInt8) : charValue host byte < 128 := by
    have bound : byte.toNat < 256 := byte.toNat_lt
    simp only [charValue, signed, true_and]
    split <;> omega
  have first := small addr[0]
  have fe : charValue host addr[0] ≠ 0xfe := by omega
  have ff : charValue host addr[0] ≠ 0xff := by omega
  simp [skipsAddr, fe, ff]

/-- An unsigned one makes the test the one that is meant. -/
theorem unsigned_skips (unsigned : host.charSigned = false) (addr : In6Addr) :
    skipsAddr host addr = true ↔ ¬ Global addr := by
  have number (byte : UInt8) : charValue host byte = byte.toNat := by simp [charValue, unsigned]
  have byte (i : Nat) (short : i < 16) (value : UInt8) :
      addr[i]? = some value ↔ addr[i].toNat = value.toNat := by
    rw [Vector.getElem?_eq_getElem short, Option.some.injEq, UInt8.toNat_inj]
  have fe := byte 0 (by decide) 0xfe
  have link := byte 1 (by decide) 0x80
  have ff := byte 0 (by decide) 0xff
  simp only [skipsAddr, number, Bool.or_eq_true, Bool.and_eq_true, beq_iff_eq, Global, not_not, fe, link, ff]
  simp only [UInt8.reduceToNat]
  omega

/-- So where `char` is unsigned the search is right. -/
theorem unsigned_finds_global (unsigned : host.charSigned = false) (ifindex : Int)
    (addressed : Addressed afInet6 dump) : FindsGlobal host ifindex dump := by
  unfold FindsGlobal
  induction dump with
  | nil => rfl
  | cons ifa rest ih =>
    have later := ih fun other member => addressed other (List.mem_cons_of_mem _ member)
    by_cases here : OfInterface afInet6 ifindex ifa
    · obtain ⟨data, carried⟩ := Option.isSome_iff_exists.mp (addressed ifa List.mem_cons_self here.1)
      have read : in6Addr ifa = some (in6OfBytes data) := by rw [in6Addr, carried, Option.map_some]
      rw [ipaddr6GlobalRead, if_pos here, carried, addresses6_cons here read]
      change (if skipsAddr host (in6OfBytes data) then _ else _) = _
      by_cases global : Global (in6OfBytes data)
      · have kept : ¬ skipsAddr host (in6OfBytes data) = true :=
          fun skipped => (unsigned_skips unsigned _).mp skipped global
        rw [if_neg kept, List.find?_cons_of_pos (p := (Global ·)) (decide_eq_true global)]
      · rw [if_pos ((unsigned_skips unsigned _).mpr global),
          List.find?_cons_of_neg (p := (Global ·)) (mt of_decide_eq_true global)]
        exact later
    · rw [ipaddr6GlobalRead, if_neg here, addresses6_skip here]
      exact later

/-- Where `char` is signed, the first entry of the interface is taken, so the
search is right exactly if that entry is global, or there is none. -/
theorem finds_global_iff_first_global (host : Host) (signed : host.charSigned = true) (ifindex : Int)
    (dump : List AddrMsg) :
    FindsGlobal host ifindex dump ↔
      ∀ first, dump.find? (OfInterface afInet6 ifindex ·) = some first →
        ∃ addr, in6Addr first = some addr ∧ Global addr := by
  unfold FindsGlobal
  induction dump with
  | nil => simp [ipaddr6GlobalRead, addresses6]
  | cons ifa rest ih =>
    by_cases here : OfInterface afInet6 ifindex ifa
    · rw [ipaddr6GlobalRead, if_pos here,
        List.find?_cons_of_pos (p := (OfInterface afInet6 ifindex ·)) (decide_eq_true here)]
      simp only [Option.some.injEq, forall_eq']
      cases read : in6Addr ifa with
      | none =>
        rw [in6Addr] at read
        simp [read]
      | some addr =>
        rw [addresses6_cons here read]
        rw [in6Addr] at read
        simp only [read, signed_never_skips signed, Bool.false_eq_true, if_false, Option.some.injEq,
          exists_eq_left']
        constructor
        · intro same
          exact of_decide_eq_true (List.find?_some (p := (Global ·)) same.symm)
        · intro global
          rw [List.find?_cons_of_pos (p := (Global ·)) (decide_eq_true global)]
    · rw [ipaddr6GlobalRead, if_neg here, addresses6_skip here,
        List.find?_cons_of_neg (p := (OfInterface afInet6 ifindex ·)) (mt of_decide_eq_true here)]
      exact ih

theorem global_entry_found_first :
    FindsGlobal littleHost 2 [globalEntry, linkLocalEntry] ↔
      ∀ first, [globalEntry, linkLocalEntry].find? (OfInterface afInet6 2 ·) = some first →
        ∃ addr, in6Addr first = some addr ∧ Global addr :=
  finds_global_iff_first_global littleHost rfl 2 [globalEntry, linkLocalEntry]

/-- A link-local address in front is taken for a global one. -/
theorem link_local_taken : ¬ FindsGlobal littleHost 2 [linkLocalEntry, globalEntry] := by
  unfold FindsGlobal
  decide

end Portproxy.AddressCollection
