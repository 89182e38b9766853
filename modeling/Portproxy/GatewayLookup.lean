import Mathlib.Data.List.Basic
import Portproxy.CommandLine

/-! The default gateway in a routing table. The kernel writes a line of columns
for each route; the lookup reads the destination and the gateway, and takes every
route to destination 0 for a default route, whatever its mask. -/
namespace Portproxy.GatewayLookup
open HostOrder

/-- A column of a line: a word with blanks in front of it. -/
structure Column where
  gap : List UInt8
  word : List UInt8
  gapped : gap ≠ []
  blank : ∀ c ∈ gap, isspace c = true ∧ c ≠ 10
  solid : ∀ c ∈ word, isspace c = false ∧ c ≠ 0

/-- A column with a number of 32 bits. -/
structure HexColumn extends Column where
  nonempty : word ≠ []
  hex : ∀ c ∈ word, (digitValue 16 c).isSome
  fits : numeral 16 (word.filterMap (digitValue 16)) < 2 ^ 32

def Column.text (column : Column) : List UInt8 := column.gap ++ column.word

def HexColumn.value (column : HexColumn) : Nat := numeral 16 (column.word.filterMap (digitValue 16))

/-- What the kernel writes for a route, up to the columns it adds behind. -/
structure RouteColumns where
  iface : List UInt8
  destination : HexColumn
  gateway : HexColumn
  flags : Column
  refcnt : Column
  use : Column
  metric : Column
  mask : HexColumn
  behind : List UInt8

namespace RouteColumns

/-- The columns from the flags on. -/
def last (line : RouteColumns) : List UInt8 :=
  line.flags.text ++ line.refcnt.text ++ line.use.text ++ line.metric.text ++ line.mask.text ++ line.behind

def text (line : RouteColumns) : List UInt8 :=
  line.iface ++ line.destination.text ++ line.gateway.text ++ line.last

/-- The address in the gateway column, which is the number in memory. -/
def gatewayAddr (host : Host) (line : RouteColumns) : InAddr := .ofBytes (host.order.store 4 line.gateway.value)

end RouteColumns

/-- A line that fits the buffer. -/
structure RouteLine extends RouteColumns where
  solid : ∀ c ∈ iface, isspace c = false ∧ c ≠ 0
  separate : ∀ c, behind.head? = some c → isspace c = true
  oneLine : 10 ∉ behind
  short : toRouteColumns.text.length < 255

/-- The content of `/proc/net/route`. -/
structure RouteFile where
  header : List UInt8
  lines : List RouteLine
  headerLine : 10 ∉ header
  headerShort : header.length < 255

namespace RouteFile

def text (file : RouteFile) : List UInt8 :=
  file.header ++ 10 :: file.lines.flatMap fun line => line.text ++ [10]

/-- The gateway of the first route to destination 0 with mask 0. -/
def defaultGateway (host : Host) (file : RouteFile) : InAddr :=
  ((file.lines.find? fun line => line.destination.value = 0 ∧ line.mask.value = 0).map
    fun line => line.gatewayAddr host).getD {}

end RouteFile

/-! ## Lines -/

/-- A line that leaves room for the terminating zero is read whole. -/
theorem fgets_line (line rest : List UInt8) (clean : 10 ∉ text) (short : line.length + text.length + 2 ≤ size) :
    fgetsLines size line (text ++ 10 :: rest) = (line.reverse ++ text ++ [10]) :: fgetsLines size [] rest := by
  induction text generalizing line with
  | nil => simp [fgetsLines]
  | cons c text ih =>
    simp only [List.mem_cons, not_or] at clean
    simp only [List.length_cons] at short
    have within : ¬ (c = 10 ∨ line.length + 2 = size) := by
      rintro (rfl | full)
      · exact clean.1 rfl
      · omega
    have later := ih (c :: line) clean.2 (by simp only [List.length_cons]; omega)
    rw [List.cons_append, fgetsLines, if_neg within, later]
    simp

theorem blank_not_zero (blank : isspace c = true) : c ≠ 0 := by
  rintro rfl
  revert blank
  decide

theorem solid_not_newline (solid : isspace c = false) : c ≠ 10 := by
  rintro rfl
  revert solid
  decide

theorem column_text (column : Column) : ∀ c ∈ column.text, c ≠ 10 ∧ c ≠ 0 := by
  intro c member
  rcases List.mem_append.mp member with inGap | inWord
  · exact ⟨(column.blank c inGap).2, blank_not_zero (column.blank c inGap).1⟩
  · exact ⟨solid_not_newline (column.solid c inWord).1, (column.solid c inWord).2⟩

theorem column_opens (column : Column) : ∃ b rest, column.text = b :: rest ∧ isspace b = true := by
  obtain ⟨b, more, opens⟩ := List.exists_cons_of_ne_nil column.gapped
  refine ⟨b, more ++ column.word, by rw [Column.text, opens, List.cons_append], ?_⟩
  exact (column.blank b (by simp [opens])).1

theorem line_clean (line : RouteLine) : 10 ∉ line.text := by
  have column (column : Column) : 10 ∉ column.text := fun member => (column_text column _ member).1 rfl
  have iface : 10 ∉ line.iface := fun member => solid_not_newline (line.solid _ member).1 rfl
  simp only [RouteColumns.text, RouteColumns.last, List.mem_append, not_or]
  exact ⟨⟨⟨iface, column _⟩, column _⟩,
    ⟨⟨⟨⟨column _, column _⟩, column _⟩, column _⟩, column _⟩, line.oneLine⟩

/-- The file is read line by line. -/
theorem fgets_file (file : RouteFile) :
    fgetsLines 256 [] file.text = (file.header ++ [10]) :: file.lines.map fun line => line.text ++ [10] := by
  have lines (lines : List RouteLine) :
      fgetsLines 256 [] (lines.flatMap fun line => line.text ++ [10]) = lines.map fun line => line.text ++ [10] := by
    induction lines with
    | nil => simp [fgetsLines]
    | cons line rest ih =>
      have short := line.short
      rw [List.flatMap_cons, List.append_assoc, List.singleton_append,
        fgets_line [] _ (line_clean line) (by simp only [List.length_nil]; omega), ih]
      simp
  have short := file.headerShort
  rw [RouteFile.text, fgets_line [] _ file.headerLine (by simp only [List.length_nil]; omega), lines]
  simp

/-- A number column is scanned up to the blank behind it, also where the blanks
in front have been passed over already. -/
theorem scan_column (wide : 32 ≤ longBits) (column : HexColumn) (ends : isspace b = true) (rest : List UInt8) :
    scanHex longBits (column.text ++ b :: rest) = some (column.value, b :: rest) ∧
      scanHex longBits ((column.text ++ b :: rest).dropWhile isspace) = some (column.value, b :: rest) := by
  have fits := lt_of_lt_of_le column.fits (Nat.pow_le_pow_right (by decide) wide)
  have blank : ∀ c ∈ column.gap, isspace c = true := fun c member => (column.blank c member).1
  refine ⟨scan_hex_word rest blank column.nonempty column.hex ends fits, ?_⟩
  have bare : ∀ c ∈ ([] : CString), isspace c = true := by simp
  have scanned := scan_hex_word rest bare column.nonempty column.hex ends fits
  obtain ⟨first, others, starts⟩ := List.exists_cons_of_ne_nil column.nonempty
  have solid : ¬ isspace first = true := by simp [column.solid first (by simp [starts])]
  have passed : (column.text ++ b :: rest).dropWhile isspace = column.word ++ b :: rest := by
    rw [Column.text, List.append_assoc, List.dropWhile_append_of_pos blank, starts, List.cons_append,
      List.dropWhile_cons_of_neg solid]
  rw [passed]
  exact scanned

/-- What is scanned behind the name are the destination and the gateway. -/
theorem route_numbers_line (wide : 32 ≤ longBits) (line : RouteLine) :
    routeNumbers longBits (line.text ++ [10]) = some (line.destination.value, line.gateway.value) := by
  obtain ⟨space, numbers, behindName, spaceBlank⟩ := column_opens line.destination.toColumn
  obtain ⟨starts, more, behindFirst, startsBlank⟩ := column_opens line.gateway.toColumn
  obtain ⟨ends, others, behindSecond, endsBlank⟩ := column_opens line.flags
  -- no zero stands in front of the flags
  obtain ⟨tail, cut⟩ : ∃ tail, (line.text ++ [10]).takeWhile (· ≠ 0) =
      line.iface ++ (line.destination.text ++ (line.gateway.text ++ ends :: tail)) := by
    have iface : ∀ c ∈ line.iface, decide (c ≠ 0) = true := fun c member =>
      decide_eq_true (line.solid c member).2
    have column (column : Column) : ∀ c ∈ column.text, decide (c ≠ 0) = true := fun c member =>
      decide_eq_true (column_text column c member).2
    have nonzero : decide (ends ≠ 0) = true := decide_eq_true (blank_not_zero endsBlank)
    simp only [RouteColumns.text, RouteColumns.last, behindSecond, List.append_assoc, List.cons_append]
    rw [List.takeWhile_append_of_pos iface, List.takeWhile_append_of_pos (column _),
      List.takeWhile_append_of_pos (column _), List.takeWhile_cons, if_pos nonzero]
    exact ⟨_, rfl⟩
  have named : (line.iface ++ (line.destination.text ++ (line.gateway.text ++ ends :: tail))).dropWhile
      (fun byte => !isspace byte) = line.destination.text ++ (line.gateway.text ++ ends :: tail) := by
    rw [List.dropWhile_append_of_pos fun c member => by simp [line.solid c member], behindName,
      List.cons_append, List.dropWhile_cons_of_neg (by simp [spaceBlank])]
  have first := (scan_column wide line.destination startsBlank (more ++ ends :: tail)).2
  have second := (scan_column wide line.gateway endsBlank tail).1
  rw [← List.cons_append, ← behindFirst] at first
  rw [routeNumbers]
  simp only [cut, named, first, second, Option.bind_some, Option.map_some]

/-! ## The lookup -/

/-- The route that is taken for the default route. -/
def chosen (file : RouteFile) : Option RouteLine := file.lines.find? (·.destination.value = 0)

theorem find_destination (wide : 32 ≤ longBits) (lines : List RouteLine) :
    (lines.map fun line => line.text ++ [10]).findSome? (fun buf =>
        (routeNumbers longBits buf).bind fun numbers => if numbers.1 = 0 then some numbers.2 else none) =
      (lines.find? (·.destination.value = 0)).map (·.gateway.value) := by
  induction lines with
  | nil => rfl
  | cons line rest ih =>
    rw [List.map_cons, List.findSome?_cons, route_numbers_line wide, Option.bind_some, ih]
    by_cases here : line.destination.value = 0 <;> simp [here]

theorem router_ip_chosen (host : Host) (wide : 32 ≤ longBits) (file : RouteFile) :
    defaultRouterIp host longBits (some file.text) =
      ((chosen file).map fun line => line.gatewayAddr host).getD {} := by
  have small (line : RouteLine) : line.gateway.value % 2 ^ 32 = line.gateway.value :=
    Nat.mod_eq_of_lt line.gateway.fits
  simp only [defaultRouterIp, fgets_file, List.drop_one, List.tail_cons]
  rw [find_destination wide, chosen, Option.map_map]
  simp only [Function.comp_def, small, RouteColumns.gatewayAddr]

/-- Without a mask, the route chosen is the first default route. -/
theorem default_of_chosen (host : Host) (found : chosen file = some first) (whole : first.mask.value = 0) :
    file.defaultGateway host = first.gatewayAddr host := by
  obtain ⟨zero, before, behind, split, others⟩ := List.find?_eq_some_iff_append.mp found
  have route : file.lines.find? (fun line => line.destination.value = 0 ∧ line.mask.value = 0) = some first := by
    refine List.find?_eq_some_iff_append.mpr ⟨by simpa [whole] using zero, before, behind, split, ?_⟩
    intro line member
    have elsewhere : ¬ line.destination.value = 0 := by simpa using others line member
    simp [elsewhere]
  rw [RouteFile.defaultGateway, route]
  rfl

theorem default_of_none (host : Host) (none : chosen file = none) : file.defaultGateway host = {} := by
  have absent : file.lines.find? (fun line => line.destination.value = 0 ∧ line.mask.value = 0) = Option.none := by
    simp only [chosen, List.find?_eq_none, decide_eq_true_eq] at none ⊢
    exact fun line member both => none line member both.1
  rw [RouteFile.defaultGateway, absent]
  rfl

/-- The lookup is right exactly if the first route to destination 0 is a default
route, or has the gateway of the first default route, which is none if there is
no default route. -/
theorem default_router_iff (host : Host) (wide : 32 ≤ longBits) (file : RouteFile) :
    defaultRouterIp host longBits (some file.text) = file.defaultGateway host ↔
      ∀ first, chosen file = some first →
        first.mask.value = 0 ∨ first.gatewayAddr host = file.defaultGateway host := by
  rw [router_ip_chosen host wide]
  cases found : chosen file with
  | none => simp [default_of_none host found]
  | some first =>
    simp only [Option.map_some, Option.getD_some, Option.some.injEq, forall_eq']
    exact ⟨.inr, fun either => either.elim (fun whole => (default_of_chosen host found whole).symm) id⟩

/-! ## A table with a tunnel -/

/-- A column behind a tab. -/
def tabbed (word : CString) (solid : word.all fun c => !isspace c && c != 0) : Column where
  gap := [9]
  word := word
  gapped := List.cons_ne_nil _ _
  blank := by
    rintro c member
    obtain rfl := List.mem_singleton.mp member
    decide
  solid c member := by simpa using List.all_eq_true.mp solid c member

def tabbedHex (word : CString) (solid : word.all fun c => !isspace c && c != 0) (nonempty : word ≠ [])
    (hex : word.all fun c => (digitValue 16 c).isSome)
    (fits : numeral 16 (word.filterMap (digitValue 16)) < 2 ^ 32) : HexColumn where
  toColumn := tabbed word solid
  nonempty := nonempty
  hex := List.all_eq_true.mp hex
  fits := fits

/-- 0.0.0.0. -/
def zeroColumn : HexColumn :=
  tabbedHex (List.replicate 8 48) (by decide) (by decide) (by decide) (by decide)

/-- 128.0.0.0, the mask of one half of all addresses. -/
def halfColumn : HexColumn :=
  tabbedHex (List.replicate 6 48 ++ [56, 48]) (by decide) (by decide) (by decide) (by decide)

/-- 10.8.0.1, the other end of the tunnel. -/
def tunnelColumn : HexColumn :=
  tabbedHex [48, 49, 48, 48, 48, 56, 48, 65] (by decide) (by decide) (by decide) (by decide)

/-- 192.0.2.1, the router. -/
def routerColumn : HexColumn :=
  tabbedHex [48, 49, 48, 50, 48, 48, 67, 48] (by decide) (by decide) (by decide) (by decide)

def digitColumn : Column := tabbed [48] (by decide)

/-- Through the tunnel goes one half of all addresses, and the rest to the router. -/
def tunnelRoute : RouteLine where
  iface := [116, 117, 110, 48]
  destination := zeroColumn
  gateway := tunnelColumn
  flags := digitColumn
  refcnt := digitColumn
  use := digitColumn
  metric := digitColumn
  mask := halfColumn
  behind := []
  solid := (tabbed [116, 117, 110, 48] (by decide)).solid
  separate c first := by cases first
  oneLine := List.not_mem_nil
  short := by decide

def defaultRoute : RouteLine where
  toRouteColumns :=
    { tunnelRoute.toRouteColumns with
      iface := [101, 116, 104, 48], gateway := routerColumn, mask := zeroColumn }
  solid := (tabbed [101, 116, 104, 48] (by decide)).solid
  separate c first := by cases first
  oneLine := List.not_mem_nil
  short := by decide

def tunnelTable : RouteFile where
  header := [73, 102, 97, 99, 101]
  lines := [tunnelRoute, defaultRoute]
  headerLine := by decide
  headerShort := by decide

theorem tunnel_table_iff :
    32 ≤ 64 ∧ (defaultRouterIp littleHost 64 (some tunnelTable.text) = tunnelTable.defaultGateway littleHost ↔
      ∀ first, chosen tunnelTable = some first →
        first.mask.value = 0 ∨ first.gatewayAddr littleHost = tunnelTable.defaultGateway littleHost) :=
  ⟨by decide, default_router_iff littleHost (by decide) tunnelTable⟩

/-- The other end of the tunnel is taken for the default gateway. -/
theorem tunnel_taken :
    defaultRouterIp littleHost 64 (some tunnelTable.text) = ⟨10, 8, 0, 1⟩ ∧
      defaultRouterIp littleHost 64 (some tunnelTable.text) ≠ tunnelTable.defaultGateway littleHost := by
  decide +kernel

end Portproxy.GatewayLookup
